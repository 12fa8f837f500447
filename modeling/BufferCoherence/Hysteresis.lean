import BufferCoherence.Settings

/-!
# Hysteresis of vertex conversion

A buffer whose layout keeps changing, or whose vertices keep being converted as a whole, stops
using a device object. Three counters decide: declaration changes and full conversions are counted
up to their limits, and enough quiet draws since the last declaration change forget them.
-/

namespace BufferCoherence

/-- The largest value a counter takes; it stays there. -/
def counterLimit : Nat := UInt32.size - 1

/-- A counter raised by one. -/
def raise (n : Nat) : Nat := min (n + 1) counterLimit

/-- The counters of one buffer. -/
structure Hysteresis where
  limits : HysteresisLimits
  declChanges : Nat
  draws : Nat
  fullConversions : Nat
deriving DecidableEq

/-- What the owner of a buffer has to do after an event. -/
inductive Verdict where
  | proceed
  /-- Converting stops, and the device object is given up for good. -/
  | dropObject
deriving DecidableEq

namespace Hysteresis

/-- Nothing counted. -/
def fresh (limits : HysteresisLimits) : Hysteresis := ⟨limits, 0, 0, 0⟩

/-- A draw that neither changed the declaration nor converted the whole buffer. -/
def countQuietDraw (h : Hysteresis) : Hysteresis :=
  let draws := raise h.draws
  { h with
    draws
    declChanges := if draws > h.limits.resetDeclChangeDraws then 0 else h.declChanges
    fullConversions :=
      if draws > h.limits.resetFullConversionDraws then 0 else h.fullConversions }

/-- What a count asks for, given the largest one that is tolerated. -/
def verdict (count limit : Nat) : Verdict :=
  if count > limit then .dropObject else .proceed

/-- The declaration changed; the count of quiet draws starts over. -/
def countDeclaration (h : Hysteresis) : Verdict × Hysteresis :=
  let declChanges := raise h.declChanges
  (verdict declChanges h.limits.maxDeclChanges, { h with declChanges, draws := 0 })

/-- The whole buffer is converted again, with the same declaration. -/
def countConversion (h : Hysteresis) : Verdict × Hysteresis :=
  let fullConversions := raise h.fullConversions
  (verdict fullConversions h.limits.maxFullConversions, { h with fullConversions })

end Hysteresis

end BufferCoherence
