import BufferCoherence.FlagSet.Catalogue

/-!
# Hazard tracking

A tracker remembers the uses that a buffer was last synchronised for. A barrier is due when a
writer follows readers, when readers follow a writer, and when a writer follows a writer; readers
that follow readers need none.
-/

namespace BufferCoherence

/-- The uses a buffer is synchronised for. -/
structure HazardTracker where
  uses : BindFlags
deriving DecidableEq

/-- A barrier to record: between the uses `source` and the uses `target`. -/
structure Transition where
  source : BindFlags
  target : BindFlags
deriving DecidableEq

namespace HazardTracker

/-- Synchronised for nothing. -/
def idle : HazardTracker := ⟨∅⟩

/-- A set of uses that may write, going by the named flags alone. -/
def writes (mask : BindFlags) : Bool := mask.meets BindFlags.readers.complement

/-- The uses that a request has to wait for. A writer waits for the readers since the last write,
    or else for whatever is tracked; a reader that is not tracked yet waits for the writers. -/
def awaited (t : HazardTracker) (mask : BindFlags) : BindFlags :=
  if writes mask then
    let readers := t.uses ∩ BindFlags.readers
    if readers.isEmpty then t.uses else readers
  else if !t.uses.has mask then t.uses \ BindFlags.readers
  else ∅

/-- The uses tracked after a request: a writer replaces them, a reader joins them. -/
def next (t : HazardTracker) (mask : BindFlags) : HazardTracker :=
  if writes mask then ⟨mask⟩
  else if !t.uses.has mask then ⟨t.uses ∪ mask⟩
  else t

/-- The barrier that a request asks for, if any. -/
def barrier? (t : HazardTracker) (mask : BindFlags) : Option Transition :=
  let source := t.awaited mask
  if source.isEmpty then none else some ⟨source, mask⟩

/-- One request: the barrier to record, and the tracker after it. -/
def request (t : HazardTracker) (mask : BindFlags) : Option Transition × HazardTracker :=
  (t.barrier? mask, t.next mask)

end HazardTracker

end BufferCoherence
