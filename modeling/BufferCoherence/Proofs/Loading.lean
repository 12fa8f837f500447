import BufferCoherence.Proofs.Coherent
import BufferCoherence.Proofs.Conversion

/-!
# What a load does to the copies

The copies of a buffer once its object is loaded, as a function of the copies before: the spans that
the object lacked come from the shadow (`Copies.source`), the object is current and lacks nothing,
and the shadow goes away where it is superfluous (`Copies.loaded`).

* `Copies.loadedFrom_loaded` lists what the load leaves as it is;
* `Coherent.loaded`: the content stays what it is, and the object holds it unless its vertices are
  converted.
-/

namespace BufferCoherence

/-! ## 1. The copies after a load -/

namespace Copies

/-- What is loaded into the object: the content, or the content with vertices converted. -/
def source (v : Copies) (map : Option ConversionMap) (c : ByteArray) : ByteArray :=
  match map with
  | some m => m.convert c v.dirty.spans
  | none => c

/-- The copies once the object is filled with `new`, the content being `c`. -/
def filled (v : Copies) (converted : Bool) (c new : ByteArray) : Copies :=
  if converted then { v.mirrored c with pinned := true, held := some new }
  else { v with shadow := some c, held := some new }

/-- The copies without a shadow, unless it must stay. -/
def released (v : Copies) : Copies :=
  if v.pinned then v else { v with shadow := none, locations := v.locations \ Location.sysmem }

theorem released_of_pinned {v : Copies} (h : v.pinned = true) : v.released = v := if_pos h

theorem released_of_not_pinned {v : Copies} (h : v.pinned = false) : v.released =
    { v with shadow := none, locations := v.locations \ Location.sysmem } :=
  if_neg fun ht => Bool.false_ne_true (h.symm.trans ht)

/-- The copies once the object is current; the shadow stays where the content changes often. -/
def loaded (v : Copies) (converted dynamic : Bool) (c new : ByteArray) : Copies :=
  if dynamic then (v.filled converted c new).markValid Location.gpuObject
  else ((v.filled converted c new).markValid Location.gpuObject).released

/-- A load leaves the same object, current and lacking nothing, and the same content of host. -/
structure LoadedFrom (v w : Copies) (converted : Bool) (c new : ByteArray) : Prop where
  size : w.size = v.size
  object : w.object = v.object
  held : w.held = some new
  dirty : w.dirty = v.dirty.clear
  objectAllowed : w.objectAllowed = v.objectAllowed
  kind : w.kind = v.kind
  pinned : w.pinned = (v.pinned || converted)
  current : w.locations.has Location.gpuObject = true
  cleared : w.locations.has Location.cleared = v.locations.has Location.cleared

theorem loadedFrom_filled (v : Copies) (converted : Bool) (c new : ByteArray) :
    LoadedFrom v ((v.filled converted c new).markValid Location.gpuObject) converted c new := by
  rw [markValid_gpuObject]
  cases converted with
  | false => exact ⟨rfl, rfl, rfl, rfl, rfl, rfl, (Bool.or_false _).symm, by simp [filled],
      by simp [filled]⟩
  | true => exact ⟨rfl, rfl, rfl, rfl, rfl, rfl, (Bool.or_true _).symm, by simp [filled],
      by simp [filled, mirrored]⟩

theorem loadedFrom_loaded (v : Copies) (converted dynamic : Bool) (c new : ByteArray) :
    LoadedFrom v (v.loaded converted dynamic c new) converted c new := by
  have h := loadedFrom_filled v converted c new
  unfold loaded
  cases dynamic with
  | true => exact h
  | false =>
    rw [if_neg Bool.false_ne_true]
    cases hp : ((v.filled converted c new).markValid Location.gpuObject).pinned with
    | true =>
      rw [released_of_pinned hp]
      exact h
    | false =>
      rw [released_of_not_pinned hp]
      exact ⟨h.size, h.object, h.held, h.dirty, h.objectAllowed, h.kind, h.pinned,
        by simp [h.current], by simp [h.cleared]⟩

/-- Behind converted vertices the shadow stays, and is current. -/
theorem current_loaded_converted (v : Copies) (dynamic : Bool) (c new : ByteArray) :
    (v.loaded true dynamic c new).locations.has Location.sysmem = true := by
  have hl : v.loaded true dynamic c new =
      (v.filled true c new).markValid Location.gpuObject := by
    unfold loaded
    rw [released_of_pinned rfl, ite_self]
  rw [hl, markValid_gpuObject]
  simp [filled, mirrored]

end Copies

/-! ## 2. The content after a load -/

namespace Coherent

variable {k : Bool} {c old new : ByteArray} {v : Copies}

/-- The object that is declared current has the content, or its converted vertices are backed by
    the shadow. -/
theorem markValid_gpuObject (h : Coherent k c v) (hobj : v.object.isSome = true)
    (hheld : k = false → v.held = some c)
    (hk : k = true → v.locations.has Location.sysmem = true) :
    Coherent k c (v.markValid Location.gpuObject) := by
  rw [Copies.markValid_gpuObject]
  refine { h with
    spans := DirtySpans.Fits.clear _
    kept := by simp [h.kept]
    somewhere := .inr (.inl (by simp))
    cleared := fun hc => h.cleared (by simpa using hc)
    mirrored := fun hs => h.mirrored (by simpa using hs)
    present := fun _ => hobj
    current := fun _ hks => ?_
    stale := fun b _ hg => by simp at hg }
  cases k with
  | false => exact hheld rfl
  | true =>
    have := hks rfl
    simp [hk rfl] at this

/-- The shadow may go where the object has the content. -/
theorem released (h : Coherent k c v) (hg : v.locations.has Location.gpuObject = true)
    (hk : k = true → v.pinned = true) : Coherent k c v.released := by
  cases hp : v.pinned with
  | true =>
    rw [Copies.released_of_pinned hp]
    exact h
  | false =>
    rw [Copies.released_of_not_pinned hp]
    have hk' : k = false := by
      cases k with
      | false => rfl
      | true => exact absurd (hk rfl) (by rw [hp]; exact Bool.false_ne_true)
    subst hk'
    refine { h with
      kept := by simp [h.kept]
      somewhere := .inr (.inl (by simp [hg]))
      shadow := nofun
      pinned := fun ht => absurd (hp.symm.trans ht) Bool.false_ne_true
      cleared := fun hc => h.cleared (by simpa using hc)
      mirrored := fun hs => by simp at hs
      present := fun _ => h.present hg
      current := fun _ _ => h.current hg nofun
      stale := fun b _ hg' => by simp [hg] at hg' }

/-- What was overlaid with the content in the dirty spans of a stale object is the content. -/
theorem overlaid_eq (h : Coherent false c v) (hold : v.held = some old)
    (hg : v.locations.has Location.gpuObject = false) (hkind : v.kind ≠ .noObject)
    (hnew : Overlaid v.dirty.spans c old new) : new = c := by
  refine Bytes.ext fun i => ?_
  rw [hnew.2 i]
  by_cases hi : CoveredBy v.dirty.spans i
  · rw [if_pos hi]
  · rw [if_neg hi]
    exact h.stale old hold hg rfl hkind i hi

/-- **A load keeps the copies coherent**; afterwards the object may hold converted vertices exactly
    where there is a conversion map. -/
theorem loaded {map : Option ConversionMap} (h : Coherent k c v) (hk : k = true → map.isSome = true)
    (hg : v.locations.has Location.gpuObject = false) (hobj : v.object.isSome = true)
    (hkind : v.kind ≠ .noObject) (hold : v.held = some old)
    (hnew : Overlaid v.dirty.spans (v.source map c) old new) (dynamic : Bool) :
    Coherent map.isSome c (v.loaded map.isSome dynamic c new) := by
  have hroom := h.room_of_object hobj
  obtain ⟨a, ha⟩ := Option.isSome_iff_exists.mp hobj
  obtain ⟨hoff, b, hb, hsize, -⟩ := h.object a ha
  have hnsize : new.size = v.size := by
    rw [hnew.1, Option.some.inj (hold.symm.trans hb), hsize]
  suffices hfill : Coherent map.isSome c
      ((v.filled map.isSome c new).markValid Location.gpuObject) by
    unfold Copies.loaded
    split
    · exact hfill
    · have hl := Copies.loadedFrom_filled v map.isSome c new
      refine hfill.released hl.current fun hm => ?_
      rw [hl.pinned, hm, Bool.or_true]
  cases map with
  | none =>
    have hk' : k = false := by
      cases k with
      | false => rfl
      | true => exact absurd (hk rfl) (by rw [Option.isSome_none]; exact Bool.false_ne_true)
    subst hk'
    have hc : new = c := h.overlaid_eq hold hg hkind hnew
    subst hc
    refine markValid_gpuObject ?_ hobj (fun _ => rfl) nofun
    exact { h with
      shadow := fun m hm => by
        cases hm
        exact ⟨h.size, hroom⟩
      pinned := fun _ => rfl
      mirrored := fun _ => rfl
      object := fun a ha => ⟨(h.object a ha).1, _, rfl, h.size, hroom⟩
      held := fun b hb => by
        cases hb
        exact h.size
      current := fun _ _ => rfl
      stale := fun b hb _ _ _ i _ => by cases hb; rfl }
  | some m =>
    refine markValid_gpuObject ?_ hobj nofun fun _ => by simp [Copies.filled, Copies.mirrored]
    have hm : Coherent true c (v.mirrored c) := (h.of_le fun _ => rfl).mirror hroom
    refine { hm with
      pinned := fun _ => rfl
      object := fun a ha => ⟨(h.object a ha).1, _, rfl, hnsize, hroom⟩
      held := fun b hb => by
        cases hb
        exact hnsize
      present := fun _ => hobj
      current := fun hg' => by simp [Copies.filled, Copies.mirrored, hg] at hg'
      stale := fun b hb _ hk' => nomatch hk' }

end Coherent

end BufferCoherence
