import BufferCoherence.Proofs.Steps
import BufferCoherence.Ring

/-!
# The steps of a ring

The rules of the program logic for the steps of a ring, and its mapping in two parts: a ring that is
too small grows first (`RingSite.enlarge`), and then it has room for the region
(`RingSite.mapFitting`).
-/

namespace BufferCoherence.RingSite

variable {δ α : Type} {s : RingSite δ} {j : Journal}

/-! ## 1. Rules -/

theorem wp_onBuffer (p : Step (Site δ) α) (Q : Option α → RingSite δ → Journal → Prop) :
    (onBuffer p).wp s j Q ↔ match s.ring.buffer with
      | none => Q none s j
      | some b => p.wp ⟨b, s.machine⟩ j fun a t k =>
          Q (some a) ⟨{ s.ring with buffer := some t.buffer }, t.machine⟩ k := by
  unfold onBuffer
  simp only [Step.wp_bind, Step.wp_get]
  cases s.ring.buffer with
  | none => exact Iff.rfl
  | some b => exact Iff.rfl

@[simp] theorem wp_current (Q : Ring → RingSite δ → Journal → Prop) :
    Step.wp RingSite.current s j Q ↔ Q s.ring s j := Iff.rfl

@[simp] theorem wp_change (f : Ring → Ring) (Q : Unit → RingSite δ → Journal → Prop) :
    Step.wp (RingSite.change f) s j Q ↔ Q () { s with ring := f s.ring } j := Iff.rfl

@[simp] theorem wp_onMachine (a : Attempt (Machine δ) α)
    (Q : Except Failure α → RingSite δ → Journal → Prop) :
    Attempt.wp (RingSite.onMachine a) s j Q ↔
      a.wp s.machine j fun r m k => Q r { s with machine := m } k := Iff.rfl

@[simp] theorem wp_discard (p : Step (RingSite δ) α) (Q : Unit → RingSite δ → Journal → Prop) :
    Step.wp (Functor.discard p) s j Q ↔ p.wp s j fun _ t k => Q () t k := Iff.rfl

@[simp] theorem wp_discard_always (p : Step (RingSite δ) α)
    (Q : Except Failure Unit → RingSite δ → Journal → Prop) :
    Attempt.wp (Functor.discard (always p)) s j Q ↔ p.wp s j fun _ t k => Q (.ok ()) t k := Iff.rfl

/-! ## 2. Mapping in two parts -/

variable [Device δ]

/-- The last steps of a mapping: a region that the ring has room for. -/
def mapFitting (size stride : Nat) : Attempt (RingSite δ) RingRegion := do
  let r ← always current
  let (position, policy) := r.place size stride
  let mapping ← mapPlaced position size policy
  note (.ringMapped size position policy)
  always (change fun r => { r with position := position + size, mapped := true })
  pure ⟨position, policy, mapping⟩

theorem map_eq (size stride : Nat) : (map size stride : Attempt (RingSite δ) RingRegion) = (do
    let r ← always current
    if r.mapped then refuse .streaming .ringMapped
    else if size = 0 then refuse .streaming .emptyRequest
    else
      if r.capacity < size then enlarge (r.grownSize size)
      mapFitting size stride) := rfl

end BufferCoherence.RingSite
