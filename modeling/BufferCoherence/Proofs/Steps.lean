import BufferCoherence.Buffer.Storage
import Mathlib.Order.Defs.Unbundled

/-!
# What a step leads to

A program logic for steps and attempts. `Step.wp s x j Q` says that `s`, begun in state `x` with
journal `j`, ends where `Q` holds; `Attempt.wp` says the same of an attempt, whose answer is its
outcome. Every way to build a step has one rule, so that a proof walks through a definition the way
it is written:

* the rules are equivalences: nothing is lost by using them, and `simp` may;
* a failing attempt skips what follows (`Attempt.wp_bind`), and keeps its state;
* no step reads the journal that it writes. `Ends` speaks of every journal, and is the form in which
  the lemmas about one definition are stated and used (`Step.Ends.wp`, `Attempt.Ends.wp`);
* a relation that holds from wherever a definition begins to where it ends (`Step.Relates`,
  `Attempt.Relates`) is, where it is reflexive and transitive, one rule for each way to build it.
-/

namespace BufferCoherence

variable {σ τ α β : Type}

/-! ## 1. Steps -/

/-- The step, begun in `x` with journal `j`, ends where `Q` holds. -/
def Step.wp (s : Step σ α) (x : σ) (j : Journal) (Q : α → σ → Journal → Prop) : Prop :=
  Q (s x j).1.1 (s x j).1.2 (s x j).2

/-- The step, begun in `x`, ends where `P` holds, whatever the journal. -/
def Step.Ends (s : Step σ α) (x : σ) (P : α → σ → Prop) : Prop :=
  ∀ j, s.wp x j fun a y _ => P a y

namespace Step

section Rules

variable {x : σ} {j : Journal}

@[simp] theorem wp_pure (a : α) (Q : α → σ → Journal → Prop) :
    Step.wp (pure a : Step σ α) x j Q ↔ Q a x j := Iff.rfl

@[simp] theorem wp_bind (s : Step σ α) (f : α → Step σ β) (Q : β → σ → Journal → Prop) :
    Step.wp (s >>= f) x j Q ↔ s.wp x j fun a y k => (f a).wp y k Q := Iff.rfl

@[simp] theorem wp_get (Q : σ → σ → Journal → Prop) :
    Step.wp (get : Step σ σ) x j Q ↔ Q x x j := Iff.rfl

@[simp] theorem wp_set (y : σ) (Q : PUnit → σ → Journal → Prop) :
    Step.wp (set y : Step σ PUnit) x j Q ↔ Q ⟨⟩ y j := Iff.rfl

@[simp] theorem wp_modify (f : σ → σ) (Q : PUnit → σ → Journal → Prop) :
    Step.wp (modify f : Step σ PUnit) x j Q ↔ Q ⟨⟩ (f x) j := Iff.rfl

@[simp] theorem wp_note (n : Notice) (Q : Unit → σ → Journal → Prop) :
    Step.wp (liftM (note n) : Step σ Unit) x j Q ↔ Q () x (j.record n) := Iff.rfl

@[simp] theorem wp_noteAll (ns : List Notice) (Q : Unit → σ → Journal → Prop) :
    Step.wp (liftM (noteAll ns) : Step σ Unit) x j Q ↔ Q () x ((noteAll ns) j).2 := Iff.rfl

@[simp] theorem wp_ite (c : Prop) [Decidable c] (s t : Step σ α) (Q : α → σ → Journal → Prop) :
    Step.wp (if c then s else t) x j Q ↔ if c then s.wp x j Q else t.wp x j Q := by
  split <;> rfl

@[simp] theorem wp_onPart (get : σ → τ) (put : τ → σ → σ) (s : Step τ α)
    (Q : α → σ → Journal → Prop) :
    (Step.onPart get put s).wp x j Q ↔ s.wp (get x) j fun a y k => Q a (put y x) k := Iff.rfl

theorem wp.mono {s : Step σ α} {P Q : α → σ → Journal → Prop} (h : s.wp x j P)
    (hQ : ∀ a y k, P a y k → Q a y k) : s.wp x j Q :=
  hQ _ _ _ h

/-- What holds of every journal holds of the one at hand. -/
theorem Ends.wp {s : Step σ α} {P : α → σ → Prop} {Q : α → σ → Journal → Prop}
    (h : s.Ends x P) (hQ : ∀ a y k, P a y → Q a y k) : s.wp x j Q :=
  hQ _ _ _ (h j)

/-- What holds wherever a step may end holds where it does. -/
theorem wp_any {s : Step σ α} {Q : α → σ → Journal → Prop} (hQ : ∀ a y k, Q a y k) : s.wp x j Q :=
  hQ _ _ _

end Rules

theorem Ends.mono {s : Step σ α} {x : σ} {P Q : α → σ → Prop} (h : s.Ends x P)
    (hQ : ∀ a y, P a y → Q a y) : s.Ends x Q :=
  fun _ => h.wp fun a y _ => hQ a y

theorem Ends.and {s : Step σ α} {x : σ} {P Q : α → σ → Prop} (h : s.Ends x P)
    (h' : s.Ends x Q) : s.Ends x fun a y => P a y ∧ Q a y :=
  fun j => ⟨h j, h' j⟩

/-- What is answered in the end has no part in where it ends. -/
theorem Ends.answering {s : Step σ α} {x : σ} {P : σ → Prop} (h : s.Ends x fun _ y => P y) (b : β) :
    Step.Ends (s >>= fun _ => Pure.pure b) x fun _ y => P y := fun j => by
  rw [wp_bind]
  exact h.wp fun _ _ _ hy => hy

theorem Ends.discarding {s : Step σ α} {x : σ} {P : σ → Prop} (h : s.Ends x fun _ y => P y) :
    Step.Ends (Functor.discard s) x fun _ y => P y := fun j => h j

/-- What holds wherever the step ends holds where it ended. -/
theorem Ends.of_run {s : Step σ α} {x y : σ} {a : α} {j k : Journal} {P : α → σ → Prop}
    (h : s.Ends x P) (hrun : s x j = ((a, y), k)) : P a y := by
  have hj := h j
  unfold Step.wp at hj
  rw [hrun] at hj
  exact hj

/-- A step that answers nothing comes to an end and a journal. -/
theorem eq_end (s : Step σ Unit) (x : σ) (j : Journal) :
    s x j = (((), (s x j).1.2), (s x j).2) := rfl

end Step

/-! ## 2. Attempts -/

/-- The attempt, begun in `x` with journal `j`, ends where `Q` holds. -/
def Attempt.wp (a : Attempt σ α) (x : σ) (j : Journal)
    (Q : Except Failure α → σ → Journal → Prop) : Prop := Step.wp a.run x j Q

/-- The attempt, begun in `x`, ends where `P` holds, whatever the journal. -/
def Attempt.Ends (a : Attempt σ α) (x : σ) (P : Except Failure α → σ → Prop) : Prop :=
  ∀ j, a.wp x j fun r y _ => P r y

/-- A failure is no answer. -/
theorem Failure.ne_ok (f : Failure) (a : α) : (Except.error f : Except Failure α) ≠ .ok a := nofun

/-- What is answered has not failed. -/
theorem Failure.not_failed {r : Except Failure α} {a : α} (h : r = .ok a) : ¬ ∃ f, r = .error f :=
  fun ⟨f, hf⟩ => ne_ok f a (hf.symm.trans h)

namespace Attempt

section Rules

variable {x : σ} {j : Journal}

@[simp] theorem wp_pure (a : α) (Q : Except Failure α → σ → Journal → Prop) :
    Attempt.wp (pure a : Attempt σ α) x j Q ↔ Q (.ok a) x j := Iff.rfl

@[simp] theorem wp_throw (f : Failure) (Q : Except Failure α → σ → Journal → Prop) :
    Attempt.wp (throw f : Attempt σ α) x j Q ↔ Q (.error f) x j := Iff.rfl

/-- A failure skips what follows. -/
@[simp] theorem wp_bind (a : Attempt σ α) (f : α → Attempt σ β)
    (Q : Except Failure β → σ → Journal → Prop) :
    Attempt.wp (a >>= f) x j Q ↔ a.wp x j fun r y k =>
      match r with
      | .ok v => (f v).wp y k Q
      | .error e => Q (.error e) y k := by
  have h : (a >>= f).run x j = match (a.run x j) with
      | ((.ok v, y), k) => (f v).run y k
      | ((.error e, y), k) => ((.error e, y), k) := by
    show (a.run >>= fun r => ExceptT.bindCont f r) x j = _
    show ExceptT.bindCont f (a.run x j).1.1 (a.run x j).1.2 (a.run x j).2 = _
    rcases a.run x j with ⟨⟨v | e, y⟩, k⟩ <;> rfl
  unfold Attempt.wp Step.wp
  rw [h]
  rcases a.run x j with ⟨⟨v | e, y⟩, k⟩ <;> rfl

@[simp] theorem wp_get (Q : Except Failure σ → σ → Journal → Prop) :
    Attempt.wp (get : Attempt σ σ) x j Q ↔ Q (.ok x) x j := Iff.rfl

@[simp] theorem wp_set (y : σ) (Q : Except Failure PUnit → σ → Journal → Prop) :
    Attempt.wp (set y : Attempt σ PUnit) x j Q ↔ Q (.ok ⟨⟩) y j := Iff.rfl

@[simp] theorem wp_modify (f : σ → σ) (Q : Except Failure PUnit → σ → Journal → Prop) :
    Attempt.wp (modify f : Attempt σ PUnit) x j Q ↔ Q (.ok ⟨⟩) (f x) j := Iff.rfl

@[simp] theorem wp_note (n : Notice) (Q : Except Failure Unit → σ → Journal → Prop) :
    Attempt.wp (liftM (note n) : Attempt σ Unit) x j Q ↔ Q (.ok ()) x (j.record n) := Iff.rfl

@[simp] theorem wp_noteAll (ns : List Notice) (Q : Except Failure Unit → σ → Journal → Prop) :
    Attempt.wp (liftM (noteAll ns) : Attempt σ Unit) x j Q ↔ Q (.ok ()) x ((noteAll ns) j).2 :=
  Iff.rfl

@[simp] theorem wp_refuse (source : Source) (f : Failure)
    (Q : Except Failure α → σ → Journal → Prop) :
    Attempt.wp (refuse source f : Attempt σ α) x j Q ↔
      Q (.error f) x (j.record (.failed source f)) := Iff.rfl

@[simp] theorem wp_always (s : Step σ α) (Q : Except Failure α → σ → Journal → Prop) :
    Attempt.wp (always s) x j Q ↔ s.wp x j fun a y k => Q (.ok a) y k := Iff.rfl

@[simp] theorem wp_answer (r : Except Failure α) (Q : Except Failure α → σ → Journal → Prop) :
    Attempt.wp (answer r : Attempt σ α) x j Q ↔ Q r x j := Iff.rfl

@[simp] theorem wp_ite (c : Prop) [Decidable c] (a b : Attempt σ α)
    (Q : Except Failure α → σ → Journal → Prop) :
    Attempt.wp (if c then a else b) x j Q ↔ if c then a.wp x j Q else b.wp x j Q := by
  split <;> rfl

@[simp] theorem wp_outcome (a : Attempt σ α) (Q : Except Failure α → σ → Journal → Prop) :
    Step.wp a.outcome x j Q ↔ a.wp x j Q := Iff.rfl

@[simp] theorem wp_onPart (get : σ → τ) (put : τ → σ → σ) (a : Attempt τ α)
    (Q : Except Failure α → σ → Journal → Prop) :
    (Attempt.onPart get put a).wp x j Q ↔ a.wp (get x) j fun r y k => Q r (put y x) k := Iff.rfl

theorem wp.mono {a : Attempt σ α} {P Q : Except Failure α → σ → Journal → Prop}
    (h : a.wp x j P) (hQ : ∀ r y k, P r y k → Q r y k) : a.wp x j Q :=
  hQ _ _ _ h

/-- What holds of every journal holds of the one at hand. -/
theorem Ends.wp {a : Attempt σ α} {P : Except Failure α → σ → Prop}
    {Q : Except Failure α → σ → Journal → Prop} (h : a.Ends x P)
    (hQ : ∀ r y k, P r y → Q r y k) : a.wp x j Q :=
  hQ _ _ _ (h j)

/-- What holds wherever an attempt may end holds where it does. -/
theorem wp_any {a : Attempt σ α} {Q : Except Failure α → σ → Journal → Prop}
    (hQ : ∀ r y k, Q r y k) : a.wp x j Q := hQ _ _ _

end Rules

theorem Ends.mono {a : Attempt σ α} {x : σ} {P Q : Except Failure α → σ → Prop} (h : a.Ends x P)
    (hQ : ∀ r y, P r y → Q r y) : a.Ends x Q :=
  fun _ => h.wp fun r y _ => hQ r y

theorem Ends.and {a : Attempt σ α} {x : σ} {P Q : Except Failure α → σ → Prop} (h : a.Ends x P)
    (h' : a.Ends x Q) : a.Ends x fun r y => P r y ∧ Q r y :=
  fun j => ⟨h j, h' j⟩

/-- What holds wherever the attempt ends holds where it ended. -/
theorem Ends.of_run {a : Attempt σ α} {x y : σ} {r : Except Failure α} {j k : Journal}
    {P : Except Failure α → σ → Prop} (h : a.Ends x P) (hrun : a.run x j = ((r, y), k)) : P r y :=
  Step.Ends.of_run (s := a.run) h hrun

/-- What an attempt leads to, where it is known how it ends. -/
theorem wp_of_run {a : Attempt σ α} {x y : σ} {r : Except Failure α} {j k : Journal}
    {Q : Except Failure α → σ → Journal → Prop} (h : a.run x j = ((r, y), k)) :
    a.wp x j Q ↔ Q r y k := by
  unfold Attempt.wp Step.wp
  rw [h]

/-- What holds of every journal, with the run that ends so. -/
theorem Ends.wp_run {a : Attempt σ α} {x : σ} {j : Journal} {P : Except Failure α → σ → Prop}
    {Q : Except Failure α → σ → Journal → Prop} (h : a.Ends x P)
    (hQ : ∀ r y k, a.run x j = ((r, y), k) → P r y → Q r y k) : a.wp x j Q :=
  hQ _ _ _ rfl (h j)

/-- What is answered in the end has no part in where it ends. -/
theorem Ends.answering {a : Attempt σ α} {x : σ} {P : σ → Prop}
    (h : a.Ends x fun _ y => P y) (f : α → β) :
    (a >>= fun v => pure (f v)).Ends x fun _ y => P y := by
  intro j
  rw [wp_bind]
  refine h.wp fun r y k hy => ?_
  cases r with
  | error e => exact hy
  | ok v => exact hy

/-- Where an attempt succeeds, it ends the way its last part does. -/
theorem ends_bind_ok {a : Attempt σ α} {f : α → Attempt σ β} {P : β → σ → Prop}
    (h : ∀ v y, (f v).Ends y fun r z => ∀ b, r = .ok b → P b z) (x : σ) :
    (a >>= f).Ends x fun r z => ∀ b, r = .ok b → P b z := by
  intro j
  rw [wp_bind]
  refine wp.mono (P := fun _ _ _ => True) trivial fun r y k _ => ?_
  cases r with
  | error e => exact fun b hb => absurd hb (Failure.ne_ok _ _)
  | ok v => exact h v y k

/-- An attempt that has no answer fails, and comes to an end and a journal. -/
theorem eq_end_of_error (a : Attempt σ α) (x : σ) (j : Journal)
    (h : (a.run x j).1.1.toOption = none) :
    ∃ f, a.run x j = ((.error f, (a.run x j).1.2), (a.run x j).2) := by
  cases hr : (a.run x j).1.1 with
  | error f => exact ⟨f, Prod.ext (Prod.ext hr rfl) rfl⟩
  | ok v =>
    rw [hr] at h
    cases h

/-- An attempt that has no answer fails, somewhere. -/
theorem eq_error (a : Attempt σ α) (x : σ) (j : Journal)
    (h : (a.run x j).1.1.toOption = none) : ∃ f y k, a.run x j = ((.error f, y), k) := by
  obtain ⟨f, hf⟩ := a.eq_end_of_error x j h
  exact ⟨f, _, _, hf⟩

/-- An attempt that has an answer comes to it, an end and a journal. -/
theorem eq_end_of_ok (a : Attempt σ α) (x : σ) (j : Journal) {v : α}
    (h : (a.run x j).1.1.toOption = some v) :
    a.run x j = ((.ok v, (a.run x j).1.2), (a.run x j).2) := by
  refine Prod.ext (Prod.ext ?_ rfl) rfl
  cases hr : (a.run x j).1.1 with
  | error f =>
    rw [hr] at h
    cases h
  | ok w =>
    rw [hr] at h
    cases h
    rfl

end Attempt

/-! ## 3. Relations between before and after -/

/-- From wherever the step begins, `R` holds to where it ends. -/
def Step.Relates (R : σ → σ → Prop) (p : Step σ α) : Prop := ∀ x, p.Ends x fun _ y => R x y

/-- From wherever the attempt begins, `R` holds to where it ends, whether it fails or not. -/
def Attempt.Relates (R : σ → σ → Prop) (a : Attempt σ α) : Prop := ∀ x, a.Ends x fun _ y => R x y

section Relates

variable {R S T : σ → σ → Prop}

namespace Step.Relates

variable {p q : Step σ α} {f : α → Step σ β}

theorem ite {c : Prop} [Decidable c] (hp : p.Relates R) (hq : q.Relates R) :
    Step.Relates R (if c then p else q) := by
  split
  · exact hp
  · exact hq

theorem outcome {a : Attempt σ α} (h : a.Relates R) : Step.Relates R a.outcome := h

theorem mono (h : p.Relates R) (hS : ∀ x y, R x y → S x y) : p.Relates S :=
  fun x => (h x).mono fun _ y => hS x y

/-- What comes of one relation after another. -/
theorem compose (hp : p.Relates R) (hf : ∀ a, (f a).Relates S)
    (hT : ∀ x y z, R x y → S y z → T x z) : Step.Relates T (p >>= f) := by
  intro x j
  rw [Step.wp_bind]
  exact (hp x).wp fun a y k hy => (hf a y).wp fun b z l hz => hT x y z hy hz

variable [IsPreorder σ R]

theorem pure (a : α) : Step.Relates R (Pure.pure a : Step σ α) := fun x _ => refl_of R x

theorem bind (hp : p.Relates R) (hf : ∀ a, (f a).Relates R) : Step.Relates R (p >>= f) :=
  compose hp hf fun _ _ _ => trans_of R

theorem note (n : Notice) :
    Step.Relates R (liftM (BufferCoherence.note n) : Step σ Unit) := fun x _ => refl_of R x

theorem noteAll (ns : List Notice) :
    Step.Relates R (liftM (BufferCoherence.noteAll ns) : Step σ Unit) := fun x _ => refl_of R x

theorem get : Step.Relates R (MonadState.get : Step σ σ) := fun x _ => refl_of R x

end Step.Relates

namespace Attempt.Relates

variable {a b : Attempt σ α} {f : α → Attempt σ β}

theorem ite {c : Prop} [Decidable c] (ha : a.Relates R) (hb : b.Relates R) :
    Attempt.Relates R (if c then a else b) := by
  split
  · exact ha
  · exact hb

theorem always {p : Step σ α} (h : p.Relates R) :
    Attempt.Relates R (BufferCoherence.always p) := h

theorem mono (h : a.Relates R) (hS : ∀ x y, R x y → S x y) : a.Relates S :=
  fun x => (h x).mono fun _ y => hS x y

/-- What comes of one relation and, unless the first attempt fails, another one after it. -/
theorem compose (ha : a.Relates R) (hf : ∀ v, (f v).Relates S) (hR : ∀ x y, R x y → T x y)
    (hT : ∀ x y z, R x y → S y z → T x z) : Attempt.Relates T (a >>= f) := by
  intro x j
  rw [Attempt.wp_bind]
  refine (ha x).wp fun r y k hy => ?_
  cases r with
  | error e => exact hR x y hy
  | ok v => exact (hf v y).wp fun r z l hz => hT x y z hy hz

variable [IsPreorder σ R]

theorem pure (x : α) : Attempt.Relates R (Pure.pure x : Attempt σ α) := fun y _ => refl_of R y

/-- From one state on. -/
theorem bind_at {x : σ} (ha : a.Ends x fun _ y => R x y) (hf : ∀ v, (f v).Relates R) :
    (a >>= f).Ends x fun _ y => R x y := by
  intro j
  rw [Attempt.wp_bind]
  refine ha.wp fun r y k hy => ?_
  cases r with
  | error e => exact hy
  | ok v => exact (hf v y).wp fun r z l hz => trans_of R hy hz

theorem bind (ha : a.Relates R) (hf : ∀ v, (f v).Relates R) : Attempt.Relates R (a >>= f) :=
  fun x => bind_at (ha x) hf

theorem throw (e : Failure) : Attempt.Relates R (MonadExcept.throw e : Attempt σ α) :=
  fun x _ => refl_of R x

theorem refuse (source : Source) (e : Failure) :
    Attempt.Relates R (BufferCoherence.refuse source e : Attempt σ α) := fun x _ => refl_of R x

theorem answer (r : Except Failure α) :
    Attempt.Relates R (BufferCoherence.answer r : Attempt σ α) := fun x _ => refl_of R x

theorem note (n : Notice) :
    Attempt.Relates R (liftM (BufferCoherence.note n) : Attempt σ Unit) := fun x _ => refl_of R x

theorem get : Attempt.Relates R (MonadState.get : Attempt σ σ) := fun x _ => refl_of R x

end Attempt.Relates

end Relates

/-! ## 4. Sites -/

namespace Site

variable {s : Site τ} {j : Journal}

@[simp] theorem wp_current (Q : Buffer → Site τ → Journal → Prop) :
    Step.wp Site.current s j Q ↔ Q s.buffer s j := Iff.rfl

@[simp] theorem wp_change (f : Buffer → Buffer) (Q : Unit → Site τ → Journal → Prop) :
    Step.wp (Site.change f) s j Q ↔ Q () { s with buffer := f s.buffer } j := Iff.rfl

@[simp] theorem wp_changeUsers (f : UserTable → UserTable) (Q : Unit → Site τ → Journal → Prop) :
    Step.wp (Site.changeUsers f) s j Q ↔
      Q () { s with machine.users := f s.machine.users } j := Iff.rfl

@[simp] theorem wp_onDevice (p : Step τ α) (Q : α → Site τ → Journal → Prop) :
    Step.wp (Site.onDevice p) s j Q ↔
      p.wp s.machine.device j fun a d k => Q a { s with machine.device := d } k := Iff.rfl

@[simp] theorem wp_tryDevice (p : Attempt τ α) (Q : Except Failure α → Site τ → Journal → Prop) :
    Attempt.wp (Site.tryDevice p) s j Q ↔
      p.wp s.machine.device j fun r d k => Q r { s with machine.device := d } k := Iff.rfl

@[simp] theorem wp_declareCurrent (l : Location) (Q : Unit → Site τ → Journal → Prop) :
    Step.wp (Site.declareCurrent l) s j Q ↔
      Q () { s with buffer := s.buffer.markValid l }
        (j.record (.locationsNow s.buffer.id (s.buffer.markValid l).locations)) := Iff.rfl

@[simp] theorem wp_declareStaleIn (l : Location) (offset size : Nat)
    (Q : Unit → Site τ → Journal → Prop) :
    Step.wp (Site.declareStaleIn l offset size) s j Q ↔
      Q () { s with buffer := s.buffer.markStale l offset size }
        (Site.declareStaleIn l offset size s j).2 := by
  have h : (Site.declareStaleIn l offset size).wp s j fun a y _ =>
      (a, y) = ((), { s with buffer := s.buffer.markStale l offset size }) := by
    unfold Site.declareStaleIn
    simp only [Step.wp_bind, wp_current, Step.wp_ite, Step.wp_noteAll, Step.wp_pure, wp_change,
      Step.wp_note, ite_self]
  show Q _ _ _ ↔ _
  rw [show (Site.declareStaleIn l offset size s j).1 = _ from h]

@[simp] theorem wp_declareStale (l : Location) (Q : Unit → Site τ → Journal → Prop) :
    Step.wp (Site.declareStale l) s j Q ↔
      Q () { s with buffer := s.buffer.markStale l 0 0 } (Site.declareStale l s j).2 :=
  wp_declareStaleIn l 0 0 Q

@[simp] theorem wp_markDirty (offset size : Nat) (Q : Unit → Site τ → Journal → Prop) :
    Step.wp (Site.markDirty offset size) s j Q ↔
      Q () { s with buffer := { s.buffer with dirty := s.buffer.dirty.mark offset size } }
        (Site.markDirty offset size s j).2 := Iff.rfl

@[simp] theorem wp_pinShadow (Q : Unit → Site τ → Journal → Prop) :
    Step.wp Site.pinShadow s j Q ↔ Q () { s with buffer := { s.buffer with pinned := true } } j :=
  Iff.rfl

@[simp] theorem wp_clearShadow (Q : Unit → Site τ → Journal → Prop) :
    Step.wp Site.clearShadow s j Q ↔
      Q () { s with buffer :=
        { s.buffer with shadow := s.buffer.shadow.map fun m => Bytes.zeros m.size } } j := Iff.rfl

end Site

end BufferCoherence
