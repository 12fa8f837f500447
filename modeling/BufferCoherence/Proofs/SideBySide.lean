import BufferCoherence.Proofs.Steps

/-!
# Two runs side by side

A program logic for two runs of one program, on states of two kinds. `Step.wp₂ s t x j y k Q` says
that `s`, begun in `x` with journal `j`, and `t`, begun in `y` with journal `k`, end where `Q` holds
of both; `Attempt.wp₂` says the same of attempts. As in the logic of one run, every way to build a
step has one rule, and the rules are equivalences.

`Agree` is the form in which the lemmas about one definition are stated: both runs answer the same,
and they end where `P` holds, whatever the journals were.
-/

namespace BufferCoherence

variable {σ τ σ' τ' α β γ δ : Type}

/-! ## 1. Steps -/

/-- The steps, begun in `x` and in `y`, end where `Q` holds of both. -/
def Step.wp₂ (s : Step σ α) (t : Step τ β) (x : σ) (j : Journal) (y : τ) (k : Journal)
    (Q : α → β → σ → τ → Journal → Journal → Prop) : Prop :=
  s.wp x j fun a x' j' => t.wp y k fun b y' k' => Q a b x' y' j' k'

/-- The steps answer the same, and end where `P` holds. -/
def Step.Agree (s : Step σ α) (t : Step τ α) (x : σ) (y : τ) (P : α → σ → τ → Prop) : Prop :=
  ∀ j k, s.wp₂ t x j y k fun a b x' y' _ _ => b = a ∧ P a x' y'

namespace Step

section Rules

variable {x : σ} {y : τ} {j k : Journal}

theorem wp₂_pure (a : α) (b : β) (Q : α → β → σ → τ → Journal → Journal → Prop) :
    Step.wp₂ (pure a : Step σ α) (pure b : Step τ β) x j y k Q ↔ Q a b x y j k := Iff.rfl

theorem wp₂_bind (s : Step σ α) (t : Step τ β) (f : α → Step σ γ) (g : β → Step τ δ)
    (Q : γ → δ → σ → τ → Journal → Journal → Prop) :
    Step.wp₂ (s >>= f) (t >>= g) x j y k Q ↔
      s.wp₂ t x j y k fun a b x' y' j' k' => (f a).wp₂ (g b) x' j' y' k' Q := Iff.rfl

theorem wp₂_get (Q : σ → τ → σ → τ → Journal → Journal → Prop) :
    Step.wp₂ (get : Step σ σ) (get : Step τ τ) x j y k Q ↔ Q x y x y j k := Iff.rfl

theorem wp₂_set (x' : σ) (y' : τ) (Q : PUnit → PUnit → σ → τ → Journal → Journal → Prop) :
    Step.wp₂ (set x' : Step σ PUnit) (set y' : Step τ PUnit) x j y k Q ↔
      Q ⟨⟩ ⟨⟩ x' y' j k := Iff.rfl

theorem wp₂_modify (f : σ → σ) (g : τ → τ)
    (Q : PUnit → PUnit → σ → τ → Journal → Journal → Prop) :
    Step.wp₂ (modify f : Step σ PUnit) (modify g : Step τ PUnit) x j y k Q ↔
      Q ⟨⟩ ⟨⟩ (f x) (g y) j k := Iff.rfl

theorem wp₂_noteAll (ns ms : List Notice) (Q : Unit → Unit → σ → τ → Journal → Journal → Prop) :
    Step.wp₂ (liftM (noteAll ns) : Step σ Unit) (liftM (noteAll ms) : Step τ Unit) x j y k Q ↔
      Q () () x y ((noteAll ns) j).2 ((noteAll ms) k).2 := Iff.rfl

/-- Both runs take the same branch. -/
theorem wp₂_ite (c : Prop) [Decidable c] (s s' : Step σ α) (t t' : Step τ β)
    (Q : α → β → σ → τ → Journal → Journal → Prop) :
    Step.wp₂ (if c then s else s') (if c then t else t') x j y k Q ↔
      if c then s.wp₂ t x j y k Q else s'.wp₂ t' x j y k Q := by
  split <;> rfl

/-- Where both agree, one answer is at hand. -/
theorem Agree.wp₂ {s : Step σ α} {t : Step τ α} {P : α → σ → τ → Prop}
    {Q : α → α → σ → τ → Journal → Journal → Prop} (h : s.Agree t x y P)
    (hQ : ∀ a x' y' j' k', P a x' y' → Q a a x' y' j' k') : s.wp₂ t x j y k Q := by
  obtain ⟨hsame, hP⟩ := h j k
  show Q (s x j).1.1 (t y k).1.1 _ _ _ _
  rw [hsame]
  exact hQ _ _ _ _ _ hP

end Rules

variable {s : Step σ α} {t : Step τ α} {x : σ} {y : τ} {P Q : α → σ → τ → Prop}

theorem Agree.mono (h : s.Agree t x y P) (hQ : ∀ a x' y', P a x' y' → Q a x' y') :
    s.Agree t x y Q :=
  fun _ _ => h.wp₂ fun a x' y' _ _ hP => ⟨rfl, hQ a x' y' hP⟩

/-- Two steps that each end somewhere, with the same answer. -/
theorem Agree.of_ends {R : α → σ → Prop} (h : s.Ends x R)
    (h' : ∀ a x', R a x' → t.Ends y fun b y' => b = a ∧ P a x' y') : s.Agree t x y P :=
  fun _ k => h.wp fun a x' _ hR => h' a x' hR k

/-- What holds of both runs holds where they ended. -/
theorem Agree.of_run (h : s.Agree t x y P) {a b : α} {x' : σ} {y' : τ} {j k j' k' : Journal}
    (hs : s x j = ((a, x'), j')) (ht : t y k = ((b, y'), k')) : b = a ∧ P a x' y' := by
  have hjk := h j k
  unfold Step.wp₂ Step.wp at hjk
  rw [hs, ht] at hjk
  exact hjk

/-- The second run alone. -/
theorem Agree.right (h : s.Agree t x y P) : t.Ends y fun a y' => ∃ x', P a x' y' := by
  intro k
  obtain ⟨hsame, hP⟩ := h (.empty .error) k
  rw [← hsame] at hP
  exact ⟨_, hP⟩

end Step

/-! ## 2. Attempts -/

/-- The attempts, begun in `x` and in `y`, end where `Q` holds of both. -/
def Attempt.wp₂ (a : Attempt σ α) (b : Attempt τ β) (x : σ) (j : Journal) (y : τ) (k : Journal)
    (Q : Except Failure α → Except Failure β → σ → τ → Journal → Journal → Prop) : Prop :=
  Step.wp₂ a.run b.run x j y k Q

/-- The attempts have the same outcome, and end where `P` holds. -/
def Attempt.Agree (a : Attempt σ α) (b : Attempt τ α) (x : σ) (y : τ)
    (P : Except Failure α → σ → τ → Prop) : Prop :=
  ∀ j k, a.wp₂ b x j y k fun r r' x' y' _ _ => r' = r ∧ P r x' y'

namespace Attempt

section Rules

variable {x : σ} {y : τ} {j k : Journal}

theorem wp₂_pure (a : α) (b : β)
    (Q : Except Failure α → Except Failure β → σ → τ → Journal → Journal → Prop) :
    Attempt.wp₂ (pure a : Attempt σ α) (pure b : Attempt τ β) x j y k Q ↔
      Q (.ok a) (.ok b) x y j k := Iff.rfl

/-- A failure skips what follows, in each run by itself. -/
theorem wp₂_bind (a : Attempt σ α) (b : Attempt τ β) (f : α → Attempt σ γ) (g : β → Attempt τ δ)
    (Q : Except Failure γ → Except Failure δ → σ → τ → Journal → Journal → Prop) :
    Attempt.wp₂ (a >>= f) (b >>= g) x j y k Q ↔ a.wp₂ b x j y k fun r r' x' y' j' k' =>
      match r, r' with
      | .ok v, .ok w => (f v).wp₂ (g w) x' j' y' k' Q
      | .ok v, .error e => (f v).wp x' j' fun r x'' j'' => Q r (.error e) x'' y' j'' k'
      | .error e, .ok w => (g w).wp y' k' fun r y'' k'' => Q (.error e) r x' y'' j' k''
      | .error e, .error e' => Q (.error e) (.error e') x' y' j' k' := by
  show Attempt.wp (a >>= f) x j (fun r x' j' => Attempt.wp (b >>= g) y k fun r' y' k' =>
    Q r r' x' y' j' k') ↔ a.wp x j fun r x' j' => b.wp y k fun r' y' k' => _
  simp only [wp_bind]
  unfold Attempt.wp Step.wp
  rcases a.run x j with ⟨⟨e | v, x'⟩, j'⟩
  · rcases b.run y k with ⟨⟨e' | w, y'⟩, k'⟩ <;> exact Iff.rfl
  · rcases b.run y k with ⟨⟨e' | w, y'⟩, k'⟩ <;> exact Iff.rfl

theorem wp₂_get (Q : Except Failure σ → Except Failure τ → σ → τ → Journal → Journal → Prop) :
    Attempt.wp₂ (get : Attempt σ σ) (get : Attempt τ τ) x j y k Q ↔
      Q (.ok x) (.ok y) x y j k := Iff.rfl

theorem wp₂_refuse (source source' : Source) (f g : Failure)
    (Q : Except Failure α → Except Failure β → σ → τ → Journal → Journal → Prop) :
    Attempt.wp₂ (refuse source f : Attempt σ α) (refuse source' g : Attempt τ β) x j y k Q ↔
      Q (.error f) (.error g) x y (j.record (.failed source f)) (k.record (.failed source' g)) :=
  Iff.rfl

theorem wp₂_always (s : Step σ α) (t : Step τ β)
    (Q : Except Failure α → Except Failure β → σ → τ → Journal → Journal → Prop) :
    Attempt.wp₂ (always s) (always t) x j y k Q ↔
      s.wp₂ t x j y k fun a b x' y' j' k' => Q (.ok a) (.ok b) x' y' j' k' := Iff.rfl

theorem wp₂_answer (r : Except Failure α) (r' : Except Failure β)
    (Q : Except Failure α → Except Failure β → σ → τ → Journal → Journal → Prop) :
    Attempt.wp₂ (answer r : Attempt σ α) (answer r' : Attempt τ β) x j y k Q ↔
      Q r r' x y j k := Iff.rfl

/-- Both runs take the same branch. -/
theorem wp₂_ite (c : Prop) [Decidable c] (a a' : Attempt σ α) (b b' : Attempt τ β)
    (Q : Except Failure α → Except Failure β → σ → τ → Journal → Journal → Prop) :
    Attempt.wp₂ (if c then a else a') (if c then b else b') x j y k Q ↔
      if c then a.wp₂ b x j y k Q else a'.wp₂ b' x j y k Q := by
  split <;> rfl

theorem wp₂_outcome (a : Attempt σ α) (b : Attempt τ β)
    (Q : Except Failure α → Except Failure β → σ → τ → Journal → Journal → Prop) :
    Step.wp₂ a.outcome b.outcome x j y k Q ↔ a.wp₂ b x j y k Q := Iff.rfl

theorem wp₂_onPart (get : σ → σ') (put : σ' → σ → σ) (get' : τ → τ') (put' : τ' → τ → τ)
    (a : Attempt σ' α) (b : Attempt τ' β)
    (Q : Except Failure α → Except Failure β → σ → τ → Journal → Journal → Prop) :
    Attempt.wp₂ (Attempt.onPart get put a) (Attempt.onPart get' put' b) x j y k Q ↔
      a.wp₂ b (get x) j (get' y) k fun r r' x' y' j' k' => Q r r' (put x' x) (put' y' y) j' k' :=
  Iff.rfl

/-- Where both agree, one outcome is at hand. -/
theorem Agree.wp₂ {a : Attempt σ α} {b : Attempt τ α} {P : Except Failure α → σ → τ → Prop}
    {Q : Except Failure α → Except Failure α → σ → τ → Journal → Journal → Prop}
    (h : a.Agree b x y P) (hQ : ∀ r x' y' j' k', P r x' y' → Q r r x' y' j' k') :
    a.wp₂ b x j y k Q :=
  Step.Agree.wp₂ (s := a.run) h hQ

/-- Where both agree and a failure ends where `Q` holds, it is enough to go on from an answer. -/
theorem Agree.bind_wp₂ {a : Attempt σ α} {b : Attempt τ α} {f : α → Attempt σ γ}
    {g : α → Attempt τ γ} {P : Except Failure α → σ → τ → Prop}
    {Q : Except Failure γ → Except Failure γ → σ → τ → Journal → Journal → Prop}
    (h : a.Agree b x y P)
    (hok : ∀ v x' y' j' k', P (.ok v) x' y' → (f v).wp₂ (g v) x' j' y' k' Q)
    (herror : ∀ e x' y' j' k', P (.error e) x' y' → Q (.error e) (.error e) x' y' j' k') :
    (a >>= f).wp₂ (b >>= g) x j y k Q := by
  rw [wp₂_bind]
  refine h.wp₂ fun r x' y' j' k' hP => ?_
  cases r with
  | ok v => exact hok v x' y' j' k' hP
  | error e => exact herror e x' y' j' k' hP

/-- An attempt that goes on from the answer of a step. -/
theorem Agree.always_wp₂ {s : Step σ α} {t : Step τ α} {f : α → Attempt σ γ} {g : α → Attempt τ γ}
    {P : α → σ → τ → Prop}
    {Q : Except Failure γ → Except Failure γ → σ → τ → Journal → Journal → Prop}
    (h : s.Agree t x y P)
    (hf : ∀ v x' y' j' k', P v x' y' → (f v).wp₂ (g v) x' j' y' k' Q) :
    (always s >>= f).wp₂ (always t >>= g) x j y k Q := by
  rw [wp₂_bind, wp₂_always]
  exact h.wp₂ hf

end Rules

variable {a : Attempt σ α} {b : Attempt τ α} {x : σ} {y : τ}
  {P Q : Except Failure α → σ → τ → Prop}

theorem Agree.mono (h : a.Agree b x y P) (hQ : ∀ r x' y', P r x' y' → Q r x' y') :
    a.Agree b x y Q :=
  Step.Agree.mono h hQ

/-- What holds of both runs holds where they ended. -/
theorem Agree.of_run (h : a.Agree b x y P) {r r' : Except Failure α} {x' : σ} {y' : τ}
    {j k j' k' : Journal} (ha : a.run x j = ((r, x'), j')) (hb : b.run y k = ((r', y'), k')) :
    r' = r ∧ P r x' y' :=
  Step.Agree.of_run (s := a.run) h ha hb

/-- What is answered in the end has no part in where both end. -/
theorem Agree.answering {P : σ → τ → Prop} (h : a.Agree b x y fun _ => P) (f : α → β) :
    (a >>= fun v => pure (f v)).Agree (b >>= fun v => pure (f v)) x y fun _ => P := fun _ _ =>
  h.bind_wp₂ (fun _ _ _ _ _ hP => ⟨rfl, hP⟩) fun _ _ _ _ _ hP => ⟨rfl, hP⟩

/-- The second run alone. -/
theorem Agree.right (h : a.Agree b x y P) : b.Ends y fun r y' => ∃ x', P r x' y' :=
  Step.Agree.right (s := a.run) h

end Attempt

end BufferCoherence
