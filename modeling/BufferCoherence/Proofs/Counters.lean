import BufferCoherence.Hysteresis

/-!
# What the counters of a buffer count

The three counters of a buffer against the history of what was counted. A history is a list of
events, the newest first; `Hysteresis.after` is what the counters are after it. The counts are told
from the history alone:

* `drawsSince` are the quiet draws since the declaration last changed;
* `sinceForgotten limit` are the events since the last draw that came after more than `limit` quiet
  draws. Both limits that forget go by the same draws, each with a threshold of its own.

**`counters_of_history`**: each counter is the number of its events in its part of the history, as
far as a counter reaches, and an event asks for the object to be dropped exactly where the number
that it makes is above the one that is tolerated.
-/

namespace BufferCoherence.Hysteresis

/-! ## 1. Histories -/

/-- What is counted. -/
inductive Event where
  /-- A draw that neither changed the declaration nor converted the whole buffer. -/
  | draw
  /-- The declaration changed. -/
  | declaration
  /-- The whole buffer is converted again. -/
  | conversion
deriving DecidableEq

/-- The counters with one event counted. -/
def count (h : Hysteresis) : Event → Hysteresis
  | .draw => h.countQuietDraw
  | .declaration => h.countDeclaration.2
  | .conversion => h.countConversion.2

/-- The counters after a history, the newest event first. -/
def after (limits : HysteresisLimits) : List Event → Hysteresis
  | [] => fresh limits
  | e :: past => (after limits past).count e

/-- What a counter shows of a number: the number, as far as counters reach. -/
def shown (n : Nat) : Nat := min n counterLimit

/-- The quiet draws since the declaration last changed. -/
def drawsSince (past : List Event) : Nat :=
  (past.takeWhile (· ≠ .declaration)).count .draw

/-- The newest event is a draw, after which more than `limit` draws are counted. -/
def Forgets (limit : Nat) (past : List Event) : Prop :=
  past.head? = some .draw ∧ limit < shown (drawsSince past)

instance (limit : Nat) (past : List Event) : Decidable (Forgets limit past) :=
  inferInstanceAs (Decidable (_ ∧ _))

/-- The events since the last one that forgets. -/
def sinceForgotten (limit : Nat) : List Event → List Event
  | [] => []
  | e :: past => if Forgets limit (e :: past) then [] else e :: sinceForgotten limit past

/-- The declaration changes that a counter shows after a history. -/
def declarations (limits : HysteresisLimits) (past : List Event) : Nat :=
  shown ((sinceForgotten limits.resetDeclChangeDraws past).count .declaration)

/-- The full conversions that a counter shows after a history. -/
def conversions (limits : HysteresisLimits) (past : List Event) : Nat :=
  shown ((sinceForgotten limits.resetFullConversionDraws past).count .conversion)

variable {limits : HysteresisLimits} {limit : Nat} {past : List Event} {e : Event}

/-! ## 2. One more event -/

/-- A counter goes on showing a number that is raised. -/
theorem raise_shown (n : Nat) : raise (shown n) = shown (n + 1) := by
  unfold raise shown
  omega

@[simp] theorem drawsSince_draw : drawsSince (.draw :: past) = drawsSince past + 1 := by
  simp [drawsSince]

@[simp] theorem drawsSince_declaration : drawsSince (.declaration :: past) = 0 := by
  simp [drawsSince]

@[simp] theorem drawsSince_conversion : drawsSince (.conversion :: past) = drawsSince past := by
  simp [drawsSince]

/-- Only a draw forgets. -/
theorem sinceForgotten_of_ne (he : e ≠ .draw) :
    sinceForgotten limit (e :: past) = e :: sinceForgotten limit past :=
  if_neg fun h => he (Option.some.inj h.1)

theorem sinceForgotten_draw : sinceForgotten limit (.draw :: past) =
    if limit < shown (drawsSince past + 1) then []
    else .draw :: sinceForgotten limit past := by
  rw [sinceForgotten]
  simp only [Forgets, List.head?_cons, true_and, drawsSince_draw]

/-! ## 3. The counters -/

theorem limits_after (limits : HysteresisLimits) (past : List Event) :
    (after limits past).limits = limits := by
  induction past with
  | nil => rfl
  | cons e past ih =>
    cases e with
    | draw => exact ih
    | declaration => exact ih
    | conversion => exact ih

/-- **The quiet draws are counted since the declaration last changed.** -/
theorem draws_after (limits : HysteresisLimits) (past : List Event) :
    (after limits past).draws = shown (drawsSince past) := by
  induction past with
  | nil => rfl
  | cons e past ih =>
    cases e with
    | draw =>
      show raise (after limits past).draws = _
      rw [ih, raise_shown, drawsSince_draw]
    | declaration => rw [drawsSince_declaration]; rfl
    | conversion => rw [drawsSince_conversion]; exact ih

/-- A counter that its own event raises, and that a draw clears once there were more than `limit`,
    shows the number of its events since it was last cleared. -/
theorem shown_of_counter {c : List Event → Nat} (he : e ≠ .draw) (fresh : c [] = 0)
    (own : ∀ past, c (e :: past) = raise (c past))
    (other : ∀ a past, a ≠ e → a ≠ .draw → c (a :: past) = c past)
    (draw : ∀ past, c (.draw :: past) =
      if limit < shown (drawsSince past + 1) then 0 else c past) (past : List Event) :
    c past = shown ((sinceForgotten limit past).count e) := by
  induction past with
  | nil => rw [fresh]; rfl
  | cons a past ih =>
    by_cases ha : a = .draw
    · subst ha
      rw [draw, sinceForgotten_draw]
      split
      · rfl
      · rw [List.count_cons_of_ne he.symm, ih]
    · rw [sinceForgotten_of_ne ha]
      by_cases hae : a = e
      · subst hae
        rw [own, ih, raise_shown, List.count_cons_self]
      · rw [other a past hae ha, List.count_cons_of_ne hae, ih]

/-- Whether a counter is cleared by a draw. -/
theorem cleared_draw (limits : HysteresisLimits) (past : List Event) :
    raise (after limits past).draws = shown (drawsSince past + 1) := by
  rw [draws_after, raise_shown]

theorem declChanges_after (limits : HysteresisLimits) (past : List Event) :
    (after limits past).declChanges = declarations limits past := by
  refine shown_of_counter (e := .declaration) (c := fun past => (after limits past).declChanges)
    nofun rfl
    (fun _ => rfl) (fun a past ha hdraw => ?_) (fun past => ?_) past
  · cases a with
    | draw => exact absurd rfl hdraw
    | declaration => exact absurd rfl ha
    | conversion => rfl
  · show (if raise _ > (after limits past).limits.resetDeclChangeDraws then 0 else _) = _
    rw [cleared_draw, limits_after]

theorem fullConversions_after (limits : HysteresisLimits) (past : List Event) :
    (after limits past).fullConversions = conversions limits past := by
  refine shown_of_counter (e := .conversion) (c := fun past => (after limits past).fullConversions)
    nofun rfl
    (fun _ => rfl) (fun a past ha hdraw => ?_) (fun past => ?_) past
  · cases a with
    | draw => exact absurd rfl hdraw
    | declaration => rfl
    | conversion => exact absurd rfl ha
  · show (if raise _ > (after limits past).limits.resetFullConversionDraws then 0 else _) = _
    rw [cleared_draw, limits_after]

theorem verdict_eq_drop {n limit : Nat} : verdict n limit = .dropObject ↔ limit < n := by
  unfold verdict
  split
  · rename_i h
    exact iff_of_true rfl h
  · rename_i h
    exact iff_of_false nofun h

/-- **What the counters count, and what they ask for.** After any history, whatever the limits:
    the draws counted are those since the declaration last changed; the declaration changes (the
    full conversions) counted are those since the last draw after which more draws were counted than
    their limit says, all as far as counters reach. One more declaration change (full conversion)
    asks for the object to be dropped exactly if the number that is counted then is above the one
    that is tolerated. -/
theorem counters_of_history (limits : HysteresisLimits) (past : List Event) :
    (after limits past).draws = shown (drawsSince past) ∧
      (after limits past).declChanges = declarations limits past ∧
      (after limits past).fullConversions = conversions limits past ∧
      ((after limits past).countDeclaration.1 = .dropObject ↔
        limits.maxDeclChanges < declarations limits (.declaration :: past)) ∧
      ((after limits past).countConversion.1 = .dropObject ↔
        limits.maxFullConversions < conversions limits (.conversion :: past)) := by
  refine ⟨draws_after limits past, declChanges_after limits past,
    fullConversions_after limits past, ?_, ?_⟩
  · rw [← declChanges_after limits (.declaration :: past)]
    show verdict _ (after limits past).limits.maxDeclChanges = _ ↔ _
    rw [limits_after]
    exact verdict_eq_drop
  · rw [← fullConversions_after limits (.conversion :: past)]
    show verdict _ (after limits past).limits.maxFullConversions = _ ↔ _
    rw [limits_after]
    exact verdict_eq_drop

/-- Two declaration changes, and draws enough to forget the first one. -/
example :
    (after { resetDeclChangeDraws := 2 }
      [.declaration, .draw, .draw, .draw, .declaration]).declChanges = 1 := by
  decide

end BufferCoherence.Hysteresis
