import BufferCoherence.Proofs.Places

/-!
# One object at a time

Runs of acts on objects and users, and whom a user belongs to along them.

* `ObjectSlots.run` is what is there after some acts, `ObjectSlots.Lawful` says that each of them was
  right when it happened; a moment of a run is a prefix of its acts;
* **`belongs_to_one_iff`**: at every moment each user is in one place at most, one object at most
  owns it, and it is registered exactly if one does, if and only if nobody was registered with an
  object while it had an entry elsewhere;
* `belongs_to_two` is the run of two registrations after which two objects own one user: each of
  them handed out its first key, and the user remembers no more than that.
-/

namespace BufferCoherence

namespace ObjectSlots

variable {s : ObjectSlots} {u : UserId} {slot : Nat} {o : BufferObject} {a : Act}
  {acts past rest : List Act} {ok : ObjectSlots → Act → Prop}

/-! ## 1. Runs -/

/-- What is there after some acts. -/
def run (s : ObjectSlots) (acts : List Act) : ObjectSlots := acts.foldl Act.perform s

@[simp] theorem run_nil (s : ObjectSlots) : s.run [] = s := rfl

@[simp] theorem run_cons (s : ObjectSlots) (a : Act) (acts : List Act) :
    s.run (a :: acts) = (a.perform s).run acts := rfl

theorem run_append (s : ObjectSlots) (past later : List Act) :
    s.run (past ++ later) = (s.run past).run later := List.foldl_append

/-- Each of some acts is right when it happens. -/
def Lawful (s : ObjectSlots) (ok : ObjectSlots → Act → Prop) : List Act → Prop
  | [] => True
  | a :: rest => ok s a ∧ (a.perform s).Lawful ok rest

instance Lawful.decidable [∀ s a, Decidable (ok s a)] (s : ObjectSlots) :
    (acts : List Act) → Decidable (s.Lawful ok acts)
  | [] => inferInstanceAs (Decidable True)
  | a :: rest =>
    have := Lawful.decidable (a.perform s) rest
    inferInstanceAs (Decidable (ok s a ∧ (a.perform s).Lawful ok rest))

theorem lawful_append {later : List Act} :
    s.Lawful ok (past ++ later) ↔ s.Lawful ok past ∧ (s.run past).Lawful ok later := by
  induction past generalizing s with
  | nil => exact (iff_of_eq (true_and _)).symm
  | cons a past ih =>
    rw [List.cons_append]
    exact (and_congr_right fun _ => ih).trans and_assoc.symm

theorem Lawful.of_prefix (h : s.Lawful ok acts) (hpast : past <+: acts) : s.Lawful ok past := by
  obtain ⟨later, rfl⟩ := hpast
  exact (lawful_append.mp h).1

/-- The acts are right if each of them is right after those before it. -/
theorem lawful_of_each (h : ∀ past a later, acts = past ++ a :: later → ok (s.run past) a) :
    s.Lawful ok acts := by
  induction acts generalizing s with
  | nil => trivial
  | cons a rest ih =>
    refine ⟨h [] a rest rfl, ih fun past b later hrest => ?_⟩
    exact h (a :: past) b later (congrArg _ hrest)

/-- Something holds of each moment of a run if it holds at first, and from the second moment on. -/
theorem prefixes_cons {P : List Act → Prop} :
    (∀ past, past <+: a :: rest → P past) ↔ P [] ∧ ∀ past, past <+: rest → P (a :: past) := by
  constructor
  · exact fun h => ⟨h [] List.nil_prefix, fun past hpast =>
      h _ (List.prefix_cons_iff.mpr (.inr ⟨past, rfl, hpast⟩))⟩
  · rintro ⟨hnil, hcons⟩ past hpast
    rcases List.prefix_cons_iff.mp hpast with rfl | ⟨past, rfl, hrest⟩
    · exact hnil
    · exact hcons past hrest

/-! ## 2. One object at a time -/

/-- **Each user is in one place at most**, one object at most owns it, and it is registered exactly
    if one does. -/
structure Belongs (s : ObjectSlots) : Prop where
  place : ∀ u i j k l, s.Held u → s.Seats u i k → s.Seats u j l → i = j ∧ k = l
  owner : ∀ u i j, s.Held u → s.owns i u = some true → s.owns j u = some true → i = j
  entry : ∀ u, s.Held u → ((s.cell u).hasEntry = true ↔ ∃ i, s.owns i u = some true)

theorem Orderly.belongs (h : Orderly s) : Belongs s := by
  refine ⟨fun u i j k l hu => (h.placed u hu).unique, fun u i j hu hi hj => ?_, fun u hu => ?_⟩
  · obtain ⟨k, -, hk⟩ := owns_eq_true.mp hi
    obtain ⟨l, -, hl⟩ := owns_eq_true.mp hj
    exact ((h.placed u hu).unique hk hl).1
  · unfold UserCell.hasEntry
    rw [Option.isSome_iff_exists]
    constructor
    · rintro ⟨k, hk⟩
      obtain ⟨i, hi⟩ := (h.placed u hu).seat hk
      exact ⟨i, owns_eq_true.mpr ⟨k, hk, hi⟩⟩
    · rintro ⟨i, hi⟩
      obtain ⟨k, hk, -⟩ := owns_eq_true.mp hi
      exact ⟨k, hk⟩

/-- A user that is registered anew is in the place it was given, and in those it had elsewhere. -/
theorem enlist_seats (h : Orderly s) (ho : s.objects.get? slot = some o)
    (howns : o.owns s.users.cells u = false) :
    (∃ k, ((Act.enlist slot u).perform s).Seats u slot k) ∧ ∀ i k, i ≠ slot → s.Seats u i k →
      ((Act.enlist slot u).perform s).Seats u i k := by
  have henter := BufferObject.enlist_of_not_owns howns
  have hseats (i : Nat) (k : SlotKey) : ((Act.enlist slot u).perform s).Seats u i k ↔ _ :=
    onObject_seats (f := fun o t => o.enlist t u) ho
  simp only [henter, BufferObject.get?_enter (h.tidy slot o ho)] at hseats
  refine ⟨⟨(o.users.insert u).1, ?_⟩, fun i k hi hk => ?_⟩
  · rw [hseats, if_pos rfl, if_pos rfl]
  · rw [hseats, if_neg hi]
    exact hk

/-- Who is in one place at most after being registered was not registered elsewhere. -/
theorem apart_of_belongs (h : Orderly s) (ha : a.Allowed s) (hb : Belongs (a.perform s)) :
    a.Apart s := by
  cases a with
  | enlist slot u =>
    intro howns
    obtain ⟨o, ho, hforeign⟩ := Option.map_eq_some_iff.mp howns
    obtain ⟨⟨k, hk⟩, hkeep⟩ := enlist_seats h ho hforeign
    have hu : ((Act.enlist slot u).perform s).Held u := by
      unfold Held
      rw [show ((Act.enlist slot u).perform s).cell u = _ from
        onObject_cell (f := fun o t => o.enlist t u) ho u]
      rw [BufferObject.enlist_of_not_owns hforeign,
        BufferObject.cell_enter (UserTable.lt_of_alive ha), if_pos rfl]
      exact ha
    rw [← Bool.not_eq_true]
    intro hentry
    obtain ⟨i, hi⟩ := (h.belongs.entry u ha).mp hentry
    obtain ⟨l, -, hl⟩ := owns_eq_true.mp hi
    -- the object that owned the user is another one, and still lists it
    have hne : i ≠ slot := by
      rintro rfl
      cases howns.symm.trans hi
    exact hne (hb.place u i slot l k hu (hkeep i l hne hl) hk).1
  | _ => trivial

/-- **What keeps users apart along a run.** -/
theorem run_belongs_iff (h : Orderly s) (hacts : s.Lawful Act.Allowed acts) :
    (∀ past, past <+: acts → Belongs (s.run past)) ↔ s.Lawful Act.Apart acts := by
  induction acts generalizing s with
  | nil =>
    refine iff_of_true (fun past hpast => ?_) trivial
    rw [List.prefix_nil.mp hpast]
    exact h.belongs
  | cons a rest ih =>
    obtain ⟨ha, hrest⟩ := hacts
    rw [prefixes_cons]
    simp only [run_nil, run_cons]
    constructor
    · rintro ⟨-, hlater⟩
      have hapart := apart_of_belongs h ha (hlater [] List.nil_prefix)
      exact ⟨hapart, (ih (h.perform ha hapart) hrest).mp hlater⟩
    · rintro ⟨hapart, hlater⟩
      exact ⟨h.belongs, (ih (h.perform ha hapart) hrest).mpr hlater⟩

end ObjectSlots

open ObjectSlots in
/-- **Each user belongs to one object at every moment of a run exactly if nobody is registered with
    an object while it has an entry elsewhere**: it is in one place at most, one object at most owns
    it, and it is registered if and only if one does. -/
theorem belongs_to_one_iff (acts : List Act)
    (h : ObjectSlots.empty.Lawful Act.Allowed acts) :
    (∀ past, past <+: acts → Belongs (ObjectSlots.empty.run past)) ↔
      ObjectSlots.empty.Lawful Act.Apart acts :=
  run_belongs_iff orderly_empty h

open ObjectSlots in
/-- A user that moves to the second object, leaves it, and comes back to the first slot belongs to
    the object that it finds there. -/
theorem belongs_to_one_after_move : Belongs (ObjectSlots.empty.run [.make 0 ⟨⟨1⟩, 0⟩ 64,
    .make 1 ⟨⟨2⟩, 0⟩ 64, .add, .enlist 0 ⟨0⟩, .refresh 0 ⟨0⟩, .move 0 1, .drop 0, .delist 1 ⟨0⟩,
    .make 0 ⟨⟨3⟩, 0⟩ 64, .enlist 0 ⟨0⟩]) :=
  (belongs_to_one_iff _ (by decide)).mpr (by decide) _ List.prefix_rfl

open ObjectSlots in
/-- A user registered with two objects belongs to both of them. -/
theorem belongs_to_two : ¬ ∀ acts, ObjectSlots.empty.Lawful Act.Allowed acts →
    Belongs (ObjectSlots.empty.run acts) := by
  intro h
  have hb := h [.make 0 ⟨⟨1⟩, 0⟩ 64, .make 1 ⟨⟨2⟩, 0⟩ 64, .add, .enlist 0 ⟨0⟩, .enlist 1 ⟨0⟩]
    (by decide)
  exact absurd (hb.owner ⟨0⟩ 0 1 (by unfold Held; decide) (by decide) (by decide)) (by decide)

end BufferCoherence
