import BufferCoherence.Object.Slots
import BufferCoherence.Proofs.Users

/-!
# Where users belong

Any number of objects and users, and everything that happens to them. A user remembers one key and no
object, while each object hands out keys of its own, so that a key says little by itself; what ties
the two together is that a user is in no place and has no key, or is in exactly one place and has the
key of that place (`ObjectSlots.Placed`).

* `ObjectSlots.Act` is one thing that happens;
* `ObjectSlots.Fate` says once what an act does to a user: it stays, leaves, or enters a place
  (`ObjectSlots.conducts`). What holds of every run follows from the three cases, without opening an
  act again;
* an act leaves everybody in no place or in one (`ObjectSlots.Orderly.perform`), if nobody is
  registered with an object while it has an entry elsewhere (`ObjectSlots.Act.Apart`). Nothing in
  `BufferObject.enlist` sees to that: an object looks for the user in its own registry only.
-/

namespace BufferCoherence

namespace ObjectSlots

variable {s : ObjectSlots} {u v : UserId} {slot target i j : Nat} {k l : SlotKey}
  {o p : BufferObject}

/-! ## 1. Places -/

/-- The cell of a user. -/
def cell (s : ObjectSlots) (u : UserId) : UserCell := s.users.cells.cell u

/-- Somebody holds the user. -/
def Held (s : ObjectSlots) (u : UserId) : Prop := (s.cell u).alive = true

/-- The key finds the user in the registry of an object. -/
def Seats (s : ObjectSlots) (u : UserId) (slot : Nat) (k : SlotKey) : Prop :=
  ∃ o, s.objects.get? slot = some o ∧ o.users.get? k = some u

theorem seats_of_object (ho : s.objects.get? slot = some o) :
    s.Seats u slot k ↔ o.users.get? k = some u := by
  unfold Seats
  rw [ho]
  simp only [Option.some.injEq, exists_eq_left']

/-- Where the registry of one slot finds the user as it did. -/
theorem seats_of_slot (ho : s.objects.get? slot = some o) {found : Prop}
    (h : found ↔ o.users.get? k = some u) :
    (if i = slot then found else s.Seats u i k) ↔ s.Seats u i k := by
  split
  · rename_i hi
    rw [hi, seats_of_object ho]
    exact h
  · exact Iff.rfl

theorem not_seats_of_none (ho : s.objects.get? slot = none) : ¬ s.Seats u slot k := by
  rintro ⟨o, h, -⟩
  rw [ho] at h
  cases h

theorem owns_of_object (ho : s.objects.get? slot = some o) :
    s.owns slot u = some (o.owns s.users.cells u) := by
  unfold ObjectSlots.owns
  rw [ho]
  rfl

/-- **An object owns a user that is in the place its key names.** -/
theorem owns_eq_true : s.owns slot u = some true ↔
    ∃ k, (s.cell u).key = some k ∧ s.Seats u slot k := by
  cases ho : s.objects.get? slot with
  | none =>
    unfold ObjectSlots.owns
    rw [ho]
    simp only [Option.map_none, reduceCtorEq, false_iff]
    rintro ⟨k, -, hk⟩
    exact not_seats_of_none ho hk
  | some o =>
    rw [owns_of_object ho, Option.some.injEq, BufferObject.owns_iff]
    simp only [seats_of_object ho]
    exact Iff.rfl

/-- **The user is nowhere and has no key, or it is in one place and has the key of that place.** -/
inductive Placed (s : ObjectSlots) (u : UserId) : Prop where
  | nowhere (key : (s.cell u).key = none) (seats : ∀ i k, ¬ s.Seats u i k)
  | inPlace (i : Nat) (k : SlotKey) (key : (s.cell u).key = some k)
      (seats : ∀ j l, s.Seats u j l ↔ j = i ∧ l = k)

/-- Registries are kept in order, and every user that is held is where its key says. -/
structure Orderly (s : ObjectSlots) : Prop where
  tidy : ∀ slot o, s.objects.get? slot = some o → o.users.Tidy
  known : ∀ u slot k, s.Seats u slot k → u.number < s.users.cells.cells.size
  placed : ∀ u, s.Held u → s.Placed u

theorem orderly_empty : Orderly empty :=
  ⟨nofun, fun _ _ _ ⟨_, h, _⟩ => (nomatch h), nofun⟩

theorem Placed.unique (h : s.Placed u) (hi : s.Seats u i k) (hj : s.Seats u j l) :
    i = j ∧ k = l := by
  cases h with
  | nowhere key seats => exact absurd hi (seats i k)
  | inPlace i' k' key seats =>
    obtain ⟨rfl, rfl⟩ := (seats i k).mp hi
    obtain ⟨rfl, rfl⟩ := (seats j l).mp hj
    exact ⟨rfl, rfl⟩

theorem Placed.key (h : s.Placed u) (hi : s.Seats u i k) : (s.cell u).key = some k := by
  cases h with
  | nowhere key seats => exact absurd hi (seats i k)
  | inPlace i' k' key seats =>
    obtain ⟨rfl, rfl⟩ := (seats i k).mp hi
    exact key

theorem Placed.seat (h : s.Placed u) (hk : (s.cell u).key = some k) : ∃ i, s.Seats u i k := by
  cases h with
  | nowhere key seats =>
    rw [hk] at key
    cases key
  | inPlace i k' key seats =>
    cases hk.symm.trans key
    exact ⟨i, (seats i k).mpr ⟨rfl, rfl⟩⟩

theorem Placed.not_seats (h : s.Placed u) (hk : (s.cell u).key = none) : ¬ s.Seats u i l := by
  intro hi
  rw [h.key hi] at hk
  cases hk

/-! ## 2. Acts -/

/-- The cells changed. -/
def onCells (s : ObjectSlots) (f : UserTable → UserTable) : ObjectSlots :=
  { s with users.cells := f s.users.cells }

/-- One thing that happens to objects and users. -/
inductive Act where
  /-- An object put into a slot. -/
  | make (slot : Nat) (a : Placement) (size : Nat)
  /-- The object of a slot gone. -/
  | drop (slot : Nat)
  /-- A new user. -/
  | add
  | hold (u : UserId)
  | letGo (u : UserId)
  | enlist (slot : Nat) (u : UserId)
  | delist (slot : Nat) (u : UserId)
  | refresh (slot : Nat) (u : UserId)
  | forget (slot : Nat)
  | move (slot target : Nat)
  | dismiss (slot : Nat)
deriving DecidableEq

namespace Act

/-- What is there after the act; an act on an object that is not there does nothing. -/
def perform (s : ObjectSlots) : Act → ObjectSlots
  | make slot a size => s.put slot (.new a size)
  | drop slot => { s with objects := s.objects.erase slot }
  | add => s.onCells fun t => t.add.2
  | hold u => s.onCells (·.hold u)
  | letGo u => s.onCells (·.letGo u)
  | enlist slot u => s.onObject slot fun o t => o.enlist t u
  | delist slot u => s.onObject slot fun o t => o.delist t u
  | refresh slot u => s.onObject slot fun o t => (o, (o.refresh t u).2)
  | forget slot => s.onObject slot BufferObject.forgetViews
  | move slot target => s.transfer slot target
  | dismiss slot => s.onObject slot BufferObject.dismissUsers

/-- What can happen: a user acts while somebody holds it, a new object comes into an empty slot, and
    an object goes once no user is left that is listed and held. -/
def Allowed (s : ObjectSlots) : Act → Prop
  | make slot _ _ => s.objects.get? slot = none
  | drop slot => ∀ o, s.objects.get? slot = some o → o.liveUserCount s.users.cells = 0
  | hold u | letGo u | enlist _ u | delist _ u | refresh _ u => s.Held u
  | _ => True

/-- A user that is registered with an object has no entry elsewhere. -/
def Apart (s : ObjectSlots) : Act → Prop
  | enlist slot u => s.owns slot u = some false → (s.cell u).hasEntry = false
  | _ => True

instance (s : ObjectSlots) (a : Act) : Decidable (a.Allowed s) :=
  match a with
  | make slot _ _ => inferInstanceAs (Decidable (s.objects.get? slot = none))
  | drop slot => decidable_of_iff
      (∀ o ∈ s.objects.get? slot, o.liveUserCount s.users.cells = 0) Iff.rfl
  | hold u | letGo u | enlist _ u | delist _ u | refresh _ u =>
    inferInstanceAs (Decidable ((s.cell u).alive = true))
  | add | forget _ | move _ _ | dismiss _ => inferInstanceAs (Decidable True)

instance (s : ObjectSlots) (a : Act) : Decidable (a.Apart s) :=
  match a with
  | enlist slot u => inferInstanceAs
      (Decidable (s.owns slot u = some false → (s.cell u).hasEntry = false))
  | make .. | drop _ | hold _ | letGo _ | delist .. | refresh .. | add | forget _ | move _ _
  | dismiss _ => inferInstanceAs (Decidable True)

end Act

/-! ## 3. What an act changes -/

theorem onObject_none (ho : s.objects.get? slot = none)
    (f : BufferObject → UserTable → BufferObject × UserTable) : s.onObject slot f = s := by
  unfold onObject
  rw [ho]

section OnObject

variable {f : BufferObject → UserTable → BufferObject × UserTable}

theorem onObject_cell (ho : s.objects.get? slot = some o) (u : UserId) :
    (s.onObject slot f).cell u = (f o s.users.cells).2.cell u := by
  unfold onObject
  rw [ho]
  rfl

theorem onObject_size (ho : s.objects.get? slot = some o) :
    (s.onObject slot f).users.cells.cells.size = (f o s.users.cells).2.cells.size := by
  unfold onObject
  rw [ho]
  rfl

theorem onObject_get? (ho : s.objects.get? slot = some o) (i : Nat) :
    (s.onObject slot f).objects.get? i =
      if i = slot then some (f o s.users.cells).1 else s.objects.get? i := by
  unfold onObject
  rw [ho]
  exact Table.get?_insert s.objects slot i _

theorem onObject_seats (ho : s.objects.get? slot = some o) :
    (s.onObject slot f).Seats u i k ↔
      if i = slot then (f o s.users.cells).1.users.get? k = some u else s.Seats u i k := by
  by_cases hi : i = slot
  · rw [if_pos hi]
    exact seats_of_object (by rw [onObject_get? ho, if_pos hi])
  · rw [if_neg hi]
    unfold Seats
    rw [onObject_get? ho, if_neg hi]

end OnObject

/-- **What an act does to a user**: it stays where it is, it is nowhere afterwards, or it is in one
    place afterwards. Its view stays or goes, unless it is refreshed. -/
inductive Fate (s : ObjectSlots) (a : Act) (u : UserId) : Prop where
  | stays (held : s.Held u) (key : ((a.perform s).cell u).key = (s.cell u).key)
      (seats : ∀ i k, (a.perform s).Seats u i k ↔ s.Seats u i k)
      (view : ((a.perform s).cell u).view = none ∨ ((a.perform s).cell u).view = (s.cell u).view ∨
        ∃ slot o, a = .refresh slot u ∧ s.objects.get? slot = some o ∧
          ((a.perform s).cell u).view = some o.view)
  | leaves (key : ((a.perform s).cell u).key = none) (seats : ∀ i k, ¬ (a.perform s).Seats u i k)
      (view : ((a.perform s).cell u).view = none ∨
        ∃ slot, a = .delist slot u ∧ s.owns slot u = some true ∧ s.Held u ∧
          ((a.perform s).cell u).view = (s.cell u).view)
  | enters (i : Nat) (k : SlotKey) (key : ((a.perform s).cell u).key = some k)
      (seats : ∀ j l, (a.perform s).Seats u j l ↔ j = i ∧ l = k)
      (view : ((a.perform s).cell u).view = none ∨
        ∃ slot, a = .enlist slot u ∧ (s.cell u).key = none ∧ s.Held u ∧
          ((a.perform s).cell u).view = (s.cell u).view)

/-- What an act leaves in order, and what it does to everybody who is held afterwards. -/
structure Conducts (s : ObjectSlots) (a : Act) : Prop where
  tidy : ∀ slot o, (a.perform s).objects.get? slot = some o → o.users.Tidy
  known : ∀ u slot k, (a.perform s).Seats u slot k →
    u.number < (a.perform s).users.cells.cells.size
  fate : ∀ u, (a.perform s).Held u → Fate s a u

/-- Where the places and the keys are what they were. -/
theorem conducts_of_same {a : Act} (h : Orderly s)
    (htidy : ∀ slot o, (a.perform s).objects.get? slot = some o → o.users.Tidy)
    (hsize : s.users.cells.cells.size ≤ (a.perform s).users.cells.cells.size)
    (hseats : ∀ u i k, (a.perform s).Seats u i k → s.Seats u i k)
    (hfate : ∀ u, (a.perform s).Held u → Fate s a u) : Conducts s a :=
  ⟨htidy, fun u i k hu => Nat.lt_of_lt_of_le (h.known u i k (hseats u i k hu)) hsize, hfate⟩

/-- Nothing but who is held changed, and views. -/
theorem cells_conducts {a : Act} {f : UserTable → UserTable} (h : Orderly s)
    (ha : a.perform s = s.onCells f)
    (hsize : s.users.cells.cells.size ≤ (f s.users.cells).cells.size)
    (hf : ∀ u, ((f s.users.cells).cell u).alive = true → Fate s a u) : Conducts s a := by
  refine conducts_of_same h (fun slot o ho => ?_) ?_ (fun u i k hu => ?_) fun u hu => hf u ?_
  · rw [ha] at ho
    exact h.tidy slot o ho
  · rw [ha]
    exact hsize
  · rw [ha] at hu
    exact hu
  · unfold Held at hu
    rw [ha] at hu
    exact hu

/-! ## 4. Act by act -/

/-- A user that is held and whose cell keeps its key and its view stays. -/
theorem Fate.same {a : Act} (hheld : s.Held u)
    (hkey : ((a.perform s).cell u).key = (s.cell u).key)
    (hview : ((a.perform s).cell u).view = (s.cell u).view)
    (hseats : ∀ i k, (a.perform s).Seats u i k ↔ s.Seats u i k) : Fate s a u :=
  .stays hheld hkey hseats (.inr (.inl hview))

/-- A user that is held and keeps its cell stays. -/
theorem Fate.unchanged {a : Act} (hheld : s.Held u) (hcell : (a.perform s).cell u = s.cell u)
    (hseats : ∀ i k, (a.perform s).Seats u i k ↔ s.Seats u i k) : Fate s a u :=
  .same hheld (by rw [hcell]) (by rw [hcell]) hseats

/-- Nothing happens. -/
theorem conducts_of_eq {a : Act} (h : Orderly s) (ha : a.perform s = s) : Conducts s a := by
  refine conducts_of_same h (fun slot o ho => ?_) ?_ (fun u i k hu => ?_) fun u hu => ?_
  · rw [ha] at ho
    exact h.tidy slot o ho
  · exact Nat.le_of_eq (by rw [ha])
  · rw [ha] at hu
    exact hu
  · rw [ha] at hu
    exact .same hu (by rw [ha]) (by rw [ha]) fun i k => by rw [ha]

theorem make_conducts (h : Orderly s) (ho : s.objects.get? slot = none) (a : Placement)
    (size : Nat) : Conducts s (.make slot a size) := by
  have hget (i : Nat) : ((Act.make slot a size).perform s).objects.get? i =
      if i = slot then some (.new a size) else s.objects.get? i :=
    Table.get?_insert s.objects slot i _
  have hseats (u : UserId) (i : Nat) (k : SlotKey) :
      ((Act.make slot a size).perform s).Seats u i k ↔ s.Seats u i k := by
    by_cases hi : i = slot
    · subst hi
      refine ⟨fun hnew => ?_, fun hold => absurd hold (not_seats_of_none ho)⟩
      rw [seats_of_object (by rw [hget, if_pos rfl])] at hnew
      cases hnew
    · unfold Seats
      rw [hget, if_neg hi]
  refine conducts_of_same h (fun i o hi => ?_) (Nat.le_refl _) (fun u i k => (hseats u i k).mp)
    fun u hu => .same hu rfl rfl (hseats u)
  rw [hget] at hi
  split at hi
  · cases hi
    exact SlotMap.tidy_empty
  · exact h.tidy i o hi

theorem drop_conducts (h : Orderly s)
    (hcount : ∀ o, s.objects.get? slot = some o → o.liveUserCount s.users.cells = 0) :
    Conducts s (.drop slot) := by
  have hget (i : Nat) : ((Act.drop slot).perform s).objects.get? i =
      if i = slot then none else s.objects.get? i := Table.get?_erase s.objects slot i
  have hseats (u : UserId) (i : Nat) (k : SlotKey) :
      ((Act.drop slot).perform s).Seats u i k ↔ i ≠ slot ∧ s.Seats u i k := by
    by_cases hi : i = slot
    · subst hi
      exact ⟨fun hgone => absurd hgone (not_seats_of_none (by rw [hget, if_pos rfl])),
        fun hne => absurd rfl hne.1⟩
    · unfold Seats
      rw [hget, if_neg hi]
      exact (and_iff_right hi).symm
  refine conducts_of_same h (fun i o hi => ?_) (Nat.le_refl _)
    (fun u i k hu => ((hseats u i k).mp hu).2) fun u hu => .same hu rfl rfl fun i k =>
      (hseats u i k).trans (and_iff_right_of_imp fun hold hi => ?_)
  · rw [hget] at hi
    split at hi
    · cases hi
    · exact h.tidy i o hi
  · -- the object that goes lists nobody who is held
    subst hi
    obtain ⟨o, ho, hk⟩ := hold
    have hdead := BufferObject.liveUserCount_eq_zero.mp (hcount o ho) u ⟨k, hk⟩
    exact absurd (hdead.symm.trans hu) Bool.false_ne_true

theorem add_conducts (h : Orderly s) : Conducts s .add := by
  refine cells_conducts (f := fun t => t.add.2) h rfl ?_ fun u hu => ?_
  · rw [UserTable.size_add]
    exact Nat.le_succ _
  · have hcell : (Act.add.perform s).cell u = _ := UserTable.cell_add s.users.cells u
    rw [UserTable.cell_add] at hu
    by_cases hnew : u = s.users.cells.add.1
    · -- the new user has a number that was not in use
      rw [if_pos hnew] at hcell
      refine .leaves (by rw [hcell]) (fun i k hseat => ?_) (.inl (by rw [hcell]))
      have hlt := h.known u i k hseat
      rw [hnew] at hlt
      exact Nat.lt_irrefl _ hlt
    · rw [if_neg hnew] at hu hcell
      exact .same hu (by rw [hcell]; rfl) (by rw [hcell]; rfl) fun i k => Iff.rfl

/-- A user is held by more, or by fewer. -/
theorem holders_conducts {a : Act} {f : UserCell → UserCell} (h : Orderly s) (hu : s.Held u)
    (ha : a.perform s = s.onCells (·.update u f)) (hkey : ∀ c, (f c).key = c.key)
    (hview : ∀ c, (f c).view = c.view) : Conducts s a := by
  have hlt := UserTable.lt_of_alive hu
  refine cells_conducts h ha (Nat.le_of_eq (UserTable.size_update ..).symm) fun v hv => ?_
  have hcell : (a.perform s).cell v = if v = u then f (s.cell u) else s.cell v := by
    rw [ha]
    exact UserTable.cell_update hlt f v
  have hseats (i : Nat) (k : SlotKey) : (a.perform s).Seats v i k ↔ s.Seats v i k := by
    rw [ha]
    exact Iff.rfl
  rw [UserTable.cell_update hlt] at hv
  by_cases hvu : v = u
  · subst hvu
    rw [if_pos rfl] at hcell
    exact .same hu (by rw [hcell, hkey]) (by rw [hcell, hview]) hseats
  · rw [if_neg hvu] at hv hcell
    exact .same hv (by rw [hcell]) (by rw [hcell]) hseats

section OnObject

variable {a : Act} {f : BufferObject → UserTable → BufferObject × UserTable}

/-- The object of one slot changes, with the cells: who is listed there is known, and nobody else is
    touched. -/
theorem onObject_conducts (h : Orderly s) (ha : a.perform s = s.onObject slot f)
    (ho : s.objects.get? slot = some o) (htidy : (f o s.users.cells).1.users.Tidy)
    (hsize : (f o s.users.cells).2.cells.size = s.users.cells.cells.size)
    (hknown : ∀ k u, (f o s.users.cells).1.users.get? k = some u →
      u.number < s.users.cells.cells.size)
    (hfate : ∀ u, s.Held u →
      (∀ v, (a.perform s).cell v = (f o s.users.cells).2.cell v) →
      (∀ i k, (a.perform s).Seats u i k ↔
        if i = slot then (f o s.users.cells).1.users.get? k = some u else s.Seats u i k) →
      Fate s a u)
    (hheld : ∀ u, ((f o s.users.cells).2.cell u).alive = (s.cell u).alive) : Conducts s a := by
  have hcell (v : UserId) : (a.perform s).cell v = (f o s.users.cells).2.cell v := by
    rw [ha]
    exact onObject_cell ho v
  have hseats (v : UserId) (i : Nat) (k : SlotKey) : (a.perform s).Seats v i k ↔
      if i = slot then (f o s.users.cells).1.users.get? k = some v else s.Seats v i k := by
    rw [ha]
    exact onObject_seats ho
  have hsame : (a.perform s).users.cells.cells.size = s.users.cells.cells.size := by
    rw [ha, onObject_size ho, hsize]
  refine ⟨fun i p hp => ?_, fun u i k hu => ?_, fun u hu => hfate u ?_ hcell (hseats u)⟩
  · rw [ha, onObject_get? ho] at hp
    split at hp
    · cases hp
      exact htidy
    · exact h.tidy i p hp
  · rw [hsame]
    rw [hseats] at hu
    split at hu
    · exact hknown k u hu
    · exact h.known u i k hu
  · unfold Held at hu ⊢
    rw [hcell, hheld] at hu
    exact hu

/-- There is no object in the slot. -/
theorem missing_conducts (h : Orderly s) (ha : a.perform s = s.onObject slot f)
    (ho : s.objects.get? slot = none) : Conducts s a :=
  conducts_of_eq h (ha.trans (onObject_none ho f))

/-- The object and the cells are what they were. -/
theorem idle_conducts (h : Orderly s) (ha : a.perform s = s.onObject slot f)
    (ho : s.objects.get? slot = some o) (hf : f o s.users.cells = (o, s.users.cells)) :
    Conducts s a := by
  refine onObject_conducts h ha ho ?_ ?_ ?_ ?_ ?_
  · rw [hf]
    exact h.tidy slot o ho
  · rw [hf]
  · rw [hf]
    exact fun k u hk => h.known u slot k ⟨o, ho, hk⟩
  · rw [hf]
    intro u hu hcell hseats
    exact .unchanged hu (hcell u) fun i k => (hseats i k).trans (seats_of_slot ho Iff.rfl)
  · rw [hf]
    exact fun _ => rfl

end OnObject

theorem refresh_conducts (h : Orderly s) (hu : s.Held u) : Conducts s (.refresh slot u) := by
  cases ho : s.objects.get? slot with
  | none => exact missing_conducts (f := fun o t => (o, (o.refresh t u).2)) h rfl ho
  | some o =>
    have hlt := UserTable.lt_of_alive hu
    have hupdate (v : UserId) : (o.refresh s.users.cells u).2.cell v =
        if v = u then { s.cell u with view := some o.view } else s.cell v :=
      UserTable.cell_update hlt _ v
    refine onObject_conducts (f := fun o t => (o, (o.refresh t u).2)) h rfl ho (h.tidy slot o ho)
      (UserTable.size_update ..)
      (fun k v hk => h.known v slot k ⟨o, ho, hk⟩) (fun v hv hcell hseats => ?_)
      (UserTable.alive_update hlt fun _ => rfl)
    · have hcell := (hcell v).trans (hupdate v)
      have hseats (i : Nat) (k : SlotKey) :
          ((Act.refresh slot u).perform s).Seats v i k ↔ s.Seats v i k :=
        (hseats i k).trans (seats_of_slot ho Iff.rfl)
      by_cases hvu : v = u
      · subst hvu
        rw [if_pos rfl] at hcell
        exact .stays hv (by rw [hcell]) hseats (.inr (.inr ⟨slot, o, rfl, ho, by rw [hcell]⟩))
      · rw [if_neg hvu] at hcell
        exact .unchanged hv hcell hseats

/-- **A user that is registered enters the place it is given**, unless it is there already. -/
theorem enlist_conducts (h : Orderly s) (hu : s.Held u) (hapart : (Act.enlist slot u).Apart s) :
    Conducts s (.enlist slot u) := by
  cases ho : s.objects.get? slot with
  | none => exact missing_conducts (f := fun o t => o.enlist t u) h rfl ho
  | some o =>
    cases howns : o.owns s.users.cells u with
    | true => exact idle_conducts (f := fun o t => o.enlist t u) h rfl ho (if_pos howns)
    | false =>
      have hlt := UserTable.lt_of_alive hu
      have htidy := h.tidy slot o ho
      have hnokey : (s.cell u).key = none := by
        have hentry := hapart (by rw [owns_of_object ho, howns])
        simpa [UserCell.hasEntry] using hentry
      have hnowhere (i : Nat) (k : SlotKey) : ¬ s.Seats u i k := (h.placed u hu).not_seats hnokey
      have henter := BufferObject.enlist_of_not_owns howns
      refine onObject_conducts (f := fun o t => o.enlist t u) h rfl ho ?_ ?_ ?_ ?_ ?_
      all_goals simp only [henter]
      · exact BufferObject.tidy_enter htidy _ _
      · exact UserTable.size_update ..
      · intro k v hk
        rw [BufferObject.get?_enter htidy] at hk
        split at hk
        · cases hk
          exact hlt
        · exact h.known v slot k ⟨o, ho, hk⟩
      · intro v hv hcell hseats
        have hcell := (hcell v).trans (BufferObject.cell_enter hlt v)
        by_cases hvu : v = u
        · subst hvu
          rw [if_pos rfl] at hcell
          simp only [BufferObject.get?_enter htidy] at hseats
          refine .enters slot (o.users.insert v).1 (by rw [hcell]) (fun j l => ?_)
            (.inr ⟨slot, rfl, hnokey, hu, by rw [hcell]; rfl⟩)
          rw [hseats]
          split
          · rename_i hj
            subst hj
            split
            · rename_i hl
              simp only [hl, and_self]
            · rename_i hl
              simp only [hl, and_false, iff_false]
              exact fun hk => hnowhere _ _ ⟨o, ho, hk⟩
          · rename_i hj
            simp only [hj, false_and, iff_false]
            exact hnowhere j l
        · rw [if_neg hvu] at hcell
          exact .unchanged hv hcell fun i k =>
            (hseats i k).trans (seats_of_slot ho (SlotMap.get?_insert_of_ne htidy hvu))
      · exact UserTable.alive_update hlt fun _ => rfl

/-- **A user that is taken from the registry of its object is nowhere afterwards**; any other one
    stays. -/
theorem delist_conducts (h : Orderly s) (hu : s.Held u) : Conducts s (.delist slot u) := by
  cases ho : s.objects.get? slot with
  | none => exact missing_conducts (f := fun o t => o.delist t u) h rfl ho
  | some o =>
    cases howns : o.owns s.users.cells u with
    | false =>
      exact idle_conducts (f := fun o t => o.delist t u) h rfl ho
        (BufferObject.delist_of_not_owns howns)
    | true =>
      have hlt := UserTable.lt_of_alive hu
      have htidy := h.tidy slot o ho
      obtain ⟨k, hkey, hk⟩ := BufferObject.owns_iff.mp howns
      have hseat : s.Seats u slot k := ⟨o, ho, hk⟩
      have hcells (v : UserId) : (s.users.cells.putKey u none).cell v =
          if v = u then { s.cell u with key := none } else s.cell v :=
        UserTable.cell_update hlt _ v
      refine onObject_conducts (f := fun o t => o.delist t u) h rfl ho ?_ ?_ ?_ ?_ ?_
      all_goals simp only [BufferObject.delist_of_owns howns hkey]
      · exact SlotMap.tidy_erase htidy k
      · exact UserTable.size_update ..
      · intro l v hl
        rw [SlotMap.get?_erase] at hl
        split at hl
        · cases hl
        · exact h.known v slot l ⟨o, ho, hl⟩
      · intro v hv hcell hseats
        have hcell := (hcell v).trans (hcells v)
        by_cases hvu : v = u
        · subst hvu
          rw [if_pos rfl] at hcell
          simp only [SlotMap.get?_erase] at hseats
          refine .leaves (by rw [hcell]) (fun j l => ?_)
            (.inr ⟨slot, rfl, by rw [owns_of_object ho, howns], hu, by rw [hcell]⟩)
          rw [hseats]
          intro hj
          split at hj
          · split at hj
            · cases hj
            · rename_i hl
              exact hl ((h.placed v hu).unique ⟨o, ho, hj⟩ hseat).2
          · rename_i hne
            exact hne ((h.placed v hu).unique hj hseat).1
        · rw [if_neg hvu] at hcell
          exact .unchanged hv hcell fun i l =>
            (hseats i l).trans (seats_of_slot ho (SlotMap.get?_erase_of_ne hk hvu))
      · exact UserTable.alive_update hlt fun _ => rfl

/-- Whoever is listed loses the view, and keeps the place. -/
theorem forget_conducts (h : Orderly s) : Conducts s (.forget slot) := by
  cases ho : s.objects.get? slot with
  | none => exact missing_conducts (f := BufferObject.forgetViews) h rfl ho
  | some o =>
    have htidy := h.tidy slot o ho
    refine onObject_conducts (f := BufferObject.forgetViews) h rfl ho
      (BufferObject.tidy_forgetViews htidy _) (BufferObject.size_forgetViews _ _)
      (fun k v hk => h.known v slot k ⟨o, ho, ((BufferObject.get?_forgetViews htidy _ k v).mp hk).1⟩)
      (fun v hv hcell hseats => ?_) (BufferObject.alive_forgetViews htidy _)
    have hcell := (hcell v).trans (BufferObject.cell_forgetViews htidy _ v)
    have hkept (k : SlotKey) := (BufferObject.get?_forgetViews htidy s.users.cells k v).trans
      (and_iff_left hv)
    refine .stays hv ?_ (fun i k => (hseats i k).trans (seats_of_slot ho (hkept k))) ?_
    · rw [hcell]
      split
      · rfl
      · rfl
    · rw [hcell]
      split
      · exact .inl rfl
      · exact .inr (.inl rfl)

/-- **Whoever is listed by an object that dismisses its users is nowhere afterwards**, without a
    view. -/
theorem dismiss_conducts (h : Orderly s) : Conducts s (.dismiss slot) := by
  cases ho : s.objects.get? slot with
  | none => exact missing_conducts (f := BufferObject.dismissUsers) h rfl ho
  | some o =>
    have htidy := h.tidy slot o ho
    refine onObject_conducts (f := BufferObject.dismissUsers) h rfl ho
      (BufferObject.tidy_dismissUsers htidy _) (BufferObject.size_dismissUsers _ _)
      (fun k v hk => by rw [BufferObject.get?_dismissUsers htidy] at hk; cases hk)
      (fun v hv hcell hseats => ?_) (BufferObject.alive_dismissUsers htidy _)
    have hcell := (hcell v).trans (BufferObject.cell_dismissUsers htidy _ v)
    simp only [BufferObject.get?_dismissUsers htidy, reduceCtorEq] at hseats
    by_cases hlists : o.Lists v
    · obtain ⟨k, hk⟩ := hlists
      rw [if_pos ⟨⟨k, hk⟩, hv⟩] at hcell
      refine .leaves (by rw [hcell]) (fun j l hj => ?_) (.inl (by rw [hcell]))
      rw [hseats] at hj
      split at hj
      · exact hj
      · rename_i hne
        exact hne ((h.placed v hv).unique hj ⟨o, ho, hk⟩).1
    · rw [if_neg fun hc => hlists hc.1] at hcell
      exact .unchanged hv hcell fun i k => (hseats i k).trans
        (seats_of_slot ho ⟨False.elim, fun hk => hlists ⟨k, hk⟩⟩)

section Transfer

/-! A move of users is the only act on two objects. -/

theorem transfer_eq (ho : s.objects.get? slot = some o) (hp : s.objects.get? target = some p)
    (hne : slot ≠ target) :
    (s.transfer slot target).users.cells = (o.moveUsers p s.users.cells).2.2 ∧
      ∀ i, (s.transfer slot target).objects.get? i =
        if i = target then some (o.moveUsers p s.users.cells).2.1
        else if i = slot then some (o.moveUsers p s.users.cells).1 else s.objects.get? i := by
  unfold transfer
  rw [ho, hp]
  simp only [hne, if_false]
  refine ⟨rfl, fun i => ?_⟩
  unfold put
  simp only [Table.get?_insert]

theorem transfer_seats (ho : s.objects.get? slot = some o) (hp : s.objects.get? target = some p)
    (hne : slot ≠ target) (htidy : o.users.Tidy) : (s.transfer slot target).Seats u i k ↔
      if i = target then (o.moveUsers p s.users.cells).2.1.users.get? k = some u
      else i ≠ slot ∧ s.Seats u i k := by
  obtain ⟨-, hget⟩ := transfer_eq ho hp hne
  split
  · rename_i hi
    exact seats_of_object (by rw [hget, if_pos hi])
  · rename_i hi
    by_cases hslot : i = slot
    · rw [seats_of_object (by rw [hget, if_neg hi, if_pos hslot]),
        BufferObject.get?_moveUsers htidy]
      simp only [reduceCtorEq, hslot, ne_eq, not_true, false_and]
    · rw [and_iff_right hslot]
      unfold Seats
      rw [hget, if_neg hi, if_neg hslot]

/-- A user that is listed and held enters the object that takes over. -/
theorem transfer_fate (h : Orderly s) (ho : s.objects.get? slot = some o)
    (hp : s.objects.get? target = some p) (hne : slot ≠ target) (hu : s.Held u)
    (hlists : o.Lists u) : Fate s (.move slot target) u := by
  have htidy := h.tidy slot o ho
  have hmoved := BufferObject.moveUsers_entered htidy (h.tidy target p hp) s.users.cells
  have hmem : u ∈ o.movers s.users.cells := (BufferObject.mem_movers htidy).mpr ⟨hlists, hu⟩
  obtain ⟨k₀, hk₀⟩ := hlists
  -- it was in the object that is left, and nowhere else
  have honly {j : Nat} {l : SlotKey} (hj : s.Seats u j l) : j = slot :=
    ((h.placed u hu).unique hj ⟨o, ho, hk₀⟩).1
  have hnodup : (o.movers s.users.cells).Nodup :=
    BufferObject.movers_nodup htidy fun v l l' hv hl hl' =>
      ((h.placed v hv).unique ⟨o, ho, hl⟩ ⟨o, ho, hl'⟩).2
  have hfree (l : SlotKey) (hl : p.users.get? l = some u) : False :=
    hne (honly ⟨p, hp, hl⟩).symm
  obtain ⟨k, hkey, hk, -⟩ := hmoved.keyed u hmem
  have hcell : ((Act.move slot target).perform s).cell u =
      (o.moveUsers p s.users.cells).2.2.cell u :=
    congrArg (·.cell u) (transfer_eq ho hp hne).1
  refine .enters target k (by rw [hcell, hkey]) (fun j l => ?_) (.inl ?_)
  · refine (transfer_seats ho hp hne htidy).trans ?_
    split
    · rename_i hj
      simp only [hj, true_and]
      refine ⟨fun hl => ?_, by rintro rfl; exact hk⟩
      have hnew : p.users.get? l = none := by
        rcases hold : p.users.get? l with - | v
        · rfl
        · cases (hmoved.stay l v hold).symm.trans hl
          exact (hfree l hold).elim
      exact Option.some.inj ((hmoved.single hnodup u hmem l hl hnew).symm.trans hkey)
    · rename_i hj
      simp only [hj, false_and, iff_false, not_and]
      exact fun hslot hold => hslot (honly hold)
  · rw [hcell]
    exact BufferObject.view_moveUsers htidy (h.tidy target p hp) ⟨k₀, hk₀⟩ hu

/-- A user that is not listed by the object that is left stays. -/
theorem transfer_stays (h : Orderly s) (ho : s.objects.get? slot = some o)
    (hp : s.objects.get? target = some p) (hne : slot ≠ target) (hu : s.Held u)
    (hlists : ¬ o.Lists u) : Fate s (.move slot target) u := by
  have htidy := h.tidy slot o ho
  have hmoved := BufferObject.moveUsers_entered htidy (h.tidy target p hp) s.users.cells
  have hmem : u ∉ o.movers s.users.cells := fun hmem =>
    hlists ((BufferObject.mem_movers htidy).mp hmem).1
  refine .unchanged hu ?_ fun i k => (transfer_seats ho hp hne htidy).trans ?_
  · exact (congrArg (·.cell u) (transfer_eq ho hp hne).1).trans
      (BufferObject.cell_moveUsers htidy (h.tidy target p hp) _ hlists)
  · split
    · rename_i hi
      rw [hi, seats_of_object hp]
      exact ⟨fun hk => (hmoved.come k u hk).resolve_right hmem, hmoved.stay k u⟩
    · refine and_iff_right_of_imp fun hold hi => ?_
      rw [hi, seats_of_object ho] at hold
      exact hlists ⟨k, hold⟩

/-- **Whoever is listed moves to the object that takes over**, and to one place there. -/
theorem move_conducts (h : Orderly s) : Conducts s (.move slot target) := by
  cases ho : s.objects.get? slot with
  | none => exact conducts_of_eq h (by unfold Act.perform transfer; simp only [ho])
  | some o =>
    cases hp : s.objects.get? target with
    | none => exact conducts_of_eq h (by unfold Act.perform transfer; simp only [ho, hp])
    | some p =>
      by_cases hne : slot = target
      · subst hne
        exact conducts_of_eq h (by unfold Act.perform transfer; simp only [ho, if_true])
      · obtain ⟨hcells, hget⟩ := transfer_eq ho hp hne
        have htidy := h.tidy slot o ho
        have hmoved := BufferObject.moveUsers_entered htidy (h.tidy target p hp) s.users.cells
        refine ⟨fun i q hq => ?_, fun u i k hu => ?_, fun u hu => ?_⟩
        · have hq := (hget i).symm.trans hq
          split at hq
          · cases hq
            exact hmoved.tidy
          · split at hq
            · cases hq
              exact BufferObject.tidy_moveUsers htidy p s.users.cells
            · exact h.tidy i q hq
        · have hsize : (s.transfer slot target).users.cells.cells.size =
              s.users.cells.cells.size :=
            (congrArg (·.cells.size) hcells).trans
              (BufferObject.size_moveUsers htidy (h.tidy target p hp) _)
          refine Nat.lt_of_lt_of_eq ?_ hsize.symm
          have hu := (transfer_seats ho hp hne htidy).mp hu
          split at hu
          · rcases hmoved.come k u hu with hk | hmem
            · exact h.known u target k ⟨p, hp, hk⟩
            · exact UserTable.lt_of_alive ((BufferObject.mem_movers htidy).mp hmem).2
          · exact h.known u i k hu.2
        · have hu : s.Held u := by
            unfold Held at hu ⊢
            rw [show ((Act.move slot target).perform s).cell u = _ from
              congrArg (·.cell u) hcells] at hu
            exact (BufferObject.alive_moveUsers htidy (h.tidy target p hp) _ u).symm.trans hu
          by_cases hlists : o.Lists u
          · exact transfer_fate h ho hp hne hu hlists
          · exact transfer_stays h ho hp hne hu hlists

end Transfer

/-! ## 5. One act after the other -/

variable {a : Act}

theorem conducts (h : Orderly s) (ha : a.Allowed s) (hapart : a.Apart s) : Conducts s a := by
  cases a with
  | make slot a size => exact make_conducts h ha a size
  | drop slot => exact drop_conducts h ha
  | add => exact add_conducts h
  | hold u => exact holders_conducts h ha rfl (fun _ => rfl) fun _ => rfl
  | letGo u => exact holders_conducts h ha rfl (fun _ => rfl) fun _ => rfl
  | enlist slot u => exact enlist_conducts h ha hapart
  | delist slot u => exact delist_conducts h ha
  | refresh slot u => exact refresh_conducts h ha
  | forget slot => exact forget_conducts h
  | move slot target => exact move_conducts h
  | dismiss slot => exact dismiss_conducts h

/-- Whatever happens to a user, it is in no place or in one. -/
theorem Fate.placed (h : Orderly s) (hf : Fate s a u) : (a.perform s).Placed u := by
  cases hf with
  | stays held key seats view =>
    cases h.placed u held with
    | nowhere hkey hseats =>
      exact .nowhere (key.trans hkey) fun i k hk => hseats i k ((seats i k).mp hk)
    | inPlace i k hkey hseats =>
      exact .inPlace i k (key.trans hkey) fun j l => (seats j l).trans (hseats j l)
  | leaves key seats view => exact .nowhere key seats
  | enters i k key seats view => exact .inPlace i k key seats

theorem Orderly.perform (h : Orderly s) (ha : a.Allowed s) (hapart : a.Apart s) :
    Orderly (a.perform s) :=
  have hc := conducts h ha hapart
  ⟨hc.tidy, hc.known, fun u hu => (hc.fate u hu).placed h⟩

end ObjectSlots

end BufferCoherence
