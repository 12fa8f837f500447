import BufferCoherence.Object.Users
import BufferCoherence.Proofs.SlotMap

/-!
# Users and their entries

What each step on the users of an object does, seen through two things: the cells, and which user a
key finds in the registry of an object. `BufferObject.Lists` says that some key finds the user there,
which is what a client means by an entry; the user itself remembers one key only.

* a user that is entered gets a key that found nothing before (`get?_enter`);
* `forgetViews` takes the views of those who are listed and held, and keeps their entries
  (`get?_forgetViews`, `cell_forgetViews`); `dismissUsers` takes their views and their keys, and
  keeps no entry (`cell_dismissUsers`, `get?_dismissUsers`);
* users that are entered one after the other all find themselves afterwards, each under a key of
  its own (`BufferObject.Entered`), which is how they move (`moveUsers_entered`).
-/

namespace BufferCoherence

/-! ## 1. Cells -/

/-- Only its holders keep a user. -/
theorem UserCell.alive_withKey (c : UserCell) (key : Option SlotKey) :
    ({ c with key } : UserCell).alive = c.alive := rfl

namespace UserTable

variable {t : UserTable} {u v : UserId} {f : UserCell → UserCell}

/-- Whoever is held has a cell. -/
theorem lt_of_alive (h : (t.cell u).alive = true) : u.number < t.cells.size := by
  refine Classical.byContradiction fun hlt => ?_
  unfold cell at h
  rw [Array.getElem?_eq_none (Nat.le_of_not_lt hlt)] at h
  cases h

@[simp] theorem size_update (t : UserTable) (u : UserId) (f : UserCell → UserCell) :
    (t.update u f).cells.size = t.cells.size := Array.size_setIfInBounds

theorem cell_update (hu : u.number < t.cells.size) (f : UserCell → UserCell) (v : UserId) :
    (t.update u f).cell v = if v = u then f (t.cell u) else t.cell v := by
  unfold update
  by_cases h : v = u
  · subst h
    rw [if_pos rfl]
    unfold cell
    rw [Array.getElem?_setIfInBounds_self_of_lt hu]
    rfl
  · rw [if_neg h]
    unfold cell
    rw [Array.getElem?_setIfInBounds_ne fun e => h (by cases u; cases v; cases e; rfl)]

theorem cell_update_ne (h : v ≠ u) : (t.update u f).cell v = t.cell v := by
  by_cases hu : u.number < t.cells.size
  · rw [cell_update hu, if_neg h]
  · unfold update
    rw [Array.setIfInBounds_eq_of_size_le (Nat.le_of_not_lt hu)]

/-- A change that nobody is let go by. -/
theorem alive_update (hu : u.number < t.cells.size) (hf : ∀ c, (f c).alive = c.alive)
    (v : UserId) : ((t.update u f).cell v).alive = (t.cell v).alive := by
  rw [cell_update hu]
  split
  · rename_i h
    rw [hf, h]
  · rfl

/-- A new user, which somebody holds, and nothing else is different. -/
theorem cell_add (t : UserTable) (v : UserId) :
    t.add.2.cell v = if v = t.add.1 then ⟨none, none, 1⟩ else t.cell v := by
  unfold add cell
  obtain ⟨n⟩ := v
  simp only [UserId.mk.injEq, Array.getElem?_push]
  split
  · rfl
  · rfl

@[simp] theorem size_add (t : UserTable) : t.add.2.cells.size = t.cells.size + 1 :=
  Array.size_push _

/-- The same change for each of some users, where making it twice makes no difference. -/
theorem cell_foldl (hf : ∀ c, f (f c) = f c) (us : List UserId)
    (hus : ∀ u ∈ us, u.number < t.cells.size) (v : UserId) :
    (us.foldl (fun t u => t.update u f) t).cell v = if v ∈ us then f (t.cell v) else t.cell v := by
  induction us generalizing t with
  | nil => rw [if_neg List.not_mem_nil]; rfl
  | cons u rest ih =>
    have hu := hus u List.mem_cons_self
    rw [List.foldl_cons, ih fun w hw => by
      rw [size_update]; exact hus w (List.mem_cons_of_mem _ hw)]
    by_cases hvu : v = u
    · subst hvu
      rw [cell_update hu, if_pos rfl, hf, ite_self, if_pos List.mem_cons_self]
    · rw [cell_update_ne hvu]
      simp only [List.mem_cons, hvu, false_or]

@[simp] theorem size_foldl (us : List UserId) (f : UserCell → UserCell) :
    (us.foldl (fun t u => t.update u f) t).cells.size = t.cells.size := by
  induction us generalizing t with
  | nil => rfl
  | cons u rest ih => rw [List.foldl_cons, ih, size_update]

end UserTable

namespace BufferObject

variable {o o' target : BufferObject} {t t' : UserTable} {u v : UserId} {k : SlotKey}
  {us : List UserId}

/-! ## 2. Entries -/

/-- The user has an entry in the registry of the object. -/
def Lists (o : BufferObject) (u : UserId) : Prop := ∃ k, o.users.get? k = some u

/-- **An object owns a user whose own key finds it.** -/
theorem owns_iff : o.owns t u = true ↔ ∃ k, (t.cell u).key = some k ∧ o.users.get? k = some u := by
  unfold owns
  cases (t.cell u).key with
  | none => simp only [Bool.false_eq_true, reduceCtorEq, false_and, exists_false]
  | some k => simp only [beq_iff_eq, Option.some.injEq, exists_eq_left']

theorem lists_of_owns (h : o.owns t u = true) : o.Lists u := by
  obtain ⟨k, -, hk⟩ := owns_iff.mp h
  exact ⟨k, hk⟩

/-- A new object lists nobody. -/
theorem not_lists_new (a : Placement) (size : Nat) : ¬ (new a size).Lists u :=
  fun ⟨_, h⟩ => nomatch h

theorem mem_values : u ∈ o.users.values ↔ o.Lists u := SlotMap.mem_values

/-- No user is counted where nobody who is listed is held. -/
theorem liveUserCount_eq_zero :
    o.liveUserCount t = 0 ↔ ∀ u, o.Lists u → (t.cell u).alive = false := by
  unfold liveUserCount
  rw [List.countP_eq_zero]
  simp only [mem_values, Bool.not_eq_true]

/-! ## 3. Entering -/

/-- The new entry, and those there were. -/
theorem get?_enter (ho : o.users.Tidy) (t : UserTable) (u : UserId) (k : SlotKey) :
    (o.enter t u).1.users.get? k =
      if k = (o.users.insert u).1 then some u else o.users.get? k :=
  SlotMap.get?_insert ho u k

/-- Nobody else comes to be listed. -/
theorem lists_of_enter (ho : o.users.Tidy) (h : (o.enter t u).1.Lists v) : v = u ∨ o.Lists v := by
  obtain ⟨k, hk⟩ := h
  rw [get?_enter ho] at hk
  split at hk
  · exact .inl (Option.some.inj hk).symm
  · exact .inr ⟨k, hk⟩

theorem tidy_enter (ho : o.users.Tidy) (t : UserTable) (u : UserId) :
    (o.enter t u).1.users.Tidy := SlotMap.tidy_insert ho u

theorem cell_enter (hu : u.number < t.cells.size) (v : UserId) :
    (o.enter t u).2.cell v =
      if v = u then { t.cell u with key := some (o.users.insert u).1 } else t.cell v :=
  UserTable.cell_update hu _ v

theorem enlist_of_not_owns (h : o.owns t u = false) : o.enlist t u = o.enter t u :=
  if_neg (by rw [h]; exact Bool.false_ne_true)

/-- A user that has no entry is entered. -/
theorem enlist_of_not_lists (h : ¬ o.Lists u) : o.enlist t u = o.enter t u :=
  enlist_of_not_owns ((Bool.not_eq_true _).mp fun howns => h (lists_of_owns howns))

/-- **A user that is entered is owned**, and so is whoever was. -/
theorem owns_enter (ho : o.users.Tidy) (hu : u.number < t.cells.size) :
    (o.enter t u).1.owns (o.enter t u).2 u = true :=
  owns_iff.mpr ⟨_, by rw [cell_enter hu, if_pos rfl], by rw [get?_enter ho, if_pos rfl]⟩

theorem owns_enter_of_ne (ho : o.users.Tidy) (hvu : v ≠ u) :
    (o.enter t u).1.owns (o.enter t u).2 v = true ↔ o.owns t v = true := by
  have hcell : (o.enter t u).2.cell v = t.cell v := UserTable.cell_update_ne hvu
  rw [owns_iff, owns_iff, hcell]
  exact exists_congr fun k => and_congr_right fun _ => SlotMap.get?_insert_of_ne ho hvu

theorem view_enlist (o : BufferObject) (t : UserTable) (u : UserId) :
    (o.enlist t u).1.view = o.view := by
  unfold enlist
  split <;> rfl

theorem tidy_enlist (ho : o.users.Tidy) (t : UserTable) (u : UserId) :
    (o.enlist t u).1.users.Tidy := by
  unfold enlist
  split
  · exact ho
  · exact tidy_enter ho t u

theorem cell_enlist_of_ne (hvu : v ≠ u) : (o.enlist t u).2.cell v = t.cell v := by
  unfold enlist
  split
  · rfl
  · exact UserTable.cell_update_ne hvu

theorem owns_enlist_of_ne (ho : o.users.Tidy) (hvu : v ≠ u) :
    (o.enlist t u).1.owns (o.enlist t u).2 v = true ↔ o.owns t v = true := by
  unfold enlist
  split
  · exact Iff.rfl
  · exact owns_enter_of_ne ho hvu

/-! ## 4. Leaving -/

theorem delist_of_not_owns (h : o.owns t u = false) : o.delist t u = (o, t) :=
  if_neg (by rw [h]; exact Bool.false_ne_true)

theorem delist_of_owns (h : o.owns t u = true) (hk : (t.cell u).key = some k) :
    o.delist t u = ({ o with users := o.users.erase k }, t.putKey u none) := by
  unfold delist
  rw [if_pos h, hk]

theorem view_delist (o : BufferObject) (t : UserTable) (u : UserId) :
    (o.delist t u).1.view = o.view := by
  unfold delist
  split
  · split <;> rfl
  · rfl

theorem tidy_delist (ho : o.users.Tidy) (t : UserTable) (u : UserId) :
    (o.delist t u).1.users.Tidy := by
  unfold delist
  split
  · split
    · exact SlotMap.tidy_erase ho _
    · exact ho
  · exact ho

theorem size_delist (o : BufferObject) (t : UserTable) (u : UserId) :
    (o.delist t u).2.cells.size = t.cells.size := by
  unfold delist
  split
  · split
    · exact UserTable.size_update ..
    · rfl
  · rfl

theorem cell_delist_of_ne (hvu : v ≠ u) : (o.delist t u).2.cell v = t.cell v := by
  unfold delist
  split
  · split
    · exact UserTable.cell_update_ne hvu
    · rfl
  · rfl

/-- Nobody else is taken from the registry. -/
theorem owns_delist_of_ne (hvu : v ≠ u) :
    (o.delist t u).1.owns (o.delist t u).2 v = true ↔ o.owns t v = true := by
  cases howns : o.owns t u with
  | false => rw [delist_of_not_owns howns]
  | true =>
    obtain ⟨k, hkey, hk⟩ := owns_iff.mp howns
    rw [delist_of_owns howns hkey, owns_iff, owns_iff, UserTable.putKey,
      UserTable.cell_update_ne hvu]
    exact exists_congr fun l => and_congr_right fun _ => SlotMap.get?_erase_of_ne hk hvu

/-- Those who are held keep their entries. -/
theorem get?_forgetViews (ho : o.users.Tidy) (t : UserTable) (k : SlotKey) (u : UserId) :
    (o.forgetViews t).1.users.get? k = some u ↔
      o.users.get? k = some u ∧ (t.cell u).alive = true :=
  SlotMap.get?_keep ho _ k u

theorem tidy_forgetViews (ho : o.users.Tidy) (t : UserTable) : (o.forgetViews t).1.users.Tidy :=
  SlotMap.tidy_keep ho fun u => (t.cell u).alive

theorem lists_forgetViews (ho : o.users.Tidy) :
    (o.forgetViews t).1.Lists u ↔ o.Lists u ∧ (t.cell u).alive = true := by
  unfold Lists
  simp only [get?_forgetViews ho, exists_and_right]

theorem lt_of_mem_forgetViews (ho : o.users.Tidy) (hu : u ∈ (o.forgetViews t).1.users.values) :
    u.number < t.cells.size :=
  UserTable.lt_of_alive ((lists_forgetViews ho).mp (mem_values.mp hu)).2

open Classical in
/-- **Everybody who is listed and held loses the view**, and nobody else does. -/
theorem cell_forgetViews (ho : o.users.Tidy) (t : UserTable) (u : UserId) :
    (o.forgetViews t).2.cell u =
      if o.Lists u ∧ (t.cell u).alive = true then { t.cell u with view := none }
      else t.cell u := by
  refine (UserTable.cell_foldl (f := fun c => { c with view := none }) (fun _ => rfl)
    (o.forgetViews t).1.users.values (fun v hv => lt_of_mem_forgetViews ho hv) u).trans ?_
  simp only [mem_values, lists_forgetViews ho]

/-- Nobody is let go by losing a view. -/
theorem alive_forgetViews (ho : o.users.Tidy) (t : UserTable) (u : UserId) :
    ((o.forgetViews t).2.cell u).alive = (t.cell u).alive := by
  rw [cell_forgetViews ho]
  split
  · rfl
  · rfl

theorem size_forgetViews (o : BufferObject) (t : UserTable) :
    (o.forgetViews t).2.cells.size = t.cells.size := UserTable.size_foldl _ _

/-- Nobody is listed any more. -/
theorem get?_dismissUsers (ho : o.users.Tidy) (t : UserTable) (k : SlotKey) :
    (o.dismissUsers t).1.users.get? k = none :=
  SlotMap.get?_clear (tidy_forgetViews ho t) k

theorem tidy_dismissUsers (ho : o.users.Tidy) (t : UserTable) : (o.dismissUsers t).1.users.Tidy :=
  SlotMap.tidy_keep (tidy_forgetViews ho t) fun _ => false

open Classical in
/-- **Everybody who was listed and is held has neither view nor key**, and the others have what they
    had. -/
theorem cell_dismissUsers (ho : o.users.Tidy) (t : UserTable) (u : UserId) :
    (o.dismissUsers t).2.cell u =
      if o.Lists u ∧ (t.cell u).alive = true then { t.cell u with view := none, key := none }
      else t.cell u := by
  have h := UserTable.cell_foldl (t := (o.forgetViews t).2) (f := fun c => { c with key := none })
    (fun _ => rfl) (o.forgetViews t).1.users.values (fun v hv => by
      rw [size_forgetViews]; exact lt_of_mem_forgetViews ho hv) u
  simp only [mem_values, lists_forgetViews ho, cell_forgetViews ho] at h
  refine Eq.trans h ?_
  split
  · rfl
  · rfl

theorem alive_dismissUsers (ho : o.users.Tidy) (t : UserTable) (u : UserId) :
    ((o.dismissUsers t).2.cell u).alive = (t.cell u).alive := by
  rw [cell_dismissUsers ho]
  split
  · rfl
  · rfl

theorem size_dismissUsers (o : BufferObject) (t : UserTable) :
    (o.dismissUsers t).2.cells.size = t.cells.size :=
  (UserTable.size_foldl _ _).trans (size_forgetViews o t)

/-! ## 5. Moving -/

/-- Users entered one after the other. -/
def enterAll (us : List UserId) (o : BufferObject) (t : UserTable) : BufferObject × UserTable :=
  us.foldl (fun (o, t) u => o.enter t u) (o, t)

/-- **The users `us` were entered**: whoever was listed still is, and each of `us` finds itself under
    a key that found nothing before. Nothing but keys was changed. -/
structure Entered (us : List UserId) (o : BufferObject) (t : UserTable) (o' : BufferObject)
    (t' : UserTable) : Prop where
  view : o'.view = o.view
  tidy : o'.users.Tidy
  size : t'.cells.size = t.cells.size
  cells : ∀ u, t'.cell u = { t.cell u with key := (t'.cell u).key }
  others : ∀ u ∉ us, t'.cell u = t.cell u
  stay : ∀ k u, o.users.get? k = some u → o'.users.get? k = some u
  come : ∀ k u, o'.users.get? k = some u → o.users.get? k = some u ∨ u ∈ us
  keyed : ∀ u ∈ us, ∃ k, (t'.cell u).key = some k ∧ o'.users.get? k = some u ∧
    o.users.get? k = none
  single : us.Nodup → ∀ u ∈ us, ∀ k, o'.users.get? k = some u → o.users.get? k = none →
    (t'.cell u).key = some k

theorem enterAll_entered (ho : o.users.Tidy) (hus : ∀ u ∈ us, u.number < t.cells.size) :
    Entered us o t (enterAll us o t).1 (enterAll us o t).2 := by
  unfold enterAll
  induction us generalizing o t with
  | nil => exact ⟨rfl, ho, rfl, fun _ => rfl, fun _ _ => rfl, fun _ _ h => h, fun _ _ h => .inl h,
      nofun, nofun⟩
  | cons u rest ih =>
    have hu := hus u List.mem_cons_self
    have h := ih (tidy_enter ho t u) (t := (o.enter t u).2) fun v hv => by
      rw [show (o.enter t u).2.cells.size = t.cells.size from UserTable.size_update ..]
      exact hus v (List.mem_cons_of_mem _ hv)
    have hnew : o.users.get? (o.users.insert u).1 = none := SlotMap.get?_insert_key ho u
    have hfound : (o.enter t u).1.users.get? (o.users.insert u).1 = some u := by
      rw [get?_enter ho, if_pos rfl]
    -- a key that finds nothing after the first user came found nothing before
    have hbefore {k : SlotKey} (hk : (o.enter t u).1.users.get? k = none) :
        o.users.get? k = none := by
      rw [get?_enter ho] at hk
      split at hk
      · cases hk
      · exact hk
    rw [List.foldl_cons]
    refine ⟨h.view, h.tidy, h.size.trans (UserTable.size_update ..), fun v => ?_, fun v hv => ?_,
      fun k v hk => ?_, fun k v hk => ?_, fun v hv => ?_, fun hnodup v hv k hk hfree => ?_⟩
    · rw [h.cells v, cell_enter hu]
      split
      · rename_i he
        rw [he]
      · rfl
    · obtain ⟨hvu, hv⟩ := List.ne_and_not_mem_of_not_mem_cons hv
      rw [h.others v hv, cell_enter hu, if_neg hvu]
    · refine h.stay k v ?_
      rw [get?_enter ho, if_neg, hk]
      rintro rfl
      rw [hnew] at hk
      cases hk
    · rcases h.come k v hk with hk | hk
      · rw [get?_enter ho] at hk
        split at hk
        · cases hk
          exact .inr List.mem_cons_self
        · exact .inl hk
      · exact .inr (List.mem_cons_of_mem _ hk)
    · by_cases hrest : v ∈ rest
      · obtain ⟨k, hkey, hk, hfree⟩ := h.keyed v hrest
        exact ⟨k, hkey, hk, hbefore hfree⟩
      · -- nobody who comes later takes the entry of the first one away
        obtain rfl := (List.mem_cons.mp hv).resolve_right hrest
        refine ⟨_, ?_, h.stay _ _ hfound, hnew⟩
        rw [h.others v hrest, cell_enter hu, if_pos rfl]
    · obtain ⟨hfirst, hrest⟩ := List.nodup_cons.mp hnodup
      by_cases hlate : (o.enter t u).1.users.get? k = none
      · rcases List.mem_cons.mp hv with rfl | hv
        · rcases h.come k v hk with hk | hk
          · rw [hlate] at hk
            cases hk
          · exact absurd hk hfirst
        · exact h.single hrest v hv k hk hlate
      · -- the key is that of the first one
        have hfirstKey : k = (o.users.insert u).1 := by
          rw [get?_enter ho] at hlate
          split at hlate
          · assumption
          · exact absurd hfree hlate
        subst hfirstKey
        have hsame := (h.stay _ _ hfound).symm.trans hk
        cases hsame
        rw [h.others u hfirst, cell_enter hu, if_pos rfl]

/-- Those who move: listed and held. -/
def movers (o : BufferObject) (t : UserTable) : List UserId := (o.forgetViews t).1.users.values

theorem mem_movers (ho : o.users.Tidy) :
    u ∈ o.movers t ↔ o.Lists u ∧ (t.cell u).alive = true :=
  mem_values.trans (lists_forgetViews ho)

/-- Who is held and listed under one key only moves once. -/
theorem movers_nodup (ho : o.users.Tidy) (h : ∀ u k k', (t.cell u).alive = true →
    o.users.get? k = some u → o.users.get? k' = some u → k = k') : (o.movers t).Nodup := by
  have hnodup : ((o.forgetViews t).1.users.values.filter fun _ => true).Nodup :=
    SlotMap.filter_values_nodup fun k k' u _ hk hk' =>
      h u k k' ((get?_forgetViews ho t k u).mp hk).2
        ((get?_forgetViews ho t k u).mp hk).1 ((get?_forgetViews ho t k' u).mp hk').1
  rw [List.filter_eq_self.mpr fun _ _ => rfl] at hnodup
  exact hnodup

theorem moveUsers_eq (o target : BufferObject) (t : UserTable) :
    o.moveUsers target t = ({ (o.forgetViews t).1 with users := (o.forgetViews t).1.users.clear },
      enterAll (o.movers t) target (o.forgetViews t).2) := rfl

/-- **Those who move lose their views, and are entered in the object that takes over.** -/
theorem moveUsers_entered (ho : o.users.Tidy) (htarget : target.users.Tidy) (t : UserTable) :
    Entered (o.movers t) target (o.forgetViews t).2 (o.moveUsers target t).2.1
      (o.moveUsers target t).2.2 := by
  rw [moveUsers_eq]
  exact enterAll_entered htarget fun u hu => by
    rw [size_forgetViews]
    exact lt_of_mem_forgetViews ho hu

theorem get?_moveUsers (ho : o.users.Tidy) (target : BufferObject) (t : UserTable) (k : SlotKey) :
    (o.moveUsers target t).1.users.get? k = none :=
  SlotMap.get?_clear (tidy_forgetViews ho t) k

theorem tidy_moveUsers (ho : o.users.Tidy) (target : BufferObject) (t : UserTable) :
    (o.moveUsers target t).1.users.Tidy :=
  SlotMap.tidy_keep (tidy_forgetViews ho t) fun _ => false

theorem size_moveUsers (ho : o.users.Tidy) (htarget : target.users.Tidy) (t : UserTable) :
    (o.moveUsers target t).2.2.cells.size = t.cells.size :=
  (moveUsers_entered ho htarget t).size.trans (size_forgetViews o t)

/-- Nobody is let go by moving. -/
theorem alive_moveUsers (ho : o.users.Tidy) (htarget : target.users.Tidy) (t : UserTable)
    (u : UserId) : ((o.moveUsers target t).2.2.cell u).alive = (t.cell u).alive := by
  rw [(moveUsers_entered ho htarget t).cells, UserCell.alive_withKey, alive_forgetViews ho]

/-- **Whoever moves has no view any more.** -/
theorem view_moveUsers (ho : o.users.Tidy) (htarget : target.users.Tidy) (hlists : o.Lists u)
    (hheld : (t.cell u).alive = true) : ((o.moveUsers target t).2.2.cell u).view = none := by
  rw [(moveUsers_entered ho htarget t).cells, cell_forgetViews ho, if_pos ⟨hlists, hheld⟩]

/-- Whoever is not listed has the cell it had. -/
theorem cell_moveUsers (ho : o.users.Tidy) (htarget : target.users.Tidy) (t : UserTable)
    (hlists : ¬ o.Lists u) : (o.moveUsers target t).2.2.cell u = t.cell u := by
  rw [(moveUsers_entered ho htarget t).others u fun hmem => hlists ((mem_movers ho).mp hmem).1,
    cell_forgetViews ho, if_neg fun h => hlists h.1]

end BufferObject

end BufferCoherence
