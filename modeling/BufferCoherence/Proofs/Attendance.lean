import Mathlib.Data.Set.Card
import BufferCoherence.Proofs.Roster

/-!
# Users that follow the object

Users are registered on a buffer, whichever object it has. The set of those who are registered is
known from the history alone (`Attends`): it grows and shrinks as users are registered and taken
away, and is empty once the object is given up. The registries of objects have to agree with it.

* `Roll.Attended` is the invariant: an object lists nobody but the registered users and the buffer's
  own, and each of them that is held has the key of its one entry (`BufferObject.OwnsOnce`);
* whatever a call does to the object, it keeps the registered users with the buffer
  (`Roll.Attended.turned`, `Roll.Attended.rename`);
* **`users_follow_object`**: a buffer that is renamed sends every registered user that is held to the
  new object, invalid and entered once, and nobody else; a buffer that gives its object up leaves
  them without a view and without an entry.
-/

namespace BufferCoherence

/-! ## 1. Owned once -/

namespace BufferObject

variable {o : BufferObject} {t t' : UserTable} {u v : UserId}

/-- **The object owns the user, and lists it under no other key.** -/
def OwnsOnce (o : BufferObject) (t : UserTable) (u : UserId) : Prop :=
  ∃ k, (t.cell u).key = some k ∧ ∀ l, o.users.get? l = some u ↔ l = k

theorem OwnsOnce.owns (h : o.OwnsOnce t u) : o.owns t u = true := by
  obtain ⟨k, hkey, hk⟩ := h
  exact owns_iff.mpr ⟨k, hkey, (hk k).mpr rfl⟩

theorem OwnsOnce.unique (h : o.OwnsOnce t u) : ∃! k, o.users.get? k = some u := by
  obtain ⟨k, -, hk⟩ := h
  exact ⟨k, (hk k).mpr rfl, fun l => (hk l).mp⟩

theorem OwnsOnce.lists (h : o.OwnsOnce t u) : o.Lists u := lists_of_owns h.owns

/-- The key of a user is all of the cell that matters. -/
theorem OwnsOnce.of_key (h : o.OwnsOnce t u) (hkey : (t'.cell u).key = (t.cell u).key) :
    o.OwnsOnce t' u := by
  obtain ⟨k, hk, hfound⟩ := h
  exact ⟨k, hkey.trans hk, hfound⟩

/-- A user that has no entry is owned once when it is entered. -/
theorem ownsOnce_enter (ho : o.users.Tidy) (hu : u.number < t.cells.size) (hnew : ¬ o.Lists u) :
    (o.enter t u).1.OwnsOnce (o.enter t u).2 u := by
  refine ⟨_, by rw [cell_enter hu, if_pos rfl], fun l => ?_⟩
  rw [get?_enter ho]
  split
  · rename_i hl
    exact iff_of_true rfl hl
  · rename_i hl
    exact iff_of_false (fun hk => hnew ⟨l, hk⟩) hl

/-- Whoever was owned once still is, when somebody else is entered. -/
theorem OwnsOnce.enter (h : o.OwnsOnce t v) (ho : o.users.Tidy) (hvu : v ≠ u) :
    (o.enter t u).1.OwnsOnce (o.enter t u).2 v := by
  obtain ⟨k, hkey, hfound⟩ := h
  exact ⟨k, (congrArg UserCell.key (UserTable.cell_update_ne hvu)).trans hkey, fun l =>
    (SlotMap.get?_insert_of_ne ho hvu).trans (hfound l)⟩

/-- And when somebody else is taken from the registry. -/
theorem OwnsOnce.delist (h : o.OwnsOnce t v) (hvu : v ≠ u) :
    (o.delist t u).1.OwnsOnce (o.delist t u).2 v := by
  cases howns : o.owns t u with
  | false =>
    rw [delist_of_not_owns howns]
    exact h
  | true =>
    obtain ⟨k, hkey, hfound⟩ := h
    obtain ⟨l, hl, hlu⟩ := owns_iff.mp howns
    rw [delist_of_owns howns hl]
    exact ⟨k, (congrArg UserCell.key (UserTable.cell_update_ne hvu)).trans hkey, fun l' =>
      (SlotMap.get?_erase_of_ne hlu hvu).trans (hfound l')⟩

/-- A user that was owned once is not listed once it is taken away. -/
theorem OwnsOnce.not_lists_delist (h : o.OwnsOnce t u) : ¬ (o.delist t u).1.Lists u := by
  obtain ⟨k, hkey, hfound⟩ := h
  have howns : o.owns t u = true := owns_iff.mpr ⟨k, hkey, (hfound k).mpr rfl⟩
  rw [delist_of_owns howns hkey]
  rintro ⟨l, hl⟩
  rw [SlotMap.get?_erase] at hl
  split at hl
  · cases hl
  · rename_i hne
    exact hne ((hfound l).mp hl)

/-- Nobody comes to be listed when a user is taken away. -/
theorem lists_of_delist (h : (o.delist t u).1.Lists v) : o.Lists v := by
  cases howns : o.owns t u with
  | false =>
    rw [delist_of_not_owns howns] at h
    exact h
  | true =>
    obtain ⟨k, hkey, -⟩ := owns_iff.mp howns
    rw [delist_of_owns howns hkey] at h
    obtain ⟨l, hl⟩ := h
    rw [SlotMap.get?_erase] at hl
    split at hl
    · cases hl
    · exact ⟨l, hl⟩

/-- **Users are counted once**, where those who are held are listed once. -/
theorem liveUserCount_eq_ncard (h : ∀ u, o.Lists u → (t.cell u).alive = true → o.OwnsOnce t u) :
    o.liveUserCount t = {u | o.Lists u ∧ (t.cell u).alive = true}.ncard := by
  have hnodup : (o.users.values.filter fun u => (t.cell u).alive).Nodup :=
    SlotMap.filter_values_nodup fun k k' u hu hk hk' => (h u ⟨k, hk⟩ hu).unique.unique hk hk'
  unfold liveUserCount
  rw [List.countP_eq_length_filter, ← List.toFinset_card_of_nodup hnodup, ← Set.ncard_coe_finset]
  congr 1
  ext u
  simp only [List.coe_toFinset, List.mem_filter, mem_values, Set.mem_ofPred_eq]

end BufferObject

/-! ## 2. The registered users -/

namespace Roll

variable {x y : Roll} {R : Set UserId} {u v : UserId} {o : BufferObject}

/-- The registered users `R` with the buffer's own. -/
def roster (x : Roll) (R : Set UserId) : Set UserId := insert x.user R

/-- Somebody holds the user. -/
def Held (x : Roll) (u : UserId) : Prop := (x.users.cell u).alive = true

/-- **The registry of the object agrees with the registered users**: it lists nobody else, and each
    of them that is held once. -/
structure Attended (R : Set UserId) (x : Roll) : Prop where
  held : x.Held x.user
  known : ∀ u ∈ R, u.number < x.users.cells.size
  bare : x.object = none → R = ∅
  tidy : ∀ o, x.object = some o → o.users.Tidy
  listed : ∀ o, x.object = some o → ∀ u, o.Lists u → u ∈ x.roster R
  once : ∀ o, x.object = some o → ∀ u ∈ x.roster R, x.Held u → o.OwnsOnce x.users u

theorem Attended.count (h : Attended R x) (ho : x.object = some o) :
    o.liveUserCount x.users = {u ∈ x.roster R | x.Held u}.ncard := by
  rw [BufferObject.liveUserCount_eq_ncard fun u hu => h.once o ho u (h.listed o ho u hu)]
  congr 1
  ext u
  simp only [Set.mem_ofPred_eq]
  exact ⟨fun hu => ⟨h.listed o ho u hu.1, hu.2⟩, fun hu => ⟨(h.once o ho u hu.1 hu.2).lists, hu.2⟩⟩

theorem attended_fresh (kind : BackendKind) (users : UserTable) :
    Attended ∅ (fresh kind users) := by
  refine ⟨?_, nofun, fun _ => rfl, nofun, nofun, nofun⟩
  show (users.add.2.cell users.add.1).alive = true
  rw [UserTable.cell_add, if_pos rfl]
  rfl

/-! ## 3. Cells -/

/-- Users that come, go, or are refreshed: the registered ones keep their keys, and nobody is held
    who was not. -/
theorem Attended.cells (h : Attended R x) {users : UserTable}
    (hsize : x.users.cells.size ≤ users.cells.size) (hheld : (users.cell x.user).alive = true)
    (halive : ∀ u ∈ x.roster R, (users.cell u).alive = true → x.Held u)
    (hkey : ∀ u ∈ x.roster R, (users.cell u).key = (x.users.cell u).key) :
    Attended R { x with users } where
  held := hheld
  known u hu := Nat.lt_of_lt_of_le (h.known u hu) hsize
  bare := h.bare
  tidy := h.tidy
  listed := h.listed
  once o ho u hu hheld := (h.once o ho u hu (halive u hu hheld)).of_key (hkey u hu)

/-- One cell changed. -/
theorem Attended.update (h : Attended R x) (hu : x.Held u) {f : UserCell → UserCell}
    (hheld : u = x.user → (f (x.users.cell u)).alive = true)
    (hkey : (f (x.users.cell u)).key = (x.users.cell u).key) :
    Attended R { x with users := x.users.update u f } := by
  have hcell := UserTable.cell_update (UserTable.lt_of_alive hu) f
  refine h.cells (Nat.le_of_eq (UserTable.size_update ..).symm) ?_ (fun v _ hv => ?_) fun v _ => ?_
  · rw [hcell]
    split
    · rename_i he
      exact hheld he.symm
    · exact h.held
  · rw [hcell] at hv
    split at hv
    · rename_i he
      exact he ▸ hu
    · exact hv
  · rw [hcell]
    split
    · rename_i he
      exact he ▸ hkey
    · rfl

/-- A new user is none of the registered ones. -/
theorem Attended.add (h : Attended R x) : Attended R { x with users := x.users.add.2 } := by
  have hknown {v : UserId} (hv : v ∈ x.roster R) : v ≠ x.users.add.1 := by
    rintro rfl
    rcases hv with hv | hv
    · exact Nat.lt_irrefl _ (hv ▸ UserTable.lt_of_alive h.held)
    · exact Nat.lt_irrefl _ (h.known _ hv)
  have hcell {v : UserId} (hv : v ∈ x.roster R) : x.users.add.2.cell v = x.users.cell v := by
    rw [UserTable.cell_add, if_neg (hknown hv)]
  refine h.cells (by rw [UserTable.size_add]; exact Nat.le_succ _) ?_ (fun v hv ha => ?_)
    fun v hv => congrArg UserCell.key (hcell hv)
  · rw [hcell (Set.mem_insert _ _)]
    exact h.held
  · rw [hcell hv] at ha
    exact ha

/-! ## 4. Objects that come and go -/

theorem Attended.adopt (h : Attended R x) (bare : x.object = none) (a : Placement) (size : Nat) :
    Attended R (x.adopt a size) := by
  have hlt := UserTable.lt_of_alive h.held
  have hnew : ¬ (BufferObject.new a size).Lists x.user := BufferObject.not_lists_new a size
  have htidy : (BufferObject.new a size).users.Tidy := SlotMap.tidy_empty
  have hR := h.bare bare
  unfold Roll.adopt
  rw [BufferObject.enlist_of_not_lists hnew]
  subst hR
  refine ⟨?_, nofun, nofun, fun o ho => ?_, fun o ho v hv => ?_, fun o ho v hv _ => ?_⟩
  · show (((BufferObject.new a size).enter x.users x.user).2.cell x.user).alive = true
    rw [BufferObject.cell_enter hlt, if_pos rfl]
    exact h.held
  · cases ho
    exact BufferObject.tidy_enter htidy _ _
  · cases ho
    rcases BufferObject.lists_of_enter htidy hv with rfl | hv
    · exact Set.mem_insert _ _
    · exact absurd hv (BufferObject.not_lists_new a size)
  · cases ho
    rcases hv with rfl | hv
    · exact BufferObject.ownsOnce_enter htidy hlt hnew
    · exact absurd hv (Set.notMem_empty v)

theorem Attended.dismiss (h : Attended R x) (ho : x.object = some o) :
    Attended ∅ { x with object := none, users := (o.dismissUsers x.users).2 } := by
  exact ⟨(BufferObject.alive_dismissUsers (h.tidy o ho) x.users x.user).trans h.held, nofun,
    fun _ => rfl, nofun, nofun, nofun⟩

/-- **Each registered user that is held is entered once in the object that takes over.** -/
theorem Attended.move (h : Attended R x) (ho : x.object = some o) (a : Placement) (size : Nat) :
    Attended R { x with
      object := some (o.moveUsers (.new a size) x.users).2.1
      users := (o.moveUsers (.new a size) x.users).2.2 } := by
  have htidy := h.tidy o ho
  have hnew : (BufferObject.new a size).users.Tidy := SlotMap.tidy_empty
  have hmoved := BufferObject.moveUsers_entered htidy hnew x.users
  have halive := BufferObject.alive_moveUsers htidy hnew x.users
  have hsize := BufferObject.size_moveUsers htidy hnew x.users
  have hnodup : (o.movers x.users).Nodup := BufferObject.movers_nodup htidy fun u k k' hu hk hk' =>
    (h.once o ho u (h.listed o ho u ⟨k, hk⟩) hu).unique.unique hk hk'
  refine ⟨(halive x.user).trans h.held, fun v hv => Nat.lt_of_lt_of_eq (h.known v hv) hsize.symm,
    nofun, fun n hn => ?_, fun n hn v hv => ?_, fun n hn v hv hheld => ?_⟩
  · cases hn
    exact hmoved.tidy
  · cases hn
    obtain ⟨k, hk⟩ := hv
    have hmem := (hmoved.come k v hk).resolve_left nofun
    exact h.listed o ho v ((BufferObject.mem_movers htidy).mp hmem).1
  · cases hn
    have hheld : x.Held v := (halive v).symm.trans hheld
    have hmem := (BufferObject.mem_movers htidy).mpr ⟨(h.once o ho v hv hheld).lists, hheld⟩
    obtain ⟨k, hkey, hk, -⟩ := hmoved.keyed v hmem
    refine ⟨k, hkey, fun l => ⟨fun hl => ?_, by rintro rfl; exact hk⟩⟩
    exact Option.some.inj ((hmoved.single hnodup v hmem l hl rfl).symm.trans hkey)

theorem Attended.rename (h : Attended R x) (a : Placement) (size : Nat) :
    Attended R (x.rename a size) := by
  unfold Roll.rename
  cases ho : x.object with
  | none => exact h.adopt ho a size
  | some p => exact h.move ho a size

/-- What is left of the registered users: none of them without an object. -/
def remaining (x : Roll) (R : Set UserId) : Set UserId := if x.object.isSome then R else ∅

theorem remaining_of_object (ho : x.object = some o) (R : Set UserId) : x.remaining R = R :=
  if_pos (by rw [ho]; rfl)

theorem remaining_of_bare (ho : x.object = none) (R : Set UserId) : x.remaining R = ∅ :=
  if_neg (by rw [ho]; exact Bool.false_ne_true)

theorem Attended.remaining (h : Attended R x) : Attended (x.remaining R) x := by
  cases ho : x.object with
  | none =>
    rw [remaining_of_bare ho]
    exact h.bare ho ▸ h
  | some o =>
    rw [remaining_of_object ho]
    exact h

/-- **What an object that is found or given up leaves of the registered users.** -/
theorem Attended.turned (h : Attended R x) (hy : Turned x y) : Attended (y.remaining R) y := by
  obtain ⟨z, hz, hy⟩ := hy
  have hz : Attended R z := by
    rcases hz with rfl | ⟨bare, a, size, rfl⟩
    · exact h
    · exact h.adopt bare a size
  rcases hy with rfl | rfl
  · exact hz.remaining
  · cases ho : z.object with
    | none =>
      have hsame : z.dismiss = z := by
        unfold Roll.dismiss
        rw [ho]
      rw [hsame]
      exact hz.remaining
    | some o =>
      have hgone : z.dismiss = { z with object := none, users := (o.dismissUsers z.users).2 } := by
        unfold Roll.dismiss
        rw [ho]
      rw [hgone, remaining_of_bare rfl]
      exact hz.dismiss ho

/-! ## 5. Users that are registered and taken away -/

theorem Attended.inform (h : Attended R x) : Attended (x.inform.remaining R) x.inform := by
  have hinform : Attended R x.inform := by
    unfold Roll.inform
    split
    · rename_i o _ _
      split
      · exact h
      · exact h.update (f := fun c => { c with view := some o.view }) h.held (fun _ => h.held) rfl
    · exact h
  exact hinform.remaining

/-- A user without an entry is none of the registered ones. -/
theorem Attended.not_mem (h : Attended R x) (ho : x.object = some o) (hu : x.Held u)
    (hfree : (x.users.cell u).hasEntry = false) : u ∉ x.roster R := by
  intro hmem
  obtain ⟨k, hkey, -⟩ := h.once o ho u hmem hu
  unfold UserCell.hasEntry at hfree
  rw [hkey] at hfree
  cases hfree

/-- **A user without an entry is registered with the others.** -/
theorem Attended.enlist (h : Attended R x) (hu : x.Held u)
    (hfree : (x.users.cell u).hasEntry = false) :
    Attended (x.remaining (insert u R)) (x.onObject fun o t => o.enlist t u) := by
  unfold Roll.onObject
  cases ho : x.object with
  | none =>
    rw [remaining_of_bare ho]
    exact h.bare ho ▸ h
  | some o =>
    have hnew : u ∉ x.roster R := h.not_mem ho hu hfree
    have hlists : ¬ o.Lists u := fun hl => hnew (h.listed o ho u hl)
    have hlt := UserTable.lt_of_alive hu
    have htidy := h.tidy o ho
    have hcell := BufferObject.cell_enter (o := o) hlt
    have hown : x.user ≠ u := fun he => hnew (he ▸ Set.mem_insert _ _)
    rw [remaining_of_object ho]
    simp only [BufferObject.enlist_of_not_lists hlists]
    refine ⟨?_, fun v hv => ?_, nofun, fun n hn => ?_, fun n hn v hv => ?_,
      fun n hn v hv hheld => ?_⟩
    · show ((o.enter x.users u).2.cell x.user).alive = true
      rw [hcell, if_neg hown]
      exact h.held
    · refine Nat.lt_of_lt_of_eq ?_ (UserTable.size_update x.users u _).symm
      rcases hv with rfl | hv
      · exact hlt
      · exact h.known v hv
    · cases hn
      exact BufferObject.tidy_enter htidy _ _
    · cases hn
      rcases BufferObject.lists_of_enter htidy hv with rfl | hv
      · exact .inr (Set.mem_insert _ _)
      · rcases h.listed o ho v hv with hv | hv
        · exact .inl hv
        · exact .inr (.inr hv)
    · cases hn
      by_cases hvu : v = u
      · subst hvu
        exact BufferObject.ownsOnce_enter htidy hlt hlists
      · have hheld : x.Held v := by
          unfold Held at hheld
          rw [hcell, if_neg hvu] at hheld
          exact hheld
        refine (h.once o ho v ?_ hheld).enter htidy hvu
        rcases hv with hv | hv | hv
        · exact .inl hv
        · exact absurd hv hvu
        · exact .inr hv

/-- **A user that is taken away is registered no more.** -/
theorem Attended.delist (h : Attended R x) (hu : x.Held u) (hguest : u ≠ x.user) :
    Attended (R \ {u}) (x.onObject fun o t => o.delist t u) := by
  unfold Roll.onObject
  cases ho : x.object with
  | none =>
    have hR := h.bare ho
    subst hR
    rw [Set.empty_sdiff]
    exact h
  | some o =>
    have hcell (v : UserId) (hvu : v ≠ u) :=
      BufferObject.cell_delist_of_ne (o := o) (t := x.users) hvu
    have hmem {v : UserId} (hv : v ∈ insert x.user (R \ {u})) : v ∈ x.roster R ∧ v ≠ u := by
      rcases hv with rfl | hv
      · exact ⟨Set.mem_insert _ _, Ne.symm hguest⟩
      · exact ⟨.inr hv.1, hv.2⟩
    refine ⟨?_, fun v hv => ?_, nofun, fun n hn => ?_, fun n hn v hv => ?_,
      fun n hn v hv hheld => ?_⟩
    · show ((o.delist x.users u).2.cell x.user).alive = true
      rw [hcell _ (Ne.symm hguest)]
      exact h.held
    · exact Nat.lt_of_lt_of_eq (h.known v hv.1) (o.size_delist x.users u).symm
    · cases hn
      exact BufferObject.tidy_delist (h.tidy o ho) _ _
    · cases hn
      have hlists := BufferObject.lists_of_delist hv
      have hvu : v ≠ u := by
        rintro rfl
        exact (h.once o ho v (h.listed o ho v hlists) hu).not_lists_delist hv
      rcases h.listed o ho v hlists with hv | hv
      · exact .inl hv
      · exact .inr ⟨hv, hvu⟩
    · cases hn
      obtain ⟨hroster, hvu⟩ := hmem hv
      have hheld : x.Held v := by
        unfold Held at hheld
        rw [hcell v hvu] at hheld
        exact hheld
      exact (h.once o ho v hroster hheld).delist hvu

/-- **A call that is not about a user keeps the registered users, as long as there is an object.** -/
theorem Attended.changes {c : Call} {b : Buffer} (h : Attended R x) (hy : c.Changes b x y)
    (hc : c.subject? = none) : Attended (y.remaining R) y := by
  cases hy with
  | enlist u he =>
    subst he
    cases hc
  | delist u he =>
    subst he
    cases hc
  | info he => exact h.inform
  | rename a he => exact (h.rename a _).remaining
  | turned he hy => exact h.turned hy

/-! ## 6. What becomes of the registered users -/

/-- **The registered users moved to the object `n`**: each of them that is held is invalid, is owned
    by `n`, and has one entry there; nobody else was touched, or is listed. -/
structure Moved (R : Set UserId) (x y : Roll) (n : BufferObject) : Prop where
  object : y.object = some n
  held : ∀ u, y.Held u ↔ x.Held u
  invalid : ∀ u ∈ x.roster R, y.Held u → (y.users.cell u).hasView = false
  owned : ∀ u ∈ x.roster R, y.Held u → n.owns y.users u = true
  once : ∀ u ∈ x.roster R, y.Held u → ∃! k, n.users.get? k = some u
  count : n.liveUserCount y.users = {u ∈ x.roster R | y.Held u}.ncard
  others : ∀ u ∉ x.roster R, y.users.cell u = x.users.cell u ∧ ¬ n.Lists u

/-- **The registered users were let go**: each of them that is held is invalid, and is not
    registered. -/
structure Dismissed (R : Set UserId) (x y : Roll) : Prop where
  held : ∀ u, y.Held u ↔ x.Held u
  invalid : ∀ u ∈ x.roster R, y.Held u → (y.users.cell u).hasView = false
  unregistered : ∀ u ∈ x.roster R, y.Held u → (y.users.cell u).hasEntry = false

theorem Attended.moved (h : Attended R x) (ho : x.object = some o) (a : Placement) (size : Nat) :
    ∃ n, n.handle = a.handle ∧ Moved R x (x.rename a size) n := by
  have hy := h.move ho a size
  have htidy := h.tidy o ho
  have hnew : (BufferObject.new a size).users.Tidy := SlotMap.tidy_empty
  have hheld (u : UserId) : (((o.moveUsers (.new a size) x.users).2.2.cell u).alive = true) ↔
      x.Held u := by
    rw [BufferObject.alive_moveUsers htidy hnew]
    exact Iff.rfl
  refine ⟨(o.moveUsers (.new a size) x.users).2.1, (Site.placement_moveUsers _ _ _).1, ?_⟩
  unfold Roll.rename
  rw [ho]
  refine ⟨rfl, hheld, fun u hu hlive => ?_, fun u hu hlive => (hy.once _ rfl u hu hlive).owns,
    fun u hu hlive => (hy.once _ rfl u hu hlive).unique, hy.count rfl, fun u hu => ⟨?_, fun hl =>
      hu (hy.listed _ rfl u hl)⟩⟩
  · have hview := BufferObject.view_moveUsers htidy hnew
      (h.once o ho u hu ((hheld u).mp hlive)).lists ((hheld u).mp hlive)
    unfold UserCell.hasView
    rw [hview]
    rfl
  · exact BufferObject.cell_moveUsers htidy hnew x.users fun hl => hu (h.listed o ho u hl)

theorem Attended.dismissed (h : Attended R x) (ho : x.object = some o) (hy : Turned x y)
    (bare : y.object = none) : Dismissed R x y := by
  obtain ⟨z, hz, hy⟩ := hy
  -- the buffer has an object, so that none was made
  obtain rfl : z = x := by
    rcases hz with hz | ⟨hbare, -⟩
    · exact hz
    · cases ho.symm.trans hbare
  have hgone : y = { z with object := none, users := (o.dismissUsers z.users).2 } := by
    rcases hy with rfl | rfl
    · cases ho.symm.trans bare
    · unfold Roll.dismiss
      rw [ho]
  subst hgone
  have hcell := BufferObject.cell_dismissUsers (h.tidy o ho) z.users
  have hheld (u : UserId) : ((o.dismissUsers z.users).2.cell u).alive = true ↔ z.Held u := by
    rw [BufferObject.alive_dismissUsers (h.tidy o ho)]
    exact Iff.rfl
  have hleft {u : UserId} (hu : u ∈ z.roster R) (hlive : z.Held u) :
      (o.dismissUsers z.users).2.cell u = { z.users.cell u with view := none, key := none } := by
    rw [hcell, if_pos ⟨(h.once o ho u hu hlive).lists, hlive⟩]
  refine ⟨hheld, fun u hu hlive => ?_, fun u hu hlive => ?_⟩
  · show ((o.dismissUsers z.users).2.cell u).hasView = false
    rw [hleft hu ((hheld u).mp hlive)]
    rfl
  · show ((o.dismissUsers z.users).2.cell u).hasEntry = false
    rw [hleft hu ((hheld u).mp hlive)]
    rfl

end Roll

/-! ## 7. Runs -/

/-- The sites that a buffer comes to, with the users that are registered on it besides its own. -/
inductive Attends {δ : Type} [Device δ] : Set UserId → Site δ → Prop where
  | created (m : Machine δ) (request : BufferRequest) (data : Option ByteArray)
      (settings : Settings) (j : Journal) {b : Buffer}
      (hb : ((Machine.create request data settings).run m j).1.1.toOption = some b) :
      Attends ∅ ⟨b, ((Machine.create request data settings).run m j).1.2⟩
  /-- A new user. -/
  | arrived {R : Set UserId} {s : Site δ} (h : Attends R s) :
      Attends R { s with machine.users := s.machine.users.add.2 }
  | held {R : Set UserId} {s : Site δ} (h : Attends R s) (u : UserId) (hu : s.roll.Held u) :
      Attends R { s with machine.users := s.machine.users.hold u }
  | letGo {R : Set UserId} {s : Site δ} (h : Attends R s) (u : UserId) (hu : s.roll.Held u)
      (guest : u ≠ s.buffer.user) : Attends R { s with machine.users := s.machine.users.letGo u }
  /-- A user refreshed, with whatever object. -/
  | refreshed {R : Set UserId} {s : Site δ} (h : Attends R s) (u : UserId) (hu : s.roll.Held u)
      (view : ObjectView) :
      Attends R { s with machine.users := s.machine.users.putView u (some view) }
  /-- A user without an entry registered on the buffer; without an object it is not. -/
  | enlisted {R : Set UserId} {s : Site δ} (h : Attends R s) (u : UserId) (hu : s.roll.Held u)
      (free : (s.machine.users.cell u).hasEntry = false) (j : Journal) :
      Attends (s.roll.remaining (insert u R)) (Site.enlistUser u s j).1.2
  | delisted {R : Set UserId} {s : Site δ} (h : Attends R s) (u : UserId) (hu : s.roll.Held u)
      (guest : u ≠ s.buffer.user) (j : Journal) : Attends (R \ {u}) (Site.delistUser u s j).1.2
  /-- Any call that is not about a user. -/
  | called {R : Set UserId} {s : Site δ} (h : Attends R s) (c : Call) (hc : c.subject? = none)
      (j : Journal) : Attends ((c.perform s j).1.2.roll.remaining R) (c.perform s j).1.2
  /-- Whatever happens to the device, and to users that are not registered on the buffer. -/
  | elsewhere {R : Set UserId} {s : Site δ} (h : Attends R s) (m : Machine δ)
      (size : s.machine.users.cells.size ≤ m.users.cells.size)
      (guests : ∀ u ∈ s.roll.roster R, m.users.cell u = s.machine.users.cell u) :
      Attends R { s with machine := m }

section Runs

variable {δ : Type} [Device δ] {R : Set UserId} {s : Site δ}

theorem Attends.attended (h : Attends R s) : s.roll.Attended R := by
  induction h with
  | created m request data settings j hb =>
    have hgrown := (Machine.create_roll m request data settings).of_run
      (Attempt.eq_end_of_ok _ _ _ hb) _ rfl
    have hnew := (Roll.attended_fresh _ _).turned hgrown.turned
    unfold Roll.remaining at hnew
    rw [ite_self] at hnew
    exact hnew
  | arrived h ih => exact ih.add
  | held h u hu ih =>
    exact ih.update (f := fun c => { c with holders := c.holders + 1 }) hu
      (fun _ => decide_eq_true (Nat.succ_pos _)) rfl
  | letGo h u hu guest ih =>
    exact ih.update (f := fun c => { c with holders := c.holders - 1 }) hu
      (fun he => absurd he guest) rfl
  | refreshed h u hu view ih =>
    exact ih.update (f := fun c => { c with view := some view }) hu (fun _ => hu) rfl
  | @enlisted R s h u hu free j ih =>
    rw [(Site.enlistUser_roll u s j).2]
    exact ih.enlist hu free
  | @delisted R s h u hu guest j ih =>
    have hroll : (Site.delistUser u s j).1.2.roll = _ := Site.delistUser_roll u s j
    rw [hroll]
    exact ih.delist hu guest
  | @called R s h c hc j ih =>
    have hchanges : c.Changes s.buffer s.roll (c.perform s j).1.2.roll := c.perform_roll s j
    exact ih.changes hchanges hc
  | elsewhere h m size guests ih =>
    refine ih.cells size ?_ (fun u hu hlive => ?_) fun u hu => congrArg UserCell.key (guests u hu)
    · rw [guests _ (Set.mem_insert _ _)]
      exact ih.held
    · rw [guests u hu] at hlive
      exact hlive

/-- **Users follow the object.** After any run, a call that renames a buffer with an object sends the
    registered users, and the buffer's own, to the object that is handed in, and a call that leaves
    the buffer without an object lets them go. -/
theorem users_follow_object (h : Attends R s) (c : Call) (hc : c.subject? = none) (j : Journal)
    {p : BufferObject} (hp : s.buffer.object = some p) :
    (∀ a, c.consumed? s.buffer = some a →
      ∃ n, n.handle = a ∧ Roll.Moved R s.roll (c.perform s j).1.2.roll n) ∧
    ((c.perform s j).1.2.buffer.object = none →
      Roll.Dismissed R s.roll (c.perform s j).1.2.roll) := by
  have hattended := h.attended
  have hchanges : c.Changes s.buffer s.roll (c.perform s j).1.2.roll := c.perform_roll s j
  have hobject : (c.perform s j).1.2.buffer.object = (c.perform s j).1.2.roll.object := rfl
  rw [hobject]
  generalize (c.perform s j).1.2.roll = y at hchanges
  cases hchanges with
  | enlist u he =>
    subst he
    cases hc
  | delist u he =>
    subst he
    cases hc
  | info he =>
    subst he
    refine ⟨nofun, fun hbare => ?_⟩
    rw [Roll.object_inform] at hbare
    cases hbare.symm.trans hp
  | rename a he =>
    obtain ⟨n, hn, hmoved⟩ := hattended.moved hp a s.buffer.size
    refine ⟨fun a' ha' => ⟨n, ?_, hmoved⟩, fun hbare => ?_⟩
    · exact hn.trans (Option.some.inj (he.symm.trans ha'))
    · cases hbare.symm.trans hmoved.object
  | turned he hy =>
    exact ⟨fun a ha => (nomatch he.symm.trans ha), hattended.dismissed hp hy⟩

end Runs

/-- A buffer with two users besides its own, one of which nobody holds any more, is renamed, or gives
    its object up. -/
theorem users_follow_rename : ∃ R, ∃ s : Site MemoryDevice, ∃ p, Attends R s ∧
    s.buffer.object = some p ∧ p.liveUserCount s.machine.users = 2 ∧
    (∃ n, n.handle = ⟨9⟩ ∧ Roll.Moved R s.roll
      ((Call.rename ⟨⟨9⟩, 0⟩).perform s (.empty .error)).1.2.roll n) ∧
    Roll.Dismissed R s.roll ((Call.complete .vacate).perform s (.empty .error)).1.2.roll := by
  have h₁ := Attends.created (.new (MemoryDevice.new .legacy))
    ⟨4, ∅, BindFlags.vertexBuffer, Access.gpu, 0⟩ (some ⟨#[1, 2, 3, 4]⟩) {} (.empty .error)
    (Option.some_get (by decide +kernel)).symm
  have h₂ := h₁.arrived.arrived.enlisted ⟨1⟩ (by unfold Roll.Held; decide +kernel)
    (by decide +kernel) (.empty .error)
  have h₃ := h₂.enlisted ⟨2⟩ (by unfold Roll.Held; decide +kernel) (by decide +kernel)
    (.empty .error)
  have h₄ := h₃.refreshed ⟨1⟩ (by unfold Roll.Held; decide +kernel) ⟨⟨1⟩, 0, 4⟩
  have h₅ := h₄.letGo ⟨2⟩ (by unfold Roll.Held; decide +kernel) (by decide +kernel)
  refine ⟨_, _, _, h₅, (Option.some_get (by decide +kernel)).symm, by decide +kernel, ?_, ?_⟩
  · exact (users_follow_object h₅ (.rename ⟨⟨9⟩, 0⟩) rfl (.empty .error)
      (Option.some_get (by decide +kernel)).symm).1 ⟨9⟩ rfl
  · exact (users_follow_object h₅ (.complete .vacate) rfl (.empty .error)
      (Option.some_get (by decide +kernel)).symm).2 (by decide +kernel)

end BufferCoherence
