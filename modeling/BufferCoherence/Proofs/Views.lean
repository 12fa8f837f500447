import BufferCoherence.Proofs.Belonging

/-!
# Views that go stale

A user remembers the object it was refreshed with, and the object clears what is remembered before it
goes. Whether a view can be trusted depends on the users keeping to two rules
(`ObjectSlots.Act.Careful`): a user is registered while it has no entry, and refreshed with the
object that owns it.

* `ObjectSlots.Current` is the invariant: every view is that of the object that owns the user;
* **`never_stale_iff`**: along a run of careful acts views are current, and whoever is registered or
  taken from a registry has no view until it is refreshed, if and only if nobody had a view when it
  was taken from a registry;
* `stale_after_delist` is the run that breaks it: `BufferObject.delist` takes the key of a user and
  leaves it the view, of an object that will not find the user again when it goes.
-/

namespace BufferCoherence

namespace ObjectSlots

variable {s : ObjectSlots} {u : UserId} {v : ObjectView} {slot i : Nat} {k : SlotKey}
  {o o' : BufferObject} {a : Act} {acts : List Act}

/-! ## 1. Rules -/

/-- A user is registered only while it has no entry, and refreshed only with the object that owns
    it. -/
def Act.Careful (s : ObjectSlots) : Act → Prop
  | enlist _ u => (s.cell u).hasEntry = false
  | refresh slot u => s.owns slot u = some true
  | _ => True

/-- A user that is taken from the registry of its object has no view. -/
def Act.Blind (s : ObjectSlots) : Act → Prop
  | delist slot u => s.owns slot u = some true → (s.cell u).view = none
  | _ => True

/-- What can happen, by the rules. -/
def Act.Proper (s : ObjectSlots) (a : Act) : Prop := a.Allowed s ∧ a.Careful s

instance (s : ObjectSlots) (a : Act) : Decidable (a.Careful s) :=
  match a with
  | .enlist _ u => inferInstanceAs (Decidable ((s.cell u).hasEntry = false))
  | .refresh slot u => inferInstanceAs (Decidable (s.owns slot u = some true))
  | .make .. | .drop _ | .add | .hold _ | .letGo _ | .delist .. | .forget _ | .move ..
  | .dismiss _ =>
    inferInstanceAs (Decidable True)

instance (s : ObjectSlots) (a : Act) : Decidable (a.Blind s) :=
  match a with
  | .delist slot u =>
    inferInstanceAs (Decidable (s.owns slot u = some true → (s.cell u).view = none))
  | .make .. | .drop _ | .add | .hold _ | .letGo _ | .enlist .. | .refresh .. | .forget _ | .move ..
  | .dismiss _ => inferInstanceAs (Decidable True)

instance (s : ObjectSlots) (a : Act) : Decidable (a.Proper s) :=
  inferInstanceAs (Decidable (a.Allowed s ∧ a.Careful s))

/-- A careful user has no entry elsewhere. -/
theorem Act.Careful.apart (h : a.Careful s) : a.Apart s := by
  cases a with
  | enlist slot u => exact fun _ => h
  | _ => trivial

/-! ## 2. Objects keep their identity -/

/-- An object changed in its users only. -/
theorem onObject_view {f : BufferObject → UserTable → BufferObject × UserTable}
    (hf : ∀ o t, (f o t).1.view = o.view) (ho : s.objects.get? i = some o)
    (ho' : (s.onObject slot f).objects.get? i = some o') : o'.view = o.view := by
  cases hslot : s.objects.get? slot with
  | none =>
    rw [onObject_none hslot, ho] at ho'
    cases ho'
    rfl
  | some p =>
    rw [onObject_get? hslot] at ho'
    split at ho'
    · rename_i hi
      cases ho'
      rw [hi, hslot] at ho
      cases ho
      exact hf _ _
    · rw [ho] at ho'
      cases ho'
      rfl

/-- Objects whose users move. -/
theorem transfer_view {target : Nat} (h : Orderly s) (ho : s.objects.get? i = some o)
    (ho' : (s.transfer slot target).objects.get? i = some o') : o'.view = o.view := by
  have hsame (he : s.transfer slot target = s) : o'.view = o.view := by
    rw [he, ho] at ho'
    cases ho'
    rfl
  cases hp : s.objects.get? slot with
  | none => exact hsame (by unfold transfer; simp only [hp])
  | some p =>
    cases hq : s.objects.get? target with
    | none => exact hsame (by unfold transfer; simp only [hp, hq])
    | some q =>
      by_cases hne : slot = target
      · exact hsame (by unfold transfer; simp only [hq, hne, if_true])
      · rw [(transfer_eq hp hq hne).2] at ho'
        split at ho'
        · rename_i hi
          cases hi
          cases hq.symm.trans ho
          cases ho'
          exact (BufferObject.moveUsers_entered (h.tidy slot p hp) (h.tidy i o ho) _).view
        · split at ho'
          · rename_i hi
            cases hi
            cases hp.symm.trans ho
            cases ho'
            rfl
          · cases ho.symm.trans ho'
            rfl

/-- **No act changes what an object is**, as long as it is there. -/
theorem view_perform (h : Orderly s) (ha : a.Allowed s) (ho : s.objects.get? i = some o)
    (ho' : (a.perform s).objects.get? i = some o') : o'.view = o.view := by
  -- where the act leaves the object as it was
  have hsame (h : (a.perform s).objects.get? i = s.objects.get? i) : o'.view = o.view := by
    rw [h, ho] at ho'
    cases ho'
    rfl
  cases a with
  | make slot b size =>
    have hget : ((Act.make slot b size).perform s).objects.get? i = _ :=
      Table.get?_insert s.objects slot i _
    refine hsame (hget.trans (if_neg ?_))
    rintro rfl
    cases ha.symm.trans ho
  | drop slot =>
    have hget : ((Act.drop slot).perform s).objects.get? i = _ := Table.get?_erase s.objects slot i
    refine hsame (hget.trans (if_neg fun hi => ?_))
    rw [hget, if_pos hi] at ho'
    cases ho'
  | add | hold u | letGo u => exact hsame rfl
  | enlist slot u => exact onObject_view (fun o t => o.view_enlist t u) ho ho'
  | delist slot u => exact onObject_view (fun o t => o.view_delist t u) ho ho'
  | refresh slot u =>
    exact onObject_view (f := fun o t => (o, (o.refresh t u).2)) (fun _ _ => rfl) ho ho'
  | forget slot => exact onObject_view (f := BufferObject.forgetViews) (fun _ _ => rfl) ho ho'
  | dismiss slot => exact onObject_view (f := BufferObject.dismissUsers) (fun _ _ => rfl) ho ho'
  | move slot target => exact transfer_view h ho ho'

/-! ## 3. Current views -/

/-- **Every view is that of the object that owns the user.** -/
def Current (s : ObjectSlots) : Prop := ∀ u v, s.Held u → (s.cell u).view = some v →
  ∃ i o, s.objects.get? i = some o ∧ o.owns s.users.cells u = true ∧ o.view = v

theorem current_empty : Current empty := nofun

/-- A user that is nowhere has no view. -/
theorem Current.view_eq_none (h : Current s) (hu : s.Held u) (hseats : ∀ i k, ¬ s.Seats u i k) :
    (s.cell u).view = none := by
  refine Option.eq_none_iff_forall_ne_some.mpr fun v hv => ?_
  obtain ⟨i, o, ho, howns, -⟩ := h u v hu hv
  obtain ⟨k, hk⟩ := BufferObject.lists_of_owns howns
  exact hseats i k ⟨o, ho, hk⟩

/-- A user that has no entry has no view. -/
theorem Current.view_of_entry (h : Current s) (hs : Orderly s) (hu : s.Held u)
    (hentry : (s.cell u).hasEntry = false) : (s.cell u).view = none := by
  have hkey : (s.cell u).key = none := by simpa [UserCell.hasEntry] using hentry
  exact h.view_eq_none hu fun i k => (hs.placed u hu).not_seats hkey

/-- Who stays in an object that owned it is owned by an object of the same identity. -/
theorem owned_after (h : Orderly s) (ha : a.Allowed s)
    (ho : s.objects.get? i = some o) (howns : o.owns s.users.cells u = true)
    (hkey : ((a.perform s).cell u).key = (s.cell u).key)
    (hseats : ∀ i k, (a.perform s).Seats u i k ↔ s.Seats u i k) :
    ∃ o', (a.perform s).objects.get? i = some o' ∧ o'.owns (a.perform s).users.cells u = true ∧
      o'.view = o.view := by
  obtain ⟨k, hk, hfound⟩ := BufferObject.owns_iff.mp howns
  obtain ⟨o', ho', hfound'⟩ := (hseats i k).mpr ⟨o, ho, hfound⟩
  exact ⟨o', ho', BufferObject.owns_iff.mpr ⟨k, hkey.trans hk, hfound'⟩, view_perform h ha ho ho'⟩

/-- **A careful act leaves views current**, unless it takes a user with a view from a registry. -/
theorem Current.perform (hc : Current s) (h : Orderly s) (ha : a.Proper s) (hblind : a.Blind s) :
    Current (a.perform s) := by
  obtain ⟨ha, hcareful⟩ := ha
  intro u v hu hv
  cases (conducts h ha hcareful.apart).fate u hu with
  | stays held key seats view =>
    rcases view with hnone | hsame | ⟨slot, o, rfl, ho, hnew⟩
    · cases hnone.symm.trans hv
    · obtain ⟨i, o, ho, howns, rfl⟩ := hc u v held (hsame.symm.trans hv)
      obtain ⟨o', ho', howns', hview⟩ := owned_after h ha ho howns key seats
      exact ⟨i, o', ho', howns', hview⟩
    · have howns : o.owns s.users.cells u = true :=
        Option.some.inj ((owns_of_object ho).symm.trans hcareful)
      obtain ⟨o', ho', howns', hview⟩ := owned_after h ha ho howns key seats
      exact ⟨slot, o', ho', howns', hview.trans (Option.some.inj (hnew.symm.trans hv))⟩
  | leaves key seats view =>
    rcases view with hnone | ⟨slot, rfl, howns, held, hsame⟩
    · cases hnone.symm.trans hv
    · cases (hblind howns).symm.trans (hsame.symm.trans hv)
  | enters i k key seats view =>
    rcases view with hnone | ⟨slot, rfl, hkey, held, hsame⟩
    · cases hnone.symm.trans hv
    · -- it comes from nowhere, where nobody has a view
      have hnowhere := hc.view_eq_none held fun i k => (h.placed u held).not_seats hkey
      cases hnowhere.symm.trans (hsame.symm.trans hv)

/-! ## 4. Runs -/

/-- Along a run of careful acts that take nobody with a view from a registry. -/
theorem current_run (hc : Current s) (h : Orderly s) (ha : s.Lawful Act.Proper acts)
    (hblind : s.Lawful Act.Blind acts) : Orderly (s.run acts) ∧ Current (s.run acts) := by
  induction acts generalizing s with
  | nil => exact ⟨h, hc⟩
  | cons a rest ih =>
    exact ih (hc.perform h ha.1 hblind.1) (h.perform ha.1.1 ha.1.2.apart) ha.2 hblind.2

/-- **Who has no view gets none, as long as it is not refreshed.** -/
theorem view_run (h : Orderly s) (ha : s.Lawful Act.Proper acts)
    (hnone : s.Held u → (s.cell u).view = none) (hacts : ∀ i, .refresh i u ∉ acts)
    (hu : (s.run acts).Held u) : ((s.run acts).cell u).view = none := by
  induction acts generalizing s with
  | nil => exact hnone hu
  | cons a rest ih =>
    obtain ⟨⟨ha, hcareful⟩, hrest⟩ := ha
    refine ih (h.perform ha hcareful.apart) hrest (fun hheld => ?_)
      (fun i hi => hacts i (List.mem_cons_of_mem _ hi)) hu
    cases (conducts h ha hcareful.apart).fate u hheld with
    | stays held key seats view =>
      rcases view with hview | hsame | ⟨slot, o, rfl, -, -⟩
      · exact hview
      · exact hsame.trans (hnone held)
      · exact absurd List.mem_cons_self (hacts slot)
    | leaves key seats view =>
      rcases view with hview | ⟨slot, -, -, held, hsame⟩
      · exact hview
      · exact hsame.trans (hnone held)
    | enters i k key seats view =>
      rcases view with hview | ⟨slot, -, -, held, hsame⟩
      · exact hview
      · exact hsame.trans (hnone held)

/-- Who is taken from a registry keeps its view. -/
theorem view_delisted (hu : s.Held u) (howns : s.owns slot u = some true) :
    ((Act.delist slot u).perform s).Held u ∧
      (((Act.delist slot u).perform s).cell u).view = (s.cell u).view := by
  obtain ⟨o, ho, howns⟩ := Option.map_eq_some_iff.mp howns
  obtain ⟨k, hkey, -⟩ := BufferObject.owns_iff.mp howns
  have hcell : ((Act.delist slot u).perform s).cell u = { s.cell u with key := none } := by
    refine (onObject_cell (f := fun o t => o.delist t u) ho u).trans ?_
    rw [BufferObject.delist_of_owns howns hkey]
    exact (UserTable.cell_update (UserTable.lt_of_alive hu) _ u).trans (if_pos rfl)
  unfold Held
  rw [hcell]
  exact ⟨hu, rfl⟩

/-- A user has no view from an act of a run on, until it is refreshed. -/
def BlindFrom (acts past : List Act) (a : Act) (u : UserId) : Prop :=
  ∀ later, past ++ a :: later <+: acts → (∀ i, .refresh i u ∉ later) →
    (empty.run (past ++ a :: later)).Held u →
    ((empty.run (past ++ a :: later)).cell u).view = none

/-- **No view is stale along a run**: at every moment every view is that of the object that owns the
    user, and whoever is registered, or taken from the registry of its object, has no view until it
    is refreshed. -/
structure NeverStale (acts : List Act) : Prop where
  current : ∀ past, past <+: acts → Current (empty.run past)
  enlisted : ∀ past slot u, BlindFrom acts past (.enlist slot u) u
  delisted : ∀ past slot u, (empty.run past).owns slot u = some true →
    BlindFrom acts past (.delist slot u) u

/-- Who has no view when something happens to it other than a refresh. -/
theorem blindFrom_of_run {past : List Act} (hrefresh : ∀ i, a ≠ .refresh i u)
    (h : ∀ later, past ++ a :: later <+: acts → Orderly (empty.run past) ∧
      (empty.run past).Lawful Act.Proper (a :: later) ∧
      ((empty.run past).Held u → ((empty.run past).cell u).view = none)) :
    BlindFrom acts past a u := by
  intro later hpast hlater hu
  obtain ⟨horderly, hproper, hnone⟩ := h later hpast
  rw [run_append] at hu ⊢
  refine view_run horderly hproper hnone (fun i hi => ?_) hu
  rcases List.mem_cons.mp hi with hi | hi
  · exact hrefresh i hi.symm
  · exact hlater i hi

/-- What takes nobody with a view from a registry leaves no view stale. -/
theorem never_stale_of_blind (ha : empty.Lawful Act.Proper acts)
    (hblind : empty.Lawful Act.Blind acts) : NeverStale acts := by
  have hrun {past : List Act} (hpast : past <+: acts) :=
    current_run current_empty orderly_empty (ha.of_prefix hpast) (hblind.of_prefix hpast)
  refine ⟨fun past hpast => (hrun hpast).2, fun past slot u => blindFrom_of_run nofun ?_,
    fun past slot u howns => blindFrom_of_run nofun ?_⟩
  · intro later hpast
    obtain ⟨h, hc⟩ := hrun ((List.prefix_append _ _).trans hpast)
    have hnow := (lawful_append.mp (ha.of_prefix hpast)).2
    exact ⟨h, hnow, fun held => hc.view_of_entry h held hnow.1.2⟩
  · intro later hpast
    have hnow := (lawful_append.mp (hblind.of_prefix hpast)).2
    exact ⟨(hrun ((List.prefix_append _ _).trans hpast)).1,
      (lawful_append.mp (ha.of_prefix hpast)).2, fun _ => hnow.1 howns⟩

/-- What leaves no view stale takes nobody with a view from a registry. -/
theorem NeverStale.blind (h : NeverStale acts) (ha : empty.Lawful Act.Proper acts) :
    empty.Lawful Act.Blind acts := by
  refine lawful_of_each fun past a later hacts => ?_
  cases a with
  | delist slot u =>
    intro howns
    subst hacts
    have held : (empty.run past).Held u := (lawful_append.mp ha).2.1.1
    obtain ⟨hheld, hview⟩ := view_delisted held howns
    refine hview.symm.trans ?_
    have hnone := h.delisted past slot u howns [] ?_ (fun _ => List.not_mem_nil)
    · rw [run_append] at hnone
      exact hnone hheld
    · rw [← List.singleton_append (l := later), ← List.append_assoc]
      exact List.prefix_append _ _
  | _ => trivial

end ObjectSlots

open ObjectSlots in
/-- **No view is ever stale exactly if nobody has a view when it is taken from the registry of its
    object**, along every run in which users are registered only while they have no entry, and
    refreshed only with the object that owns them. -/
theorem never_stale_iff (acts : List Act) (h : ObjectSlots.empty.Lawful Act.Proper acts) :
    NeverStale acts ↔ ObjectSlots.empty.Lawful Act.Blind acts :=
  ⟨fun hn => hn.blind h, never_stale_of_blind h⟩

open ObjectSlots in
/-- A user that is refreshed, moves, is refreshed again, and loses its view before it leaves. -/
theorem never_stale_after_move : NeverStale [.make 0 ⟨⟨1⟩, 0⟩ 64, .make 1 ⟨⟨2⟩, 0⟩ 64, .add,
    .enlist 0 ⟨0⟩, .refresh 0 ⟨0⟩, .move 0 1, .refresh 1 ⟨0⟩, .forget 1, .delist 1 ⟨0⟩,
    .enlist 0 ⟨0⟩] :=
  (never_stale_iff _ (by decide)).mpr (by decide)

open ObjectSlots in
/-- A user that leaves its object, which goes, still remembers it, also when it is registered with
    the next one. -/
theorem stale_after_delist : ¬ ∀ acts, ObjectSlots.empty.Lawful Act.Proper acts →
    NeverStale acts := by
  intro h
  have hstale := (h [.make 0 ⟨⟨1⟩, 0⟩ 64, .make 1 ⟨⟨2⟩, 0⟩ 64, .add, .enlist 0 ⟨0⟩,
    .refresh 0 ⟨0⟩, .delist 0 ⟨0⟩, .drop 0, .enlist 1 ⟨0⟩] (by decide)).enlisted
    [.make 0 ⟨⟨1⟩, 0⟩ 64, .make 1 ⟨⟨2⟩, 0⟩ 64, .add, .enlist 0 ⟨0⟩, .refresh 0 ⟨0⟩, .delist 0 ⟨0⟩,
      .drop 0] 1 ⟨0⟩ [] List.prefix_rfl (fun _ => List.not_mem_nil) (by unfold Held; decide)
  exact absurd hstale (by decide)

end BufferCoherence
