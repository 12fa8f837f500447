import BufferCoherence.Proofs.Roster

/-!
# What a buffer tells of its object

A buffer on a modern backend answers from a cache: the view that its own user remembers, and only
where there is none the object itself (`Site.objectInfo`). The cache is right because the own user is
a user like any other: it is registered as soon as there is an object, and loses its view whenever
the object goes or is replaced.

* `Roll.Informed` is the invariant: a buffer without an object remembers nothing, and an object owns
  the own user, which remembers that object or nothing;
* every call keeps it (`Roll.Informed.changes`), unless it registers or takes away the own user;
* **`object_info_is_current`**: after any run, whatever the other users and the device did
  meanwhile, the answer is the view of the object that the buffer has, and none without one.
-/

namespace BufferCoherence

namespace Roll

variable {x y : Roll} {o : BufferObject} {u : UserId}

/-! ## 1. The invariant -/

/-- What the buffer's own user remembers. -/
def ownView (x : Roll) : Option ObjectView := (x.users.cell x.user).view

/-- **The own user remembers the object of the buffer, or nothing**, and the object owns it. -/
structure Informed (x : Roll) : Prop where
  held : (x.users.cell x.user).alive = true
  bare : x.object = none → x.ownView = none
  tidy : ∀ o, x.object = some o → o.users.Tidy
  owned : ∀ o, x.object = some o → o.owns x.users x.user = true
  view : ∀ o v, x.object = some o → x.ownView = some v → v = o.view

/-- The answer to a question about the object. -/
theorem Informed.info (h : x.Informed) (hkind : x.kind = .modern) :
    x.info = x.object.map (·.view) := by
  unfold Roll.info
  rw [hkind]
  cases ho : x.object with
  | none => rfl
  | some o =>
    cases hv : (x.users.cell x.user).view with
    | none => rfl
    | some v => exact congrArg some (h.view o v ho hv)

theorem informed_fresh (kind : BackendKind) (users : UserTable) : (fresh kind users).Informed := by
  have hcell : users.add.2.cell users.add.1 = ⟨none, none, 1⟩ := by
    rw [UserTable.cell_add, if_pos rfl]
  refine ⟨?_, fun _ => ?_, nofun, nofun, nofun⟩
  · show (users.add.2.cell users.add.1).alive = true
    rw [hcell]
    rfl
  · show (users.add.2.cell users.add.1).view = none
    rw [hcell]

/-! ## 2. Objects that come and go -/

/-- An object with a user that remembers nothing. -/
theorem informed_of_owned {users : UserTable} (held : (users.cell x.user).alive = true)
    (tidy : o.users.Tidy) (owned : o.owns users x.user = true)
    (hview : (users.cell x.user).view = none) :
    Informed { x with object := some o, users := users } := by
  refine ⟨held, nofun, fun p hp => ?_, fun p hp => ?_, fun p v hp hv => ?_⟩
  · cases hp
    exact tidy
  · cases hp
    exact owned
  · cases hview.symm.trans hv

theorem Informed.adopt (h : x.Informed) (bare : x.object = none) (a : Placement) (size : Nat) :
    (x.adopt a size).Informed := by
  have hlt := UserTable.lt_of_alive h.held
  have htidy : (BufferObject.new a size).users.Tidy := SlotMap.tidy_empty
  have hcell := BufferObject.cell_enter (o := .new a size) hlt x.user
  rw [if_pos rfl] at hcell
  unfold Roll.adopt
  rw [BufferObject.enlist_of_not_lists (BufferObject.not_lists_new a size)]
  refine informed_of_owned ?_ (BufferObject.tidy_enter htidy _ _)
    (BufferObject.owns_enter htidy hlt) ?_
  · rw [hcell]
    exact h.held
  · rw [hcell]
    exact h.bare bare

/-- The own user is among those who are dismissed, and those who move. -/
theorem Informed.listed (h : x.Informed) (ho : x.object = some o) :
    o.Lists x.user ∧ (x.users.cell x.user).alive = true :=
  ⟨BufferObject.lists_of_owns (h.owned o ho), h.held⟩

theorem Informed.dismiss (h : x.Informed) : x.dismiss.Informed := by
  unfold Roll.dismiss
  cases ho : x.object with
  | none => exact h
  | some o =>
    have hcell := BufferObject.cell_dismissUsers (h.tidy o ho) x.users x.user
    rw [if_pos (h.listed ho)] at hcell
    refine ⟨?_, fun _ => ?_, nofun, nofun, nofun⟩
    · show ((o.dismissUsers x.users).2.cell x.user).alive = true
      rw [hcell]
      exact h.held
    · show ((o.dismissUsers x.users).2.cell x.user).view = none
      rw [hcell]

/-- **The own user moves with the others, and forgets the object that is left.** -/
theorem Informed.rename (h : x.Informed) (a : Placement) (size : Nat) :
    (x.rename a size).Informed := by
  unfold Roll.rename
  cases ho : x.object with
  | none => exact h.adopt ho a size
  | some p =>
    have htidy := h.tidy p ho
    have hnew : (BufferObject.new a size).users.Tidy := SlotMap.tidy_empty
    have hmoved := BufferObject.moveUsers_entered htidy hnew x.users
    obtain ⟨hlists, hheld⟩ := h.listed ho
    obtain ⟨k, hkey, hk, -⟩ :=
      hmoved.keyed x.user ((BufferObject.mem_movers htidy).mpr ⟨hlists, hheld⟩)
    exact informed_of_owned ((BufferObject.alive_moveUsers htidy hnew x.users x.user).trans hheld)
      hmoved.tidy (BufferObject.owns_iff.mpr ⟨k, hkey, hk⟩)
      (BufferObject.view_moveUsers htidy hnew hlists hheld)

theorem Informed.turned (h : x.Informed) (hy : Turned x y) : y.Informed := by
  obtain ⟨z, hz, hy⟩ := hy
  have hz : z.Informed := by
    rcases hz with rfl | ⟨bare, a, size, rfl⟩
    · exact h
    · exact h.adopt bare a size
  rcases hy with rfl | rfl
  · exact hz
  · exact hz.dismiss

/-! ## 3. Users -/

/-- A user other than the own one is registered or taken away. -/
theorem Informed.onObject (h : x.Informed) {f : BufferObject → UserTable → BufferObject × UserTable}
    (htidy : ∀ o, x.object = some o → (f o x.users).1.users.Tidy)
    (hview : ∀ o, (f o x.users).1.view = o.view)
    (hcell : ∀ o, (f o x.users).2.cell x.user = x.users.cell x.user)
    (howns : ∀ o, x.object = some o → o.owns x.users x.user = true →
      (f o x.users).1.owns (f o x.users).2 x.user = true) : (x.onObject f).Informed := by
  unfold Roll.onObject
  cases ho : x.object with
  | none => exact h
  | some o =>
    refine ⟨?_, nofun, fun p hp => ?_, fun p hp => ?_, fun p v hp hv => ?_⟩
    · show ((f o x.users).2.cell x.user).alive = true
      rw [hcell]
      exact h.held
    · cases hp
      exact htidy o ho
    · cases hp
      exact howns o ho (h.owned o ho)
    · cases hp
      rw [hview]
      refine h.view o v ho ?_
      unfold ownView
      rw [← hcell o]
      exact hv

theorem Informed.enlist (h : x.Informed) (hu : x.user ≠ u) :
    (x.onObject fun o t => o.enlist t u).Informed :=
  h.onObject (fun o ho => BufferObject.tidy_enlist (h.tidy o ho) _ _) (fun o => o.view_enlist _ _)
    (fun _ => BufferObject.cell_enlist_of_ne hu)
    fun o ho => (BufferObject.owns_enlist_of_ne (h.tidy o ho) hu).mpr

theorem Informed.delist (h : x.Informed) (hu : x.user ≠ u) :
    (x.onObject fun o t => o.delist t u).Informed :=
  h.onObject (fun o ho => BufferObject.tidy_delist (h.tidy o ho) _ _) (fun o => o.view_delist _ _)
    (fun _ => BufferObject.cell_delist_of_ne hu)
    fun _ _ => (BufferObject.owns_delist_of_ne hu).mpr

/-- **A question about the object leaves its view with the own user.** -/
theorem Informed.inform (h : x.Informed) : x.inform.Informed := by
  unfold Roll.inform
  split
  · rename_i o hkind ho
    split
    · exact h
    · have hcell : (o.refresh x.users x.user).2.cell x.user =
          { x.users.cell x.user with view := some o.view } :=
        (UserTable.cell_update (UserTable.lt_of_alive h.held) _ x.user).trans (if_pos rfl)
      refine ⟨?_, fun hnone => ?_, h.tidy, fun p hp => ?_, fun p v hp hv => ?_⟩
      · show ((o.refresh x.users x.user).2.cell x.user).alive = true
        rw [hcell]
        exact h.held
      · cases ho.symm.trans hnone
      · obtain ⟨k, hk⟩ := BufferObject.owns_iff.mp (h.owned p hp)
        refine BufferObject.owns_iff.mpr ⟨k, ?_, hk.2⟩
        show ((o.refresh x.users x.user).2.cell x.user).key = some k
        rw [hcell]
        exact hk.1
      · cases ho.symm.trans hp
        have hv : ((o.refresh x.users x.user).2.cell x.user).view = some v := hv
        rw [hcell] at hv
        exact (Option.some.inj hv).symm
  · exact h

/-! ## 4. Runs -/

/-- **Every call keeps the own user informed**, unless it is about the own user itself. -/
theorem Informed.changes {c : Call} {b : Buffer} (h : x.Informed) (hy : c.Changes b x y)
    (hothers : c.subject? ≠ some x.user) : y.Informed := by
  cases hy with
  | enlist u hc =>
    subst hc
    exact h.enlist fun hu => hothers (congrArg some hu.symm)
  | delist u hc =>
    subst hc
    exact h.delist fun hu => hothers (congrArg some hu.symm)
  | info hc => exact h.inform
  | rename a hc => exact h.rename a _
  | turned hc hy => exact h.turned hy

end Roll

/-- The sites that a buffer on a modern backend comes to. -/
inductive Serves {δ : Type} [Device δ] : Site δ → Prop where
  | created (m : Machine δ) (request : BufferRequest) (data : Option ByteArray)
      (settings : Settings) (j : Journal) {b : Buffer}
      (modern : (Device.caps m.device).backend = .modern)
      (hb : ((Machine.create request data settings).run m j).1.1.toOption = some b) :
      Serves ⟨b, ((Machine.create request data settings).run m j).1.2⟩
  /-- Any call on the buffer, unless it registers or takes away the own user. -/
  | called {s : Site δ} (h : Serves s) (c : Call) (others : c.subject? ≠ some s.buffer.user)
      (j : Journal) : Serves (c.perform s j).1.2
  /-- Whatever happens to the device, and to users other than the own one. -/
  | elsewhere {s : Site δ} (h : Serves s) (m : Machine δ)
      (own : m.users.cell s.buffer.user = s.machine.users.cell s.buffer.user) :
      Serves { s with machine := m }

namespace Serves

variable {δ : Type} [Device δ] {s : Site δ}

/-- Only the own cell bears on what the own user knows. -/
theorem informed_elsewhere {x : Roll} (h : x.Informed) {users : UserTable}
    (own : users.cell x.user = x.users.cell x.user) : Roll.Informed { x with users } := by
  have hview : Roll.ownView { x with users } = x.ownView := congrArg (·.view) own
  refine ⟨?_, fun hbare => hview.trans (h.bare hbare), h.tidy, fun o ho => ?_, fun o v ho hv =>
    h.view o v ho (hview.symm.trans hv)⟩
  · show (users.cell x.user).alive = true
    rw [own]
    exact h.held
  · have howns := h.owned o ho
    rw [BufferObject.owns_iff] at howns ⊢
    rw [own]
    exact howns

theorem informed (h : Serves s) : s.roll.Informed ∧ s.roll.kind = .modern := by
  induction h with
  | created m request data settings j modern hb =>
    have hgrown := (Machine.create_roll m request data settings).of_run
      (Attempt.eq_end_of_ok _ _ _ hb) _ rfl
    exact ⟨(Roll.informed_fresh _ _).turned hgrown.turned,
      hgrown.turned.kept.kind.trans modern⟩
  | @called s h c others j ih =>
    have hchanges : c.Changes s.buffer s.roll (c.perform s j).1.2.roll := c.perform_roll s j
    exact ⟨ih.1.changes hchanges others, hchanges.kept.kind.trans ih.2⟩
  | elsewhere h m own ih => exact ⟨informed_elsewhere ih.1 own, ih.2⟩

end Serves

/-- **A buffer on a modern backend answers with the object that it has**: nothing without an object,
    and else its handle, its offset and its size. -/
theorem object_info_is_current {δ : Type} [Device δ] {s : Site δ} (h : Serves s) (j : Journal) :
    (Site.objectInfo s j).1.1 = s.buffer.object.map (·.view) := by
  obtain ⟨hinformed, hkind⟩ := h.informed
  have hanswer : (Site.objectInfo s j).1.1 = s.roll.info := (Site.objectInfo_roll s j).1
  exact hanswer.trans (hinformed.info hkind)

/-- A buffer that was asked, renamed with another user on its object, and asked again. -/
theorem object_info_after_rename : ∃ s : Site MemoryDevice, Serves s ∧
    s.buffer.object.map (·.view) = some ⟨⟨9⟩, 16, 4⟩ ∧
    ∀ j, (Site.objectInfo s j).1.1 = s.buffer.object.map (·.view) := by
  have h₁ := Serves.created (.new (MemoryDevice.new .modern))
    ⟨4, ∅, BindFlags.vertexBuffer, Access.gpu, 0⟩ (some ⟨#[1, 2, 3, 4]⟩) {} (.empty .error)
    (by decide) (Option.some_get (by decide +kernel)).symm
  have h₂ := h₁.called .info nofun (.empty .error)
  have h₃ := h₂.called (.enlist ⟨1⟩) (by decide +kernel) (.empty .error)
  have h₄ := h₃.called (.rename ⟨⟨9⟩, 16⟩) nofun (.empty .error)
  exact ⟨_, h₄, by decide +kernel, fun j => object_info_is_current h₄ j⟩

end BufferCoherence
