import BufferCoherence.Proofs.Sparing

/-!
# Mappings that are lent out

What is true of a buffer with the mappings `ms` outstanding (`Site.Lends`): they are as many as are
counted, they point into one storage, and that storage is there. The first mapping chooses the
storage, further ones follow it, and the last one that is given back ends it; every other call keeps
it where it is spared (`Call.lends`).
-/

namespace BufferCoherence

open MoveKind

/-! ## 1. What is lent out -/

/-- A range is mapped where everything is. -/
theorem Buffer.storage_of_mapping? {b : Buffer} {offset size : Nat} {m : Mapping}
    (h : b.mapping? offset size = some m) : m.storage = b.mapped := by
  unfold Buffer.mapping? at h
  cases hbase : b.mapBase with
  | some base =>
    rw [hbase] at h
    cases h
    exact (Buffer.mapped_of_some hbase).symm
  | none =>
    simp only [hbase] at h
    split at h
    · cases h
      exact (Buffer.mapped_of_none hbase).symm
    · cases h

section Lends

variable {δ : Type} [Device δ] {s t u : Site δ} {K : List MoveKind} {st : MappedStorage}
  {ms : List Mapping} {m : Mapping}

namespace Site

/-- **The mappings `ms` are lent out**: they are counted, they point into storage that is there, and
    nothing is mapped without them. -/
structure Lends (ms : List Mapping) (s : Site δ) : Prop where
  count : s.buffer.mapCount = ms.length
  points : ∀ m ∈ ms, m.storage = s.buffer.mapped
  holds : ms ≠ [] → s.Holds s.buffer.mapped
  baseless : ms = [] → s.buffer.mapBase = none
  equipped : s.buffer.mapBase.isSome = true → s.buffer.backend.kind ≠ .noObject
  barred : s.buffer.backend.kind = .noObject → s.buffer.objectAllowed = false

theorem Stays.trans (h : Stays st s t) (h' : Stays st t u) : Stays st s u := by
  induction h' with
  | here => exact h
  | next _ step hold ih => exact .next ih step hold

/-- Other mappings into the same storage are lent out. -/
theorem Lends.rebuilt {ms' : List Mapping} (h : Lends ms s) (ht : Moves K s t)
    (hbase : t.buffer.mapBase = s.buffer.mapBase) (hcount : t.buffer.mapCount = ms'.length)
    (hpoints : ∀ m ∈ ms', m.storage = s.buffer.mapped)
    (hholds : ms' ≠ [] → t.Holds s.buffer.mapped) (hnone : ms' = [] → ms = []) : Lends ms' t := by
  obtain ⟨hkind, hallowed⟩ := ht.backend
  have hmapped : t.buffer.mapped = s.buffer.mapped := by
    unfold Buffer.mapped
    rw [hbase]
  refine ⟨hcount, fun m hm => (hpoints m hm).trans hmapped.symm, fun hms => ?_,
    fun hms => hbase.trans (h.baseless (hnone hms)), fun hb => ?_, fun hn => ?_⟩
  · rw [hmapped]
    exact hholds hms
  · rw [hkind]
    rw [hbase] at hb
    exact h.equipped hb
  · rw [← Bool.not_eq_true]
    intro ha
    exact absurd ((hallowed ha).symm.trans (h.barred (hkind.symm.trans hn))) nofun

/-- Moves that spare what is mapped change nothing about what is lent out. -/
theorem Lends.moves [KeepsObjects δ] (h : Lends ms s) (ht : Moves K s t) (hK : .hold ∉ K)
    (hspared : ms ≠ [] → s.buffer.mapped.SparedBy s.buffer K) :
    Lends ms t ∧ ∀ m ∈ ms, Stays m.storage s t := by
  obtain ⟨hcount, hbase⟩ := ht.unheld hK
  have hstays (hms : ms ≠ []) : Stays s.buffer.mapped s t :=
    ht.stays (hspared hms).steady (h.holds hms)
  refine ⟨h.rebuilt ht hbase (hcount.trans h.count) h.points (fun hms => (hstays hms).holds)
    fun hms => hms, fun m hm => ?_⟩
  rw [h.points m hm]
  exact hstays (List.ne_nil_of_mem hm)

/-- What is mapped in place stays lent out. -/
theorem Lends.inPlace [KeepsObjects δ] (h : Lends ms s) (ht : Moves inPlace s t) :
    Lends ms t ∧ ∀ m ∈ ms, Stays m.storage s t :=
  h.moves ht (by simp [MoveKind.inPlace]) fun _ => MappedStorage.sparedBy_inPlace _ _

/-! ## 2. Unmapping -/

/-- The last mapping released. -/
theorem unmap_outer (hcount : s.buffer.mapCount = 1) : unmap.Ends s fun _ t =>
    t.buffer.mapCount = 0 ∧ t.buffer.mapBase = none := by
  intro j
  unfold unmap flushMapping
  simp only [Step.wp_bind, wp_current, Step.wp_ite, Step.wp_note, wp_change, hcount]
  rw [if_neg (by simp), if_neg (by simp)]
  cases hbase : s.buffer.mapBase with
  | none =>
    simp only [Option.isSome_none, Bool.false_eq_true, if_false, Step.wp_pure]
    trivial
  | some base =>
    simp only [Option.isSome_some, if_true]
    split
    · simp only [Step.wp_bind, wp_onDevice, wp_change]
      trivial
    · trivial

theorem unmap_none (hcount : s.buffer.mapCount = 0) : unmap.Ends s fun _ t => t = s := by
  intro j
  unfold unmap
  simp only [Step.wp_bind, wp_current, hcount, beq_self_eq_true, if_true, Step.wp_note]

/-- Unmapping takes no storage away. -/
theorem unmap_stays [KeepsObjects δ] (hs : s.Holds st) : unmap.Ends s fun _ t => Stays st s t :=
  (unmap_within s).mono fun _ _ ht => ht.stays (fun k hk htaken => by
    cases st <;> cases k <;> simp_all [holding, MappedStorage.takenBy]) hs

/-- **The mapping that is given back is lent out no longer.** -/
theorem Lends.unmap_ends [KeepsObjects δ] (h : Lends ms s) : unmap.Ends s fun _ t =>
    Lends ms.tail t ∧ ∀ m ∈ ms, Stays m.storage s t := by
  have hstays (m : Mapping) (hm : m ∈ ms) : s.Holds m.storage := by
    rw [h.points m hm]
    exact h.holds (List.ne_nil_of_mem hm)
  have hbackend := (unmap_within s).mono fun _ t ht => ht.backend
  match ms, h, hstays with
  | [], h, _ =>
    refine (unmap_none h.count).mono fun _ t ht => ?_
    subst ht
    exact ⟨h, fun m hm => absurd hm List.not_mem_nil⟩
  | [m], h, hstays =>
    refine ((unmap_outer h.count).and (hbackend.and (unmap_stays (hstays m (.head _))))).mono ?_
    rintro _ t ⟨⟨hcount, hbase⟩, ⟨hkind, hallowed⟩, ht⟩
    refine ⟨⟨hcount, nofun, fun hne => absurd rfl hne, fun _ => hbase, fun hb => ?_, fun hn => ?_⟩,
      fun m' hm' => ?_⟩
    · rw [hbase] at hb
      cases hb
    · rw [← Bool.not_eq_true]
      intro ha
      exact absurd ((hallowed ha).symm.trans (h.barred (hkind.symm.trans hn))) nofun
    · rw [List.mem_singleton.mp hm']
      exact ht
  | m :: m' :: rest, h, hstays =>
    have hmany : 1 < s.buffer.mapCount := by
      rw [h.count]
      simp
    refine ((unmap_inner hmany).and (unmap_stays (hstays m (.head _)))).mono ?_
    rintro _ t ⟨rfl, ht⟩
    refine ⟨⟨?_, fun x hx => h.points x (.tail _ hx), fun _ => h.holds nofun, nofun, h.equipped,
      h.barred⟩, fun x hx => ?_⟩
    · show s.buffer.mapCount - 1 = _
      rw [h.count]
      rfl
    · rw [(h.points x hx).trans (h.points m (.head _)).symm]
      exact ht

/-! ## 3. Mapping -/

omit [Device δ] in
theorem handOut_opens {offset size : Nat} {P : Except Failure Unit → Site δ → Prop}
    (ht : P (.ok ()) t) : (handOut offset size).Ends t fun r u =>
      match r with
      | .ok m => P (.ok ()) u ∧ u.buffer.mapping? offset size = some m
      | .error f => P (.error f) u ∨ (P (.ok ()) u ∧ u.buffer.mapping? offset size = none) := by
  intro j
  cases hm : t.buffer.mapping? offset size with
  | none =>
    refine (handOut_none hm).wp fun r u k hr => ?_
    obtain ⟨⟨f, rfl⟩, rfl⟩ := hr
    exact .inr ⟨ht, hm⟩
  | some m =>
    refine (handOut_some hm).wp fun r u k hr => ?_
    obtain ⟨rfl, rfl⟩ := hr
    exact ⟨ht, hm⟩

/-- What holds where a range was opened holds where its mapping is handed out. -/
theorem mapPrepared_opens {offset size : Nat} {flags : MapFlags}
    {P : Except Failure Unit → Site δ → Prop}
    (h : ∀ dirty, Attempt.Ends (if s.buffer.mapsShadow flags then openShadow flags dirty
      else openObject flags dirty) s P) :
    (mapPrepared offset size flags).Ends s fun r t =>
      match r with
      | .ok m => P (.ok ()) t ∧ t.buffer.mapping? offset size = some m
      | .error f => P (.error f) t ∨ (P (.ok ()) t ∧ t.buffer.mapping? offset size = none) := by
  intro j
  rw [mapPrepared_eq, Attempt.wp_bind, Attempt.wp_always, wp_current]
  have hopen := h (if flags.has MapFlags.discard then ⟨0, 0⟩ else ⟨offset, size⟩)
  cases hshadow : s.buffer.mapsShadow flags with
  | true =>
    rw [hshadow, if_pos rfl] at hopen
    simp only [hshadow, if_true]
    rw [Attempt.wp_bind]
    refine hopen.wp fun r t k ht => ?_
    cases r with
    | error f => exact .inl ht
    | ok _ => exact handOut_opens ht k
  | false =>
    rw [hshadow, if_neg Bool.false_ne_true] at hopen
    simp only [hshadow, Bool.false_eq_true, if_false]
    rw [Attempt.wp_bind]
    refine hopen.wp fun r t k ht => ?_
    cases r with
    | error f => exact .inl ht
    | ok _ => exact handOut_opens ht k

/-- A range outside the buffer is refused, and what fails is not counted. -/
theorem map_counts {offset size : Nat} {flags : MapFlags}
    {P : Except Failure Mapping → Site δ → Prop}
    (h : (mapPrepared offset size flags).Ends
      { s with buffer := { s.buffer with mapCount := s.buffer.mapCount + 1 } } P) :
    (map offset size flags).Ends s fun r t =>
      match r with
      | .ok _ => P r t
      | .error _ => t = s ∨ ∃ f u, P (.error f) u ∧
          t = { u with buffer := { u.buffer with mapCount := u.buffer.mapCount - 1 } } := by
  intro j
  unfold map
  rw [Attempt.wp_bind, Attempt.wp_always, wp_current]
  by_cases hfit : s.buffer.holds offset size = true
  · simp only [hfit, Bool.not_true, Bool.false_eq_true, if_false, Attempt.wp_bind,
      Attempt.wp_always, wp_change, Attempt.wp_outcome]
    refine h.wp fun r t k ht => ?_
    cases r with
    | ok m => exact ht
    | error f =>
      simp only [Attempt.wp_bind, Attempt.wp_always, wp_change, Attempt.wp_throw]
      exact .inr ⟨f, t, ht, rfl⟩
  · simp only [hfit, Bool.not_false, if_true, Attempt.wp_refuse]
    exact .inl trivial

/-- The object is made ready, and mapped where nothing else is. -/
theorem openObject_opens {flags : MapFlags} (dirty : ByteRange)
    {P : Except Failure Unit → Site δ → Prop} (hK : MoveKind.inPlace ⊆ K) (hunheld : .hold ∉ K)
    (hdiscard : flags.has MapFlags.discard = true → loading ⊆ K ∧ .discard ∈ K)
    (hload : flags.has MapFlags.discard = false → refreshObject.Ends s fun _ t => Moves K s t)
    (hfailed : ∀ f t, Moves K s t → P (.error f) t)
    (hopen : ∀ t, Moves K s t → Attempt.Ends
      (if s.buffer.mapCount == 1 then openMapping flags dirty else pure ()) t P) :
    (openObject flags dirty).Ends s P := by
  have hrest (t : Site δ) (ht : Moves K s t) : (openClaimed flags dirty).Ends t P := by
    intro j
    unfold openClaimed
    rw [Attempt.wp_bind, Attempt.wp_always]
    refine (claimObject_within flags dirty t).wp fun _ u k hu => ?_
    have hsu := ht.trans (hu.mono hK)
    rw [Attempt.wp_bind, Attempt.wp_always, wp_current]
    simp only [(hsu.unheld hunheld).1]
    split
    · rename_i hshadow
      have hd := (hdiscard (Bool.and_eq_true_iff.mp hshadow).1).2
      rw [Attempt.wp_bind, Attempt.wp_always]
      exact (giveUpShadow_within hK hd u).wp fun _ v l hv => hopen v (hsu.trans hv) l
    · exact hopen u hsu k
  have hready {a : Attempt (Site δ) Unit} (ha : a.Ends s fun _ t => Moves K s t) (j : Journal) :
      Attempt.wp (do a; openClaimed flags dirty) s j fun r t _ => P r t := by
    rw [Attempt.wp_bind]
    refine ha.wp fun r t k ht => ?_
    cases r with
    | error f => exact hfailed f t ht
    | ok _ => exact hrest t ht k
  intro j
  rw [openObject_eq]
  unfold readyObject
  cases hd : flags.has MapFlags.discard with
  | true =>
    rw [if_pos rfl]
    exact hready ((discardIntoObject_within s).mono fun _ _ ht => ht.mono (hdiscard hd).1) j
  | false =>
    rw [if_neg Bool.false_ne_true]
    exact hready (hload hd) j

/-- An object that cannot be mapped where it is stays unmapped. -/
theorem mapWithoutObject_baseless (handle : ObjectHandle) (flags : MapFlags) (dirty : ByteRange)
    (s : Site δ) : (mapWithoutObject handle flags dirty).Ends s fun _ t =>
      t.buffer.mapCount = s.buffer.mapCount ∧ t.buffer.mapBase = none := by
  have hrest (b : Buffer) : Attempt.Within (δ := δ) drawing
      (if b.isDynamic then do
        note (.dynamicObjectDropped b.id)
        always dropObject
      else do
        note (.doubleBuffered b.id)
        refreshShadow
        always pinShadow
        if flags.has MapFlags.write then
          always (declareStaleIn (Location.all \ Location.sysmem) dirty.offset dirty.size)) :=
    .ite (.bind (.note _) fun _ => .always (dropObject_within.mono unloading_drawing))
      (.bind (.note _) fun _ => .bind (refreshShadow_within.mono inPlace_drawing) fun _ =>
        .bind (.always (pinShadow_within.mono inPlace_drawing)) fun _ =>
          (claimStale_within _ _ _).mono inPlace_drawing)
  intro j
  unfold mapWithoutObject
  simp only [Attempt.wp_bind, Attempt.wp_always, wp_current, Attempt.wp_note, wp_onDevice,
    wp_change]
  exact (hrest s.buffer _).wp fun _ t _ ht => ht.unheld (by simp [drawing])

/-- **An object that is mapped is the buffer's, and alive.** -/
theorem openMapping_opens [KeepsObjects δ] (flags : MapFlags) (dirty : ByteRange)
    (hbase : s.buffer.mapBase = none) : (openMapping flags dirty).Ends s fun r t =>
      t.buffer.mapCount = s.buffer.mapCount ∧ (t.buffer.mapBase = none ∨
        (r = .ok () ∧ ∃ base, t.buffer.mapBase = some base ∧ t.Holds (.object base.handle))) := by
  intro j
  unfold openMapping
  rw [Attempt.wp_bind, Attempt.wp_always, wp_current]
  cases hobj : s.buffer.object with
  | none =>
    simp only [hobj, Attempt.wp_refuse]
    exact ⟨trivial, .inl hbase⟩
  | some o =>
    simp only [hobj]
    rw [Attempt.wp_bind, wp_tryDevice]
    have hquiet : (Device.openMapping o.handle o.offset s.buffer.size flags).Ends
        s.machine.device fun _ d => Device.Quiet s.machine.device d :=
      fun j => .openMapping _ _ _ _ j
    refine (hquiet.and (KeepsObjects.mapped _ _ _ _)).wp fun r d k hpost => ?_
    obtain ⟨hd, hlive⟩ := hpost
    cases r with
    | error f => exact ⟨rfl, .inl hbase⟩
    | ok position =>
      simp only [Attempt.wp_ite, Attempt.wp_always, wp_change]
      split
      · refine ⟨trivial, .inr ⟨trivial, _, rfl, ?_, ?_⟩⟩
        · show s.buffer.object.map (·.handle) = some o.handle
          rw [hobj]
          rfl
        · exact (KeepsObjects.quiet hd o.handle).trans (hlive rfl)
      · exact (mapWithoutObject_baseless _ _ _ _).wp fun _ t _ ht => ⟨ht.1, .inl ht.2⟩

/-- A further range is opened where something is mapped. -/
theorem open_spared {flags : MapFlags} (hcount : s.buffer.mapCount ≠ 1)
    (hsheds : st = .shadow → s.buffer.shedsByMapping flags = false) :
    ∃ K, st.SparedBy s.buffer K ∧ ∀ dirty, Attempt.Ends (if s.buffer.mapsShadow flags then
      openShadow flags dirty else openObject flags dirty) s fun _ t => Moves K s t := by
  have hinner {K : List MoveKind} (dirty : ByteRange) (hK : MoveKind.inPlace ⊆ K)
      (hunheld : .hold ∉ K) (hdiscard : flags.has MapFlags.discard = true →
        loading ⊆ K ∧ .discard ∈ K)
      (hload : flags.has MapFlags.discard = false →
        refreshObject.Ends s fun _ t => Moves K s t) :
      (openObject flags dirty).Ends s fun _ t => Moves K s t := by
    refine openObject_opens dirty hK hunheld hdiscard hload (fun _ _ ht => ht) fun t ht => ?_
    rw [beq_false_of_ne hcount, if_neg Bool.false_ne_true]
    exact fun _ => ht
  cases hshadow : s.buffer.mapsShadow flags with
  | true =>
    simp only [if_true]
    exact ⟨MoveKind.inPlace, MappedStorage.sparedBy_inPlace _ _,
      fun dirty => openShadow_within flags dirty s⟩
  | false =>
    simp only [Bool.false_eq_true, if_false]
    cases st with
    | object a =>
      have hspared : (MappedStorage.object a).SparedBy s.buffer (.discard :: loading) :=
        ⟨by simp [loading], fun k hk htaken => by
          cases k <;> simp_all [loading, MappedStorage.takenBy]⟩
      have hsub : loading ⊆ MoveKind.discard :: loading := List.subset_cons_self _ _
      exact ⟨_, hspared, fun dirty => hinner dirty (List.Subset.trans inPlace_loading hsub)
        hspared.unheld (fun _ => ⟨hsub, List.mem_cons_self⟩) fun _ => (refreshObject_within s).mono
          fun _ _ ht => ht.mono hsub⟩
    | shadow =>
      have hkept := hsheds rfl
      unfold Buffer.shedsByMapping at hkept
      rw [hshadow, Bool.not_false, Bool.true_and, Bool.or_eq_false_iff,
        Bool.and_eq_false_iff] at hkept
      obtain ⟨hd, hkept⟩ := hkept
      rcases hkept with hloose | hcurrent
      · refine ⟨loading, (MappedStorage.sparedBy_drawing hloose).mono loading_drawing,
          fun dirty => hinner dirty inPlace_loading (by simp [loading])
            (fun hd' => absurd (hd.symm.trans hd') Bool.false_ne_true)
            fun _ => refreshObject_within s⟩
      · refine ⟨MoveKind.inPlace, MappedStorage.sparedBy_inPlace _ _,
          fun dirty => hinner dirty (List.Subset.refl _) (by simp [MoveKind.inPlace])
            (fun hd' => absurd (hd.symm.trans hd') Bool.false_ne_true) fun _ => ?_⟩
        rw [Bool.not_eq_false'] at hcurrent
        exact (refreshObject_current hcurrent).mono fun _ t ht => ht ▸ .here

/-- **A further mapping is lent out besides those that are.** -/
theorem Lends.map_inner [KeepsObjects δ] (h : Lends ms s) (hms : ms ≠ [])
    (offset size : Nat) {flags : MapFlags}
    (hsheds : s.buffer.mapped = .shadow → s.buffer.shedsByMapping flags = false) :
    (map offset size flags).Ends s fun r t =>
      Lends (r.toOption.toList ++ ms) t ∧ ∀ m ∈ ms, Stays m.storage s t := by
  let x : Site δ := { s with buffer := { s.buffer with mapCount := s.buffer.mapCount + 1 } }
  have hx : x.buffer.mapCount ≠ 1 := by
    show s.buffer.mapCount + 1 ≠ 1
    rw [h.count]
    have := List.length_pos_iff.mpr hms
    omega
  obtain ⟨K, hK, hopen⟩ := open_spared hx
    (show s.buffer.mapped = .shadow → x.buffer.shedsByMapping flags = false from hsheds)
  have hkinds : ∀ k ∈ MoveKind.hold :: K, s.buffer.mapped.takenBy k →
      k = .release ∧ s.buffer.isLoose = false := by
    intro k hk htaken
    rcases List.mem_cons.mp hk with rfl | hk
    · cases hst : s.buffer.mapped <;> rw [hst] at htaken <;> exact absurd htaken id
    · exact hK.steady k hk htaken
  have hcounted : Moves (.hold :: K) s x := .one (.held _ _) List.mem_cons_self
  refine (map_counts (mapPrepared_opens hopen)).mono fun r t ht => ?_
  have hstays {u : Site δ} (hu : Moves (.hold :: K) s u) (m : Mapping) (hm : m ∈ ms) :
      Stays m.storage s u := by
    rw [h.points m hm]
    exact hu.stays hkinds (h.holds hms)
  cases r with
  | ok m =>
    obtain ⟨hmoves, hm⟩ := ht
    obtain ⟨hcount, hbase⟩ := hmoves.unheld hK.unheld
    have hst := hcounted.trans (hmoves.mono (List.subset_cons_self _ _))
    refine ⟨h.rebuilt hst hbase ?_ (fun m' hm' => ?_) (fun _ => (hst.stays hkinds
      (h.holds hms)).holds) nofun, hstays hst⟩
    · rw [hcount]
      show s.buffer.mapCount + 1 = ms.length + 1
      rw [h.count]
    · rcases List.mem_cons.mp hm' with rfl | hm'
      · rw [Buffer.storage_of_mapping? hm]
        unfold Buffer.mapped
        rw [hbase]
      · exact h.points m' hm'
  | error f =>
    rcases ht with rfl | ⟨f', u, hu, rfl⟩
    · exact ⟨h, hstays .here⟩
    · have hmoves : Moves K x u := by
        rcases hu with hu | ⟨hu, -⟩
        · exact hu
        · exact hu
      obtain ⟨hcount, hbase⟩ := hmoves.unheld hK.unheld
      have hst : Moves (.hold :: K) s
          { u with buffer := { u.buffer with mapCount := u.buffer.mapCount - 1 } } :=
        .next (hcounted.trans (hmoves.mono (List.subset_cons_self _ _))) List.mem_cons_self
          (.held (u.buffer.mapCount - 1) u.buffer.mapBase)
      refine ⟨h.rebuilt hst hbase ?_ h.points (fun hms => (hst.stays hkinds (h.holds hms)).holds)
        fun hn => hn, hstays hst⟩
      show u.buffer.mapCount - 1 = ms.length
      rw [hcount, ← h.count]
      rfl

/-- What is mapped first is there, whether it is the object or the shadow. -/
theorem open_first [KeepsObjects δ] {flags : MapFlags} (hcount : s.buffer.mapCount = 1)
    (hbase : s.buffer.mapBase = none) (dirty : ByteRange) :
    Attempt.Ends (if s.buffer.mapsShadow flags then openShadow flags dirty
      else openObject flags dirty) s fun r t => t.buffer.mapCount = 1 ∧
        (t.buffer.mapBase = none ∨ (r = .ok () ∧ s.buffer.objectAllowed = true ∧
          ∃ base, t.buffer.mapBase = some base ∧ t.Holds (.object base.handle))) := by
  cases hshadow : s.buffer.mapsShadow flags with
  | true =>
    simp only [if_true]
    refine (openShadow_within flags dirty s).mono fun r t ht => ?_
    obtain ⟨hc, hb⟩ := ht.unheld (by simp [MoveKind.inPlace])
    exact ⟨hc.trans hcount, .inl (hb.trans hbase)⟩
  | false =>
    simp only [Bool.false_eq_true, if_false]
    have hallowed : s.buffer.objectAllowed = true := by
      unfold Buffer.mapsShadow at hshadow
      simpa using (Bool.or_eq_false_iff.mp hshadow).2
    have hsub : loading ⊆ MoveKind.discard :: loading := List.subset_cons_self _ _
    have hunheld : MoveKind.hold ∉ MoveKind.discard :: loading := by simp [loading]
    refine openObject_opens dirty (List.Subset.trans inPlace_loading hsub) hunheld
      (fun _ => ⟨hsub, List.mem_cons_self⟩)
      (fun _ => (refreshObject_within s).mono fun _ _ ht => ht.mono hsub) (fun f t ht => ?_)
      fun t ht => ?_
    · obtain ⟨hc, hb⟩ := ht.unheld hunheld
      exact ⟨hc.trans hcount, .inl (hb.trans hbase)⟩
    · obtain ⟨hc, hb⟩ := ht.unheld hunheld
      rw [hcount, beq_self_eq_true, if_pos rfl]
      refine (openMapping_opens flags dirty (hb.trans hbase)).mono fun r u hpost => ?_
      obtain ⟨hcu, hu⟩ := hpost
      refine ⟨hcu.trans (hc.trans hcount), ?_⟩
      rcases hu with hu | ⟨hr, hu⟩
      · exact .inl hu
      · exact .inr ⟨hr, hallowed, hu⟩

/-- **The first mapping is lent out**, or nothing is. -/
theorem Lends.map_first [KeepsObjects δ] (h : Lends [] s) (offset size : Nat) (flags : MapFlags) :
    (map offset size flags).Ends s fun r t => Lends r.toOption.toList t := by
  let x : Site δ := { s with buffer := { s.buffer with mapCount := s.buffer.mapCount + 1 } }
  have hx : x.buffer.mapCount = 1 := congrArg (· + 1) h.count
  have hends := (map_within offset size flags s).and
    (map_counts (mapPrepared_opens (open_first (s := x) hx (h.baseless rfl))))
  refine hends.mono fun r t ⟨hmoves, ht⟩ => ?_
  obtain ⟨hkind, hallowed⟩ := hmoves.backend
  have hbarred (hn : t.buffer.backend.kind = .noObject) : t.buffer.objectAllowed = false := by
    rw [← Bool.not_eq_true]
    intro ha
    exact absurd ((hallowed ha).symm.trans (h.barred (hkind.symm.trans hn))) nofun
  cases r with
  | ok m =>
    obtain ⟨⟨hcount, ht⟩, hm⟩ := ht
    refine ⟨hcount, fun m' hm' => ?_, fun _ => ?_, nofun, fun hb => ?_, hbarred⟩
    · rw [List.mem_singleton.mp hm']
      exact Buffer.storage_of_mapping? hm
    · rcases ht with hb | ⟨-, -, base, hb, ht⟩
      · rw [Buffer.mapped_of_none hb]
        unfold Buffer.mapping? at hm
        simp only [hb] at hm
        split at hm
        · assumption
        · cases hm
      · rw [Buffer.mapped_of_some hb]
        exact ht
    · rcases ht with hnone | ⟨-, ha, -⟩
      · rw [hnone] at hb
        cases hb
      · rw [hkind]
        exact fun hn => absurd (ha.symm.trans (h.barred hn)) nofun
  | error f =>
    rcases ht with rfl | ⟨f', u, hu, rfl⟩
    · exact h
    · have hu' : u.buffer.mapCount = 1 ∧ u.buffer.mapBase = none := by
        rcases hu with ⟨hc, hb | ⟨hr, -⟩⟩ | ⟨⟨hc, hb | ⟨-, -, base, hb, -⟩⟩, hm⟩
        · exact ⟨hc, hb⟩
        · cases hr
        · exact ⟨hc, hb⟩
        · unfold Buffer.mapping? at hm
          rw [hb] at hm
          cases hm
      refine ⟨?_, fun m hm => absurd hm List.not_mem_nil, fun hne => absurd rfl hne,
        fun _ => hu'.2, fun hb => ?_, hbarred⟩
      · show u.buffer.mapCount - 1 = 0
        rw [hu'.1]
      · have hb' : u.buffer.mapBase.isSome = true := hb
        rw [hu'.2] at hb'
        cases hb'

/-- **A range is mapped, whatever is lent out.** -/
theorem Lends.map_ends [KeepsObjects δ] (h : Lends ms s) (offset size : Nat) {flags : MapFlags}
    (hsheds : ms ≠ [] → s.buffer.mapped = .shadow → s.buffer.shedsByMapping flags = false) :
    (map offset size flags).Ends s fun r t =>
      Lends (r.toOption.toList ++ ms) t ∧ ∀ m ∈ ms, Stays m.storage s t := by
  by_cases hms : ms = []
  · subst hms
    refine (h.map_first offset size flags).mono fun r t ht => ?_
    rw [List.append_nil]
    exact ⟨ht, fun m hm => absurd hm List.not_mem_nil⟩
  · exact h.map_inner hms offset size (hsheds hms)

theorem Lends.write_ends [KeepsObjects δ] (h : Lends ms s) (offset : Nat) (data : ByteArray)
    {flags : MapFlags} (hsheds : ms ≠ [] → s.buffer.mapped = .shadow →
      s.buffer.shedsByMapping (flags ∪ MapFlags.write) = false) :
    (write offset data flags).Ends s fun _ t => Lends ms t ∧ ∀ m ∈ ms, Stays m.storage s t := by
  intro j
  unfold write
  rw [Attempt.wp_bind]
  refine (h.map_ends offset data.size hsheds).wp fun r t k hpost => ?_
  obtain ⟨ht, hst⟩ := hpost
  cases r with
  | error f => exact ⟨ht, hst⟩
  | ok m =>
    simp only [Attempt.wp_bind, Attempt.wp_always]
    refine (writeMapped_within m data t).wp fun _ u l hu => ?_
    obtain ⟨hu, htu⟩ := Lends.inPlace ht hu
    refine hu.unmap_ends.wp fun _ v n hv => ⟨hv.1, fun m' hm' => ?_⟩
    exact ((hst m' hm').trans (htu m' (.tail _ hm'))).trans (hv.2 m' (.tail _ hm'))

theorem Lends.read_ends [KeepsObjects δ] (h : Lends ms s) (offset size : Nat)
    (hsheds : ms ≠ [] → s.buffer.mapped = .shadow →
      s.buffer.shedsByMapping MapFlags.read = false) :
    (read offset size).Ends s fun _ t => Lends ms t ∧ ∀ m ∈ ms, Stays m.storage s t := by
  intro j
  unfold read
  rw [Attempt.wp_bind]
  refine (h.map_ends offset size hsheds).wp fun r t k hpost => ?_
  obtain ⟨ht, hst⟩ := hpost
  cases r with
  | error f => exact ⟨ht, hst⟩
  | ok m =>
    simp only [Attempt.wp_bind, Attempt.wp_get, Attempt.wp_always, Attempt.wp_pure]
    refine (Lends.unmap_ends ht).wp fun _ u n hu => ⟨hu.1, fun m' hm' => ?_⟩
    exact (hst m' hm').trans (hu.2 m' (.tail _ hm'))

end Site

/-! ## 4. Calls -/

open Site

/-- The mappings that are lent out after a call. -/
def Call.outstanding (c : Call) (answer : Option Mapping) (ms : List Mapping) : List Mapping :=
  match c with
  | map .. => answer.toList ++ ms
  | unmap => ms.tail
  | _ => ms

/-- **A call that spares what is mapped leaves all that is lent out where it is.** -/
theorem Call.lends [KeepsObjects δ] (c : Call) (h : Lends ms s)
    (hspares : ms ≠ [] → c.Spares s.buffer s.buffer.mapped) :
    c.perform.Ends s fun a t => Lends (c.outstanding a ms) t ∧
      ∀ m ∈ ms, Stays m.storage s t := by
  by_cases hplain : c.isPlain = true
  · have hout (a : Option Mapping) : c.outstanding a ms = ms := by
      cases c with
      | map | unmap => cases hplain
      | _ => rfl
    simp only [hout]
    by_cases hms : ms = []
    · -- nothing is lent out, and nothing is mapped
      refine (c.perform_moves s).mono fun a t ht => ?_
      split at ht
      · exact h.moves ht.moves (by simp [MoveKind.inPlace]) fun hne => absurd hms hne
      · refine h.moves ht (fun hk => ?_) fun hne => absurd hms hne
        cases c with
        | map | unmap => cases hplain
        | complete op => cases op <;> simp_all [Call.isPlain, Call.kinds, Operation.kinds, loading,
            drawing, unloading, MoveKind.inPlace]
        | _ => simp [Call.kinds, loading, MoveKind.inPlace] at hk
    · have hcount : 0 < s.buffer.mapCount := by
        rw [h.count]
        exact List.length_pos_iff.mpr hms
      obtain ⟨K, hK, hends⟩ := c.plain_spared hplain hcount (hspares hms)
      exact hends.mono fun a t ht => h.moves ht.2 hK.unheld fun _ => hK
  · cases c with
    | map offset size flags =>
      refine fun j => (h.map_ends offset size fun hms hst => ?_).wp fun r t k ht => ht
      have hsp := hspares hms
      rw [hst] at hsp
      exact hsp
    | unmap => exact fun j => h.unmap_ends.wp fun _ t k ht => ht
    | complete op =>
      cases op with
      | write offset data flags =>
        refine (Step.Ends.silent ((h.write_ends offset data fun hms hst => ?_).answering _)).mono
          fun _ _ ht => ht.2
        have hsp := hspares hms
        rw [hst] at hsp
        exact hsp
      | read offset size =>
        refine (Step.Ends.silent ((h.read_ends offset size fun hms hst => ?_).answering _)).mono
          fun _ _ ht => ht.2
        have hsp := hspares hms
        rw [hst] at hsp
        exact hsp
      | _ => exact absurd rfl hplain
    | _ => exact absurd rfl hplain

end Lends

end BufferCoherence
