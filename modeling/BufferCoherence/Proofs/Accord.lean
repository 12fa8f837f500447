import BufferCoherence.Proofs.Creation
import BufferCoherence.Proofs.Footprints
import BufferCoherence.Proofs.Lockstep

/-!
# Operations in lockstep

Every operation does the same on twin machines, with one exception. A mapping goes through the
shadow or through the object, and in the second case the host has to reach the object: `map_agrees`
asks for that, and `map_refused` shows that the Vulkan device maps nothing else.

While a buffer is mapped its footing is another one (`Footing.mapped`); the operations that are
complete put it back.
-/

namespace BufferCoherence

open Vulkan (Driver MemoryLocation)
open VulkanDevice (totalSize)

variable {k : Footing}

/-- A source of `size` bytes, from the host or in the object of another buffer. -/
def TransferSource.Known (k : Footing) (size : Nat) : TransferSource → Prop
  | .host data => size ≤ data.size
  | .object a base => ∃ n reached, k.others a n reached ∧ base + size ≤ n

namespace Site

variable {s : Site MemoryDevice} {t : Site VulkanDevice}

/-! ## 1. Copying -/

theorem covers_known (h : Twin k s t) {source : TransferSource} {size : Nat}
    (hsource : source.Known k size) : source.Covers t.machine.device [⟨0, size⟩] := by
  have hstop (r : ByteRange) (hr : r ∈ [(⟨0, size⟩ : ByteRange)]) : r.stop = size := by
    cases List.mem_singleton.mp hr
    exact Nat.zero_add size
  cases source with
  | host data => exact TransferSource.covers_host fun r hr => (hstop r hr).symm ▸ hsource
  | object a base =>
    obtain ⟨n, reached, hothers, hfit⟩ := hsource
    exact TransferSource.covers_object (h.others a n reached hothers) fun r hr =>
      (hstop r hr).symm ▸ hfit

/-- A run that leaves the buffer is refused, and nothing is done. -/
theorem requireRun_agrees (h : Twin k s t) (offset size : Nat) :
    (requireRun offset size).Agree (requireRun offset size) s t fun r s' t' =>
      (s' = s ∧ t' = t) ∧ (r = .ok () → offset + size ≤ k.size) := by
  intro i j
  unfold requireRun
  refine h.looking_wp₂ ?_
  cases hfit : s.buffer.holds offset size with
  | false => exact ⟨rfl, ⟨rfl, rfl⟩, nofun⟩
  | true => exact ⟨rfl, ⟨rfl, rfl⟩, fun _ => h.fitted.size ▸ fits_iff.mp hfit⟩

/-- What comes after it may rely on a run inside the buffer. -/
theorem requireRun_bind_agrees {α : Type} (h : Twin k s t) {offset size : Nat}
    {a : Attempt (Site MemoryDevice) α} {b : Attempt (Site VulkanDevice) α}
    (hf : offset + size ≤ k.size → a.Agree b s t fun _ => Twin k) :
    (requireRun offset size >>= fun _ => a).Agree (requireRun offset size >>= fun _ => b) s t
      fun _ => Twin k := by
  intro i j
  refine (requireRun_agrees h offset size).bind_wp₂ (fun _ s' t' i' j' hpost => ?_)
    fun _ s' t' _ _ hpost => ?_
  · obtain ⟨⟨rfl, rfl⟩, hfit⟩ := hpost
    exact hf (hfit rfl) i' j'
  · obtain ⟨⟨rfl, rfl⟩, -⟩ := hpost
    exact ⟨rfl, h⟩

theorem copyRun_agrees (h : Twin k s t) (offset : Nat) {source : TransferSource} {size : Nat}
    (hsource : source.Known k size) :
    (copyRun offset source size).Agree (copyRun offset source size) s t fun _ => Twin k := by
  unfold copyRun
  refine requireRun_bind_agrees h fun hfit => ?_
  intro i j
  refine h.looking_wp₂ ?_
  refine Attempt.Lockstep.bind_at (authoritative_agrees h) (fun a s' t' h' ha => ?_) i j
  have hstale (l : Location) : Attempt.Lockstep k (always (declareStaleIn l offset size))
      (always (declareStaleIn l offset size)) := .always (declareStaleIn_lockstep _ _ _)
  cases a with
  | shadow =>
    exact fun i j => (fillShadow_agrees h' hfit (covers_known h' hsource) _).bind_wp₂
      (fun _ s'' t'' i' j' h'' => hstale _ s'' t'' h'' i' j') fun _ _ _ _ _ h'' => ⟨rfl, h''⟩
  | object handle base =>
    obtain ⟨rfl, hhas⟩ := h'.fitted.address (ha _ rfl)
    refine fun i j => (fillObject_agrees h' hhas (covers_known h' hsource) (fun r hr => ?_)
      (h'.fitted.dirty.staged_run h'.positive (by omega)) _).bind_wp₂
        (fun _ s'' t'' i' j' h'' => hstale _ s'' t'' h'' i' j') fun _ _ _ _ _ h'' => ⟨rfl, h''⟩
    cases List.mem_singleton.mp hr
    unfold ByteRange.stop
    dsimp only
    omega

theorem storeBytes_lockstep (offset : Nat) (data : ByteArray) :
    Attempt.Lockstep k (storeBytes offset data) (storeBytes offset data) := fun _ _ h =>
  have hsource : (TransferSource.host data).Known k data.size := Nat.le_refl data.size
  copyRun_agrees h offset hsource

theorem moveInShadow_lockstep (offset sourceOffset size : Nat) : Attempt.Lockstep k
    (moveInShadow offset sourceOffset size) (moveInShadow offset sourceOffset size) := by
  unfold moveInShadow
  refine .looking fun s t h => ?_
  cases hshadow : s.buffer.shadow with
  | none => exact Attempt.Lockstep.refuse _ _ s t h
  | some shadow =>
    refine Attempt.Lockstep.always (.change fun b e hb => hb.withShadow fun m hm => ?_) s t h
    cases hm
    rw [Bytes.size_splice, h.fitted.shadow shadow hshadow]

theorem moveRun_lockstep (offset sourceOffset size : Nat) : Attempt.Lockstep k
    (moveRun offset sourceOffset size) (moveRun offset sourceOffset size) := by
  intro s t h
  unfold moveRun
  refine requireRun_bind_agrees h fun hfit => requireRun_bind_agrees h fun hsource => ?_
  refine Attempt.Lockstep.bind_at (authoritative_agrees h) fun a s t h ha => ?_
  have hstale (l : Location) : Attempt.Lockstep k (always (declareStaleIn l offset size))
      (always (declareStaleIn l offset size)) := .always (declareStaleIn_lockstep _ _ _)
  cases a with
  | shadow => exact (moveInShadow_lockstep offset sourceOffset size).bind (fun _ => hstale _) s t h
  | object handle base =>
    obtain ⟨rfl, hhas⟩ := h.fitted.address (ha _ rfl)
    refine fun i j => (fillObject_agrees h hhas (TransferSource.covers_object hhas fun r hr => ?_)
      (fun r hr => ?_) (h.fitted.dirty.staged_run h.positive (by omega)) _).bind_wp₂
        (fun _ s' t' i' j' h' => hstale _ s' t' h' i' j') fun _ _ _ _ _ h' => ⟨rfl, h'⟩
    · cases List.mem_singleton.mp hr
      unfold ByteRange.stop
      dsimp only
      omega
    · cases List.mem_singleton.mp hr
      unfold ByteRange.stop
      dsimp only
      omega

/-- A run of a buffer as a source: bytes of the host, or in the object of that buffer. -/
theorem runSource_agrees (h : Twin k s t) {offset size : Nat} (hfit : offset + size ≤ k.size) :
    (runSource offset size).Agree (runSource offset size) s t fun r s' t' => Twin k s' t' ∧
      ∀ source, r = .ok source → (∃ data, source = .host data ∧ size ≤ data.size) ∨
        ∃ o, s'.buffer.object = some o ∧ source = .object o.handle offset := by
  intro i j
  unfold runSource
  refine (authoritative_agrees h).bind_wp₂ (fun a s' t' i' j' hpost => ?_)
    fun _ _ _ _ _ hpost => ⟨rfl, hpost.1, nofun⟩
  obtain ⟨h', ha⟩ := hpost
  cases a with
  | shadow =>
    refine (shadowBytes_agrees h').bind_wp₂ (fun m s'' t'' _ _ hpost => ?_)
      fun _ _ _ _ _ hpost => ⟨rfl, hpost.1, nofun⟩
    obtain ⟨h'', hm⟩ := hpost
    refine ⟨rfl, h'', fun source hsource => .inl ⟨_, (Except.ok.inj hsource).symm, ?_⟩⟩
    rw [ByteArray.size_extract, hm m rfl]
    omega
  | object handle base =>
    obtain ⟨rfl, -⟩ := h'.fitted.address (ha _ rfl)
    obtain ⟨o, ho, rfl, -⟩ := Buffer.object_of_address? (ha _ rfl)
    refine ⟨rfl, h', fun source hsource => .inr ⟨o, ho, ?_⟩⟩
    rw [← Except.ok.inj hsource, Nat.zero_add]

/-! ## 2. Giving the object up -/

theorem saveContent_lockstep : Step.Lockstep k saveContent saveContent := by
  unfold saveContent
  refine .bind (.outcome refreshShadow_lockstep) fun r => ?_
  cases r with
  | ok _ => exact .pure _
  | error f => exact .bind .current fun b => .note _

theorem vacate_lockstep : Step.Lockstep k vacate vacate := by
  unfold vacate
  refine .bind .current fun b => .ite ?_ (.pure _)
  exact .bind saveContent_lockstep fun _ => .bind (declareStale_lockstep _) fun _ =>
    .bind removeObject_lockstep fun _ => .change fun _ _ h => { h with dirty := h.dirty.clear }

theorem dropObject_lockstep : Step.Lockstep k dropObject dropObject :=
  .bind (.change fun _ _ h => { h with }) fun _ => vacate_lockstep

theorem abandon_lockstep : Step.Lockstep k abandon abandon := by
  unfold abandon
  refine .bind .current fun b => ?_
  cases b.object with
  | none => exact .changeUsers _
  | some o => exact .bind (.note _) fun _ => .changeUsers _

theorem closeMapping_lockstep (handle : ObjectHandle) (ranges : List ByteRange) :
    Step.Lockstep k (onDevice (Device.closeMapping handle ranges))
      (onDevice (Device.closeMapping handle ranges)) := fun _ _ h =>
  (h.onDevice_agrees (P := fun _ _ _ => True)
    ((h.machines.devices.closeMapping handle ranges).mono fun _ _ _ hpost =>
      ⟨hpost.1, hpost.2, trivial⟩)).mono fun _ _ _ hpost => hpost.1

/-- What ends without anything mapped. -/
theorem destroy_lockstep (hbase : k.base = none) : Step.Lockstep k destroy destroy := by
  have hdrop : Step.Lockstep k dropMapping dropMapping := by
    unfold dropMapping
    refine .bind .current fun b => .bind (.change fun _ _ h => { h with base := hbase.symm })
      fun _ => ?_
    split
    · exact closeMapping_lockstep _ _
    · exact .pure _
  exact .bind .current fun _ => .bind (.note _) fun _ => .bind hdrop fun _ =>
    .bind removeObject_lockstep fun _ => abandon_lockstep

/-! ## 3. Draws -/

theorem analyseLayout_lockstep (draw : Draw) :
    Step.Lockstep k (analyseLayout draw) (analyseLayout draw) := by
  intro s t h i j
  have hcaps : Device.caps t.machine.device = Device.caps s.machine.device :=
    h.machines.devices.caps
  unfold analyseLayout
  simp only [Step.wp₂_bind, Step.wp₂_get, Step.wp₂_noteAll, wp₂_change, Step.wp₂_pure, h.buffer,
    hcaps]
  exact ⟨trivial, h.change { h.fitted with }⟩

theorem countQuietDraw_lockstep : Step.Lockstep k countQuietDraw countQuietDraw :=
  .change fun _ _ h => { h with }

theorem countEvent_lockstep (event : Hysteresis → Verdict × Hysteresis) :
    Step.Lockstep k (countEvent event) (countEvent event) := by
  unfold countEvent
  exact .bind .current fun b => .bind (.change fun _ _ h => { h with }) fun _ => .pure _

theorem loadPending_lockstep : Step.Lockstep k loadPending loadPending := by
  unfold loadPending
  refine .bind (.outcome refreshObject_lockstep) fun r => ?_
  cases r with
  | ok _ => exact .pure _
  | error f => exact .bind .current fun b => .note _

theorem reload_lockstep : Step.Lockstep k reload reload := by
  unfold reload
  refine .bind .current fun b => .bind (.note _) fun _ =>
    .bind (.outcome refreshShadow_lockstep) fun r => ?_
  cases r with
  | ok _ => exact .bind (declareStale_lockstep _) fun _ => loadPending_lockstep
  | error f => exact .note _

theorem loadChanged_lockstep : Step.Lockstep k loadChanged loadChanged := by
  unfold loadChanged
  exact .bind (countEvent_lockstep _) fun e => .bind .current fun b =>
    .ite (.bind (.note _) fun _ => dropObject_lockstep) reload_lockstep

theorem loadDirty_lockstep : Step.Lockstep k loadDirty loadDirty := by
  unfold loadDirty
  exact .bind .current fun b => .ite
    (.bind (countEvent_lockstep _) fun e => .ite
      (.bind (.note _) fun _ => dropObject_lockstep) loadPending_lockstep)
    (.bind countQuietDraw_lockstep fun _ => loadPending_lockstep)

theorem loadPrepared_lockstep (draw : Option Draw) :
    Step.Lockstep k (loadPrepared draw) (loadPrepared draw) := by
  have hrest (changed : Bool) : Step.Lockstep k (do
      let b ← current
      if changed then loadChanged
      else if b.dirty.isPending then loadDirty
      else countQuietDraw) (do
      let b ← current
      if changed then loadChanged
      else if b.dirty.isPending then loadDirty
      else countQuietDraw) :=
    .bind .current fun b => .ite loadChanged_lockstep
      (.ite loadDirty_lockstep countQuietDraw_lockstep)
  unfold loadPrepared
  cases draw with
  | some d => exact .bind (analyseLayout_lockstep d) hrest
  | none => exact hrest false

theorem readyForDraw_lockstep (draw : Option Draw) :
    Step.Lockstep k (readyForDraw draw) (readyForDraw draw) := by
  have hrest (b : Buffer) : Step.Lockstep k
      (if b.objectAllowed then do
        if ← reserveObject then loadPrepared draw else note (.prepareFailed b.id)
      else pure ())
      (if b.objectAllowed then do
        if ← reserveObject then loadPrepared draw else note (.prepareFailed b.id)
      else pure ()) :=
    .ite (.bind reserveObject_lockstep fun ready => .ite (loadPrepared_lockstep draw) (.note _))
      (.pure _)
  unfold readyForDraw
  exact .bind .current fun b => .ite (.note _) (.ite (.bind (.note _) fun _ => hrest b) (hrest b))

/-! ## 4. Mapping -/

end Site

/-- The footing of a buffer that is mapped. -/
def Footing.mapped (k : Footing) (maps : Nat) (base : Option MapBase) : Footing :=
  { k with maps, base }

/-- Nothing is mapped. -/
structure Footing.Unmapped (k : Footing) : Prop where
  maps : k.maps = 0
  base : k.base = none

theorem Footing.Unmapped.mapped_eq (h : k.Unmapped) : k.mapped 0 none = k := by
  unfold Footing.mapped
  rw [← h.maps, ← h.base]

namespace Twin

variable {s : Site MemoryDevice} {t : Site VulkanDevice}

/-- The mapping of the object changes on both. -/
theorem rebase (h : Twin k s t) (base : Option MapBase) : Twin (k.mapped k.maps base)
    { s with buffer := { s.buffer with mapBase := base } }
    { t with buffer := { t.buffer with mapBase := base } } := by
  rw [h.buffer]
  exact ⟨rfl, h.machines, h.positive, { h.fitted with base := rfl }, h.others⟩

/-- The number of mappings changes on both. -/
theorem recount (h : Twin k s t) (f : Nat → Nat) : Twin (k.mapped (f k.maps) k.base)
    { s with buffer := { s.buffer with mapCount := f s.buffer.mapCount } }
    { t with buffer := { t.buffer with mapCount := f t.buffer.mapCount } } := by
  rw [h.buffer]
  exact ⟨rfl, h.machines, h.positive, { h.fitted with maps := congrArg f h.fitted.maps }, h.others⟩

/-- Twins that are mapped through their object, at its first byte, or not through it. -/
def Opened (k : Footing) (s : Site MemoryDevice) (t : Site VulkanDevice) : Prop :=
  ∃ base, Twin (k.mapped k.maps base) s t ∧
    ∀ m, base = some m → ∃ o, s.buffer.object = some o ∧ m = ⟨o.handle, 0⟩

theorem opened (h : Twin k s t) (hbase : k.base = none) : Opened k s t :=
  ⟨k.base, h, fun _ hm => nomatch hbase.symm.trans hm⟩

end Twin

/-- A mapping as it was asked for, into the shadow or into an object as long as the buffer. -/
structure Mapping.Placed (m : Mapping) (k : Footing) (offset size : Nat) (e : VulkanDevice) :
    Prop where
  position : m.position = offset
  size : m.size = size
  object : ∀ a, m.storage = .object a → e.Has a k.size k.reached

namespace Site

variable {s : Site MemoryDevice} {t : Site VulkanDevice} {flags : MapFlags} {dirty : ByteRange}

/-- The object mapped as a whole, where the host reaches it. -/
theorem openMapping_agrees (h : Twin k s t) (hreached : k.reached = true) (hbase : k.base = none)
    (flags : MapFlags) (dirty : ByteRange) :
    (openMapping flags dirty).Agree (openMapping flags dirty) s t fun r s' t' =>
      Twin.Opened k s' t' ∧ ∀ f, r = .error f → Twin k s' t' := by
  intro i j
  unfold openMapping
  refine h.looking_wp₂ ?_
  cases ho : s.buffer.object with
  | none => exact ⟨rfl, h.opened hbase, fun _ _ => h⟩
  | some o =>
    obtain ⟨hoffset, hhas, -⟩ := h.fitted.object o ho
    rw [hreached] at hhas
    have hopen := h.tryDevice_agrees (P := fun r _ _ => r = .ok 0)
      ((h.machines.devices.openMapping hhas flags).mono fun _ _ _ hpost =>
        ⟨hpost.2.1, hpost.2.2, hpost.1⟩)
    dsimp only
    rw [hoffset, h.fitted.size]
    refine hopen.bind_wp₂ (fun p s' t' i' j' hpost => ?_) fun _ _ _ _ _ hpost => nomatch hpost.2.2
    obtain ⟨h', hsame, hp⟩ := hpost
    cases hp
    simp only [Nat.zero_mod, beq_self_eq_true, if_true]
    refine ⟨rfl, ⟨_, h'.rebase (some ⟨o.handle, 0⟩), fun m hm => ?_⟩, nofun⟩
    cases hm
    exact ⟨o, (congrArg Buffer.object hsame).trans ho, rfl⟩

theorem openShadow_lockstep (flags : MapFlags) (dirty : ByteRange) :
    Attempt.Lockstep k (openShadow flags dirty) (openShadow flags dirty) :=
  .bind refreshShadow_lockstep fun _ => .ite (.always (declareStaleIn_lockstep _ _ _)) (.pure _)

theorem discardIntoObject_lockstep :
    Attempt.Lockstep k discardIntoObject discardIntoObject :=
  .bind (.always reserveObject_lockstep) fun _ =>
    .ite (.always (declareCurrent_lockstep _)) (.throw _)

theorem claimObject_lockstep (flags : MapFlags) (dirty : ByteRange) :
    Step.Lockstep k (claimObject flags dirty) (claimObject flags dirty) :=
  .ite (.bind (declareStale_lockstep _) fun _ => markDirty_lockstep _ _) (.pure _)

theorem openClaimed_agrees (h : Twin k s t) (hreached : k.reached = true) (hbase : k.base = none)
    (flags : MapFlags) (dirty : ByteRange) :
    (openClaimed flags dirty).Agree (openClaimed flags dirty) s t fun r s' t' =>
      Twin.Opened k s' t' ∧ ∀ f, r = .error f → Twin k s' t' := by
  have hopen (b : Buffer) (s : Site MemoryDevice) (t : Site VulkanDevice) (h : Twin k s t) :
      (if b.mapCount == 1 then openMapping flags dirty else pure ()).Agree
        (if b.mapCount == 1 then openMapping flags dirty else pure ()) s t fun r s' t' =>
          Twin.Opened k s' t' ∧ ∀ f, r = .error f → Twin k s' t' := by
    split
    · exact openMapping_agrees h hreached hbase flags dirty
    · exact fun _ _ => ⟨rfl, h.opened hbase, fun _ _ => h⟩
  have hclaim : Attempt.Lockstep k (always (claimObject flags dirty))
      (always (claimObject flags dirty)) := .always (claimObject_lockstep flags dirty)
  have hrelease : Attempt.Lockstep k (always giveUpShadow) (always giveUpShadow) :=
    .always giveUpShadow_lockstep
  intro i j
  unfold openClaimed
  refine (hclaim s t h).bind_wp₂ (fun _ s' t' i' j' h' => ?_) fun _ _ _ _ _ h' =>
    ⟨rfl, h'.opened hbase, fun _ _ => h'⟩
  refine h'.looking_wp₂ ?_
  rw [Attempt.wp₂_ite]
  split
  · exact (hrelease s' t' h').bind_wp₂ (fun _ s'' t'' i'' j'' h'' => hopen _ s'' t'' h'' i'' j'')
      fun _ _ _ _ _ h'' => ⟨rfl, h''.opened hbase, fun _ _ => h''⟩
  · exact hopen _ s' t' h' i' j'

theorem readyObject_lockstep (flags : MapFlags) :
    Attempt.Lockstep k (readyObject flags) (readyObject flags) :=
  .ite discardIntoObject_lockstep refreshObject_lockstep

/-- A mapping prepared in the object, where the host reaches it. -/
theorem openObject_agrees (h : Twin k s t) (hreached : k.reached = true) (hbase : k.base = none)
    (flags : MapFlags) (dirty : ByteRange) :
    (openObject flags dirty).Agree (openObject flags dirty) s t fun r s' t' =>
      Twin.Opened k s' t' ∧ ∀ f, r = .error f → Twin k s' t' := by
  rw [openObject_eq, openObject_eq]
  intro i j
  exact (readyObject_lockstep flags s t h).bind_wp₂
    (fun _ s' t' i' j' h' => openClaimed_agrees h' hreached hbase flags dirty i' j')
    fun _ _ _ _ _ h' => ⟨rfl, h'.opened hbase, fun _ _ => h'⟩

theorem handOut_agrees (h : Twin.Opened k s t) (hbase : k.base = none) (offset size : Nat) :
    (handOut offset size).Agree (handOut offset size) s t fun r s' t' =>
      (∀ m, r = .ok m → Twin.Opened k s' t' ∧ m.Placed k offset size t'.machine.device) ∧
        ∀ f, r = .error f → Twin k s' t' := by
  obtain ⟨base, h, hown⟩ := h
  intro i j
  unfold handOut
  refine h.looking_wp₂ ?_
  unfold Buffer.mapping?
  rw [h.fitted.base]
  cases base with
  | some m =>
    obtain ⟨o, ho, rfl⟩ := hown m rfl
    refine ⟨rfl, fun m hm => ?_, nofun⟩
    cases hm
    refine ⟨⟨_, h, hown⟩, Nat.zero_add offset, rfl, fun a ha => ?_⟩
    cases ha
    exact (h.fitted.object o ho).2.1
  | none =>
    have hk : k.mapped k.maps none = k := by
      unfold Footing.mapped
      rw [← hbase]
    cases s.buffer.shadow.isSome with
    | true =>
      refine ⟨rfl, fun m hm => ?_, nofun⟩
      cases hm
      exact ⟨⟨_, h, hown⟩, rfl, rfl, nofun⟩
    | false => exact ⟨rfl, nofun, fun _ _ => hk ▸ h⟩

/-- A range prepared and mapped, through the shadow or where the host reaches the object. -/
theorem mapPrepared_agrees (h : Twin k s t) (hbase : k.base = none) {flags : MapFlags}
    (hroute : s.buffer.mapsShadow flags = true ∨ k.reached = true) (offset size : Nat) :
    (mapPrepared offset size flags).Agree (mapPrepared offset size flags) s t fun r s' t' =>
      (∀ m, r = .ok m → Twin.Opened k s' t' ∧ m.Placed k offset size t'.machine.device) ∧
        ∀ f, r = .error f → Twin k s' t' := by
  rw [mapPrepared_eq, mapPrepared_eq]
  intro i j
  refine h.looking_wp₂ ?_
  rw [Attempt.wp₂_ite]
  split
  · exact (openShadow_lockstep _ _ s t h).bind_wp₂
      (fun _ s' t' i' j' h' => handOut_agrees (h'.opened hbase) hbase offset size i' j')
      fun _ _ _ _ _ h' => ⟨rfl, nofun, fun _ _ => h'⟩
  · rename_i hshadow
    exact (openObject_agrees h (hroute.resolve_left hshadow) hbase _ _).bind_wp₂
      (fun _ s' t' i' j' h' => handOut_agrees h'.1 hbase offset size i' j')
      fun f _ _ _ _ h' => ⟨rfl, nofun, fun _ _ => h'.2 f rfl⟩

/-- **A range is mapped in lockstep**, through the shadow or where the host reaches the object. -/
theorem map_agrees (h : Twin k s t) (hk : k.Unmapped) {flags : MapFlags}
    (hroute : s.buffer.mapsShadow flags = true ∨ k.reached = true) (offset size : Nat) :
    (map offset size flags).Agree (map offset size flags) s t fun r s' t' =>
      (∀ m, r = .ok m → Twin.Opened (k.mapped 1 none) s' t' ∧
        m.Placed k offset size t'.machine.device ∧ offset + size ≤ k.size) ∧
        ∀ f, r = .error f → Twin k s' t' := by
  intro i j
  unfold map
  refine h.looking_wp₂ ?_
  cases hfit : s.buffer.holds offset size with
  | false => exact ⟨rfl, nofun, fun _ _ => h⟩
  | true =>
    simp only [Bool.not_true, Bool.false_eq_true, if_false]
    rw [Attempt.wp₂_bind, Attempt.wp₂_always, wp₂_change]
    have hcounted := h.recount (· + 1)
    refine Attempt.Agree.always_wp₂ (s := (mapPrepared offset size flags).outcome)
      (t := (mapPrepared offset size flags).outcome)
      (mapPrepared_agrees hcounted hk.base hroute offset size) fun r s' t' i' j' hpost => ?_
    rw [hk.maps, hk.base] at hpost
    cases r with
    | ok m =>
      obtain ⟨hopened, hplaced⟩ := hpost.1 m rfl
      refine ⟨rfl, fun m' hm => ?_, nofun⟩
      cases hm
      exact ⟨hopened, ⟨hplaced.position, hplaced.size, hplaced.object⟩,
        h.fitted.size ▸ fits_iff.mp hfit⟩
    | error f =>
      have hback := (hpost.2 f rfl).recount (· - 1)
      refine ⟨rfl, nofun, fun _ _ => ?_⟩
      rw [← hk.mapped_eq]
      exact hback

/-- The object, if there is one, is unmapped, and lacks nothing from then on. -/
theorem closeFlushed_lockstep (o : Option BufferObject) (ranges : List ByteRange) :
    Step.Lockstep k (do
      match o with
      | some o => onDevice (Device.closeMapping o.handle ranges)
      | none => pure ()
      change fun b => { b with dirty := b.dirty.clear }) (do
      match o with
      | some o => onDevice (Device.closeMapping o.handle ranges)
      | none => pure ()
      change fun b => { b with dirty := b.dirty.clear }) := by
  have hclear : Step.Lockstep k (change fun b => { b with dirty := b.dirty.clear })
      (change fun b => { b with dirty := b.dirty.clear }) :=
    .change fun _ _ h => { h with dirty := h.dirty.clear }
  cases o with
  | none => exact hclear
  | some o => exact (closeMapping_lockstep _ _).bind fun _ => hclear

/-- The mapping of the object is ended. -/
theorem flushMapping_agrees (h : Twin k s t) :
    flushMapping.Agree flushMapping s t fun _ => Twin (k.mapped k.maps none) := by
  intro i j
  unfold flushMapping
  rw [Step.wp₂_bind, wp₂_current, h.buffer]
  cases hbase : s.buffer.mapBase.isSome with
  | false =>
    have hk : k.base = none :=
      h.fitted.base.symm.trans (Option.not_isSome_iff_eq_none.mp (by simp [hbase]))
    refine ⟨rfl, ?_⟩
    unfold Footing.mapped
    rw [← hk]
    exact h
  | true =>
    rw [Step.wp₂_ite, if_pos rfl, Step.wp₂_bind, wp₂_change]
    exact closeFlushed_lockstep s.buffer.object s.buffer.dirty.spans _ _ (h.rebase none) i j

/-- The last mapping is released, and what was mapped through the object is flushed. -/
theorem unmap_agrees (h : Twin.Opened (k.mapped 1 none) s t) :
    unmap.Agree unmap s t fun _ => Twin (k.mapped 0 none) := by
  obtain ⟨base, h, -⟩ := h
  have hcount : s.buffer.mapCount = 1 := h.fitted.maps
  intro i j
  unfold unmap
  rw [Step.wp₂_bind, wp₂_current, h.buffer, hcount, Step.wp₂_ite, if_neg (by decide),
    Step.wp₂_bind, wp₂_change, Step.wp₂_ite, if_neg (by decide)]
  exact flushMapping_agrees (h.recount (· - 1)) i j

/-- Bytes written through a mapping. -/
theorem writeMapped_agrees (h : Twin.Opened k s t) {m : Mapping} {offset size : Nat}
    (hm : m.Placed k offset size t.machine.device) {data : ByteArray}
    (hfit : offset + data.size ≤ k.size) :
    (writeMapped m data).Agree (writeMapped m data) s t fun _ => Twin.Opened k := by
  obtain ⟨base, h, hown⟩ := h
  intro i j
  unfold writeMapped
  cases hstorage : m.storage with
  | shadow =>
    dsimp only
    rw [wp₂_change, h.buffer]
    refine ⟨rfl, base, h.change (h.fitted.withShadow fun c hc => ?_), hown⟩
    obtain ⟨c', hc', rfl⟩ := Option.map_eq_some_iff.mp hc
    rw [Bytes.size_splice]
    exact h.fitted.shadow c' hc'
  | object a =>
    have hpoke := h.machines.devices.poke (hm.object a hstorage) (hm.position ▸ hfit)
    exact ⟨rfl, base, h.onDevice hpoke.1 hpoke.2, hown⟩

/-- The bytes of a mapped range are the same on both. -/
theorem mappedBytes_eq (h : Twin k s t) {m : Mapping} {offset size : Nat}
    (hm : m.Placed k offset size t.machine.device) (hfit : offset + size ≤ k.size) :
    t.mappedBytes m = s.mappedBytes m := by
  unfold mappedBytes
  cases hstorage : m.storage with
  | shadow =>
    dsimp only
    rw [h.buffer]
  | object a =>
    exact h.machines.devices.peek (hm.object a hstorage) (by rw [hm.position, hm.size]; exact hfit)

/-- **A write in lockstep**, through the shadow or where the host reaches the object. -/
theorem write_agrees (h : Twin k s t) (hk : k.Unmapped) {flags : MapFlags}
    (hroute : s.buffer.mapsShadow (flags ∪ MapFlags.write) = true ∨ k.reached = true) (offset : Nat)
    (data : ByteArray) :
    (write offset data flags).Agree (write offset data flags) s t fun _ => Twin k := by
  intro i j
  unfold write
  refine (map_agrees h hk hroute offset data.size).bind_wp₂ (fun m s' t' i' j' hpost => ?_)
    fun f _ _ _ _ hpost => ⟨rfl, hpost.2 f rfl⟩
  obtain ⟨hopened, hplaced, hfit⟩ := hpost.1 m rfl
  refine Attempt.Agree.always_wp₂ (writeMapped_agrees hopened
    ⟨hplaced.position, hplaced.size, hplaced.object⟩ hfit) fun _ s'' t'' _ _ h'' => ?_
  rw [Attempt.wp₂_always]
  refine (unmap_agrees h'').wp₂ fun _ _ _ _ _ hback => ⟨rfl, ?_⟩
  rwa [hk.mapped_eq] at hback

/-- **A read in lockstep**, through the shadow or where the host reaches the object. -/
theorem read_agrees (h : Twin k s t) (hk : k.Unmapped)
    (hroute : s.buffer.mapsShadow MapFlags.read = true ∨ k.reached = true) (offset size : Nat) :
    (read offset size).Agree (read offset size) s t fun _ => Twin k := by
  intro i j
  unfold read
  refine (map_agrees h hk hroute offset size).bind_wp₂ (fun m s' t' i' j' hpost => ?_)
    fun f _ _ _ _ hpost => ⟨rfl, hpost.2 f rfl⟩
  obtain ⟨hopened, hplaced, hfit⟩ := hpost.1 m rfl
  obtain ⟨base, h', hown⟩ := id hopened
  have hbytes : t'.mappedBytes m = s'.mappedBytes m :=
    mappedBytes_eq h' ⟨hplaced.position, hplaced.size, hplaced.object⟩ hfit
  rw [Attempt.wp₂_bind, Attempt.wp₂_get]
  dsimp only
  rw [hbytes]
  refine Attempt.Agree.always_wp₂ (unmap_agrees hopened) fun _ _ _ _ _ hback => ⟨rfl, ?_⟩
  rwa [hk.mapped_eq] at hback

/-! ## 5. Objects that the host does not reach -/

/-- The Vulkan device maps no object that the host does not reach. -/
theorem openMapping_refused (h : Twin k s t) (hreached : k.reached = false) (flags : MapFlags)
    (dirty : ByteRange) : (openMapping flags dirty).Ends t fun r _ => ∃ f, r = .error f := by
  intro j
  unfold openMapping
  simp only [Attempt.wp_bind, Attempt.wp_always, wp_current, h.buffer]
  cases ho : s.buffer.object with
  | none => exact ⟨_, rfl⟩
  | some o =>
    obtain ⟨-, hhas, -⟩ := h.fitted.object o ho
    rw [hreached] at hhas
    simp only [Attempt.wp_bind, wp_tryDevice]
    refine (VulkanDevice.openMapping_refused h.machines.devices.balanced hhas _ _ _).wp
      fun r _ _ hpost => ?_
    obtain ⟨f, rfl⟩ := hpost
    exact ⟨f, rfl⟩

/-- Nor is it of use to claim one. -/
theorem openClaimed_refused (h : Twin k s t) (hreached : k.reached = false) (hmaps : k.maps = 1)
    (flags : MapFlags) (dirty : ByteRange) :
    (openClaimed flags dirty).Ends t fun r _ => ∃ f, r = .error f := by
  have hcount {s : Site MemoryDevice} {t : Site VulkanDevice} (h : Twin k s t) :
      (t.buffer.mapCount == 1) = true := by
    rw [h.buffer, h.fitted.maps, hmaps]
    rfl
  intro j
  unfold openClaimed
  simp only [Attempt.wp_bind, Attempt.wp_always, wp_current, Attempt.wp_ite]
  refine (claimObject_lockstep flags dirty s t h).right.wp fun _ t' j' hpost => ?_
  obtain ⟨s', h'⟩ := hpost
  rw [hcount h']
  split
  · refine (giveUpShadow_lockstep s' t' h').right.wp fun _ t'' j'' hpost => ?_
    obtain ⟨s'', h''⟩ := hpost
    exact openMapping_refused h'' hreached flags dirty j''
  · exact openMapping_refused h' hreached flags dirty j'

theorem openObject_refused (h : Twin k s t) (hreached : k.reached = false) (hmaps : k.maps = 1)
    (flags : MapFlags) (dirty : ByteRange) :
    (openObject flags dirty).Ends t fun r _ => ∃ f, r = .error f := by
  intro j
  rw [openObject_eq, Attempt.wp_bind]
  refine (readyObject_lockstep flags s t h).right.wp fun r t' j' ⟨s', h'⟩ => ?_
  cases r with
  | ok _ => exact openClaimed_refused h' hreached hmaps flags dirty j'
  | error f => exact ⟨f, rfl⟩

/-- **The Vulkan device maps nothing through an object that the host does not reach**: such a
    mapping fails, whatever the range is. -/
theorem map_refused (h : Twin k s t) (hk : k.Unmapped) {flags : MapFlags}
    (hshadow : s.buffer.mapsShadow flags = false) (hreached : k.reached = false)
    (offset size : Nat) : (map offset size flags).Ends t fun r _ => ∃ f, r = .error f := by
  intro j
  unfold map
  simp only [Attempt.wp_bind, Attempt.wp_always, wp_current, Attempt.wp_ite, Attempt.wp_refuse,
    wp_change, Attempt.wp_outcome]
  split
  · exact ⟨_, rfl⟩
  · have hroute :
        Buffer.mapsShadow { t.buffer with mapCount := t.buffer.mapCount + 1 } flags = false := by
      rw [h.buffer]
      exact hshadow
    rw [mapPrepared_eq]
    simp only [Attempt.wp_bind, Attempt.wp_always, wp_current, Attempt.wp_ite, hroute,
      Bool.false_eq_true, if_false]
    have hopen := openObject_refused (h.recount (· + 1)) hreached (congrArg (· + 1) hk.maps) flags
      (if flags.has MapFlags.discard then ⟨0, 0⟩ else ⟨offset, size⟩)
    refine hopen.wp fun r t' j' hpost => ?_
    obtain ⟨f, rfl⟩ := hpost
    exact ⟨f, rfl⟩

theorem write_refused (h : Twin k s t) (hk : k.Unmapped) {flags : MapFlags}
    (hshadow : s.buffer.mapsShadow (flags ∪ MapFlags.write) = false) (hreached : k.reached = false)
    (offset : Nat) (data : ByteArray) :
    (write offset data flags).Ends t fun r _ => ∃ f, r = .error f := by
  intro j
  unfold write
  rw [Attempt.wp_bind]
  refine (map_refused h hk hshadow hreached offset data.size).wp fun r _ _ hpost => ?_
  obtain ⟨f, rfl⟩ := hpost
  exact ⟨f, rfl⟩

theorem read_refused (h : Twin k s t) (hk : k.Unmapped)
    (hshadow : s.buffer.mapsShadow MapFlags.read = false) (hreached : k.reached = false)
    (offset size : Nat) : (read offset size).Ends t fun r _ => ∃ f, r = .error f := by
  intro j
  unfold read
  rw [Attempt.wp_bind]
  refine (map_refused h hk hshadow hreached offset size).wp fun r _ _ hpost => ?_
  obtain ⟨f, rfl⟩ := hpost
  exact ⟨f, rfl⟩

/-! ## 6. New buffers -/

theorem openStorage_lockstep (pin : Bool) :
    Attempt.Lockstep k (openStorage pin) (openStorage pin) := by
  have hpin : Step.Lockstep k pinFresh pinFresh :=
    .bind .current fun _ => .bind (.note _) fun _ => .change fun _ _ h => { h with }
  have hrest : Attempt.Lockstep k (do
      let b ← always current
      if b.locations.has Location.sysmem || !b.objectAllowed then
        if !(← always reserveShadow) then throw .outOfMemory
      note (.created b.id b.size b.backend.kind b.objectAllowed)) (do
      let b ← always current
      if b.locations.has Location.sysmem || !b.objectAllowed then
        if !(← always reserveShadow) then throw .outOfMemory
      note (.created b.id b.size b.backend.kind b.objectAllowed)) :=
    .bind (.always .current) fun b => .ite
      (.bind (.always reserveShadow_lockstep) fun ready => .ite (.throw _) (.note _)) (.note _)
  unfold openStorage
  exact .ite (.bind (.always hpin) fun _ => hrest) hrest

theorem fillFresh_lockstep {data : ByteArray} (hdata : data.size = k.size) :
    Attempt.Lockstep k (fillFresh data) (fillFresh data) := by
  unfold fillFresh
  refine .looking fun s t h => ?_
  split
  · exact storeBytes_lockstep 0 data s t h
  · cases s.buffer.shadow with
    | none => exact Attempt.Lockstep.refuse _ _ s t h
    | some _ =>
      refine Attempt.Lockstep.bind (.always (.change fun _ _ h => h.withShadow fun m hm => ?_))
        (fun _ => .bind (.always (declareCurrent_lockstep _)) fun _ =>
          .always (declareStale_lockstep _)) s t h
      cases hm
      exact hdata

/-- A new buffer made ready, with data for all of it. -/
theorem openFresh_lockstep (hbase : k.base = none) (pin : Bool) {data : Option ByteArray}
    (hdata : ∀ d, data = some d → k.size ≤ d.size) :
    Attempt.Lockstep k (openFresh pin data) (openFresh pin data) := by
  unfold openFresh
  refine .bind (.always (.outcome (openStorage_lockstep pin))) fun r => ?_
  cases r with
  | error f => exact .bind (.always abandon_lockstep) fun _ => .throw f
  | ok _ =>
    cases data with
    | none => exact .pure ()
    | some data =>
      refine .looking fun s t h => ?_
      rw [h.fitted.size]
      refine Attempt.Lockstep.bind (.always (.outcome (fillFresh_lockstep ?_))) (fun r => ?_) s t h
      · rw [Bytes.size_take]
        exact Nat.min_eq_left (hdata data rfl)
      · cases r with
        | ok _ => exact .pure ()
        | error f => exact .bind (.always (destroy_lockstep hbase)) fun _ => .throw f

end Site

/-- The footing of a buffer that is not mapped. -/
def Buffer.footing (b : Buffer) (lends : Nat → Bool)
    (others : ObjectHandle → Nat → Bool → Prop) : Footing :=
  ⟨lends, b.size, b.reached, 0, none, others⟩

theorem Buffer.unmapped_footing (b : Buffer) (lends : Nat → Bool)
    (others : ObjectHandle → Nat → Bool → Prop) : (b.footing lends others).Unmapped := ⟨rfl, rfl⟩

/-- A new buffer has no storage, and records nothing. -/
theorem Fitted.fresh {lends : Nat → Bool} {others : ObjectHandle → Nat → Bool → Prop}
    {e : VulkanDevice} {request : BufferRequest} {settings : Settings} (id : BufferId)
    (user : UserId) (hroom : Roomy lends request.size (max settings.spanLimit 1))
    (tracker : HazardTracker) (objectAllowed : Bool) :
    Fitted ((Buffer.fresh id user request (.modern tracker) objectAllowed settings).footing lends
        others)
      (.fresh id user request (.modern tracker) objectAllowed settings) e where
  size := rfl
  reached := rfl
  maps := rfl
  base := rfl
  modern := ⟨tracker, rfl⟩
  shadow := fun _ hm => nomatch hm
  object := fun _ ho => nomatch ho
  dirty := .clean hroom

theorem Fitted.footing_eq {b : Buffer} {e : VulkanDevice} (h : Fitted k b e) (hk : k.Unmapped) :
    b.footing k.lends k.others = k := by
  unfold Buffer.footing
  rw [h.size, h.reached, ← hk.maps, ← hk.base]

/-- Where nothing is mapped, twins stand on the footing of their buffer. -/
theorem Twin.settled {s : Site MemoryDevice} {t : Site VulkanDevice} (h : Twin k s t)
    (hk : k.Unmapped) :
    Twin (s.buffer.footing k.lends k.others) ⟨s.buffer, s.machine⟩ ⟨s.buffer, t.machine⟩ := by
  rw [h.fitted.footing_eq hk]
  exact ⟨rfl, h.machines, h.positive, h.fitted, h.others⟩

namespace Machine

variable {m : Machine MemoryDevice} {n : Machine VulkanDevice} {lends : Nat → Bool}
  {others : ObjectHandle → Nat → Bool → Prop}

theorem wp₂_openSite {σ τ : Type} {m : Machine σ} {n : Machine τ} {i j : Journal} (s : Site σ)
    (t : Site τ) (a : Attempt (Site σ) Unit) (b : Attempt (Site τ) Unit)
    (Q : Except Failure Buffer → Except Failure Buffer → Machine σ → Machine τ → Journal →
      Journal → Prop) :
    (openSite s a).wp₂ (openSite t b) m i n j Q ↔ a.wp₂ b s i t j fun r r' x y i' j' =>
      Q (r.map fun _ => x.buffer) (r'.map fun _ => y.buffer) x.machine y.machine i' j' := Iff.rfl

/-- A new buffer, before it has storage. -/
theorem freshBuffer_twin (h : TwinMachines lends m n)
    (hothers : ∀ a size reached, others a size reached → n.device.Has a size reached)
    {request : BufferRequest} {settings : Settings} (hpos : 0 < request.size)
    (hroom : Roomy lends request.size (max settings.spanLimit 1))
    (objectAllowed : Bool) :
    Twin ((m.freshBuffer request (.modern .idle) objectAllowed settings).buffer.footing lends
        others)
      (m.freshBuffer request (.modern .idle) objectAllowed settings)
      (n.freshBuffer request (.modern .idle) objectAllowed settings) := by
  unfold freshBuffer
  rw [h.users, h.nextBuffer]
  exact ⟨rfl, ⟨rfl, rfl, h.devices⟩, hpos, .fresh _ _ hroom _ _, hothers⟩

/-- **Buffers are created in lockstep**, where there is room for what they may need. -/
theorem create_agrees (h : TwinMachines lends m n)
    (hothers : ∀ a size reached, others a size reached → n.device.Has a size reached)
    (request : BufferRequest) (data : Option ByteArray) (settings : Settings)
    (hroom : Roomy lends request.size (max settings.spanLimit 1)) :
    (create request data settings).Agree (create request data settings) m n fun r m' n' =>
      (TwinMachines lends m' n' ∧
        ∀ a size reached, others a size reached → n'.device.Has a size reached) ∧
        ∀ b, r = .ok b → Twin (b.footing lends others) ⟨b, m'⟩ ⟨b, n'⟩ := by
  intro i j
  unfold create
  cases hfault : request.fault? settings (data.map (·.size)) with
  | some f => exact (Attempt.wp₂_refuse _ _ _ _ _).mpr ⟨rfl, ⟨h, hothers⟩, fun _ hb => nomatch hb⟩
  | none =>
    have hcaps : Device.caps n.device = Device.caps m.device := h.devices.caps
    have hmodern : (Device.caps m.device).backend = .modern := h.devices.modern
    dsimp only
    rw [Attempt.wp₂_bind, Attempt.wp₂_get]
    dsimp only
    rw [hcaps, Attempt.wp₂_bind]
    unfold chooseBackend
    rw [hmodern]
    dsimp only
    rw [Attempt.wp₂_ite]
    split
    · exact (Attempt.wp₂_refuse _ _ _ _ _).mpr ⟨rfl, ⟨h, hothers⟩, fun _ hb => nomatch hb⟩
    · have hpos : 0 < (request.granted settings).size := by
        rw [size_granted]
        exact size_pos_of_fault? hfault
      have hfresh := freshBuffer_twin h hothers hpos (by rw [size_granted]; exact hroom)
        ((request.granted settings).access.has Access.gpu)
      rw [Attempt.wp₂_pure]
      dsimp only
      rw [wp₂_openSite]
      have hdata (d : ByteArray) (hd : data = some d) :
          (request.granted settings).size ≤ d.size := by
        rw [size_granted]
        exact size_le_of_fault? hfault d hd
      refine (Site.openFresh_lockstep rfl _ hdata _ _ hfresh).wp₂ fun r x y _ _ h' => ?_
      refine ⟨by rw [h'.buffer], ⟨h'.machines, h'.others⟩, fun b hb => ?_⟩
      cases r with
      | error f => cases hb
      | ok _ =>
        cases hb
        exact h'.settled (Buffer.unmapped_footing _ _ _)

end Machine

end BufferCoherence
