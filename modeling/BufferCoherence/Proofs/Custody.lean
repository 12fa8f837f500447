import BufferCoherence.Proofs.Calls

/-!
# Who holds which object

The objects of the memory device, counted. `MemoryDevice.Accounts d hs` says that the objects of the
device are exactly those of the handles `hs`, each held once, and that no handle was given back
twice. What a buffer holds is its object, and the other handles belong to somebody else
(`Site.Custody`):

* `Site.Move.custody` is the one place where objects come and go; every move but a takeover keeps the
  custody of a buffer, and a takeover needs the object handed in to be somebody else's before;
* `Call.custody`, `Site.destroy_returns` and `Machine.create_custody` follow without opening an
  operation: a call consumes what it takes over, a buffer that ends holds nothing, and a buffer that
  cannot be created leaves nothing behind.
-/

namespace BufferCoherence

namespace MemoryDevice

variable {d d' e : MemoryDevice} {h : ObjectHandle} {hs hs' : List ObjectHandle}

/-! ## 1. Accounts -/

/-- The handles given back so far, the oldest first. -/
def destroyed (d : MemoryDevice) : List ObjectHandle :=
  d.commands.toList.filterMap fun c => match c with
    | .destroy h => some h
    | _ => none

/-- **The objects of the device are those of the handles `hs`**, and none was given back twice. -/
structure Accounts (d : MemoryDevice) (hs : List ObjectHandle) : Prop where
  distinct : hs.Nodup
  live : ∀ h, Device.live d h = true ↔ h ∈ hs
  named : ∀ h ∈ hs, h.number < d.nextHandle
  once : d.destroyed.Nodup
  gone : ∀ h ∈ d.destroyed, h.number < d.nextHandle ∧ h ∉ hs

theorem Accounts.perm (ha : Accounts d hs) (hp : hs.Perm hs') : Accounts d hs' where
  distinct := hp.nodup_iff.mp ha.distinct
  live h := (ha.live h).trans hp.mem_iff
  named h hh := ha.named h (hp.mem_iff.mpr hh)
  once := ha.once
  gone h hh := ⟨(ha.gone h hh).1, fun hin => (ha.gone h hh).2 (hp.mem_iff.mpr hin)⟩

/-- The same objects under the same handles, and no more given back. -/
structure SameStock (d d' : MemoryDevice) : Prop where
  caps : d'.caps = d.caps
  nextHandle : d'.nextHandle = d.nextHandle
  destroyed : d'.destroyed = d.destroyed
  live : ∀ h, Device.live d' h = Device.live d h

theorem SameStock.refl (d : MemoryDevice) : SameStock d d := ⟨rfl, rfl, rfl, fun _ => rfl⟩

theorem SameStock.trans (h₁ : SameStock d d') (h₂ : SameStock d' e) : SameStock d e :=
  ⟨h₂.caps.trans h₁.caps, h₂.nextHandle.trans h₁.nextHandle, h₂.destroyed.trans h₁.destroyed,
    fun h => (h₂.live h).trans (h₁.live h)⟩

theorem SameStock.accounts (hd : SameStock d d') (ha : Accounts d hs) : Accounts d' hs where
  distinct := ha.distinct
  live h := by rw [hd.live]; exact ha.live h
  named h hh := by rw [hd.nextHandle]; exact ha.named h hh
  once := by rw [hd.destroyed]; exact ha.once
  gone h hh := by
    rw [hd.destroyed] at hh
    rw [hd.nextHandle]
    exact ha.gone h hh

/-! ## 2. Calls that make and free nothing -/

theorem destroyed_record (d : MemoryDevice) (c : DeviceCall) (hc : ∀ h, c ≠ .destroy h) :
    (d.record c).destroyed = d.destroyed := by
  unfold destroyed record
  rw [Array.toList_push, List.filterMap_append]
  cases c with
  | destroy h => exact absurd rfl (hc h)
  | _ => exact List.append_nil _

theorem sameStock_record (d : MemoryDevice) (c : DeviceCall) (hc : ∀ h, c ≠ .destroy h) :
    SameStock d (d.record c) := ⟨rfl, rfl, destroyed_record d c hc, fun _ => rfl⟩

/-- An object that is there replaced by another one. -/
theorem sameStock_putObject {o : HostObject} (ho : d.object? h = some o) (o' : HostObject) :
    SameStock d (d.putObject h o') := by
  refine ⟨rfl, rfl, rfl, fun h' => ?_⟩
  show ((d.putObject h o').object? h').isSome = (d.object? h').isSome
  rw [object?_putObject]
  split
  · rename_i he
    rw [he, ho]
    rfl
  · rfl

theorem sameStock_deliver (target : TransferTarget) (runs : List (ByteRange × ByteArray)) :
    SameStock d (d.deliver target runs).2.2 := by
  unfold deliver
  split
  · exact .refl d
  · split
    · exact .refl d
    · rename_i o ho
      exact sameStock_putObject ho _

theorem transfer_sameStock (target : TransferTarget) (source : TransferSource)
    (ranges : List ByteRange) (flags : MapFlags) :
    (transfer target source ranges flags).Ends d fun _ d' => SameStock d d' := by
  intro j
  unfold transfer
  simp only [Step.wp_bind, Step.wp_get]
  split
  · exact .refl d
  · rename_i runs _
    have hdeliver := sameStock_deliver (d := d) target runs
    split
    · rename_i he
      rw [he] at hdeliver
      exact hdeliver
    · rename_i he
      rw [he] at hdeliver
      exact hdeliver.trans (sameStock_record _ _ (by simp))

theorem openMapping_sameStock (h : ObjectHandle) (offset size : Nat) (flags : MapFlags) :
    (openMapping h offset size flags).Ends d fun _ d' => SameStock d d' := by
  intro j
  unfold openMapping
  simp only [Attempt.wp_bind, Attempt.wp_get]
  split
  · exact .refl d
  · rename_i o ho
    simp only [Attempt.wp_ite, Attempt.wp_refuse, Attempt.wp_bind, Attempt.wp_set,
      Attempt.wp_pure]
    split
    · exact .refl d
    · exact (sameStock_putObject ho _).trans (sameStock_record _ _ (by simp))

theorem closeMapping_sameStock (h : ObjectHandle) (ranges : List ByteRange) :
    (closeMapping h ranges).Ends d fun _ d' => SameStock d d' := by
  intro j
  unfold closeMapping
  simp only [Step.wp_bind, Step.wp_get]
  split
  · rename_i o ho
    exact (sameStock_putObject ho _).trans (sameStock_record _ _ (by simp))
  · exact sameStock_record _ _ (by simp)

/-- **A call that neither makes nor frees an object leaves the stock as it is.** -/
theorem sameStock_of_quiet (h : Device.Quiet d d') : SameStock d d' := by
  cases h with
  | transfer target source ranges flags j => exact transfer_sameStock target source ranges flags j
  | openMapping h offset size flags j => exact openMapping_sameStock h offset size flags j
  | closeMapping h ranges j => exact closeMapping_sameStock h ranges j
  | recordBarrier b j => exact sameStock_record d _ nofun
  | endCapture j =>
    have hd : SameStock d { d with capture := none } := ⟨rfl, rfl, rfl, fun _ => rfl⟩
    exact hd.trans (sameStock_record _ .endCapture nofun)
  | poke h position data =>
    show SameStock d (poke h position data d)
    unfold poke
    split
    · rename_i o ho
      exact sameStock_putObject ho _
    · exact .refl d

/-! ## 3. Objects made and given back -/

/-- One object more, under the next handle. -/
theorem Accounts.add (ha : Accounts d hs) (hnext : d'.nextHandle = d.nextHandle + 1)
    (hdestroyed : d'.destroyed = d.destroyed)
    (hlive : ∀ h', Device.live d' h' = if h' = ⟨d.nextHandle⟩ then true else Device.live d h') :
    Accounts d' (⟨d.nextHandle⟩ :: hs) := by
  have hfresh : (⟨d.nextHandle⟩ : ObjectHandle) ∉ hs := fun hin =>
    Nat.lt_irrefl _ (ha.named _ hin)
  refine ⟨List.nodup_cons.mpr ⟨hfresh, ha.distinct⟩, fun h => ?_, fun h hh => ?_,
    hdestroyed ▸ ha.once, fun h hh => ?_⟩
  · rw [hlive, List.mem_cons]
    split
    · rename_i he
      exact ⟨fun _ => .inl he, fun _ => rfl⟩
    · rename_i he
      rw [ha.live]
      exact ⟨.inr, fun hin => hin.resolve_left he⟩
  · rw [hnext]
    rcases List.mem_cons.mp hh with rfl | hin
    · exact Nat.lt_succ_self _
    · exact Nat.lt_succ_of_lt (ha.named h hin)
  · rw [hdestroyed] at hh
    obtain ⟨hlt, hnot⟩ := ha.gone h hh
    rw [hnext]
    refine ⟨Nat.lt_succ_of_lt hlt, fun hin => ?_⟩
    rcases List.mem_cons.mp hin with rfl | hin
    · exact Nat.lt_irrefl _ hlt
    · exact hnot hin

/-- One object less, which was never given back before. -/
theorem Accounts.remove (ha : Accounts d (h :: hs)) (hnext : d'.nextHandle = d.nextHandle)
    (hdestroyed : d'.destroyed = d.destroyed ++ [h])
    (hlive : ∀ h', Device.live d' h' = if h' = h then false else Device.live d h') :
    Accounts d' hs := by
  have hnodup := List.nodup_cons.mp ha.distinct
  have hnew : h ∉ d.destroyed := fun hin => (ha.gone h hin).2 List.mem_cons_self
  refine ⟨hnodup.2, fun h' => ?_, fun h' hh => ?_, ?_, fun h' hh => ?_⟩
  · rw [hlive]
    split
    · rename_i he
      rw [he]
      exact ⟨nofun, fun hin => absurd hin hnodup.1⟩
    · rename_i he
      rw [ha.live, List.mem_cons]
      exact ⟨fun hin => hin.resolve_left he, .inr⟩
  · rw [hnext]
    exact ha.named h' (List.mem_cons_of_mem _ hh)
  · rw [hdestroyed]
    refine List.nodup_append.mpr ⟨ha.once, List.pairwise_singleton _ h, fun a hin b hb => ?_⟩
    rw [List.mem_singleton.mp hb]
    rintro rfl
    exact hnew hin
  · rw [hdestroyed] at hh
    rw [hnext]
    rcases List.mem_append.mp hh with hin | hin
    · obtain ⟨hlt, hnot⟩ := ha.gone h' hin
      exact ⟨hlt, fun hmem => hnot (List.mem_cons_of_mem _ hmem)⟩
    · rw [List.mem_singleton.mp hin]
      exact ⟨ha.named h List.mem_cons_self, hnodup.1⟩

/-- A new object is one more to hold; one that is refused leaves the device as it is. -/
theorem makeObject_accounts (ha : Accounts d hs) (request : ObjectRequest) :
    (makeObject request).Ends d fun r d' => d'.caps = d.caps ∧
      match r with
      | .ok a => Accounts d' (a.handle :: hs)
      | .error _ => d' = d := by
  intro j
  unfold makeObject
  simp only [Attempt.wp_bind, Attempt.wp_get]
  split
  · rename_i hosted
    refine ⟨rfl, ha.add rfl (destroyed_record _ _ (by simp)) fun h => ?_⟩
    show (({ d with nextHandle := d.nextHandle + 1 } : MemoryDevice).putObject ⟨d.nextHandle⟩
      (.new request hosted.1) |>.object? h).isSome = _
    rw [object?_putObject]
    split
    · rfl
    · rfl
  · exact ⟨rfl, rfl⟩

/-- An object that was held is given back once. -/
theorem freeObject_accounts (ha : Accounts d (h :: hs)) :
    (freeObject h).Ends d fun _ d' => d'.caps = d.caps ∧ Accounts d' hs := by
  intro j
  unfold freeObject
  simp only [Step.wp_bind, Step.wp_get, Step.wp_ite, Step.wp_note, Step.wp_set, ite_self]
  refine ⟨rfl, ha.remove rfl ?_ fun h' => ?_⟩
  · unfold destroyed record
    rw [Array.toList_push, List.filterMap_append]
    rfl
  · show ((d.objects.erase h.number).get? h'.number).isSome = _
    rw [Table.get?_erase]
    by_cases he : h' = h
    · rw [if_pos (by rw [he]), if_pos he]
      rfl
    · rw [if_neg fun hn => he (by cases h; cases h'; cases hn; rfl), if_neg he]
      rfl

end MemoryDevice

/-- The object of a buffer is what it holds. -/
def Buffer.handles (b : Buffer) : List ObjectHandle := (b.object.map (·.handle)).toList

theorem Buffer.Evolves.handles {b b' : Buffer} (h : b.Evolves b') : b'.handles = b.handles :=
  congrArg Option.toList h.object

theorem Buffer.handles_of_some {b : Buffer} {o : BufferObject} (h : b.object = some o) :
    b.handles = [o.handle] := by
  unfold handles
  rw [h]
  rfl

theorem Buffer.handles_of_none {b : Buffer} (h : b.object = none) : b.handles = [] := by
  unfold handles
  rw [h]
  rfl

namespace Site

variable {s t : Site MemoryDevice} {others : List ObjectHandle}

/-! ## 4. One buffer -/

/-- **The objects of the device are the object of the buffer and those of the others.** The buffer
    gives an object back when it goes away. -/
structure Custody (others : List ObjectHandle) (s : Site MemoryDevice) : Prop where
  accounts : s.machine.device.Accounts (s.buffer.handles ++ others)
  equipped : s.buffer.backend.kind ≠ .noObject
  capable : s.machine.device.caps.backend ≠ .noObject

theorem capable_of_caps {d d' : MemoryDevice} (h : d'.caps = d.caps)
    (hd : d.caps.backend ≠ .noObject) : d'.caps.backend ≠ .noObject := by
  rw [h]
  exact hd

/-- **A move that takes over no object leaves those of the others to them.** -/
theorem Move.custody {k : MoveKind} (h : s.Move k t) (hk : ∀ a, k ≠ .rename a)
    (hs : Custody others s) : Custody others t := by
  obtain ⟨haccounts, hequipped, hcapable⟩ := hs
  cases h with
  | @book b hb users =>
    exact ⟨by rw [hb.handles]; exact haccounts, by rw [hb.kind]; exact hequipped, hcapable⟩
  | @call d hd =>
    have hstock := MemoryDevice.sameStock_of_quiet hd
    exact ⟨hstock.accounts haccounts, hequipped, capable_of_caps hstock.caps hcapable⟩
  | @made request a d j _ size bare hrun =>
    obtain ⟨hcaps, hmake⟩ := (MemoryDevice.makeObject_accounts haccounts request).of_run hrun
    rw [Buffer.handles_of_none bare] at hmake
    exact ⟨hmake, hequipped, capable_of_caps hcaps hcapable⟩
  | @refused request f d j _ hrun =>
    obtain ⟨-, hsame⟩ := (MemoryDevice.makeObject_accounts haccounts request).of_run hrun
    cases hsame
    exact ⟨haccounts, hequipped, hcapable⟩
  | released loose steady => exact ⟨haccounts, hequipped, hcapable⟩
  | discarded loose => exact ⟨haccounts, hequipped, hcapable⟩
  | @freed o ho j =>
    rw [Buffer.handles_of_some ho] at haccounts
    obtain ⟨hcaps, hfree⟩ := MemoryDevice.freeObject_accounts haccounts j
    exact ⟨hfree, hequipped, capable_of_caps hcaps hcapable⟩
  | replaced hp j => exact absurd rfl (hk _)
  | given bare => exact absurd rfl (hk _)
  | held mapCount mapBase => exact ⟨haccounts, hequipped, hcapable⟩

/-- **An object that is taken over is the buffer's from then on**, and the one it had is given
    back. -/
theorem Move.takeover {a : ObjectHandle} (h : s.Move (.rename a) t)
    (hs : Custody (a :: others) s) : Custody others t := by
  obtain ⟨haccounts, hequipped, hcapable⟩ := hs
  generalize hk : MoveKind.rename a = k at h
  cases h with
  | @replaced p o hp j =>
    cases hk
    rw [Buffer.handles_of_some hp] at haccounts
    obtain ⟨hcaps, hfree⟩ := MemoryDevice.freeObject_accounts haccounts j
    exact ⟨hfree, hequipped, capable_of_caps hcaps hcapable⟩
  | @given o bare =>
    cases hk
    rw [Buffer.handles_of_none bare] at haccounts
    exact ⟨haccounts, hequipped, hcapable⟩
  | _ => cases hk

theorem Moves.custody {K : List MoveKind} (h : Moves K s t) (hK : ∀ a, .rename a ∉ K)
    (hs : Custody others s) : Custody others t :=
  h.keeps (P := Custody others)
    (fun _ hk _ _ step hx => step.custody (fun a he => hK a (he ▸ hk)) hx) hs

theorem Renames.custody {a : ObjectHandle} (h : Renames a s t)
    (hs : Custody (a :: others) s) : Custody others t := by
  obtain ⟨u, v, hu, huv, ht⟩ := h
  have hinPlace : ∀ h, MoveKind.rename h ∉ MoveKind.inPlace := by simp [MoveKind.inPlace]
  exact ht.custody hinPlace (huv.takeover (hu.custody hinPlace hs))

/-- What consists of moves alone takes over nothing. -/
theorem mapping_custody (h : Moves MoveKind.mapping s t) (hs : Custody others s) : Custody others t :=
  h.custody (by simp [MoveKind.mapping]) hs

end Site

open Site in
/-- **A call consumes the object that it takes over**, and no other. -/
theorem Call.custody (c : Call) {s : Site MemoryDevice} {others : List ObjectHandle}
    (hs : Custody ((c.consumed? s.buffer).toList ++ others) s) :
    c.perform.Ends s fun _ t => Custody others t := by
  refine (c.perform_moves s).mono fun _ t ht => ?_
  cases hc : c.consumed? s.buffer with
  | none =>
    rw [hc] at hs ht
    exact mapping_custody (ht.mono c.kinds_mapping) hs
  | some a =>
    rw [hc] at hs ht
    exact ht.custody hs

namespace Site

variable {s t : Site MemoryDevice} {others : List ObjectHandle}

/-! ## 5. The end of a buffer -/

theorem Moves.handles {δ : Type} [Device δ] {s t : Site δ} (h : Moves MoveKind.inPlace s t) :
    t.buffer.handles = s.buffer.handles := congrArg Option.toList h.handle

/-- **A buffer that ended holds nothing.** -/
theorem destroy_returns (hs : Custody others s) : destroy.Ends s fun _ t =>
    t.machine.device.Accounts others ∧ t.machine.device.caps.backend ≠ .noObject := by
  have hgone : destroy.Ends s fun _ t => t.buffer.handles = [] := by
    intro j
    unfold destroy
    simp only [Step.wp_bind, wp_current, Step.wp_note]
    -- the object goes where the kind says so, and the kind is that of the beginning
    refine (dropMapping_within s).wp fun _ u k hu => ?_
    refine (removeObject_ends u).wp fun _ v l hv => ?_
    rw [if_neg (mapping_custody (hu.mono MoveKind.holding_mapping) hs).equipped] at hv
    refine (abandon_within v).wp fun _ w n hw => ?_
    rw [hw.handles, hv]
    rfl
  refine ((destroy_within s).and hgone).mono fun _ t hpost => ?_
  obtain ⟨ht, hhandles⟩ := hpost
  have hc := mapping_custody ht hs
  have haccounts := hc.accounts
  rw [hhandles] at haccounts
  exact ⟨haccounts, hc.capable⟩

/-! ## 6. New buffers -/

/-- A new buffer that cannot be made ready leaves nothing behind. -/
theorem openFresh_custody (hs : Custody others s) (hbare : s.buffer.object = none) (pin : Bool)
    (data : Option ByteArray) : (openFresh pin data).Ends s fun r t =>
      match r with
      | .ok _ => Custody others t
      | .error _ => t.machine.device.Accounts others ∧
          t.machine.device.caps.backend ≠ .noObject := by
  intro j
  unfold openFresh
  simp only [Attempt.wp_bind, Attempt.wp_always, Attempt.wp_outcome]
  refine (openStorage_within pin s).wp fun r t k ht => ?_
  have hct := mapping_custody (ht.mono MoveKind.inPlace_mapping) hs
  cases r with
  | error f =>
    simp only [Attempt.wp_bind, Attempt.wp_always, Attempt.wp_throw]
    refine (abandon_within t).wp fun _ u l hu => ?_
    have hu' := ht.trans hu
    have hcu := mapping_custody (hu'.mono MoveKind.inPlace_mapping) hs
    have haccounts := hcu.accounts
    rw [hu'.handles, Buffer.handles_of_none hbare] at haccounts
    exact ⟨haccounts, hcu.capable⟩
  | ok _ =>
    cases data with
    | none =>
      simp only [Attempt.wp_pure]
      exact hct
    | some d =>
      simp only [Attempt.wp_bind, Attempt.wp_always, wp_current, Attempt.wp_outcome]
      refine (fillFresh_within _ t).wp fun r u l hu => ?_
      have hcu := mapping_custody (hu.mono MoveKind.loading_mapping) hct
      cases r with
      | ok _ =>
        simp only [Attempt.wp_pure]
        exact hcu
      | error f =>
        simp only [Attempt.wp_bind, Attempt.wp_always, Attempt.wp_throw]
        exact (destroy_returns hcu).wp fun _ v n hv => hv

end Site

namespace Machine

variable {hs : List ObjectHandle}

/-- **A buffer that is created holds its own objects only, and one that is not leaves nothing
    behind.** -/
theorem create_custody {m : Machine MemoryDevice} (ha : m.device.Accounts hs)
    (hcapable : m.device.caps.backend ≠ .noObject) (request : BufferRequest)
    (data : Option ByteArray) (settings : Settings) :
    (create request data settings).Ends m fun r m' =>
      match r with
      | .ok b => Site.Custody hs ⟨b, m'⟩
      | .error _ => m'.device.Accounts hs ∧ m'.device.caps.backend ≠ .noObject := by
  refine create_opens (fun f => ⟨ha, hcapable⟩) fun _ backend objectAllowed hkind _ => ?_
  have hfresh : Site.Custody hs (m.freshBuffer (request.granted settings) backend
      objectAllowed settings) :=
    ⟨ha, fun he => hcapable (hkind.symm.trans he), hcapable⟩
  refine (Site.openFresh_custody hfresh rfl _ data).mono fun r y hy => ?_
  cases r with
  | error f => exact hy
  | ok _ => exact hy

end Machine

end BufferCoherence
