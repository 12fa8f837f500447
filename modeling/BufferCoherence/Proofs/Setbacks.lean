import BufferCoherence.Proofs.Cleared
import BufferCoherence.Proofs.Reconversion
import BufferCoherence.Proofs.Unloading

/-!
# Copies that could not be made current

What is left of an attempt to make a copy current that fails: storage may have been made, the shadow
may have been filled with zeroes or half loaded, and the object may be half loaded too. None of it
is claimed (`Site.ClaimsNothing`). The locations are what they were, and each copy that is current
has the bytes that it had. It may fail because the device refuses an object, because a transfer
breaks off, or because the host has no memory for the shadow or for a copy to convert vertices in.

Two steps on the way could do harm, and what is true of every buffer that operations lead to keeps
them from it (`Buffer.Reached`):

* converted vertices are loaded from a shadow that is made current first, so that a transfer that
  fails afterwards would leave one location more. But cleared content with a conversion map is
  anchored, so that its shadow is current already or not to be had (`Site.loadObject_failed`);
* the shadow of cleared content is filled with zeroes before the object is loaded from it, even
  where it is current. But it is tidy, so that it holds zeroes already.

Left out are buffers on which a copy failed after it wrote a part of its bytes over the zeroes of a
current shadow: an operation that fails leaves the content, and this one does not. A memory device
and a Vulkan device never break a copy off like that, whichever calls fail (`ReadsWhole`), so that
every history on them is covered, and on any other device every one in which no copy fails.
-/

namespace BufferCoherence

namespace Site

/-! ## 1. What is claimed -/

variable {δ : Type} [Device δ] [ReadsBack δ] {s t u : Site δ}

/-- **The attempt that leads from `s` to `t` claims nothing**, and leaves the bytes of the current
    copies alone. -/
structure ClaimsNothing (s t : Site δ) : Prop where
  locations : t.buffer.locations = s.buffer.locations
  size : t.buffer.size = s.buffer.size
  object : s.buffer.locations.has Location.gpuObject = true →
    t.buffer.object = s.buffer.object ∧
      ∀ o c, s.buffer.object = some o → Stores c s o → Stores c t o
  shadow : s.buffer.locations.has Location.sysmem = true → t.buffer.shadow = s.buffer.shadow

theorem ClaimsNothing.refl (s : Site δ) : ClaimsNothing s s :=
  ⟨rfl, rfl, fun _ => ⟨rfl, fun _ _ _ h => h⟩, fun _ => rfl⟩

/-- Where the object is not current, the device may do what it likes. -/
theorem ClaimsNothing.of_resembles (h : Resembles s t)
    (hg : s.buffer.locations.has Location.gpuObject = false) : ClaimsNothing s t :=
  ⟨h.locations, h.size, fun hyes => absurd (hg.symm.trans hyes) Bool.false_ne_true,
    fun _ => h.shadow⟩

theorem ClaimsNothing.after (ht : Resembles s t)
    (hg : s.buffer.locations.has Location.gpuObject = false) (h : ClaimsNothing t u) :
    ClaimsNothing s u := by
  exact ⟨h.locations.trans ht.locations, h.size.trans ht.size,
    fun hyes => absurd (hg.symm.trans hyes) Bool.false_ne_true,
    fun hs => (h.shadow (ht.locations.symm ▸ hs)).trans ht.shadow⟩

/-- Zeroes are what the shadow of cleared content has, if it is current. -/
theorem ClaimsNothing.after_zeroes (ht : s.buffer.Tidy)
    (hc : s.buffer.locations.has Location.cleared = true)
    (h : ClaimsNothing { s with buffer :=
      { s.buffer with shadow := some (Bytes.zeros s.buffer.size) } } t) : ClaimsNothing s t :=
  ⟨h.locations, h.size, h.object, fun hs => (h.shadow hs).trans (ht.zeroes hc hs).symm⟩

/-! ## 2. The shadow -/

/-- A shadow that could not be loaded is not current, and nothing else changed. -/
theorem loadShadow_failed {m : ByteArray} (hm : s.buffer.shadow = some m)
    (hsize : m.size = s.buffer.size)
    (hs : s.buffer.locations.has Location.sysmem = false) :
    loadShadow.Ends s fun r t => (∃ f, r = .error f) → ClaimsNothing s t := by
  have hstale {P : Prop} (hyes : s.buffer.locations.has Location.sysmem = true) : P :=
    absurd (hs.symm.trans hyes) Bool.false_ne_true
  intro j
  unfold loadShadow
  rw [Attempt.wp_bind, Attempt.wp_always, wp_current]
  dsimp only
  rw [Attempt.wp_ite]
  split
  · exact fun hf => absurd hf (Failure.not_failed rfl)
  · cases hcur : s.buffer.currentObject with
    | none => exact fun _ => .refl s
    | some p =>
      have hp : s.buffer.object = some p := Buffer.object_of_currentObject hcur
      unfold fillShadow
      simp only [Attempt.wp_bind, Attempt.wp_always, wp_current, hm, wp_onDevice, wp_change,
        Attempt.wp_answer]
      -- whatever content the object stores, it stores it after it was read
      have hfetch (j : Journal) : Step.wp (Device.transfer
          (.host (m.extract 0 (0 + s.buffer.size))) (.object p.handle p.offset)
          [⟨0, s.buffer.size⟩] MapFlags.write) s.machine.device j fun _ e _ =>
            ∀ c, Stores c s p → Stores c { s with machine.device := e } p := by
        rintro c ⟨bytes, hstored, hfit, hbytes⟩
        have hrun : (m.extract 0 (0 + s.buffer.size)).size = s.buffer.size := by
          rw [ByteArray.size_extract]
          omega
        exact ⟨bytes, (ReadsBack.fetch hstored hfit hrun MapFlags.write j).1, hfit, hbytes⟩
      refine (hfetch j).mono fun reply e k hkeeps _ =>
        ⟨rfl, rfl, fun _ => ⟨rfl, ?_⟩, fun h => hstale h⟩
      intro o c ho h
      cases hp.symm.trans ho
      exact hkeeps c h

/-- **A shadow that could not be made current claims nothing.** -/
theorem refreshShadow_failed (hempty : s.buffer.locations.isEmpty = false)
    (hg : s.buffer.Grounded) :
    refreshShadow.Ends s fun r t => (∃ f, r = .error f) → ClaimsNothing s t := by
  refine refreshWith_fails hempty fun hs => (reserveShadow_ends s).mono fun ready t ht => ?_
  rcases ht with ⟨rfl, hsome, rfl⟩ | ⟨rfl, -, rfl⟩ | ⟨rfl, -, rfl⟩
  · obtain ⟨m, hm⟩ := Option.isSome_iff_exists.mp hsome
    exact ⟨nofun, fun _ _ => loadShadow_failed hm (hg.shadow m hm).1 hs⟩
  · let t : Site δ := { s with buffer :=
      { s.buffer with shadow := some (Bytes.zeros s.buffer.size) } }
    refine ⟨nofun, fun _ _ => (loadShadow_failed (s := t) rfl (Bytes.size_zeros _) hs).mono
      fun r u hu hf => ?_⟩
    obtain ⟨hl, hn, ho, -⟩ := hu hf
    exact ⟨hl, hn, ho, fun hyes => absurd (hs.symm.trans hyes) Bool.false_ne_true⟩
  · exact ⟨fun _ => .refl _, nofun⟩

/-! ## 3. The object -/

omit [ReadsBack δ] in
/-- There is nothing to make the shadow current from. -/
theorem refreshShadow_sourceless (hempty : s.buffer.locations.isEmpty = false)
    (hs : s.buffer.locations.has Location.sysmem = false)
    (hg : s.buffer.locations.has Location.gpuObject = false)
    (hd : s.buffer.locations.has Location.discarded = false)
    (hc : s.buffer.locations.has Location.cleared = false) :
    refreshShadow.Ends s fun r _ => ∃ f, r = .error f := by
  intro j
  refine wp_refreshWith hempty (fun hyes => absurd (hs.symm.trans hyes) Bool.false_ne_true)
    fun _ j => ?_
  refine (reserveShadow_ends s).wp fun ready t k ht => ⟨fun _ f => ⟨f, rfl⟩, fun _ => ?_⟩
  have hl : t.buffer.locations = s.buffer.locations := by
    rcases ht with ⟨-, -, rfl⟩ | ⟨-, -, rfl⟩ | ⟨-, -, rfl⟩ <;> rfl
  have hcurrent : t.buffer.currentObject = none := by
    unfold Buffer.currentObject
    rw [hl, hg, if_neg Bool.false_ne_true]
  refine ⟨by rw [hl]; exact hd, ?_⟩
  unfold loadShadow
  simp only [Attempt.wp_bind, Attempt.wp_always, wp_current, hl, hc, Bool.false_eq_true, if_false,
    hcurrent, Attempt.wp_refuse]
  exact ⟨_, rfl⟩

section Object

variable (hempty : s.buffer.locations.isEmpty = false)
  (hg : s.buffer.locations.has Location.gpuObject = false)

include hg

/-- Whatever becomes of the spans that are loaded into an object that is not current. -/
theorem uploadPlain_claims : uploadPlain.Ends s fun _ t => ClaimsNothing s t := by
  have hsame (d : δ) : ClaimsNothing s { s with machine.device := d } :=
    .of_resembles (.refl s.buffer) hg
  intro j
  unfold uploadPlain fillObject
  rw [Attempt.wp_bind, Attempt.wp_always, wp_current]
  dsimp only
  split
  · simp only [Attempt.wp_bind, Attempt.wp_always, wp_onDevice, Attempt.wp_answer]
    exact Step.wp_any fun _ d _ => hsame d
  · exact hsame s.machine.device

include hempty

/-- Converted vertices that could not be loaded: the shadow was current before, or could not be made
    so. -/
theorem uploadConverted_failed (h : s.buffer.Grounded)
    (hd : s.buffer.locations.has Location.discarded = false)
    (hs : s.buffer.locations.has Location.cleared = true →
      s.buffer.locations.has Location.sysmem = true) :
    uploadConverted.Ends s fun r t => (∃ f, r = .error f) → ClaimsNothing s t := by
  intro j
  unfold uploadConverted
  rw [Attempt.wp_bind]
  cases hcurrent : s.buffer.locations.has Location.sysmem with
  | true =>
    unfold refreshShadow
    rw [wp_refreshWith_of_current hcurrent]
    simp only [Attempt.wp_bind, Attempt.wp_always, wp_pinShadow, wp_current]
    have hpinned (d : δ) : ClaimsNothing s ⟨{ s.buffer with pinned := true },
        { s.machine with device := d }⟩ :=
      ⟨rfl, rfl, fun hyes => absurd (hg.symm.trans hyes) Bool.false_ne_true, fun _ => rfl⟩
    split
    · rw [Attempt.wp_bind, wp_borrowScratch]
      split
      · unfold fillObject
        simp only [Attempt.wp_bind, Attempt.wp_always, wp_onDevice, Attempt.wp_answer]
        exact Step.wp_any fun _ d _ _ => hpinned d
      · exact fun _ => hpinned _
    · exact fun _ => hpinned _
  | false =>
    have hc : s.buffer.locations.has Location.cleared = false := (Bool.not_eq_true _).mp
      fun hc => absurd (hcurrent.symm.trans (hs hc)) Bool.false_ne_true
    refine ((refreshShadow_failed hempty h).and
      (refreshShadow_sourceless hempty hcurrent hg hd hc)).wp fun r t k ht => ?_
    obtain ⟨ht, f, rfl⟩ := ht
    exact fun _ => ht ⟨f, rfl⟩

/-- **An object that could not be loaded claims nothing**: where the vertices are converted, the
    buffer is anchored. -/
theorem loadObject_failed (h : s.buffer.Anchored) (htidy : s.buffer.Tidy)
    (hd : s.buffer.locations.has Location.discarded = false) :
    loadObject.Ends s fun r t => (∃ f, r = .error f) → ClaimsNothing s t := by
  have hupload {t : Site δ} (ht : t.buffer.Grounded)
      (hl : t.buffer.locations = s.buffer.locations)
      (hs : t.buffer.isConverted = true → t.buffer.locations.has Location.cleared = true →
        t.buffer.locations.has Location.sysmem = true) :
      (do if (← always current).isConverted then uploadConverted else uploadPlain :
        Attempt (Site δ) Unit).Ends t fun r u => (∃ f, r = .error f) → ClaimsNothing t u := by
    intro j
    rw [Attempt.wp_bind, Attempt.wp_always, wp_current]
    dsimp only
    rw [Attempt.wp_ite]
    split
    · rename_i hconv
      exact uploadConverted_failed (hl ▸ hempty) (hl ▸ hg) ht (hl ▸ hd) (hs hconv) j
    · exact (uploadPlain_claims (hl ▸ hg)).wp fun _ _ _ hu _ => hu
  intro j
  unfold loadObject materializeCleared
  rw [Attempt.wp_bind, Attempt.wp_always, wp_current]
  dsimp only
  rw [Attempt.wp_ite]
  cases hc : s.buffer.locations.has Location.cleared with
  | false =>
    rw [if_neg Bool.false_ne_true]
    exact hupload h.toGrounded rfl (fun _ hyes => absurd (hc.symm.trans hyes) Bool.false_ne_true) j
  | true =>
    rw [if_pos rfl, Attempt.wp_bind, Attempt.wp_bind, Attempt.wp_always]
    let t : Site δ := { s with buffer :=
      { s.buffer with shadow := some (Bytes.zeros s.buffer.size) } }
    -- there is room for the shadow that the vertices are converted from
    have hzeroes (hroom : s.buffer.size ≤ Bytes.largestRun) (j : Journal) :
        (do if (← always current).isConverted then uploadConverted else uploadPlain :
          Attempt (Site δ) Unit).wp t j fun r u _ => (∃ f, r = .error f) → ClaimsNothing s u := by
      have ht : t.buffer.Grounded :=
        (s.buffer.upholds_shadow fun _ => ⟨Bytes.size_zeros _, hroom⟩).grounded h.toGrounded
      refine (hupload ht rfl fun hconv _ => ?_).wp fun r u _ hu hf => (hu hf).after_zeroes htidy hc
      rcases h.backed hconv hc with hpinned | hlarge
      · exact h.mirrored hpinned hc
      · exact absurd hroom (Nat.not_le_of_lt hlarge)
    refine (reserveShadow_ends s).wp fun ready y k hy => ?_
    rcases hy with ⟨rfl, hsome, rfl⟩ | ⟨rfl, hroom, rfl⟩ | ⟨rfl, -, rfl⟩
    · obtain ⟨m, hm⟩ := Option.isSome_iff_exists.mp hsome
      obtain ⟨hsize, hroom⟩ := h.shadow m hm
      simp only [if_true, Attempt.wp_always, wp_clearShadow, hm, Option.map_some, hsize]
      exact hzeroes hroom k
    · simp only [if_true, Attempt.wp_always, wp_clearShadow, Option.map_some, Bytes.size_zeros]
      exact hzeroes hroom k
    · exact fun _ => .of_resembles (.refl _) hg

end Object

/-- **An object that could not be made current claims nothing.** -/
theorem refreshObject_failed (hempty : s.buffer.locations.isEmpty = false)
    (h : s.buffer.Anchored) (htidy : s.buffer.Tidy) :
    refreshObject.Ends s fun r t => (∃ f, r = .error f) → ClaimsNothing s t := by
  refine refreshWith_fails hempty fun hg => (reserveObject_resembles s).mono fun ready t ht => ?_
  refine ⟨fun _ => .of_resembles ht hg, fun _ hd => ?_⟩
  exact (loadObject_failed (by rw [ht.locations]; exact hempty) (by rw [ht.locations]; exact hg)
    (h.upheld (.records ht)) (htidy.same (Buffer.Upholds.records ht).grounded ht.locations
      ht.shadow) hd).mono fun r u hu hf => (hu hf).after ht hg

end Site

/-! ## 4. A device that is frail -/

/-- A memory device whose transfers may fail once the bytes were moved, on a host that may withhold
    memory. -/
structure FrailDevice where
  device : MemoryDevice
  breaksOff : Bool
  withholds : List HostUse

namespace FrailDevice

variable {α : Type}

/-- A step of the memory device. -/
def forward (s : Step MemoryDevice α) : Step FrailDevice α :=
  s.onPart (·.device) fun device d => { d with device }

/-- An attempt of the memory device. -/
def tryForward (a : Attempt MemoryDevice α) : Attempt FrailDevice α :=
  a.onPart (·.device) fun device d => { d with device }

/-- A transfer that breaks off is reported as failed, whatever was moved. -/
def transfer (target : TransferTarget) (source : TransferSource) (ranges : List ByteRange)
    (flags : MapFlags) : Step FrailDevice TransferReply := do
  let reply ← forward (Device.transfer target source ranges flags)
  let d ← get
  pure (if d.breaksOff then { reply with outcome := .error .outOfMemory } else reply)

instance : Device FrailDevice where
  caps d := Device.caps d.device
  live d h := Device.live d.device h
  makeObject request := tryForward (Device.makeObject request)
  freeObject h := forward (Device.freeObject h)
  transfer := transfer
  openMapping h offset size flags := tryForward (Device.openMapping h offset size flags)
  closeMapping h ranges := forward (Device.closeMapping h ranges)
  recordBarrier b := forward (Device.recordBarrier b)
  captureActive d h := Device.captureActive d.device h
  endCapture := forward Device.endCapture
  peek d h position size := Device.peek d.device h position size
  poke h position data d := { d with device := Device.poke h position data d.device }
  hostLends d use _ := !d.withholds.contains use

instance : ReadsBack FrailDevice where
  Stores d h bytes := ReadsBack.Stores d.device h bytes
  peek stored fits := ReadsBack.peek (δ := MemoryDevice) stored fits
  fetch stored fits sized flags := fun j => by
    show Step.wp (transfer _ _ _ flags) _ j _
    unfold transfer forward
    simp only [Step.wp_bind, Step.wp_onPart, Step.wp_get, Step.wp_pure]
    refine (ReadsBack.fetch (δ := MemoryDevice) stored fits sized flags).wp
      fun reply e k ⟨hstored, hsize, hok⟩ => ?_
    split
    · exact ⟨hstored, hsize, nofun⟩
    · exact ⟨hstored, hsize, hok⟩
  closed stored a ranges := fun j => ReadsBack.closed (δ := MemoryDevice) stored a ranges j

end FrailDevice

/-- A buffer whose device turns frail. -/
def Site.frail (s : Site MemoryDevice) (breaksOff : Bool) (withholds : List HostUse) :
    Site FrailDevice :=
  ⟨s.buffer, ⟨⟨s.machine.device, breaksOff, withholds⟩, s.machine.users, s.machine.nextBuffer⟩⟩

/-! ## 5. Any copy -/

namespace Site

variable {δ : Type} [Device δ] [ReadsBack δ] {s t : Site δ}

/-- **An attempt to make a copy current that fails claims nothing**: the locations are what they
    were, and every copy that is current holds what it held. The device is any device that answers
    for the bytes of its objects, and the host may refuse any memory; the buffer is any buffer that
    operations lead to (`Buffer.Reached`). -/
theorem failed_refresh_claims_nothing {l : Location} {f : Failure} {j i : Journal}
    (h : s.buffer.Reached) (hempty : s.buffer.locations.isEmpty = false)
    (hrun : (refreshCopy l).run s j = ((.error f, t), i)) : ClaimsNothing s t := by
  have hends : (refreshCopy l).Ends s fun r t => (∃ f, r = .error f) → ClaimsNothing s t := by
    intro j
    unfold refreshCopy
    simp only [Attempt.wp_bind, Attempt.wp_always, wp_current, Attempt.wp_ite, Attempt.wp_refuse]
    split
    · exact fun _ => .refl s
    · split
      · exact refreshShadow_failed hempty h.anchored.toGrounded j
      · exact refreshObject_failed hempty h.anchored h.tidy j
  exact hends.of_run hrun ⟨f, rfl⟩

/-- A buffer is created on a Vulkan device that then lends no memory for a staging buffer. -/
theorem content_out_of_reach : ∃ (b : Buffer) (x : Machine VulkanDevice) (k : Journal)
    (d : VulkanDevice),
    (Machine.create ⟨4, ∅, BindFlags.vertexBuffer, Access.gpu, 0⟩ (some ⟨#[1, 2, 3, 4]⟩) {}).run
      (.new (.new ⟨.new, 0⟩ .modern)) (.empty .error) = ((.ok b, x), k) ∧
    d = x.device.setDriver (x.device.driver.setCode .allocateMemory "OutOfDeviceMemory") ∧
    b.locations = Location.gpuObject ∧
    ((refreshCopy Location.sysmem).run ⟨b, .new d⟩ (.empty .error)).1.1.toOption.isNone = true := by
  have h₀ := Attempt.eq_end_of_ok
    (Machine.create ⟨4, ∅, BindFlags.vertexBuffer, Access.gpu, 0⟩ (some ⟨#[1, 2, 3, 4]⟩) {})
    (.new (VulkanDevice.new ⟨.new, 0⟩ .modern)) (.empty .error)
    (Option.some_get (by decide +kernel)).symm
  refine ⟨_, _, _, _, h₀, rfl, ?_, ?_⟩
  all_goals decide +kernel

/-- A buffer of zeroes gets a shadow on a device that then makes no further object. -/
theorem object_out_of_reach : ∃ (past : List Happening) (r : Site MemoryDevice) (d : MemoryDevice),
    Run (.new (.new .modern)) ⟨4, ∅, BindFlags.vertexBuffer, Access.gpu, 0⟩ none {} past r ∧
    d = { r.machine.device with refusesObjects := true } ∧
    r.buffer.locations = Location.sysmem ∪ Location.cleared ∧
    ((refreshCopy Location.gpuObject).run ⟨r.buffer, .new d⟩
      (.empty .error)).1.1.toOption.isNone = true := by
  have h₀ := Run.first (.new (.new .modern)) ⟨4, ∅, BindFlags.vertexBuffer, Access.gpu, 0⟩ none {}
    (.empty .error) (Option.some_get (by decide +kernel)).symm
  have h₁ := h₀.next (.refresh Location.sysmem) ⟨by decide +kernel, fun _ _ _ h => nomatch h⟩
    (.empty .error)
  refine ⟨_, _, _, h₁, rfl, ?_, ?_⟩
  all_goals decide +kernel

/-- A buffer with its content in the object, and one whose vertices are to be converted again, on a
    device that turns frail: the host withholds memory, or transfers break off. -/
theorem bytes_out_of_reach : ∃ (past past' : List Happening) (r r' : Site MemoryDevice),
    Run (.new (.new .legacy)) ⟨8, ∅, BindFlags.vertexBuffer, Access.gpu, 0⟩
      (some ⟨#[1, 2, 3, 4, 5, 6, 7, 8]⟩) {} past r ∧
    Run (.new (.new .legacy)) ⟨8, ∅, BindFlags.vertexBuffer, Access.gpu, 0⟩
      (some ⟨#[1, 2, 3, 4, 5, 6, 7, 8]⟩) {} past' r' ∧
    r.buffer.locations = Location.gpuObject ∧
    r'.buffer.locations = Location.sysmem ∧ r'.buffer.isConverted = true ∧
    (∀ x ∈ [(false, [HostUse.shadow]), (true, [])], ((refreshCopy Location.sysmem).run
      (r.frail x.1 x.2) (.empty .error)).1.1.toOption.isNone = true) ∧
    ∀ x ∈ [(false, [HostUse.scratch]), (true, [])], ((refreshCopy Location.gpuObject).run
      (r'.frail x.1 x.2) (.empty .error)).1.1.toOption.isNone = true := by
  have h₀ := Run.first (.new (.new .legacy)) ⟨8, ∅, BindFlags.vertexBuffer, Access.gpu, 0⟩
    (some ⟨#[1, 2, 3, 4, 5, 6, 7, 8]⟩) {} (.empty .error) (Option.some_get (by decide +kernel)).symm
  have h₁ := h₀.next (.draw (some colorDraw)) ⟨by decide +kernel, fun _ _ _ h => nomatch h⟩
    (.empty .error)
  have h₂ := h₁.next (.write 0 ⟨#[9]⟩ MapFlags.write) ⟨by decide +kernel, fun _ _ _ h => nomatch h⟩
    (.empty .error)
  refine ⟨_, _, _, _, h₀, h₂, ?_, ?_, ?_, ?_, ?_⟩
  all_goals decide +kernel

/-- Content that cannot be read back for want of memory, zeroes with a shadow for which no object is
    to be had, and a frail device, for the shadow and for an object with converted vertices. -/
theorem failed_refresh_claims_nothing_refused :
    (∃ (s t : Site VulkanDevice) (f : Failure) (i : Journal),
      s.buffer.Reached ∧ s.buffer.locations = Location.gpuObject ∧
      (refreshCopy Location.sysmem).run s (.empty .error) = ((.error f, t), i) ∧
      ClaimsNothing s t) ∧
    (∃ (s t : Site MemoryDevice) (f : Failure) (i : Journal),
      s.buffer.Reached ∧ s.buffer.locations = Location.sysmem ∪ Location.cleared ∧
      (refreshCopy Location.gpuObject).run s (.empty .error) = ((.error f, t), i) ∧
      ClaimsNothing s t) ∧
    (∃ s : Site MemoryDevice, s.buffer.Reached ∧ s.buffer.locations = Location.gpuObject ∧
      ∀ x ∈ [(false, [HostUse.shadow]), (true, [])], ∃ t f i, (refreshCopy Location.sysmem).run
        (s.frail x.1 x.2) (.empty .error) = ((.error f, t), i) ∧
        ClaimsNothing (s.frail x.1 x.2) t) ∧
    ∃ s : Site MemoryDevice, s.buffer.Reached ∧ s.buffer.locations = Location.sysmem ∧
      s.buffer.isConverted = true ∧
      ∀ x ∈ [(false, [HostUse.scratch]), (true, [])], ∃ t f i, (refreshCopy Location.gpuObject).run
        (s.frail x.1 x.2) (.empty .error) = ((.error f, t), i) ∧
        ClaimsNothing (s.frail x.1 x.2) t := by
  have hfailed {δ : Type} [Device δ] [ReadsBack δ] {s : Site δ} {l : Location}
      (hfails : ((refreshCopy l).run s (.empty .error)).1.1.toOption.isNone = true) :
      ∃ t f i, (refreshCopy l).run s (.empty .error) = ((.error f, t), i) := by
    obtain ⟨f, t, i, hrun⟩ := Attempt.eq_error _ _ _ (Option.isNone_iff_eq_none.mp hfails)
    exact ⟨t, f, i, hrun⟩
  refine ⟨?_, ?_, ?_⟩
  · obtain ⟨b, x, k, d, h₀, -, hl, hfails⟩ := content_out_of_reach
    obtain ⟨t, f, i, hrun⟩ := hfailed hfails
    have hb : b.Reached := .created h₀
    refine ⟨⟨b, .new d⟩, t, f, i, hb, hl, hrun, ?_⟩
    exact failed_refresh_claims_nothing hb (by rw [hl]; rfl) hrun
  · obtain ⟨past, r, d, hr, -, hl, hfails⟩ := object_out_of_reach
    obtain ⟨t, f, i, hrun⟩ := hfailed hfails
    refine ⟨⟨r.buffer, .new d⟩, t, f, i, hr.reached, hl, hrun, ?_⟩
    exact failed_refresh_claims_nothing hr.reached (by rw [hl]; rfl) hrun
  · obtain ⟨past, past', r, r', hr, hr', hl, hl', hconv, hfails, hfails'⟩ := bytes_out_of_reach
    refine ⟨⟨r, hr.reached, hl, fun x hx => ?_⟩, r', hr'.reached, hl', hconv, fun x hx => ?_⟩
    · obtain ⟨t, f, i, hrun⟩ := hfailed (hfails x hx)
      have hempty : (r.frail x.1 x.2).buffer.locations.isEmpty = false := by
        show r.buffer.locations.isEmpty = false
        rw [hl]
        rfl
      exact ⟨t, f, i, hrun, failed_refresh_claims_nothing hr.reached hempty hrun⟩
    · obtain ⟨t, f, i, hrun⟩ := hfailed (hfails' x hx)
      have hempty : (r'.frail x.1 x.2).buffer.locations.isEmpty = false := by
        show r'.buffer.locations.isEmpty = false
        rw [hl']
        rfl
      exact ⟨t, f, i, hrun, failed_refresh_claims_nothing hr'.reached hempty hrun⟩

end Site

end BufferCoherence
