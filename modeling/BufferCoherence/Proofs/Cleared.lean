import BufferCoherence.Proofs.Anchors
import BufferCoherence.Proofs.Lending
import BufferCoherence.Proofs.Readback

/-!
# Cleared content that has a shadow

Content that nobody wrote yet is cleared, and a shadow that is current with it stands for the same
zeroes. So it does hold zeroes (`Buffer.Tidy`): a shadow becomes current with cleared content only
after it was filled with them, and whatever brings other bytes ends with the content written.

A copy that fails is the one exception. It ends before the content counts as written, so that it has
to leave the shadow alone. Such a copy reads one run into host memory, and devices that read it
whole or not at all are those of `ReadsWhole`: the memory device, and the Vulkan device whichever of
its calls fail.

* **`Operation.perform_tidy`**: a complete operation keeps a buffer tidy, if it is no such copy;
* `Buffer.Reached` are the buffers that complete operations lead to where one that fails leaves the
  content, and they are anchored and tidy. The buffers of a `Run` are among them (`Run.reached`).
-/

namespace BufferCoherence

variable {δ α : Type}

/-! ## 1. The invariant -/

namespace Buffer

variable {b b' : Buffer}

/-- **A current shadow of cleared content is all zeroes.** -/
structure Tidy (b : Buffer) : Prop extends Grounded b where
  blank : b.locations.has Location.cleared = true → b.locations.has Location.sysmem = true →
    b.IsBlank

/-- It has as many zeroes as the buffer has bytes. -/
theorem Tidy.zeroes (h : b.Tidy) (hc : b.locations.has Location.cleared = true)
    (hs : b.locations.has Location.sysmem = true) :
    b.shadow = some (Bytes.zeros b.size) := by
  obtain ⟨n, hn⟩ := h.blank hc hs
  have hsize : n = b.size := (Bytes.size_zeros n).symm.trans (h.shadow _ hn).1
  rw [hn, hsize]

/-- A grounded buffer whose content is not cleared is tidy. -/
theorem Grounded.tidy (h : b.Grounded) (hc : b.locations.has Location.cleared = false) : b.Tidy :=
  ⟨h, fun hyes => absurd (hc.symm.trans hyes) Bool.false_ne_true⟩

/-- Neither the shadow nor the locations change. -/
theorem Tidy.same (h : b.Tidy) (hg : b.Grounded → b'.Grounded)
    (hl : b'.locations = b.locations) (hs : b'.shadow = b.shadow) : b'.Tidy where
  toGrounded := hg h.toGrounded
  blank hc hsys := by
    unfold IsBlank
    rw [hs]
    exact h.blank (hl ▸ hc) (hl ▸ hsys)

/-- **Cleared content that is written is not cleared any more**, wherever it is. -/
theorem Grounded.written (h : b.Grounded) (a : Address) (offset size : Nat) :
    (b.markStale (Location.all \ a.location) offset size).Tidy := by
  have hwritten : (Location.all \ a.location).has Location.cleared = true := by
    cases a with
    | shadow => exact show (Location.all \ Location.sysmem).has Location.cleared = true by decide
    | object => exact show (Location.all \ Location.gpuObject).has Location.cleared = true by decide
  exact ((b.upholds_markStale (fun _ => .inl hwritten) offset size).grounded h).tidy
    (by simp [markStale, hwritten])

end Buffer

/-- Nothing is current or stale because the client says so, and no bytes are brought to a shadow
    that may be current. -/
def DeedKind.Clean : DeedKind → Prop
  | .claim | .disclaim .. | .seed | .copy _ | .poke => False
  | _ => True

instance : DeedKind.Maps DeedKind.Clean := .of (by apply DeedKind.Opens.of <;> trivial) trivial

/-- **An entry keeps a buffer tidy.** -/
theorem Buffer.Entry.tidy {b b' : Buffer} {k : DeedKind} (h : b.Entry k b') (hk : k.Clean)
    (ht : b.Tidy) : b'.Tidy := by
  have hgrounded (hsteady : k.Steady) : b'.Grounded := (h.upholds hsteady).grounded ht.toGrounded
  have hkept (hsteady : k.Steady) (hl : b'.locations = b.locations) (hs : b'.shadow = b.shadow) :
      b'.Tidy := ht.same (fun _ => hgrounded hsteady) hl hs
  cases h with
  | @valid l hl hd blank =>
    refine ⟨hgrounded trivial, fun hc hs => ?_⟩
    have hc' : b.locations.has Location.cleared = true := by simpa [markValid, hl] using hc
    have hs' : b.locations.has Location.sysmem = true ∨ l.has Location.sysmem = true := by
      simpa [markValid] using hs
    rcases hs' with hs' | hs'
    · exact ht.blank hc' hs'
    · exact (blank hs' hc').resolve_left fun hlost =>
        absurd ((ht.kept hc').symm.trans hlost) Bool.false_ne_true
  | stale offset size hl =>
    refine ⟨hgrounded trivial, fun hc hs => ?_⟩
    simp only [markStale, Location.has_sdiff, Bool.and_eq_true] at hc hs
    exact ht.blank hc.1 hs.1
  | shadowed => exact ⟨hgrounded trivial, fun _ _ => ⟨b.size, rfl⟩⟩
  | @zeroed m hm => exact ⟨hgrounded trivial, fun _ _ => ⟨m.size, rfl⟩⟩
  | loaded _ _ stale | released _ _ stale | discarded _ stale =>
    exact ⟨hgrounded trivial, fun _ hs => absurd (stale.symm.trans hs) Bool.false_ne_true⟩
  | keptFresh => exact (hgrounded trivial).tidy Location.apart.1.2.2
  | analysed => exact ht.same (fun h => ⟨⟨h.shadow, h.dirty⟩, h.kept, h.mirrored⟩) rfl rfl
  | restarted =>
    have hsame := b.resembles_restartBarriers
    exact hkept trivial hsame.locations hsame.shadow
  | dirtied | flushed | pinned | forbidden | vacated | counted | tracked | held =>
    exact hkept trivial rfl rfl
  | claimed | disclaimed | seeded | sown | copied | poked => exact False.elim hk

namespace Site

variable [Device δ] {s t : Site δ} {k : DeedKind}

/-- A buffer that was tidy is tidy. -/
def Tidies (s t : Site δ) : Prop := s.buffer.Tidy → t.buffer.Tidy

instance : IsPreorder (Site δ) Tidies where
  refl _ h := h
  trans _ _ _ h h' := h' ∘ h

/-- **A deed keeps a buffer tidy.** No call of the device touches it. -/
theorem Deed.tidies (h : s.Deed k t) (hk : k.Clean) : Tidies s t := by
  have hsame (h : Resembles s t) : Tidies s t := fun ht =>
    ht.same (Buffer.Upholds.records h).grounded h.locations h.shadow
  cases h with
  | entered h => exact h.tidy hk
  | made => exact hsame ⟨rfl, DirtySpans.size_markAll _, rfl, rfl, rfl, rfl⟩
  | users | freed => exact hsame ⟨rfl, rfl, rfl, rfl, rfl, rfl⟩
  | replaced | given =>
    exact hsame (s.buffer.resembles_restartBarriers.trans ⟨rfl, rfl, rfl, rfl, rfl, rfl⟩)
  | _ => exact fun ht => ht

theorem Deeds.tidies (h : Deeds DeedKind.Clean s t) : Tidies s t :=
  h.relates fun _ hk _ _ hd => hd.tidies hk

/-! ## 2. Writing through a mapping -/

section Maps

variable {flags : MapFlags} {dirty : ByteRange}

/-- A mapping for writing that is prepared in the shadow leaves nothing cleared, -/
theorem openShadow_written (hw : flags.has MapFlags.write = true) :
    (openShadow flags dirty).Ends s fun r t => r = .ok () →
      t.buffer.locations.has Location.cleared = false := by
  intro j
  unfold openShadow
  rw [Attempt.wp_bind]
  refine Attempt.wp_any fun r t k => ?_
  cases r with
  | error f => exact fun hr => absurd hr (Failure.ne_ok _ _)
  | ok _ =>
    simp only [hw, if_true, Attempt.wp_always, wp_declareStaleIn]
    intro _
    simp [Buffer.markStale]

/-- and so does one in the object, from where the object is claimed. -/
theorem openObject_written (hw : flags.has MapFlags.write = true) :
    (openObject flags dirty).Ends s fun r t => r = .ok () →
      t.buffer.locations.has Location.cleared = false := by
  have hrest (b : Buffer) : Attempt.Relates Upholds (do
      if flags.has MapFlags.discard && b.shadow.isSome then always giveUpShadow
      if b.mapCount == 1 then openMapping flags dirty : Attempt (Site δ) Unit) := by
    have hopen : Attempt.Relates Upholds
        (if b.mapCount == 1 then openMapping flags dirty else pure () : Attempt (Site δ) Unit) :=
      .ite (.upholds (openMapping_phases (L := DeedKind.Steady) fun _ => trivial).deeds) (.pure _)
    refine .ite (.bind (.always (.upholds fun s => ?_)) fun _ => hopen) hopen
    exact giveUpShadow_gone (DeedKind.Opens.discard) s fun _ loose stale _ => .discarded loose stale
  intro j
  rw [openObject_eq, Attempt.wp_bind]
  refine Attempt.wp_any fun r t k => ?_
  cases r with
  | error f => exact fun hr => absurd hr (Failure.ne_ok _ _)
  | ok _ =>
    unfold openClaimed claimObject markDirty
    simp only [hw, if_true, Attempt.wp_bind, Attempt.wp_always, Step.wp_bind, wp_declareStale,
      wp_current, Step.wp_noteAll, wp_change]
    refine (hrest _ _).wp fun r u l hu _ => ?_
    exact (Bool.not_eq_true _).mp fun hc => by simpa [Buffer.markStale] using hu.cleared hc

theorem map_written (offset size : Nat) (hw : flags.has MapFlags.write = true) :
    (map offset size flags).Ends s fun r t => (∃ m, r = .ok m) →
      t.buffer.locations.has Location.cleared = false := by
  have hopen (t : Site δ) (dirty : ByteRange) : Attempt.Ends (if t.buffer.mapsShadow flags then
      openShadow flags dirty else openObject flags dirty) t fun r u => r = .ok () →
        u.buffer.locations.has Location.cleared = false := by
    split
    · exact openShadow_written hw
    · exact openObject_written hw
  have hfailed {f : Failure} {P : Prop} : (∃ m : Mapping, Except.error f = .ok m) → P := by
    rintro ⟨m, hm⟩
    exact absurd hm (Failure.ne_ok _ _)
  intro j
  unfold map
  rw [Attempt.wp_bind, Attempt.wp_always, wp_current]
  dsimp only
  rw [Attempt.wp_ite]
  split
  · exact hfailed
  · rw [Attempt.wp_bind, Attempt.wp_always, wp_change, Attempt.wp_bind, Attempt.wp_always,
      Attempt.wp_outcome]
    refine (mapPrepared_opens (hopen _)).wp fun r t k ht => ?_
    cases r with
    | ok m => exact fun _ => ht.1 rfl
    | error f =>
      simp only [Attempt.wp_bind, Attempt.wp_always, wp_change, Attempt.wp_throw]
      exact hfailed

end Maps

/-- What is written through a mapping is brought to a buffer that nothing says is cleared. -/
theorem write_tidy (h : s.buffer.Tidy) (offset : Nat) (data : ByteArray) (flags : MapFlags) :
    (write offset data flags).Ends s fun _ t => t.buffer.Tidy := by
  have hw : (flags ∪ MapFlags.write).has MapFlags.write = true := by
    simp [FlagSet.has_union_left MapFlags.isFlag_write, FlagSet.has_self]
  have hdeeds : (map offset data.size (flags ∪ MapFlags.write) : Attempt (Site δ) Mapping).Relates
      (Deeds DeedKind.Clean) := (map_phases (L := DeedKind.Clean) fun _ => trivial).deeds
  have hrest (m : Mapping) : Attempt.Relates Upholds (do
      always (writeMapped m data)
      always unmap : Attempt (Site δ) Unit) :=
    .upholds (.bind (.always (writeMapped_deeds trivial m data)) fun _ => .always unmap_deeds)
  intro j
  unfold write
  rw [Attempt.wp_bind]
  refine ((hdeeds s).and (map_written _ _ hw)).wp fun r t k ⟨ht, hwritten⟩ => ?_
  cases r with
  | error f => exact ht.tidies h
  | ok m =>
    refine (hrest m t).wp fun _ u _ hu => ?_
    exact (hu.grounded (ht.tidies h).toGrounded).tidy ((Bool.not_eq_true _).mp fun hc =>
      Bool.false_ne_true ((hwritten ⟨m, rfl⟩).symm.trans (hu.cleared hc)))

/-! ## 3. Copying -/

/-- **A run of the shadow that could not be filled is left alone**, where runs are read whole or not
    at all. -/
theorem fillShadow_whole {offset size : Nat} {source : TransferSource} {flags : MapFlags}
    (h : s.buffer.Sized) (hfit : offset + size ≤ s.buffer.size) :
    (fillShadow offset size source flags).Ends s fun r t =>
      (∃ f, r = .error f) → ReadsWhole δ → t.buffer = s.buffer := by
  by_cases hwhole : ReadsWhole δ
  · intro j
    unfold fillShadow
    simp only [Attempt.wp_bind, Attempt.wp_always, wp_current]
    cases hm : s.buffer.shadow with
    | none => exact fun _ _ => rfl
    | some m =>
      have hroom : offset + size ≤ m.size := (h.shadow m hm).1 ▸ hfit
      have hsize : (m.extract offset (offset + size)).size = size := by
        rw [ByteArray.size_extract]
        omega
      simp only [Attempt.wp_bind, Attempt.wp_always, wp_onDevice, wp_change, Attempt.wp_answer]
      refine (hwhole.whole s.machine.device hsize source flags).wp fun reply d k hhost hf _ => ?_
      rw [hhost hf, Bytes.splice_extract m hroom, ← hm]
  · exact fun j => Attempt.wp_any fun _ _ _ _ hyes => absurd hyes hwhole

/-- Bytes moved into an object are no concern of the buffer's. -/
theorem fillObject_keeps (handle : ObjectHandle) (offset : Nat) (source : TransferSource)
    (ranges : List ByteRange) (flags : MapFlags) :
    (fillObject handle offset source ranges flags).Ends s fun _ t => t.buffer = s.buffer := by
  intro j
  unfold fillObject
  simp only [Attempt.wp_bind, Attempt.wp_always, wp_onDevice, Attempt.wp_answer]
  exact Step.wp_any fun _ _ _ => trivial

/-- The copy that counts is found, or made current. -/
theorem authoritative_tidy (h : s.buffer.Tidy) : authoritative.Ends s fun _ t =>
    t.buffer.Tidy ∧ t.buffer.size = s.buffer.size :=
  ((authoritative_deeds (K := DeedKind.Clean) s).and
    (Attempt.Relates.upholds authoritative_deeds s)).mono fun _ _ ht => ⟨ht.1.tidies h, ht.2.size⟩

omit [Device δ] in
/-- Bytes that were brought to a copy count as written: until then they have to leave a shadow of
    cleared content alone. -/
theorem brought_tidy {p : Attempt (Site δ) Unit} {P : Prop} (a : Address) (offset size : Nat)
    (hp : p.Ends s fun r t => t.buffer.Grounded ∧
      ((∃ f, r = .error f) → P → t.buffer.Tidy)) :
    (p >>= fun _ => always (declareStaleIn (Location.all \ a.location) offset size)).Ends s
      fun r t => ((∃ f, r = .error f) → P) → t.buffer.Tidy := by
  intro j
  rw [Attempt.wp_bind]
  refine hp.wp fun r t k ⟨hgrounded, hfailed⟩ => ?_
  cases r with
  | error f => exact fun hwhole => hfailed ⟨f, rfl⟩ (hwhole ⟨f, rfl⟩)
  | ok _ =>
    rw [Attempt.wp_always, wp_declareStaleIn]
    exact fun _ => hgrounded.written a offset size

/-- Nor is there a copy to bring them to where a buffer is left as it was. -/
theorem filledObject_tidy {whole : Prop} (h : s.buffer.Tidy) (handle : ObjectHandle) (offset : Nat)
    (source : TransferSource) (ranges : List ByteRange) (flags : MapFlags) :
    (fillObject handle offset source ranges flags).Ends s fun r t => t.buffer.Grounded ∧
      ((∃ f, r = .error f) → whole → t.buffer.Tidy) :=
  (fillObject_keeps handle offset source ranges flags).mono fun _ t ht => by
    rw [ht]
    exact ⟨h.toGrounded, fun _ _ => h⟩

/-- **A run that is copied into a tidy buffer leaves it tidy**: a copy that fails leaves the shadow
    alone, where runs are read whole, and after any other nothing is cleared. -/
theorem copyRun_tidy (h : s.buffer.Tidy) (offset : Nat) (source : TransferSource) (size : Nat) :
    (copyRun offset source size).Ends s fun r t =>
      ((∃ f, r = .error f) → ReadsWhole δ) → t.buffer.Tidy := by
  intro j
  unfold copyRun requireRun
  simp only [Attempt.wp_bind, Attempt.wp_always, wp_current, Attempt.wp_ite, Attempt.wp_refuse,
    Attempt.wp_pure]
  split
  · exact fun _ => h
  rename_i hfits
  refine (authoritative_tidy h).wp fun r t k hauthority => ?_
  obtain ⟨ht, hsize⟩ := hauthority
  have hfit : offset + size ≤ t.buffer.size := by
    rw [hsize]
    simpa [Buffer.holds, fits_iff] using hfits
  cases r with
  | error f => exact fun _ => ht
  | ok a =>
    cases a with
    | object handle base =>
      exact brought_tidy (.object handle base) offset size (filledObject_tidy ht _ _ _ _ _) k
    | shadow =>
      have hcopy : DeedKind.Steady (.copy size) := trivial
      refine brought_tidy .shadow offset size ?_ k
      refine ((fillShadow_whole ht.toSized hfit).and (fillShadow_deeds hcopy hcopy
        (fun data j => .gathered data source size _ j) fun _ _ => .copied size)).mono
          fun r u hboth => ?_
      obtain ⟨hwhole, hdeeds⟩ := hboth
      have hu : Upholds t u := hdeeds.relates fun _ hk _ _ hd => hd.upholds hk
      refine ⟨hu.grounded ht.toGrounded, fun hf hyes => ?_⟩
      rw [hwhole hf hyes]
      exact ht

/-- A run that is moved inside the buffer is one that is there. -/
theorem moveRun_tidy (h : s.buffer.Tidy) (offset sourceOffset size : Nat) :
    (moveRun offset sourceOffset size).Ends s fun _ t => t.buffer.Tidy := by
  have hwhole {P : Prop} : P → True := fun _ => trivial
  intro j
  unfold moveRun requireRun
  simp only [Attempt.wp_bind, Attempt.wp_always, wp_current, Attempt.wp_ite, Attempt.wp_refuse,
    Attempt.wp_pure]
  split
  · exact h
  split
  · exact h
  refine (authoritative_tidy h).wp fun r t k hauthority => ?_
  have ht := hauthority.1
  cases r with
  | error f => exact ht
  | ok a =>
    cases a with
    | object handle base =>
      exact (brought_tidy (.object handle base) offset size
        (filledObject_tidy ht _ _ _ _ _)).wp fun _ _ _ hu => hu hwhole
    | shadow =>
      refine (brought_tidy (P := True) .shadow offset size fun j => ?_).wp
        fun _ _ _ hu => hu hwhole
      unfold moveInShadow
      simp only [Attempt.wp_bind, Attempt.wp_always, wp_current]
      cases hm : t.buffer.shadow with
      | none => exact ⟨ht.toGrounded, fun _ _ => ht⟩
      | some m =>
        simp only [Attempt.wp_always, wp_change]
        exact ⟨(Buffer.upholds_rewrite hm (Bytes.size_splice _ _ _)).grounded ht.toGrounded,
          fun hf => absurd hf (Failure.not_failed rfl)⟩

/-- An upload object that is copied is a source like any other. -/
theorem applyUpload_tidy (h : s.buffer.Tidy) (upload : Upload) (offset size : Nat) :
    (applyUpload upload offset size).Ends s fun r t =>
      ((∃ f, r = .error f) → ReadsWhole δ) → t.buffer.Tidy := by
  cases hr : upload.rename with
  | true =>
    exact (applyUpload_deeds (K := DeedKind.Clean) (fun _ => trivial)
      (fun hno => absurd (hr.symm.trans hno) Bool.noConfusion) s).mono fun _ _ ht _ => ht.tidies h
  | false =>
    intro j
    unfold applyUpload requireRun
    simp only [Attempt.wp_bind, Attempt.wp_always, wp_current, Attempt.wp_ite, Attempt.wp_refuse,
      Attempt.wp_pure, hr, Bool.false_eq_true, if_false]
    split
    · exact fun _ => h
    · split
      · split
        · rw [wp_onDevice]
          exact Step.wp_any fun _ _ _ _ => h
        · exact fun _ => h
      · exact copyRun_tidy h _ _ _ j

/-! ## 4. Creation -/

/-- The first content of a buffer leaves nothing cleared, unless it could not be given. -/
theorem fillFresh_tidy (h : s.buffer.Tidy) {data : ByteArray} (hdata : data.size = s.buffer.size) :
    (fillFresh data).Ends s fun r t => r = .ok () → t.buffer.Tidy := by
  intro j
  have hupholds := (fillFresh_upholds hdata) j
  unfold fillFresh at hupholds ⊢
  rw [Attempt.wp_bind, Attempt.wp_always, wp_current] at hupholds ⊢
  dsimp only at hupholds ⊢
  rw [Attempt.wp_ite] at hupholds ⊢
  split
  · exact (copyRun_tidy h _ _ _).wp fun r t k ht hr => ht fun hf =>
      absurd hf (Failure.not_failed hr)
  · rename_i hno
    rw [if_neg hno] at hupholds
    cases hm : s.buffer.shadow with
    | none => exact fun _ => h
    | some m =>
      rw [hm] at hupholds
      simp only [Attempt.wp_bind, Attempt.wp_always, wp_change, wp_declareCurrent,
        wp_declareStale] at hupholds ⊢
      exact fun _ => (hupholds.grounded h.toGrounded).tidy (by simp [Buffer.markStale])

theorem openFresh_tidy (h : s.buffer.Tidy) (pin : Bool) (data : Option ByteArray)
    (hdata : ∀ d, data = some d → s.buffer.size ≤ d.size) :
    (openFresh pin data).Ends s fun r t => r = .ok () → t.buffer.Tidy := by
  have hopen : (openStorage pin).Ends s fun r t => r = .ok () →
      t.buffer.Tidy ∧ t.buffer.size = s.buffer.size :=
    ((openStorage_deeds (K := DeedKind.Clean) pin s).and
      (Attempt.Relates.upholds (openStorage_deeds pin) s)).mono fun _ _ ht _ =>
        ⟨ht.1.tidies h, ht.2.size⟩
  refine openFresh_ready hopen (fun _ _ ht => ht.1) fun d t hsome ht => ?_
  have hsize : (Bytes.take d t.buffer.size).size = t.buffer.size := by
    rw [Bytes.size_take, ht.2]
    exact Nat.min_eq_left (hdata d hsome)
  exact fillFresh_tidy ht.1 hsize

end Site

/-- A new buffer is tidy. -/
theorem Machine.create_tidy [Device δ] (m : Machine δ) (request : BufferRequest)
    (data : Option ByteArray) (settings : Settings) :
    (create request data settings).Ends m fun r _ => ∀ b, r = .ok b → b.Tidy := by
  refine create_opened (R := fun b _ => b.Tidy) fun hfault backend objectAllowed _ _ => ?_
  have hsize : (m.freshBuffer (request.granted settings) backend objectAllowed
      settings).buffer.size = request.size := size_granted request settings
  refine Site.openFresh_tidy ⟨(Buffer.fresh_anchored _ _ _ _ _ _).toGrounded, fun _ hs => ?_⟩ _ data
    fun d hd => ?_
  · exact absurd (Location.apart.2.2.2.1.symm.trans hs) Bool.false_ne_true
  · rw [hsize]
    exact size_le_of_fault? hfault d hd

/-! ## 5. Buffers that operations lead to -/

/-- The operation copies a run into the buffer, from the host or from an object. -/
def Operation.copies : Operation → Bool
  | .store .. | .upload .. => true
  | _ => false

open Site in
/-- **Every complete operation keeps a buffer tidy**, whichever calls of the device fail; a copy
    that fails does so where runs are read whole or not at all. -/
theorem Operation.perform_tidy [Device δ] {s : Site δ} (h : s.buffer.Tidy) (op : Operation) :
    op.perform.Ends s fun r t =>
      (op.copies = true → (∃ f, r = .error f) → ReadsWhole δ) → t.buffer.Tidy := by
  have hclean (hp : op.Permitted DeedKind.Clean) : op.perform.Ends s fun _ t => t.buffer.Tidy :=
    (op.perform_deeds hp s).mono fun _ _ ht => ht.tidies h
  have hthen {a : Attempt (Site δ) Unit} (hcopies : op.copies = true)
      (ha : a.Ends s fun r t => ((∃ f, r = .error f) → ReadsWhole δ) → t.buffer.Tidy) :
      (a >>= fun _ => pure none : Attempt (Site δ) (Option ByteArray)).Ends s fun r t =>
        (op.copies = true → (∃ f, r = .error f) → ReadsWhole δ) → t.buffer.Tidy := fun j => by
    rw [Attempt.wp_bind]
    refine ha.wp fun r t k ht => ?_
    cases r with
    | ok _ => exact fun _ => ht fun hf => absurd hf (Failure.not_failed rfl)
    | error f => exact fun hwhole => ht fun _ => hwhole hcopies ⟨f, rfl⟩
  cases op with
  | write offset data flags =>
    exact ((write_tidy h offset data flags).answering fun _ => none).mono fun _ _ ht _ => ht
  | move offset sourceOffset size =>
    exact ((moveRun_tidy h offset sourceOffset size).answering fun _ => none).mono
      fun _ _ ht _ => ht
  | store offset data => exact hthen rfl (copyRun_tidy h offset _ _)
  | upload u offset size => exact hthen rfl (applyUpload_tidy h u offset size)
  | read | content | refresh | keepShadow | draw | vacate | dropObject =>
    exact (hclean trivial).mono fun _ _ ht _ => ht

/-- **A buffer that was created, and that complete operations were performed on**, each of them on
    some device in some state. Any of them may have failed, and so may any call of any device, after
    it moved some of the bytes. But host memory did not run out, and a copy that failed left what it
    was to fill alone: an operation that fails leaves the content. -/
inductive Buffer.Reached : Buffer → Prop where
  | created {δ : Type} [Device δ] {request : BufferRequest} {data : Option ByteArray}
      {settings : Settings} {m x : Machine δ} {b : Buffer} {j k : Journal}
      (h : (Machine.create request data settings).run m j = ((.ok b, x), k)) : Reached b
  | performed {δ : Type} [Device δ] [LendsFreely δ] {s t : Site δ} {op : Operation}
      {r : Except Failure (Option ByteArray)} {j k : Journal} (past : Reached s.buffer)
      (whole : op.copies = true → (∃ f, r = .error f) → ReadsWhole δ)
      (h : op.perform.run s j = ((r, t), k)) : Reached t.buffer

namespace Buffer.Reached

variable {b : Buffer}

/-- **Every buffer that operations lead to is anchored**, -/
theorem anchored (h : b.Reached) : b.Anchored := by
  induction h with
  | created h => exact (Machine.create_anchored _ _ _ _).of_run h _ rfl
  | performed past whole h ih => exact (Operation.perform_anchored ih _).of_run h

/-- **and tidy.** -/
theorem tidy (h : b.Reached) : b.Tidy := by
  induction h with
  | created h => exact (Machine.create_tidy _ _ _ _).of_run h _ rfl
  | performed past whole h ih => exact (Operation.perform_tidy ih _).of_run h whole

end Buffer.Reached

/-- A run of operations leads to its buffer. -/
theorem Run.reached {m : Machine MemoryDevice} {request : BufferRequest} {data : Option ByteArray}
    {settings : Settings} {past : List Happening} {s : Site MemoryDevice}
    (h : Run m request data settings past s) : s.buffer.Reached := by
  induction h with
  | created h => exact .created h
  | meanwhile _ h ih => exact h.buffer ▸ ih
  | performed _ _ h ih => exact .performed ih (fun _ _ => inferInstance) h

end BufferCoherence
