import BufferCoherence.Proofs.Deeds

/-!
# Operations, deed by deed

One lemma for each definition says which layer of deeds it belongs to, whatever the device answers
and whether it fails or not.

* A copy made current may bring an object, and an object that is given up is not followed by another
  one: an operation that does both has two **phases** (`Site.Phases`), and what it makes it makes in
  the first one.
* Where the order does not matter, the phases are one sequence of deeds (`Site.Phases.deeds`).
-/

namespace BufferCoherence

variable {δ α β : Type}

open DeedKind (InPlace Loads Unloads Holds Opens Closes Maps)

/-! ## 1. Phases -/

namespace Site

variable [Device δ] {s t u : Site δ} {K L : DeedKind → Prop}

/-- Deeds of the kinds `K`, and after them deeds of the kinds `L`. -/
def Phases (K L : DeedKind → Prop) (s t : Site δ) : Prop := ∃ u, Deeds K s u ∧ Deeds L u t

namespace Phases

theorem first (h : Deeds K s t) : Phases K L s t := ⟨t, h, .here⟩

theorem last (h : Deeds L s t) : Phases K L s t := ⟨s, .here, h⟩

theorem before (h : Deeds K s t) (h' : Phases K L t u) : Phases K L s u := by
  obtain ⟨v, hv, hu⟩ := h'
  exact ⟨v, h.trans hv, hu⟩

theorem after (h : Phases K L s t) (h' : Deeds L t u) : Phases K L s u := by
  obtain ⟨v, hv, ht⟩ := h
  exact ⟨v, hv, ht.trans h'⟩

theorem deeds (h : Phases K K s t) : Deeds K s t := by
  obtain ⟨u, hu, ht⟩ := h
  exact hu.trans ht

end Phases

end Site

section Relates

open Site

variable [Device δ] {K L : DeedKind → Prop}

namespace Step.Relates

variable {p : Step (Site δ) α} {f : α → Step (Site δ) β}

theorem first (h : p.Relates (Deeds K)) : p.Relates (Phases K L) := h.mono fun _ _ => .first

theorem last (h : p.Relates (Deeds L)) : p.Relates (Phases K L) := h.mono fun _ _ => .last

theorem before (hp : p.Relates (Deeds K)) (hf : ∀ a, (f a).Relates (Phases K L)) :
    Step.Relates (Phases K L) (p >>= f) := .compose hp hf fun _ _ _ => Phases.before

theorem after (hp : p.Relates (Phases K L)) (hf : ∀ a, (f a).Relates (Deeds L)) :
    Step.Relates (Phases K L) (p >>= f) := .compose hp hf fun _ _ _ => Phases.after

theorem deeds (h : p.Relates (Phases K K)) : p.Relates (Deeds K) := h.mono fun _ _ => Phases.deeds

end Step.Relates

namespace Attempt.Relates

variable {a : Attempt (Site δ) α} {f : α → Attempt (Site δ) β}

theorem first (h : a.Relates (Deeds K)) : a.Relates (Phases K L) := h.mono fun _ _ => .first

theorem last (h : a.Relates (Deeds L)) : a.Relates (Phases K L) := h.mono fun _ _ => .last

theorem before (ha : a.Relates (Deeds K)) (hf : ∀ v, (f v).Relates (Phases K L)) :
    Attempt.Relates (Phases K L) (a >>= f) :=
  .compose ha hf (fun _ _ => .first) fun _ _ _ => Phases.before

theorem after (ha : a.Relates (Phases K L)) (hf : ∀ v, (f v).Relates (Deeds L)) :
    Attempt.Relates (Phases K L) (a >>= f) :=
  .compose ha hf (fun _ _ h => h) fun _ _ _ => Phases.after

theorem deeds (h : a.Relates (Phases K K)) : a.Relates (Deeds K) :=
  h.mono fun _ _ => Phases.deeds

end Attempt.Relates

end Relates

namespace Site

variable [Device δ] {s t : Site δ} {K L : DeedKind → Prop} {k : DeedKind}

/-! ## 2. A copy made current -/

section Loads

variable [Loads K]

/-- An object is made for a buffer that may have one and has none. -/
theorem newObject_deeds (request : ObjectRequest) (s : Site δ)
    (allowed : s.buffer.objectAllowed = true) (bare : s.buffer.object = none) :
    (newObject request).Ends s fun _ t => Deeds K s t := by
  intro j
  unfold newObject
  simp only [Attempt.wp_bind, wp_tryDevice, Attempt.wp_always, wp_current, wp_adoptObject,
    Attempt.wp_note]
  refine Attempt.Ends.wp_run (P := fun _ _ => True) (fun _ => trivial) fun r d k hrun _ => ?_
  cases r with
  | error f => exact .one Loads.make (.refused allowed hrun)
  | ok a => exact .one Loads.make (.made allowed bare hrun rfl)

theorem reserveObject_deeds : (reserveObject : Step (Site δ) Bool).Relates (Deeds K) := by
  intro s j
  unfold reserveObject
  simp only [Step.wp_bind, wp_current]
  split
  · exact .here
  · simp only [Step.wp_ite, Step.wp_pure, Step.wp_bind, Step.wp_note, Step.wp_noteAll,
      Attempt.wp_outcome]
    split
    · exact .here
    · rename_i hobj
      split
      · exact .here
      · rename_i hallowed
        have bare : s.buffer.object = none := by simpa using hobj
        have allowed : s.buffer.objectAllowed = true := by simpa using hallowed
        refine (newObject_deeds (K := K) _ s allowed bare).wp fun r t k ht => ?_
        cases r with
        | ok _ =>
          simp only [Step.wp_bind, wp_change, Step.wp_pure]
          exact ht.trans (.one InPlace.book (.entered .restarted))
        | error f =>
          simp only [Step.wp_bind, Step.wp_pure]
          exact (objectRefused_deeds f t).wp fun _ u l hu => ht.trans hu

theorem releaseShadow_deeds : (releaseShadow : Step (Site δ) Unit).Relates (Deeds K) := by
  intro s j
  unfold releaseShadow
  rw [Step.wp_bind, wp_current, Step.wp_ite]
  split
  · rename_i hif
    have hsteady : s.buffer.isDynamic = false := by
      simpa using (Bool.and_eq_true_iff.mp hif).2
    refine giveUpShadow_gone Loads.release s
      (fun b loose stale husage => .released loose ?_ stale) j
    unfold Buffer.isDynamic at hsteady ⊢
    rw [husage]
    exact hsteady
  · exact .here

theorem refreshObject_deeds : (refreshObject : Attempt (Site δ) Unit).Relates (Deeds K) :=
  refreshWith_deeds (P := fun _ => True) (by decide) (by simp)
    (fun s _ => (reserveObject_deeds s).mono fun _ _ ht => ⟨ht, fun _ => trivial⟩)
    (fun s _ => (loadObject_deeds s).mono fun _ _ ht => ⟨ht, fun _ hs => absurd hs (by decide)⟩)
    releaseShadow_deeds

theorem refreshCopy_deeds (l : Location) :
    (refreshCopy l : Attempt (Site δ) Unit).Relates (Deeds K) :=
  .bind (.always current_deeds) fun _ => .ite (.refuse _ _)
    (.ite refreshShadow_deeds refreshObject_deeds)

theorem refreshSomewhere_deeds : (refreshSomewhere : Attempt (Site δ) Unit).Relates (Deeds K) := by
  refine .bind (.always current_deeds) fun b => .ite refreshShadow_deeds
    (.bind (.always (.outcome refreshObject_deeds)) fun r => ?_)
  split
  · exact .pure _
  · exact .bind (.always current_deeds) fun _ => .ite (.throw _) refreshShadow_deeds

/-- The authoritative copy is where the buffer says that its bytes are. -/
theorem authoritative_address (s : Site δ) : authoritative.Ends s fun r t =>
    Deeds K s t ∧ ∀ a, r = .ok a → t.buffer.address? = some a := by
  have haddress (t : Site δ) (ht : Deeds K s t) (j : Journal) : currentAddress.wp t j fun r u _ =>
      Deeds K s u ∧ ∀ a, r = .ok a → u.buffer.address? = some a := by
    unfold currentAddress
    simp only [Attempt.wp_bind, Attempt.wp_always, wp_current]
    split
    · rename_i a ha
      refine ⟨ht, fun a' h => ?_⟩
      cases h
      exact ha
    · exact ⟨ht, fun a' h => absurd h (Failure.ne_ok _ _)⟩
  intro j
  rw [authoritative_eq]
  simp only [Attempt.wp_bind, Attempt.wp_always, wp_current, Attempt.wp_ite]
  split
  · refine (refreshSomewhere_deeds (K := K) s).wp fun r t k ht => ?_
    cases r with
    | ok _ => exact haddress t ht k
    | error f => exact ⟨ht, fun a h => absurd h (Failure.ne_ok _ _)⟩
  · exact haddress s .here j

theorem authoritative_deeds : (authoritative : Attempt (Site δ) Address).Relates (Deeds K) :=
  fun s => (authoritative_address (K := K) s).mono fun _ _ ht => ht.1

/-- What is done with the authoritative copy. -/
theorem authoritative_bind {f : Address → Attempt (Site δ) α}
    (hf : ∀ a t, t.buffer.address? = some a → (f a).Ends t fun _ u => Deeds K t u) :
    (authoritative >>= f).Relates (Deeds K) := by
  intro s j
  rw [Attempt.wp_bind]
  refine (authoritative_address (K := K) s).wp fun r t k hpost => ?_
  obtain ⟨ht, haddress⟩ := hpost
  cases r with
  | error e => exact ht
  | ok a => exact (hf a t (haddress a rfl)).wp fun r u l hu => ht.trans hu

/-- All of the object is read back. -/
theorem content_deeds : (content : Attempt (Site δ) ByteArray).Relates (Deeds K) := by
  refine .bind authoritative_deeds fun a => ?_
  cases a with
  | shadow => exact shadowBytes_deeds
  | object handle offset =>
    intro s j
    simp only [Attempt.wp_bind, Attempt.wp_always, wp_current, wp_onDevice, Attempt.wp_answer]
    refine Step.wp.mono (P := fun _ d _ => Deeds K s { s with machine.device := d })
      (.one InPlace.load (.readBack _ _ _ j)) fun reply d k hd => ?_
    cases reply.outcome with
    | ok _ => exact hd
    | error _ => exact hd

theorem runSource_deeds (offset size : Nat) :
    (runSource offset size : Attempt (Site δ) TransferSource).Relates (Deeds K) := by
  refine .bind authoritative_deeds fun a => ?_
  split
  · exact .pure _
  · exact .bind shadowBytes_deeds fun _ => .pure _

omit [Loads K] in
/-- Cleared content that is written is not cleared any more, wherever it is. -/
theorem written_deeds (a : Address) {offset size : Nat} (hreport : K (.report offset size)) :
    (declareStaleIn (Location.all \ a.location) offset size : Step (Site δ) Unit).Relates
      (Deeds K) := by
  cases a with
  | shadow => exact declareStaleIn_deeds hreport (by decide)
  | object h base =>
    exact declareStaleIn_deeds (l := Location.all \ Location.gpuObject) hreport (by decide)

theorem copyRun_deeds {offset size : Nat} (source : TransferSource) (hcopy : K (.copy size))
    (hreport : K (.report offset size)) :
    (copyRun offset source size : Attempt (Site δ) Unit).Relates (Deeds K) := by
  refine .bind (requireRun_deeds _ _) fun _ => .bind (.always current_deeds) fun _ =>
    authoritative_bind fun a t ha => ?_
  have hstale := written_deeds (δ := δ) a hreport
  cases a with
  | object handle base =>
    obtain ⟨o, ho, rfl, -⟩ := Buffer.object_of_address? ha
    exact Attempt.Relates.bind_at (fillObject_deeds hcopy fun j => .stored ho _ _ _ _ j)
      fun _ => .always hstale
  | shadow =>
    exact Attempt.Relates.bind_at (fillShadow_deeds hcopy hcopy
      (fun data j => .gathered data _ _ _ j) fun _ _ => .copied _)
      fun _ => .always hstale

omit [Loads K] in
theorem moveInShadow_deeds (offset sourceOffset : Nat) {size : Nat} (hcopy : K (.copy size)) :
    (moveInShadow offset sourceOffset size : Attempt (Site δ) Unit).Relates (Deeds K) := by
  intro s j
  unfold moveInShadow
  simp only [Attempt.wp_bind, Attempt.wp_always, wp_current]
  cases hm : s.buffer.shadow with
  | none => exact .here
  | some m =>
    simp only [Attempt.wp_always, wp_change]
    exact .one hcopy (.entered (.copied _ hm (Bytes.size_splice _ _ _)))

theorem moveRun_deeds {offset size : Nat} (sourceOffset : Nat) (hcopy : K (.copy size))
    (hreport : K (.report offset size)) :
    (moveRun offset sourceOffset size : Attempt (Site δ) Unit).Relates (Deeds K) := by
  refine .bind (requireRun_deeds _ _) fun _ => .bind (requireRun_deeds _ _) fun _ =>
    authoritative_bind fun a t ha => ?_
  have hstale := written_deeds (δ := δ) a hreport
  cases a with
  | object handle base =>
    obtain ⟨o, ho, rfl, -⟩ := Buffer.object_of_address? ha
    exact Attempt.Relates.bind_at (fillObject_deeds hcopy fun j => .stored ho _ _ _ _ j)
      fun _ => .always hstale
  | shadow =>
    exact Attempt.Relates.bind_at (moveInShadow_deeds _ _ hcopy t) fun _ => .always hstale

theorem applyUpload_deeds {upload : Upload} {offset size : Nat}
    (hrename : upload.rename = true → K (.rename upload.placement.handle))
    (hcopy : upload.rename = false → K (.copy size) ∧ K (.report offset size)) :
    (applyUpload upload offset size : Attempt (Site δ) Unit).Relates (Deeds K) := by
  cases hr : upload.rename with
  | true =>
    intro s
    refine (applyUpload_replaces (K := K) hr s).mono fun _ t ht => ?_
    split at ht
    · obtain ⟨u, hu, ht⟩ := ht
      exact .trans (Deeds.one (hrename hr) hu) ht
    · rw [ht]
      exact .here
  | false =>
    unfold applyUpload
    rw [hr]
    exact .bind (requireRun_deeds _ _) fun _ => .bind (.always current_deeds) fun _ => .ite
      (flushUpload_deeds _ _ _) (copyRun_deeds _ (hcopy hr).1 (hcopy hr).2)

theorem fillFresh_deeds {data : ByteArray} (hseed : K .seed) (hcopy : K (.copy data.size))
    (hreport : K (.report 0 data.size)) :
    (fillFresh data : Attempt (Site δ) Unit).Relates (Deeds K) := by
  refine .bind (.always current_deeds) fun b => .ite (copyRun_deeds _ hcopy hreport) ?_
  split
  · exact .refuse _ _
  · exact .bind (.always (entered_deeds hseed fun _ => .seeded data)) fun _ =>
      .bind (.always fun s j => by
        rw [wp_declareCurrent]
        exact .one hseed (.entered .sown)) fun _ => .always (declareStale_deeds (by decide))

theorem loadPending_deeds : (loadPending : Step (Site δ) Unit).Relates (Deeds K) := by
  refine .bind (.outcome refreshObject_deeds) fun r => ?_
  split
  · exact .pure _
  · exact .bind current_deeds fun _ => .note _

theorem reload_deeds : (reload : Step (Site δ) Unit).Relates (Deeds K) := by
  refine .bind current_deeds fun b => .bind (.note _) fun _ =>
    .bind (.outcome refreshShadow_deeds) fun r => ?_
  split
  · exact .bind (declareStale_deeds (by decide)) fun _ => loadPending_deeds
  · exact .note _

theorem discardIntoObject_deeds : (discardIntoObject : Attempt (Site δ) Unit).Relates (Deeds K) :=
  .bind (.always reserveObject_deeds) fun _ =>
    .ite (.always declareObject_deeds) (.throw _)

theorem readyObject_deeds (flags : MapFlags) :
    (readyObject flags : Attempt (Site δ) Unit).Relates (Deeds K) :=
  .ite discardIntoObject_deeds refreshObject_deeds

end Loads

/-! ## 3. The object given up -/

section Unloads

variable [Unloads K]

/-- The object goes back where no capture into it is left. -/
theorem freeObject_deeds (s : Site δ) (settled : ∀ o, s.buffer.object = some o →
      s.buffer.backend.kind = .legacy → s.buffer.bind.has BindFlags.streamOutput = true →
        Device.captureActive s.machine.device o.handle = true →
          ∃ f i, s.machine.device = (Device.endCapture f i).1.2) :
    freeObject.Ends s fun _ t => Deeds K s t := by
  intro j
  unfold freeObject takeObject
  simp only [Step.wp_bind, Step.wp_get]
  cases hobj : s.buffer.object with
  | none => exact .here
  | some o =>
    simp only [Step.wp_bind, Step.wp_set, Step.wp_pure, wp_onDevice]
    exact .one Unloads.free (.freed hobj (settled o hobj) j)

theorem removeObject_deeds : (removeObject : Step (Site δ) Unit).Relates (Deeds K) := by
  intro s j
  unfold removeObject
  simp only [Step.wp_bind, wp_current]
  cases hb : s.buffer.backend with
  | noObject => exact .here
  | legacy target =>
    cases hobj : s.buffer.object with
    | none => exact .here
    | some o =>
      simp only [Step.wp_bind]
      refine (endCaptureInto_deeds (K := K) o.handle s).wp fun _ t k ht => ?_
      obtain ⟨ht, hbuffer, hover⟩ := ht
      refine (freeObject_deeds t fun p hp _ hbind hactive => ?_).wp fun _ u l hu => ht.trans hu
      rw [hbuffer, hobj] at hp
      cases hp
      rw [hbuffer] at hbind
      exact hover hbind hactive
  | modern tracker =>
    refine freeObject_deeds s (fun o _ hkind => ?_) j
    rw [hb] at hkind
    cases hkind

theorem vacate_deeds : (vacate : Step (Site δ) Unit).Relates (Deeds K) :=
  .bind current_deeds fun _ => .ite (.bind saveContent_deeds fun _ =>
    .bind (declareStale_deeds (by decide)) fun _ => .bind removeObject_deeds fun _ =>
      entered_deeds InPlace.book fun _ => .vacated) (.pure _)

theorem dropObject_deeds : (dropObject : Step (Site δ) Unit).Relates (Deeds K) :=
  .bind (entered_deeds InPlace.book fun _ => .forbidden) fun _ => vacate_deeds

end Unloads

/-! ## 4. Draws -/

section Draws

variable [Loads K] [Unloads L]

theorem loadChanged_phases : (loadChanged : Step (Site δ) Unit).Relates (Phases K L) :=
  .before (countEvent_deeds _) fun _ => .before current_deeds fun _ =>
    .ite (.last (.bind (.note _) fun _ => dropObject_deeds)) (.first reload_deeds)

theorem loadDirty_phases : (loadDirty : Step (Site δ) Unit).Relates (Phases K L) :=
  .before current_deeds fun _ => .ite
    (.before (countEvent_deeds _) fun _ => .ite
      (.last (.bind (.note _) fun _ => dropObject_deeds)) (.first loadPending_deeds))
    (.first (.bind countQuietDraw_deeds fun _ => loadPending_deeds))

theorem loadPrepared_phases (hanalyse : K .analyse) (draw : Option Draw) :
    (loadPrepared draw : Step (Site δ) Unit).Relates (Phases K L) := by
  have hrest (changed : Bool) : Step.Relates (Phases K L) (do
      let b ← current
      if changed then loadChanged
      else if b.dirty.isPending then loadDirty
      else countQuietDraw : Step (Site δ) Unit) :=
    .before current_deeds fun _ =>
      .ite loadChanged_phases (.ite loadDirty_phases (.first countQuietDraw_deeds))
  have hlayout (d : Draw) : (analyseLayout d : Step (Site δ) Bool).Relates (Deeds K) :=
    .bind .get fun _ => .bind (.noteAll _) fun _ =>
      .bind (entered_deeds hanalyse fun _ => .analysed _) fun _ => .pure _
  unfold loadPrepared
  cases draw with
  | some d => exact .before (hlayout d) hrest
  | none => exact hrest false

/-- **A draw that gives the object up makes no other one.** -/
theorem readyForDraw_phases (hanalyse : K .analyse) (draw : Option Draw) :
    (readyForDraw draw : Step (Site δ) Unit).Relates (Phases K L) := by
  have hrest (b : Buffer) : Step.Relates (Phases K L)
      (if b.objectAllowed then do
        if ← reserveObject then loadPrepared draw else note (.prepareFailed b.id)
      else pure () : Step (Site δ) Unit) :=
    .ite (.before reserveObject_deeds fun _ =>
      .ite (loadPrepared_phases hanalyse draw) (.first (.note _))) (.first (.pure _))
  exact .before current_deeds fun b => .ite (.first (.note _))
    (.ite (.before (.note _) fun _ => hrest b) (hrest b))

end Draws

/-! ## 5. Mappings -/

section Holds

variable [Holds K]

theorem count_deeds (f : Nat → Nat) :
    (change fun b => { b with mapCount := f b.mapCount } : Step (Site δ) Unit).Relates (Deeds K) :=
  entered_deeds Holds.hold fun b => .held (f b.mapCount) b.mapBase

theorem base_deeds (base : Option MapBase) :
    (change fun b => { b with mapBase := base } : Step (Site δ) Unit).Relates (Deeds K) :=
  entered_deeds Holds.hold fun b => .held b.mapCount base

theorem flushMapping_deeds : (flushMapping : Step (Site δ) Unit).Relates (Deeds K) := by
  have hclear : (change fun b => { b with dirty := b.dirty.clear } :
      Step (Site δ) Unit).Relates (Deeds K) := entered_deeds InPlace.book fun _ => .flushed
  refine .bind current_deeds fun b => .ite (.bind (base_deeds none) fun _ => ?_) (.pure _)
  split
  · exact .bind (closeMapping_deeds _ _) fun _ => hclear
  · exact hclear

theorem unmap_deeds : (unmap : Step (Site δ) Unit).Relates (Deeds K) :=
  .bind current_deeds fun _ => .ite (.note _) (.bind (count_deeds (· - 1)) fun _ =>
    .ite (.note _) flushMapping_deeds)

theorem dropMapping_deeds : (dropMapping : Step (Site δ) Unit).Relates (Deeds K) := by
  refine .bind current_deeds fun b => .bind (base_deeds none) fun _ => ?_
  split
  · exact closeMapping_deeds _ _
  · exact .pure _

end Holds

section Maps

variable [Opens K] [Closes L] {flags : MapFlags} {dirty : ByteRange}

theorem mapWithoutObject_phases (handle : ObjectHandle)
    (hreport : flags.has MapFlags.write = true → K (.report dirty.offset dirty.size)) :
    (mapWithoutObject handle flags dirty : Attempt (Site δ) Unit).Relates (Phases K L) :=
  .before (.always current_deeds) fun _ => .before (.note _) fun _ =>
    .before (.always (closeMapping_deeds _ _)) fun _ => .before (.always (base_deeds none)) fun _ =>
      .ite (.last (.bind (.note _) fun _ => .always dropObject_deeds))
        (.first (.bind (.note _) fun _ => pinned_deeds fun _ =>
          claimStale_deeds _ (by decide) hreport))

theorem openMapping_phases
    (hreport : flags.has MapFlags.write = true → K (.report dirty.offset dirty.size)) :
    (openMapping flags dirty : Attempt (Site δ) Unit).Relates (Phases K L) := by
  have hopen (o : BufferObject) (b : Buffer) : Attempt.Relates (Deeds K)
      (tryDevice (Device.openMapping o.handle o.offset b.size flags) : Attempt (Site δ) Nat) :=
    fun _ j => .one InPlace.call (.opened _ _ _ _ j)
  refine .before (.always current_deeds) fun b => ?_
  split
  · exact .first (.refuse _ _)
  · exact .before (hopen _ _) fun _ => .ite (.first (.always (base_deeds _)))
      (mapWithoutObject_phases _ hreport)

theorem openClaimed_phases
    (hreport : flags.has MapFlags.write = true → K (.report dirty.offset dirty.size)) :
    (openClaimed flags dirty : Attempt (Site δ) Unit).Relates (Phases K L) := by
  have hopen (b : Buffer) : Attempt.Relates (Phases K L)
      (if b.mapCount == 1 then openMapping flags dirty else pure () : Attempt (Site δ) Unit) :=
    .ite (openMapping_phases hreport) (.first (.pure _))
  have hgone : (giveUpShadow : Step (Site δ) Unit).Relates (Deeds K) := fun s =>
    giveUpShadow_gone Opens.discard s fun _ loose stale _ => .discarded loose stale
  exact .before (.always (claimObject_deeds hreport)) fun _ =>
    .before (.always current_deeds) fun b =>
      .ite (.before (.always hgone) fun _ => hopen b) (hopen b)

theorem openObject_phases
    (hreport : flags.has MapFlags.write = true → K (.report dirty.offset dirty.size)) :
    (openObject flags dirty : Attempt (Site δ) Unit).Relates (Phases K L) := by
  rw [openObject_eq]
  exact .before (readyObject_deeds _) fun _ => openClaimed_phases hreport

/-- **A mapping that gives the object up makes no other one.** What is mapped for writing is reported,
    or the whole buffer is. -/
theorem map_phases {offset size : Nat}
    (hreport : flags.has MapFlags.write = true → K (.report offset size)) :
    (map offset size flags : Attempt (Site δ) Mapping).Relates (Phases K L) := by
  have hreported (hw : flags.has MapFlags.write = true) :
      let dirty : ByteRange := if flags.has MapFlags.discard then ⟨0, 0⟩ else ⟨offset, size⟩
      K (.report dirty.offset dirty.size) := by
    dsimp only
    split
    · exact InPlace.report
    · exact hreport hw
  have hprepared : (mapPrepared offset size flags : Attempt (Site δ) Mapping).Relates
      (Phases K L) := by
    rw [mapPrepared_eq]
    exact .before (.always current_deeds) fun _ => .ite
      (.first (.bind (openShadow_deeds hreported) fun _ => handOut_deeds _ _))
      (.after (openObject_phases hreported) fun _ => handOut_deeds _ _)
  refine .before (.always current_deeds) fun b => .ite (.first (.refuse _ _))
    (.before (.always (count_deeds (· + 1))) fun _ =>
      .after (.always (.outcome hprepared)) fun r => ?_)
  split
  · exact .pure _
  · exact .bind (.always (count_deeds (· - 1))) fun _ => .throw _

omit [Opens K] [Closes L] in
theorem writeMapped_deeds [InPlace K] (hpoke : K .poke) (m : Mapping) (data : ByteArray) :
    (writeMapped m data : Step (Site δ) Unit).Relates (Deeds K) := by
  unfold writeMapped
  split
  · exact rewritten_deeds hpoke fun _ _ hm => .poked hm (Bytes.size_splice _ _ _)
  · exact fun _ _ => .one hpoke (.poked _ _ _)

theorem write_phases {offset : Nat} {data : ByteArray} (hpoke : L .poke)
    (hreport : K (.report offset data.size)) :
    (write offset data flags : Attempt (Site δ) Unit).Relates (Phases K L) :=
  .after (map_phases fun _ => hreport) fun m => .bind (.always (writeMapped_deeds hpoke m data))
    fun _ => .always unmap_deeds

/-- A mapping for reading reports nothing. -/
theorem read_phases (offset size : Nat) :
    (read offset size : Attempt (Site δ) ByteArray).Relates (Phases K L) :=
  .after (map_phases fun hw => absurd hw (by decide)) fun _ => .bind .get fun _ =>
    .bind (.always unmap_deeds) fun _ => .pure _

end Maps

/-! ## 6. Users -/

section Users

variable (husers : K .users)

include husers

theorem changeUsers_deeds (f : UserTable → UserTable) :
    (changeUsers f : Step (Site δ) Unit).Relates (Deeds K) := fun _ _ => .one husers (.users rfl _)

theorem enlistUser_deeds (u : UserId) : (enlistUser u : Step (Site δ) Bool).Relates (Deeds K) := by
  intro s j
  unfold enlistUser
  simp only [Step.wp_bind, Step.wp_get]
  cases hobj : s.buffer.object with
  | none => exact .here
  | some o =>
    refine .one husers (.users ?_ _)
    rw [hobj]
    exact congrArg some (placement_enlist o s.machine.users u).1

theorem delistUser_deeds (u : UserId) : (delistUser u : Step (Site δ) Unit).Relates (Deeds K) := by
  intro s j
  unfold delistUser
  simp only [Step.wp_bind, Step.wp_get]
  cases hobj : s.buffer.object with
  | none => exact .here
  | some o =>
    refine .one husers (.users ?_ _)
    rw [hobj]
    unfold BufferObject.delist
    split
    · split
      · rfl
      · rfl
    · rfl

theorem objectInfo_deeds : (objectInfo : Step (Site δ) (Option ObjectView)).Relates (Deeds K) := by
  intro s j
  unfold objectInfo
  simp only [Step.wp_bind, Step.wp_get]
  split
  · split
    · exact .here
    · exact .one husers (.users rfl _)
  · exact .here

theorem abandon_deeds : (abandon : Step (Site δ) Unit).Relates (Deeds K) := by
  refine .bind current_deeds fun b => ?_
  split
  · exact .bind (.note _) fun _ => changeUsers_deeds husers _
  · exact changeUsers_deeds husers _

theorem destroy_deeds [Closes K] : (destroy : Step (Site δ) Unit).Relates (Deeds K) :=
  .bind current_deeds fun _ => .bind (.note _) fun _ => .bind dropMapping_deeds fun _ =>
    .bind removeObject_deeds fun _ => abandon_deeds husers

/-- A new buffer is opened, with its first content where there is some. -/
theorem openFresh_deeds [Maps K] (hseed : K .seed) (hcopy : ∀ size, K (.copy size))
    (hreport : ∀ size, K (.report 0 size)) (pin : Bool) (data : Option ByteArray) :
    (openFresh pin data : Attempt (Site δ) Unit).Relates (Deeds K) := by
  refine .bind (.always (.outcome (openStorage_deeds pin))) fun r => ?_
  split
  · exact .bind (.always (abandon_deeds husers)) fun _ => .throw _
  · split
    · exact .pure _
    · refine .bind (.always current_deeds) fun b =>
        .bind (.always (.outcome (fillFresh_deeds hseed (hcopy _) (hreport _)))) fun r => ?_
      split
      · exact .pure _
      · exact .bind (.always (destroy_deeds husers)) fun _ => .throw _

end Users

end Site

end BufferCoherence
