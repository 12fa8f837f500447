import BufferCoherence.Proofs.Readable

/-!
# Bytes copied into an idle buffer

Every way to copy bytes into a buffer: from the host, from a run of the buffer itself, from an
upload object. Each one changes the content by a splice, or fails and leaves it.

* `copyRun_ends`, `moveRun_ends`: the content afterwards is the splice of what the source held
  BEFORE the copy, also where the source is a run of the buffer itself;
* `runSource_ends`: a run of another buffer is a source of what its content holds there;
* `takeOver_ends`: a renamed buffer has the content of the object that was handed in.
-/

namespace BufferCoherence

/-! ## 1. Content written to one copy -/

variable {k : Bool} {c c' : ByteArray} {v : Copies}

/-- Bytes written to the object, which is then the only current copy. -/
theorem Settled.storedInObject (h : Settled k c v) (hg : v.locations.has Location.gpuObject = true)
    (hsize : c'.size = c.size) (offset size : Nat) : Settled k c'
      ({ v with held := some c' }.markStale (Location.all \ Location.gpuObject) offset size) := by
  have hmark :
      { v with held := some c' }.markStale (Location.all \ Location.gpuObject) offset size =
      { v with
        held := some c'
        locations := v.locations \ (Location.all \ Location.gpuObject) } := by
    unfold Copies.markStale
    rw [if_neg (by simp)]
  rw [hmark]
  exact { h with
    size := hsize.trans h.size
    kept := by simp
    somewhere := .inr (.inl (by simp [hg]))
    cleared := fun hc => by simp at hc
    mirrored := fun hs => by simp at hs
    object := fun a ha => by
      obtain ⟨hoff, b, -, -, hroom⟩ := h.object a ha
      exact ⟨hoff, c', rfl, hsize.trans h.size, hroom⟩
    held := fun b hb => by
      cases hb
      exact hsize.trans h.size
    present := fun _ => h.present hg
    current := fun _ _ => rfl
    stale := fun b _ hg' => by simp [hg] at hg'
    complete := fun _ => h.complete hg
    lacking := fun _ hg' => by simp [hg] at hg' }

/-- Bytes written to the shadow, which is then the only current copy: the object lacks the run. -/
theorem Coherent.storedInShadow (h : Coherent k c v) (hs : v.locations.has Location.sysmem = true)
    {offset size : Nat} (hsize : c'.size = c.size)
    (hsame : ∀ i, ¬ (offset ≤ i ∧ i < offset + size) → Bytes.byteAt? c' i = Bytes.byteAt? c i) :
    Settled k c'
      ({ v with shadow := some c' }.markStale (Location.all \ Location.sysmem) offset size) := by
  have hmark : { v with shadow := some c' }.markStale (Location.all \ Location.sysmem) offset size =
      { v with
        shadow := some c'
        dirty := v.dirty.mark offset size
        locations := v.locations \ (Location.all \ Location.sysmem) } := by
    unfold Copies.markStale
    rw [if_pos (by simp)]
  rw [hmark]
  have hroom := (h.shadow c (h.mirrored hs)).2
  refine { h with
    size := hsize.trans h.size
    spanned := (DirtySpans.size_mark _ _ _).trans h.spanned
    spans := h.spans.mark _ _
    kept := by simp
    somewhere := .inl (by simp [hs])
    shadow := fun m hm => by
      cases hm
      exact ⟨hsize.trans h.size, hroom⟩
    pinned := fun _ => rfl
    cleared := fun hc => by simp at hc
    mirrored := fun _ => rfl
    present := fun hg => by simp at hg
    current := fun hg => by simp at hg
    stale := ?_
    complete := fun hg => by simp at hg
    lacking := fun _ _ _ => DirtySpans.isPending_mark _ _ _ }
  intro b hb _ hk hkind i hi
  by_cases hlt : i < v.size
  · have hd : i < v.dirty.size := by
      rw [h.spanned]
      exact hlt
    rw [hsame i fun hr => hi (DirtySpans.covers_mark hd hr)]
    cases hg : v.locations.has Location.gpuObject with
    | true =>
      rw [Option.some.inj (hb.symm.trans (h.current hg fun hk' => nomatch hk.symm.trans hk'))]
    | false => exact h.stale b hb hg hk hkind i fun hr => hi (hr.mark hd _ _)
  · have hbs : b.size = v.size := h.held b hb
    have hcs : c'.size = v.size := hsize.trans h.size
    rw [Bytes.byteAt?_eq_none_iff.mpr (by omega), Bytes.byteAt?_eq_none_iff.mpr (by omega)]

namespace Site

variable {s t : Site MemoryDevice} {k : Bool} {c : ByteArray} {j : Journal}

/-! ## 2. Runs -/

theorem wp_requireRun (offset size : Nat)
    (Q : Except Failure Unit → Site MemoryDevice → Journal → Prop) :
    (requireRun offset size).wp s j Q ↔
      if offset + size ≤ s.buffer.size then Q (.ok ()) s j
      else Q (.error (.rangeOutside offset size s.buffer.id s.buffer.size)) s
        (j.record (.failed .buffer (.rangeOutside offset size s.buffer.id s.buffer.size))) := by
  unfold requireRun
  simp only [Attempt.wp_bind, Attempt.wp_always, wp_current, Attempt.wp_ite, Attempt.wp_refuse,
    Attempt.wp_pure]
  have hiff : s.buffer.holds offset size = true ↔ offset + size ≤ s.buffer.size := fits_iff
  by_cases hfit : offset + size ≤ s.buffer.size
  · simp only [hiff.mpr hfit, hfit, Bool.not_true, Bool.false_eq_true, if_false, if_true]
  · have hno : s.buffer.holds offset size = false := by
      rw [← Bool.not_eq_true, hiff]
      exact hfit
    simp only [hno, hfit, Bool.not_false, if_true, if_false]

/-- A run copied into the shadow. -/
theorem fillShadow_ends {m : ByteArray} {start size : Nat} (hm : s.buffer.shadow = some m)
    (hfit : start + size ≤ m.size) (source : TransferSource) (flags : MapFlags) :
    (fillShadow start size source flags).Ends s fun r y =>
      (∃ run d, r = .ok () ∧ s.machine.device.firstRun? source size = some run ∧
        s.machine.device.Untouched d ∧ y = { s with
          buffer := { s.buffer with shadow := some (Bytes.splice m start run) }
          machine.device := d }) ∨
      ((∃ f, r = .error f) ∧ s.machine.device.firstRun? source size = none ∧ y = s) := by
  intro j
  have hsize : (m.extract start (start + size)).size = size := by
    rw [ByteArray.size_extract]
    omega
  unfold fillShadow
  simp only [Attempt.wp_bind, Attempt.wp_always, wp_current]
  split
  · rename_i hnone
    cases hm.symm.trans hnone
  · rename_i m' hm'
    cases hm.symm.trans hm'
    simp only [Attempt.wp_bind, Attempt.wp_always, wp_onDevice, wp_change, Attempt.wp_answer]
    refine (MemoryDevice.transfer_host hsize source flags).wp fun reply d j hd => ?_
    rcases hd with ⟨run, hrun, hok, hhost, hd⟩ | ⟨hnone, hf, hhost, hd⟩
    · rw [hhost]
      exact .inl ⟨run, d, hok, hrun, hd, rfl⟩
    · refine .inr ⟨hf, hnone, ?_⟩
      rw [hhost, hd, Bytes.splice_extract m hfit, ← hm]

/-- A run copied into the object that holds the content. -/
theorem fillObject_run {o : BufferObject} {base size : Nat}
    (hc : s.machine.device.bytes? o.handle = some c) (hfit : base + size ≤ c.size)
    (source : TransferSource) (flags : MapFlags) :
    (fillObject o.handle base source [⟨0, size⟩] flags).Ends s fun r y =>
      (∃ run d, r = .ok () ∧ s.machine.device.firstRun? source size = some run ∧
        s.machine.device.Rewrites o.handle (Bytes.splice c base run) d ∧
        y = { s with machine.device := d }) ∨
      ((∃ f, r = .error f) ∧ s.machine.device.firstRun? source size = none ∧ y = s) := by
  intro j
  unfold fillObject
  simp only [Attempt.wp_bind, Attempt.wp_always, wp_onDevice, Attempt.wp_answer]
  refine (MemoryDevice.transfer_into hc hfit source flags).wp fun reply d j hd => ?_
  rcases hd with ⟨run, hrun, hok, hd⟩ | ⟨hnone, hf, hd⟩
  · exact .inl ⟨run, d, hok, hrun, hd, rfl⟩
  · exact .inr ⟨hf, hnone, by rw [hd]⟩

/-- A splice changes bytes of its run alone. -/
theorem splice_same {run : ByteArray} {offset size : Nat} (hrun : run.size = size)
    (hfit : offset + size ≤ c.size) (i : Nat) (hi : ¬ (offset ≤ i ∧ i < offset + size)) :
    Bytes.byteAt? (Bytes.splice c offset run) i = Bytes.byteAt? c i := by
  subst hrun
  rw [Bytes.byteAt?_splice hfit, if_neg hi]

/-- An idle buffer whose object was written to. -/
theorem Idle.wroteObject (hi : Idle c s) {c' : ByteArray} {o : BufferObject} {d : MemoryDevice}
    (ho : s.buffer.object = some o) (hg : s.buffer.locations.has Location.gpuObject = true)
    (hd : s.machine.device.Rewrites o.handle c' d) (hsize : c'.size = c.size) (offset size : Nat) :
    Idle c' { s with
      buffer := s.buffer.markStale (Location.all \ Location.gpuObject) offset size
      machine.device := d } := by
  refine hi.of_settled rfl ?_ id
  show Settled _ c' ((copies { s with machine.device := d }).markStale _ offset size)
  rw [copies_rewrites ho hd]
  exact hi.toSettled.storedInObject hg hsize offset size

/-- An idle buffer whose shadow was written to. -/
theorem Idle.wroteShadow (hi : Idle c s) {c' : ByteArray} {d : MemoryDevice}
    (hs : s.buffer.locations.has Location.sysmem = true) (hd : s.machine.device.Untouched d)
    (hsize : c'.size = c.size) {offset size : Nat}
    (hsame : ∀ i, ¬ (offset ≤ i ∧ i < offset + size) → Bytes.byteAt? c' i = Bytes.byteAt? c i) :
    Idle c' { s with
      buffer := { s.buffer with shadow := some c' }.markStale (Location.all \ Location.sysmem)
        offset size
      machine.device := d } := by
  refine hi.of_settled rfl ?_ id
  have hcopies : copies { s with machine.device := d } = s.copies := copies_untouched hd
  show Settled _ c' (({ copies { s with machine.device := d } with shadow := some c' }).markStale
    _ offset size)
  rw [hcopies]
  exact hi.toCoherent.storedInShadow hs hsize hsame

/-- **A run copied into the buffer**: what the source holds is spliced into the content, or nothing
    happens. It fails only where the run is not there, on either side, or the content cannot be
    read. -/
theorem copyRun_ends (h : Idle c s) {offset size : Nat} {source : TransferSource}
    (hsource : ∀ t, Spares s t → t.machine.device.firstRun? source size =
      s.machine.device.firstRun? source size) :
    (copyRun offset source size).Ends s fun r y => y.frame = s.frame ∧
      ((∃ run, r = .ok () ∧ offset + size ≤ s.buffer.size ∧
          s.machine.device.firstRun? source size = some run ∧ Readable s ∧ Readable y ∧
          Idle (Bytes.splice c offset run) y) ∨
        ((∃ f, r = .error f) ∧ Idle c y ∧ SameReading s y ∧ ¬ (offset + size ≤ s.buffer.size ∧
          (s.machine.device.firstRun? source size).isSome = true ∧ Readable s))) := by
  intro j
  unfold copyRun
  simp only [Attempt.wp_bind, wp_requireRun, Attempt.wp_always, wp_current]
  by_cases hfit : offset + size ≤ s.buffer.size
  · rw [if_pos hfit]
    refine ((authoritative_ends h.toCoherent).and (authoritative_readable h.toCoherent)).wp
      fun r t j hboth => ?_
    obtain ⟨⟨ht, hcase⟩, hsame, hr⟩ := hboth
    have hi := ht.idle h
    have hfit' : offset + size ≤ c.size := by
      rw [h.size]
      exact hfit
    rw [← hsource t ht.spares]
    rcases hcase with ⟨a, rfl, ha⟩ | ⟨⟨f, rfl⟩, -⟩
    · have hs : Readable s := hr.mp ⟨a, rfl⟩
      cases ha with
      | object o ho hg hc hk =>
        simp only [Attempt.wp_bind, Attempt.wp_always, wp_declareStaleIn, Nat.zero_add]
        refine (fillObject_run hc hfit' source _).wp fun r y j hy => ?_
        rcases hy with ⟨run, d, rfl, hrun, hd, rfl⟩ | ⟨⟨f, rfl⟩, hnone, rfl⟩
        · refine ⟨ht.frame, .inl ⟨run, trivial, hfit, hrun, hs, readable_of_written ?_, ?_⟩⟩
          · simp [Buffer.markStale, Address.location]
          · exact hi.wroteObject ho hg hd (Bytes.size_splice _ _ _) offset size
        · refine ⟨ht.frame, .inr ⟨⟨f, rfl⟩, hi, hsame, fun hno => ?_⟩⟩
          rw [hnone] at hno
          cases hno.2.1
      | shadow hs' hc hk =>
        simp only [Attempt.wp_bind, Attempt.wp_always, wp_declareStaleIn]
        refine (fillShadow_ends hc hfit' source _).wp fun r y j hy => ?_
        rcases hy with ⟨run, d, rfl, hrun, hd, rfl⟩ | ⟨⟨f, rfl⟩, hnone, rfl⟩
        · refine ⟨ht.frame, .inl ⟨run, trivial, hfit, hrun, hs, readable_of_written ?_, ?_⟩⟩
          · simp [Buffer.markStale, Address.location]
          · exact hi.wroteShadow hs' hd (Bytes.size_splice _ _ _)
              (splice_same (MemoryDevice.size_firstRun? hrun) hfit')
        · refine ⟨ht.frame, .inr ⟨⟨f, rfl⟩, hi, hsame, fun hno => ?_⟩⟩
          rw [hnone] at hno
          cases hno.2.1
    · refine ⟨ht.frame, .inr ⟨⟨f, rfl⟩, hi, hsame, fun hno => ?_⟩⟩
      obtain ⟨a, ha⟩ := hr.mpr hno.2.2
      cases ha
  · rw [if_neg hfit]
    exact ⟨trivial, .inr ⟨⟨_, rfl⟩, h, .refl s, fun hno => hfit hno.1⟩⟩

/-- **A run copied inside the buffer**, from what it held before; the two runs may overlap. -/
theorem moveRun_ends (h : Idle c s) (offset sourceOffset size : Nat) :
    (moveRun offset sourceOffset size).Ends s fun r y => y.frame = s.frame ∧
      ((r = .ok () ∧ offset + size ≤ s.buffer.size ∧ sourceOffset + size ≤ s.buffer.size ∧
          Idle (Bytes.splice c offset (c.extract sourceOffset (sourceOffset + size))) y) ∨
        ((∃ f, r = .error f) ∧ Idle c y)) := by
  intro j
  unfold moveRun
  simp only [Attempt.wp_bind, wp_requireRun]
  by_cases hfit : offset + size ≤ s.buffer.size
  · rw [if_pos hfit]
    by_cases hsrc : sourceOffset + size ≤ s.buffer.size
    · rw [if_pos hsrc]
      refine (authoritative_ends h.toCoherent).wp fun r t j hpost => ?_
      obtain ⟨ht, hcase⟩ := hpost
      have hi := ht.idle h
      have hfit' : offset + size ≤ c.size := by
        rw [h.size]
        exact hfit
      have hsrc' : sourceOffset + size ≤ c.size := by
        rw [h.size]
        exact hsrc
      have hrun : (c.extract sourceOffset (sourceOffset + size)).size = size := by
        rw [ByteArray.size_extract]
        omega
      rcases hcase with ⟨a, rfl, ha⟩ | ⟨⟨f, rfl⟩, -⟩
      · cases ha with
        | object o ho hg hc hk =>
          simp only [Attempt.wp_bind, Attempt.wp_always, wp_declareStaleIn, Nat.zero_add]
          refine (fillObject_run hc hfit' _ _).wp fun r y j hy => ?_
          rcases hy with ⟨run, d, rfl, hr, hd, rfl⟩ | ⟨⟨f, rfl⟩, -, rfl⟩
          · cases (MemoryDevice.firstRun?_object hc hsrc').symm.trans hr
            refine ⟨ht.frame, .inl ⟨trivial, hfit, hsrc, ?_⟩⟩
            exact hi.wroteObject ho hg hd (Bytes.size_splice _ _ _) offset size
          · exact ⟨ht.frame, .inr ⟨⟨f, rfl⟩, hi⟩⟩
        | shadow hs hc hk =>
          unfold moveInShadow
          simp only [Attempt.wp_bind, Attempt.wp_always, wp_current, wp_declareStaleIn, hc,
            wp_change]
          refine ⟨ht.frame, .inl ⟨trivial, hfit, hsrc, ?_⟩⟩
          exact hi.wroteShadow hs (.refl _) (Bytes.size_splice _ _ _) (splice_same hrun hfit')
      · exact ⟨ht.frame, .inr ⟨⟨f, rfl⟩, hi⟩⟩
    · rw [if_neg hsrc]
      exact ⟨trivial, .inr ⟨⟨_, rfl⟩, h⟩⟩
  · rw [if_neg hfit]
    exact ⟨trivial, .inr ⟨⟨_, rfl⟩, h⟩⟩

/-- **A run of the buffer as a source**: what it holds there, in the buffer's own object or given by
    the host, unless the content cannot be read. -/
theorem runSource_ends (h : Idle c s) {offset size : Nat} (hfit : offset + size ≤ s.buffer.size) :
    (runSource offset size).Ends s fun r y => Idle c y ∧ SameReading s y ∧
      ((∃ run, r = .ok run ∧ Readable s ∧
          y.machine.device.firstRun? run size = some (c.extract offset (offset + size)) ∧
          ∀ a base, run = .object a base → ∃ o, y.buffer.object = some o ∧ o.handle = a) ∨
        ((∃ f, r = .error f) ∧ ¬ Readable s)) := by
  intro j
  unfold runSource
  simp only [Attempt.wp_bind]
  refine ((authoritative_ends h.toCoherent).and (authoritative_readable h.toCoherent)).wp
    fun r y j hboth => ?_
  obtain ⟨⟨hy, hcase⟩, hsame, hr⟩ := hboth
  have hfit' : offset + size ≤ c.size := by
    rw [h.size]
    exact hfit
  rcases hcase with ⟨a, rfl, ha⟩ | ⟨⟨f, rfl⟩, -⟩
  · have hs : Readable s := hr.mp ⟨a, rfl⟩
    cases ha with
    | shadow hs' hc hk =>
      unfold shadowBytes
      simp only [Attempt.wp_bind, Attempt.wp_always, wp_current, hc, Attempt.wp_pure]
      have hsize : (c.extract offset (offset + size)).size = size := by
        rw [ByteArray.size_extract]
        omega
      exact ⟨hy.idle h, hsame,
        .inl ⟨_, rfl, hs, MemoryDevice.firstRun?_host hsize, by rintro a base ⟨⟩⟩⟩
    | object o ho hg hc hk =>
      simp only [Attempt.wp_pure, Nat.zero_add]
      refine ⟨hy.idle h, hsame, .inl ⟨_, rfl, hs, MemoryDevice.firstRun?_object hc hfit', ?_⟩⟩
      intro a base he
      cases he
      exact ⟨o, ho, rfl⟩
  · exact ⟨hy.idle h, hsame, .inr ⟨⟨f, rfl⟩, fun hs => by
      obtain ⟨a, ha⟩ := hr.mpr hs
      cases ha⟩⟩

/-- **Bytes given by the host** are in the content afterwards. -/
theorem storeBytes_ends (h : Idle c s) (offset : Nat) (data : ByteArray) :
    (storeBytes offset data).Ends s fun r y => y.frame = s.frame ∧
      ((r = .ok () ∧ offset + data.size ≤ s.buffer.size ∧
          Idle (Bytes.splice c offset data) y) ∨
        ((∃ f, r = .error f) ∧ Idle c y)) := by
  refine (copyRun_ends h fun t _ => rfl).mono fun r y ⟨hframe, hy⟩ => ⟨hframe, ?_⟩
  rcases hy with ⟨run, hr, hfit, hrun, -, -, hi⟩ | ⟨hr, hy, -⟩
  · have hdata : run = data :=
      Option.some.inj (hrun.symm.trans (MemoryDevice.firstRun?_host rfl))
    rw [hdata] at hi
    exact .inl ⟨hr, hfit, hi⟩
  · exact .inr ⟨hr, hy⟩

/-! ## 3. Upload objects -/

theorem placement_enterAll (users : List UserId) (o : BufferObject) (t : UserTable) :
    let e := users.foldl (fun (e : BufferObject × UserTable) u => e.1.enter e.2 u) (o, t)
    e.1.handle = o.handle ∧ e.1.offset = o.offset := by
  induction users generalizing o t with
  | nil => exact ⟨rfl, rfl⟩
  | cons u rest ih => exact ih (o.enter t u).1 (o.enter t u).2

/-- The users that move leave the object that takes over where it is. -/
theorem placement_moveUsers (o next : BufferObject) (t : UserTable) :
    (o.moveUsers next t).2.1.handle = next.handle ∧
      (o.moveUsers next t).2.1.offset = next.offset :=
  placement_enterAll _ next _

/-- An object that was handed in, instead of the one that the buffer had. -/
theorem renameTo_ends (s : Site MemoryDevice) (a : Placement)
    (hother : ∀ o, s.buffer.object = some o → o.handle ≠ a.handle) :
    (renameTo a).Ends s fun _ y => y.frame = s.frame ∧
      y.copies = { s.copies with object := some a, held := s.machine.device.bytes? a.handle } := by
  -- what is left to show once the object is in place
  have hput {t : Site MemoryDevice} {o : BufferObject} (hb : t.buffer = s.buffer)
      (hd : t.machine.device.bytes? a.handle = s.machine.device.bytes? a.handle)
      (ho : o.handle = a.handle ∧ o.offset = a.offset) :
      let y : Site MemoryDevice :=
        { t with buffer := { t.buffer.restartBarriers with object := some o } }
      y.frame = s.frame ∧ y.copies =
        { s.copies with object := some a, held := s.machine.device.bytes? a.handle } := by
    refine ⟨?_, ?_⟩
    · rw [← frame_restartBarriers s, ← hb]
      rfl
    · rw [← copies_restartBarriers s, ← hb]
      unfold copies objectBytes?
      simp only [Option.map_some, Option.bind_some, ho.1, ho.2, hd]
  intro j
  unfold renameTo
  simp only [Step.wp_bind, wp_current]
  cases hobj : s.buffer.object with
  | none =>
    unfold enterOwnUser
    simp only [Step.wp_bind, Step.wp_get, Step.wp_set, Step.wp_pure]
    exact hput rfl rfl (placement_enlist _ _ _)
  | some p =>
    unfold replaceObject
    simp only [Step.wp_bind, wp_current, Step.wp_note, Step.wp_get, Step.wp_set, wp_onDevice,
      Step.wp_pure]
    refine (MemoryDevice.freeObject_ends s.machine.device p.handle).wp fun _ d j hd => ?_
    exact hput rfl (hd.2 a.handle fun he => hother p hobj he.symm) (placement_moveUsers _ _ _)

/-- **A renamed buffer has the content of the object that was handed in.** -/
theorem takeOver_ends (h : Idle c s) {a : Placement} {u : ByteArray}
    (hother : ∀ o, s.buffer.object = some o → o.handle ≠ a.handle) (hoff : a.offset = 0)
    (hu : s.machine.device.bytes? a.handle = some u) (hsize : u.size = s.buffer.size) :
    (takeOver a).Ends s fun _ y => Idle u y ∧ y.buffer.usesObject a.handle = true := by
  intro j
  unfold takeOver
  simp only [Step.wp_bind, wp_declareCurrent, wp_declareStale]
  refine (renameTo_ends s a hother).wp fun _ t j hpost => ?_
  obtain ⟨hframe, ht⟩ := hpost
  rw [hu] at ht
  have hroom : s.buffer.size ≤ Bytes.largestRun := by
    rw [← hsize]
    exact MemoryDevice.size_le_largestRun hu
  refine ⟨h.of_settled hframe ?_ fun hp => (congrArg Copies.pinned ht).trans hp, ?_⟩
  · show Settled _ u ((t.copies.markValid Location.gpuObject).markStale _ 0 0)
    rw [ht, Copies.markValid_gpuObject]
    unfold Copies.markStale
    rw [if_neg (by simp)]
    exact { h.toSettled with
      size := hsize
      spans := DirtySpans.Fits.clear _
      kept := by simp
      somewhere := .inr (.inl (by simp))
      cleared := fun hc => by simp at hc
      mirrored := fun hs => by simp at hs
      object := fun a' ha => by
        cases ha
        exact ⟨hoff, u, rfl, hsize, hroom⟩
      held := fun b hb => by
        cases hb
        exact hsize
      present := fun _ => rfl
      current := fun _ _ => rfl
      stale := fun b _ hg => by simp at hg
      complete := fun _ => DirtySpans.isPending_clear _
      lacking := fun _ hg => by simp at hg }
  · have hobj : t.copies.object = some a := by rw [ht]
    obtain ⟨o, ho, ha, -⟩ := copies_object_some hobj
    have ho' : (t.buffer.markValid Location.gpuObject).object = some o := ho
    show Option.any _ (Buffer.markStale _ _ 0 0).object = true
    unfold Buffer.markStale
    simp only [ho', Option.any_some]
    rw [ha]
    exact beq_self_eq_true _

/-- What an upload object has to be for the buffer: another object of the device, and to be renamed
    to, one that is as large as the buffer. -/
structure Brings (s : Site MemoryDevice) (upload : Upload) : Prop where
  other : ∀ o, s.buffer.object = some o → o.handle ≠ upload.placement.handle
  created : upload.placement.handle.number < s.machine.device.nextHandle
  whole : upload.rename = true → upload.placement.offset = 0 ∧
    ∃ u, s.machine.device.bytes? upload.placement.handle = some u ∧ u.size = s.buffer.size

/-- The bytes of a run, brought by an upload object: the whole buffer is what the object holds, or
    the run is copied. -/
theorem applyUpload_ends (h : Idle c s) {upload : Upload} (hb : Brings s upload)
    (offset size : Nat) : (applyUpload upload offset size).Ends s fun r y =>
      (r = .ok () ∧ offset + size ≤ s.buffer.size ∧ ∃ u,
        s.machine.device.bytes? upload.placement.handle = some u ∧
        ((upload.rename = true ∧ Idle u y) ∨
          (upload.rename = false ∧ ∃ run, Bytes.slice? u upload.placement.offset size = some run ∧
            Idle (Bytes.splice c offset run) y))) ∨
      ((∃ f, r = .error f) ∧ Idle c y) := by
  intro j
  unfold applyUpload
  simp only [Attempt.wp_bind, wp_requireRun, Attempt.wp_ite, Attempt.wp_always, wp_current]
  by_cases hfit : offset + size ≤ s.buffer.size
  · rw [if_pos hfit]
    cases hren : upload.rename with
    | true =>
      obtain ⟨hoff, u, hu, hsize⟩ := hb.whole hren
      simp only [if_true]
      refine (takeOver_ends h hb.other hoff hu hsize).wp fun _ t j hpost => ?_
      obtain ⟨ht, huses⟩ := hpost
      rw [if_pos huses]
      split
      · simp only [wp_onDevice]
        refine (MemoryDevice.closeMapping_ends _ _ _).wp fun _ d j hd => ?_
        refine .inl ⟨trivial, hfit, u, hu, .inl ⟨trivial, ht.of_settled rfl ?_ id⟩⟩
        rw [copies_untouched hd]
        exact ht.toSettled
      · simp only [Attempt.wp_pure]
        exact .inl ⟨trivial, hfit, u, hu, .inl ⟨trivial, ht⟩⟩
    | false =>
      have huses : ¬ s.buffer.usesObject upload.placement.handle = true := by
        unfold Buffer.usesObject
        cases hobj : s.buffer.object with
        | none => exact Bool.false_ne_true
        | some o => simpa using hb.other o hobj
      simp only [Bool.false_eq_true, if_false]
      rw [if_neg huses]
      refine (copyRun_ends h fun t ht => ?_).wp fun r y j hpost => ?_
      · unfold MemoryDevice.firstRun?
        simp only [ht.others _ hb.created fun o ho he => hb.other o ho he.symm]
      · rcases hpost with ⟨-, ⟨run, hr, -, hrun, -, -, hi⟩ | ⟨hr, hy, -⟩⟩
        · obtain ⟨u, hu, hslice⟩ := Option.bind_eq_some_iff.mp hrun
          exact .inl ⟨hr, hfit, u, hu, .inr ⟨trivial, run, hslice, hi⟩⟩
        · exact .inr ⟨hr, hy⟩
  · rw [if_neg hfit]
    exact .inr ⟨⟨_, rfl⟩, h⟩

end Site

end BufferCoherence
