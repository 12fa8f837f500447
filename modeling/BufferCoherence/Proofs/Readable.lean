import BufferCoherence.Proofs.Content

/-!
# When the content can be read back

The content of a buffer between operations is always known, but it cannot always be read back: the
zeroes of a buffer that nothing was written to are nowhere yet. `Site.Readable` says when they can
be put somewhere: the host has room for them, and where the buffer waits for an object the device
grants one.

* `authoritative_readable`, `content_readable`: the address and the bytes are answered exactly where
  the content is readable, and the question leaves it as readable as it was (`SameReading`);
* `Idle.reads_iff`: what is read back is the content, where it is readable.
-/

namespace BufferCoherence

namespace Site

variable {s t u : Site MemoryDevice} {c d : ByteArray}

/-! ## 1. Readable content -/

/-- The buffer is to have an object and has none yet: with barriers it goes on asking for one. -/
structure Waits (s : Site MemoryDevice) : Prop where
  kind : s.buffer.backend.kind = .modern
  allowed : s.buffer.objectAllowed = true
  bare : s.buffer.object = none

/-- The content can be read back. -/
def Readable (s : Site MemoryDevice) : Prop :=
  s.buffer.locations.has Location.cleared = true → s.buffer.size ≤ Bytes.largestRun ∧
    (Waits s → s.machine.device.refusesObjects = false)

/-- What was written to is readable. -/
theorem readable_of_written (h : s.buffer.locations.has Location.cleared = false) : Readable s :=
  fun hc => absurd (h.symm.trans hc) Bool.false_ne_true

/-- A buffer that waits for nothing needs room on the host. -/
theorem readable_iff_room (h : ¬ Waits s) : Readable s ↔
    (s.buffer.locations.has Location.cleared = true → s.buffer.size ≤ Bytes.largestRun) :=
  forall_congr' fun _ => and_iff_left fun hw => absurd hw h

/-- As readable as before, and in the same bounds. -/
structure SameReading (s t : Site MemoryDevice) : Prop where
  readable : Readable t ↔ Readable s
  cleared : t.buffer.locations.has Location.cleared = s.buffer.locations.has Location.cleared
  size : t.buffer.size = s.buffer.size

theorem SameReading.refl (s : Site MemoryDevice) : SameReading s s := ⟨.rfl, rfl, rfl⟩

theorem SameReading.trans (h : SameReading s t) (h' : SameReading t u) : SameReading s u :=
  ⟨h'.readable.trans h.readable, h'.cleared.trans h.cleared, h'.size.trans h.size⟩

/-- Neither buffer waits for an object. -/
theorem SameReading.of_settled (hs : ¬ Waits s) (ht : ¬ Waits t)
    (hcleared : t.buffer.locations.has Location.cleared = s.buffer.locations.has Location.cleared)
    (hsize : t.buffer.size = s.buffer.size) : SameReading s t := by
  refine ⟨?_, hcleared, hsize⟩
  rw [readable_iff_room hs, readable_iff_room ht, hcleared, hsize]

/-- The same copies on a device that grants and refuses objects alike. -/
theorem SameReading.of_copies (hcopies : t.copies = s.copies)
    (hrefuses : t.machine.device.refusesObjects = s.machine.device.refusesObjects) :
    SameReading s t := by
  have hcleared : t.buffer.locations.has Location.cleared =
      s.buffer.locations.has Location.cleared :=
    congrArg (fun v : Copies => v.locations.has Location.cleared) hcopies
  have hsize : t.buffer.size = s.buffer.size := congrArg Copies.size hcopies
  have hbare : t.buffer.object = none ↔ s.buffer.object = none := by
    have hnone (x : Site MemoryDevice) : x.copies.object = none ↔ x.buffer.object = none :=
      Option.map_eq_none_iff
    rw [← hnone t, ← hnone s, hcopies]
  have hwaits : Waits t ↔ Waits s :=
    ⟨fun h => ⟨(congrArg Copies.kind hcopies).symm.trans h.kind,
        (congrArg Copies.objectAllowed hcopies).symm.trans h.allowed, hbare.mp h.bare⟩,
      fun h => ⟨(congrArg Copies.kind hcopies).trans h.kind,
        (congrArg Copies.objectAllowed hcopies).trans h.allowed, hbare.mpr h.bare⟩⟩
  refine ⟨?_, hcleared, hsize⟩
  unfold Readable
  rw [hcleared, hsize, hwaits, hrefuses]

/-- A buffer that was refused its object, for good where it has binding targets. -/
theorem SameReading.of_refused
    (hcopies : t.copies = s.copies ∨ (s.buffer.object = none ∧ t.copies = s.refused))
    (hallowed : t.buffer.objectAllowed = true ↔ s.buffer.backend.kind ≠ .legacy)
    (hrefuses : t.machine.device.refusesObjects = s.machine.device.refusesObjects) :
    SameReading s t := by
  rcases hcopies with hcopies | ⟨-, hcopies⟩
  · exact .of_copies hcopies hrefuses
  · have hno : ¬ t.buffer.objectAllowed = true := by
      rw [show t.buffer.objectAllowed = false from congrArg Copies.objectAllowed hcopies]
      exact Bool.false_ne_true
    exact .of_settled (fun hw => hno (hallowed.mpr (by rw [hw.kind]; decide)))
      (fun hw => hno hw.allowed)
      (congrArg (fun v : Copies => v.locations.has Location.cleared) hcopies)
      (congrArg Copies.size hcopies)

/-! ## 2. Refused objects -/

/-- A buffer that is refused its object goes on asking for it, unless it has binding targets. -/
theorem reserveObject_refused (s : Site MemoryDevice) : reserveObject.Ends s fun ready y =>
    ready = false → s.buffer.objectAllowed = true →
      (y.buffer.objectAllowed = true ↔ s.buffer.backend.kind ≠ .legacy) := by
  intro j
  unfold reserveObject
  simp only [Step.wp_bind, wp_current]
  rcases objectRequest?_cases s.buffer with ⟨hk, hreq⟩ | ⟨hk, request, hreq, hsize⟩
  · simp only [hreq, Step.wp_bind, Step.wp_note, Step.wp_pure, hk]
    exact fun _ ha => iff_of_true ha (by decide)
  · simp only [hreq, Step.wp_ite, Step.wp_pure]
    split
    · rintro ⟨⟩
    · split
      · rename_i hno
        simp only [Step.wp_bind, Step.wp_note, Step.wp_pure]
        intro _ ha
        rw [ha] at hno
        cases hno
      · simp only [Step.wp_bind, Step.wp_noteAll, Attempt.wp_outcome]
        refine (newObject_ends s request hsize).wp fun r y j hr => ?_
        rcases hr with ⟨rfl, -⟩ | ⟨⟨f, rfl⟩, -, rfl⟩
        · simp only [Step.wp_bind, wp_change, Step.wp_pure]
          rintro ⟨⟩
        · simp only [Step.wp_bind, Step.wp_pure]
          unfold objectRefused
          simp only [Step.wp_bind, wp_current]
          split
          · rename_i targets hb
            exact fun _ _ => iff_of_false Bool.false_ne_true fun hne => hne (by rw [hb]; rfl)
          · rename_i hne
            refine fun _ ha => iff_of_true ha fun hlegacy => ?_
            cases hb : y.buffer.backend with
            | noObject => rw [hb] at hlegacy; cases hlegacy
            | legacy targets => exact hne targets hb
            | modern barriers => rw [hb] at hlegacy; cases hlegacy

theorem refreshObject_refused (h : Coherent s.buffer.isConverted c s.copies) :
    refreshObject.Ends s fun r y => (∃ f, r = .error f) → s.buffer.objectAllowed = true →
      (y.buffer.objectAllowed = true ↔ s.buffer.backend.kind ≠ .legacy) := by
  intro j
  refine wp_refreshWith h.isEmpty_eq_false (fun _ => by rintro ⟨_, ⟨⟩⟩) fun hg j => ?_
  refine ((reserveObject_ends s).and (reserveObject_refused s)).wp fun ready t j hboth => ?_
  obtain ⟨⟨-, -, ht⟩, hrefused⟩ := hboth
  refine ⟨fun hno f _ ha => hrefused hno ha, fun hready => ?_⟩
  have hequipped : Coherent s.buffer.isConverted c t.copies ∧ t.buffer.object.isSome = true ∧
      t.buffer.locations.has Location.gpuObject = false := by
    rcases ht with ⟨-, -, hobj, rfl⟩ | ⟨-, hr, hobj, ht⟩ | ⟨hno, -⟩
    · exact ⟨h, hobj, hg⟩
    · have hlocations : t.buffer.locations = s.buffer.locations := congrArg Copies.locations ht
      rw [← copies_object_isSome, hlocations, ht]
      exact ⟨coherent_equipped h hobj hr, rfl, hg⟩
    · rw [hready] at hno
      cases hno
  obtain ⟨ht, hobj, hgt⟩ := hequipped
  -- the load does not fail, so that nothing is asked of it
  refine ⟨ht.kept, (loadObject_settles ht hobj hgt j).mono fun r y j hy => ?_⟩
  obtain ⟨rfl, hy⟩ := hy
  exact fun j => (hy j).mono fun _ z j _ => by rintro ⟨_, ⟨⟩⟩

/-! ## 3. Questions -/

theorem refreshShadow_readable (h : Coherent s.buffer.isConverted c s.copies) :
    refreshShadow.Ends s fun r y =>
      y.buffer.locations.has Location.cleared = s.buffer.locations.has Location.cleared ∧
        y.buffer.objectAllowed = s.buffer.objectAllowed ∧ y.buffer.size = s.buffer.size ∧
          (r = .ok () ↔ s.buffer.size ≤ Bytes.largestRun) := by
  refine (refreshShadow_ends h).mono fun r y hy => ?_
  rcases hy with ⟨rfl, hroom, hcopies, -⟩ | ⟨⟨f, rfl⟩, rfl, hlarge⟩
  · refine ⟨?_, congrArg Copies.objectAllowed hcopies, congrArg Copies.size hcopies,
      iff_of_true rfl hroom⟩
    rw [show y.buffer.locations = s.buffer.locations ∪ Location.sysmem from
      congrArg Copies.locations hcopies]
    simp
  · exact ⟨rfl, rfl, rfl, iff_of_false nofun (Nat.not_le_of_lt hlarge)⟩

/-- The shadow of a buffer that is to have no object, which holds zeroes. -/
theorem refreshShadow_settles (h : Coherent s.buffer.isConverted c s.copies)
    (hcleared : s.buffer.locations.has Location.cleared = true)
    (hno : s.buffer.objectAllowed = false) : refreshShadow.Ends s fun r y =>
      SameReading s y ∧ (r = .ok () ↔ Readable s) := by
  refine (refreshShadow_readable h).mono fun r y ⟨hyc, hya, hys, hr⟩ => ?_
  have hs : ¬ Waits s := fun hw => Bool.false_ne_true (hno.symm.trans hw.allowed)
  have hy : ¬ Waits y := fun hw => Bool.false_ne_true ((hya.trans hno).symm.trans hw.allowed)
  refine ⟨.of_settled hs hy hyc hys, ?_⟩
  rw [hr, readable_iff_room hs]
  exact ⟨fun hroom _ => hroom, fun hroom => hroom hcleared⟩

/-- Zeroes come to be somewhere where they are readable. -/
theorem refreshSomewhere_readable (h : Coherent s.buffer.isConverted c s.copies)
    (hcleared : s.buffer.locations.has Location.cleared = true) :
    refreshSomewhere.Ends s fun r y => SameReading s y ∧ (r = .ok () ↔ Readable s) := by
  intro j
  unfold refreshSomewhere
  simp only [Attempt.wp_bind, Attempt.wp_always, wp_current, Attempt.wp_ite, Attempt.wp_outcome]
  cases hallowed : s.buffer.objectAllowed with
  | false =>
    simp only [Bool.not_false, if_true]
    exact refreshShadow_settles h hcleared hallowed j
  | true =>
    simp only [Bool.not_true, Bool.false_eq_true, if_false]
    refine (((refreshObject_ends h).and (refreshObject_keeps h)).and
      (refreshObject_refused h)).wp fun r y j hboth => ?_
    obtain ⟨⟨⟨-, -, hy⟩, hkeeps, hyc, hcase⟩, hrefused⟩ := hboth
    rcases hcase with ⟨rfl, hg, -⟩ | ⟨⟨f, rfl⟩, hg, hno, hcopies⟩
    · -- there is an object now, so that neither the room nor the device is in question
      have hobject : y.buffer.object.isSome = true :=
        copies_object_isSome.symm.trans (hkeeps.coherent'.present hg)
      have hroom : y.buffer.size ≤ Bytes.largestRun :=
        hkeeps.coherent'.room_of_object (copies_object_isSome.trans hobject)
      have hgranted : Waits s → s.machine.device.refusesObjects = false := by
        rintro ⟨-, -, hbare⟩
        rcases hy with ⟨-, -, rfl⟩ | ⟨⟨f, hf⟩, -⟩ | ⟨-, -, ⟨-, ho | ⟨-, hgrants⟩⟩, -⟩
        · rw [hbare] at hobject
          cases hobject
        · cases hf
        · rw [hbare] at ho
          cases ho
        · exact hgrants.2
      have hs : Readable s := fun _ => ⟨hkeeps.size ▸ hroom, hgranted⟩
      have ht : Readable y := fun _ => ⟨hroom, fun hw => by rw [hw.bare] at hobject; cases hobject⟩
      exact ⟨⟨iff_of_true ht hs, hyc, hkeeps.size⟩, iff_of_true rfl hs⟩
    · have hsame : SameReading s y :=
        .of_refused hcopies (hrefused ⟨f, rfl⟩ hallowed) hkeeps.spares.refusesObjects
      simp only [Attempt.wp_bind, Attempt.wp_always, wp_current, Attempt.wp_ite, Attempt.wp_throw]
      split
      · -- the buffer goes on asking, and that is all that is missing
        rename_i ha
        have hmodern : s.buffer.backend.kind = .modern := by
          have hlegacy := (hrefused ⟨f, rfl⟩ hallowed).mp ha
          have hnone := h.allowed hallowed
          cases hk : s.buffer.backend.kind with
          | noObject => exact absurd hk hnone
          | legacy => exact absurd hk hlegacy
          | modern => rfl
        refine ⟨hsame, iff_of_false (by rintro ⟨⟩) fun hs => hno ?_⟩
        obtain ⟨hroom, hgranted⟩ := hs hcleared
        refine ⟨h.allowed hallowed, ?_⟩
        cases hobj : s.buffer.object with
        | some o => exact .inl rfl
        | none => exact .inr ⟨hallowed, hroom, hgranted ⟨hmodern, hallowed, hobj⟩⟩
      · -- the shadow has to do from now on
        rename_i ha
        refine (refreshShadow_settles hkeeps.coherent' (hyc.trans hcleared)
          ((Bool.not_eq_true _).mp ha)).wp fun r z k hz => ⟨hsame.trans hz.1, ?_⟩
        rw [hz.2, hsame.readable]

/-- **An address is answered exactly where the content is readable.** -/
theorem authoritative_readable (h : Coherent s.buffer.isConverted c s.copies) :
    authoritative.Ends s fun r y => SameReading s y ∧ ((∃ a, r = .ok a) ↔ Readable s) := by
  intro j
  rw [authoritative_eq]
  simp only [Attempt.wp_bind, Attempt.wp_always, wp_current, Attempt.wp_ite]
  rw [Location.meets_sentinel,
    show s.buffer.locations.has Location.discarded = false from h.kept, Bool.false_or]
  by_cases hc : s.buffer.locations.has Location.cleared = true
  · rw [if_pos hc]
    refine ((refreshSomewhere_keeps h).and (refreshSomewhere_readable h hc)).wp
      fun r y j hboth => ?_
    obtain ⟨⟨hkeeps, hcase⟩, hsame, hr⟩ := hboth
    rcases hcase with ⟨rfl, hl⟩ | ⟨⟨f, rfl⟩, -⟩
    · obtain ⟨a, ha, -⟩ := address?_answers hkeeps.coherent' hl
      rw [wp_currentAddress ha]
      exact ⟨hsame, iff_of_true ⟨a, rfl⟩ (hr.mp rfl)⟩
    · refine ⟨hsame, iff_of_false (by rintro ⟨_, ⟨⟩⟩) fun hs => ?_⟩
      cases hr.mpr hs
  · rw [if_neg hc]
    have hl : s.buffer.locations.has Location.sysmem = true ∨
        s.buffer.locations.has Location.gpuObject = true := by
      rcases h.somewhere with hs | hg | hc'
      · exact .inl hs
      · exact .inr hg
      · exact absurd hc' hc
    obtain ⟨a, ha, -⟩ := address?_answers h hl
    rw [wp_currentAddress ha]
    exact ⟨.refl s, iff_of_true ⟨a, rfl⟩ (readable_of_written ((Bool.not_eq_true _).mp hc))⟩

/-- **The bytes are answered exactly where the content is readable.** -/
theorem content_readable (h : Coherent s.buffer.isConverted c s.copies) :
    content.Ends s fun r _ => (∃ d, r = .ok d) ↔ Readable s := by
  intro j
  rw [content_eq, Attempt.wp_bind]
  refine ((authoritative_ends h).and (authoritative_readable h)).wp
    fun r y j ⟨⟨hkeeps, hcase⟩, _, hr⟩ => ?_
  rcases hcase with ⟨a, rfl, ha⟩ | ⟨⟨f, rfl⟩, -⟩
  · refine (bytesAt_ends hkeeps.coherent' ha).wp fun r z k ⟨_, hok⟩ => ?_
    exact iff_of_true ⟨c, hok⟩ (hr.mp ⟨a, rfl⟩)
  · refine iff_of_false nofun fun hs => ?_
    obtain ⟨a, ha⟩ := hr.mpr hs
    cases ha

/-- **What is read back from an idle buffer is its content**, where that is readable. -/
theorem Idle.reads_iff (h : Idle c s) : Reads d s ↔ d = c ∧ Readable s := by
  have hends (j : Journal) : ((Site.content.run s j).1.1 = .ok c ∨
      ∃ f, (Site.content.run s j).1.1 = .error f) ∧
        ((∃ b, (Site.content.run s j).1.1 = .ok b) ↔ Readable s) := by
    have hj := ((content_ends h.toCoherent).and (content_readable h.toCoherent)) j
    exact ⟨hj.1.2.imp_right And.left, hj.2⟩
  constructor
  · intro hd
    have hj := hends (.empty .error)
    rw [hd] at hj
    refine ⟨?_, hj.2.mp ⟨d, rfl⟩⟩
    rcases hj.1 with hc | ⟨f, hf⟩
    · exact Except.ok.inj hc
    · cases hf
  · rintro ⟨rfl, hs⟩ j
    obtain ⟨hcase, hr⟩ := hends j
    obtain ⟨b, hb⟩ := hr.mpr hs
    rcases hcase with hc | ⟨f, hf⟩
    · exact hc
    · cases hb.symm.trans hf

theorem SameReading.reads (h : SameReading s t) (hs : Idle c s) (ht : Idle c t) :
    Reads d t ↔ Reads d s := by
  rw [hs.reads_iff, ht.reads_iff, h.readable]

end Site

end BufferCoherence
