import BufferCoherence.Proofs.Content

/-!
# Giving the object up

A buffer that gives its object up keeps its content, in the shadow: `vacate_ends` is what happens to
the copies, from any coherent copies, and `vacate_idle`, `dropObject_idle` are what is left of an
idle buffer. A buffer without objects of its own only counts the object as stale.
-/

namespace BufferCoherence

/-- The copies of a buffer that gave its object up, the content being `c`. -/
def Copies.vacated (v : Copies) (c : ByteArray) : Copies :=
  { v with
    shadow := some c
    locations := (v.locations ∪ Location.sysmem) \ Location.gpuObject
    dirty := v.dirty.clear
    object := if v.kind = .noObject then v.object else none
    held := if v.kind = .noObject then v.held else none }

theorem Coherent.vacated {k : Bool} {c : ByteArray} {v : Copies} (h : Coherent k c v)
    (hroom : v.size ≤ Bytes.largestRun) (k' : Bool) : Settled k' c (v.vacated c) where
  size := h.size
  spanned := h.spanned
  spans := DirtySpans.Fits.clear _
  kept := by simp [Copies.vacated, h.kept]
  somewhere := .inl (by simp [Copies.vacated])
  allowed := h.allowed
  shadow m hm := by
    cases hm
    exact ⟨h.size, hroom⟩
  pinned _ := rfl
  cleared hc := h.cleared (by simpa [Copies.vacated] using hc)
  mirrored _ := rfl
  object a ha := by
    have hkind : v.kind = .noObject := by
      by_cases hkind : v.kind = .noObject
      · exact hkind
      · simp [Copies.vacated, hkind] at ha
    unfold Copies.vacated at ha ⊢
    simp only [hkind, if_true] at ha ⊢
    exact h.object a ha
  held b hb := by
    have hkind : v.kind = .noObject := by
      by_cases hkind : v.kind = .noObject
      · exact hkind
      · simp [Copies.vacated, hkind] at hb
    unfold Copies.vacated at hb
    simp only [hkind, if_true] at hb
    exact h.held b hb
  present hg := by simp [Copies.vacated] at hg
  current hg := by simp [Copies.vacated] at hg
  stale b hb _ _ hkind := by
    have hkind' : ¬ v.kind = .noObject := hkind
    simp [Copies.vacated, hkind'] at hb
  complete hg := by simp [Copies.vacated] at hg
  lacking ho _ hkind := by
    have hkind' : ¬ v.kind = .noObject := hkind
    simp [Copies.vacated, hkind'] at ho

namespace Site

section Removal

variable {δ : Type} [Device δ]

/-- The object taken from the buffer and given back. -/
theorem freeObject_ends (s : Site δ) : freeObject.Ends s fun _ y =>
    y.buffer = { s.buffer with object := none } := by
  intro j
  unfold freeObject takeObject
  simp only [Step.wp_bind, Step.wp_get]
  cases hobj : s.buffer.object with
  | none =>
    simp only [Step.wp_pure]
    rw [← hobj]
  | some o =>
    simp only [Step.wp_bind, Step.wp_set, Step.wp_pure, wp_onDevice]
    trivial

theorem endCaptureInto_ends (s : Site δ) (h : ObjectHandle) :
    (endCaptureInto h).Ends s fun _ y => y.buffer = s.buffer := by
  intro j
  unfold endCaptureInto
  simp only [Step.wp_bind, Step.wp_get, Step.wp_ite, Step.wp_note, wp_onDevice, Step.wp_pure]
  split <;> trivial

/-- The object goes away, on a backend that has objects. -/
theorem removeObject_ends (s : Site δ) : removeObject.Ends s fun _ y =>
    if s.buffer.backend.kind = .noObject then y = s
    else y.buffer = { s.buffer with object := none } := by
  intro j
  unfold removeObject
  simp only [Step.wp_bind, wp_current]
  cases hb : s.buffer.backend with
  | noObject =>
    simp only [Step.wp_note, Backend.kind, if_true]
  | legacy target =>
    simp only [Backend.kind, reduceCtorEq, if_false]
    cases hobj : s.buffer.object with
    | none =>
      simp only [Step.wp_pure]
      rw [← hb, ← hobj]
    | some o =>
      simp only [Step.wp_bind]
      refine (endCaptureInto_ends s o.handle).wp fun _ t j ht => ?_
      refine (freeObject_ends t).wp fun _ y j hy => ?_
      rw [hy, ht, ← hb]
  | modern tracker =>
    simp only [Backend.kind, reduceCtorEq, if_false]
    rw [← hb]
    exact freeObject_ends s j

end Removal

variable {s t : Site MemoryDevice} {k : Bool} {c : ByteArray} {j : Journal}

/-- **The content saved in the shadow, and the object given up.** -/
theorem vacate_ends (h : Coherent k c s.copies) (ho : s.buffer.object.isSome = true) :
    vacate.Ends s fun _ y => y.copies = s.copies.vacated c ∧
      y.frame = { s.frame with conversion := .fresh } := by
  intro j
  have hroom : s.buffer.size ≤ Bytes.largestRun :=
    h.room_of_object (copies_object_isSome.trans ho)
  unfold vacate saveContent
  simp only [Step.wp_bind, wp_current, Step.wp_ite, ho, if_true, Attempt.wp_outcome,
    wp_declareStale, wp_change]
  refine (refreshShadow_ends h).wp fun r t j ht => ?_
  rcases ht with ⟨rfl, -, hcopies, hframe, -, -⟩ | ⟨-, -, hlarge⟩
  · simp only [Step.wp_pure]
    refine (removeObject_ends _).wp fun _ y j hy => ?_
    have hkind : t.buffer.backend.kind = s.buffer.backend.kind := congrArg Copies.kind hcopies
    -- the copies before the object goes away
    have hstale : copies { t with buffer := t.buffer.markStale Location.gpuObject 0 0 } =
        { s.copies with
          shadow := some c
          locations := (s.copies.locations ∪ Location.sysmem) \ Location.gpuObject
          dirty := s.copies.dirty.markAll } := by
      rw [copies_markStale, hcopies]
      unfold Copies.markStale Copies.mirrored
      rw [if_pos Location.has_itself.2.1]
      rfl
    have hdirty : (t.buffer.markStale Location.gpuObject 0 0).dirty = s.copies.dirty.markAll :=
      congrArg Copies.dirty hstale
    by_cases hno : s.buffer.backend.kind = .noObject
    · rw [if_pos (show Backend.kind (Buffer.markStale t.buffer _ 0 0).backend = _ from
        hkind.trans hno)] at hy
      rw [hy]
      refine ⟨?_, by rw [← hframe]; rfl⟩
      show { copies { t with buffer := t.buffer.markStale Location.gpuObject 0 0 } with
        dirty := (t.buffer.markStale Location.gpuObject 0 0).dirty.clear } = _
      rw [hstale, hdirty]
      unfold Copies.vacated
      rw [if_pos (show s.copies.kind = .noObject from hno), if_pos (show s.copies.kind = .noObject
        from hno)]
      rfl
    · rw [if_neg (show ¬ Backend.kind (Buffer.markStale t.buffer _ 0 0).backend = _ from
        fun he => hno (hkind.symm.trans he))] at hy
      refine ⟨?_, by rw [← hframe]; unfold frame; simp only [hy]; rfl⟩
      have hgone : copies { y with
            buffer := { y.buffer with dirty := y.buffer.dirty.clear, conversion := .fresh } } =
          { copies { t with buffer := t.buffer.markStale Location.gpuObject 0 0 } with
            dirty := (t.buffer.markStale Location.gpuObject 0 0).dirty.clear
            object := none
            held := none } := by
        unfold copies objectBytes?
        simp only [hy]
        rfl
      rw [hgone, hstale, hdirty]
      unfold Copies.vacated
      rw [if_neg (show ¬ s.copies.kind = .noObject from hno), if_neg (show ¬ s.copies.kind =
        .noObject from hno)]
      rfl
  · exact absurd hroom (Nat.not_le_of_lt hlarge)

/-- What giving the object up leaves of a settled buffer. -/
theorem vacate_settled (h : Settled s.buffer.isConverted c s.copies) :
    vacate.Ends s fun _ y => Settled y.buffer.isConverted c y.copies ∧
      (y.buffer.isConverted = true → s.buffer.isConverted = true) ∧
      (s.buffer.pinned = true → y.buffer.pinned = true) ∧
      y.buffer.objectAllowed = s.buffer.objectAllowed ∧
      y.buffer.mapCount = s.buffer.mapCount ∧ y.buffer.mapBase = s.buffer.mapBase := by
  intro j
  cases ho : s.buffer.object.isSome with
  | true =>
    refine (vacate_ends h.toCoherent ho).wp fun _ y j ⟨hcopies, hframe⟩ => ?_
    have hconv : y.buffer.isConverted = false :=
      congrArg (fun f : Frame => f.conversion.map.isSome) hframe
    refine ⟨?_, fun hc => absurd (hconv.symm.trans hc) nofun, fun hp => ?_,
      congrArg Copies.objectAllowed hcopies, congrArg Frame.mapCount hframe,
      congrArg Frame.mapBase hframe⟩
    · rw [hcopies]
      exact h.toCoherent.vacated (h.room_of_object (copies_object_isSome.trans ho)) _
    · exact (congrArg Copies.pinned hcopies).trans hp
  | false =>
    unfold vacate
    simp only [Step.wp_bind, wp_current, Step.wp_ite, ho, Bool.false_eq_true, if_false,
      Step.wp_pure]
    exact ⟨h, id, id, trivial, trivial, trivial⟩

theorem vacate_idle (h : Idle c s) : vacate.Ends s fun _ y => Idle c y := by
  refine (vacate_settled h.toSettled).mono fun _ y ⟨hs, hc, hp, _, hcount, hbase⟩ => ?_
  exact { hs with
    backed := fun hy => hp (h.backed (hc hy))
    unmapped := hcount.trans h.unmapped
    baseless := hbase.trans h.baseless }

/-- Whether there may be an object is not about the content. -/
theorem coherent_disallowed (h : Coherent k c s.copies) :
    Coherent k c (copies { s with buffer := { s.buffer with objectAllowed := false } }) :=
  { h with allowed := fun hallowed => absurd hallowed Bool.false_ne_true }

theorem dropObject_idle (h : Idle c s) : dropObject.Ends s fun _ y =>
    Idle c y ∧ y.buffer.objectAllowed = false := by
  intro j
  unfold dropObject
  simp only [Step.wp_bind, wp_change]
  have hi : Idle c { s with buffer := { s.buffer with objectAllowed := false } } :=
    { h with allowed := (coherent_disallowed h.toCoherent).allowed }
  refine ((vacate_idle hi).and (vacate_settled hi.toSettled)).wp fun _ y j hy => ?_
  obtain ⟨hy, -, -, -, hallowed, -⟩ := hy
  exact ⟨hy, hallowed⟩

end Site

end BufferCoherence
