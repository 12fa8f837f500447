import BufferCoherence.Proofs.Mapping

/-!
# Mappings inside mappings

What a further mapping does to a buffer that is mapped. All mappings point into one storage, the
one that the outermost mapping opened (`Buffer.mapped`); which copy a mapping makes current is
chosen anew each time.

* `Steady` is what holds of a buffer at any depth of nesting, and `Copies.Accepts` is when a run may
  be written where everything is mapped;
* `Elsewhere` is the end of that: the buffer is read from the other storage;
* `Steady.mapPrepared_ends`: a further mapping keeps everything writable, or ends that;
* `Steady.writeMapped_ends`: what is written where it may be is in the content.
-/

namespace BufferCoherence

/-! ## 1. Where a mapping points -/

/-- The address of a mapped storage. -/
def MappedStorage.address : MappedStorage → Address
  | .shadow => .shadow
  | .object h => .object h 0

/-- The storage that every mapping points into: the object, once that is mapped, and else the
    shadow. -/
def Buffer.mapped (b : Buffer) : MappedStorage :=
  match b.mapBase with
  | some base => .object base.handle
  | none => .shadow

theorem Buffer.mapped_of_none {b : Buffer} (h : b.mapBase = none) : b.mapped = .shadow := by
  unfold Buffer.mapped
  rw [h]

theorem Buffer.mapped_of_some {b : Buffer} {base : MapBase} (h : b.mapBase = some base) :
    b.mapped = .object base.handle := by
  unfold Buffer.mapped
  rw [h]

/-- A shadow is the address where it is current and no object is. -/
theorem Buffer.address?_shadow {b : Buffer} (hs : b.locations.has Location.sysmem = true)
    (hg : b.locations.has Location.gpuObject = false) (hshadow : b.shadow.isSome = true) :
    b.address? = some .shadow := by
  unfold Buffer.address? Buffer.currentObject Buffer.shadowCurrent
  rw [hs, hg, hshadow]
  simp

/-- An object is the address where it is current and the shadow is not behind its vertices. -/
theorem Buffer.address?_object {b : Buffer} {o : BufferObject} (ho : b.object = some o)
    (hg : b.locations.has Location.gpuObject = true)
    (hk : b.isConverted = true → b.locations.has Location.sysmem = false) :
    b.address? = some (.object o.handle o.offset) := by
  unfold Buffer.address? Buffer.currentObject Buffer.shadowCurrent
  rw [hg, ho, if_neg, if_pos rfl]
  rw [Bool.and_eq_true, Bool.and_eq_true]
  rintro ⟨hconv, hs, -⟩
  exact absurd (hs.symm.trans (hk hconv)) nofun

namespace Copies

/-- What is written into a run of the storage is written into the content. -/
def Accepts (v : Copies) (offset size : Nat) : MappedStorage → Prop
  | .shadow => ShadowAccepts v offset size
  | .object _ => ObjectAccepts v

/-- The object is mapped as a whole, and holds the content whether it is current or not. -/
structure Based (c : ByteArray) (v : Copies) (b : MapBase) : Prop where
  position : b.position = 0
  object : v.object = some ⟨b.handle, 0⟩
  held : v.held = some c
  unpinned : v.pinned = false
  allowed : v.objectAllowed = true

theorem Based.openedInShadow {c : ByteArray} {v : Copies} {b : MapBase} (h : Based c v b)
    (write : Bool) (r : ByteRange) : Based c (v.openedInShadow c write r) b := by
  unfold Copies.openedInShadow
  split <;> exact ⟨h.position, h.object, h.held, h.unpinned, h.allowed⟩

end Copies

theorem DirtySpans.Covers.lt_size {d : DirtySpans} {i : Nat} (h : d.Covers i) (hd : d.Fits) :
    i < d.size := by
  obtain ⟨r, hr, -, hi⟩ := h
  exact Nat.lt_of_lt_of_le hi (hd r hr)

/-- A run of the shadow that may be written in place still may after a mapping for writing. -/
theorem ShadowAccepts.openedInShadow {k : Bool} {c : ByteArray} {v : Copies} {offset size : Nat}
    (ha : ShadowAccepts v offset size) (h : Coherent k c v) (r : ByteRange) :
    ShadowAccepts (v.openedInShadow c true r) offset size where
  current := by simp [Copies.openedInShadow, Copies.mirrored, Copies.markStale]
  alone := by simp [Copies.openedInShadow, Copies.markStale]
  written := by simp [Copies.openedInShadow, Copies.markStale]
  lacked hheld i hlow hhigh := by
    have hdirty : (v.openedInShadow c true r).dirty = v.dirty.mark r.offset r.size := by
      simp [Copies.openedInShadow, Copies.markStale, Copies.mirrored]
    rw [hdirty]
    have hcovers := ha.lacked hheld i hlow hhigh
    exact hcovers.mark (hcovers.lt_size h.spans) r.offset r.size

section InPlace

variable {k : Bool} {c data : ByteArray} {v : Copies} {offset size start : Nat}

/-- What is written into the shadow is in the content, where the shadow accepts it; nothing may be
    written anywhere. -/
theorem Coherent.spliceShadow (h : Coherent k c v)
    (ha : 0 < size → ShadowAccepts v offset size) (hlow : offset ≤ start)
    (hhigh : start + data.size ≤ offset + size) (hfit : offset + size ≤ v.size) :
    Coherent k (Bytes.splice c start data)
      { v with shadow := v.shadow.map (Bytes.splice · start data) } := by
  by_cases hd : data.size = 0
  · have hmap : v.shadow.map (Bytes.splice · start data) = v.shadow := by
      cases v.shadow with
      | none => rfl
      | some m => exact congrArg some (Bytes.splice_empty m start hd)
    rw [Bytes.splice_empty c start hd, hmap]
    exact h
  · have ha' := ha (by omega)
    rw [h.mirrored ha'.current]
    exact ha'.writtenInPlace h hlow hhigh hfit

/-- The same for the object. -/
theorem Coherent.spliceHeld (h : Coherent k c v) (hheld : v.held = some c)
    (ha : 0 < data.size → ObjectAccepts v) :
    Coherent k (Bytes.splice c start data) { v with held := some (Bytes.splice c start data) } := by
  by_cases hd : data.size = 0
  · rw [Bytes.splice_empty c start hd, ← hheld]
    exact h
  · exact (ha (by omega)).writtenInPlace h (Bytes.size_splice _ _ _)

end InPlace

namespace Site

variable {s t y : Site MemoryDevice} {c : ByteArray} {j : Journal}

/-! ## 2. Read from elsewhere -/

/-- The buffer is read as `c`, and not from that storage. -/
inductive Elsewhere (c : ByteArray) (s : Site MemoryDevice) : MappedStorage → Prop where
  | inShadow {h : ObjectHandle} (written : s.buffer.locations.meets Location.sentinel = false)
      (current : s.buffer.locations.has Location.sysmem = true)
      (alone : s.buffer.locations.has Location.gpuObject = false)
      (holds : s.buffer.shadow = some c) : Elsewhere c s (.object h)
  | inObject {h : ObjectHandle} (written : s.buffer.locations.meets Location.sentinel = false)
      (current : s.buffer.locations.has Location.gpuObject = true)
      (plain : s.buffer.isConverted = false) (object : s.copies.object = some ⟨h, 0⟩)
      (holds : s.copies.held = some c) (whole : c.size = s.buffer.size) : Elsewhere c s .shadow

namespace Elsewhere

variable {st : MappedStorage}

theorem address?_ne (h : Elsewhere c s st) : s.buffer.address? ≠ some st.address := by
  cases h with
  | inShadow written current alone holds =>
    rw [Buffer.address?_shadow current alone (by rw [holds]; rfl)]
    nofun
  | inObject written current plain object holds whole =>
    obtain ⟨o, ho, -, -⟩ := copies_object_some object
    rw [Buffer.address?_object ho current fun hk => absurd (plain.symm.trans hk) nofun]
    nofun

/-- The bytes are read from where the content is. -/
theorem reads (h : Elsewhere c s st) : Reads c s := by
  intro j
  show content.wp s j fun r _ _ => r = .ok c
  unfold content authoritative shadowBytes
  cases h with
  | inShadow written current alone holds =>
    have haddress := Buffer.address?_shadow current alone (by rw [holds]; rfl)
    simp only [Attempt.wp_bind, Attempt.wp_always, wp_current, Attempt.wp_ite, written,
      Bool.false_eq_true, if_false, Attempt.wp_pure, haddress, holds]
  | inObject written current plain object holds whole =>
    obtain ⟨o, ho, ha, hheld⟩ := copies_object_some object
    have hoff : o.offset = 0 := (Placement.mk.inj ha).2.symm
    have haddress := Buffer.address?_object ho current fun hk =>
      absurd (plain.symm.trans hk) Bool.false_ne_true
    rw [hoff] at haddress
    simp only [Attempt.wp_bind, Attempt.wp_always, wp_current, Attempt.wp_ite, written,
      Bool.false_eq_true, if_false, Attempt.wp_pure, haddress, wp_onDevice, Attempt.wp_answer]
    have hrun : 0 + s.buffer.size = c.size := (Nat.zero_add _).trans whole.symm
    refine (MemoryDevice.transfer_out (hheld.symm.trans holds) (Nat.le_of_eq hrun)
      (Bytes.size_zeros _) _).wp fun reply d j hpost => ?_
    obtain ⟨hok, hhost, _⟩ := hpost
    rw [hok, hhost, hrun]
    exact congrArg Except.ok (Bytes.extract_all (Nat.le_refl _))

/-- Bytes written into the other storage are not read back. -/
theorem write_ends (h : Elsewhere c s st) {m : Mapping} (hm : m.storage = st) (data : ByteArray) :
    (writeMapped m data).Ends s fun _ y =>
      Elsewhere c y st ∧ y.buffer.mapCount = s.buffer.mapCount := by
  intro j
  unfold writeMapped
  cases h with
  | inShadow written current alone holds =>
    simp only [hm, Step.wp_modify]
    exact ⟨.inShadow written current alone holds, trivial⟩
  | inObject written current plain object holds whole =>
    simp only [hm, wp_change]
    exact ⟨.inObject written current plain object holds whole, trivial⟩

/-- Unmapping changes neither copy. -/
theorem of_copies (h : Elsewhere c s st) {d : DirtySpans}
    (hcopies : y.copies = { s.copies with dirty := d })
    (hconv : y.buffer.isConverted = s.buffer.isConverted) : Elsewhere c y st := by
  have hloc : y.buffer.locations = s.buffer.locations := congrArg Copies.locations hcopies
  cases h with
  | inShadow written current alone holds =>
    rw [← hloc] at written current alone
    exact .inShadow written current alone ((congrArg Copies.shadow hcopies).trans holds)
  | inObject written current plain object holds whole =>
    rw [← hloc] at written current
    exact .inObject written current (hconv.trans plain)
      ((congrArg Copies.object hcopies).trans object) ((congrArg Copies.held hcopies).trans holds)
      (whole.trans (congrArg Copies.size hcopies).symm)

end Elsewhere

/-- One of several mappings released. -/
theorem unmap_inner {δ : Type} [Device δ] {s : Site δ} (hcount : 1 < s.buffer.mapCount) :
    unmap.Ends s fun _ y =>
    y = { s with buffer := { s.buffer with mapCount := s.buffer.mapCount - 1 } } := by
  intro j
  unfold unmap
  simp only [Step.wp_bind, wp_current, Step.wp_ite, Step.wp_note, wp_change, beq_iff_eq]
  rw [if_neg (by omega), if_pos hcount]
  trivial

theorem Elsewhere.unmap_ends {st : MappedStorage} (h : Elsewhere c s st)
    (hcount : 0 < s.buffer.mapCount) : unmap.Ends s fun _ y =>
      Elsewhere c y st ∧ y.buffer.mapCount = s.buffer.mapCount - 1 := by
  by_cases hlast : s.buffer.mapCount = 1
  · refine (unmap_last hlast).mono fun _ y ⟨hframe, hcopies, _⟩ => ⟨h.of_copies hcopies ?_, ?_⟩
    · exact congrArg (fun f : Frame => f.conversion.map.isSome) hframe
    · rw [hlast]
      exact congrArg Frame.mapCount hframe
  · refine (unmap_inner (by omega)).mono fun _ y hy => ?_
    subst hy
    exact ⟨h.of_copies rfl rfl, rfl⟩

/-! ## 3. Mapping on top of what is mapped -/

/-- The copies stand for the content `c`, whatever is mapped, on a device that does not shift
    mappings. -/
structure Steady (c : ByteArray) (s : Site MemoryDevice) : Prop
    extends Coherent s.buffer.isConverted c s.copies where
  backed : s.buffer.isConverted = true → s.buffer.pinned = true
  aligned : s.machine.device.shiftsMappings = false
  based : ∀ b, s.buffer.mapBase = some b → Copies.Based c s.copies b

/-- What was written in place so far may be written further. -/
def GoesOn (s y : Site MemoryDevice) : Prop :=
  ∀ offset size, s.copies.Accepts offset size s.buffer.mapped →
    y.copies.Accepts offset size y.buffer.mapped

theorem mapped_eq (h : y.frame = s.frame) : y.buffer.mapped = s.buffer.mapped := by
  have hbase : y.buffer.mapBase = s.buffer.mapBase := congrArg Frame.mapBase h
  unfold Buffer.mapped
  rw [hbase]

theorem GoesOn.of_eq (hcopies : y.copies = s.copies) (hframe : y.frame = s.frame) : GoesOn s y := by
  intro offset size ha
  rw [hcopies, mapped_eq hframe]
  exact ha

/-- A range is taken for a mapping: it may be written in place, like the ranges before, or the
    buffer is read from elsewhere now. The object is mapped by the outermost mapping alone. -/
structure Taken (c : ByteArray) (offset size : Nat) (write : Bool) (s y : Site MemoryDevice) :
    Prop where
  steady : Steady c y
  frame : y.frame = s.frame ∨
    (s.buffer.mapCount = 1 ∧ ∃ b, y.frame = { s.frame with mapBase := some b })
  accepts : (GoesOn s y ∧ (write = true → y.copies.Accepts offset size y.buffer.mapped)) ∨
    Elsewhere c y y.buffer.mapped

theorem Steady.plain_of_unpinned (h : Steady c s) (hp : s.buffer.pinned = false) :
    s.buffer.isConverted = false := by
  cases hc : s.buffer.isConverted with
  | false => rfl
  | true => exact absurd ((h.backed hc).symm.trans hp) nofun

/-- A mapping through the shadow. -/
theorem Steady.openShadow_ends {offset size : Nat} {flags : MapFlags} (h : Steady c s)
    (hpath : s.buffer.mapsShadow flags = true) (hfit : offset + size ≤ s.buffer.size) :
    (openShadow flags ⟨offset, size⟩).Ends s fun a y =>
      (a = .ok () ∧ Taken c offset size (flags.has MapFlags.write) s y) ∨
        ((∃ f, a = .error f) ∧ y = s) := by
  refine (Site.openShadow_ends h.toCoherent flags _).mono fun a y hy => ?_
  rcases hy with ⟨rfl, hroom, hcopies, hframe, hd⟩ | ⟨hf, hy, -⟩
  · refine .inl ⟨rfl, ⟨?_, ?_, ?_, ?_⟩, .inl hframe, ?_⟩
    · rw [isConverted_eq hframe, hcopies]
      exact coherent_openedInShadow h.toCoherent hroom _ _
    · intro hc
      rw [show y.buffer.pinned = _ from congrArg Copies.pinned hcopies,
        Copies.pinned_openedInShadow]
      rw [isConverted_eq hframe] at hc
      exact h.backed hc
    · rw [hd.shiftsMappings]
      exact h.aligned
    · intro b hb
      rw [hcopies]
      exact (h.based b ((congrArg Frame.mapBase hframe).symm.trans hb)).openedInShadow _ _
    · have hbase : y.buffer.mapBase = s.buffer.mapBase := congrArg Frame.mapBase hframe
      cases hw : flags.has MapFlags.write with
      | true =>
        rw [hw] at hcopies
        cases hb : s.buffer.mapBase with
        | none =>
          rw [Buffer.mapped_of_none (hbase.trans hb), hcopies]
          refine .inl ⟨fun offset size ha => ?_, fun _ => ?_⟩
          · rw [Buffer.mapped_of_none hb] at ha
            rw [Buffer.mapped_of_none (hbase.trans hb), hcopies]
            exact ha.openedInShadow h.toCoherent _
          · exact accepts_openedInShadow h.toCoherent hfit
              (ByteRange.reports_mapped false offset size)
        | some b =>
          rw [Buffer.mapped_of_some (hbase.trans hb)]
          have hloc : y.buffer.locations = _ := congrArg Copies.locations hcopies
          refine .inr (.inShadow ?_ ?_ ?_ ?_)
          · rw [hloc]
            simp [Copies.openedInShadow, Copies.markStale]
          · rw [hloc]
            exact Copies.current_openedInShadow _ _ _ _
          · rw [hloc]
            simp [Copies.openedInShadow, Copies.markStale]
          · exact congrArg Copies.shadow hcopies
      | false =>
        rw [hw] at hcopies
        refine .inl ⟨?_, by simp⟩
        cases hs : s.buffer.locations.has Location.sysmem with
        | true =>
          exact .of_eq (hcopies.trans (Copies.mirrored_eq_self (h.mirrored hs) hs)) hframe
        | false =>
          intro offset size ha
          cases hb : s.buffer.mapBase with
          | none =>
            rw [Buffer.mapped_of_none hb] at ha
            exact absurd (hs.symm.trans ha.current) Bool.false_ne_true
          | some b =>
            -- the object is mapped, so that only a current shadow is a reason to take it
            have hbased := h.based b hb
            unfold Buffer.mapsShadow at hpath
            rw [hw, hs, show s.buffer.pinned = false from hbased.unpinned,
              show s.buffer.objectAllowed = true from hbased.allowed] at hpath
            cases hpath
  · exact .inr ⟨hf, hy⟩

/-- What is mapped through the object for reading has no current shadow. -/
theorem stale_of_mapsShadow_eq_false {b : Buffer} {flags : MapFlags}
    (h : b.mapsShadow flags = false) (hw : flags.has MapFlags.write = false) :
    b.locations.has Location.sysmem = false := by
  unfold Buffer.mapsShadow at h
  rw [hw] at h
  simp only [Bool.false_and, Bool.false_or, Bool.not_false, Bool.true_and,
    Bool.or_eq_false_iff] at h
  exact h.1.1

/-- Where the object was refused, nothing changed for what is mapped. -/
theorem Steady.refused_ends (h : Steady c s) (hy : Keeps c s y)
    (hcopies : y.copies = s.copies ∨ (s.buffer.object = none ∧ y.copies = s.refused)) :
    Steady c y ∧ GoesOn s y := by
  have hbaseless (hobj : s.buffer.object = none) : s.buffer.mapBase = none := by
    cases hb : s.buffer.mapBase with
    | none => rfl
    | some b =>
      have hsome := copies_object_isSome (s := s)
      rw [(h.based b hb).object, hobj] at hsome
      cases hsome
  have hbase : y.buffer.mapBase = s.buffer.mapBase := congrArg Frame.mapBase hy.frame
  have haligned := hy.spares.shiftsMappings.trans h.aligned
  refine ⟨⟨hy.coherent', fun hc => ?_, haligned, fun b hb => ?_⟩, ?_⟩
  · rw [isConverted_eq hy.frame] at hc
    exact hy.pinned (h.backed hc)
  · rw [hbase] at hb
    rcases hcopies with hcopies | ⟨hobj, -⟩
    · rw [hcopies]
      exact h.based b hb
    · exact nomatch hb.symm.trans (hbaseless hobj)
  · rcases hcopies with hcopies | ⟨hobj, hcopies⟩
    · exact .of_eq hcopies hy.frame
    · intro offset size ha
      rw [Buffer.mapped_of_none (hbaseless hobj)] at ha
      rw [Buffer.mapped_of_none (hbase.trans (hbaseless hobj)), hcopies]
      refine ⟨ha.current, ha.alone, ha.written, fun hheld => ?_⟩
      rw [show s.refused.held = none from held_none hobj] at hheld
      cases hheld

/-- The object is current, and the only current copy if it is to be written. -/
structure Claimed (c : ByteArray) (write : Bool) (s y : Site MemoryDevice) : Prop where
  coherent : Coherent false c y.copies
  current : y.buffer.locations.has Location.gpuObject = true
  plain : y.buffer.isConverted = false
  aligned : y.machine.device.shiftsMappings = false
  frame : y.frame = s.frame
  unpinned : y.buffer.pinned = false
  allowed : y.buffer.objectAllowed = true
  object : ∀ a, s.copies.object = some a → y.copies.object = some a
  writes : write = true → ObjectAccepts y.copies ∧
    y.buffer.locations.meets Location.sentinel = false
  reads : write = false → s.buffer.locations.has Location.sysmem = false ∧
    (s.buffer.locations.has Location.gpuObject = true → y.copies = s.copies)

theorem Claimed.based {write : Bool} (h : Claimed c write s y) {b : MapBase} (hb : b.position = 0)
    (hobj : y.copies.object = some ⟨b.handle, 0⟩) : Copies.Based c y.copies b :=
  ⟨hb, hobj, h.coherent.current h.current nofun, h.unpinned, h.allowed⟩

theorem Claimed.placement {write : Bool} (h : Claimed c write s y) :
    ∃ o, y.buffer.object = some o ∧ y.copies.object = some ⟨o.handle, 0⟩ := by
  obtain ⟨o, -, hobj, hoff, -⟩ := currentObject_eq h.coherent h.current
  refine ⟨o, hobj, ?_⟩
  unfold copies
  rw [hobj, ← hoff]
  rfl

/-- The outermost mapping maps the object, which may be written if that is what it is for. -/
theorem Claimed.openMapping_ends {offset size : Nat} {write : Bool} {flags : MapFlags}
    {r : ByteRange} (h : Claimed c write s y) (hcount : s.buffer.mapCount = 1)
    (hbase : s.buffer.mapBase = none) : (openMapping flags r).Ends y fun a z =>
      a = .ok () ∧ Taken c offset size write s z := by
  obtain ⟨o, hobj, hplace⟩ := h.placement
  refine (openMapping_aligned_ends h.aligned h.coherent h.current hobj).mono
    fun a z ⟨hok, hbuffer, hd⟩ => ?_
  obtain ⟨b, m⟩ := z
  cases hbuffer
  let z : Site MemoryDevice := ⟨{ y.buffer with mapBase := some ⟨o.handle, 0⟩ }, m⟩
  have hz : z.copies = y.copies := copies_untouched (s := y) hd
  refine ⟨hok, ⟨?_, fun hc => ?_, hd.shiftsMappings.trans h.aligned, fun b hb => ?_⟩,
    .inr ⟨hcount, ⟨o.handle, 0⟩, ?_⟩, .inl ⟨fun offset size ha => ?_, fun hw => ?_⟩⟩
  · show Coherent y.buffer.isConverted c z.copies
    rw [h.plain, hz]
    exact h.coherent
  · exact absurd (h.plain.symm.trans hc) nofun
  · cases hb
    exact hz ▸ h.based rfl hplace
  · exact congrArg (fun f : Frame => { f with mapBase := some ⟨o.handle, 0⟩ }) h.frame
  · rw [Buffer.mapped_of_none hbase] at ha
    cases write with
    | true => exact hz ▸ (h.writes rfl).1
    | false => exact absurd ((h.reads rfl).1.symm.trans ha.current) nofun
  · exact hz ▸ (h.writes hw).1

/-- Another mapping maps nothing more. Where everything is mapped in the shadow, what was the shadow
    is now the object. -/
theorem Claimed.taken {offset size : Nat} {write : Bool} (hs : Steady c s)
    (h : Claimed c write s y) : Taken c offset size write s y := by
  have hbase : y.buffer.mapBase = s.buffer.mapBase := congrArg Frame.mapBase h.frame
  refine ⟨⟨?_, fun hc => ?_, h.aligned, fun b hb => ?_⟩, .inl h.frame, ?_⟩
  · rw [h.plain]
    exact h.coherent
  · exact absurd (h.plain.symm.trans hc) nofun
  · have hb' := hs.based b (hbase.symm.trans hb)
    exact h.based hb'.position (h.object _ hb'.object)
  · cases hb : s.buffer.mapBase with
    | some b =>
      rw [Buffer.mapped_of_some (hbase.trans hb)]
      refine .inl ⟨fun offset size ha => ?_, fun hw => (h.writes hw).1⟩
      rw [Buffer.mapped_of_some hb] at ha
      rw [Buffer.mapped_of_some (hbase.trans hb)]
      cases write with
      | true => exact (h.writes rfl).1
      | false =>
        rw [(h.reads rfl).2 ha.current]
        exact ha
    | none =>
      rw [Buffer.mapped_of_none (hbase.trans hb)]
      cases write with
      | true =>
        obtain ⟨o, -, hplace⟩ := h.placement
        exact .inr (.inObject (h.writes rfl).2 h.current h.plain hplace
          (h.coherent.current h.current nofun) h.coherent.size)
      | false =>
        refine .inl ⟨fun offset size ha => ?_, nofun⟩
        rw [Buffer.mapped_of_none hb] at ha
        exact absurd ((h.reads rfl).1.symm.trans ha.current) nofun

/-- A mapping through the object. -/
theorem Steady.openObject_ends {offset size : Nat} {flags : MapFlags} (h : Steady c s)
    (hpath : s.buffer.mapsShadow flags = false) (hkeep : flags.has MapFlags.discard = false)
    (hfirst : s.buffer.mapCount = 1 → s.buffer.mapBase = none) :
    (openObject flags ⟨offset, size⟩).Ends s fun a y =>
      (a = .ok () ∧ Taken c offset size (flags.has MapFlags.write) s y) ∨
        ((∃ f, a = .error f) ∧ Steady c y ∧ GoesOn s y ∧ y.frame = s.frame) := by
  obtain ⟨hp, hallowed⟩ := mapsShadow_eq_false hpath
  have hplain := h.plain_of_unpinned hp
  intro j
  refine wp_openObject hkeep h.toCoherent (fun f y j hy hcopies _ => ?_)
    fun t y j ht hg hsame hallow hcopies hframe hshifts => ?_
  · obtain ⟨hsteady, hgoes⟩ := h.refused_ends hy hcopies
    exact .inr ⟨⟨f, rfl⟩, hsteady, hgoes, hy.frame⟩
  have hloc : y.buffer.locations = _ := congrArg Copies.locations hcopies
  have hkept : y.buffer.pinned = t.buffer.pinned ∧ y.copies.object = t.copies.object ∧
      y.buffer.objectAllowed = t.buffer.objectAllowed := by
    rw [show y.buffer.pinned = _ from congrArg Copies.pinned hcopies, hcopies,
      show y.buffer.objectAllowed = _ from congrArg Copies.objectAllowed hcopies]
    unfold Copies.openedInObject
    split <;> exact ⟨rfl, rfl, rfl⟩
  have hclaimed : Claimed c (flags.has MapFlags.write) s y := by
    refine ⟨?_, ?_, (isConverted_eq hframe).trans hplain, hshifts.trans h.aligned, hframe, ?_,
      hkept.2.2.trans (hallow.trans hallowed), fun a ha => ?_, fun hw => ?_, fun hw => ?_⟩
    · rw [hcopies]
      exact coherent_openedInObject (hplain ▸ ht.coherent) hg _ _
    · rw [hloc]
      exact Copies.current_openedInObject hg _ _
    · rw [hkept.1]
      exact Bool.eq_false_iff.mpr fun hpin =>
        absurd ((ht.unpinned hplain hpin).symm.trans hp) nofun
    · rw [hkept.2.1, ht.object, ha]
      rw [← copies_object_isSome, ha]
      rfl
    · rw [hcopies, hloc, hw]
      exact ⟨accepts_openedInObject hg _, by simp [Copies.openedInObject]⟩
    · refine ⟨stale_of_mapsShadow_eq_false hpath hw, fun hcurrent => ?_⟩
      rw [hcopies, hw, hsame hcurrent]
      rfl
  split
  · rename_i hcount
    have hscount : s.buffer.mapCount = 1 := (congrArg Frame.mapCount hframe).symm.trans hcount
    exact (hclaimed.openMapping_ends hscount (hfirst hscount)).wp fun a z j hz => .inl hz
  · exact .inl ⟨rfl, hclaimed.taken h⟩

/-- A range is mapped where everything is, unless nothing is there. -/
theorem Steady.mapping?_cases (h : Steady c s) (offset size : Nat) :
    s.buffer.mapping? offset size = some ⟨s.buffer.mapped, offset, size⟩ ∨
      (s.buffer.mapping? offset size = none ∧ s.buffer.mapBase = none) := by
  unfold Buffer.mapping? Buffer.mapped
  cases hb : s.buffer.mapBase with
  | some b =>
    simp only [(h.based b hb).position, Nat.zero_add]
    exact .inl trivial
  | none =>
    by_cases hs : s.buffer.shadow.isSome = true
    · exact .inl (if_pos hs)
    · exact .inr ⟨if_neg hs, rfl⟩

/-- **A range mapped on top of what is mapped**: it points to where everything does. -/
theorem Steady.mapPrepared_ends {offset size : Nat} {flags : MapFlags} (h : Steady c s)
    (hkeep : flags.has MapFlags.discard = false)
    (hfirst : s.buffer.mapCount = 1 → s.buffer.mapBase = none)
    (hfit : offset + size ≤ s.buffer.size) : (mapPrepared offset size flags).Ends s fun a y =>
      (a = .ok ⟨y.buffer.mapped, offset, size⟩ ∧
          Taken c offset size (flags.has MapFlags.write) s y) ∨
        ((∃ f, a = .error f) ∧ Steady c y ∧ y.frame = s.frame ∧
          (GoesOn s y ∨ Elsewhere c y y.buffer.mapped)) := by
  have hdone {y : Site MemoryDevice} (hy : Taken c offset size (flags.has MapFlags.write) s y)
      (j : Journal) :
      (handOut offset size).wp y j fun a z _ =>
        (a = .ok ⟨z.buffer.mapped, offset, size⟩ ∧
          Taken c offset size (flags.has MapFlags.write) s z) ∨
        ((∃ f, a = .error f) ∧ Steady c z ∧ z.frame = s.frame ∧
          (GoesOn s z ∨ Elsewhere c z z.buffer.mapped)) := by
    rcases hy.steady.mapping?_cases offset size with hm | ⟨hm, hbase⟩
    · refine (handOut_some hm).wp fun a z j ha => ?_
      obtain ⟨rfl, rfl⟩ := ha
      exact .inl ⟨rfl, hy⟩
    · refine (handOut_none hm).wp fun a z j ha => ?_
      obtain ⟨⟨f, rfl⟩, rfl⟩ := ha
      refine .inr ⟨⟨_, rfl⟩, hy.steady, ?_, hy.accepts.imp_left And.left⟩
      rcases hy.frame with hframe | ⟨-, b, hframe⟩
      · exact hframe
      · cases (congrArg Frame.mapBase hframe).symm.trans hbase
  intro j
  rw [mapPrepared_eq]
  simp only [Attempt.wp_bind, Attempt.wp_always, wp_current, Attempt.wp_ite, hkeep,
    Bool.false_eq_true, if_false] at hdone ⊢
  cases hpath : s.buffer.mapsShadow flags with
  | true =>
    rw [if_pos rfl]
    refine (h.openShadow_ends hpath hfit).wp fun a y j hy => ?_
    rcases hy with ⟨rfl, hy⟩ | ⟨⟨f, rfl⟩, rfl⟩
    · exact hdone hy j
    · exact .inr ⟨⟨f, rfl⟩, h, rfl, .inl fun _ _ ha => ha⟩
  | false =>
    rw [if_neg Bool.false_ne_true]
    refine (h.openObject_ends hpath hkeep hfirst).wp fun a y j hy => ?_
    rcases hy with ⟨rfl, hy⟩ | ⟨⟨f, rfl⟩, hsteady, hgoes, hframe⟩
    · exact hdone hy j
    · exact .inr ⟨⟨f, rfl⟩, hsteady, hframe, .inl hgoes⟩

/-- **Bytes written where everything is mapped are in the content.** -/
theorem Steady.writeMapped_ends {offset size start : Nat} {data : ByteArray} (h : Steady c s)
    (ha : 0 < size → s.copies.Accepts offset size s.buffer.mapped) (hlow : offset ≤ start)
    (hhigh : start + data.size ≤ offset + size) (hfit : offset + size ≤ c.size) :
    (writeMapped ⟨s.buffer.mapped, start, data.size⟩ data).Ends s fun _ y =>
      Steady (Bytes.splice c start data) y ∧ GoesOn s y ∧ y.frame = s.frame := by
  intro j
  unfold writeMapped
  cases hb : s.buffer.mapBase with
  | none =>
    rw [Buffer.mapped_of_none hb] at ha ⊢
    simp only [wp_change]
    let t : Site MemoryDevice :=
      { s with buffer := { s.buffer with
          shadow := s.buffer.shadow.map (Bytes.splice · start data) } }
    refine ⟨⟨?_, h.backed, h.aligned, fun b hb' => by cases hb.symm.trans hb'⟩,
      fun offset size ha => ?_, rfl⟩
    · exact h.toCoherent.spliceShadow ha hlow hhigh (Nat.le_trans hfit (Nat.le_of_eq h.size))
    · rw [Buffer.mapped_of_none hb] at ha
      rw [show Buffer.mapped _ = .shadow from Buffer.mapped_of_none (b := t.buffer) hb]
      exact ⟨ha.current, ha.alone, ha.written, ha.lacked⟩
  | some b =>
    rw [Buffer.mapped_of_some hb] at ha ⊢
    simp only [Step.wp_modify]
    have hbased := h.based b hb
    obtain ⟨o, ho, hplace, hheld⟩ := copies_object_some hbased.object
    have hhandle : b.handle = o.handle := (Placement.mk.inj hplace).1
    have hroom : start + data.size ≤ c.size := by omega
    have hd := MemoryDevice.rewrites_poke (hheld.symm.trans hbased.held) hroom
    rw [← hhandle] at hd
    let t : Site MemoryDevice :=
      { s with machine.device := MemoryDevice.poke b.handle start data s.machine.device }
    have ht : t.copies = { s.copies with held := some (Bytes.splice c start data) } :=
      copies_rewrites ho (by rw [← hhandle]; exact hd)
    show Steady _ t ∧ GoesOn s t ∧ t.frame = s.frame
    refine ⟨⟨?_, h.backed, hd.shiftsMappings.trans h.aligned, fun b' hb' => ?_⟩,
      fun offset size ha => ?_, rfl⟩
    · rw [ht]
      exact h.toCoherent.spliceHeld hbased.held fun hsome => ha (by omega)
    · cases hb.symm.trans hb'
      rw [ht]
      exact ⟨hbased.position, hbased.object, rfl, hbased.unpinned, hbased.allowed⟩
    · rw [Buffer.mapped_of_some hb] at ha
      rw [Buffer.mapped_of_some (b := t.buffer) hb, ht]
      exact ⟨ha.current, ha.alone, ha.written⟩

end Site

end BufferCoherence
