import BufferCoherence.Proofs.Copying
import BufferCoherence.Proofs.Lifecycle

/-!
# Mapped ranges

A mapping hands out a place in one copy, and what is written there changes the content only as long
as that copy stands for it. This file says when it does, and what a whole write or read through a
mapping comes to:

* `ShadowAccepts` and `ObjectAccepts` are the conditions under which a copy may be written in place;
* `openShadow_ends` and `wp_openObject` are what is prepared for a mapping, at any depth of nesting;
* `write_ends` and `read_ends` are the operations that map, touch the range and unmap.
-/

namespace BufferCoherence

/-- The report of `r` counts all of a run as changed. -/
def ByteRange.Reports (r : ByteRange) (offset size : Nat) : Prop :=
  ∀ (d : DirtySpans) (i : Nat), i < d.size → offset ≤ i → i < offset + size →
    (d.mark r.offset r.size).Covers i

/-- What a mapping reports as changed is its range, or everything. -/
theorem ByteRange.reports_mapped (discard : Bool) (offset size : Nat) :
    (if discard then ⟨0, 0⟩ else ⟨offset, size⟩ : ByteRange).Reports offset size := by
  intro d i hi hlow hhigh
  cases discard with
  | false => exact DirtySpans.covers_mark hi ⟨hlow, hhigh⟩
  | true => exact DirtySpans.covers_markAll hi

section InPlace

variable {k : Bool} {c c' : ByteArray} {v : Copies} {offset size : Nat}

/-! ## 1. Bytes written in place -/

/-- A run of the shadow may be written in place: the object is stale there. -/
structure ShadowAccepts (v : Copies) (offset size : Nat) : Prop where
  current : v.locations.has Location.sysmem = true
  alone : v.locations.has Location.gpuObject = false
  written : v.locations.has Location.cleared = false
  lacked : v.held.isSome = true → ∀ i, offset ≤ i → i < offset + size → v.dirty.Covers i

/-- The object may be written in place: it is the only current copy. -/
structure ObjectAccepts (v : Copies) : Prop where
  current : v.locations.has Location.gpuObject = true
  alone : v.locations.has Location.sysmem = false
  written : v.locations.has Location.cleared = false

theorem ShadowAccepts.writtenInPlace (ha : ShadowAccepts v offset size) (h : Coherent k c v)
    {start : Nat} {data : ByteArray} (hlow : offset ≤ start)
    (hhigh : start + data.size ≤ offset + size) (hfit : offset + size ≤ v.size) :
    Coherent k (Bytes.splice c start data)
      { v with shadow := some (Bytes.splice c start data) } := by
  have hroom := (h.shadow c (h.mirrored ha.current)).2
  have hsize : (Bytes.splice c start data).size = v.size := (Bytes.size_splice _ _ _).trans h.size
  refine { h with
    size := hsize
    shadow := fun m hm => by
      cases hm
      exact ⟨hsize, hroom⟩
    pinned := fun _ => rfl
    cleared := fun hc => absurd (ha.written.symm.trans hc) nofun
    mirrored := fun _ => rfl
    current := fun hg => absurd (ha.alone.symm.trans hg) nofun
    stale := fun b hb hg hk hkind i hi => ?_ }
  have hout : ¬ (start ≤ i ∧ i < start + data.size) := fun hr =>
    hi (ha.lacked (Option.isSome_iff_exists.mpr ⟨b, hb⟩) i (by omega) (by omega))
  rw [Bytes.byteAt?_splice (by rw [h.size]; omega), if_neg hout]
  exact h.stale b hb hg hk hkind i hi

theorem ObjectAccepts.writtenInPlace (ha : ObjectAccepts v) (h : Coherent k c v)
    (hsize : c'.size = c.size) : Coherent k c' { v with held := some c' } :=
  { h with
    size := hsize.trans h.size
    cleared := fun hc => absurd (ha.written.symm.trans hc) nofun
    mirrored := fun hs => absurd (ha.alone.symm.trans hs) nofun
    object := fun a hobj => by
      obtain ⟨hoff, b, -, -, hroom⟩ := h.object a hobj
      exact ⟨hoff, c', rfl, hsize.trans h.size, hroom⟩
    held := fun b hb => by
      cases hb
      exact hsize.trans h.size
    current := fun _ _ => rfl
    stale := fun b _ hg => absurd (ha.current.symm.trans hg) nofun }

/-! ## 2. Copies prepared for a mapping -/

namespace Copies

/-- The copies once a mapping was prepared in the shadow. -/
def openedInShadow (v : Copies) (c : ByteArray) (write : Bool) (r : ByteRange) : Copies :=
  if write then (v.mirrored c).markStale (Location.all \ Location.sysmem) r.offset r.size
  else v.mirrored c

theorem pinned_openedInShadow (v : Copies) (c : ByteArray) (write : Bool) (r : ByteRange) :
    (v.openedInShadow c write r).pinned = v.pinned := by
  unfold openedInShadow
  split <;> rfl

theorem current_openedInShadow (v : Copies) (c : ByteArray) (write : Bool) (r : ByteRange) :
    (v.openedInShadow c write r).locations.has Location.sysmem = true := by
  unfold openedInShadow
  split <;> simp [mirrored, markStale]

/-- The copies once a mapping was prepared in the object, which is current already. -/
def openedInObject (v : Copies) (write : Bool) (r : ByteRange) : Copies :=
  if write then
    { v with
      locations := v.locations \ (Location.all \ Location.gpuObject)
      dirty := v.dirty.mark r.offset r.size }
  else v

theorem current_openedInObject {v : Copies} (hg : v.locations.has Location.gpuObject = true)
    (write : Bool) (r : ByteRange) :
    (v.openedInObject write r).locations.has Location.gpuObject = true := by
  unfold openedInObject
  split
  · simp [hg]
  · exact hg

theorem kind_openedInObject (v : Copies) (write : Bool) (r : ByteRange) :
    (v.openedInObject write r).kind = v.kind := by
  unfold openedInObject
  split <;> rfl

end Copies

/-- A mapping through the shadow keeps the copies coherent. -/
theorem coherent_openedInShadow (h : Coherent k c v) (hroom : v.size ≤ Bytes.largestRun)
    (write : Bool) (r : ByteRange) : Coherent k c (v.openedInShadow c write r) := by
  unfold Copies.openedInShadow
  cases write with
  | false => exact h.mirror hroom
  | true =>
    have hs : (v.mirrored c).locations.has Location.sysmem = true := by simp [Copies.mirrored]
    exact ((h.mirror hroom).storedInShadow hs rfl fun _ _ => rfl).toCoherent

/-- A mapping for writing through the shadow settles the copies. -/
theorem settled_openedInShadow (h : Coherent k c v) (hroom : v.size ≤ Bytes.largestRun)
    {write : Bool} (hsettled : write = false → Settled k c v) (r : ByteRange) :
    Settled k c (v.openedInShadow c write r) := by
  unfold Copies.openedInShadow
  cases write with
  | false => exact Site.settled_mirrored (hsettled rfl) hroom
  | true =>
    exact (h.mirror hroom).storedInShadow (by simp [Copies.mirrored]) rfl fun _ _ => rfl

theorem accepts_openedInShadow (h : Coherent k c v) (hfit : offset + size ≤ v.size) {r : ByteRange}
    (hr : r.Reports offset size) : ShadowAccepts
      (v.openedInShadow c true r) offset size where
  current := by simp [Copies.openedInShadow, Copies.mirrored, Copies.markStale]
  alone := by simp [Copies.openedInShadow, Copies.markStale]
  written := by simp [Copies.openedInShadow, Copies.markStale]
  lacked _ i hlow hhigh := by
    have hdirty : (v.openedInShadow c true r).dirty = v.dirty.mark r.offset r.size := by
      simp [Copies.openedInShadow, Copies.markStale, Copies.mirrored]
    rw [hdirty]
    exact hr v.dirty i (by rw [h.spanned]; omega) hlow hhigh

/-- A mapping through the object keeps the copies coherent. -/
theorem coherent_openedInObject (h : Coherent false c v)
    (hg : v.locations.has Location.gpuObject = true) (write : Bool) (r : ByteRange) :
    Coherent false c (v.openedInObject write r) := by
  unfold Copies.openedInObject
  cases write with
  | false => exact h
  | true =>
    exact { h with
      spanned := (DirtySpans.size_mark _ _ _).trans h.spanned
      spans := h.spans.mark _ _
      kept := by simp
      somewhere := .inr (.inl (by simp [hg]))
      cleared := fun hc => by simp at hc
      mirrored := fun hs => by simp at hs
      present := fun _ => h.present hg
      current := fun _ _ => h.current hg nofun
      stale := fun b _ hg' => by simp [hg] at hg' }

/-- A mapping that throws the content away makes whatever the object holds the content. -/
theorem coherent_discardedInObject (h : Coherent k c v) {a : Placement} (ha : v.object = some a)
    {b : ByteArray} (hb : v.held = some b) (r : ByteRange) :
    Coherent false b ((v.markValid Location.gpuObject).openedInObject true r) := by
  have hmark : (v.markValid Location.gpuObject).openedInObject true r =
      { v with
        locations := (v.locations ∪ Location.gpuObject) \ (Location.all \ Location.gpuObject)
        dirty := v.dirty.clear.mark r.offset r.size } := by
    rw [Copies.markValid_gpuObject]
    rfl
  rw [hmark]
  exact { h with
    size := h.held b hb
    spanned := (DirtySpans.size_mark _ _ _).trans h.spanned
    spans := (DirtySpans.Fits.clear _).mark _ _
    kept := by simp
    somewhere := .inr (.inl (by simp))
    cleared := fun hc => by simp at hc
    mirrored := fun hs => by simp at hs
    present := fun _ => Option.isSome_iff_exists.mpr ⟨a, ha⟩
    current := fun _ _ => hb
    stale := fun b' _ hg => by simp at hg }

theorem ObjectAccepts.released (ha : ObjectAccepts v) : ObjectAccepts v.released := by
  cases hp : v.pinned with
  | true =>
    rw [Copies.released_of_pinned hp]
    exact ha
  | false =>
    rw [Copies.released_of_not_pinned hp]
    exact ⟨by simp [ha.current], by simp, by simp [ha.written]⟩

theorem accepts_openedInObject (hg : v.locations.has Location.gpuObject = true) (r : ByteRange) :
    ObjectAccepts (v.openedInObject true r) where
  current := by simp [Copies.openedInObject, hg]
  alone := by simp [Copies.openedInObject]
  written := by simp [Copies.openedInObject]

end InPlace

namespace Site

variable {s t : Site MemoryDevice} {k : Bool} {c : ByteArray} {j : Journal}

/-! ## 3. Preparing a mapping -/

theorem openShadow_ends (h : Coherent k c s.copies) (flags : MapFlags) (r : ByteRange) :
    (openShadow flags r).Ends s fun a y =>
      (a = .ok () ∧ s.buffer.size ≤ Bytes.largestRun ∧
        y.copies = s.copies.openedInShadow c (flags.has MapFlags.write) r ∧ y.frame = s.frame ∧
        s.machine.device.SameKnobs y.machine.device) ∨
      ((∃ f, a = .error f) ∧ y = s ∧ Bytes.largestRun < s.buffer.size) := by
  intro j
  unfold openShadow
  simp only [Attempt.wp_bind]
  refine (refreshShadow_ends h).wp fun a t j ht => ?_
  rcases ht with ⟨rfl, hroom, hcopies, hframe, -, hd⟩ | ⟨⟨f, rfl⟩, hy, hlarge⟩
  · simp only [Attempt.wp_ite, Attempt.wp_always, wp_declareStaleIn, Attempt.wp_pure]
    unfold Copies.openedInShadow
    cases flags.has MapFlags.write with
    | true =>
      refine .inl ⟨trivial, hroom, ?_, hframe, hd.toSameKnobs⟩
      rw [copies_markStale, hcopies]
      rfl
    | false => exact .inl ⟨trivial, hroom, hcopies, hframe, hd.toSameKnobs⟩
  · exact .inr ⟨⟨f, rfl⟩, hy, hlarge⟩

theorem claimObject_ends (s : Site MemoryDevice) (flags : MapFlags) (r : ByteRange) :
    (claimObject flags r).Ends s fun _ y =>
      y.copies = s.copies.openedInObject (flags.has MapFlags.write) r ∧ y.frame = s.frame ∧
        y.machine = s.machine := by
  intro j
  unfold claimObject Copies.openedInObject
  simp only [Step.wp_ite, Step.wp_bind, wp_declareStale, wp_markDirty, Step.wp_pure]
  cases flags.has MapFlags.write with
  | false => exact ⟨rfl, trivial, trivial⟩
  | true =>
    refine ⟨?_, rfl, trivial⟩
    unfold copies objectBytes? Buffer.markStale
    simp

section Claiming

variable {δ : Type} [Device δ]

/-- The object made ready for a mapping: its bytes loaded, or thrown away. -/
def readyObject (flags : MapFlags) : Attempt (Site δ) Unit :=
  if flags.has MapFlags.discard then discardIntoObject else refreshObject

/-- The last steps of a mapping of the object: it is claimed, and mapped where nothing else is. -/
def openClaimed (flags : MapFlags) (dirty : ByteRange) : Attempt (Site δ) Unit := do
  always (claimObject flags dirty)
  let b ← always current
  if flags.has MapFlags.discard && b.shadow.isSome then always giveUpShadow
  if b.mapCount == 1 then openMapping flags dirty

theorem openObject_eq (flags : MapFlags) (dirty : ByteRange) :
    (openObject flags dirty : Attempt (Site δ) Unit) = (do
      readyObject flags
      openClaimed flags dirty) := by
  unfold openObject readyObject
  dsimp only
  split <;> rfl

end Claiming

/-- What is prepared in the object, up to where the outermost mapping maps it; `t` is the site once
    the object is current. -/
theorem wp_openObject {flags : MapFlags} {r : ByteRange}
    {Q : Except Failure Unit → Site MemoryDevice → Journal → Prop}
    (hkeep : flags.has MapFlags.discard = false)
    (h : Coherent s.buffer.isConverted c s.copies)
    (hfail : ∀ f y j, Keeps c s y →
      (y.copies = s.copies ∨ (s.buffer.object = none ∧ y.copies = s.refused)) →
      (s.buffer.objectAllowed = true → SameReading s y) → Q (.error f) y j)
    (hready : ∀ t y j, Keeps c s t → t.buffer.locations.has Location.gpuObject = true →
      (s.buffer.locations.has Location.gpuObject = true → t = s) →
      t.buffer.objectAllowed = s.buffer.objectAllowed →
      y.copies = t.copies.openedInObject (flags.has MapFlags.write) r → y.frame = s.frame →
      y.machine.device.shiftsMappings = s.machine.device.shiftsMappings →
        (if y.buffer.mapCount = 1 then openMapping flags r else pure ()).wp y j Q) :
    (openObject flags r).wp s j Q := by
  rw [openObject_eq]
  unfold readyObject openClaimed
  simp only [hkeep, Bool.false_eq_true, if_false, Bool.false_and, Attempt.wp_bind]
  refine ((refreshObject_keeps h).and (refreshObject_refused h)).wp fun a t j hpost => ?_
  obtain ⟨⟨ht, _, hcase⟩, hrefused⟩ := hpost
  rcases hcase with ⟨rfl, hg, hsame, hallowed, -⟩ | ⟨⟨f, rfl⟩, -, -, hy⟩
  · simp only [Attempt.wp_always, wp_current, beq_iff_eq]
    refine (claimObject_ends t flags r).wp fun _ y j hpost => ?_
    obtain ⟨hcopies, hframe, hm⟩ := hpost
    exact hready t y j ht hg hsame hallowed hcopies (hframe.trans ht.frame)
      (by rw [hm]; exact ht.spares.shiftsMappings)
  · exact hfail f t j ht hy fun ha =>
      .of_refused hy (hrefused ⟨f, rfl⟩ ha) ht.spares.refusesObjects

/-- The object claimed by a mapping that throws the content away: what the object holds is the
    content from then on. -/
theorem wp_openClaimed_discard {flags : MapFlags} {r : ByteRange}
    {Q : Except Failure Unit → Site MemoryDevice → Journal → Prop}
    (hdiscard : flags.has MapFlags.discard = true) (hwrite : flags.has MapFlags.write = true)
    (h : Coherent k c s.copies) (hobj : s.copies.object.isSome = true)
    (hready : ∀ y j c', c'.size = c.size → Coherent false c' y.copies → ObjectAccepts y.copies →
      y.copies.kind = s.copies.kind → y.frame = s.frame →
      y.machine.device.shiftsMappings = s.machine.device.shiftsMappings →
        (if y.buffer.mapCount = 1 then openMapping flags r else pure ()).wp y j Q) :
    (openClaimed flags r).wp { s with buffer := s.buffer.markValid Location.gpuObject } j Q := by
  obtain ⟨a, ha⟩ := Option.isSome_iff_exists.mp hobj
  obtain ⟨-, b, hb, hsize, -⟩ := h.object a ha
  have hbc : b.size = c.size := hsize.trans h.size.symm
  unfold openClaimed
  simp only [Attempt.wp_bind, Attempt.wp_always, wp_current, Attempt.wp_ite, beq_iff_eq,
    Attempt.wp_pure, hdiscard, Bool.true_and]
  refine (claimObject_ends _ flags r).wp fun _ y j hpost => ?_
  obtain ⟨hcopies, hy, hm⟩ := hpost
  have hyshifts : y.machine.device.shiftsMappings = s.machine.device.shiftsMappings := by rw [hm]
  rw [hwrite, copies_markValid] at hcopies
  have hco : Coherent false b y.copies := by
    rw [hcopies]
    exact coherent_discardedInObject h ha hb r
  have hacc : ObjectAccepts y.copies := by
    rw [hcopies, Copies.markValid_gpuObject]
    exact accepts_openedInObject (by simp) r
  have hykind : y.copies.kind = s.copies.kind := by
    rw [hcopies]
    rfl
  split
  · refine (giveUpShadow_ends y).wp fun _ z j hpost => ?_
    obtain ⟨hz, hzframe, _, hzm⟩ := hpost
    have hcount : z.buffer.mapCount = y.buffer.mapCount := congrArg Frame.mapCount hzframe
    rw [← hcount]
    refine (Attempt.wp_ite _ _ _ _).mp (hready z j b hbc ?_ ?_ ?_ (hzframe.trans hy)
      (by rw [hzm]; exact hyshifts))
    · rw [hz]
      exact hco.released hacc.current (by simp)
    · rw [hz]
      exact hacc.released
    · rw [hz, ← hykind]
      unfold Copies.released
      split <;> rfl
  · exact (Attempt.wp_ite _ _ _ _).mp (hready y j b hbc hco hacc hykind hy hyshifts)

/-- The same, from where the object may have to be made first. -/
theorem wp_openObject_discard {flags : MapFlags} {r : ByteRange}
    {Q : Except Failure Unit → Site MemoryDevice → Journal → Prop}
    (hdiscard : flags.has MapFlags.discard = true) (hwrite : flags.has MapFlags.write = true)
    (h : Coherent k c s.copies)
    (hfail : ∀ f y j, y.frame = s.frame →
      (y.copies = s.copies ∨ (s.buffer.object = none ∧ y.copies = s.refused)) →
      (s.buffer.objectAllowed = true → SameReading s y) → Q (.error f) y j)
    (hready : ∀ y j c', c'.size = c.size → Coherent false c' y.copies → ObjectAccepts y.copies →
      y.copies.kind = s.copies.kind → y.frame = s.frame →
      y.machine.device.shiftsMappings = s.machine.device.shiftsMappings →
        (if y.buffer.mapCount = 1 then openMapping flags r else pure ()).wp y j Q) :
    (openObject flags r).wp s j Q := by
  rw [openObject_eq]
  unfold readyObject
  rw [if_pos hdiscard]
  unfold discardIntoObject
  simp only [Attempt.wp_bind, Attempt.wp_always, Attempt.wp_ite, Attempt.wp_throw,
    wp_declareCurrent]
  refine ((reserveObject_ends s).and (reserveObject_refused s)).wp fun ready t j hpost => ?_
  obtain ⟨⟨hframe, hsp, ht⟩, hrefused⟩ := hpost
  rcases ht with ⟨rfl, _, hobj, rfl⟩ | ⟨rfl, hres, hobj, ht⟩ | ⟨rfl, _, ht⟩
  · rw [if_pos rfl]
    exact wp_openClaimed_discard hdiscard hwrite h (copies_object_isSome.trans hobj) hready
  · rw [if_pos rfl]
    refine wp_openClaimed_discard (s := t) (k := k) (c := c) hdiscard hwrite ?_ ?_
      fun y j c' hsize hy hacc hykind hyframe hshifts =>
        hready y j c' hsize hy hacc (hykind.trans ?_) (hyframe.trans hframe)
          (hshifts.trans hsp.shiftsMappings)
    · rw [ht]
      exact coherent_equipped h hobj hres
    · rw [ht]
      rfl
    · rw [ht]
      rfl
  · rw [if_neg Bool.false_ne_true]
    exact hfail _ t _ hframe ht fun ha => .of_refused ht (hrefused rfl ha) hsp.refusesObjects

/-- Where the device shifts mappings, the alignment that is asked for tells them apart. -/
def Aligned (s : Site MemoryDevice) : Prop :=
  s.machine.device.shiftsMappings = true → 2 ≤ s.buffer.settings.resourceAlignment

instance (s : Site MemoryDevice) : Decidable s.Aligned := inferInstanceAs (Decidable (_ → _))

/-- What the outermost mapping of a run points into, the content being `c`. -/
inductive Opened (c : ByteArray) (offset size : Nat) (write : Bool) (y : Site MemoryDevice) :
    Mapping → Prop where
  | shadow (settled : Settled y.buffer.isConverted c y.copies)
      (current : y.buffer.locations.has Location.sysmem = true) (base : y.buffer.mapBase = none)
      (accepts : write = true → ShadowAccepts y.copies offset size) :
      Opened c offset size write y ⟨.shadow, offset, size⟩
  | object (o : BufferObject) (coherent : Coherent false c y.copies)
      (plain : y.buffer.isConverted = false) (object : y.buffer.object = some o)
      (current : y.buffer.locations.has Location.gpuObject = true)
      (base : y.buffer.mapBase = some ⟨o.handle, 0⟩)
      (accepts : write = true → ObjectAccepts y.copies) :
      Opened c offset size write y ⟨.object o.handle, offset, size⟩

/-- What is open for writing does not count as zeroes. -/
theorem Opened.written {offset size : Nat} {m : Mapping} (h : Opened c offset size true s m) :
    s.buffer.locations.has Location.cleared = false := by
  cases h with
  | shadow _ _ _ accepts => exact (accepts rfl).written
  | object _ _ _ _ _ _ accepts => exact (accepts rfl).written

/-- A shadow that is there may have to stay. -/
theorem settled_pinned {v : Copies} (h : Settled k c v) (hs : v.shadow.isSome = true) :
    Settled k c { v with pinned := true } :=
  { h with pinned := fun _ => hs }

/-- The shadow alone is left of an object that was claimed for a mapping. -/
theorem dropObject_opened {offset size : Nat} {write : Bool} (h : Coherent false c s.copies)
    (hobj : s.buffer.object.isSome = true) (hbase : s.buffer.mapBase = none)
    (haccepts : write = true → ObjectAccepts s.copies) (hkind : s.copies.kind ≠ .noObject) :
    dropObject.Ends s fun _ y => y.buffer.mapCount = s.buffer.mapCount ∧
      y.buffer.isConverted = false ∧
      Opened c offset size write y ⟨.shadow, offset, size⟩ := by
  intro j
  unfold dropObject
  simp only [Step.wp_bind, wp_change]
  let u : Site MemoryDevice := { s with buffer := { s.buffer with objectAllowed := false } }
  have hu : Coherent false c u.copies := coherent_disallowed h
  refine (vacate_ends hu hobj).wp fun _ y j hpost => ?_
  obtain ⟨hcopies, hframe⟩ := hpost
  have hconv : y.buffer.isConverted = false :=
    congrArg (fun f : Frame => f.conversion.map.isSome) hframe
  have hheld : y.copies.held = none := by
    rw [hcopies]
    exact if_neg hkind
  have hset : Settled false c y.copies := by
    rw [hcopies]
    exact hu.vacated (h.room_of_object (copies_object_isSome.trans hobj)) false
  have hloc : y.copies.locations =
      (s.copies.locations ∪ Location.sysmem) \ Location.gpuObject := by
    rw [hcopies]
    rfl
  have hcur : y.copies.locations.has Location.sysmem = true := by
    rw [hloc]
    simp
  refine ⟨congrArg Frame.mapCount hframe, hconv, .shadow ?_ hcur
    ((congrArg Frame.mapBase hframe).trans hbase) fun hw => ⟨hcur, ?_, ?_, fun hs => ?_⟩⟩
  · rw [hconv]
    exact hset
  · rw [hloc]
    simp
  · rw [hloc]
    simp [(haccepts hw).written]
  · rw [hheld] at hs
    cases hs

/-- What holds of the site once the shadow is pinned, and the object stale if it has to be. -/
theorem opened_pinned {z : Site MemoryDevice} {offset size : Nat} {write : Bool} {r : ByteRange}
    (hplain : s.buffer.isConverted = false) (hbase : s.buffer.mapBase = none)
    (h : Coherent false c s.copies) (hroom : s.buffer.size ≤ Bytes.largestRun)
    (hsettled : write = false → Settled false c s.copies) (hr : r.Reports offset size)
    (hfit : offset + size ≤ s.buffer.size) (hframe : z.frame = s.frame)
    (hz : z.copies = { s.copies.openedInShadow c write r with pinned := true }) :
    z.buffer.mapCount = s.buffer.mapCount ∧ z.buffer.isConverted = false ∧
      Opened c offset size write z ⟨.shadow, offset, size⟩ := by
  have hset := settled_pinned (settled_openedInShadow h hroom hsettled r) (by
    unfold Copies.openedInShadow
    split <;> rfl)
  have hconv : z.buffer.isConverted = false := (isConverted_eq hframe).trans hplain
  refine ⟨congrArg Frame.mapCount hframe, hconv, .shadow ?_ ?_
    ((congrArg Frame.mapBase hframe).trans hbase) fun hw => ?_⟩
  · rw [hconv, hz]
    exact hset
  · rw [show z.buffer.locations = _ from congrArg Copies.locations hz]
    unfold Copies.openedInShadow
    split <;> simp [Copies.mirrored, Copies.markStale]
  · have ha := accepts_openedInShadow h hfit hr
    rw [hz, hw]
    exact ⟨ha.current, ha.alone, ha.written, ha.lacked⟩

/-- The shadow taken instead of an object whose mapping is not aligned. -/
theorem mapWithoutObject_ends {offset size : Nat} {flags : MapFlags} {r : ByteRange}
    (hplain : s.buffer.isConverted = false) (h : Coherent false c s.copies)
    (hg : s.buffer.locations.has Location.gpuObject = true)
    (hsettled : flags.has MapFlags.write = false → Settled false c s.copies)
    (haccepts : flags.has MapFlags.write = true → ObjectAccepts s.copies)
    (hkind : s.copies.kind ≠ .noObject) (hr : r.Reports offset size)
    (hfit : offset + size ≤ s.buffer.size) (handle : ObjectHandle) :
    (mapWithoutObject handle flags r).Ends s fun a y => a = .ok () ∧
      y.buffer.mapCount = s.buffer.mapCount ∧ y.buffer.isConverted = false ∧
      Opened c offset size (flags.has MapFlags.write) y ⟨.shadow, offset, size⟩ := by
  intro j
  have hobj : s.buffer.object.isSome = true := copies_object_isSome.symm.trans (h.present hg)
  have hroom : s.buffer.size ≤ Bytes.largestRun := h.room_of_object (h.present hg)
  unfold mapWithoutObject
  simp only [Attempt.wp_bind, Attempt.wp_always, wp_current, Attempt.wp_note, wp_onDevice,
    wp_change, Attempt.wp_ite]
  refine (MemoryDevice.closeMapping_ends _ _ _).wp fun _ d j hd => ?_
  -- the buffer whose mapping was ended
  let t : Site MemoryDevice :=
    { s with buffer := { s.buffer with mapBase := none }, machine.device := d }
  have ht : t.copies = s.copies := copies_untouched (s := s) hd
  have hco : Coherent false c t.copies := by
    rw [ht]
    exact h
  split
  · refine (dropObject_opened (s := t) hco hobj rfl (fun hw => ?_) ?_).wp fun _ y j hy =>
      ⟨trivial, hy⟩
    · rw [ht]
      exact haccepts hw
    · rw [ht]
      exact hkind
  · refine (refreshShadow_ends hco).wp fun a y j hy => ?_
    rcases hy with ⟨rfl, -, hcopies, hframe, -, -⟩ | ⟨-, -, hlarge⟩
    · have hopened {z : Site MemoryDevice} (hz : z.frame = t.frame) :=
        opened_pinned (s := t) (z := z) hplain rfl hco hroom (fun hw => ht ▸ hsettled hw) hr hfit hz
      simp only [wp_pinShadow, wp_declareStaleIn, Attempt.wp_pure]
      let p : Site MemoryDevice := { y with buffer := { y.buffer with pinned := true } }
      have hp : p.copies = { t.copies.mirrored c with pinned := true } := by
        rw [← hcopies]
        rfl
      cases hw : flags.has MapFlags.write with
      | false =>
        rw [hw] at hopened
        exact ⟨trivial, hopened (z := p) hframe hp⟩
      | true =>
        rw [hw] at hopened
        let z : Site MemoryDevice := { p with
          buffer := p.buffer.markStale (Location.all \ Location.sysmem) r.offset r.size }
        refine ⟨trivial, hopened (z := z) hframe ?_⟩
        rw [copies_markStale, hp]
        rfl
    · exact absurd hroom (Nat.not_le_of_lt hlarge)

/-- What is handed out is what was opened. -/
theorem Opened.mapping?_eq {offset size : Nat} {write : Bool} {m : Mapping}
    (h : Opened c offset size write s m) : s.buffer.mapping? offset size = some m := by
  unfold Buffer.mapping?
  cases h with
  | shadow settled current base _ =>
    rw [base, show s.buffer.shadow = some c from settled.mirrored current]
    rfl
  | object o _ _ _ _ base _ =>
    rw [base]
    show some (Mapping.mk _ (0 + offset) size) = _
    rw [Nat.zero_add]

/-- The object mapped as a whole, by a device that does not shift mappings. -/
theorem openMapping_aligned_ends {flags : MapFlags} {r : ByteRange}
    (hshift : s.machine.device.shiftsMappings = false) (h : Coherent false c s.copies)
    (hg : s.buffer.locations.has Location.gpuObject = true) {o : BufferObject}
    (hobj : s.buffer.object = some o) : (openMapping flags r).Ends s fun a y =>
      a = .ok () ∧ y.buffer = { s.buffer with mapBase := some ⟨o.handle, 0⟩ } ∧
        s.machine.device.Untouched y.machine.device := by
  intro j
  obtain ⟨p, -, hp, hoff, hheld⟩ := currentObject_eq h hg
  cases hobj.symm.trans hp
  have hbytes : s.machine.device.bytes? o.handle = some c := by
    rw [← hheld]
    exact h.current hg (by simp)
  unfold openMapping
  simp only [Attempt.wp_bind, Attempt.wp_always, wp_current, hobj, hoff, wp_tryDevice]
  refine (MemoryDevice.openMapping_ends hbytes h.size.symm flags).wp fun a d j hpost => ?_
  obtain ⟨hok, hd⟩ := hpost
  rw [hok, hshift]
  simp only [Attempt.wp_ite, Attempt.wp_always, wp_change, beq_iff_eq]
  rw [if_neg Bool.false_ne_true, Nat.zero_mod, if_pos rfl]
  refine ⟨trivial, ?_, hd⟩
  rw [← hobj]

/-- The outermost mapping of the object: the object as a whole, or else the shadow. -/
theorem openMapping_ends {offset size : Nat} {flags : MapFlags} {r : ByteRange} (ha : Aligned s)
    (hplain : s.buffer.isConverted = false) (h : Coherent false c s.copies)
    (hg : s.buffer.locations.has Location.gpuObject = true)
    (hsettled : flags.has MapFlags.write = false → Settled false c s.copies)
    (haccepts : flags.has MapFlags.write = true → ObjectAccepts s.copies)
    (hkind : s.copies.kind ≠ .noObject) (hr : r.Reports offset size)
    (hfit : offset + size ≤ s.buffer.size) : (openMapping flags r).Ends s fun a y =>
      a = .ok () ∧ y.buffer.mapCount = s.buffer.mapCount ∧ y.buffer.isConverted = false ∧
        ∃ m, Opened c offset size (flags.has MapFlags.write) y m := by
  obtain ⟨o, -, hobj, hoff, hheld⟩ := currentObject_eq h hg
  cases hshift : s.machine.device.shiftsMappings with
  | false =>
    refine (openMapping_aligned_ends hshift h hg hobj).mono fun a y hpost => ?_
    obtain ⟨hok, hbuffer, hd⟩ := hpost
    obtain ⟨b, m⟩ := y
    cases hbuffer
    have ht : copies { s with machine.device := m.device } = s.copies := copies_untouched hd
    refine ⟨hok, rfl, hplain, _, .object o ?_ hplain hobj hg rfl fun hw => ?_⟩
    · exact ht ▸ h
    · exact ht ▸ haccepts hw
  | true =>
    intro j
    have hbytes : s.machine.device.bytes? o.handle = some c := by
      rw [← hheld]
      exact h.current hg (by simp)
    unfold openMapping
    simp only [Attempt.wp_bind, Attempt.wp_always, wp_current, hobj, hoff, wp_tryDevice]
    refine (MemoryDevice.openMapping_ends hbytes h.size.symm flags).wp fun a d j hpost => ?_
    obtain ⟨hok, hd⟩ := hpost
    rw [hok]
    let t : Site MemoryDevice := { s with machine.device := d }
    have ht : t.copies = s.copies := copies_untouched hd
    simp only [hshift, if_true, Attempt.wp_ite, Attempt.wp_always, wp_change, beq_iff_eq]
    have hlarge := ha hshift
    have hone : 1 % max s.buffer.settings.resourceAlignment 1 = 1 := Nat.mod_eq_of_lt (by omega)
    rw [hone, if_neg Nat.one_ne_zero]
    refine (mapWithoutObject_ends (s := t) (c := c) hplain (ht ▸ h) hg (fun hw => ht ▸ hsettled hw)
      (fun hw => ht ▸ haccepts hw) (ht ▸ hkind) hr hfit o.handle).wp
        fun _ y j hpost => ?_
    obtain ⟨hok, hcount, hconv, hopen⟩ := hpost
    exact ⟨hok, hcount, hconv, _, hopen⟩

/-- What is mapped through the object is neither pinned nor without objects. -/
theorem mapsShadow_eq_false {b : Buffer} {flags : MapFlags} (h : b.mapsShadow flags = false) :
    b.pinned = false ∧ b.objectAllowed = true := by
  unfold Buffer.mapsShadow at h
  simp only [Bool.or_eq_false_iff, Bool.not_eq_false'] at h
  exact ⟨h.1.2, h.2⟩

section Handing

variable {δ : Type} {s : Site δ} {offset size : Nat}

/-- The last step of a mapping: what was opened is handed out. -/
def handOut (offset size : Nat) : Attempt (Site δ) Mapping := do
  let b ← always current
  match b.mapping? offset size with
  | none => refuse .buffer (.noMemoryToMap b.id)
  | some mapping => do
    note (.memoryReturned offset)
    pure mapping

theorem mapPrepared_eq [Device δ] (offset size : Nat) (flags : MapFlags) :
    (mapPrepared offset size flags : Attempt (Site δ) Mapping) = (do
      let dirty : ByteRange := if flags.has MapFlags.discard then ⟨0, 0⟩ else ⟨offset, size⟩
      let b ← always current
      if b.mapsShadow flags then openShadow flags dirty else openObject flags dirty
      handOut offset size) := rfl

theorem handOut_some {m : Mapping} (hm : s.buffer.mapping? offset size = some m) :
    (handOut offset size).Ends s fun r y => r = .ok m ∧ y = s := by
  intro j
  unfold handOut
  simp only [Attempt.wp_bind, Attempt.wp_always, wp_current, hm, Attempt.wp_note, Attempt.wp_pure]
  exact ⟨trivial, trivial⟩

theorem handOut_none (hm : s.buffer.mapping? offset size = none) :
    (handOut offset size).Ends s fun r y => (∃ f, r = .error f) ∧ y = s := by
  intro j
  unfold handOut
  simp only [Attempt.wp_bind, Attempt.wp_always, wp_current, hm, Attempt.wp_refuse]
  exact ⟨⟨_, rfl⟩, trivial⟩

end Handing

/-- What a mapping of `s` is opened as: `P` is said of the content, of the site, and of what points
    into it. It holds of the shadow once that is open, and of the object once the device mapped it. -/
structure OpensAs (P : ByteArray → Site MemoryDevice → Mapping → Prop) (s : Site MemoryDevice)
    (offset size : Nat) (flags : MapFlags) : Prop where
  shadow : ∀ c y m, Opened c offset size (flags.has MapFlags.write) y m → P c y m
  object : ∀ (r : ByteRange) (c : ByteArray) (y : Site MemoryDevice),
    y.buffer.settings = s.buffer.settings →
    y.machine.device.shiftsMappings = s.machine.device.shiftsMappings →
    y.buffer.isConverted = false → Coherent false c y.copies →
    y.buffer.locations.has Location.gpuObject = true →
    (flags.has MapFlags.write = false → Settled false c y.copies) →
    (flags.has MapFlags.write = true → ObjectAccepts y.copies) →
    y.copies.kind ≠ .noObject → r.Reports offset size → offset + size ≤ y.buffer.size →
    (openMapping flags r).Ends y fun a z => a = .ok () ∧ z.buffer.mapCount = y.buffer.mapCount ∧
      z.buffer.isConverted = false ∧ ∃ m, P c z m
  handed : ∀ c y m, P c y m → y.buffer.mapping? offset size = some m

/-- Where the device shifts no mapping unnoticed, what is opened stands for the content. -/
theorem opensAs_opened (ha : Aligned s) (offset size : Nat) (flags : MapFlags) :
    OpensAs (fun c => Opened c offset size (flags.has MapFlags.write)) s offset size flags where
  shadow _ _ _ h := h
  object r c y hsettings hshifts hplain h hg hset hacc hkind hr hfit :=
    openMapping_ends (fun hs => by rw [hsettings]; exact ha (hshifts ▸ hs)) hplain h hg hset hacc
      hkind hr hfit
  handed _ _ _ h := h.mapping?_eq

/-- In `y` a range is opened through `m` for a mapping of `s`: in a copy that stands for the content,
    or for another one where the mapping throws the content away. -/
def OpenedFrom (P : ByteArray → Site MemoryDevice → Mapping → Prop) (s : Site MemoryDevice)
    (c : ByteArray) (flags : MapFlags) (y : Site MemoryDevice) (m : Mapping) : Prop :=
  ∃ c', c'.size = c.size ∧ (flags.has MapFlags.discard = false → c' = c) ∧
    y.buffer.mapCount = 1 ∧
    (y.buffer.isConverted = true → s.buffer.isConverted = true ∧ y.buffer.pinned = true) ∧
    P c' y m

/-- What is left where nothing could be opened: the copies are as settled as they were. -/
structure Declined (c : ByteArray) (s y : Site MemoryDevice) : Prop where
  frame : y.frame = s.frame
  settled : Settled s.buffer.isConverted c y.copies
  pinned : s.buffer.pinned = true → y.buffer.pinned = true
  reading : SameReading s y

theorem declined_of_refused {y : Site MemoryDevice} (h : Settled s.buffer.isConverted c s.copies)
    (hframe : y.frame = s.frame)
    (hy : y.copies = s.copies ∨ (s.buffer.object = none ∧ y.copies = s.refused))
    (hreading : SameReading s y) : Declined c s y := by
  rcases hy with hy | ⟨hobj, hy⟩
  · refine ⟨hframe, ?_, (congrArg Copies.pinned hy).trans, hreading⟩
    rw [hy]
    exact h
  · refine ⟨hframe, ?_, (congrArg Copies.pinned hy).trans, hreading⟩
    rw [hy]
    exact settled_refused h.toCoherent hobj

section Opening

variable {P : ByteArray → Site MemoryDevice → Mapping → Prop} {offset size : Nat} {flags : MapFlags}

/-- The shadow opened for the outermost mapping. -/
theorem openShadow_opened {r : ByteRange} (hP : OpensAs P s offset size flags)
    (h : Settled s.buffer.isConverted c s.copies)
    (hbacked : s.buffer.isConverted = true → s.buffer.pinned = true)
    (hcount : s.buffer.mapCount = 1) (hbase : s.buffer.mapBase = none)
    (hfit : offset + size ≤ s.buffer.size) (hr : r.Reports offset size) :
    (openShadow flags r).Ends s fun a y =>
      (a = .ok () ∧ ∃ m, OpenedFrom P s c flags y m) ∨
        ((∃ f, a = .error f) ∧ Declined c s y) := by
  intro j
  refine (openShadow_ends h.toCoherent flags r).wp fun a y j hy => ?_
  rcases hy with ⟨rfl, hroom, hcopies, hframe, -⟩ | ⟨⟨f, rfl⟩, rfl, -⟩
  · have hset : Settled y.buffer.isConverted c y.copies := by
      rw [isConverted_eq hframe, hcopies]
      exact settled_openedInShadow h.toCoherent hroom (fun _ => h) _
    refine .inl ⟨rfl, _, c, rfl, fun _ => rfl, (congrArg Frame.mapCount hframe).trans hcount, ?_,
      hP.shadow _ _ _ (.shadow hset ?_ ((congrArg Frame.mapBase hframe).trans hbase) ?_)⟩
    · intro hc
      rw [isConverted_eq hframe] at hc
      rw [show y.buffer.pinned = _ from congrArg Copies.pinned hcopies,
        Copies.pinned_openedInShadow]
      exact ⟨hc, hbacked hc⟩
    · rw [show y.buffer.locations = _ from congrArg Copies.locations hcopies]
      exact Copies.current_openedInShadow _ _ _ _
    · intro hw
      rw [hcopies, hw]
      exact accepts_openedInShadow h.toCoherent hfit hr
  · exact .inr ⟨⟨f, rfl⟩, rfl, h, id, .refl _⟩

/-- The object, once it is claimed, mapped for the outermost mapping of `s`. -/
theorem openMapping_opened {y : Site MemoryDevice} {c' : ByteArray} {r : ByteRange}
    (hP : OpensAs P s offset size flags) (hplain : s.buffer.isConverted = false)
    (hkind : s.copies.kind ≠ .noObject) (hcount : s.buffer.mapCount = 1)
    (hframe : y.frame = s.frame)
    (hshifts : y.machine.device.shiftsMappings = s.machine.device.shiftsMappings)
    (hsize : c'.size = c.size) (hsame : flags.has MapFlags.discard = false → c' = c)
    (hy : Coherent false c' y.copies) (hg : y.buffer.locations.has Location.gpuObject = true)
    (hset : flags.has MapFlags.write = false → Settled false c' y.copies)
    (hacc : flags.has MapFlags.write = true → ObjectAccepts y.copies)
    (hykind : y.copies.kind = s.copies.kind) (hr : r.Reports offset size)
    (hfit : offset + size ≤ y.buffer.size) :
    Attempt.Ends (if y.buffer.mapCount = 1 then openMapping flags r else pure ()) y fun a z =>
      a = .ok () ∧ ∃ m, OpenedFrom P s c flags z m := by
  have hycount : y.buffer.mapCount = 1 := (congrArg Frame.mapCount hframe).trans hcount
  rw [if_pos hycount]
  refine (hP.object r c' y (congrArg Frame.settings hframe) hshifts
    ((isConverted_eq hframe).trans hplain) hy hg hset hacc (hykind ▸ hkind) hr hfit).mono
      fun a z hpost => ?_
  obtain ⟨hok, hzcount, hzplain, m, hm⟩ := hpost
  exact ⟨hok, m, c', hsize, hsame, hzcount.trans hycount,
    fun hc => absurd (hzplain.symm.trans hc) Bool.false_ne_true, hm⟩

/-- The object opened for the outermost mapping. -/
theorem openObject_opened {r : ByteRange} (hP : OpensAs P s offset size flags)
    (h : Settled s.buffer.isConverted c s.copies) (hplain : s.buffer.isConverted = false)
    (hallowed : s.buffer.objectAllowed = true) (hcount : s.buffer.mapCount = 1)
    (hfit : offset + size ≤ s.buffer.size) (hr : r.Reports offset size)
    (hwrite : flags.has MapFlags.discard = true → flags.has MapFlags.write = true) :
    (openObject flags r).Ends s fun a y =>
      (a = .ok () ∧ ∃ m, OpenedFrom P s c flags y m) ∨
        ((∃ f, a = .error f) ∧ Declined c s y) := by
  intro j
  have hkind : s.copies.kind ≠ .noObject := h.allowed hallowed
  have hco : Coherent false c s.copies := hplain ▸ h.toCoherent
  by_cases hd : flags.has MapFlags.discard = true
  · refine wp_openObject_discard hd (hwrite hd) hco (fun f y j hframe hy hreading => ?_)
      fun y j c' hsize hy hacc hykind hframe hshifts => ?_
    · exact .inr ⟨⟨f, rfl⟩, declined_of_refused h hframe hy (hreading hallowed)⟩
    · have hysize : y.buffer.size = s.buffer.size := hy.size.symm.trans (hsize.trans h.size)
      exact (openMapping_opened hP hplain hkind hcount hframe hshifts hsize
        (fun hd' => absurd (hd'.symm.trans hd) Bool.false_ne_true) hy hacc.current
        (fun hw => absurd (hw.symm.trans (hwrite hd)) Bool.false_ne_true) (fun _ => hacc) hykind hr
        (hysize ▸ hfit)).wp fun a z j hz => .inl hz
  · rw [Bool.not_eq_true] at hd
    refine wp_openObject hd h.toCoherent (fun f y j hkeeps hy hreading => ?_)
      fun t y j ht hg _ _ hcopies hframe hshifts => ?_
    · exact .inr ⟨⟨f, rfl⟩, declined_of_refused h hkeeps.frame hy (hreading hallowed)⟩
    · have hset : Settled false c t.copies := hplain ▸ ht.settled h
      have hyco : Coherent false c y.copies := by
        rw [hcopies]
        exact coherent_openedInObject hset.toCoherent hg _ _
      have hyg : y.buffer.locations.has Location.gpuObject = true := by
        rw [show y.buffer.locations = _ from congrArg Copies.locations hcopies]
        exact Copies.current_openedInObject hg _ _
      have hysize : y.buffer.size = s.buffer.size := hyco.size.symm.trans h.size
      refine (openMapping_opened hP hplain hkind hcount hframe hshifts rfl (fun _ => rfl) hyco hyg
        (fun hw => ?_) (fun hw => ?_) ?_ hr (hysize ▸ hfit)).wp fun a z j hz => .inl hz
      · rw [hcopies, hw]
        exact hset
      · rw [hcopies, hw]
        exact accepts_openedInObject hg _
      · rw [hcopies, Copies.kind_openedInObject]
        exact ht.kind

/-- **The outermost mapping of a run**: it points into a copy that stands for the content, which is
    another one where the mapping throws it away. A failure leaves the content. -/
theorem mapPrepared_opened (hP : OpensAs P s offset size flags)
    (h : Settled s.buffer.isConverted c s.copies)
    (hbacked : s.buffer.isConverted = true → s.buffer.pinned = true)
    (hcount : s.buffer.mapCount = 1) (hbase : s.buffer.mapBase = none)
    (hfit : offset + size ≤ s.buffer.size)
    (hwrite : flags.has MapFlags.discard = true → flags.has MapFlags.write = true) :
    (mapPrepared offset size flags).Ends s fun a y =>
      (∃ m, a = .ok m ∧ OpenedFrom P s c flags y m) ∨ ((∃ f, a = .error f) ∧ Declined c s y) := by
  intro j
  rw [mapPrepared_eq]
  simp only [Attempt.wp_bind, Attempt.wp_always, wp_current, Attempt.wp_ite]
  have hr := ByteRange.reports_mapped (flags.has MapFlags.discard) offset size
  -- what was opened is handed out
  have hdone {y : Site MemoryDevice} {m : Mapping} (hm : OpenedFrom P s c flags y m)
      (j : Journal) : (handOut offset size).wp y j fun a z _ =>
        (∃ m, a = .ok m ∧ OpenedFrom P s c flags z m) ∨
          ((∃ f, a = .error f) ∧ Declined c s z) := by
    obtain ⟨c', hsize, hsame, hy, hb, hopened⟩ := hm
    refine (handOut_some (hP.handed _ _ _ hopened)).wp fun a z j ha => ?_
    obtain ⟨rfl, rfl⟩ := ha
    exact .inl ⟨m, rfl, c', hsize, hsame, hy, hb, hopened⟩
  cases hpath : s.buffer.mapsShadow flags with
  | true =>
    rw [if_pos rfl]
    refine (openShadow_opened hP h hbacked hcount hbase hfit hr).wp fun a y j hy => ?_
    rcases hy with ⟨rfl, m, hm⟩ | ⟨⟨f, rfl⟩, hy⟩
    · exact hdone hm j
    · exact .inr ⟨⟨f, rfl⟩, hy⟩
  | false =>
    rw [if_neg Bool.false_ne_true]
    obtain ⟨hp, hallowed⟩ := mapsShadow_eq_false hpath
    have hplain : s.buffer.isConverted = false := by
      cases hc : s.buffer.isConverted with
      | false => rfl
      | true => exact absurd (hp.symm.trans (hbacked hc)) Bool.false_ne_true
    refine (openObject_opened hP h hplain hallowed hcount hfit hr hwrite).wp fun a y j hy => ?_
    rcases hy with ⟨rfl, m, hm⟩ | ⟨⟨f, rfl⟩, hy⟩
    · exact hdone hm j
    · exact .inr ⟨⟨f, rfl⟩, hy⟩

/-- **A run mapped where nothing was mapped.** A failure leaves the buffer idle, and its content as
    readable as it was. -/
theorem map_opened (hi : Idle c s) (hP : OpensAs P s offset size flags)
    (hwrite : flags.has MapFlags.discard = true → flags.has MapFlags.write = true) :
    (map offset size flags).Ends s fun a y =>
      (∃ m, a = .ok m ∧ offset + size ≤ c.size ∧ OpenedFrom P s c flags y m) ∨
      ((∃ f, a = .error f) ∧ Idle c y ∧ SameReading s y ∧
        (y.buffer.isConverted = true → s.buffer.isConverted = true)) := by
  intro j
  unfold map
  simp only [Attempt.wp_bind, Attempt.wp_always, wp_current, Attempt.wp_ite, Attempt.wp_refuse,
    wp_change, Attempt.wp_outcome]
  have hiff : s.buffer.holds offset size = true ↔ offset + size ≤ s.buffer.size := fits_iff
  cases hfit : s.buffer.holds offset size with
  | false => exact .inr ⟨⟨_, rfl⟩, hi, .refl s, id⟩
  | true =>
    rw [if_neg (by simp)]
    let t : Site MemoryDevice :=
      { s with buffer := { s.buffer with mapCount := s.buffer.mapCount + 1 } }
    have ht : t.buffer.mapCount = 1 := congrArg (· + 1) hi.unmapped
    refine (mapPrepared_opened (s := t) (c := c) { hP with } hi.toSettled hi.backed ht hi.baseless
      (hiff.mp hfit) hwrite).wp fun a y j hy => ?_
    rcases hy with ⟨m, rfl, hm⟩ | ⟨⟨f, rfl⟩, hframe, hset, hp, hreading⟩
    · exact .inl ⟨m, rfl, by rw [hi.size]; exact hiff.mp hfit, hm⟩
    · simp only [Attempt.wp_bind, Attempt.wp_always, wp_change, Attempt.wp_throw]
      have hcount : y.buffer.mapCount = 1 := (congrArg Frame.mapCount hframe).trans ht
      refine .inr ⟨⟨f, rfl⟩, hi.of_settled ?_ hset hp, ?_, (isConverted_eq hframe).symm.trans⟩
      · show { y.frame with mapCount := y.buffer.mapCount - 1 } = _
        rw [hframe, hcount, ← show s.buffer.mapCount = 1 - 1 from hi.unmapped]
        rfl
      · -- how many mappings are counted has no part in what can be read
        have hst : SameReading s t := .of_copies rfl rfl
        exact (hst.trans hreading).trans (.of_copies rfl rfl)

/-- The same where the device shifts no mapping unnoticed. -/
theorem map_ends (hi : Idle c s) (ha : Aligned s)
    (hwrite : flags.has MapFlags.discard = true → flags.has MapFlags.write = true) :
    (map offset size flags).Ends s fun a y =>
      (∃ m c', a = .ok m ∧ offset + size ≤ c.size ∧ c'.size = c.size ∧
        (flags.has MapFlags.discard = false → c' = c) ∧ y.buffer.mapCount = 1 ∧
        (y.buffer.isConverted = true → s.buffer.isConverted = true ∧ y.buffer.pinned = true) ∧
        Opened c' offset size (flags.has MapFlags.write) y m) ∨
      ((∃ f, a = .error f) ∧ Idle c y ∧
        (y.buffer.isConverted = true → s.buffer.isConverted = true)) :=
  (map_opened hi (opensAs_opened ha offset size flags) hwrite).mono fun a y hy => by
    rcases hy with ⟨m, hm, hfit, c', hc⟩ | ⟨hf, hidle, -, hconv⟩
    · exact .inl ⟨m, c', hm, hfit, hc⟩
    · exact .inr ⟨hf, hidle, hconv⟩

end Opening

/-! ## 5. The last unmapping -/

/-- What a mapping leaves: copies that are settled once the mapping of the object ends. -/
inductive Touched (c : ByteArray) (y : Site MemoryDevice) : Prop where
  | shadow (settled : Settled y.buffer.isConverted c y.copies) (base : y.buffer.mapBase = none)
  | object (coherent : Coherent false c y.copies) (plain : y.buffer.isConverted = false)
      (current : y.buffer.locations.has Location.gpuObject = true)
      (base : y.buffer.mapBase.isSome = true)

theorem Opened.touched {offset size : Nat} {write : Bool} {m : Mapping}
    (h : Opened c offset size write s m) : Touched c s := by
  cases h with
  | shadow settled _ base _ => exact .shadow settled base
  | object o coherent plain _ current base _ =>
    exact .object coherent plain current (by rw [base]; rfl)

/-- What the last unmapping does: it flushes what the mapping of the object left. -/
theorem unmap_last (hcount : s.buffer.mapCount = 1) : unmap.Ends s fun _ y =>
    y.frame = { s.frame with mapCount := 0, mapBase := none } ∧
      y.copies = { s.copies with
        dirty := if s.buffer.mapBase.isSome then s.buffer.dirty.clear else s.buffer.dirty } ∧
      s.machine.device.SameKnobs y.machine.device := by
  intro j
  unfold unmap flushMapping
  simp only [Step.wp_bind, wp_current, Step.wp_ite, Step.wp_note, wp_change, hcount]
  rw [if_neg (by simp), if_neg (by simp)]
  cases hbase : s.buffer.mapBase with
  | none =>
    simp only [Option.isSome_none, Bool.false_eq_true, if_false, Step.wp_pure]
    refine ⟨?_, rfl, .refl _⟩
    unfold frame
    rw [hbase]
  | some base =>
    simp only [Option.isSome_some, if_true]
    split
    · simp only [Step.wp_bind, wp_onDevice, wp_change]
      refine (MemoryDevice.closeMapping_ends _ _ _).wp fun _ d j hd => ?_
      refine ⟨rfl, ?_, hd.toSameKnobs⟩
      rw [← copies_untouched hd]
      rfl
    · exact ⟨rfl, rfl, .refl _⟩

/-- **After the last unmapping the buffer is idle.** -/
theorem Touched.unmap_ends (h : Touched c s) (hcount : s.buffer.mapCount = 1)
    (hbacked : s.buffer.isConverted = true → s.buffer.pinned = true) :
    unmap.Ends s fun _ y => Idle c y ∧ y.buffer.isConverted = s.buffer.isConverted := by
  refine (unmap_last hcount).mono fun _ y ⟨hframe, hcopies, _⟩ => ?_
  have hconv : y.buffer.isConverted = s.buffer.isConverted :=
    congrArg (fun f : Frame => f.conversion.map.isSome) hframe
  refine ⟨?_, hconv⟩
  have hset : Settled y.buffer.isConverted c y.copies := by
    rw [hcopies, hconv]
    cases h with
    | shadow settled base =>
      rw [base]
      exact settled
    | object coherent plain current base =>
      rw [plain, if_pos base]
      exact { coherent with
        spans := DirtySpans.Fits.clear _
        stale := fun b _ hg => absurd (hg.symm.trans current) nofun
        complete := fun _ => DirtySpans.isPending_clear _
        lacking := fun _ hg => absurd (hg.symm.trans current) nofun }
  exact { hset with
    backed := fun hc => (congrArg Copies.pinned hcopies).trans (hbacked (hconv.symm.trans hc))
    unmapped := congrArg Frame.mapCount hframe
    baseless := congrArg Frame.mapBase hframe }

/-! ## 6. Writing and reading through a mapping -/

/-- The bytes of a mapped run are those of the content. -/
theorem Opened.mappedBytes_eq {offset size : Nat} {write : Bool} {m : Mapping}
    (h : Opened c offset size write s m) (hfit : offset + size ≤ c.size) :
    s.mappedBytes m = c.extract offset (offset + size) := by
  unfold mappedBytes
  cases h with
  | shadow settled current _ _ =>
    rw [show s.buffer.shadow = some c from settled.mirrored current]
    rfl
  | object o coherent _ object current _ _ =>
    obtain ⟨p, -, hp, -, hheld⟩ := currentObject_eq coherent current
    cases object.symm.trans hp
    exact MemoryDevice.peek_eq (hheld.symm.trans (coherent.current current nofun)) hfit

/-- Bytes written to a mapped run are in the content. -/
theorem Opened.writeMapped_ends {offset : Nat} {data : ByteArray} {m : Mapping}
    (h : Opened c offset data.size true s m) (hfit : offset + data.size ≤ c.size) :
    (writeMapped m data).Ends s fun _ y => Touched (Bytes.splice c offset data) y ∧
      y.buffer.mapCount = s.buffer.mapCount ∧ y.buffer.isConverted = s.buffer.isConverted ∧
      y.buffer.pinned = s.buffer.pinned := by
  intro j
  unfold writeMapped
  cases h with
  | shadow settled current base accepts =>
    simp only [wp_change, show s.buffer.shadow = some c from settled.mirrored current,
      Option.map_some]
    refine ⟨.shadow ?_ base, trivial, rfl, trivial⟩
    exact { (accepts rfl).writtenInPlace settled.toCoherent (Nat.le_refl _) (Nat.le_refl _)
        (settled.size ▸ hfit) with
      complete := settled.complete
      lacking := settled.lacking }
  | object o coherent plain object current base accepts =>
    obtain ⟨p, -, hp, -, hheld⟩ := currentObject_eq coherent current
    cases object.symm.trans hp
    have hbytes := hheld.symm.trans (coherent.current current (by simp))
    simp only [Step.wp_modify]
    refine ⟨.object ?_ plain current (by rw [base]; rfl), trivial, trivial, trivial⟩
    have hd := MemoryDevice.rewrites_poke hbytes hfit
    have hcopies := copies_rewrites object hd
    have hco := (accepts rfl).writtenInPlace coherent (Bytes.size_splice c data offset)
    rw [← hcopies] at hco
    exact hco

/-- Bytes written are in the content; a write that may throw content away leaves unspecified what it
    does not write. No vertices are converted that were not before. -/
theorem write_ends (hi : Idle c s) (ha : Aligned s) (offset : Nat) (data : ByteArray)
    (flags : MapFlags) : (write offset data flags).Ends s fun a y =>
      (y.buffer.isConverted = true → s.buffer.isConverted = true) ∧
      ((∃ c', a = .ok () ∧ offset + data.size ≤ c.size ∧ c'.size = c.size ∧
        (flags.has MapFlags.discard = false → c' = c) ∧ Idle (Bytes.splice c' offset data) y) ∨
      ((∃ f, a = .error f) ∧ Idle c y)) := by
  intro j
  have hwrite : (flags ∪ MapFlags.write).has MapFlags.write = true := by
    rw [FlagSet.has_union_left MapFlags.isFlag_write, Bool.or_eq_true]
    exact .inr (by decide)
  have hdiscard : (flags ∪ MapFlags.write).has MapFlags.discard = flags.has MapFlags.discard := by
    rw [FlagSet.has_union_left MapFlags.isFlag_discard]
    exact Bool.or_false _
  unfold write
  simp only [Attempt.wp_bind, Attempt.wp_always]
  refine (map_ends hi ha fun _ => hwrite).wp fun a t j ht => ?_
  rcases ht with ⟨m, c', rfl, hfit, hsize, hsame, hcount, hbacked, hm⟩ | ⟨⟨f, rfl⟩, hidle, hconv⟩
  · rw [hwrite] at hm
    rw [hdiscard] at hsame
    refine (hm.writeMapped_ends (hsize ▸ hfit)).wp fun _ y j hpost => ?_
    obtain ⟨hy, hycount, hyconv, hypinned⟩ := hpost
    refine (hy.unmap_ends (hycount.trans hcount) fun hc => ?_).wp fun _ z j hpost => ?_
    · rw [hypinned]
      exact (hbacked (hyconv ▸ hc)).2
    · obtain ⟨hz, hzconv⟩ := hpost
      refine ⟨fun hc => (hbacked ?_).1, .inl ⟨c', trivial, hfit, hsize, hsame, hz⟩⟩
      rw [← hyconv, ← hzconv]
      exact hc
  · exact ⟨hconv, .inr ⟨⟨f, rfl⟩, hidle⟩⟩

/-- **Bytes read through a mapping are those of the content**, and the content stays. -/
theorem read_ends (hi : Idle c s) (ha : Aligned s) (offset size : Nat) :
    (read offset size).Ends s fun a y => Idle c y ∧
      ((a = .ok (c.extract offset (offset + size)) ∧ offset + size ≤ c.size) ∨
        ∃ f, a = .error f) := by
  intro j
  unfold read
  simp only [Attempt.wp_bind, Attempt.wp_always, Attempt.wp_get, Attempt.wp_pure]
  refine (map_ends hi ha fun hd => absurd hd (by decide)).wp fun a t j ht => ?_
  rcases ht with ⟨m, c', rfl, hfit, hsize, hsame, hcount, hbacked, hm⟩ | ⟨⟨f, rfl⟩, hidle, -⟩
  · have hc : c' = c := hsame (by decide)
    subst hc
    refine (hm.touched.unmap_ends hcount fun hc => (hbacked hc).2).wp fun _ z j hpost => ?_
    obtain ⟨hz, _⟩ := hpost
    exact ⟨hz, .inl ⟨congrArg Except.ok (hm.mappedBytes_eq hfit), hfit⟩⟩
  · exact ⟨hidle, .inr ⟨f, rfl⟩⟩

end Site

end BufferCoherence
