import BufferCoherence.Proofs.Extents
import BufferCoherence.Proofs.Reconversion

/-!
# Draws after a buffer was renamed

What a draw makes of an object that was just taken over, on the memory device.

* `Renewed c s`: the object alone is current, holds `c`, and lacks nothing; so the buffer is after it
  took over an object of its size (`applyUpload_renews`), whatever it was before;
* `reload_converts`: a reload converts every complete vertex of it, once;
* `renamed_draw_converts_iff`: a draw reloads only where its layout changes the conversion map. With
  a layout that leaves the map alone, the object goes on to hold what the client put there.
-/

namespace BufferCoherence

namespace Site

variable {s t : Site MemoryDevice} {c : ByteArray} {j : Journal}

/-! ## 1. Buffers that were just renamed -/

/-- **The object alone is current**: it holds `c`, and nothing is recorded as changed. -/
structure Renewed (c : ByteArray) (s : Site MemoryDevice) : Prop where
  sized : s.buffer.Sized
  size : c.size = s.buffer.size
  object : ∃ a, s.copies.object = some a ∧ a.offset = 0
  held : s.objectBytes? = some c
  current : s.buffer.locations.has Location.gpuObject = true
  alone : s.buffer.locations.has Location.sysmem = false ∧
    s.buffer.locations.has Location.discarded = false ∧
    s.buffer.locations.has Location.cleared = false
  clean : s.buffer.dirty.isPending = false

namespace Renewed

theorem hosted (h : Renewed c s) : s.buffer.size ≤ Bytes.largestRun := by
  obtain ⟨o, -, hbytes⟩ := Option.bind_eq_some_iff.mp h.held
  rw [← h.size]
  exact MemoryDevice.size_le_largestRun hbytes

theorem object_isSome (h : Renewed c s) : s.buffer.object.isSome = true := by
  obtain ⟨a, ha, -⟩ := h.object
  rw [← copies_object_isSome, ha, Option.isSome_some]

/-- Only what a view of the copies shows matters. -/
theorem of_copies (h : Renewed c s) (ht : t.copies = s.copies) : Renewed c t where
  sized := ⟨by
      rw [show t.buffer.shadow = _ from congrArg Copies.shadow ht,
        show t.buffer.size = _ from congrArg Copies.size ht]
      exact h.sized.shadow,
    (congrArg (fun v : Copies => v.dirty.size) ht).trans
      (h.sized.dirty.trans (congrArg Copies.size ht).symm)⟩
  size := h.size.trans (congrArg Copies.size ht).symm
  object := by
    rw [ht]
    exact h.object
  held := (congrArg Copies.held ht).trans h.held
  current := by
    rw [show t.buffer.locations = _ from congrArg Copies.locations ht]
    exact h.current
  alone := by
    rw [show t.buffer.locations = _ from congrArg Copies.locations ht]
    exact h.alone
  clean := (congrArg (fun v : Copies => v.dirty.isPending) ht).trans h.clean

/-- Once the shadow has storage, the copies stand for what the object holds. -/
theorem coherent (h : Renewed c s) (hkind : s.buffer.backend.kind ≠ .noObject) {m : ByteArray}
    (hm : m.size = s.buffer.size) (k : Bool) :
    Coherent k c (copies { s with buffer := { s.buffer with shadow := some m } }) where
  size := h.size
  spanned := h.sized.dirty
  spans r hr := by
    rw [show (copies { s with buffer := { s.buffer with shadow := some m } }).dirty.spans = []
      from DirtySpans.isPending_eq_false.mp h.clean] at hr
    cases hr
  kept := h.alone.2.1
  somewhere := .inr (.inl h.current)
  allowed _ := hkind
  shadow m' hm' := by
    cases hm'
    exact ⟨hm, h.hosted⟩
  pinned _ := rfl
  cleared hc := absurd (h.alone.2.2.symm.trans hc) Bool.false_ne_true
  mirrored hs := absurd (h.alone.1.symm.trans hs) Bool.false_ne_true
  object a ha := by
    obtain ⟨a', ha', hoff⟩ := h.object
    cases ha.symm.trans ha'
    exact ⟨hoff, c, h.held, h.size, h.hosted⟩
  held b hb := by
    cases hb.symm.trans h.held
    exact h.size
  present _ := copies_object_isSome.trans h.object_isSome
  current _ _ := h.held
  stale _ _ hg := absurd (hg.symm.trans h.current) Bool.false_ne_true

end Renewed

/-- An object that was taken over is the only current copy. -/
theorem takeOver_renews (h : s.buffer.Sized) {a : Placement} (hoff : a.offset = 0)
    (hother : ∀ o, s.buffer.object = some o → o.handle ≠ a.handle)
    (hc : s.machine.device.bytes? a.handle = some c) (hsize : c.size = s.buffer.size) :
    (takeOver a).Ends s fun _ y => Renewed c y := by
  intro j
  unfold takeOver
  simp only [Step.wp_bind, wp_declareCurrent, wp_declareStale]
  refine (renameTo_ends s a hother).wp fun _ t j hpost => ?_
  obtain ⟨-, ht⟩ := hpost
  rw [hc] at ht
  let y : Site MemoryDevice := { t with buffer :=
    (t.buffer.markValid Location.gpuObject).markStale (Location.all \ Location.gpuObject) 0 0 }
  have hy : y.copies = { s.copies with
      object := some a
      held := some c
      dirty := s.buffer.dirty.clear
      locations := (s.buffer.locations ∪ Location.gpuObject) \
        (Location.all \ Location.gpuObject) } := by
    show (t.copies.markValid Location.gpuObject).markStale _ 0 0 = _
    rw [ht, Copies.markValid_gpuObject]
    unfold Copies.markStale
    rw [if_neg (by simp)]
    rfl
  have hloc : y.buffer.locations = _ := congrArg Copies.locations hy
  exact
    { sized := ⟨fun m hm => by
          rw [show y.buffer.size = s.buffer.size from congrArg Copies.size hy]
          exact h.shadow m ((congrArg Copies.shadow hy).symm.trans hm),
        (congrArg (fun v : Copies => v.dirty.size) hy).trans
          (h.dirty.trans (congrArg Copies.size hy).symm)⟩
      size := hsize.trans (congrArg Copies.size hy).symm
      object := ⟨a, congrArg Copies.object hy, hoff⟩
      held := congrArg Copies.held hy
      current := by
        rw [hloc]
        simp
      alone := by
        rw [hloc]
        simp
      clean := congrArg (fun v : Copies => v.dirty.isPending) hy }

/-- A buffer that took over an upload object has it as the only current copy. -/
theorem applyUpload_renews (h : s.buffer.Sized) {u : Upload} {offset size : Nat}
    (hrename : u.rename = true) (hoff : u.placement.offset = 0)
    (hother : ∀ o, s.buffer.object = some o → o.handle ≠ u.placement.handle)
    (hc : s.machine.device.bytes? u.placement.handle = some c) (hsize : c.size = s.buffer.size)
    {k : Journal} (hrun : (applyUpload u offset size).run s j = ((.ok (), t), k)) :
    Renewed c t := by
  refine Attempt.Ends.of_run (P := fun r t => r = .ok () → Renewed c t) (fun j => ?_) hrun rfl
  unfold applyUpload
  simp only [Attempt.wp_bind, wp_requireRun, Attempt.wp_ite, Attempt.wp_always, wp_current, hrename,
    if_true, Attempt.wp_pure, wp_onDevice]
  split
  · refine ((takeOver_renews h hoff hother hc hsize).and (takeOver_renames _ s)).wp
      fun _ y l hy => ?_
    simp only [hy.2.usesObject, if_true]
    split
    · exact (MemoryDevice.closeMapping_ends _ _ _).wp fun _ d _ hd _ =>
        hy.1.of_copies (copies_untouched hd)
    · exact fun _ => hy.1
  · exact fun hok => absurd hok (Failure.ne_ok _ _)

/-! ## 2. Reloads -/

/-- The shadow of a renewed buffer is filled from its object. -/
theorem Renewed.refreshShadow (h : Renewed c s) (hkind : s.buffer.backend.kind ≠ .noObject) :
    refreshShadow.Ends s fun r y => r = .ok () ∧ ∃ d, s.machine.device.Untouched d ∧
      y = { s with
        buffer := { s.buffer with shadow := some c }.markValid Location.sysmem
        machine.device := d } := by
  refine refreshShadow_cases (FlagSet.isEmpty_of_has Location.isFlag.2.1 h.current) h.alone.2.1
    (fun m hm => (h.sized.shadow m hm).1)
    (fun hs => absurd (h.alone.1.symm.trans hs) Bool.false_ne_true)
    (fun _ hrefused => absurd h.hosted (Nat.not_le_of_lt (size_of_refused hrefused)))
    fun hs m hm _ => ?_
  refine (loadShadow_ends (h.coherent hkind hm false) m hm hs).mono fun r y hy => ?_
  obtain ⟨rfl, d, hd, rfl⟩ := hy
  exact ⟨rfl, d, hd, rfl⟩

/-- **An object that lacks everything has every complete vertex converted once**, if there is a
    conversion map. -/
theorem loadPending_converts (h : Coherent s.buffer.isConverted c s.copies)
    (hkind : s.buffer.backend.kind ≠ .noObject) (ho : s.buffer.object.isSome = true)
    (hg : s.buffer.locations.has Location.gpuObject = false)
    (hspans : s.buffer.dirty.spans = [⟨0, c.size⟩]) :
    loadPending.Ends s fun _ y => y.buffer.conversion.map = s.buffer.conversion.map ∧
      y.buffer.locations.has Location.gpuObject = true ∧
      ∀ m, s.buffer.conversion.map = some m → y.objectBytes? = some (m.convertAll c) := by
  intro j
  unfold loadPending
  simp only [Step.wp_bind, Attempt.wp_outcome]
  refine ((refreshObject_keeps h).and (refreshObject_converts h ho hg)).wp fun r y j hpost => ?_
  obtain ⟨⟨hkeeps, -, hcase⟩, hconverts⟩ := hpost
  rcases hcase with ⟨rfl, hcurrent, -⟩ | ⟨-, -, hno, -⟩
  · rw [Step.wp_pure]
    refine ⟨congrArg (fun f : Frame => f.conversion.map) hkeeps.frame, hcurrent, fun m hm => ?_⟩
    obtain ⟨-, -, -, -, old, new, -, hnew, hover⟩ := hconverts rfl m hm
    rw [hspans] at hover
    have hsize : new.size = c.size := (hkeeps.coherent.held new hnew).trans
      (hkeeps.size.trans h.size.symm)
    rw [hnew, m.overlaid_convert_whole hsize hover]
  · exact absurd ⟨hkind, .inl ho⟩ hno

/-- **A reload converts what a renewed buffer holds.** -/
theorem reload_converts (h : Renewed c s) (hkind : s.buffer.backend.kind ≠ .noObject) :
    reload.Ends s fun _ y => y.buffer.conversion.map = s.buffer.conversion.map ∧
      y.buffer.locations.has Location.gpuObject = true ∧
      ∀ m, s.buffer.conversion.map = some m → y.objectBytes? = some (m.convertAll c) := by
  intro j
  unfold reload
  simp only [Step.wp_bind, wp_current, Step.wp_note, Attempt.wp_outcome]
  refine (h.refreshShadow hkind).wp fun r y k hy => ?_
  obtain ⟨rfl, d, hd, rfl⟩ := hy
  rw [Step.wp_bind, wp_declareStale]
  let v : Copies := copies { s with buffer := { s.buffer with shadow := some c } }
  have hv (k : Bool) : Coherent k c v := h.coherent hkind h.size k
  let u : Site MemoryDevice := { s with
    buffer := ({ s.buffer with shadow := some c }.markValid Location.sysmem).markStale
      Location.gpuObject 0 0
    machine.device := d }
  have hu : u.copies = (v.mirrored c).markStale Location.gpuObject 0 0 := by
    have hsame : copies { s with machine.device := d } = s.copies := copies_untouched hd
    show (({ copies { s with machine.device := d } with shadow := some c }).markValid
      Location.sysmem).markStale Location.gpuObject 0 0 = _
    rw [hsame, Copies.markValid_sysmem]
    rfl
  have hdirty : u.buffer.dirty = s.buffer.dirty.markAll := by
    rw [show u.buffer.dirty = _ from congrArg Copies.dirty hu]
    unfold Copies.markStale
    rw [if_pos Location.has_itself.2.1]
    rfl
  refine loadPending_converts (s := u) ?_ hkind h.object_isSome ?_ ?_ _
  · rw [hu]
    exact (hv false).staleAll h.hosted _
  · simp [u, Buffer.markStale]
  · rw [hdirty, h.size, ← h.sized.dirty]
    rfl

/-! ## 3. Draws -/

/-- A draw converts the vertices of the whole buffer, unless it gives the object up: the buffer is
    not mapped through its object, may have one, and the layout changes the conversion map. -/
def reconverts (draw : Option Draw) (s : Site MemoryDevice) : Bool :=
  !(decide (0 < s.buffer.mapCount) && s.buffer.mapBase.isSome) && s.buffer.objectAllowed &&
    s.buffer.backend.kind != .noObject && changesMap draw s

/-- What a draw finds, if the vertices count as converted: a current object, with the vertices
    converted once or with the bytes as they are. -/
def Presents (converts : Bool) (c : ByteArray) (y : Site MemoryDevice) : Prop :=
  ∀ m, y.buffer.conversion.map = some m → y.buffer.locations.has Location.gpuObject = true ∧
    y.objectBytes? = some (if converts then m.convertAll c else c)

theorem Renewed.presents (h : Renewed c s) : Presents false c s := fun _ _ => ⟨h.current, h.held⟩

/-- Where the map changed, the object is reloaded or given up. -/
theorem loadChanged_presents (h : Renewed c s) (hkind : s.buffer.backend.kind ≠ .noObject) :
    loadChanged.Ends s fun _ y => Presents true c y := by
  intro j
  unfold loadChanged
  simp only [Step.wp_bind, wp_countEvent, wp_current, Step.wp_ite, Step.wp_note]
  let t : Site MemoryDevice := { s with buffer := { s.buffer with
    hysteresis := s.buffer.hysteresis.countDeclaration.2 } }
  have ht : Renewed c t := h.of_copies rfl
  split
  · have hplain : dropObject.Ends t fun _ y => y.buffer.isConverted = false := fun j =>
      vacate_plain (s := { t with buffer := { t.buffer with objectAllowed := false } })
        h.object_isSome j
    refine hplain.wp fun _ y _ hy m hm => ?_
    exact absurd (hy.symm.trans (isConverted_iff hm)) Bool.false_ne_true
  · refine (reload_converts ht hkind).wp fun _ y _ hy m hm => ⟨hy.2.1, hy.2.2 m ?_⟩
    rw [← hy.1]
    exact hm

theorem loadPrepared_presents (h : Renewed c s) (hkind : s.buffer.backend.kind ≠ .noObject)
    (draw : Option Draw) : (loadPrepared draw).Ends s fun _ y => Presents (changesMap draw s) c y := by
  -- with nothing recorded as changed, the draw is counted and that is all
  have hquiet {t : Site MemoryDevice} (ht : Renewed c t) (j : Journal) :
      Step.wp (if t.buffer.dirty.isPending then loadDirty else countQuietDraw) t j
        fun _ y _ => Presents false c y := by
    rw [ht.clean, if_neg Bool.false_ne_true, wp_countQuietDraw]
    exact (ht.of_copies rfl).presents
  intro j
  unfold loadPrepared
  cases draw with
  | none => exact hquiet h j
  | some draw =>
    simp only [Step.wp_bind, wp_current]
    refine (analyseLayout_ends s draw).wp fun changed t j hpost => ?_
    obtain ⟨rfl, conversion, rfl, -⟩ := hpost
    have ht : Renewed c { s with buffer := { s.buffer with conversion } } := h.of_copies rfl
    cases hchanges : changesMap (some draw) s with
    | true => exact loadChanged_presents ht hkind j
    | false => exact hquiet ht j

/-- A draw loads what is prepared, where the buffer is not mapped through its object and may have
    one. -/
theorem readyForDraw_presents (h : Renewed c s) (draw : Option Draw) :
    (readyForDraw draw).Ends s fun _ y => Presents (reconverts draw s) c y := by
  intro j
  have hload (hallowed : s.buffer.objectAllowed = true)
      (hmapped : (decide (0 < s.buffer.mapCount) && s.buffer.mapBase.isSome) = false)
      (j : Journal) : Step.wp reserveObject s j fun ready t k =>
      if ready = true then (loadPrepared draw).wp t k fun _ y _ => Presents (reconverts draw s) c y
      else Presents (reconverts draw s) c t := by
    unfold reconverts
    rw [hallowed, hmapped]
    refine (reserveObject_ends s).wp fun ready t k hpost => ?_
    obtain ⟨-, -, ht⟩ := hpost
    have hsome {P : Prop} (hobj : s.buffer.object = none) : P := by
      have := h.object_isSome
      rw [hobj] at this
      cases this
    rcases ht with ⟨rfl, hres, -, rfl⟩ | ⟨-, -, hobj, -⟩ | ⟨rfl, hno, ht⟩
    · rw [if_pos rfl, bne_iff_ne.mpr hres.1]
      exact loadPrepared_presents h hres.1 draw k
    · exact hsome hobj
    · -- an object that is there is only out of reach where there are none
      have hkind : s.buffer.backend.kind = .noObject :=
        Decidable.byContradiction fun hkind => hno ⟨hkind, .inl h.object_isSome⟩
      rw [if_neg Bool.false_ne_true, hkind]
      exact (h.of_copies (ht.resolve_right fun hobj => hsome hobj.1)).presents
  unfold readyForDraw
  simp only [Step.wp_bind, wp_current, Step.wp_ite, Step.wp_note, Step.wp_pure, gt_iff_lt]
  cases hmapped : decide (0 < s.buffer.mapCount) && s.buffer.mapBase.isSome with
  | true =>
    have hnone : reconverts draw s = false := by
      unfold reconverts
      rw [hmapped]
      rfl
    rw [if_pos rfl, hnone]
    exact h.presents
  | false =>
    rw [if_neg Bool.false_ne_true]
    cases hallowed : s.buffer.objectAllowed with
    | true =>
      rw [if_pos rfl]
      split
      · exact hload hallowed hmapped _
      · exact hload hallowed hmapped _
    | false =>
      have hnone : reconverts draw s = false := by
        unfold reconverts
        rw [hallowed, hmapped]
        rfl
      simp only [Bool.false_eq_true, if_false, ite_self, hnone]
      exact h.presents

/-! ## 4. Draws after a buffer was renamed -/

/-- **A draw converts a renamed buffer only where its layout changes the conversion map.** A buffer,
    whatever happened to it, takes over an object of its size that is not its own, and is drawn next.
    If its vertices count as converted after the draw, the object is current. It holds the vertices
    converted, each once, exactly where the draw reconverts, or where a conversion changes nothing;
    everywhere else it holds what was handed in. -/
theorem renamed_draw_converts_iff (hs : s.buffer.Handled) {u : Upload} (hrename : u.rename = true)
    (hoff : u.placement.offset = 0)
    (hfresh : ∀ o, s.buffer.object = some o → o.handle ≠ u.placement.handle)
    (hc : s.machine.device.bytes? u.placement.handle = some c) (hsize : c.size = s.buffer.size)
    {offset size : Nat} {k : Journal}
    (hrun : (applyUpload u offset size).run s j = ((.ok (), t), k)) (draw : Option Draw)
    {y : Site MemoryDevice} {i l : Journal} (hdraw : readyForDraw draw t i = (((), y), l))
    {m : ConversionMap} (hm : y.buffer.conversion.map = some m) :
    y.buffer.locations.has Location.gpuObject = true ∧
      (y.objectBytes? = some (m.convertAll c) ↔
        reconverts draw t = true ∨ m.convertAll c = c) ∧
      (reconverts draw t = false → y.objectBytes? = some c) := by
  have ht := applyUpload_renews hs.sized hrename hoff hfresh hc hsize hrun
  obtain ⟨hcurrent, hbytes⟩ := (readyForDraw_presents ht draw).of_run hdraw m hm
  refine ⟨hcurrent, ?_, fun hno => ?_⟩
  · rw [hbytes, Option.some.injEq]
    cases reconverts draw t with
    | true => simp
    | false => simp [eq_comm]
  · rw [hbytes, hno]
    rfl

/-- A draw of vertices of two attributes, one of which is a color. -/
def wideDraw : Draw :=
  ⟨(VertexLayout.empty false).set .diffuse (some ⟨.b8g8r8a8Unorm, 8, 4, ⟨1⟩⟩), false⟩

/-- A buffer of colors is drawn, and takes over an object of its size. Another draw follows, with the
    same layout or with another one. -/
theorem drawn_before_upload : ∃ (s t : Site MemoryDevice) (k : Journal) (m m' : ConversionMap),
    s.buffer.Handled ∧ s.buffer.conversion.map = some m ∧
    s.buffer.object.map BufferObject.handle = some ⟨1⟩ ∧
    (⟨#[17, 18, 19, 20, 21, 22, 23, 24]⟩ : ByteArray).size = s.buffer.size ∧
    s.machine.device.bytes? ⟨2⟩ = some ⟨#[17, 18, 19, 20, 21, 22, 23, 24]⟩ ∧
    (applyUpload ⟨⟨⟨2⟩, 0⟩, true, false⟩ 0 8).run s (.empty .error) = ((.ok (), t), k) ∧
    (reconverts (some wideDraw) t = true ∧
      (readyForDraw (some wideDraw) t (.empty .error)).1.2.buffer.conversion.map = some m') ∧
    (readyForDraw (some colorDraw) t (.empty .error)).1.2.buffer.conversion.map = some m ∧
    (readyForDraw (some colorDraw) t (.empty .error)).1.2.buffer.locations.has
      Location.gpuObject = true ∧
    (readyForDraw (some colorDraw) t (.empty .error)).1.2.objectBytes? =
      some ⟨#[17, 18, 19, 20, 21, 22, 23, 24]⟩ ∧
    m.convertAll ⟨#[17, 18, 19, 20, 21, 22, 23, 24]⟩ = ⟨#[19, 18, 17, 20, 23, 22, 21, 24]⟩ := by
  let made := (Machine.create ⟨8, ∅, BindFlags.vertexBuffer, Access.gpu, 0⟩
    (some ⟨#[1, 2, 3, 4, 5, 6, 7, 8]⟩) {}).run (.new (MemoryDevice.new .legacy)) (.empty .error)
  have hmade : made.1.1.toOption.isSome = true := by decide +kernel
  let drawn : Site MemoryDevice := ((Call.complete (.draw (some colorDraw))).perform
    ⟨made.1.1.toOption.get (by decide +kernel), made.1.2⟩ (.empty .error)).1.2
  have hdrawn : drawn.buffer.Handled := Buffer.Handled.call
    (.created (Attempt.eq_end_of_ok _ _ _ (Option.some_get hmade).symm)) _ _
  let s : Site MemoryDevice := { drawn with machine.device :=
    ((MemoryDevice.makeUpload ⟨#[17, 18, 19, 20, 21, 22, 23, 24]⟩).run drawn.machine.device
      (.empty .error)).1.2 }
  let t : Site MemoryDevice :=
    ((applyUpload ⟨⟨⟨2⟩, 0⟩, true, false⟩ 0 8).run s (.empty .error)).1.2
  refine ⟨s, t, _, s.buffer.conversion.map.get (by decide +kernel),
    (readyForDraw (some wideDraw) t (.empty .error)).1.2.buffer.conversion.map.get
      (by decide +kernel), hdrawn, (Option.some_get _).symm, ?_, ?_, ?_,
    Attempt.eq_end_of_ok _ _ _ (v := ()) ?_, ⟨?_, (Option.some_get _).symm⟩, ?_, ?_, ?_, ?_⟩
  all_goals decide +kernel

/-- Drawn with another layout, the object that was handed in holds converted vertices. -/
theorem renamed_draw_converts_wide : ∃ (s t y : Site MemoryDevice) (c : ByteArray)
    (m : ConversionMap) (j k l : Journal), s.buffer.Handled ∧ s.buffer.isConverted = true ∧
    (applyUpload ⟨⟨⟨2⟩, 0⟩, true, false⟩ 0 8).run s j = ((.ok (), t), k) ∧
    readyForDraw (some wideDraw) t j = (((), y), l) ∧ y.buffer.conversion.map = some m ∧
    y.buffer.locations.has Location.gpuObject = true ∧
    y.objectBytes? = some (m.convertAll c) := by
  obtain ⟨s, t, k, m, m', hs, hmap, hobj, hsize, hc, hrun, ⟨hre, hm'⟩, -⟩ := drawn_before_upload
  have hfresh (o : BufferObject) (ho : s.buffer.object = some o) : o.handle ≠ ⟨2⟩ := by
    rw [ho, Option.map_some, Option.some.injEq] at hobj
    rw [hobj]
    decide
  have hdraw := Step.eq_end (readyForDraw (some wideDraw)) t (.empty .error)
  obtain ⟨hcurrent, hconverts, -⟩ := renamed_draw_converts_iff hs rfl rfl hfresh hc hsize hrun
    (some wideDraw) hdraw hm'
  exact ⟨s, t, _, _, m', _, k, _, hs, isConverted_iff hmap, hrun, hdraw, hm', hcurrent,
    hconverts.mpr (.inl hre)⟩

/-- Drawn with the layout it was drawn with before, the object that was handed in holds what it held,
    and the buffer counts as converted and current all the same. -/
theorem renamed_draw_unconverted : ∃ (s t y : Site MemoryDevice) (c : ByteArray)
    (m : ConversionMap) (j k l : Journal), s.buffer.Handled ∧ s.buffer.conversion.map = some m ∧
    c.size = s.buffer.size ∧ s.machine.device.bytes? ⟨2⟩ = some c ∧
    (applyUpload ⟨⟨⟨2⟩, 0⟩, true, false⟩ 0 8).run s j = ((.ok (), t), k) ∧
    readyForDraw (some colorDraw) t j = (((), y), l) ∧ y.buffer.conversion.map = some m ∧
    y.buffer.locations.has Location.gpuObject = true ∧
    y.objectBytes? = some c ∧ m.convertAll c ≠ c := by
  obtain ⟨s, t, k, m, _, hs, hmap, -, hsize, hc, hrun, -, hm, hcurrent, hbytes, hraw⟩ :=
    drawn_before_upload
  refine ⟨s, t, _, _, m, _, k, _, hs, hmap, hsize, hc, hrun,
    Step.eq_end (readyForDraw (some colorDraw)) t (.empty .error), hm, hcurrent, hbytes, ?_⟩
  rw [hraw]
  decide

end Site

end BufferCoherence
