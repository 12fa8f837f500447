import BufferCoherence.Proofs.Lifecycle

/-!
# What a draw finds

A draw may skip the upload on the strength of the dirty spans alone. `readyForDraw_ends` is why that
is safe: whatever the draw does, the content stays, and an object that the buffer goes on to use
without converting vertices is current, lacks nothing and holds the content (`Fresh`).

* `ConversionState.map_analyse` says that an analysis that reports no change leaves the map alone;
* `loadChanged_ends` and `loadDirty_ends` are the two ways in which a draw loads the object.
-/

namespace BufferCoherence

/-! ## 1. Analyses that change nothing -/

namespace Pass

variable {p : Pass}

/-- A pass that reports no change has the map that it started with, and one that reported a change
    goes on reporting it. -/
def Follows (p q : Pass) : Prop :=
  (p.changed = true → q.changed = true) ∧ (q.changed = false → q.map = p.map)

theorem Follows.refl (p : Pass) : Follows p p := ⟨id, fun _ => rfl⟩

theorem Follows.trans {p q r : Pass} (h₁ : Follows p q) (h₂ : Follows q r) : Follows p r := by
  refine ⟨fun h => h₂.1 (h₁.1 h), fun h => ?_⟩
  have hq : q.changed = false := by
    cases hc : q.changed with
    | false => rfl
    | true => exact absurd ((h₂.1 hc).symm.trans h) nofun
  exact (h₂.2 h).trans (h₁.2 hq)

theorem follows_tell (p : Pass) (n : Notice) : Follows p (p.tell n) := ⟨id, fun _ => rfl⟩

theorem follows_changed {p q : Pass} (h : q.changed = true) : Follows p q :=
  ⟨fun _ => h, fun h' => absurd (h.symm.trans h') nofun⟩

/-- A fold of steps that follow follows. -/
theorem follows_foldl {α : Type} {f : Pass → α → Pass} (h : ∀ p a, Follows p (f p a))
    (l : List α) (p : Pass) : Follows p (l.foldl f p) := by
  induction l generalizing p with
  | nil => exact .refl p
  | cons a rest ih => exact (h p a).trans (ih (f p a))

theorem follows_tagByte (p : Pass) (m : ConversionMap) (i : Nat) (f : ByteFixup) :
    Follows p (p.tagByte m i f) := by
  unfold tagByte
  split
  · exact .refl p
  · exact follows_changed rfl

theorem follows_tagBytes (p : Pass) (e : VertexAttribute) (f : ByteFixup) :
    Follows p (p.tagBytes e f) := by
  refine follows_foldl (fun q i => ?_) _ p
  split
  · exact follows_tagByte q _ _ _
  · exact .refl q

theorem follows_takeStride (p : Pass) (e : VertexAttribute) : Follows p (p.takeStride e) := by
  unfold takeStride
  split
  · exact follows_tell p _
  · split
    · exact ⟨id, fun _ => rfl⟩
    · dsimp only
      split
      · exact ⟨id, fun _ => rfl⟩
      · exact follows_changed rfl

theorem follows_tagAttribute (p : Pass) (e : VertexAttribute) (f : ByteFixup) :
    Follows p (p.tagAttribute e f) := by
  unfold tagAttribute
  dsimp only
  split
  · exact follows_takeStride p e
  · split
    · exact (follows_takeStride p e).trans (follows_tell _ _)
    · exact (follows_takeStride p e).trans (follows_tagBytes _ e f)

theorem follows_visit (buffer : BufferId) (layout : VertexLayout) (fixup : FixupFlags) (p : Pass)
    (slot : AttributeSlot) : Follows p (visit buffer layout fixup p slot) := by
  unfold visit
  split
  · exact .refl p
  · split
    · exact .refl p
    · split
      · exact .refl p
      · split
        · exact follows_tagAttribute p _ _
        · exact follows_tell p _
        · exact .refl p

theorem follows_dropUnused (p : Pass) (buffer : BufferId) : Follows p (p.dropUnused buffer) := by
  unfold dropUnused
  split
  · exact follows_changed rfl
  · exact .refl p

end Pass

/-- **An analysis that reports no change leaves the conversion map alone.** -/
theorem ConversionState.map_analyse {c : ConversionState} {buffer : BufferId}
    {layout : VertexLayout} {fixup : FixupFlags} {staticDecl : Bool}
    (h : (c.analyse buffer layout fixup staticDecl).changed = false) :
    (c.analyse buffer layout fixup staticDecl).conversion.map = c.map := by
  unfold ConversionState.analyse at h ⊢
  split
  · rfl
  · rename_i hfirst
    rw [if_neg hfirst] at h
    split
    · rename_i hnone
      rw [if_pos hnone] at h
      exact (Option.isSome_eq_false_iff.mp h |> Option.isNone_iff_eq_none.mp).symm
    · rename_i hsome
      rw [if_neg hsome] at h
      dsimp only at h ⊢
      split
      · rfl
      · rename_i hclear
        rw [if_neg hclear] at h
        have hrun : Pass.Follows ⟨c.map, 0, false, false, []⟩
            ((Pass.run buffer layout fixup c.map).dropUnused buffer) :=
          (Pass.follows_foldl (Pass.follows_visit buffer layout fixup) _ _).trans
            (Pass.follows_dropUnused _ buffer)
        split at h
        · rename_i hchanged
          exact absurd (hchanged.symm.trans h) nofun
        · rename_i hunchanged
          rw [if_neg hunchanged]
          exact hrun.2 h

/-- An object that lacks everything may have held anything. -/
theorem Coherent.staleAll {k : Bool} {c : ByteArray} {v : Copies} (h : Coherent k c v)
    (hroom : v.size ≤ Bytes.largestRun) (k' : Bool) :
    Coherent k' c ((v.mirrored c).markStale Location.gpuObject 0 0) := by
  have hmark : (v.mirrored c).markStale Location.gpuObject 0 0 =
      { v with
        shadow := some c
        locations := (v.locations ∪ Location.sysmem) \ Location.gpuObject
        dirty := v.dirty.markAll } := by
    unfold Copies.markStale Copies.mirrored
    rw [if_pos Location.has_itself.2.1]
    rfl
  rw [hmark]
  refine { h with
    spans := DirtySpans.Fits.markAll _
    kept := by simp [h.kept]
    somewhere := .inl (by simp)
    shadow := fun m hm => by
      cases hm
      exact ⟨h.size, hroom⟩
    pinned := fun _ => rfl
    cleared := fun hc => h.cleared (by simpa using hc)
    mirrored := fun _ => rfl
    present := fun hg => by simp at hg
    current := fun hg => by simp at hg
    stale := fun b hb _ _ _ i hi => ?_ }
  have hle : v.size ≤ i := by
    refine Nat.le_of_not_lt fun hlt => hi (DirtySpans.covers_markAll ?_)
    rw [h.spanned]
    exact hlt
  have hbs := h.held b hb
  have hcs := h.size
  rw [Bytes.byteAt?_eq_none_iff.mpr (by omega), Bytes.byteAt?_eq_none_iff.mpr (by omega)]

namespace Site

variable {s t : Site MemoryDevice} {k : Bool} {c : ByteArray} {j : Journal}

/-! ## 2. Loading -/

/-- The object is current, lacks nothing, and holds the content. -/
structure Fresh (c : ByteArray) (s : Site MemoryDevice) : Prop where
  current : s.buffer.locations.has Location.gpuObject = true
  complete : s.buffer.dirty.isPending = false
  holds : s.objectBytes? = some c

/-- The object has converted vertices: the spans were loaded over what it held in `s`, and the
    shadow is current beside it. -/
structure Reconverted (c : ByteArray) (m : ConversionMap) (spans : List ByteRange)
    (s y : Site MemoryDevice) : Prop where
  current : y.buffer.locations.has Location.gpuObject = true
  mirrored : (s.buffer.isConverted = true → s.buffer.locations.has Location.sysmem = true) →
    y.buffer.locations.has Location.sysmem = true
  allowed : y.buffer.objectAllowed = s.buffer.objectAllowed
  whole : s.buffer.conversion.map = some m ∨ spans = [⟨0, c.size⟩]
  loaded : ∃ old new, (∀ b, s.objectBytes? = some b → b = old) ∧ y.objectBytes? = some new ∧
    Overlaid spans (m.convert c spans) old new

/-- What is true of a buffer that a draw is done with, `s` being the buffer before: it is idle, and
    an object that it goes on to use is fresh, or has converted vertices. -/
structure Drawn (c : ByteArray) (spans : List ByteRange) (s y : Site MemoryDevice) : Prop where
  idle : Idle c y
  fresh : y.buffer.objectAllowed = true → y.buffer.conversion.map = none → Fresh c y
  converted : ∀ m, y.buffer.conversion.map = some m → Reconverted c m spans s y

theorem Idle.drawn {spans : List ByteRange} (h : Idle c t)
    (hg : t.buffer.locations.has Location.gpuObject = true)
    (hconverted : ∀ m, t.buffer.conversion.map = some m → Reconverted c m spans s t) :
    Drawn c spans s t := by
  refine ⟨h, fun _ hmap => ⟨hg, h.complete hg, h.current hg fun hk => ?_⟩, hconverted⟩
  exact absurd ((isConverted_iff hmap).symm.trans hk) nofun

/-- A buffer that gave its object up for good has nothing left to be fresh. -/
theorem Idle.drawn_without {spans : List ByteRange} (h : Idle c t)
    (hallowed : t.buffer.objectAllowed = false) (hplain : t.buffer.conversion.map = none) :
    Drawn c spans s t :=
  ⟨h, fun h' => absurd (hallowed.symm.trans h') nofun, fun _ hm => nomatch hplain.symm.trans hm⟩

/-- The vertices that a load converts are those that the dirty spans touch. -/
theorem refreshObject_converts (h : Coherent k c s.copies) (ho : s.buffer.object.isSome = true)
    (hg : s.buffer.locations.has Location.gpuObject = false) : refreshObject.Ends s fun r y =>
      r = .ok () → ∀ m, s.buffer.conversion.map = some m →
        Reconverted c m s.buffer.dirty.spans s y := by
  refine (refreshObject_ends h).mono fun r y ⟨_, _, hcase⟩ hr m hm => ?_
  rcases hcase with ⟨-, hg', -⟩ | ⟨⟨f, rfl⟩, -⟩ | ⟨-, -, -, v, old, new, hv, hold, hnew, hy⟩
  · exact absurd (hg.symm.trans hg') nofun
  · cases hr
  · have hvs : v = s.copies := by
      rcases hv with ⟨-, hv⟩ | ⟨hnone, -⟩
      · exact hv
      · rw [hnone] at ho
        cases ho
    subst hvs
    rw [hm] at hnew
    rw [isConverted_iff hm, Option.isSome_some] at hy
    have hl := Copies.loadedFrom_loaded s.copies true s.buffer.isDynamic c new
    rw [← hy] at hl
    refine ⟨hl.current, fun _ => ?_, hl.objectAllowed, .inl hm, old, new, fun b hb => ?_, hl.held,
      hnew⟩
    · rw [show y.buffer.locations = _ from congrArg Copies.locations hy]
      exact Copies.current_loaded_converted _ _ _ _
    · exact Option.some.inj (hb.symm.trans hold)

theorem loadPending_ends (h : Idle c s) (hres : Reservable s)
    (ho : s.buffer.object.isSome = true)
    (hg : s.buffer.locations.has Location.gpuObject = false) :
    loadPending.Ends s fun _ y => Drawn c s.buffer.dirty.spans s y := by
  intro j
  unfold loadPending
  simp only [Step.wp_bind, Attempt.wp_outcome]
  refine ((refreshObject_keeps h.toCoherent).and
    (refreshObject_converts h.toCoherent ho hg)).wp fun r y j hpost => ?_
  obtain ⟨⟨hy, _, hcase⟩, hconv⟩ := hpost
  rcases hcase with ⟨rfl, hyg, -⟩ | ⟨-, -, hno, -⟩
  · refine (hy.idle h).drawn hyg fun m hm => hconv rfl m ?_
    rw [← hm]
    exact congrArg (fun f : Frame => f.conversion.map) hy.frame.symm
  · exact absurd hres hno

/-- A new object leaves the copies settled: it lacks everything. -/
theorem settled_equipped (h : Coherent k c s.copies) (hobj : s.buffer.object = none)
    (hres : Reservable s) : Settled k c s.equipped :=
  { coherent_equipped h hobj hres with
    complete := fun hg => by
      have ho := h.present hg
      rw [copies_object_isSome, hobj] at ho
      cases ho
    lacking := fun _ _ _ => DirtySpans.isPending_markAll _ }

/-- The object of an idle buffer given up for good, whatever the object held. -/
theorem dropObject_ends (h : Coherent k c s.copies) (ho : s.buffer.object.isSome = true)
    (hcount : s.buffer.mapCount = 0) (hbase : s.buffer.mapBase = none) (spans : List ByteRange)
    (x : Site MemoryDevice) : dropObject.Ends s fun _ y => Drawn c spans x y := by
  intro j
  unfold dropObject
  simp only [Step.wp_bind, wp_change]
  let u : Site MemoryDevice := { s with buffer := { s.buffer with objectAllowed := false } }
  have hu : Coherent k c u.copies := coherent_disallowed h
  refine (vacate_ends hu ho).wp fun _ y j hpost => ?_
  obtain ⟨hcopies, hframe⟩ := hpost
  have hconv : y.buffer.isConverted = false :=
    congrArg (fun f : Frame => f.conversion.map.isSome) hframe
  have hset : Settled y.buffer.isConverted c y.copies := by
    rw [hcopies]
    exact hu.vacated (h.room_of_object (copies_object_isSome.trans ho)) _
  refine Idle.drawn_without { hset with
    backed := fun hc => absurd (hconv.symm.trans hc) Bool.false_ne_true
    unmapped := (congrArg Frame.mapCount hframe).trans hcount
    baseless := (congrArg Frame.mapBase hframe).trans hbase } ?_ ?_
  · exact congrArg Copies.objectAllowed hcopies
  · exact congrArg (fun f : Frame => f.conversion.map) hframe

/-- The span of everything is the span of the buffer. -/
theorem whole_eq_span (h : Coherent k c s.copies) : s.buffer.dirty.whole = s.buffer.span := by
  unfold DirtySpans.whole
  rw [show s.buffer.dirty.size = _ from h.spanned]
  rfl

/-- The object loaded again as a whole. What it held before, and whether its vertices were
    converted, does not matter; `x` may differ from `s` in that. -/
theorem reload_ends (h : Coherent k c s.copies) (ho : s.buffer.object.isSome = true)
    (hkind : s.buffer.backend.kind ≠ .noObject) (hcount : s.buffer.mapCount = 0)
    (hbase : s.buffer.mapBase = none) {x : Site MemoryDevice}
    (hx : x.objectBytes? = s.objectBytes?)
    (hxa : x.buffer.objectAllowed = s.buffer.objectAllowed) :
    reload.Ends s fun _ y => Drawn c [s.buffer.span] x y := by
  intro j
  have hroom : s.buffer.size ≤ Bytes.largestRun :=
    h.room_of_object (copies_object_isSome.trans ho)
  unfold reload
  simp only [Step.wp_bind, wp_current, Step.wp_note, Attempt.wp_outcome]
  refine (refreshShadow_ends h).wp fun r t j ht => ?_
  rcases ht with ⟨rfl, -, hcopies, hframe, hobj, -⟩ | ⟨-, -, hlarge⟩
  · unfold loadPending
    simp only [Step.wp_bind, wp_declareStale, Attempt.wp_outcome]
    let u : Site MemoryDevice :=
      { t with buffer := t.buffer.markStale Location.gpuObject 0 0 }
    have hu : u.copies = (s.copies.mirrored c).markStale Location.gpuObject 0 0 := by
      rw [← hcopies]
      rfl
    have hco : Coherent u.buffer.isConverted c u.copies := by
      rw [hu]
      exact h.staleAll hroom _
    have hg : u.buffer.locations.has Location.gpuObject = false := by
      rw [show u.buffer.locations = _ from congrArg Copies.locations hu]
      unfold Copies.markStale
      simp
    have hres : Reservable u := by
      refine ⟨?_, .inl ?_⟩
      · rw [show u.buffer.backend.kind = _ from congrArg Copies.kind hu]
        exact hkind
      · rw [show u.buffer.object = _ from hobj]
        exact ho
    have huo : u.buffer.object.isSome = true := by
      rw [show u.buffer.object = _ from hobj]
      exact ho
    have hspans : u.buffer.dirty.spans = [s.buffer.span] := by
      rw [show u.buffer.dirty = _ from congrArg Copies.dirty hu]
      unfold Copies.markStale
      rw [if_pos Location.has_itself.2.1]
      exact congrArg (fun r => [r]) (whole_eq_span h)
    refine ((refreshObject_keeps hco).and (refreshObject_converts hco huo hg)).wp
      fun r y j hpost => ?_
    obtain ⟨⟨hy, _, hcase⟩, hconverts⟩ := hpost
    rcases hcase with ⟨rfl, hyg, -, -, hset⟩ | ⟨-, -, hno, -⟩
    · have hyframe : y.frame = s.frame := hy.frame.trans hframe
      obtain ⟨hsettled, hbacked⟩ := hset hg
      have hyconv : y.buffer.isConverted = u.buffer.isConverted := isConverted_eq hy.frame
      rw [← hyconv] at hsettled hbacked
      refine Idle.drawn { hsettled with
        backed := hbacked
        unmapped := (congrArg Frame.mapCount hyframe).trans hcount
        baseless := (congrArg Frame.mapBase hyframe).trans hbase } hyg fun m hm => ?_
      have hym : u.buffer.conversion.map = some m := by
        rw [← hm]
        exact congrArg (fun f : Frame => f.conversion.map) hy.frame.symm
      obtain ⟨hcur, hmir, hall, -, old, new, hold, hnew, hover⟩ := hconverts rfl m hym
      rw [hspans] at hover
      refine ⟨hcur, fun _ => hmir fun _ => ?_,
        hall.trans ((congrArg Copies.objectAllowed hu).trans hxa.symm), .inr ?_, old, new,
        fun b hb => hold b ?_, hnew, hover⟩
      · rw [show u.buffer.locations = _ from congrArg Copies.locations hu]
        simp [Copies.markStale, Copies.mirrored]
      · rw [h.size]
        rfl
      · rw [show u.objectBytes? = _ from congrArg Copies.held hu]
        exact hx.symm.trans hb
    · exact absurd hres hno
  · exact absurd hroom (Nat.not_le_of_lt hlarge)

/-! ## 3. Draws -/

theorem wp_countEvent {δ : Type} {s : Site δ} (event : Hysteresis → Verdict × Hysteresis)
    (Q : Bool → Site δ → Journal → Prop) :
    (countEvent event).wp s j Q ↔ Q ((event s.buffer.hysteresis).1 == .dropObject)
      { s with buffer := { s.buffer with hysteresis := (event s.buffer.hysteresis).2 } } j :=
  Iff.rfl

theorem wp_countQuietDraw (Q : Unit → Site MemoryDevice → Journal → Prop) :
    countQuietDraw.wp s j Q ↔ Q ()
      { s with buffer := { s.buffer with hysteresis := s.buffer.hysteresis.countQuietDraw } } j :=
  Iff.rfl

theorem loadChanged_ends (h : Coherent k c s.copies) (ho : s.buffer.object.isSome = true)
    (hkind : s.buffer.backend.kind ≠ .noObject) (hcount : s.buffer.mapCount = 0)
    (hbase : s.buffer.mapBase = none) {x : Site MemoryDevice}
    (hx : x.objectBytes? = s.objectBytes?)
    (hxa : x.buffer.objectAllowed = s.buffer.objectAllowed) :
    loadChanged.Ends s fun _ y => Drawn c [s.buffer.span] x y := by
  intro j
  unfold loadChanged
  simp only [Step.wp_bind, wp_countEvent, wp_current, Step.wp_ite, Step.wp_note]
  let t : Site MemoryDevice := { s with buffer := { s.buffer with
    hysteresis := s.buffer.hysteresis.countDeclaration.2 } }
  split
  · exact dropObject_ends (s := t) h ho hcount hbase _ _ _
  · exact reload_ends (s := t) h ho hkind hcount hbase hx hxa _

theorem loadDirty_ends (h : Idle c s) (hres : Reservable s)
    (ho : s.buffer.object.isSome = true) (hp : s.buffer.dirty.isPending = true) :
    loadDirty.Ends s fun _ y => Drawn c s.buffer.dirty.spans s y := by
  intro j
  have hg : s.buffer.locations.has Location.gpuObject = false := by
    cases hg : s.buffer.locations.has Location.gpuObject with
    | false => rfl
    | true => exact absurd (hp.symm.trans (h.complete hg)) nofun
  unfold loadDirty
  simp only [Step.wp_bind, wp_current, Step.wp_ite, wp_countEvent, wp_countQuietDraw, Step.wp_note]
  -- the counters of the buffer are not about its copies
  have hload (hysteresis : Hysteresis) (j : Journal) : loadPending.wp
      { s with buffer := { s.buffer with hysteresis } } j
        fun _ y _ => Drawn c s.buffer.dirty.spans s y := by
    refine (loadPending_ends (s := { s with buffer := { s.buffer with hysteresis } }) { h with }
      hres ho hg).wp fun _ y j hy => ?_
    exact ⟨hy.idle, hy.fresh, fun m hm => { hy.converted m hm with }⟩
  split
  · split
    · exact dropObject_ends (s := { s with buffer := { s.buffer with
        hysteresis := s.buffer.hysteresis.countConversion.2 } }) h.toCoherent ho h.unmapped
        h.baseless _ _ _
    · exact hload _ _
  · exact hload _ _

/-- A draw changes which vertices are converted, or how. -/
def changesMap (draw : Option Draw) (s : Site MemoryDevice) : Bool :=
  match draw with
  | none => false
  | some draw =>
    let fixup := (Device.caps s.machine.device).fixups draw.vertexShader
    (s.buffer.conversion.analyse s.buffer.id draw.layout fixup
      (s.buffer.usage.has Usage.staticDecl)).changed

/-- What a draw has to load into the object. -/
def lacks (draw : Option Draw) (s : Site MemoryDevice) : List ByteRange :=
  if s.buffer.object.isNone || changesMap draw s then [s.buffer.span] else s.buffer.dirty.spans

/-- An analysis changes nothing but the conversion state. -/
theorem analyseLayout_ends (s : Site MemoryDevice) (draw : Draw) :
    (analyseLayout draw).Ends s fun changed y => changed = changesMap (some draw) s ∧
      ∃ conversion, y = { s with buffer := { s.buffer with conversion } } ∧
        (changed = false → conversion.map = s.buffer.conversion.map) := by
  intro j
  unfold analyseLayout
  simp only [Step.wp_bind, Step.wp_get, Step.wp_noteAll, wp_change, Step.wp_pure]
  exact ⟨rfl, _, rfl, ConversionState.map_analyse⟩

/-- Where the map stays what it is, the draw loads what is pending. -/
theorem loadUnchanged_ends (h : Idle c s) (ho : s.buffer.object.isSome = true)
    (hkind : s.buffer.backend.kind ≠ .noObject) (j : Journal) :
    Step.wp (if s.buffer.dirty.isPending then loadDirty else countQuietDraw) s j
      fun _ y _ => Drawn c s.buffer.dirty.spans s y := by
  rw [Step.wp_ite]
  cases hp : s.buffer.dirty.isPending with
  | true =>
    rw [if_pos rfl]
    exact loadDirty_ends h ⟨hkind, .inl ho⟩ ho hp j
  | false =>
    rw [if_neg Bool.false_ne_true, wp_countQuietDraw]
    have hg : s.buffer.locations.has Location.gpuObject = true := by
      cases hg : s.buffer.locations.has Location.gpuObject with
      | true => rfl
      | false =>
        exact absurd (hp.symm.trans (h.lacking (copies_object_isSome.trans ho) hg hkind)) nofun
    let y : Site MemoryDevice := { s with buffer := { s.buffer with
      hysteresis := s.buffer.hysteresis.countQuietDraw } }
    have hy : Idle c y := { h with }
    refine hy.drawn hg fun m hm => ⟨hg, fun hs => ?_, rfl, .inl hm, ?_⟩
    · exact hs (isConverted_iff hm)
    · obtain ⟨a, ha⟩ := Option.isSome_iff_exists.mp (copies_object_isSome.trans ho)
      obtain ⟨-, b, hb, -⟩ := h.object a ha
      refine ⟨b, b, fun b' hb' => Option.some.inj (hb'.symm.trans hb), hb, rfl, fun i => ?_⟩
      rw [DirtySpans.isPending_eq_false.mp hp, if_neg (not_coveredBy_nil i)]

/-- A layout analysed, and the object loaded where something changed. -/
theorem loadPrepared_ends (h : Idle c s) (ho : s.buffer.object.isSome = true)
    (hkind : s.buffer.backend.kind ≠ .noObject) (draw : Option Draw) :
    (loadPrepared draw).Ends s fun _ y => Drawn c (lacks draw s) s y := by
  have hlacks : lacks draw s =
      if changesMap draw s then [s.buffer.span] else s.buffer.dirty.spans := by
    unfold lacks
    rw [Option.isNone_eq_false_iff.mpr ho, Bool.false_or]
  rw [hlacks]
  intro j
  unfold loadPrepared
  cases draw with
  | none =>
    simp only [Step.wp_bind, Step.wp_pure, wp_current, Bool.false_eq_true, if_false]
    exact loadUnchanged_ends h ho hkind j
  | some draw =>
    simp only [Step.wp_bind, wp_current]
    refine (analyseLayout_ends s draw).wp fun changed t j hpost => ?_
    obtain ⟨hchanged, conversion, ht, hsame⟩ := hpost
    subst ht
    rw [← hchanged]
    cases changed with
    | true =>
      simp only [if_true]
      exact loadChanged_ends (x := s) (s := { s with buffer := { s.buffer with conversion } })
        h.toCoherent ho hkind h.unmapped h.baseless rfl rfl j
    | false =>
      simp only [Bool.false_eq_true, if_false]
      let t : Site MemoryDevice := { s with buffer := { s.buffer with conversion } }
      have hconv : t.buffer.isConverted = s.buffer.isConverted :=
        congrArg Option.isSome (hsame rfl)
      have hset : Settled t.buffer.isConverted c t.copies := by
        rw [hconv]
        exact h.toSettled
      have ht : Idle c t :=
        { hset with
          backed := fun hc => h.backed (hconv.symm.trans hc)
          unmapped := h.unmapped
          baseless := h.baseless }
      refine (loadUnchanged_ends ht ho hkind j).mono fun _ y j hy => ?_
      refine ⟨hy.idle, hy.fresh, fun m hm => ?_⟩
      exact { hy.converted m hm with
        mirrored := fun hs => (hy.converted m hm).mirrored fun hc => hs (hconv.symm.trans hc)
        whole := (hy.converted m hm).whole.imp_left (hsame rfl).symm.trans }

/-- A draw with an object that was made for it: the object lacks everything, whatever the draw
    changes. -/
theorem loadPrepared_equipped_ends (h : Idle c s) (hres : Reservable s)
    (hobj : s.buffer.object = none) (hframe : t.frame = s.frame) (ht : t.copies = s.equipped)
    (draw : Option Draw) :
    (loadPrepared draw).Ends t fun _ y => Drawn c (lacks draw s) s y := by
  intro j
  have hset : Settled s.buffer.isConverted c t.copies := by
    rw [ht]
    exact settled_equipped h.toCoherent hobj hres
  have hi : Idle c t := h.of_settled hframe hset (congrArg Copies.pinned ht).trans
  have hto : t.buffer.object.isSome = true := by
    rw [← copies_object_isSome, ht]
    rfl
  have htk : t.buffer.backend.kind ≠ .noObject := by
    rw [show t.buffer.backend.kind = _ from congrArg Copies.kind ht]
    exact hres.1
  have htspan : t.buffer.span = s.buffer.span :=
    congrArg (ByteRange.mk 0) (congrArg Copies.size ht)
  have htspans : t.buffer.dirty.spans = [s.buffer.span] := by
    rw [show t.buffer.dirty = _ from congrArg Copies.dirty ht]
    exact congrArg (fun r => [r]) (whole_eq_span h.toCoherent)
  have hlacks : lacks draw t = lacks draw s := by
    unfold lacks
    rw [hobj, htspan, htspans, ite_self, Option.isNone_none, Bool.true_or, if_pos rfl]
  have hheld : s.objectBytes? = none := held_none hobj
  refine (loadPrepared_ends hi hto htk draw).wp fun _ y j hy => ?_
  refine ⟨hy.idle, hy.fresh, fun m hm => ?_⟩
  obtain ⟨hcur, hmir, hall, -, old, new, -, hnew, hover⟩ := hy.converted m hm
  rw [hlacks] at hover
  refine ⟨hcur, fun hs => hmir fun hc => ?_, hall.trans (congrArg Copies.objectAllowed ht),
    .inr ?_, old, new, fun b hb => ?_, hnew, hover⟩
  · rw [show t.buffer.locations = _ from congrArg Copies.locations ht]
    exact hs ((isConverted_eq hframe).symm.trans hc)
  · unfold lacks
    rw [hobj, Option.isNone_none, Bool.true_or, if_pos rfl, h.size]
    rfl
  · rw [hheld] at hb
    cases hb

/-- Where no object can be had, the copies are as settled as they were, and there is none. -/
theorem settled_declined (h : Idle c s) (hallowed : s.buffer.objectAllowed = true)
    (hno : ¬ Reservable s) (ht : t.copies = s.copies ∨
      (s.buffer.object = none ∧ t.copies = s.refused)) :
    Settled s.buffer.isConverted c t.copies ∧ t.copies.pinned = s.copies.pinned ∧
      s.buffer.object = none ∧ t.buffer.object.isSome = false := by
  have hobj : s.buffer.object = none := by
    cases hobj : s.buffer.object with
    | none => rfl
    | some o => exact absurd ⟨h.allowed hallowed, .inl (by rw [hobj]; rfl)⟩ hno
  have hnone : s.copies.object.isSome = false := by
    rw [copies_object_isSome, hobj]
    rfl
  rw [← copies_object_isSome]
  rcases ht with ht | ⟨-, ht⟩
  · rw [ht]
    exact ⟨h.toSettled, rfl, hobj, hnone⟩
  · rw [ht]
    exact ⟨settled_refused h.toCoherent hobj, rfl, hobj, hnone⟩

/-- **A draw leaves the content, and an object that it goes on to use is fresh**, or has converted
    vertices. Where there is an object, there was one or one could be had. -/
theorem readyForDraw_ends (h : Idle c s) (draw : Option Draw) :
    (readyForDraw draw).Ends s fun _ y => Idle c y ∧
      (y.buffer.objectAllowed = true → y.buffer.object.isSome = true →
        Reservable s ∧ (y.buffer.conversion.map = none → Fresh c y)) ∧
      ∀ m, y.buffer.conversion.map = some m →
        (s.buffer.isConverted = true →
          s.buffer.objectAllowed = true ∧ s.buffer.object.isSome = true) →
        s.buffer.objectAllowed = true ∧ Reconverted c m (lacks draw s) s y := by
  intro j
  have hcount : ¬ s.buffer.mapCount > 0 := by
    rw [h.unmapped]
    exact Nat.lt_irrefl 0
  unfold readyForDraw
  simp only [Step.wp_bind, wp_current, Step.wp_ite, hcount, decide_false, Bool.false_and,
    Bool.false_eq_true, if_false, Step.wp_pure, Step.wp_note]
  cases hallowed : s.buffer.objectAllowed with
  | false =>
    rw [if_neg Bool.false_ne_true]
    refine ⟨h, fun ha => absurd ha Bool.false_ne_true, fun m hm hs => ?_⟩
    obtain ⟨hno, -⟩ := hs (isConverted_iff hm)
    cases hno
  | true =>
    rw [if_pos rfl]
    refine (reserveObject_ends s).wp fun ready t j hpost => ?_
    obtain ⟨hframe, _, ht⟩ := hpost
    rcases ht with ⟨rfl, hres, hobj, rfl⟩ | ⟨rfl, hres, hobj, ht⟩ | ⟨rfl, hno, ht⟩
    · rw [if_pos rfl]
      refine (loadPrepared_ends h hobj hres.1 draw).wp fun _ y j hy => ?_
      exact ⟨hy.idle, fun ha _ => ⟨hres, hy.fresh ha⟩, fun m hm _ => ⟨rfl, hy.converted m hm⟩⟩
    · rw [if_pos rfl]
      refine (loadPrepared_equipped_ends h hres hobj hframe ht draw).wp fun _ y j hy => ?_
      exact ⟨hy.idle, fun ha _ => ⟨hres, hy.fresh ha⟩, fun m hm _ => ⟨rfl, hy.converted m hm⟩⟩
    · rw [if_neg Bool.false_ne_true]
      obtain ⟨hset, hpinned, hobj, htobj⟩ := settled_declined h hallowed hno ht
      refine ⟨h.of_settled hframe hset hpinned.trans, fun _ ho => ?_, fun m hm hs => ?_⟩
      · exact absurd (htobj.symm.trans ho) Bool.false_ne_true
      · have hc : s.buffer.isConverted = true :=
          (isConverted_eq hframe).symm.trans (isConverted_iff hm)
        obtain ⟨-, ho⟩ := hs hc
        rw [hobj] at ho
        cases ho

end Site

end BufferCoherence
