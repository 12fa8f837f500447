import BufferCoherence.Proofs.History

/-!
# Vertices converted again and again

A draw converts the vertices that changed since the draw before, and loads the bytes that changed.
This file says when the object then has every complete vertex converted exactly once.

* `Mirrored` is a buffer whose object has converted vertices: its shadow keeps the content, and
  every edit goes there (`Operation.edits_ends`);
* `VertexRun` is a history of edits and draws, with the sites before and after each draw;
* `draws_convert_once_iff`: up to any draw of a history the objects are what converting everything
  once gives exactly where each load was faithful (`ConversionMap.Faithful`). Loads that touch a
  vertex twice need not be: `draws_convert_twice`.
-/

namespace BufferCoherence

namespace Site

variable {s t : Site MemoryDevice} {c p : ByteArray} {j : Journal}

/-! ## 1. Edits beside converted vertices -/

/-- **A buffer whose object has converted vertices**: the shadow keeps the content, and the object
    is there to be loaded. -/
structure Mirrored (c : ByteArray) (s : Site MemoryDevice) : Prop extends Idle c s where
  converts : s.buffer.isConverted = true
  shadowed : s.buffer.locations.has Location.sysmem = true
  usable : s.buffer.objectAllowed = true
  equipped : s.buffer.object.isSome = true
  filled : s.buffer.locations.has Location.cleared = true →
    s.buffer.locations.has Location.gpuObject = true

theorem Mirrored.reads (h : Mirrored c s) : Reads c s := h.toIdle.reads h.filled

/-- An edit of a buffer whose object has converted vertices: a run of the shadow is written, or
    nothing happens. -/
inductive EditedInShadow (c : ByteArray) (s y : Site MemoryDevice) : Prop where
  | wrote (d : ByteArray) (r : ByteRange) (offset size : Nat) (hsize : d.size = c.size)
      (reports : r.Reports offset size)
      (same : ∀ i, ¬ (offset ≤ i ∧ i < offset + size) → Bytes.byteAt? d i = Bytes.byteAt? c i)
      (copies : y.copies = ({ s.copies with shadow := some d }.markStale
        (Location.all \ Location.sysmem) r.offset r.size))
      (frame : y.frame = s.frame)
  | kept (copies : y.copies = s.copies) (frame : y.frame = s.frame)

/-- An edit leaves the object what it is, and reports what it changed. -/
theorem EditedInShadow.mirrored (h : Mirrored c s) (hy : EditedInShadow c s t)
    (hi : Idle d t) : Mirrored d t ∧ t.objectBytes? = s.objectBytes? ∧
      t.buffer.conversion.map = s.buffer.conversion.map ∧
      ∀ i, ¬ t.buffer.dirty.Covers i →
        ¬ s.buffer.dirty.Covers i ∧ Bytes.byteAt? c i = Bytes.byteAt? d i := by
  cases hy with
  | wrote d' r offset size hsize reports same hcopies hframe =>
    have hmark : t.copies =
        { s.copies with
          shadow := some d'
          dirty := s.copies.dirty.mark r.offset r.size
          locations := s.copies.locations \ (Location.all \ Location.sysmem) } := by
      rw [hcopies]
      unfold Copies.markStale
      rw [if_pos (by simp)]
    have hloc : t.buffer.locations = _ := congrArg Copies.locations hmark
    have hs : t.buffer.locations.has Location.sysmem = true := by
      rw [hloc]
      simp [show s.copies.locations.has Location.sysmem = true from h.shadowed]
    have hd : d' = d :=
      Option.some.inj ((congrArg Copies.shadow hmark).symm.trans (hi.mirrored hs))
    subst hd
    refine ⟨{ hi with
        converts := (isConverted_eq hframe).trans h.converts
        shadowed := hs
        usable := (congrArg Copies.objectAllowed hmark).trans h.usable
        equipped := ?_
        filled := fun hc => ?_ }, congrArg Copies.held hmark,
      congrArg (fun f : Frame => f.conversion.map) hframe, fun i hi' => ?_⟩
    · rw [← copies_object_isSome, hmark]
      exact copies_object_isSome.trans h.equipped
    · rw [hloc] at hc
      simp at hc
    · have hdirty : t.buffer.dirty = _ := congrArg Copies.dirty hmark
      rw [hdirty] at hi'
      by_cases hlt : i < s.buffer.dirty.size
      · refine ⟨fun hcov => hi' (hcov.mark hlt _ _), (same i fun hin => hi' ?_).symm⟩
        exact reports s.buffer.dirty i hlt hin.1 hin.2
      · have hspan : s.buffer.dirty.size = s.buffer.size := h.spanned
        have hcs : c.size = s.buffer.size := h.size
        refine ⟨fun ⟨r', hr', hin⟩ => hlt ?_, ?_⟩
        · have := h.spans r' hr'
          have hstop := hin.2
          exact Nat.lt_of_lt_of_le hstop this
        · rw [Bytes.byteAt?_eq_none_iff.mpr (by omega), Bytes.byteAt?_eq_none_iff.mpr (by omega)]
  | kept hcopies hframe =>
    have hloc : t.buffer.locations = s.buffer.locations := congrArg Copies.locations hcopies
    have hdirty : t.buffer.dirty = s.buffer.dirty := congrArg Copies.dirty hcopies
    have hs : t.buffer.locations.has Location.sysmem = true := by
      rw [hloc]
      exact h.shadowed
    have hd : c = d := by
      refine Option.some.inj ((h.mirrored h.shadowed).symm.trans ?_)
      rw [← hcopies]
      exact hi.mirrored hs
    subst hd
    refine ⟨{ hi with
        converts := (isConverted_eq hframe).trans h.converts
        shadowed := hs
        usable := (congrArg Copies.objectAllowed hcopies).trans h.usable
        equipped := ?_
        filled := ?_ }, congrArg Copies.held hcopies,
      congrArg (fun f : Frame => f.conversion.map) hframe, fun i hi' => ⟨?_, rfl⟩⟩
    · rw [← copies_object_isSome, hcopies]
      exact copies_object_isSome.trans h.equipped
    · rw [hloc]
      exact h.filled
    · rw [← hdirty]
      exact hi'

/-- The bytes of such a buffer are in its shadow. -/
theorem Mirrored.authoritative_ends (h : Mirrored c s) :
    authoritative.Ends s fun r y => r = .ok .shadow ∧ y = s := by
  intro j
  have haddress : s.buffer.address? = some .shadow := by
    have hcur : s.buffer.shadowCurrent = true := by
      unfold Buffer.shadowCurrent
      rw [h.shadowed, show s.buffer.shadow = some c from h.mirrored h.shadowed]
      rfl
    unfold Buffer.address?
    rw [h.converts, hcur]
    rfl
  rw [authoritative_eq]
  simp only [Attempt.wp_bind, Attempt.wp_always, wp_current, Attempt.wp_ite]
  split
  · rename_i hmeets
    rw [Location.meets_sentinel,
      show s.buffer.locations.has Location.discarded = false from h.kept, Bool.false_or] at hmeets
    unfold refreshSomewhere
    simp only [Attempt.wp_bind, Attempt.wp_always, wp_current, Attempt.wp_ite, h.usable,
      Bool.not_true, Bool.false_eq_true, if_false, Attempt.wp_outcome]
    refine (refreshObject_keeps h.toCoherent).wp fun r y j hpost => ?_
    obtain ⟨_, _, hcase⟩ := hpost
    rcases hcase with ⟨rfl, -, hsame, -⟩ | ⟨-, hg, -⟩
    · rw [hsame (h.filled hmeets), Attempt.wp_pure]
      refine (wp_currentAddress haddress _).mpr ?_
      exact ⟨rfl, rfl⟩
    · exact absurd (hg.symm.trans (h.filled hmeets)) Bool.false_ne_true
  · refine (wp_currentAddress haddress _).mpr ?_
    exact ⟨rfl, rfl⟩

theorem Mirrored.store_edits (h : Mirrored c s) (offset : Nat) (data : ByteArray) :
    (storeBytes offset data).Ends s fun _ y => EditedInShadow c s y := by
  intro j
  unfold storeBytes copyRun
  simp only [Attempt.wp_bind, wp_requireRun, Attempt.wp_always, wp_current]
  by_cases hfit : offset + data.size ≤ s.buffer.size
  · rw [if_pos hfit]
    refine h.authoritative_ends.wp fun r y j hpost => ?_
    obtain ⟨hr, hy⟩ := hpost
    have hfit' : offset + data.size ≤ c.size := by
      rw [h.size]
      exact hfit
    subst hr
    subst hy
    simp only [Attempt.wp_bind, Attempt.wp_always, wp_declareStaleIn]
    refine (fillShadow_ends (h.mirrored h.shadowed) hfit' _ _).wp fun r z j hz => ?_
    rcases hz with ⟨run, d, rfl, hrun, hd, rfl⟩ | ⟨⟨f, rfl⟩, -, rfl⟩
    · refine .wrote (Bytes.splice c offset run) ⟨offset, data.size⟩ offset data.size
        (Bytes.size_splice _ _ _) (ByteRange.reports_mapped false _ _)
        (splice_same (MemoryDevice.size_firstRun? hrun) hfit') ?_ rfl
      have hcopies : copies { y with machine.device := d } = y.copies := copies_untouched hd
      show ({ copies { y with machine.device := d } with
        shadow := some (Bytes.splice c offset run) }).markStale _ _ _ = _
      rw [hcopies]
      rfl
    · exact .kept rfl rfl
  · rw [if_neg hfit]
    exact .kept rfl rfl

theorem Mirrored.move_edits (h : Mirrored c s) (offset sourceOffset size : Nat) :
    (moveRun offset sourceOffset size).Ends s fun _ y => EditedInShadow c s y := by
  intro j
  unfold moveRun
  simp only [Attempt.wp_bind, wp_requireRun]
  by_cases hfit : offset + size ≤ s.buffer.size
  · rw [if_pos hfit]
    by_cases hsrc : sourceOffset + size ≤ s.buffer.size
    · rw [if_pos hsrc]
      refine h.authoritative_ends.wp fun r y j hpost => ?_
      obtain ⟨hr, hy⟩ := hpost
      have hsize : c.size = s.buffer.size := h.size
      have hrun : (c.extract sourceOffset (sourceOffset + size)).size = size := by
        rw [ByteArray.size_extract]
        omega
      subst hr
      subst hy
      unfold moveInShadow
      simp only [Attempt.wp_bind, Attempt.wp_always, wp_current, wp_declareStaleIn,
        show y.buffer.shadow = some c from h.mirrored h.shadowed, wp_change]
      exact .wrote _ ⟨offset, size⟩ offset size (Bytes.size_splice _ _ _)
        (ByteRange.reports_mapped false _ _) (splice_same hrun (by omega)) rfl rfl
    · rw [if_neg hsrc]
      exact .kept rfl rfl
  · rw [if_neg hfit]
    exact .kept rfl rfl

theorem Mirrored.write_edits (h : Mirrored c s) (offset : Nat) (data : ByteArray)
    (flags : MapFlags) : (write offset data flags).Ends s fun _ y => EditedInShadow c s y := by
  intro j
  have hwrite : (flags ∪ MapFlags.write).has MapFlags.write = true := by
    rw [FlagSet.has_union_left MapFlags.isFlag_write, Bool.or_eq_true]
    exact .inr (by decide)
  have hpath : s.buffer.mapsShadow (flags ∪ MapFlags.write) = true := by
    unfold Buffer.mapsShadow
    simp only [h.backed h.converts, Bool.or_true, Bool.true_or]
  have hiff : s.buffer.holds offset data.size = true ↔ offset + data.size ≤ s.buffer.size :=
    fits_iff
  unfold write map mapPrepared
  simp only [Attempt.wp_bind, Attempt.wp_always, wp_current, Attempt.wp_ite, Attempt.wp_refuse,
    wp_change, Attempt.wp_outcome]
  cases hfit : s.buffer.holds offset data.size with
  | false => exact .kept rfl rfl
  | true =>
    have hfit' : offset + data.size ≤ c.size := by
      rw [h.size]
      exact hiff.mp hfit
    rw [if_neg (by simp)]
    let r : ByteRange := if (flags ∪ MapFlags.write).has MapFlags.discard then ⟨0, 0⟩
      else ⟨offset, data.size⟩
    have hr : r.Reports offset data.size := ByteRange.reports_mapped _ _ _
    let t : Site MemoryDevice :=
      { s with buffer := { s.buffer with mapCount := s.buffer.mapCount + 1 } }
    have ht : t.buffer.mapCount = 1 := congrArg (· + 1) h.unmapped
    rw [if_pos (show t.buffer.mapsShadow _ = true from hpath)]
    refine (openShadow_ends (s := t) h.toCoherent _ r).wp fun a y j hy => ?_
    rcases hy with ⟨rfl, -, hcopies, hframe, -⟩ | ⟨⟨f, rfl⟩, rfl, -⟩
    · rw [hwrite] at hcopies
      have hcopies' : y.copies =
          s.copies.markStale (Location.all \ Location.sysmem) r.offset r.size := by
        rw [hcopies]
        exact congrArg (Copies.markStale · _ _ _)
          (Copies.mirrored_eq_self (h.mirrored h.shadowed) h.shadowed)
      have hshadow : y.buffer.shadow = some c :=
        (congrArg Copies.shadow hcopies').trans (h.mirrored h.shadowed)
      have hbase : y.buffer.mapBase = none := (congrArg Frame.mapBase hframe).trans h.baseless
      have hmapping : y.buffer.mapping? offset data.size = some ⟨.shadow, offset, data.size⟩ := by
        unfold Buffer.mapping?
        rw [hbase, hshadow]
        rfl
      unfold writeMapped
      simp only [hmapping, Attempt.wp_bind, Attempt.wp_note, Attempt.wp_pure, wp_change, hshadow,
        Option.map_some]
      let w : Site MemoryDevice :=
        { y with buffer := { y.buffer with shadow := some (Bytes.splice c offset data) } }
      have hcount : w.buffer.mapCount = 1 := (congrArg Frame.mapCount hframe).trans ht
      refine (unmap_last (s := w) hcount).wp fun _ z j hpost => ?_
      obtain ⟨hzframe, hz, _⟩ := hpost
      refine .wrote (Bytes.splice c offset data) r offset data.size (Bytes.size_splice _ _ _) hr
        (splice_same rfl hfit') ?_ ?_
      · rw [hz, show w.buffer.mapBase = none from hbase]
        show { y.copies with shadow := some (Bytes.splice c offset data) } = _
        rw [hcopies']
        rfl
      · rw [hzframe, show w.frame = t.frame from hframe]
        show { s.frame with mapCount := 0, mapBase := none } = s.frame
        rw [← show s.frame.mapCount = 0 from h.unmapped,
          ← show s.frame.mapBase = none from h.baseless]
    · exact .kept rfl rfl

end Site

/-! ## 2. Histories of edits and draws -/

namespace Operation

/-- What changes bytes between draws. -/
def Edits : Operation → Prop
  | write _ _ _ | store _ _ | move _ _ _ => True
  | _ => False

variable {s : Site MemoryDevice} {c : ByteArray} {op : Operation}

/-- **Beside converted vertices every edit goes to the shadow.** -/
theorem edits_ends (hop : op.Edits) (h : Site.Mirrored c s) :
    op.perform.Ends s fun _ y => Site.EditedInShadow c s y := by
  intro j
  unfold perform
  cases op with
  | write offset data flags =>
    simp only [Attempt.wp_bind, Attempt.wp_pure]
    exact (h.write_edits offset data flags).wp fun r y j hy => by cases r <;> exact hy
  | store offset data =>
    simp only [Attempt.wp_bind, Attempt.wp_pure]
    exact (h.store_edits offset data).wp fun r y j hy => by cases r <;> exact hy
  | move offset sourceOffset size =>
    simp only [Attempt.wp_bind, Attempt.wp_pure]
    exact (h.move_edits offset sourceOffset size).wp fun r y j hy => by cases r <;> exact hy
  | _ => cases hop

/-- No edit begins to convert vertices. -/
theorem edits_converts (hop : op.Edits) (hi : Site.Idle c s) (ha : Site.Aligned s) :
    op.perform.Ends s fun _ y => y.buffer.isConverted = true → s.buffer.isConverted = true := by
  intro j
  unfold perform
  cases op with
  | write offset data flags =>
    simp only [Attempt.wp_bind, Attempt.wp_pure]
    refine (Site.write_ends hi ha offset data flags).wp fun r y j hy => ?_
    cases r <;> exact hy.1
  | store offset data =>
    simp only [Attempt.wp_bind, Attempt.wp_pure]
    refine (Site.storeBytes_ends hi offset data).wp fun r y j hy => ?_
    cases r <;> exact (Site.isConverted_eq hy.1).symm.trans
  | move offset sourceOffset size =>
    simp only [Attempt.wp_bind, Attempt.wp_pure]
    refine (Site.moveRun_ends hi offset sourceOffset size).wp fun r y j hy => ?_
    cases r <;> exact (Site.isConverted_eq hy.1).symm.trans
  | _ => cases hop

end Operation

/-- A draw of a history: the buffer as the draw before left it (at first, as it was created), right
    before this draw, and after it. -/
structure Drawing where
  draw : Option Draw
  last : Site MemoryDevice
  before : Site MemoryDevice
  after : Site MemoryDevice

namespace Drawing

/-- Where the draw ends with converted vertices in an object that is current, these are the content
    with every complete vertex converted exactly once. -/
def Right (x : Drawing) : Prop :=
  ∀ m, x.after.buffer.conversion.map = some m →
    x.after.buffer.locations.has Location.gpuObject = true →
      ∃ c, Site.Reads c x.after ∧ x.after.objectBytes? = some (m.convertAll c)

/-- Where the draw ends with converted vertices in an object that is current, loading what the
    object lacked was faithful. -/
def Faithful (x : Drawing) : Prop :=
  ∀ m p c, x.after.buffer.conversion.map = some m →
    x.after.buffer.locations.has Location.gpuObject = true →
      Site.Reads p x.last → Site.Reads c x.after → m.Faithful (Site.lacks x.draw x.before) p c

end Drawing

/-- A history of edits and draws, from the creation of the buffer on: its draws, the buffer as the
    last of them left it, and the buffer now. -/
inductive VertexRun (m : Machine MemoryDevice) (request : BufferRequest) (data : Option ByteArray)
    (settings : Settings) : List Drawing → Site MemoryDevice → Site MemoryDevice → Prop where
  | created {b : Buffer} {m' : Machine MemoryDevice} {j k : Journal}
      (h : (Machine.create request data settings).run m j = ((.ok b, m'), k)) :
      VertexRun m request data settings [] ⟨b, m'⟩ ⟨b, m'⟩
  | meanwhile {draws : List Drawing} {last s t : Site MemoryDevice}
      (run : VertexRun m request data settings draws last s) (h : Site.Meanwhile s t) :
      VertexRun m request data settings draws last t
  | edited {draws : List Drawing} {last s t : Site MemoryDevice} {op : Operation}
      {r : Except Failure (Option ByteArray)} {j k : Journal}
      (run : VertexRun m request data settings draws last s) (edits : op.Edits)
      (allowed : op.Allowed s) (h : op.perform.run s j = ((r, t), k)) :
      VertexRun m request data settings draws last t
  | drew {draws : List Drawing} {last s t : Site MemoryDevice} {draw : Option Draw}
      {j k : Journal} (run : VertexRun m request data settings draws last s)
      (h : Site.readyForDraw draw s j = (((), t), k)) :
      VertexRun m request data settings (draws ++ [⟨draw, last, s, t⟩]) t t

variable {m : Machine MemoryDevice} {request : BufferRequest} {data : Option ByteArray}
  {settings : Settings} {draws : List Drawing} {last s t : Site MemoryDevice} {c d : ByteArray}

/-- What a history keeps between two draws that convert vertices with `map`: the object is as the
    last draw left it, and the content changed since then in the dirty spans alone. -/
structure SinceDraw (draws : List Drawing) (map : ConversionMap) (last s : Site MemoryDevice)
    (c : ByteArray) : Prop where
  mirrored : Site.Mirrored c s
  drew : ∃ x ∈ draws, x.after = last
  map : last.buffer.conversion.map = some map
  current : last.buffer.locations.has Location.gpuObject = true
  held : s.objectBytes? = last.objectBytes?
  changed : ∃ p, Site.Reads p last ∧ p.size = c.size ∧
    ∀ i, ¬ s.buffer.dirty.Covers i → Bytes.byteAt? p i = Bytes.byteAt? c i

/-- What is true of a history at any time. -/
structure Standing (draws : List Drawing) (last s : Site MemoryDevice) (c : ByteArray) : Prop where
  idle : Site.Idle c s
  since : ∀ map, s.buffer.conversion.map = some map → SinceDraw draws map last s c

/-- An edit keeps what a history keeps. -/
theorem Standing.edited (h : Standing draws last s c) (hi : Site.Idle d t)
    (hconv : t.buffer.isConverted = true → s.buffer.isConverted = true)
    (hedit : Site.Mirrored c s → Site.EditedInShadow c s t) : Standing draws last t d := by
  refine ⟨hi, fun map hmap => ?_⟩
  have hs : s.buffer.isConverted = true := hconv (Site.isConverted_iff hmap)
  obtain ⟨map', hmap'⟩ := Option.isSome_iff_exists.mp hs
  have hsince := h.since map' hmap'
  obtain ⟨hmirrored, hheld, hsame, hclean⟩ :=
    (hedit hsince.mirrored).mirrored hsince.mirrored hi
  have he : map' = map := Option.some.inj (hmap'.symm.trans (hsame.symm.trans hmap))
  subst he
  obtain ⟨p, hp, hsize, hchanged⟩ := hsince.changed
  have hcd : c.size = d.size := by
    rw [show c.size = s.buffer.size from h.idle.size, show d.size = t.buffer.size from hi.size]
    cases hedit hsince.mirrored with
    | wrote _ _ _ _ _ _ _ hcopies _ => exact (congrArg Copies.size hcopies).symm
    | kept hcopies _ => exact (congrArg Copies.size hcopies).symm
  refine ⟨hmirrored, hsince.drew, hsince.map, hsince.current, hheld.trans hsince.held, p, hp,
    hsize.trans hcd, fun i hi' => ?_⟩
  obtain ⟨hs', hcd'⟩ := hclean i hi'
  exact (hchanged i hs').trans hcd'

/-- What else happens to the machine keeps it. -/
theorem Standing.meanwhile (h : Standing draws last s c) (ht : Site.Meanwhile s t) :
    Standing draws last t c := by
  have hi := ht.idle h.idle
  exact h.edited hi (Site.isConverted_eq ht.frame).symm.trans fun _ => .kept ht.copies ht.frame

/-- What a draw that ends with converted vertices leaves. -/
theorem Standing.drawn {draw : Option Draw} {map : ConversionMap} (hs : Standing draws last s c)
    (hi : Site.Idle c t) (hmap : t.buffer.conversion.map = some map)
    (hallowed : s.buffer.objectAllowed = true)
    (h : Site.Reconverted c map (Site.lacks draw s) s t) :
    SinceDraw (draws ++ [⟨draw, last, s, t⟩]) map t t c := by
  have hmirrored : Site.Mirrored c t :=
    { hi with
      converts := Site.isConverted_iff hmap
      shadowed := h.mirrored fun hc => by
        obtain ⟨map', hmap'⟩ := Option.isSome_iff_exists.mp hc
        exact (hs.since map' hmap').mirrored.shadowed
      usable := h.allowed.trans hallowed
      equipped := Site.copies_object_isSome.symm.trans (hi.present h.current)
      filled := fun _ => h.current }
  exact ⟨hmirrored, ⟨_, List.mem_append_right _ (List.mem_singleton_self _), rfl⟩, hmap, h.current,
    rfl, c, hmirrored.reads, rfl, fun _ _ => rfl⟩

/-- **After right draws a draw is right exactly where its load is faithful.** -/
theorem Standing.right_iff {draw : Option Draw} (hs : Standing draws last s c)
    (hright : ∀ x ∈ draws, x.Right) (hi : Site.Idle c t)
    (h : ∀ map, t.buffer.conversion.map = some map → s.buffer.objectAllowed = true ∧
      Site.Reconverted c map (Site.lacks draw s) s t) :
    Drawing.Right ⟨draw, last, s, t⟩ ↔ Drawing.Faithful ⟨draw, last, s, t⟩ := by
  suffices hone : ∀ map, t.buffer.conversion.map = some map →
      ((∃ d, Site.Reads d t ∧ t.objectBytes? = some (map.convertAll d)) ↔
        ∀ p d, Site.Reads p last → Site.Reads d t →
          map.Faithful (Site.lacks draw s) p d) from
    ⟨fun hr map p d hmap hg hp hd => (hone map hmap).mp (hr map hmap hg) p d hp hd,
      fun hf map hmap hg => (hone map hmap).mpr fun p d hp hd => hf map p d hmap hg hp hd⟩
  intro map hmap
  obtain ⟨hallowed, hrec⟩ := h map hmap
  have hreads : Site.Reads c t := (hs.drawn hi hmap hallowed hrec).mirrored.reads
  obtain ⟨old, new, hold, hnew, hover⟩ := hrec.loaded
  have hnsize : new.size = c.size := (hi.held new hnew).trans hi.size.symm
  -- the content after the draw is the one before, and the object holds `new`
  have hobject : (∃ d, Site.Reads d t ∧ t.objectBytes? = some (map.convertAll d)) ↔
      new = map.convertAll c := by
    constructor
    · rintro ⟨d, hd, hbytes⟩
      rw [hreads.unique hd]
      exact Option.some.inj (hnew.symm.trans hbytes)
    · rintro rfl
      exact ⟨c, hreads, hnew⟩
  rw [hobject]
  rcases hrec.whole with hsame | hwhole
  · have hsince := hs.since map hsame
    obtain ⟨p, hp, hsize, hchanged⟩ := hsince.changed
    obtain ⟨x, hx, hlast⟩ := hsince.drew
    -- the draw before was right, so that the object held the vertices of `p` converted once
    have hbefore : old = map.convertAll p := by
      obtain ⟨p', hp', hbytes⟩ := hright x hx map (by rw [hlast]; exact hsince.map)
        (by rw [hlast]; exact hsince.current)
      rw [hlast] at hp' hbytes
      rw [hp.unique hp']
      exact (hold _ (hsince.held.trans hbytes)).symm
    rw [hbefore] at hover
    have hclean (i : Nat) (hi' : ¬ CoveredBy (Site.lacks draw s) i) :
        Bytes.byteAt? p i = Bytes.byteAt? c i := by
      unfold Site.lacks at hi'
      split at hi'
      · have hle : c.size ≤ i := by
          refine Nat.le_of_not_lt fun hlt => hi' ⟨_, List.mem_singleton_self _, Nat.zero_le _, ?_⟩
          show i < 0 + s.buffer.size
          rw [Nat.zero_add, ← show c.size = s.buffer.size from hs.idle.size]
          exact hlt
        rw [Bytes.byteAt?_eq_none_iff.mpr (by omega), Bytes.byteAt?_eq_none_iff.mpr hle]
      · exact hchanged i hi'
    rw [map.overlaid_convert_iff hsize hclean hover]
    constructor
    · intro hf p' d hp' hd
      rw [← hp.unique hp', ← hreads.unique hd]
      exact hf
    · exact fun hf => hf p c hp hreads
  · rw [hwhole] at hover ⊢
    refine ⟨fun _ p d _ hd => ?_, fun _ => map.overlaid_convert_whole hnsize hover⟩
    rw [← hreads.unique hd]
    exact map.faithful_whole p c

/-- **The invariant of a history**, and what its draws come to. -/
theorem run_standing (h : VertexRun m request data settings draws last s) :
    (∃ c, Standing draws last s c) ∧ ((∀ x ∈ draws, x.Right) ↔ ∀ x ∈ draws, x.Faithful) := by
  induction h with
  | @created b m' j k h =>
    obtain ⟨hidle, -, hplain⟩ := (Machine.create_ends m request data settings).of_run h b rfl
    refine ⟨⟨_, hidle, fun map hmap => ?_⟩, by simp⟩
    exact nomatch hplain.symm.trans hmap
  | meanwhile _ h ih =>
    obtain ⟨⟨c, hc⟩, hiff⟩ := ih
    exact ⟨⟨c, hc.meanwhile h⟩, hiff⟩
  | @edited draws last s t op r j k _ edits allowed h ih =>
    obtain ⟨⟨c, hc⟩, hiff⟩ := ih
    have hconv := (Operation.edits_converts edits hc.idle allowed.1).of_run h
    have hedit (hm : Site.Mirrored c s) := (Operation.edits_ends edits hm).of_run h
    refine ⟨?_, hiff⟩
    rcases (Site.perform_ends hc.idle allowed).of_run h with ⟨-, d, -, -, -, hd⟩ | ⟨-, hd⟩
    · exact ⟨d, hc.edited hd hconv hedit⟩
    · exact ⟨c, hc.edited hd hconv hedit⟩
  | @drew draws last s t draw j k _ h ih =>
    obtain ⟨⟨c, hc⟩, hiff⟩ := ih
    obtain ⟨hi, -, hconverted⟩ := (Site.readyForDraw_ends hc.idle draw).of_run h
    have hrec (map : ConversionMap) (hmap : t.buffer.conversion.map = some map) :=
      hconverted map hmap fun hs => by
        obtain ⟨map', hmap'⟩ := Option.isSome_iff_exists.mp hs
        exact ⟨(hc.since map' hmap').mirrored.usable, (hc.since map' hmap').mirrored.equipped⟩
    refine ⟨⟨c, hi, fun map hmap => ?_⟩, ?_⟩
    · exact hc.drawn hi hmap (hrec map hmap).1 (hrec map hmap).2
    · simp only [List.forall_mem_append, List.forall_mem_singleton]
      constructor
      · rintro ⟨hbefore, hthis⟩
        exact ⟨hiff.mp hbefore, (hc.right_iff hbefore hi hrec).mp hthis⟩
      · rintro ⟨hbefore, hthis⟩
        have hright := hiff.mpr hbefore
        exact ⟨hright, (hc.right_iff hright hi hrec).mpr hthis⟩

/-! ## 3. When the vertices are right -/

theorem VertexRun.first (m : Machine MemoryDevice) (request : BufferRequest)
    (data : Option ByteArray) (settings : Settings) (j : Journal) {b : Buffer}
    (h : ((Machine.create request data settings).run m j).1.1.toOption = some b) :
    VertexRun m request data settings []
      ⟨b, ((Machine.create request data settings).run m j).1.2⟩
      ⟨b, ((Machine.create request data settings).run m j).1.2⟩ :=
  .created (Attempt.eq_end_of_ok _ _ _ h)

theorem VertexRun.edit (run : VertexRun m request data settings draws last s) (op : Operation)
    (edits : op.Edits) (allowed : op.Allowed s) (j : Journal) :
    VertexRun m request data settings draws last (op.perform.run s j).1.2 :=
  .edited run edits allowed rfl

theorem VertexRun.next (run : VertexRun m request data settings draws last s)
    (draw : Option Draw) (j : Journal) :
    VertexRun m request data settings
      (draws ++ [⟨draw, last, s, (Site.readyForDraw draw s j).1.2⟩])
      (Site.readyForDraw draw s j).1.2 (Site.readyForDraw draw s j).1.2 :=
  .drew run (Step.eq_end _ _ _)

/-- **Draws convert every complete vertex exactly once where their loads are faithful, and only
    there.** The first draw of a history that is not right is the first whose load is not
    faithful. -/
theorem draws_convert_once_iff (h : VertexRun m request data settings draws last s) :
    (∀ x ∈ draws, x.Right) ↔ ∀ x ∈ draws, x.Faithful :=
  (run_standing h).2

/-- A draw of vertices that are a color each. -/
def colorDraw : Draw :=
  ⟨(VertexLayout.empty false).set .diffuse (some ⟨.b8g8r8a8Unorm, 4, 0, ⟨1⟩⟩), false⟩

/-- A vertex written between two draws. -/
theorem draws_convert_once_iff_after_write :
    ∃ draws last s, VertexRun (.new (.new .legacy)) ⟨8, ∅, BindFlags.vertexBuffer, Access.gpu, 0⟩
        none {} draws last s ∧ draws.length = 2 ∧ last.buffer.isConverted = true ∧
      ((∀ x ∈ draws, x.Right) ↔ ∀ x ∈ draws, x.Faithful) := by
  have h₀ := VertexRun.first (.new (.new .legacy)) ⟨8, ∅, BindFlags.vertexBuffer, Access.gpu, 0⟩
    none {} (.empty .error) (Option.some_get (by decide +kernel)).symm
  have h₁ := h₀.next (some colorDraw) (.empty .error)
  have h₂ := h₁.edit (.write 4 ⟨#[5, 6, 7, 8]⟩ MapFlags.write) trivial
    ⟨by decide +kernel, fun _ _ _ h => nomatch h⟩ (.empty .error)
  have h₃ := h₂.next (some colorDraw) (.empty .error)
  exact ⟨_, _, _, h₃, rfl, by decide +kernel, draws_convert_once_iff h₃⟩

/-- Two vertices written one by one between two draws: the span of the first one ends where the
    second one starts, so that the second one is converted twice, and has its colors as written. -/
theorem draws_convert_twice :
    ∃ draws last s, VertexRun (.new (.new .legacy)) ⟨8, ∅, BindFlags.vertexBuffer, Access.gpu, 0⟩
        none {} draws last s ∧
      ¬ ∀ x ∈ draws, x.Right := by
  have h₀ := VertexRun.first (.new (.new .legacy)) ⟨8, ∅, BindFlags.vertexBuffer, Access.gpu, 0⟩
    none {} (.empty .error) (Option.some_get (by decide +kernel)).symm
  have h₁ := h₀.next (some colorDraw) (.empty .error)
  have h₂ := h₁.edit (.write 0 ⟨#[1, 2, 3, 4]⟩ MapFlags.write) trivial
    ⟨by decide +kernel, fun _ _ _ h => nomatch h⟩ (.empty .error)
  have h₃ := h₂.edit (.write 4 ⟨#[5, 6, 7, 8]⟩ MapFlags.write) trivial
    ⟨by decide +kernel, fun _ _ _ h => nomatch h⟩ (.empty .error)
  have h₄ := h₃.next (some colorDraw) (.empty .error)
  refine ⟨_, _, _, h₄, fun hright => ?_⟩
  obtain ⟨c, hc, hbytes⟩ := hright _ (List.mem_append_right _ (List.mem_singleton_self _)) _
    (Option.some_get (by decide +kernel)).symm (by decide +kernel)
  have hcontent : c = ⟨#[1, 2, 3, 4, 5, 6, 7, 8]⟩ :=
    Option.some.inj ((congrArg Except.toOption (hc (.empty .error))).symm.trans (by decide +kernel))
  rw [hcontent] at hbytes
  exact absurd hbytes (by decide +kernel)

end BufferCoherence
