import BufferCoherence.Proofs.Faithful
import BufferCoherence.Proofs.Unloading

/-!
# Copies made current on a faithful device

What becomes of the content when a copy is made current, on any device that is `Faithful`, while any
call of it may fail.

* `Orderly k c s`: the copies stand for the content `c`, a current object lacks nothing, and an
  object that is not current stores `c` outside the spans that it lacks (`StoresRest`);
* `refreshShadow_orderly`, `refreshObject_orderly`: an attempt to make a copy current keeps all of
  this, and the content what it is, also where it fails half way;
* `content_orderly`: what is read is `c`, and a read fails only where the device refuses it, or where
  nothing was written yet and storage is not to be had.
-/

namespace BufferCoherence.Site

variable {δ : Type} [Device δ] [Faithful δ] {s y : Site δ} {k : Bool} {c c' : ByteArray}
  {o : BufferObject} {j : Journal}

/-! ## 1. What an object stores -/

/-- The object stores `c` outside the spans that it lacks. -/
def StoresRest (c : ByteArray) (s : Site δ) (o : BufferObject) : Prop :=
  ∃ bytes, ReadsBack.Stores s.machine.device o.handle bytes ∧
    o.offset + s.buffer.size ≤ bytes.size ∧
    ∀ i < s.buffer.size, ¬ s.buffer.dirty.Covers i →
      Bytes.byteAt? bytes (o.offset + i) = Bytes.byteAt? c i

/-- An object stores one content. -/
theorem Stores.unique (h : Stores c s o) (h' : Stores c' s o) : c = c' := by
  obtain ⟨bytes, hstored, -, rfl⟩ := h
  obtain ⟨bytes', hstored', -, rfl⟩ := h'
  rw [Faithful.unique hstored hstored']

/-- An object that stores some bytes stores some content. -/
theorem StoresRest.stores (h : StoresRest c s o) : ∃ c', Stores c' s o := by
  obtain ⟨bytes, hstored, hfit, -⟩ := h
  exact ⟨_, bytes, hstored, hfit, rfl⟩

/-- The bytes of a run are `c` where each of them is. -/
theorem extract_eq {bytes : ByteArray} {start n : Nat} (hsize : c.size = n)
    (hfit : start + n ≤ bytes.size)
    (h : ∀ i < n, Bytes.byteAt? bytes (start + i) = Bytes.byteAt? c i) :
    bytes.extract start (start + n) = c := by
  have hrun : (bytes.extract start (start + n)).size = n := by
    rw [ByteArray.size_extract]
    omega
  refine Bytes.ext_of_size (hrun.trans hsize.symm) fun i hi => ?_
  rw [hrun] at hi
  rw [Bytes.byteAt?_extract, if_pos (by omega), h i hi]

/-! ## 2. The copies in order -/

/-- **The copies stand for the content `c`**, and what the object lacks is recorded. -/
structure Orderly (k : Bool) (c : ByteArray) (s : Site δ) : Prop extends Agrees k c s where
  spanned : s.buffer.dirty.size = s.buffer.size
  spans : s.buffer.dirty.Fits
  present : s.buffer.locations.has Location.gpuObject = true → s.buffer.object.isSome = true
  complete : s.buffer.locations.has Location.gpuObject = true → s.buffer.dirty.isPending = false
  lacking : k = false → s.buffer.backend.kind ≠ .noObject →
    s.buffer.locations.has Location.gpuObject = false →
    ∀ o, s.buffer.object = some o → StoresRest c s o

/-- What making the shadow current may change: the shadow, whether it is current, and what the
    device does to bring the bytes. The object stores what it stored. -/
structure Mirrors (s y : Site δ) : Prop where
  buffer : ∃ shadow locations, y.buffer = { s.buffer with shadow, locations }
  gpuObject : y.buffer.locations.has Location.gpuObject =
    s.buffer.locations.has Location.gpuObject
  shadow : ∀ m, y.buffer.shadow = some m → m.size = s.buffer.size
  idle : s.buffer.locations.has Location.gpuObject = false → y.machine.device = s.machine.device
  stored : ∀ o c, s.buffer.object = some o → Stores c s o → Stores c y o

theorem Mirrors.refl (hshadow : ∀ m, s.buffer.shadow = some m → m.size = s.buffer.size) :
    Mirrors s s :=
  ⟨⟨_, _, rfl⟩, rfl, hshadow, fun _ => rfl, fun _ _ _ h => h⟩

/-! ## 3. The shadow -/

/-- The bytes of the shadow are loaded, or not. -/
theorem loadShadow_mirrors {m : ByteArray} (hm : m.size = s.buffer.size) :
    loadShadow.Ends { s with buffer := { s.buffer with shadow := some m } } fun _ y =>
      Mirrors s y ∧ y.buffer.shadow.isSome = true ∧ y.buffer.locations = s.buffer.locations := by
  intro j
  unfold loadShadow
  rw [Attempt.wp_bind, Attempt.wp_always, wp_current]
  dsimp only
  rw [Attempt.wp_ite]
  split
  · refine ⟨⟨⟨_, _, rfl⟩, rfl, ?_, fun _ => rfl, fun _ _ _ h => h⟩, rfl, rfl⟩
    rintro m' ⟨⟩
    exact (Bytes.size_zeros _).trans hm
  · cases hcur : Buffer.currentObject { s.buffer with shadow := some m } with
    | none =>
      refine ⟨⟨⟨_, _, rfl⟩, rfl, ?_, fun _ => rfl, fun _ _ _ h => h⟩, rfl, rfl⟩
      rintro m' ⟨⟩
      exact hm
    | some p =>
      obtain ⟨hg, hp⟩ : s.buffer.locations.has Location.gpuObject = true ∧
          s.buffer.object = some p := by
        unfold Buffer.currentObject at hcur
        split at hcur
        · exact ⟨‹_›, hcur⟩
        · cases hcur
      unfold fillShadow
      simp only [Attempt.wp_bind, Attempt.wp_always, wp_current, wp_onDevice, wp_change,
        Attempt.wp_answer]
      have hsize : (m.extract 0 (0 + s.buffer.size)).size = s.buffer.size := by
        rw [ByteArray.size_extract]
        omega
      -- whatever content the object stores, it stores it afterwards
      have hfetch (j : Journal) : Step.wp (Device.transfer (.host (m.extract 0 (0 + s.buffer.size)))
          (.object p.handle p.offset) [⟨0, s.buffer.size⟩] MapFlags.write) s.machine.device j
          fun _ e _ => ∀ c, Stores c s p → Stores c { s with machine.device := e } p := by
        rintro c ⟨bytes, hstored, hfit, hbytes⟩
        exact ⟨bytes, (ReadsBack.fetch hstored hfit hsize MapFlags.write j).1, hfit, hbytes⟩
      refine (hfetch j).mono fun reply e k hkeeps => ?_
      refine ⟨⟨⟨_, _, rfl⟩, rfl, ?_, fun hno => ?_, fun o c ho h => ?_⟩, rfl, trivial⟩
      · rintro m' ⟨⟩
        exact (Bytes.size_splice _ _ _).trans hm
      · exact absurd (hno.symm.trans hg) Bool.false_ne_true
      · cases hp.symm.trans ho
        exact hkeeps c h

/-- What an attempt to make the shadow current comes to: a failure leaves the locations, and either
    way there is a shadow afterwards if the host lends it. -/
structure TriesMirror (s : Site δ) (r : Except Failure Unit) (y : Site δ) : Prop
    extends Mirrors s y where
  failed : ∀ f, r = .error f → s.buffer.locations.has Location.sysmem = false ∧
    y.buffer.locations = s.buffer.locations
  reserved : s.hostLends .shadow s.buffer.size = true →
    (s.buffer.locations.has Location.sysmem = true → s.buffer.shadow.isSome = true) →
    y.buffer.shadow.isSome = true

/-- **To make the shadow current leaves the object alone**; a failure leaves the locations. -/
theorem refreshShadow_mirrors (hempty : s.buffer.locations.isEmpty = false)
    (hkept : s.buffer.locations.has Location.discarded = false)
    (hshadow : ∀ m, s.buffer.shadow = some m → m.size = s.buffer.size) :
    refreshShadow.Ends s fun r y => TriesMirror s r y := by
  refine refreshShadow_cases hempty hkept hshadow
    (fun hs => ⟨.refl hshadow, nofun, fun _ hsome => hsome hs⟩)
    (fun hs hrefused f => ⟨.refl hshadow, fun _ _ => ⟨hs, rfl⟩, fun hlent =>
      absurd (hrefused.symm.trans hlent) Bool.false_ne_true⟩) fun hs m hm _ => ?_
  refine (loadShadow_mirrors hm).mono fun r y ⟨hy, hsome, hl⟩ => ?_
  cases r with
  | error f => exact ⟨hy, fun _ _ => ⟨hs, hl⟩, fun _ _ => hsome⟩
  | ok _ =>
    obtain ⟨m', l, hb⟩ := hy.buffer
    refine ⟨⟨⟨m', l ∪ Location.sysmem, ?_⟩, ?_, hy.shadow, hy.idle, hy.stored⟩, nofun,
      fun _ _ => hsome⟩
    · show y.buffer.markValid Location.sysmem = _
      rw [hb]
      rfl
    · simp [Buffer.markValid, hl]

/-- What was in order stays so while the shadow is made current. -/
theorem Orderly.after_mirror (h : Orderly k c s) (hm : Mirrors s y) (hy : Agrees k c y) :
    Orderly k c y := by
  obtain ⟨m, l, hb⟩ := hm.buffer
  have hgpu := hm.gpuObject
  have hsize : y.buffer.size = s.buffer.size := by rw [hb]
  have hdirty : y.buffer.dirty = s.buffer.dirty := by rw [hb]
  have hobject : y.buffer.object = s.buffer.object := by rw [hb]
  refine { hy with
    spanned := by rw [hdirty, hsize]; exact h.spanned
    spans := by rw [hdirty]; exact h.spans
    present := by rw [hobject, hgpu]; exact h.present
    complete := by rw [hdirty, hgpu]; exact h.complete
    lacking := fun hk hkind hg o ho => ?_ }
  rw [hgpu] at hg
  rw [hobject] at ho
  have hrest := h.lacking hk (by rw [hb] at hkind; exact hkind) hg o ho
  unfold StoresRest at hrest ⊢
  rw [hm.idle hg, hsize, hdirty]
  exact hrest

/-- **To make the shadow current keeps the copies in order.** -/
theorem refreshShadow_orderly (h : Orderly k c s) : refreshShadow.Ends s fun r y =>
    Orderly k c y ∧ Mirrors s y ∧ (r = .ok () → y.buffer.locations.has Location.sysmem = true) := by
  refine ((refreshShadow_agrees h.toAgrees).and
    (refreshShadow_mirrors h.isEmpty_eq_false h.kept h.shadow)).mono fun r y hpost => ?_
  obtain ⟨⟨hy, -, hcase⟩, hm⟩ := hpost
  refine ⟨h.after_mirror hm.toMirrors hy, hm.toMirrors, ?_⟩
  rintro rfl
  exact hcase

/-! ## 4. The object -/

/-- A buffer without an object may get one that stores the content where it does not lack it. -/
theorem Orderly.bare (h : Orderly k c s) (hbare : s.buffer.object = none)
    (hsize : y.buffer.size = s.buffer.size) (hl : y.buffer.locations = s.buffer.locations)
    (hshadow : y.buffer.shadow = s.buffer.shadow)
    (hspanned : y.buffer.dirty.size = s.buffer.dirty.size) (hspans : y.buffer.dirty.Fits)
    (hnew : ∀ o, y.buffer.object = some o → StoresRest c y o) :
    Orderly k c y := by
  have hstale : ¬ y.buffer.locations.has Location.gpuObject = true := fun hg => by
    rw [hl] at hg
    have ho := h.present hg
    rw [hbare] at ho
    cases ho
  exact { h.toAgrees.bare hbare hsize hl hshadow with
    spanned := by rw [hspanned, hsize]; exact h.spanned
    spans := hspans
    present := fun hg => absurd hg hstale
    complete := fun hg => absurd hg hstale
    lacking := fun _ _ _ o ho => hnew o ho }

/-- An object that comes to exist, or is refused, leaves the content where it is. -/
theorem reserveObject_orderly (h : Orderly k c s) : reserveObject.Ends s fun ready y =>
    Orderly k c y ∧ y.buffer.locations = s.buffer.locations ∧
      y.buffer.conversion = s.buffer.conversion ∧
      (ready = true → y.buffer.object.isSome = true ∧ y.buffer.backend.kind ≠ .noObject) := by
  intro j
  unfold reserveObject
  rw [Step.wp_bind, wp_current]
  rcases objectRequest?_cases s.buffer with ⟨-, hreq⟩ | ⟨hkind, request, hreq, hsize⟩
  · rw [hreq]
    exact ⟨h, rfl, rfl, fun hr => absurd hr Bool.false_ne_true⟩
  rw [hreq]
  dsimp only
  rw [Step.wp_ite]
  split
  · rename_i ho
    exact ⟨h, rfl, rfl, fun _ => ⟨ho, hkind⟩⟩
  rename_i ho
  have hbare : s.buffer.object = none := by
    rw [Bool.not_eq_true, Option.isSome_eq_false_iff, Option.isNone_iff_eq_none] at ho
    exact ho
  have hnone {P : BufferObject → Prop} : ∀ o, s.buffer.object = some o → P o := fun o ho => by
    cases hbare.symm.trans ho
  rw [Step.wp_ite]
  split
  · exact ⟨h, rfl, rfl, fun hr => absurd hr Bool.false_ne_true⟩
  rw [Step.wp_bind, Step.wp_noteAll, Step.wp_bind, Attempt.wp_outcome]
  unfold newObject
  rw [Attempt.wp_bind, wp_tryDevice]
  refine (Faithful.made s.machine.device request).wp fun r d k hmade => ?_
  cases r with
  | ok a =>
    obtain ⟨bytes, hstored, hfit⟩ := hmade a rfl
    rw [hsize] at hfit
    simp only [Attempt.wp_bind, Attempt.wp_always, wp_current, wp_adoptObject, Attempt.wp_note,
      Step.wp_bind, wp_change, Step.wp_pure]
    obtain ⟨backend, hb, hbkind⟩ := restartBarriers_eq { s.buffer with
      object := some ((BufferObject.new a s.buffer.size).enlist s.machine.users s.buffer.user).1
      dirty := s.buffer.dirty.markAll }
    obtain ⟨hhandle, hoffset⟩ :=
      placement_enlist (.new a s.buffer.size) s.machine.users s.buffer.user
    rw [hb]
    refine ⟨h.bare hbare rfl rfl rfl rfl (.markAll _) ?_, rfl, rfl, fun _ => ⟨rfl, ?_⟩⟩
    · rintro o ⟨⟩
      refine ⟨bytes, ?_, ?_, fun i hi hno => absurd (DirtySpans.covers_markAll ?_) hno⟩
      · rw [hhandle]
        exact hstored
      · rw [hoffset]
        exact hfit
      · rw [h.spanned]
        exact hi
    · rw [hbkind]
      exact hkind
  | error f =>
    unfold objectRefused
    simp only [Step.wp_bind, wp_current, Step.wp_pure]
    split
    · simp only [Step.wp_bind, Step.wp_note, wp_change]
      exact ⟨h.bare hbare rfl rfl rfl rfl (.clear _) hnone, trivial, trivial,
        fun hr => absurd hr Bool.false_ne_true⟩
    · rw [Step.wp_note]
      exact ⟨h.bare hbare rfl rfl rfl rfl h.spans hnone, rfl, rfl,
        fun hr => absurd hr Bool.false_ne_true⟩

/-- A shadow that is about to be loaded from may hold the content before it is current. -/
theorem Orderly.prepared (h : Orderly k c s) :
    Orderly k c { s with buffer := { s.buffer with shadow := some c } } :=
  { h with
    shadow := fun m hm => by
      cases hm
      exact h.size
    mirrored := fun _ => rfl }

/-- A shadow of zeroes is had, or nothing happens. -/
theorem materializeCleared_orderly (h : Orderly k c s)
    (hc : s.buffer.locations.has Location.cleared = true) : materializeCleared.Ends s fun r y =>
      (r = .ok () ∧ y = { s with buffer := { s.buffer with shadow := some c } }) ∨
        ((∃ f, r = .error f) ∧ y = s) := by
  intro j
  unfold materializeCleared
  rw [Attempt.wp_bind, Attempt.wp_always]
  refine (reserveShadow_ends s).wp fun ready y j hready => ?_
  dsimp only
  rw [Attempt.wp_ite, h.cleared hc]
  rcases hready with ⟨rfl, hsome, hy⟩ | ⟨rfl, -, hy⟩ | ⟨rfl, -, hy⟩
  · obtain ⟨m, hm⟩ := Option.isSome_iff_exists.mp hsome
    rw [if_pos rfl, Attempt.wp_always, wp_clearShadow, hy, hm, Option.map_some, h.shadow m hm]
    exact .inl ⟨rfl, rfl⟩
  · rw [if_pos rfl, Attempt.wp_always, wp_clearShadow, hy, Option.map_some, Bytes.size_zeros]
    exact .inl ⟨rfl, rfl⟩
  · rw [if_neg Bool.false_ne_true, Attempt.wp_throw]
    exact .inr ⟨⟨_, rfl⟩, hy⟩

/-- **The spans that the object lacks are loaded from a shadow that holds the content**; also where
    the transfer fails half way, the object lacks nothing else. -/
theorem uploadPlain_orderly (h : Orderly false c s) (hshadow : s.buffer.shadow = some c)
    (ho : s.buffer.object = some o) (hg : s.buffer.locations.has Location.gpuObject = false)
    (hkind : s.buffer.backend.kind ≠ .noObject) : uploadPlain.Ends s fun r y =>
      Orderly false c y ∧ y.buffer = s.buffer ∧ (r = .ok () → Stores c y o) := by
  intro j
  have hsize : c.size = s.buffer.size := h.size
  obtain ⟨old, hstored, hfit, hrest⟩ := h.lacking rfl hkind hg o ho
  have hbounded (r : ByteRange) (hr : r ∈ s.buffer.dirty.spans) : r.stop ≤ c.size := by
    rw [hsize, ← h.spanned]
    exact h.spans r hr
  unfold uploadPlain
  rw [Attempt.wp_bind, Attempt.wp_always, wp_current]
  simp only [hshadow, ho]
  unfold fillObject
  simp only [Attempt.wp_bind, Attempt.wp_always, wp_onDevice, Attempt.wp_answer]
  refine (Faithful.filled hstored (by rw [hsize]; exact hfit) hbounded _).wp
    fun reply e k hpost => ?_
  obtain ⟨new, hnew, hcopied⟩ := hpost
  have hroom : o.offset + s.buffer.size ≤ new.size := by
    rw [hcopied.size]
    exact hfit
  refine ⟨{ h with
    stored := fun hg' => absurd (hg.symm.trans hg') Bool.false_ne_true
    lacking := fun _ _ _ o' ho' => ?_ }, trivial, fun hok => ?_⟩
  · cases ho.symm.trans ho'
    exact ⟨new, hnew, hroom, fun i hi hno => (hcopied.outside i hno).trans (hrest i hi hno)⟩
  · refine ⟨new, hnew, hroom, extract_eq hsize hroom fun i hi => ?_⟩
    by_cases hcov : CoveredBy s.buffer.dirty.spans i
    · exact hcopied.inside hok i hcov
    · exact (hcopied.outside i hcov).trans (hrest i hi hcov)

/-- Where the shadow stands for the content of converted vertices, the device may do anything. -/
theorem Orderly.converted (h : Orderly true c s)
    (hs : s.buffer.locations.has Location.sysmem = true) (d : δ) :
    Orderly true c { s with machine.device := d } :=
  { h with
    stored := fun _ hno => absurd ((hno rfl).symm.trans hs) Bool.false_ne_true
    lacking := nofun }

/-- An object with converted vertices is loaded, or not; the shadow stands for the content. -/
theorem uploadConverted_orderly (h : Orderly true c s) : uploadConverted.Ends s fun r y =>
    Orderly true c y ∧ y.buffer.conversion = s.buffer.conversion ∧
      y.buffer.object = s.buffer.object ∧
      (r = .ok () → y.buffer.locations.has Location.sysmem = true ∧ y.buffer.pinned = true) := by
  intro j
  unfold uploadConverted
  rw [Attempt.wp_bind]
  refine (refreshShadow_orderly h).wp fun r t j hpost => ?_
  obtain ⟨ht, hm, hs⟩ := hpost
  obtain ⟨m, l, hb⟩ := hm.buffer
  have hconv : t.buffer.conversion = s.buffer.conversion := by rw [hb]
  have hobject : t.buffer.object = s.buffer.object := by rw [hb]
  cases r with
  | error f => exact ⟨ht, hconv, hobject, fun h => absurd h (Failure.ne_ok _ _)⟩
  | ok _ =>
    simp only [Attempt.wp_bind, Attempt.wp_always, wp_pinShadow, wp_current]
    let p : Site δ := { t with buffer := { t.buffer with pinned := true } }
    have hp : Orderly true c p := { ht with }
    split
    · rw [Attempt.wp_bind, wp_borrowScratch]
      split
      · unfold fillObject
        simp only [Attempt.wp_bind, Attempt.wp_always, wp_onDevice, Attempt.wp_answer]
        have hany {a : Step δ TransferReply} : a.Ends t.machine.device fun _ _ => True := fun _ =>
          trivial
        exact hany.wp fun _ e _ _ =>
          ⟨hp.converted (hs rfl) e, hconv, hobject, fun _ => ⟨hs rfl, trivial⟩⟩
      · exact ⟨hp, hconv, hobject, fun h => absurd h (Failure.ne_ok _ _)⟩
    · exact ⟨hp, hconv, hobject, fun h => absurd h (Failure.ne_ok _ _)⟩

/-- **A load keeps the copies in order.** Where it succeeds the object stores the content, or the
    shadow stands for it. -/
theorem loadObject_orderly (h : Orderly k c s) (hk : s.buffer.isConverted = k)
    (ho : s.buffer.object = some o) (hg : s.buffer.locations.has Location.gpuObject = false)
    (hkind : s.buffer.backend.kind ≠ .noObject) : loadObject.Ends s fun r y =>
      Orderly k c y ∧ y.buffer.conversion = s.buffer.conversion ∧ y.buffer.object = some o ∧
      (r = .ok () → (k = false → Stores c y o) ∧
        (k = true → y.buffer.locations.has Location.sysmem = true ∧ y.buffer.pinned = true)) := by
  -- the upload, from a shadow that holds the content
  have hupload (j : Journal) :
      let t : Site δ := { s with buffer := { s.buffer with shadow := some c } }
      (if t.buffer.isConverted then uploadConverted else uploadPlain).wp t j fun r y _ =>
        Orderly k c y ∧ y.buffer.conversion = s.buffer.conversion ∧ y.buffer.object = some o ∧
        (r = .ok () → (k = false → Stores c y o) ∧
          (k = true → y.buffer.locations.has Location.sysmem = true ∧
            y.buffer.pinned = true)) := by
    intro t
    rw [Attempt.wp_ite, show t.buffer.isConverted = k from hk]
    cases k with
    | true =>
      rw [if_pos rfl]
      refine (uploadConverted_orderly h.prepared).wp fun r y _ hpost => ?_
      obtain ⟨hy, hconv, hobject, hok⟩ := hpost
      exact ⟨hy, hconv, hobject.trans ho, fun hr =>
        ⟨fun hk => absurd hk.symm Bool.false_ne_true, fun _ => hok hr⟩⟩
    | false =>
      rw [if_neg Bool.false_ne_true]
      refine (uploadPlain_orderly h.prepared rfl ho hg hkind).wp fun r y _ hpost => ?_
      obtain ⟨hy, hb, hok⟩ := hpost
      exact ⟨hy, by rw [hb], by rw [hb]; exact ho, fun hr =>
        ⟨fun _ => hok hr, fun hk => absurd hk Bool.false_ne_true⟩⟩
  intro j
  unfold loadObject
  simp only [Attempt.wp_bind, Attempt.wp_always, wp_current]
  rw [Attempt.wp_ite]
  cases hc : s.buffer.locations.has Location.cleared with
  | true =>
    rw [if_pos rfl, Attempt.wp_bind]
    refine (materializeCleared_orderly h hc).wp fun r y j hy => ?_
    rcases hy with ⟨rfl, rfl⟩ | ⟨⟨f, rfl⟩, rfl⟩
    · exact hupload j
    · exact ⟨h, rfl, ho, fun h => absurd h (Failure.ne_ok _ _)⟩
  | false =>
    have hs : s.buffer.locations.has Location.sysmem = true := by
      rcases h.somewhere with hl | hl | hl
      · exact hl
      · exact absurd (hg.symm.trans hl) Bool.false_ne_true
      · exact absurd (hc.symm.trans hl) Bool.false_ne_true
    have hself : { s with buffer := { s.buffer with shadow := some c } } = s := by
      rw [← h.mirrored hs]
    rw [if_neg Bool.false_ne_true]
    have hwp := hupload j
    rw [hself] at hwp
    exact hwp

/-- An object that stores the content, or converted vertices behind a current shadow, may be
    declared current. -/
theorem Orderly.loaded (h : Orderly k c s) (ho : s.buffer.object = some o)
    (hstored : k = false → Stores c s o)
    (hshadow : k = true → s.buffer.locations.has Location.sysmem = true) :
    Orderly k c { s with buffer := s.buffer.markValid Location.gpuObject } := by
  have hdirty : (s.buffer.markValid Location.gpuObject).dirty = s.buffer.dirty.clear := by
    unfold Buffer.markValid
    rw [if_pos Location.has_itself.2.1]
  exact { h with
    kept := by simp [Buffer.markValid, h.kept]
    somewhere := .inr (.inl (by simp [Buffer.markValid]))
    cleared := fun hc => h.cleared (by simpa [Buffer.markValid] using hc)
    mirrored := fun hs => h.mirrored (by simpa [Buffer.markValid] using hs)
    stored := fun _ hno => by
      cases k with
      | false => exact ⟨o, ho, hstored rfl⟩
      | true =>
        have hs : s.buffer.locations.has Location.sysmem = false := by
          simpa [Buffer.markValid] using hno rfl
        exact absurd (hs.symm.trans (hshadow rfl)) Bool.false_ne_true
    spanned := by rw [hdirty]; exact h.spanned
    spans := by rw [hdirty]; exact .clear _
    present := fun _ => Option.isSome_iff_exists.mpr ⟨o, ho⟩
    complete := fun _ => by rw [hdirty]; rfl
    lacking := fun _ _ hg => by simp [Buffer.markValid] at hg }

/-- The shadow may go where the object stores the content. -/
theorem giveUpShadow_orderly (h : Orderly k c s)
    (hg : s.buffer.locations.has Location.gpuObject = true)
    (hk : k = true → s.buffer.pinned = true) : giveUpShadow.Ends s fun _ y =>
      Orderly k c y ∧ y.buffer.conversion = s.buffer.conversion ∧
        y.buffer.locations.has Location.gpuObject = true := by
  intro j
  unfold giveUpShadow
  rw [Step.wp_bind, wp_current, Step.wp_ite]
  split
  · exact ⟨h, rfl, hg⟩
  · rename_i hp
    have hplain : k = false := by
      cases k with
      | false => rfl
      | true => exact absurd (hk rfl) hp
    subst hplain
    simp only [Step.wp_bind, Step.wp_note, wp_declareStale, wp_change]
    have hgpu : (s.buffer.markStale Location.sysmem 0 0).locations.has Location.gpuObject =
        true := by simp [Buffer.markStale, hg]
    have hdirty : (s.buffer.markStale Location.sysmem 0 0).dirty = s.buffer.dirty := by
      unfold Buffer.markStale
      rw [Location.apart.1.1, if_neg Bool.false_ne_true]
    refine ⟨{ h with
      kept := by simp [Buffer.markStale, h.kept]
      somewhere := .inr (.inl hgpu)
      shadow := fun _ hm => absurd hm.symm (Option.some_ne_none _)
      cleared := fun hc => h.cleared (by simpa [Buffer.markStale] using hc)
      mirrored := fun hs => by simp [Buffer.markStale] at hs
      stored := fun _ _ => h.stored hg fun hk => absurd hk Bool.false_ne_true
      spanned := by rw [hdirty]; exact h.spanned
      spans := by rw [hdirty]; exact h.spans
      present := fun _ => h.present hg
      complete := fun _ => by rw [hdirty]; exact h.complete hg
      lacking := fun _ _ hno => absurd (hno.symm.trans hgpu) Bool.false_ne_true }, rfl, hgpu⟩

/-- **To make the object current keeps the copies in order**, whichever call fails on the way. -/
theorem refreshObject_orderly (h : Orderly s.buffer.isConverted c s) :
    refreshObject.Ends s fun r y => Orderly s.buffer.isConverted c y ∧
      y.buffer.conversion = s.buffer.conversion ∧
      (r = .ok () → y.buffer.locations.has Location.gpuObject = true) := by
  intro j
  refine wp_refreshWith h.isEmpty_eq_false (fun hg => ⟨h, rfl, fun _ => hg⟩) fun hg j => ?_
  refine (reserveObject_orderly h).wp fun ready t j hpost => ?_
  obtain ⟨ht, hl, hconv, hready⟩ := hpost
  refine ⟨fun _ f => ⟨ht, hconv, fun h => absurd h (Failure.ne_ok _ _)⟩, fun hyes => ⟨ht.kept, ?_⟩⟩
  obtain ⟨hsome, hkind⟩ := hready hyes
  obtain ⟨o, ho⟩ := Option.isSome_iff_exists.mp hsome
  refine (loadObject_orderly ht (isConverted_of_conversion hconv) ho (by rw [hl]; exact hg)
    hkind).wp fun r y j hpost => ?_
  obtain ⟨hy, hyconv, hyo, hok⟩ := hpost
  cases r with
  | error f => exact ⟨hy, hyconv.trans hconv, fun h => absurd h (Failure.ne_ok _ _)⟩
  | ok _ =>
    obtain ⟨hplain, hconverted⟩ := hok rfl
    intro j
    have hz := hy.loaded hyo hplain fun hk => (hconverted hk).1
    have hzg : (y.buffer.markValid Location.gpuObject).locations.has Location.gpuObject =
        true := by simp [Buffer.markValid]
    unfold releaseShadow
    rw [Step.wp_bind, wp_current, Step.wp_ite]
    split
    · refine (giveUpShadow_orderly hz hzg fun hk => (hconverted hk).2).wp
        fun _ z _ hz => ⟨hz.1, hz.2.1.trans (hyconv.trans hconv), fun _ => hz.2.2⟩
    · exact ⟨hz, hyconv.trans hconv, fun _ => hzg⟩

/-! ## 5. Reading the content -/

/-- Some copy made current keeps the copies in order. -/
theorem refreshSomewhere_orderly (h : Orderly s.buffer.isConverted c s) :
    refreshSomewhere.Ends s fun r y => Orderly s.buffer.isConverted c y ∧
      y.buffer.conversion = s.buffer.conversion ∧
      (r = .ok () → y.buffer.locations.has Location.sysmem = true ∨
        y.buffer.locations.has Location.gpuObject = true) := by
  have hshadow {t : Site δ} (ht : Orderly s.buffer.isConverted c t)
      (hconv : t.buffer.conversion = s.buffer.conversion) : refreshShadow.Ends t fun r y =>
        Orderly s.buffer.isConverted c y ∧ y.buffer.conversion = s.buffer.conversion ∧
        (r = .ok () → y.buffer.locations.has Location.sysmem = true ∨
          y.buffer.locations.has Location.gpuObject = true) :=
    (refreshShadow_orderly ht).mono fun r y hpost => by
      obtain ⟨hy, hm, hs⟩ := hpost
      obtain ⟨m, l, hb⟩ := hm.buffer
      exact ⟨hy, by rw [hb]; exact hconv, fun hr => .inl (hs hr)⟩
  intro j
  unfold refreshSomewhere
  rw [Attempt.wp_bind, Attempt.wp_always, wp_current]
  dsimp only
  rw [Attempt.wp_ite]
  split
  · exact hshadow h rfl j
  · rw [Attempt.wp_bind, Attempt.wp_always, Attempt.wp_outcome]
    refine (refreshObject_orderly h).wp fun r y j hpost => ?_
    obtain ⟨hy, hconv, hg⟩ := hpost
    cases r with
    | ok _ => exact ⟨hy, hconv, fun _ => .inr (hg rfl)⟩
    | error f =>
      simp only [Attempt.wp_bind, Attempt.wp_always, wp_current, Attempt.wp_ite, Attempt.wp_throw]
      split
      · exact ⟨hy, hconv, fun h => absurd h (Failure.ne_ok _ _)⟩
      · exact hshadow hy hconv j

/-- **What is read is the content.** A read fails only where the device refuses it, or where nothing
    was written yet and storage is not to be had. -/
theorem content_orderly (h : Orderly s.buffer.isConverted c s) : content.Ends s fun r _ =>
    r = .ok c ∨ ((∃ f, r = .error f) ∧
      (ReadRefused s ∨ s.buffer.locations.has Location.cleared = true)) := by
  intro j
  cases hc : s.buffer.locations.has Location.cleared with
  | false =>
    exact (content_agrees h.toAgrees hc).wp fun r _ _ hr =>
      hr.imp_right fun hr => ⟨hr.1, .inl hr.2⟩
  | true =>
    rw [content_eq, authoritative_eq, Attempt.wp_bind]
    simp only [Attempt.wp_bind, Attempt.wp_always, wp_current, Attempt.wp_ite,
      Location.meets_sentinel, hc, Bool.or_true, if_true]
    refine (refreshSomewhere_orderly h).wp fun r y j hpost => ?_
    obtain ⟨hy, hconv, hl⟩ := hpost
    cases r with
    | error f => exact .inr ⟨⟨f, rfl⟩, .inr trivial⟩
    | ok _ =>
      rw [← isConverted_of_conversion hconv] at hy
      refine (Attempt.wp_bind _ _ _).mp ((bytesAt_agrees hy.toAgrees (hl rfl)).wp
        fun r _ _ hr => ?_)
      exact hr.imp_right fun hr => ⟨hr.1, .inr trivial⟩

end BufferCoherence.Site
