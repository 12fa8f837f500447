import BufferCoherence.Proofs.Readback
import BufferCoherence.Proofs.Tenancy

/-!
# Unloading on a device that may fail

What happens to the content when a buffer gives its object up, on any device that `ReadsBack`, while
any call of it may fail.

* `Agrees k c s`: the current copies of the buffer stand for the content `c`; where `k` is set, the
  object may hold converted vertices behind a current shadow. What is read is `c`
  (`content_agrees`), and on the memory device the copies agree wherever they are coherent;
* `vacate_agrees`: an unloading saves the content in the shadow, unless the content is in the object
  alone and the attempt to save it fails (`SaveFails`). The object is given up all the same, and
  then no copy is left;
* `Unloading.keeps_iff`: the same, on whichever way the buffer comes to give its object up.
-/

namespace BufferCoherence

open Vulkan (Driver)

namespace Site

variable {δ : Type} [Device δ] [ReadsBack δ] {s t : Site δ} {k k' : Bool} {c : ByteArray}

/-! ## 1. The content of the copies -/

/-- The object stores `c` as the content of the buffer. -/
def Stores (c : ByteArray) (s : Site δ) (o : BufferObject) : Prop :=
  ∃ bytes, ReadsBack.Stores s.machine.device o.handle bytes ∧
    o.offset + s.buffer.size ≤ bytes.size ∧
    bytes.extract o.offset (o.offset + s.buffer.size) = c

/-- The current copies of the buffer stand for the content `c`. -/
structure Agrees (k : Bool) (c : ByteArray) (s : Site δ) : Prop where
  size : c.size = s.buffer.size
  kept : s.buffer.locations.has Location.discarded = false
  somewhere : s.buffer.locations.has Location.sysmem = true ∨
    s.buffer.locations.has Location.gpuObject = true ∨
    s.buffer.locations.has Location.cleared = true
  shadow : ∀ m, s.buffer.shadow = some m → m.size = s.buffer.size
  cleared : s.buffer.locations.has Location.cleared = true → c = Bytes.zeros s.buffer.size
  mirrored : s.buffer.locations.has Location.sysmem = true → s.buffer.shadow = some c
  stored : s.buffer.locations.has Location.gpuObject = true →
    (k = true → s.buffer.locations.has Location.sysmem = false) →
    ∃ o, s.buffer.object = some o ∧ Stores c s o

namespace Agrees

theorem isEmpty_eq_false (h : Agrees k c s) : s.buffer.locations.isEmpty = false := by
  rcases h.somewhere with hl | hl | hl
  · exact FlagSet.isEmpty_of_has Location.isFlag.1 hl
  · exact FlagSet.isEmpty_of_has Location.isFlag.2.1 hl
  · exact FlagSet.isEmpty_of_has Location.isFlag.2.2.2 hl

/-- Less is said where the object may hold converted vertices. -/
theorem weaken (h : Agrees k c s) : Agrees true c s :=
  { h with stored := fun hg hs => h.stored hg fun _ => hs rfl }

/-- Content that is neither in the shadow nor cleared is in the object. -/
theorem only_object (h : Agrees k c s) (hs : s.buffer.locations.has Location.sysmem = false)
    (hc : s.buffer.locations.has Location.cleared = false) :
    s.buffer.locations.has Location.gpuObject = true := by
  rcases h.somewhere with hl | hl | hl
  · exact absurd (hs.symm.trans hl) Bool.false_ne_true
  · exact hl
  · exact absurd (hc.symm.trans hl) Bool.false_ne_true

/-- A shadow that is not current may hold anything. -/
theorem withShadow (h : Agrees k c s) (hs : s.buffer.locations.has Location.sysmem = false)
    {m : ByteArray} (hm : m.size = s.buffer.size) {d : δ}
    (hd : s.buffer.locations.has Location.gpuObject = true →
      ∃ o, s.buffer.object = some o ∧ Stores c { s with machine.device := d } o) :
    Agrees k c ⟨{ s.buffer with shadow := some m }, { s.machine with device := d }⟩ :=
  { h with
    shadow := fun m' hm' => by
      cases hm'
      exact hm
    mirrored := fun hs' => absurd (hs.symm.trans hs') Bool.false_ne_true
    stored := fun hg _ => hd hg }

/-- A shadow that holds the content becomes current. -/
theorem mirror (h : Agrees k c s) (hs : s.buffer.locations.has Location.sysmem = false)
    (hm : s.buffer.shadow = some c) :
    Agrees k c { s with buffer := s.buffer.markValid Location.sysmem } :=
  { h with
    kept := by simp [Buffer.markValid, h.kept]
    somewhere := .inl (by simp [Buffer.markValid])
    cleared := fun hc => h.cleared (by simpa [Buffer.markValid] using hc)
    mirrored := fun _ => hm
    stored := fun hg _ => h.stored (by simpa [Buffer.markValid] using hg) fun _ => hs }

/-- The copies in host memory alone, whatever became of the object. -/
theorem spared (h : Agrees k c s) (hs : t.buffer.locations.has Location.sysmem = true ∨
      t.buffer.locations.has Location.cleared = true)
    (hsize : t.buffer.size = s.buffer.size) (hshadow : t.buffer.shadow = s.buffer.shadow)
    (hg : t.buffer.locations.has Location.gpuObject = false)
    (hsub : ∀ l, l.IsFlag → t.buffer.locations.has l = true → s.buffer.locations.has l = true)
    (k' : Bool) : Agrees k' c t where
  size := by rw [hsize]; exact h.size
  kept := by
    cases hd : t.buffer.locations.has Location.discarded with
    | false => rfl
    | true => exact absurd (h.kept.symm.trans (hsub _ Location.isFlag.2.2.1 hd)) Bool.false_ne_true
  somewhere := hs.elim .inl fun hc => .inr (.inr hc)
  shadow := by rw [hsize, hshadow]; exact h.shadow
  cleared hc := by rw [hsize]; exact h.cleared (hsub _ Location.isFlag.2.2.2 hc)
  mirrored hs := by rw [hshadow]; exact h.mirrored (hsub _ Location.isFlag.1 hs)
  stored hg' := absurd (hg.symm.trans hg') Bool.false_ne_true

/-- What is written through the shadow makes every other copy stale. -/
theorem claimed (h : Agrees k c s) (hs : s.buffer.locations.has Location.sysmem = true)
    (offset size : Nat) (k' : Bool) : Agrees k' c { s with
      buffer := s.buffer.markStale (Location.all \ Location.sysmem) offset size } := by
  refine h.spared
    (t := { s with buffer := s.buffer.markStale (Location.all \ Location.sysmem) offset size })
    (.inl ?_) rfl rfl ?_ (fun l hf ht => ?_) k'
  · simp [Buffer.markStale, hs]
  · simp [Buffer.markStale]
  · rw [Buffer.markStale, FlagSet.has_sdiff_left hf, Bool.and_eq_true] at ht
    exact ht.1

end Agrees

theorem isConverted_of_conversion {b b' : Buffer} (h : b'.conversion = b.conversion) :
    b'.isConverted = b.isConverted := congrArg (fun v : ConversionState => v.map.isSome) h

/-- The copies of a buffer on the memory device agree wherever they are coherent. -/
theorem agrees_of_coherent {s : Site MemoryDevice} (h : Coherent k c s.copies) : Agrees k c s where
  size := h.size
  kept := h.kept
  somewhere := h.somewhere
  shadow m hm := (h.shadow m hm).1
  cleared := h.cleared
  mirrored := h.mirrored
  stored hg hk := by
    obtain ⟨o, -, ho, hoff, hheld⟩ := currentObject_eq h hg
    have hsize : c.size = s.buffer.size := h.size
    refine ⟨o, ho, c, hheld.symm.trans (h.current hg hk), ?_, ?_⟩
    · rw [hoff, Nat.zero_add]
      exact Nat.le_of_eq hsize.symm
    · rw [hoff, Nat.zero_add]
      exact Bytes.extract_all (Nat.le_of_eq hsize)

/-- Where the content is read from. -/
theorem address?_agrees (h : Agrees s.buffer.isConverted c s)
    (hl : s.buffer.locations.has Location.sysmem = true ∨
      s.buffer.locations.has Location.gpuObject = true) :
    (s.buffer.address? = some .shadow ∧ s.buffer.shadow = some c) ∨
      ∃ o, s.buffer.object = some o ∧
        s.buffer.address? = some (.object o.handle o.offset) ∧ Stores c s o := by
  have hshadow : s.buffer.shadowCurrent = s.buffer.locations.has Location.sysmem := by
    unfold Buffer.shadowCurrent
    cases hs : s.buffer.locations.has Location.sysmem with
    | false => rfl
    | true => rw [h.mirrored hs, Option.isSome_some, Bool.and_true]
  have hobject (hg : s.buffer.locations.has Location.gpuObject = true)
      (hk : s.buffer.isConverted = true → s.buffer.locations.has Location.sysmem = false) :
      ∃ o, s.buffer.object = some o ∧ s.buffer.currentObject = some o ∧ Stores c s o := by
    obtain ⟨o, ho, hstored⟩ := h.stored hg hk
    refine ⟨o, ho, ?_, hstored⟩
    unfold Buffer.currentObject
    rw [if_pos hg, ho]
  unfold Buffer.address?
  rw [hshadow]
  cases hs : s.buffer.locations.has Location.sysmem with
  | true =>
    cases hk : s.buffer.isConverted with
    | true => exact .inl ⟨rfl, h.mirrored hs⟩
    | false =>
      cases hg : s.buffer.locations.has Location.gpuObject with
      | true =>
        obtain ⟨o, ho, hcur, hstored⟩ := hobject hg fun hk' => absurd (hk.symm.trans hk') nofun
        exact .inr ⟨o, ho, by rw [hcur]; rfl, hstored⟩
      | false =>
        refine .inl ⟨?_, h.mirrored hs⟩
        unfold Buffer.currentObject
        rw [hg]
        rfl
  | false =>
    have hg := hl.resolve_left fun hs' => Bool.false_ne_true (hs.symm.trans hs')
    obtain ⟨o, ho, hcur, hstored⟩ := hobject hg fun _ => hs
    exact .inr ⟨o, ho, by rw [Bool.and_false, if_neg Bool.false_ne_true, hcur], hstored⟩

/-- The device answers a read of the whole object with a failure. -/
def ReadRefused (s : Site δ) : Prop :=
  ∃ o data i, s.buffer.object = some o ∧
    (Device.transfer (.host data) (.object o.handle o.offset) [s.buffer.span] MapFlags.write
      s.machine.device i).1.1.outcome.toOption = none

/-- A current copy is read for the content, unless the device refuses to read it. -/
theorem bytesAt_agrees (h : Agrees s.buffer.isConverted c s)
    (hl : s.buffer.locations.has Location.sysmem = true ∨
      s.buffer.locations.has Location.gpuObject = true) :
    (currentAddress >>= bytesAt).Ends s fun r _ =>
      r = .ok c ∨ ((∃ f, r = .error f) ∧ ReadRefused s) := by
  intro j
  rw [Attempt.wp_bind]
  rcases address?_agrees h hl with ⟨ha, hs⟩ | ⟨o, ho, ha, bytes, hstored, hfit, hbytes⟩
  · rw [wp_currentAddress ha]
    unfold bytesAt shadowBytes
    simp only [hs, Attempt.wp_pure, Attempt.wp_bind, Attempt.wp_always, wp_current]
    exact .inl trivial
  · rw [wp_currentAddress ha]
    unfold bytesAt
    simp only [Attempt.wp_bind, Attempt.wp_always, wp_current, wp_onDevice, Attempt.wp_answer,
      Attempt.wp_pure]
    -- the one call of the device: it answers with the content, or refuses
    have hread : Step.wp (Device.transfer (.host (Bytes.zeros s.buffer.size))
        (.object o.handle o.offset) [s.buffer.span] MapFlags.write) s.machine.device j
        fun reply _ _ => (reply.outcome = .ok () → reply.host = c) ∧
          (reply.outcome.toOption = none → ReadRefused s) :=
      ⟨fun hok => ((ReadsBack.fetch hstored hfit (Bytes.size_zeros s.buffer.size)
        MapFlags.write j).2.2 hok).trans hbytes, fun hno => ⟨o, _, j, ho, hno⟩⟩
    refine hread.mono fun reply e k hpost => ?_
    obtain ⟨hok, hrefused⟩ := hpost
    cases hr : reply.outcome with
    | error f => exact .inr ⟨⟨f, rfl⟩, hrefused (by rw [hr]; rfl)⟩
    | ok _ => exact .inl (congrArg Except.ok (hok hr))

/-- **What is read is the content**, where something was written; the device may refuse. -/
theorem content_agrees (h : Agrees s.buffer.isConverted c s)
    (hc : s.buffer.locations.has Location.cleared = false) : content.Ends s fun r _ =>
      r = .ok c ∨ ((∃ f, r = .error f) ∧ ReadRefused s) := by
  intro j
  have hl : s.buffer.locations.has Location.sysmem = true ∨
      s.buffer.locations.has Location.gpuObject = true := by
    rcases h.somewhere with hl | hl | hl
    · exact .inl hl
    · exact .inr hl
    · exact absurd (hc.symm.trans hl) Bool.false_ne_true
  rw [content_eq, authoritative_eq, Attempt.wp_bind]
  simp only [Attempt.wp_bind, Attempt.wp_always, wp_current, Attempt.wp_ite,
    Location.meets_sentinel, h.kept, hc, Bool.or_self, Bool.false_eq_true, if_false]
  exact (Attempt.wp_bind _ _ _).mp (bytesAt_agrees h hl j)

/-! ## 2. Saving the content -/

/-- The content is in the object alone, and the attempt to save it in the shadow fails. -/
def SaveFails (s : Site δ) (j : Journal) : Prop :=
  s.buffer.locations.has Location.sysmem = false ∧
    s.buffer.locations.has Location.cleared = false ∧
    (refreshShadow.run s j).1.1.toOption = none

/-- The shadow is loaded with the content, or the load fails and spoils nothing. -/
theorem loadShadow_agrees (h : Agrees k c s)
    (hs : s.buffer.locations.has Location.sysmem = false) {m : ByteArray}
    (hm : m.size = s.buffer.size) :
    loadShadow.Ends { s with buffer := { s.buffer with shadow := some m } } fun r y =>
      ∃ m' d, y = ⟨{ s.buffer with shadow := some m' }, { s.machine with device := d }⟩ ∧
        Agrees k c y ∧ (r = .ok () → m' = c) := by
  intro j
  unfold loadShadow
  simp only [Attempt.wp_bind, Attempt.wp_always, wp_current, Attempt.wp_ite]
  cases hc : s.buffer.locations.has Location.cleared with
  | true =>
    rw [if_pos rfl, wp_clearShadow]
    refine ⟨Bytes.zeros m.size, s.machine.device, rfl, ?_, fun _ => ?_⟩
    · exact h.withShadow hs ((Bytes.size_zeros _).trans hm) fun hg => h.stored hg fun _ => hs
    · rw [h.cleared hc, hm]
  | false =>
    have hg := h.only_object hs hc
    obtain ⟨o, ho, bytes, hstored, hfit, hbytes⟩ := h.stored hg fun _ => hs
    have hcur : Buffer.currentObject { s.buffer with shadow := some m } = some o := by
      unfold Buffer.currentObject
      rw [if_pos hg]
      exact ho
    rw [if_neg Bool.false_ne_true]
    simp only [hcur]
    unfold fillShadow
    simp only [Attempt.wp_bind, Attempt.wp_always, wp_current, wp_onDevice, wp_change,
      Attempt.wp_answer]
    have hsize : (m.extract 0 (0 + s.buffer.size)).size = s.buffer.size := by
      rw [ByteArray.size_extract]
      omega
    refine (ReadsBack.fetch hstored hfit hsize MapFlags.write).wp fun reply e k hreply => ?_
    obtain ⟨hstays, hhost, hread⟩ := hreply
    have hspliced : Bytes.splice m 0 reply.host = reply.host :=
      Bytes.splice_all (hhost.trans hm.symm)
    refine ⟨reply.host, e, by rw [hspliced], ?_, fun hr => (hread hr).trans hbytes⟩
    rw [hspliced]
    exact h.withShadow hs hhost fun _ => ⟨o, ho, bytes, hstays, hfit, hbytes⟩

/-- **To make the shadow current keeps the content**, and a failure leaves the locations as they
    were. -/
theorem refreshShadow_agrees (h : Agrees k c s) : refreshShadow.Ends s fun r y =>
    Agrees k c y ∧ y.buffer.conversion = s.buffer.conversion ∧
      match r with
      | .ok _ => y.buffer.locations.has Location.sysmem = true
      | .error _ => s.buffer.locations.has Location.sysmem = false ∧
          y.buffer.locations = s.buffer.locations := by
  refine refreshShadow_cases h.isEmpty_eq_false h.kept h.shadow (fun hs => ⟨h, rfl, hs⟩)
    (fun hs _ f => ⟨h, rfl, hs, rfl⟩) fun hs m hm _ => ?_
  refine (loadShadow_agrees h hs hm).mono fun r y ⟨m', d, hy, hagree, hok⟩ => ?_
  cases r with
  | error f => exact ⟨hagree, by rw [hy], hs, by rw [hy]⟩
  | ok _ =>
    refine ⟨hagree.mirror (by rw [hy]; exact hs) ?_, by rw [hy]; rfl, by simp [Buffer.markValid]⟩
    rw [hy, hok rfl]

/-- The content is saved, or it stays where it was. -/
theorem saveContent_agrees (h : Agrees k c s) (j : Journal) : saveContent.wp s j fun _ y _ =>
    Agrees k c y ∧
      ((y.buffer.locations.has Location.sysmem = true ∧
          (refreshShadow.run s j).1.1.toOption.isSome = true) ∨
        (s.buffer.locations.has Location.sysmem = false ∧
          y.buffer.locations = s.buffer.locations ∧
          (refreshShadow.run s j).1.1.toOption = none)) := by
  have hsave := refreshShadow_agrees h j
  unfold saveContent
  rw [Step.wp_bind, Attempt.wp_outcome]
  unfold Attempt.wp Step.wp at hsave ⊢
  generalize refreshShadow.run s j = run at hsave ⊢
  obtain ⟨⟨r, y⟩, k⟩ := run
  obtain ⟨hagree, -, hcase⟩ := hsave
  cases r with
  | ok _ => exact ⟨hagree, .inl ⟨hcase, rfl⟩⟩
  | error f => exact ⟨hagree, .inr ⟨hcase.1, hcase.2, rfl⟩⟩

/-! ## 3. Giving the object up -/

/-- The end of an unloading: whatever was saved, the object is given up. -/
theorem removed_ends {δ : Type} [Device δ] (y : Site δ) : (do
      declareStale Location.gpuObject
      removeObject
      change fun b => { b with dirty := b.dirty.clear, conversion := .fresh } :
        Step (Site δ) Unit).Ends y fun _ t =>
    t.buffer.size = y.buffer.size ∧ t.buffer.shadow = y.buffer.shadow ∧
      t.buffer.locations = y.buffer.locations \ Location.gpuObject := by
  intro j
  simp only [Step.wp_bind, wp_declareStale, wp_change]
  refine (removeObject_ends _).wp fun _ z k hz => ?_
  split at hz
  · rw [hz]
    exact ⟨rfl, rfl, rfl⟩
  · rw [hz]
    exact ⟨rfl, rfl, rfl⟩

/-- **The content is kept by an unloading unless the attempt to save it fails.** -/
theorem vacate_agrees (h : Agrees k c s) (ho : s.buffer.object.isSome = true) (j : Journal) :
    vacate.wp s j fun _ t _ => (¬ SaveFails s j ∧ ∀ k', Agrees k' c t) ∨
      (SaveFails s j ∧ t.buffer.locations = s.buffer.locations \ Location.gpuObject) := by
  unfold vacate
  rw [Step.wp_bind, wp_current, Step.wp_ite, if_pos ho, Step.wp_bind]
  refine (saveContent_agrees h j).mono fun _ y k ⟨hy, hcase⟩ => ?_
  refine (removed_ends y).wp fun _ t k ⟨hsize, hshadow, hl⟩ => ?_
  have hspared (hs : t.buffer.locations.has Location.sysmem = true ∨
      t.buffer.locations.has Location.cleared = true) (k' : Bool) : Agrees k' c t :=
    hy.spared hs hsize hshadow (by simp [hl]) (fun l hf ht => by
      rw [hl, FlagSet.has_sdiff_left hf, Bool.and_eq_true] at ht
      exact ht.1) k'
  rcases hcase with ⟨hs, hrun⟩ | ⟨hs, hloc, hrun⟩
  · refine .inl ⟨fun hf => ?_, hspared (.inl (by simp [hl, hs]))⟩
    rw [hf.2.2] at hrun
    cases hrun
  · cases hc : s.buffer.locations.has Location.cleared with
    | true =>
      -- nothing was ever written, so that nothing had to be saved
      refine .inl ⟨fun hf => Bool.false_ne_true (hf.2.1.symm.trans hc), hspared (.inr ?_)⟩
      simp [hl, hloc, hc]
    | false => exact .inr ⟨⟨hs, hc, hrun⟩, by rw [hl, hloc]⟩

/-! ## 4. On the way to an unloading -/

/-- From `s` on, the buffer came to unload at `u`, and that ended in `t`. -/
structure Unloads (c : ByteArray) (s u : Site δ) (k : Journal) (t : Site δ) : Prop where
  agrees : Agrees true c u
  object : u.buffer.object.isSome = true
  locations : u.buffer.locations = s.buffer.locations
  ends : (vacate u k).1.2 = t

/-- The content is lost on the way from `s` to `t`: the attempt to save it fails. -/
def Lost (c : ByteArray) (s t : Site δ) : Prop := ∃ u i, Unloads c s u i t ∧ u.SaveFails i

/-- An unloading ends with the content, or with what is left of the locations. -/
theorem Unloads.settles {i : Journal} (h : Unloads c s u i t) :
    (¬ u.SaveFails i ∧ ∀ k, Agrees k c t) ∨
      (u.SaveFails i ∧ t.buffer.locations = s.buffer.locations \ Location.gpuObject) := by
  have hends := vacate_agrees h.agrees h.object i
  unfold Step.wp at hends
  rw [h.ends, h.locations] at hends
  exact hends

/-- To give the object up for good is to unload. -/
theorem dropObject_unloads (h : Agrees k c t) (ho : t.buffer.object.isSome = true)
    (hl : t.buffer.locations = s.buffer.locations) :
    dropObject.Ends t fun _ y => ∃ u i, Unloads c s u i y := by
  intro j
  unfold dropObject
  rw [Step.wp_bind, wp_change]
  exact ⟨{ t with buffer := { t.buffer with objectAllowed := false } }, j, { h.weaken with }, ho, hl,
    rfl⟩

/-- Without an object there is nothing to unload. -/
theorem vacate_without {δ : Type} [Device δ] {s : Site δ} (ho : s.buffer.object.isSome = false) :
    vacate.Ends s fun _ t => t = s := by
  intro j
  unfold vacate
  rw [Step.wp_bind, wp_current, Step.wp_ite, if_neg (by rw [ho]; exact Bool.false_ne_true)]
  rfl

/-- To give the object up for good keeps the content, or is to unload. -/
theorem dropObject_vacates (h : Agrees t.buffer.isConverted c t)
    (hl : t.buffer.locations = s.buffer.locations) :
    dropObject.Ends t fun _ y => Agrees y.buffer.isConverted c y ∨ ∃ u i, Unloads c s u i y := by
  intro j
  cases ho : t.buffer.object.isSome with
  | true => exact .inr (dropObject_unloads h ho hl j)
  | false =>
    unfold dropObject
    rw [Step.wp_bind, wp_change]
    let u : Site δ := { t with buffer := { t.buffer with objectAllowed := false } }
    refine (vacate_without (s := u) ho).wp fun _ y i hy => .inl ?_
    rw [hy]
    exact { h with }

/-- A buffer without an object agrees whatever object it gets, as long as that is not current. -/
theorem Agrees.bare (h : Agrees k c s) (hbare : s.buffer.object = none)
    (hsize : t.buffer.size = s.buffer.size) (hl : t.buffer.locations = s.buffer.locations)
    (hshadow : t.buffer.shadow = s.buffer.shadow) : Agrees k c t where
  size := by rw [hsize]; exact h.size
  kept := by rw [hl]; exact h.kept
  somewhere := by rw [hl]; exact h.somewhere
  shadow := by rw [hsize, hshadow]; exact h.shadow
  cleared := by rw [hsize, hl]; exact h.cleared
  mirrored := by rw [hl, hshadow]; exact h.mirrored
  stored hg hk := by
    rw [hl] at hg hk
    obtain ⟨o, ho, -⟩ := h.stored hg hk
    rw [hbare] at ho
    cases ho

/-- An object is made, or refused; the content does not depend on it. -/
theorem reserveObject_agrees (h : Agrees k c s) : reserveObject.Ends s fun ready y =>
    Agrees k c y ∧ y.buffer.locations = s.buffer.locations ∧
      y.buffer.conversion = s.buffer.conversion ∧
      (ready = true → y.buffer.object.isSome = true) := by
  intro j
  unfold reserveObject
  rw [Step.wp_bind, wp_current]
  cases s.buffer.objectRequest? with
  | none => exact ⟨h, rfl, rfl, fun hr => absurd hr Bool.false_ne_true⟩
  | some request =>
    simp only [Step.wp_ite, Step.wp_pure]
    cases ho : s.buffer.object with
    | some o =>
      rw [if_pos (by rw [Option.isSome_some])]
      exact ⟨h, trivial, trivial, fun _ => by rw [Option.isSome_some]⟩
    | none =>
      rw [if_neg (by rw [Option.isSome_none]; exact Bool.false_ne_true)]
      split
      · exact ⟨h, rfl, rfl, fun hr => absurd hr Bool.false_ne_true⟩
      · simp only [Step.wp_bind, Step.wp_noteAll, Attempt.wp_outcome, newObject, Attempt.wp_bind,
          wp_tryDevice]
        have hmake : (Device.makeObject request).Ends s.machine.device fun _ _ => True :=
          fun _ => trivial
        refine hmake.wp fun r d k _ => ?_
        cases r with
        | ok a =>
          simp only [Attempt.wp_always, wp_current, wp_adoptObject, Attempt.wp_note, Step.wp_bind,
            wp_change, Step.wp_pure]
          obtain ⟨backend, hb, -⟩ := restartBarriers_eq { s.buffer with
            object := some ((BufferObject.new a s.buffer.size).enlist s.machine.users
              s.buffer.user).1
            dirty := s.buffer.dirty.markAll }
          rw [hb]
          exact ⟨h.bare ho rfl rfl rfl, rfl, rfl, fun _ => rfl⟩
        | error f =>
          simp only [objectRefused, Step.wp_bind, wp_current, Step.wp_pure]
          split
          · simp only [Step.wp_bind, Step.wp_note, wp_change]
            exact ⟨h.bare ho rfl rfl rfl, trivial, trivial, by simp⟩
          · rw [Step.wp_note]
            exact ⟨h.bare ho rfl rfl rfl, rfl, rfl, by simp⟩

/-- The object stays in place while copies are loaded. -/
theorem Moves.object_isSome {δ : Type} [Device δ] {s t : Site δ} (h : Moves MoveKind.loading s t)
    (ho : s.buffer.object.isSome = true) : t.buffer.object.isSome = true := by
  refine h.keeps (P := fun x => x.buffer.object.isSome = true) (fun k hk x y step hx => ?_) ho
  cases step with
  | book h users =>
    rw [← Option.isSome_map, h.object, Option.isSome_map]
    exact hx
  | made size bare _ => rfl
  | call h => exact hx
  | refused h => exact hx
  | released loose steady => exact hx
  | _ => simp [MoveKind.loading] at hk

/-- A buffer that ends without its object has unloaded it, and lost nothing before. -/
def Vacates (c : ByteArray) (s t : Site δ) : Prop :=
  t.buffer.object = none → ∃ u i, Unloads c s u i t

/-- What only loads copies does not unload. -/
theorem vacates_of_loading {p : Step (Site δ) Unit} (hp : p.Within MoveKind.loading)
    (ho : t.buffer.object.isSome = true) : p.Ends t fun _ y => Vacates c s y :=
  (hp t).mono fun _ y hy hnone => by
    have hsome := hy.object_isSome ho
    rw [hnone] at hsome
    cases hsome

theorem analyseLayout_conversion {δ : Type} [Device δ] (draw : Draw) (s : Site δ) :
    (analyseLayout draw).Ends s fun _ y =>
      ∃ conversion, y = { s with buffer := { s.buffer with conversion } } :=
  fun _ => ⟨_, rfl⟩

/-- A draw that changes the layout unloads, or keeps the object. -/
theorem loadChanged_vacates (h : Agrees k c t) (ho : t.buffer.object.isSome = true)
    (hl : t.buffer.locations = s.buffer.locations) :
    loadChanged.Ends t fun _ y => Vacates c s y := by
  intro j
  unfold loadChanged
  rw [Step.wp_bind, wp_countEvent, Step.wp_bind, wp_current, Step.wp_ite]
  let u : Site δ := { t with buffer := { t.buffer with
    hysteresis := t.buffer.hysteresis.countDeclaration.2 } }
  split
  · rw [Step.wp_bind, Step.wp_note]
    exact (dropObject_unloads (t := u) (k := k) { h with } ho hl).wp fun _ y _ hy _ => hy
  · exact vacates_of_loading (t := u) reload_within ho j

/-- A draw that finds changed spans unloads, or keeps the object. -/
theorem loadDirty_vacates (h : Agrees k c t) (ho : t.buffer.object.isSome = true)
    (hl : t.buffer.locations = s.buffer.locations) :
    loadDirty.Ends t fun _ y => Vacates c s y := by
  intro j
  unfold loadDirty
  rw [Step.wp_bind, wp_current, Step.wp_ite]
  split
  · rw [Step.wp_bind, wp_countEvent, Step.wp_ite]
    let u : Site δ := { t with buffer := { t.buffer with
      hysteresis := t.buffer.hysteresis.countConversion.2 } }
    split
    · rw [Step.wp_bind, Step.wp_note]
      exact (dropObject_unloads (t := u) (k := k) { h with } ho hl).wp fun _ y _ hy _ => hy
    · exact vacates_of_loading (t := u) loadPending_within ho j
  · exact vacates_of_loading (.bind (countQuietDraw_within.mono MoveKind.inPlace_loading)
      fun _ => loadPending_within) ho j

theorem loadPrepared_vacates (h : Agrees k c t) (ho : t.buffer.object.isSome = true)
    (hl : t.buffer.locations = s.buffer.locations) (draw : Option Draw) :
    (loadPrepared draw).Ends t fun _ y => Vacates c s y := by
  have hbody {y : Site δ} (changed : Bool) (h : Agrees k c y)
      (ho : y.buffer.object.isSome = true) (hl : y.buffer.locations = s.buffer.locations) :
      (do
        let b ← current
        if changed then loadChanged
        else if b.dirty.isPending then loadDirty
        else countQuietDraw : Step (Site δ) Unit).Ends y fun _ y => Vacates c s y := by
    intro j
    rw [Step.wp_bind, wp_current, Step.wp_ite]
    split
    · exact loadChanged_vacates h ho hl j
    · rw [Step.wp_ite]
      split
      · exact loadDirty_vacates h ho hl j
      · exact vacates_of_loading (countQuietDraw_within.mono MoveKind.inPlace_loading) ho j
  intro j
  unfold loadPrepared
  cases draw with
  | none => exact hbody false h ho hl j
  | some draw =>
    simp only [Step.wp_bind]
    refine (analyseLayout_conversion draw t).wp fun changed y i hpost => ?_
    obtain ⟨conversion, hy⟩ := hpost
    subst hy
    exact hbody (y := { t with buffer := { t.buffer with conversion } }) changed { h with } ho hl i

/-- **A draw keeps the content, or unloads.** Here the draw ends without an object. -/
theorem readyForDraw_vacates (h : Agrees s.buffer.isConverted c s) (draw : Option Draw) :
    (readyForDraw draw).Ends s fun _ t => t.buffer.object = none →
      Agrees t.buffer.isConverted c t ∨ ∃ u i, Unloads c s u i t := by
  intro j
  unfold readyForDraw
  rw [Step.wp_bind, wp_current, Step.wp_ite]
  split
  · exact fun _ => .inl h
  · have hprepare (j : Journal) : Step.wp (do
        if s.buffer.objectAllowed then
          if ← reserveObject then loadPrepared draw else note (.prepareFailed s.buffer.id))
        s j fun _ t _ => t.buffer.object = none →
          Agrees t.buffer.isConverted c t ∨ ∃ u i, Unloads c s u i t := by
      rw [Step.wp_ite]
      split
      · rw [Step.wp_bind]
        refine (reserveObject_agrees h).wp fun ready y i ⟨hy, hl, hconv, hready⟩ => ?_
        cases ready with
        | true =>
          exact (loadPrepared_vacates hy (hready rfl) hl draw).wp fun _ t _ ht hnone =>
            .inr (ht hnone)
        | false =>
          rw [← isConverted_of_conversion hconv] at hy
          exact fun _ => .inl hy
      · exact fun _ => .inl h
    by_cases hm : s.buffer.mapCount > 0
    · rw [if_pos hm]
      exact hprepare _
    · rw [if_neg hm]
      exact hprepare _

/-- To unmap an object leaves the content where it is. -/
theorem Agrees.closed (h : Agrees k c s) (a : ObjectHandle) (ranges : List ByteRange) :
    (Device.closeMapping a ranges).Ends s.machine.device fun _ e =>
      Agrees k c { s with machine.device := e } := by
  intro j
  refine { h with stored := fun hg hk => ?_ }
  obtain ⟨o, ho, bytes, hstored, hfit, hbytes⟩ := h.stored hg hk
  exact ⟨o, ho, bytes, ReadsBack.closed hstored a ranges j, hfit, hbytes⟩

/-- A mapping at an address that is not aligned keeps the content, or comes to unload. Only a buffer
    whose content changes often unloads; any other one goes on with its shadow, and if the shadow
    cannot be loaded, the object stays current. -/
theorem mapWithoutObject_vacates (h : Agrees s.buffer.isConverted c s) (a : ObjectHandle)
    (flags : MapFlags) (dirty : ByteRange) :
    (mapWithoutObject a flags dirty).Ends s fun _ t =>
      Agrees t.buffer.isConverted c t ∨
        s.buffer.isDynamic = true ∧ ∃ u i, Unloads c s u i t := by
  intro j
  unfold mapWithoutObject
  simp only [Attempt.wp_bind, Attempt.wp_always, wp_current, Attempt.wp_note, wp_onDevice,
    wp_change, Attempt.wp_ite]
  refine (h.closed a []).wp fun _ e i he => ?_
  let u : Site δ := ⟨{ s.buffer with mapBase := none }, { s.machine with device := e }⟩
  have hu : Agrees s.buffer.isConverted c u := { he with }
  cases hd : s.buffer.isDynamic with
  | true =>
    rw [if_pos rfl]
    exact (dropObject_vacates (s := s) (t := u) hu rfl).wp fun _ y i hy =>
      hy.imp_right fun hy => ⟨rfl, hy⟩
  | false =>
    rw [if_neg Bool.false_ne_true]
    refine (refreshShadow_agrees hu).wp fun r y i hpost => ?_
    obtain ⟨hy, hconv, hcase⟩ := hpost
    have hk : y.buffer.isConverted = s.buffer.isConverted := isConverted_of_conversion hconv
    rw [← hk] at hy
    cases r with
    | error f => exact .inl hy
    | ok _ =>
      simp only [wp_pinShadow]
      let z : Site δ := { y with buffer := { y.buffer with pinned := true } }
      have hz : Agrees z.buffer.isConverted c z := { hy with }
      split
      · rw [wp_declareStaleIn]
        exact .inl (hz.claimed hcase _ _ _)
      · exact .inl hz

end Site

/-! ## 5. Every way to an unloading -/

/-- The ways a buffer comes to give its object up. -/
inductive Unloading where
  | unload
  | drop
  /-- The object of a buffer whose content changes often is mapped at an address that is not
      aligned. -/
  | misaligned (h : ObjectHandle) (flags : MapFlags) (dirty : ByteRange)
  /-- The counters of a draw run out. -/
  | draw (d : Option Draw)

namespace Unloading

open Site

variable {δ : Type} [Device δ] [ReadsBack δ] {s : Site δ} {c : ByteArray}

/-- The step that unloads on the way. -/
def perform {δ : Type} [Device δ] : Unloading → Step (Site δ) Unit
  | unload => vacate
  | drop => dropObject
  | misaligned h flags dirty => do
    discard (mapWithoutObject h flags dirty).outcome
  | draw d => readyForDraw d

/-- The step is over with, as far as unloading goes: a draw may leave the object in place. -/
def Unloaded {δ : Type} (t : Site δ) : Unloading → Prop
  | draw _ => t.buffer.object = none
  | _ => True

/-- Each way keeps the content, or comes to unload. -/
theorem perform_unloads (h : Agrees s.buffer.isConverted c s) (w : Unloading) :
    w.perform.Ends s fun _ t => w.Unloaded t →
      Agrees t.buffer.isConverted c t ∨ ∃ u i, Unloads c s u i t := by
  intro j
  cases w with
  | unload =>
    cases ho : s.buffer.object.isSome with
    | true => exact fun _ => .inr ⟨s, j, h.weaken, ho, rfl, rfl⟩
    | false => exact (vacate_without ho).wp fun _ t i ht _ => .inl (by rw [ht]; exact h)
  | drop => exact (dropObject_vacates h rfl).wp fun _ t i ht _ => ht
  | misaligned a flags dirty =>
    exact (mapWithoutObject_vacates h a flags dirty).wp fun _ t i ht _ => ht.imp_right And.right
  | draw d => exact readyForDraw_vacates h d j

/-- What is lost is gone: no copy is left that could stand for anything. -/
theorem locations_of_lost {t : Site δ} (h : Lost c s t) :
    t.buffer.locations = s.buffer.locations \ Location.gpuObject ∧
      ∀ k c', ¬ Agrees k c' t := by
  obtain ⟨u, i, hu, hfails⟩ := h
  rcases hu.settles with ⟨hno, -⟩ | ⟨-, hl⟩
  · exact absurd hfails hno
  · obtain ⟨hs, hc, -⟩ := hfails
    rw [hu.locations] at hs hc
    refine ⟨hl, fun k c' ht => ?_⟩
    rcases ht.somewhere with hl' | hl' | hl' <;> simp [hl, hs, hc] at hl'

/-- **Unloading keeps the content exactly where the attempt to save it succeeds.** The buffer is any
    buffer whose current copies stand for the content `c`, on a device any call of which may fail.
    Whichever way it comes to unload, it ends with a current copy, and its copies stand for `c`,
    unless `c` was in the object alone and could not be read back. Then no copy is left. -/
theorem keeps_iff (h : Agrees s.buffer.isConverted c s) (w : Unloading) {t : Site δ}
    {j i : Journal} (hrun : w.perform s j = (((), t), i)) (hw : w.Unloaded t) :
    (t.buffer.locations.isEmpty = false ∧ Agrees t.buffer.isConverted c t ↔ ¬ Lost c s t) ∧
      (Lost c s t → t.buffer.locations = s.buffer.locations \ Location.gpuObject) := by
  refine ⟨⟨fun ⟨_, ht⟩ hlost => (locations_of_lost hlost).2 _ _ ht, fun hkept => ?_⟩,
    fun hlost => (locations_of_lost hlost).1⟩
  have hagrees : Agrees t.buffer.isConverted c t := by
    rcases (perform_unloads h w).of_run hrun hw with ht | ⟨u, k, hu⟩
    · exact ht
    · rcases hu.settles with ⟨-, ht⟩ | ⟨hfails, -⟩
      · exact ht _
      · exact absurd ⟨u, k, hu, hfails⟩ hkept
  exact ⟨hagrees.isEmpty_eq_false, hagrees⟩

end Unloading

/-! ## 6. Buffers that are met -/

open Site in
/-- What a buffer on a Vulkan device has in its object alone, read off the tables. -/
theorem agrees_of_tables {s : Site VulkanDevice} {c : ByteArray}
    (hl : s.buffer.locations = Location.gpuObject) (hsize : c.size = s.buffer.size)
    (hshadow : s.buffer.shadow = none)
    (hstored : (s.buffer.object.bind fun o => (s.machine.device.object? o.handle).bind fun p =>
      (s.machine.device.driver.memoryOf? p.buffer).map fun m => (o.offset, m.2.bytes,
        decide (p.buffer < s.machine.device.driver.nextBuffer ∧
          m.1 < s.machine.device.driver.nextMemory))) = some (0, c, true)) (k : Bool) :
    Agrees k c s := by
  obtain ⟨o, ho, hstored⟩ := Option.bind_eq_some_iff.mp hstored
  obtain ⟨p, hp, hstored⟩ := Option.bind_eq_some_iff.mp hstored
  obtain ⟨⟨memory, m⟩, hm, he⟩ := Option.map_eq_some_iff.mp hstored
  simp only [Prod.mk.injEq, decide_eq_true_eq] at he
  obtain ⟨hoff, rfl, hb, hmem⟩ := he
  refine ⟨hsize, by rw [hl]; rfl, .inr (.inl (by rw [hl]; rfl)), ?_, ?_, ?_, fun _ _ => ?_⟩
  · rw [hshadow]
    exact nofun
  · rw [hl]
    exact nofun
  · rw [hl]
    exact nofun
  · refine ⟨o, ho, m.bytes, ⟨p, memory, m.hostVisible, hp, hb, hmem, hm⟩, ?_, ?_⟩
    · rw [hoff, Nat.zero_add]
      exact Nat.le_of_eq hsize.symm
    · rw [hoff, Nat.zero_add]
      exact Bytes.extract_all (Nat.le_of_eq hsize)

open Site in
/-- A buffer whose content comes back through a staging buffer. -/
theorem unloaded_through_staging : ∃ (s t : Site VulkanDevice) (i : Journal),
    Tenancy (.new (.new ⟨.new, 0⟩ .modern)) ⟨4, ∅, BindFlags.vertexBuffer, Access.gpu, 0⟩
      (some ⟨#[1, 2, 3, 4]⟩) {} [] s ∧
    s.buffer.locations = Location.gpuObject ∧ t.buffer.locations = Location.sysmem ∧
    Agrees s.buffer.isConverted ⟨#[1, 2, 3, 4]⟩ s ∧
    Unloading.unload.perform s (.empty .error) = (((), t), i) ∧ Unloading.unload.Unloaded t ∧
    (t.buffer.locations.isEmpty = false ∧ Agrees t.buffer.isConverted ⟨#[1, 2, 3, 4]⟩ t ↔
      ¬ Lost ⟨#[1, 2, 3, 4]⟩ s t) ∧
    (Lost ⟨#[1, 2, 3, 4]⟩ s t →
      t.buffer.locations = s.buffer.locations \ Location.gpuObject) := by
  have h₀ := Tenancy.first (.new (VulkanDevice.new ⟨.new, 0⟩ .modern))
    ⟨4, ∅, BindFlags.vertexBuffer, Access.gpu, 0⟩ (some ⟨#[1, 2, 3, 4]⟩) {} (.empty .error)
    (Option.some_get (by decide +kernel)).symm
  refine ⟨_, _, _, h₀, by decide +kernel, ?_, agrees_of_tables (by decide +kernel) (by decide +kernel)
    (by decide +kernel) (by decide +kernel) _, Step.eq_end _ _ _, trivial, ?_⟩
  · decide +kernel
  · exact Unloading.keeps_iff (agrees_of_tables (by decide +kernel) (by decide +kernel)
      (by decide +kernel) (by decide +kernel) _) .unload (Step.eq_end _ _ _) trivial

open Site in
/-- Where the staging buffer cannot be allocated, an unloading loses the content. -/
theorem unloading_loses_content : ∃ (s : Site VulkanDevice) (refused : Driver),
    Tenancy (.new (.new ⟨.new, 0⟩ .modern)) ⟨4, ∅, BindFlags.vertexBuffer, Access.gpu, 0⟩
      (some ⟨#[1, 2, 3, 4]⟩) {} [] s ∧
    (content.run s (.empty .error)).1.1.toOption = some ⟨#[1, 2, 3, 4]⟩ ∧
    refused = s.machine.device.driver.setCode .allocateMemory "OutOfDeviceMemory" ∧
    s.buffer.locations.isEmpty = false ∧
    let t := (vacate { s with machine.device := s.machine.device.setDriver refused }
      (.empty .error)).1.2
    t.buffer.locations.isEmpty = true ∧ t.buffer.object.isNone = true := by
  have h₀ := Tenancy.first (.new (VulkanDevice.new ⟨.new, 0⟩ .modern))
    ⟨4, ∅, BindFlags.vertexBuffer, Access.gpu, 0⟩ (some ⟨#[1, 2, 3, 4]⟩) {} (.empty .error)
    (Option.some_get (by decide +kernel)).symm
  exact ⟨_, _, h₀, by decide +kernel, rfl, by decide +kernel, by decide +kernel⟩

end BufferCoherence
