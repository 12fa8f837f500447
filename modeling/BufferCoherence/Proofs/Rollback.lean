import BufferCoherence.Proofs.Backing
import BufferCoherence.Proofs.Lockstep
import BufferCoherence.Proofs.Upkeep

/-!
# Mappings that fail

What a failed `map` leaves of a buffer of which nothing is mapped (`Rests`), on any device that is
`Faithful`, while any call of it may fail.

* Until the object is ready, a failure leaves the copies in order (`readyObject_ends`,
  `openShadow_leaves`): a copy was loaded in part at most, and what the object lacks is recorded.
* From there on a mapping for writing claims the object (`InObject`): the other copies are stale, and
  the range counts as changed. The device may refuse to map the object after that, and nothing takes
  the claim back (`openClaimed_leaves`), except for the number of mappings.
* `map_failure_harmless_iff`: a failed mapping leaves the content as it found it, and nothing that
  the object lacks, exactly where it did not claim the object.
-/

namespace BufferCoherence

/-- What is stored on a memory device is stored on its twin. -/
theorem Twins.stores {lends : Nat → Bool} {d : MemoryDevice} {e : VulkanDevice}
    (h : Twins lends d e) {a : ObjectHandle}
    {bytes : ByteArray} (hstored : ReadsBack.Stores d a bytes) : ReadsBack.Stores e a bytes := by
  obtain ⟨o, ho, -, hm⟩ := h.balanced.object_of_bytes? ((h.bytes a).trans hstored)
  exact ⟨o, o.memory, _, ho, hm.bufferKnown, hm.memoryKnown, hm.bound⟩

end BufferCoherence

namespace BufferCoherence.Site

variable {δ : Type} [Device δ] [Faithful δ] {s t y z : Site δ} {k w : Bool} {c c' : ByteArray}
  {offset size : Nat} {flags : MapFlags} {r : ByteRange} {j : Journal}

/-! ## 1. Before and after -/

/-- A buffer of which nothing is mapped, and whose copies stand for the content `c`. -/
structure Rests (c : ByteArray) (s : Site δ) : Prop
    extends Orderly s.buffer.isConverted c s where
  backed : s.buffer.isConverted = true → s.buffer.pinned = true
  unmapped : s.buffer.mapCount = 0
  baseless : s.buffer.mapBase = none

/-- Every copy that is current stands for the content `c`, and `c` is what is read, unless the
    device refuses, or nothing was written yet and storage is not to be had. -/
structure Preserves (c : ByteArray) (y : Site δ) : Prop where
  agrees : Agrees y.buffer.isConverted c y
  readable : content.Ends y fun r _ => r = .ok c ∨ ((∃ f, r = .error f) ∧
    (ReadRefused y ∨ y.buffer.locations.has Location.cleared = true))

/-- The content is preserved, and an object that is current lacks nothing of it. -/
structure Harmless (c : ByteArray) (y : Site δ) : Prop extends Preserves c y where
  clean : y.buffer.locations.has Location.gpuObject = true → y.buffer.dirty.isPending = false

theorem Orderly.harmless (h : Orderly y.buffer.isConverted c y) : Harmless c y :=
  ⟨⟨h.toAgrees, content_orderly h⟩, h.complete⟩

/-- The buffer with one more mapping counted. -/
def counted {δ : Type} (s : Site δ) : Site δ :=
  { s with buffer := { s.buffer with mapCount := s.buffer.mapCount + 1 } }

/-- A mapping gets as far as to have the object ready, at `t`. -/
structure ReachesObject {δ : Type} [Device δ] (s : Site δ) (offset size : Nat) (flags : MapFlags)
    (j : Journal) (t : Site δ) : Prop where
  fits : s.buffer.holds offset size = true
  inObject : s.buffer.mapsShadow flags = false
  ready : ∃ i, (readyObject flags).run s.counted j = ((.ok (), t), i)

/-- There is one place where the object is ready. -/
theorem ReachesObject.unique {δ : Type} [Device δ] {s t y : Site δ}
    (h : ReachesObject s offset size flags j t)
    (h' : ReachesObject s offset size flags j y) : t = y := by
  obtain ⟨i, hi⟩ := h.ready
  obtain ⟨i', hi'⟩ := h'.ready
  exact congrArg (fun p => p.1.2) (hi.symm.trans hi')

/-! ## 2. The object claimed -/

/-- The object is current and stores `c'`, `c` being the content before; where `w` is set, it was
    claimed for writing. -/
structure InObject (c c' : ByteArray) (w : Bool) (z : Site δ) : Prop where
  plain : z.buffer.isConverted = false
  kept : z.buffer.locations.has Location.discarded = false
  current : z.buffer.locations.has Location.gpuObject = true
  shadow : ∀ m, z.buffer.shadow = some m → m.size = z.buffer.size
  backing : z.buffer.locations.has Location.sysmem = true → z.buffer.shadow.isSome = true
  stored : ∃ o, z.buffer.object = some o ∧ Stores c' z o
  alone : w = true → z.buffer.locations.has Location.sysmem = false ∧
    z.buffer.locations.has Location.cleared = false
  pending : w = true → z.buffer.dirty.isPending = true
  orderly : w = false → c' = c → Orderly false c z

namespace InObject

theorem isEmpty_eq_false (h : InObject c c' w z) : z.buffer.locations.isEmpty = false :=
  FlagSet.isEmpty_of_has Location.isFlag.2.1 h.current

/-- An object that is claimed for writing stands for what it stores. -/
theorem agrees (h : InObject c c' true z) : Agrees false c' z where
  size := by
    obtain ⟨o, -, bytes, -, hfit, rfl⟩ := h.stored
    rw [ByteArray.size_extract]
    omega
  kept := h.kept
  somewhere := .inr (.inl h.current)
  shadow := h.shadow
  cleared hc := absurd ((h.alone rfl).2.symm.trans hc) Bool.false_ne_true
  mirrored hs := absurd ((h.alone rfl).1.symm.trans hs) Bool.false_ne_true
  stored _ _ := h.stored

/-- **An object that stores the content preserves it**, claimed or not. -/
theorem preserves (h : InObject c c w z) : Preserves c z := by
  cases w with
  | false =>
    have ho := h.orderly rfl rfl
    rw [← h.plain] at ho
    exact ho.harmless.toPreserves
  | true =>
    have ha := h.agrees
    rw [← h.plain] at ha
    exact ⟨ha, (content_agrees ha (h.alone rfl).2).mono fun _ _ hr =>
      hr.imp_right fun hr => ⟨hr.1, .inl hr.2⟩⟩

/-- **A current object is harmless where it was not claimed for writing**, and stores the content. -/
theorem harmless_iff (h : InObject c c' w z) : Harmless c z ↔ w = false ∧ c' = c := by
  constructor
  · intro hz
    refine ⟨?_, ?_⟩
    · cases hw : w with
      | false => rfl
      | true => exact absurd ((hz.clean h.current).symm.trans (h.pending hw)) Bool.false_ne_true
    · obtain ⟨o, ho, hstored⟩ := h.stored
      obtain ⟨o', ho', hstored'⟩ := hz.agrees.stored h.current fun hk =>
        absurd (h.plain.symm.trans hk) Bool.false_ne_true
      cases ho.symm.trans ho'
      exact hstored.unique hstored'
  · rintro ⟨rfl, rfl⟩
    have ho := h.orderly rfl rfl
    rw [← h.plain] at ho
    exact ho.harmless

/-- How many mappings are counted does not matter. -/
theorem recounted (h : InObject c c' w z) (n : Nat) :
    InObject c c' w { z with buffer := { z.buffer with mapCount := n } } :=
  { h with orderly := fun hw hc => { h.orderly hw hc with } }

/-- An object that is current and in order is as a mapping wants it. -/
theorem ofOrderly (h : Orderly false c y) (hplain : y.buffer.isConverted = false)
    (hg : y.buffer.locations.has Location.gpuObject = true) : InObject c c false y where
  plain := hplain
  kept := h.kept
  current := hg
  shadow := h.shadow
  backing hs := by rw [h.mirrored hs, Option.isSome_some]
  stored := h.stored hg nofun
  alone := nofun
  pending := nofun
  orderly _ _ := h

/-- An object whose bytes are thrown away stores something, and that is what counts from then on. -/
theorem ofDiscarded (h : Orderly false c t) (hplain : t.buffer.isConverted = false)
    (hsome : t.buffer.object.isSome = true) (hkind : t.buffer.backend.kind ≠ .noObject) :
    ∃ c', InObject c c' false { t with buffer := t.buffer.markValid Location.gpuObject } := by
  obtain ⟨o, ho⟩ := Option.isSome_iff_exists.mp hsome
  obtain ⟨c', hstored⟩ : ∃ c', Stores c' t o := by
    cases hg : t.buffer.locations.has Location.gpuObject with
    | false => exact (h.lacking rfl hkind hg o ho).stores
    | true =>
      obtain ⟨o', ho', hstored⟩ := h.stored hg nofun
      cases ho.symm.trans ho'
      exact ⟨c, hstored⟩
  exact ⟨c', {
    plain := hplain
    kept := by simp [Buffer.markValid, h.kept]
    current := by simp [Buffer.markValid]
    shadow := h.shadow
    backing := fun hs => by
      have hs' : t.buffer.locations.has Location.sysmem = true := by
        simpa [Buffer.markValid] using hs
      show t.buffer.shadow.isSome = true
      rw [h.mirrored hs', Option.isSome_some]
    stored := ⟨o, ho, hstored⟩
    alone := nofun
    pending := nofun
    orderly := fun _ hc => h.loaded ho (fun _ => hc ▸ hstored) nofun }⟩

end InObject

/-- **The object is made ready for a mapping, or the copies stay in order.** -/
theorem readyObject_ends (h : Orderly false c s) (hplain : s.buffer.isConverted = false) :
    (readyObject flags).Ends s fun r y =>
      match r with
      | .ok _ => ∃ c', InObject c c' false y ∧ (flags.has MapFlags.discard = false → c' = c)
      | .error _ => Orderly false c y ∧ y.buffer.isConverted = false := by
  intro j
  unfold readyObject
  rw [Attempt.wp_ite]
  cases hd : flags.has MapFlags.discard with
  | true =>
    rw [if_pos rfl]
    unfold discardIntoObject
    rw [Attempt.wp_bind, Attempt.wp_always]
    refine (reserveObject_orderly h).wp fun ready t k hpost => ?_
    obtain ⟨ht, _, hconv, hready⟩ := hpost
    have htplain : t.buffer.isConverted = false :=
      (isConverted_of_conversion hconv).trans hplain
    cases ready with
    | true =>
      simp only [if_true, Attempt.wp_always, wp_declareCurrent]
      obtain ⟨hsome, hkind⟩ := hready rfl
      obtain ⟨c', hc'⟩ := InObject.ofDiscarded ht htplain hsome hkind
      exact ⟨c', hc', fun hk => absurd hk.symm Bool.false_ne_true⟩
    | false => exact ⟨ht, htplain⟩
  | false =>
    rw [if_neg Bool.false_ne_true]
    rw [← hplain] at h
    refine (refreshObject_orderly h).wp fun r y k hpost => ?_
    obtain ⟨hy, hconv, hok⟩ := hpost
    have hyplain : y.buffer.isConverted = false :=
      (isConverted_of_conversion hconv).trans hplain
    rw [hplain] at hy
    cases r with
    | error f => exact ⟨hy, hyplain⟩
    | ok _ => exact ⟨c, .ofOrderly hy hyplain (hok rfl), fun _ => rfl⟩

/-- To make the object ready changes nothing about what is mapped, -/
theorem readyObject_held {δ : Type} [Device δ] (flags : MapFlags) (s : Site δ) :
    (readyObject flags).Ends s fun _ y => y.buffer.mapCount = s.buffer.mapCount ∧
      y.buffer.mapBase = s.buffer.mapBase :=
  (readyObject_within flags s).mono fun _ _ hy =>
    hy.unheld (by simp [MoveKind.loading])

/-- nor about the size. -/
theorem readyObject_size {δ : Type} [Device δ] (flags : MapFlags) (s : Site δ) :
    (readyObject flags).Ends s fun _ y => y.buffer.size = s.buffer.size :=
  (Attempt.Relates.upholds (readyObject_deeds flags) s).mono fun _ _ hy => hy.size

/-- Where the shadow is given up, it is not current any more. -/
theorem giveUpShadow_cases {δ : Type} (z : Site δ) : giveUpShadow.Ends z fun _ y => y = z ∨
    y = { z with buffer := { z.buffer.markStale Location.sysmem 0 0 with shadow := none } } := by
  intro j
  unfold giveUpShadow
  rw [Step.wp_bind, wp_current, Step.wp_ite]
  split
  · exact .inl rfl
  · simp only [Step.wp_bind, Step.wp_note, wp_declareStale, wp_change]
    exact .inr trivial

/-- A claim for writing leaves the object as the only current copy, and lacking something. -/
theorem claimObject_inObject (h : InObject c c' false t) (flags : MapFlags) (r : ByteRange) :
    (claimObject flags r).Ends t fun _ z => InObject c c' (flags.has MapFlags.write) z ∧
      z.buffer.mapCount = t.buffer.mapCount ∧ z.buffer.mapBase = t.buffer.mapBase ∧
      z.buffer.size = t.buffer.size := by
  intro j
  unfold claimObject
  simp only [Step.wp_ite, Step.wp_bind, wp_declareStale, wp_markDirty, Step.wp_pure]
  cases flags.has MapFlags.write with
  | false => exact ⟨h, trivial, trivial, trivial⟩
  | true =>
    rw [if_pos rfl]
    refine ⟨{ h with
      kept := by simp [Buffer.markStale, h.kept]
      current := by simp [Buffer.markStale, h.current]
      backing := fun hs => by simp [Buffer.markStale] at hs
      alone := fun _ => by simp [Buffer.markStale]
      pending := fun _ => DirtySpans.isPending_mark _ _ _
      orderly := fun hw => absurd hw.symm Bool.false_ne_true }, rfl, rfl, rfl⟩

/-- The shadow may go. -/
theorem giveUpShadow_inObject (h : InObject c c' w z) : giveUpShadow.Ends z fun _ y =>
    InObject c c' w y ∧ y.buffer.mapCount = z.buffer.mapCount ∧
      y.buffer.mapBase = z.buffer.mapBase ∧ y.buffer.size = z.buffer.size := by
  have horderly : giveUpShadow.Ends z fun _ y => w = false → c' = c → Orderly false c y :=
    fun j hw hc => (giveUpShadow_orderly (h.orderly hw hc) h.current nofun j).1
  refine ((giveUpShadow_cases z).and horderly).mono fun _ y ⟨hy, ho⟩ => ?_
  rcases hy with rfl | rfl
  · exact ⟨h, rfl, rfl, rfl⟩
  · exact ⟨{ h with
      kept := by simp [Buffer.markStale, h.kept]
      current := by simp [Buffer.markStale, h.current]
      shadow := nofun
      backing := fun hs => by simp [Buffer.markStale] at hs
      alone := fun hw => by simp [Buffer.markStale, h.alone hw]
      pending := fun hw => by simpa [Buffer.markStale] using h.pending hw
      orderly := ho }, rfl, rfl, rfl⟩

/-! ## 3. The object mapped -/

/-- An attempt to map the object was in vain: the shadow was loaded in part at most. -/
structure InVain (z y : Site δ) : Prop where
  buffer : ∃ shadow, y.buffer = { z.buffer with shadow, mapBase := none }
  shadow : ∀ m, y.buffer.shadow = some m → m.size = z.buffer.size
  mirrored : z.buffer.locations.has Location.sysmem = true → y.buffer.shadow = z.buffer.shadow
  stored : ∀ o c, z.buffer.object = some o → Stores c z o → Stores c y o

/-- What was in order stays so. -/
theorem Orderly.after_vain (h : Orderly k c z) (hy : InVain z y)
    (hg : z.buffer.locations.has Location.gpuObject = true) : Orderly k c y := by
  obtain ⟨m, hb⟩ := hy.buffer
  obtain ⟨b, machine⟩ := y
  cases hb
  exact { h with
    shadow := hy.shadow
    mirrored := fun hs => (hy.mirrored hs).trans (h.mirrored hs)
    stored := fun hg hk => by
      obtain ⟨o, ho, hstored⟩ := h.stored hg hk
      exact ⟨o, ho, hy.stored o c ho hstored⟩
    lacking := fun _ _ hno => absurd (hno.symm.trans hg) Bool.false_ne_true }

/-- **An attempt that is in vain takes nothing back.** -/
theorem InObject.after_vain (h : InObject c c' w z) (hy : InVain z y) : InObject c c' w y := by
  have ho (hw : w = false) (hc : c' = c) : Orderly false c y :=
    (h.orderly hw hc).after_vain hy h.current
  obtain ⟨m, hb⟩ := hy.buffer
  obtain ⟨b, machine⟩ := y
  cases hb
  obtain ⟨o, hobj, hstored⟩ := h.stored
  exact { h with
    shadow := hy.shadow
    backing := fun hs => by
      show Option.isSome m = true
      rw [show m = z.buffer.shadow from hy.mirrored hs]
      exact h.backing hs
    stored := ⟨o, hobj, hy.stored o c' hobj hstored⟩
    orderly := ho }

/-- To map an object leaves what objects store. -/
theorem stores_opened (z : Site δ) (a : ObjectHandle) (offset size : Nat) (flags : MapFlags) :
    (Device.openMapping a offset size flags).Ends z.machine.device fun _ e =>
      ∀ o c, Stores c z o → Stores c { z with machine.device := e } o := by
  rintro j o c ⟨bytes, hstored, hfit, hbytes⟩
  exact ⟨bytes, Faithful.opened hstored a offset size flags j, hfit, hbytes⟩

/-- To unmap an object leaves what objects store. -/
theorem stores_closed (z : Site δ) (a : ObjectHandle) (ranges : List ByteRange) :
    (Device.closeMapping a ranges).Ends z.machine.device fun _ e =>
      ∀ o c, Stores c z o → Stores c { z with machine.device := e } o := by
  rintro j o c ⟨bytes, hstored, hfit, hbytes⟩
  exact ⟨bytes, ReadsBack.closed hstored a ranges j, hfit, hbytes⟩

theorem InVain.trans (h : InVain z t) (h' : InVain t y) : InVain z y := by
  obtain ⟨m, hb⟩ := h.buffer
  obtain ⟨m', hb'⟩ := h'.buffer
  have hsize : t.buffer.size = z.buffer.size := by rw [hb]
  have hl : t.buffer.locations = z.buffer.locations := by rw [hb]
  have hobject : t.buffer.object = z.buffer.object := by rw [hb]
  refine ⟨⟨m', by rw [hb', hb]⟩, fun m hm => (h'.shadow m hm).trans hsize, fun hs => ?_,
    fun o c ho hstored => ?_⟩
  · exact (h'.mirrored (by rw [hl]; exact hs)).trans (h.mirrored hs)
  · exact h'.stored o c (hobject.trans ho) (h.stored o c ho hstored)

section Hosted

variable [LendsFreely δ] (hroom : z.buffer.size ≤ Bytes.largestRun)

include hroom

/-- The shadow of a current object is loaded, or the attempt is in vain. -/
theorem refreshShadow_vain (h : InObject c c' w z) (hbase : z.buffer.mapBase = none) :
    refreshShadow.Ends z fun r y => y.buffer.shadow.isSome = true ∧
      ∀ f, r = .error f → InVain z y := by
  refine (refreshShadow_mirrors h.isEmpty_eq_false h.kept h.shadow).mono fun r y hy =>
    ⟨hy.reserved (lent_of_size hroom) h.backing, fun f hr => ?_⟩
  obtain ⟨hs, hl⟩ := hy.failed f hr
  obtain ⟨m, l, hb⟩ := hy.buffer
  refine ⟨⟨m, ?_⟩, hy.shadow, fun hs' => absurd (hs.symm.trans hs') Bool.false_ne_true, hy.stored⟩
  rw [hb] at hl ⊢
  rw [← hbase, show l = z.buffer.locations from hl]

/-- An object given up for good leaves a shadow. -/
theorem dropObject_shadow (h : InObject c c' w z) (hbase : z.buffer.mapBase = none) :
    dropObject.Ends z fun _ y => y.buffer.shadow.isSome = true := by
  intro j
  let x : Site δ := { z with buffer := { z.buffer with objectAllowed := false } }
  have hx : InObject c c' w x := { h with orderly := fun hw hc => { h.orderly hw hc with } }
  obtain ⟨o, ho, -⟩ := h.stored
  have hsome : x.buffer.object.isSome = true := Option.isSome_iff_exists.mpr ⟨o, ho⟩
  unfold dropObject
  rw [Step.wp_bind, wp_change]
  unfold vacate
  rw [Step.wp_bind, wp_current, Step.wp_ite, if_pos hsome, Step.wp_bind]
  unfold saveContent
  rw [Step.wp_bind, Attempt.wp_outcome]
  refine (refreshShadow_vain (z := x) hroom hx hbase).wp fun r y k ⟨hy, _⟩ => ?_
  have hend (k : Journal) := (removed_ends y).wp (j := k) fun _ t _ ⟨_, hshadow, _⟩ =>
    show t.buffer.shadow.isSome = true by rw [hshadow]; exact hy
  cases r with
  | ok _ => exact hend _
  | error f => exact hend _

/-- **The object is mapped, or the shadow is there instead, or the attempt is in vain.** -/
theorem openMapping_vain (h : InObject c c' w z) (hbase : z.buffer.mapBase = none)
    (flags : MapFlags) (r : ByteRange) : (openMapping flags r).Ends z fun a y =>
      (a = .ok () ∧ (y.buffer.mapBase.isSome = true ∨ y.buffer.shadow.isSome = true)) ∨
        ((∃ f, a = .error f) ∧ InVain z y) := by
  intro j
  obtain ⟨o, ho, -⟩ := h.stored
  have hcalled {e : δ} (he : ∀ o c, Stores c z o → Stores c { z with machine.device := e } o) :
      InVain z { z with machine.device := e } :=
    ⟨⟨z.buffer.shadow, by rw [← hbase]⟩, h.shadow, fun _ => rfl, fun o c _ => he o c⟩
  unfold openMapping
  rw [Attempt.wp_bind, Attempt.wp_always, wp_current]
  simp only [ho]
  rw [Attempt.wp_bind, wp_tryDevice]
  refine (stores_opened z _ _ _ _).wp fun a e k he => ?_
  cases a with
  | error f => exact .inr ⟨⟨f, rfl⟩, hcalled he⟩
  | ok position =>
    simp only [Attempt.wp_ite, Attempt.wp_always, wp_change]
    split
    · exact .inl ⟨trivial, .inl rfl⟩
    unfold mapWithoutObject
    simp only [Attempt.wp_bind, Attempt.wp_always, wp_current, Attempt.wp_note, wp_onDevice,
      wp_change]
    let u : Site δ := { z with machine.device := e }
    have hu : InVain z u := hcalled he
    refine (stores_closed u _ _).wp fun _ e' k he' => ?_
    -- the object is unmapped, and the buffer goes on without it
    let v : Site δ := ⟨{ z.buffer with mapBase := none }, { z.machine with device := e' }⟩
    have hv : InVain z v :=
      hu.trans ⟨⟨z.buffer.shadow, rfl⟩, h.shadow, fun _ => rfl, fun o c _ => he' o c⟩
    have hx : InObject c c' w v := h.after_vain hv
    rw [Attempt.wp_ite]
    split
    · simp only [Attempt.wp_bind, Attempt.wp_note, Attempt.wp_always]
      exact (dropObject_shadow (z := v) hroom hx rfl).wp fun _ y _ hy => .inl ⟨trivial, .inr hy⟩
    · simp only [Attempt.wp_bind, Attempt.wp_note, Attempt.wp_always]
      refine (refreshShadow_vain (z := v) hroom hx rfl).wp fun a y k hpost => ?_
      obtain ⟨hsome, hfail⟩ := hpost
      cases a with
      | error f => exact .inr ⟨⟨f, rfl⟩, hv.trans (hfail f rfl)⟩
      | ok _ =>
        simp only [wp_pinShadow, Attempt.wp_ite, Attempt.wp_always, wp_declareStaleIn,
          Attempt.wp_pure]
        split
        · exact .inl ⟨trivial, .inr hsome⟩
        · exact .inl ⟨trivial, .inr hsome⟩

end Hosted

/-- The object is claimed and mapped, or it stays as it was claimed. -/
theorem openClaimed_leaves [LendsFreely δ] (hroom : t.buffer.size ≤ Bytes.largestRun)
    (h : InObject c c' false t) (hcount : t.buffer.mapCount = 1)
    (hbase : t.buffer.mapBase = none) (flags : MapFlags) (r : ByteRange) :
    (openClaimed flags r).Ends t fun a y =>
      (a = .ok () ∧ (y.buffer.mapBase.isSome = true ∨ y.buffer.shadow.isSome = true)) ∨
        ((∃ f, a = .error f) ∧ InObject c c' (flags.has MapFlags.write) y ∧
          y.buffer.mapCount = 1) := by
  have hmap {z : Site δ} (hz : InObject c c' (flags.has MapFlags.write) z)
      (hzcount : z.buffer.mapCount = t.buffer.mapCount)
      (hzbase : z.buffer.mapBase = t.buffer.mapBase)
      (hzsize : z.buffer.size = t.buffer.size) : (openMapping flags r).Ends z fun a y =>
        (a = .ok () ∧ (y.buffer.mapBase.isSome = true ∨ y.buffer.shadow.isSome = true)) ∨
          ((∃ f, a = .error f) ∧ InObject c c' (flags.has MapFlags.write) y ∧
            y.buffer.mapCount = 1) := by
    refine (openMapping_vain (hzsize ▸ hroom) hz (hzbase.trans hbase) flags r).mono fun a y hy => ?_
    refine hy.imp_right fun hfailed => ⟨hfailed.1, hz.after_vain hfailed.2, ?_⟩
    obtain ⟨m, hb⟩ := hfailed.2.buffer
    rw [hb]
    exact hzcount.trans hcount
  intro j
  unfold openClaimed
  rw [Attempt.wp_bind, Attempt.wp_always]
  refine (claimObject_inObject h flags r).wp fun _ z k hpost => ?_
  obtain ⟨hz, hzcount, hzbase, hzsize⟩ := hpost
  have hone : (z.buffer.mapCount == 1) = true := by rw [hzcount, hcount, beq_self_eq_true]
  simp only [Attempt.wp_bind, Attempt.wp_always, wp_current, Attempt.wp_ite, hone, if_true]
  split
  · refine (giveUpShadow_inObject hz).wp fun _ y k hpost => ?_
    obtain ⟨hy, hycount, hybase, hysize⟩ := hpost
    exact hmap hy (hycount.trans hzcount) (hybase.trans hzbase) (hysize.trans hzsize) k
  · exact hmap hz hzcount hzbase hzsize k

/-! ## 4. A mapping that fails -/

/-- What a mapping of `s` that fails has left at `y`. -/
inductive Left {δ : Type} [Device δ] [Faithful δ] (c : ByteArray) (s : Site δ) (offset size : Nat)
    (flags : MapFlags) (j : Journal) (y : Site δ) : Prop where
  /-- It failed before the object was ready. -/
  | early (orderly : Orderly y.buffer.isConverted c y)
      (short : ∀ t, ¬ ReachesObject s offset size flags j t)
  /-- The object was ready, and the device did not map it. -/
  | late (t : Site δ) (c' : ByteArray) (reaches : ReachesObject s offset size flags j t)
      (ready : InObject c c' false t) (same : flags.has MapFlags.discard = false → c' = c)
      (claimed : InObject c c' (flags.has MapFlags.write) y)

/-- How many mappings are counted does not matter. -/
theorem Left.recounted (h : Left c s offset size flags j y) (n : Nat) :
    Left c s offset size flags j { y with buffer := { y.buffer with mapCount := n } } := by
  cases h with
  | early orderly short => exact .early { orderly with } short
  | late t c' reaches ready same claimed =>
    exact .late t c' reaches ready same (claimed.recounted n)

/-- What is mapped or in the shadow can be handed out. -/
theorem mapping?_of_storage {b : Buffer} (h : b.mapBase.isSome = true ∨ b.shadow.isSome = true)
    (offset size : Nat) : ∃ m, b.mapping? offset size = some m := by
  unfold Buffer.mapping?
  cases hbase : b.mapBase with
  | some base => exact ⟨_, rfl⟩
  | none =>
    rw [hbase] at h
    exact ⟨_, if_pos (h.resolve_left nofun)⟩

/-- What is opened is handed out. -/
theorem handOut_opened {δ : Type} {z : Site δ}
    (h : z.buffer.mapBase.isSome = true ∨ z.buffer.shadow.isSome = true) (offset size : Nat) :
    (handOut offset size).Ends z fun a _ => ∃ m, a = .ok m := by
  obtain ⟨m, hm⟩ := mapping?_of_storage h offset size
  exact (handOut_some hm).mono fun a _ ha => ⟨m, ha.1⟩

/-- The shadow is opened, or nothing is out of order. -/
theorem openShadow_leaves (h : Orderly s.buffer.isConverted c s) (flags : MapFlags)
    (r : ByteRange) : (openShadow flags r).Ends s fun a y =>
      (a = .ok () ∧ y.buffer.shadow.isSome = true) ∨
        ((∃ f, a = .error f) ∧ Orderly y.buffer.isConverted c y ∧
          y.buffer.mapCount = s.buffer.mapCount) := by
  intro j
  unfold openShadow
  rw [Attempt.wp_bind]
  refine (refreshShadow_orderly h).wp fun a y k ⟨hy, hm, hok⟩ => ?_
  obtain ⟨m, l, hb⟩ := hm.buffer
  have hconv : y.buffer.isConverted = s.buffer.isConverted := by rw [hb]; rfl
  have hcount : y.buffer.mapCount = s.buffer.mapCount := by rw [hb]
  cases a with
  | error f =>
    rw [← hconv] at hy
    exact .inr ⟨⟨f, rfl⟩, hy, hcount⟩
  | ok _ =>
    have hsome : y.buffer.shadow.isSome = true := by
      rw [hy.mirrored (hok rfl), Option.isSome_some]
    simp only [Attempt.wp_ite, Attempt.wp_always, wp_declareStaleIn, Attempt.wp_pure]
    split
    · exact .inl ⟨trivial, hsome⟩
    · exact .inl ⟨trivial, hsome⟩

section Hosted

variable [LendsFreely δ] (hosted : ∀ t, ReachesObject s offset size flags j t →
  s.buffer.size ≤ Bytes.largestRun)

include hosted

/-- **A mapping that is prepared and not had leaves what `Left` says.** -/
theorem mapPrepared_leaves (h : Rests c s) (hfit : s.buffer.holds offset size = true) :
    (mapPrepared offset size flags).wp s.counted j fun a y _ => ∀ f, a = .error f →
      Left c s offset size flags j y ∧ y.buffer.mapCount = s.buffer.mapCount + 1 := by
  have hx : Orderly s.counted.buffer.isConverted c s.counted := { h.toOrderly with }
  have hout {z : Site δ} {P : Site δ → Prop}
      (hz : z.buffer.mapBase.isSome = true ∨ z.buffer.shadow.isSome = true) (j : Journal) :
      (handOut offset size).wp z j fun a y _ => ∀ f, a = .error f → P y :=
    (handOut_opened hz offset size).wp fun a _ _ hopened f hf => by
      obtain ⟨m, hm⟩ := hopened
      cases hm.symm.trans hf
  rw [mapPrepared_eq]
  simp only [Attempt.wp_bind, Attempt.wp_always, wp_current, Attempt.wp_ite]
  split
  · rename_i hshadow
    refine (openShadow_leaves hx flags _).wp fun a y k hy => ?_
    rcases hy with ⟨rfl, hsome⟩ | ⟨⟨f, rfl⟩, hy, hcount⟩
    · exact hout (.inr hsome) k
    · exact fun _ _ => ⟨.early hy fun t ht =>
        Bool.false_ne_true (ht.inObject.symm.trans hshadow), hcount⟩
  · rename_i hobject
    rw [Bool.not_eq_true] at hobject
    have hplain : s.buffer.isConverted = false := by
      cases hk : s.buffer.isConverted with
      | false => rfl
      | true =>
        exact absurd ((mapsShadow_eq_false hobject).1.symm.trans (h.backed hk)) Bool.false_ne_true
    have hx' : Orderly false c s.counted := by
      rw [show s.counted.buffer.isConverted = false from hplain] at hx
      exact hx
    rw [openObject_eq, Attempt.wp_bind]
    refine ((readyObject_ends hx' hplain).and ((readyObject_held flags s.counted).and
      (readyObject_size flags s.counted))).wp_run fun a t i hrun hpost => ?_
    obtain ⟨ha, ⟨hcount, hbase⟩, hsize⟩ := hpost
    cases a with
    | error f =>
      refine fun _ _ => ⟨.early ?_ fun t' ht' => ?_, hcount⟩
      · rw [ha.2]
        exact ha.1
      · obtain ⟨i', hi'⟩ := ht'.ready
        cases congrArg (fun p => p.1.1) (hrun.symm.trans hi')
    | ok _ =>
      obtain ⟨c', ht, hsame⟩ := ha
      have hone : t.buffer.mapCount = 1 := by
        rw [hcount]
        show s.buffer.mapCount + 1 = 1
        rw [h.unmapped]
      have hreaches : ReachesObject s offset size flags j t := ⟨hfit, hobject, i, hrun⟩
      have hroom : t.buffer.size ≤ Bytes.largestRun := hsize ▸ hosted t hreaches
      refine (openClaimed_leaves hroom ht hone (hbase.trans h.baseless) flags _).wp
        fun a y k hy => ?_
      rcases hy with ⟨rfl, hsome⟩ | ⟨⟨f, rfl⟩, hy, hycount⟩
      · exact hout hsome k
      · refine fun _ _ => ⟨.late t c' hreaches ht hsame hy, ?_⟩
        rw [hycount, h.unmapped]

/-- A mapping that fails is not counted, and leaves what `Left` says. -/
theorem map_leaves (h : Rests c s) : (map offset size flags).wp s j fun a y _ =>
    ∀ f, a = .error f →
      Left c s offset size flags j y ∧ y.buffer.mapCount = s.buffer.mapCount := by
  unfold map
  rw [Attempt.wp_bind, Attempt.wp_always, wp_current]
  dsimp only
  rw [Attempt.wp_ite]
  split
  · rename_i hout
    rw [Attempt.wp_refuse]
    refine fun _ _ => ⟨.early h.toOrderly fun t ht => ?_, rfl⟩
    rw [ht.fits] at hout
    cases hout
  · rename_i hfit
    rw [Bool.not_eq_true', Bool.not_eq_false] at hfit
    simp only [Attempt.wp_bind, Attempt.wp_always, wp_change, Attempt.wp_outcome]
    refine (mapPrepared_leaves hosted h hfit).mono fun a y k hy => ?_
    cases a with
    | ok m => exact fun _ h => absurd h.symm (Failure.ne_ok _ _)
    | error f =>
      obtain ⟨hleft, hcount⟩ := hy f rfl
      simp only [Attempt.wp_bind, Attempt.wp_always, wp_change, Attempt.wp_throw]
      refine fun _ _ => ⟨hleft.recounted _, ?_⟩
      rw [hcount, Nat.add_sub_cancel]

end Hosted

/-- **A mapping that fails is harmless exactly where it claimed nothing.** The device is any device
    that is faithful, the buffer any buffer of which nothing is mapped, and any call may fail; host
    memory does not run out, and one run of it can hold a buffer whose object gets ready. A failed
    mapping is not counted. Unless the content may be thrown away, every current copy stands for it
    still, and it can be read. And what the object lacks is recorded as before, unless the object
    was made ready for a mapping for writing, or with bytes that are not the content: then the
    object stays claimed, and counts as changed while it is current. -/
theorem map_failure_harmless_iff [LendsFreely δ] (h : Rests c s)
    (hosted : ∀ t, ReachesObject s offset size flags j t → s.buffer.size ≤ Bytes.largestRun)
    {f : Failure} {i : Journal}
    (hrun : (map offset size flags).run s j = ((.error f, y), i)) :
    y.buffer.mapCount = s.buffer.mapCount ∧
      (flags.has MapFlags.discard = false → Preserves c y) ∧
      (Harmless c y ↔ ∀ t, ReachesObject s offset size flags j t →
        flags.has MapFlags.write = false ∧ ∃ o, t.buffer.object = some o ∧ Stores c t o) := by
  have hleaves : (map offset size flags).wp s j fun a y _ => ∀ f, a = .error f →
      Left c s offset size flags j y ∧ y.buffer.mapCount = s.buffer.mapCount :=
    map_leaves hosted h
  unfold Attempt.wp Step.wp at hleaves
  rw [hrun] at hleaves
  obtain ⟨hleft, hcount⟩ := hleaves f rfl
  refine ⟨hcount, ?_⟩
  cases hleft with
  | early orderly short =>
    have hy := orderly.harmless
    exact ⟨fun _ => hy.toPreserves, fun _ t ht => absurd ht (short t), fun _ => hy⟩
  | late t c' reaches ready same claimed =>
    refine ⟨fun hd => ?_, claimed.harmless_iff.trans ⟨?_, fun hall => ?_⟩⟩
    · rw [same hd] at claimed
      exact claimed.preserves
    · rintro ⟨hw, rfl⟩ t' ht'
      rw [← reaches.unique ht']
      exact ⟨hw, ready.stored⟩
    · obtain ⟨hw, o, ho, hstored⟩ := hall t reaches
      obtain ⟨o', ho', hstored'⟩ := ready.stored
      cases ho.symm.trans ho'
      exact ⟨hw, hstored'.unique hstored⟩

/-! ## 5. Buffers that are met -/

/-- A buffer of the memory device that is idle rests. -/
theorem rests_of_idle {s : Site MemoryDevice} (h : Idle c s) : Rests c s where
  toAgrees := agrees_of_coherent h.toCoherent
  spanned := h.spanned
  spans := h.spans
  present hg := copies_object_isSome.symm.trans (h.present hg)
  complete := h.complete
  lacking hk hkind hg o ho := by
    have hobject : s.copies.object = some ⟨o.handle, o.offset⟩ := by
      show s.buffer.object.map _ = _
      rw [ho]
      rfl
    obtain ⟨hoff, b, hb, hsize, -⟩ := h.object _ hobject
    have hfirst : o.offset = 0 := hoff
    have hbytes : s.machine.device.bytes? o.handle = some b := by
      rw [← hb]
      show _ = s.buffer.object.bind _
      rw [ho, Option.bind_some]
    refine ⟨b, hbytes, ?_, fun i _ hi => ?_⟩
    · rw [hfirst, Nat.zero_add]
      exact Nat.le_of_eq hsize.symm
    · rw [hfirst, Nat.zero_add]
      exact h.stale b hb hg hk hkind i hi
  backed := h.backed
  unmapped := h.unmapped
  baseless := h.baseless

/-- Objects of a memory device are in host memory, which can hold a shadow as well. -/
theorem ReachesObject.hosted {s t : Site MemoryDevice} (ht : ReachesObject s offset size flags j t)
    (h : Rests c s) : s.buffer.size ≤ Bytes.largestRun := by
  have hplain : s.counted.buffer.isConverted = false := by
    cases hk : s.buffer.isConverted with
    | false => exact hk
    | true =>
      exact absurd ((mapsShadow_eq_false ht.inObject).1.symm.trans (h.backed hk)) Bool.false_ne_true
  have hx : Orderly false c s.counted := by
    have hx : Orderly s.counted.buffer.isConverted c s.counted := { h.toOrderly with }
    rw [hplain] at hx
    exact hx
  obtain ⟨i, hi⟩ := ht.ready
  obtain ⟨⟨c', hc', -⟩, hsize⟩ :=
    ((readyObject_ends hx hplain).and (readyObject_size flags s.counted)).of_run hi
  obtain ⟨o, -, bytes, hstored, hfit, -⟩ := hc'.stored
  have hbytes := MemoryDevice.size_le_largestRun hstored
  have hsame : t.buffer.size = s.buffer.size := hsize
  omega

/-- What an object stores on a memory device, its twin stores. -/
theorem Stores.twin {m : Footing} {s : Site MemoryDevice} {t : Site VulkanDevice} {o : BufferObject}
    (h : Stores c s o) (ht : Twin m s t) : Stores c t o := by
  obtain ⟨bytes, hstored, hfit, hbytes⟩ := h
  rw [← ht.buffer] at hfit hbytes
  exact ⟨bytes, ht.machines.devices.stores hstored, hfit, hbytes⟩

/-- **The twin of a buffer that rests is at rest**, on the Vulkan device. -/
theorem Rests.twin {m : Footing} {s : Site MemoryDevice} {t : Site VulkanDevice}
    (h : Rests c s) (ht : Twin m s t) : Rests c t := by
  have hstores {o : BufferObject} {c : ByteArray} (hs : Stores c s o) : Stores c t o := hs.twin ht
  have hb := ht.buffer
  have hdevices := ht.machines.devices
  obtain ⟨b, w⟩ := t
  cases hb
  exact { h with
    stored := fun hg hk => by
      obtain ⟨o, ho, hs⟩ := h.stored hg hk
      exact ⟨o, ho, hstores hs⟩
    lacking := fun hk hkind hg o ho => by
      obtain ⟨bytes, hstored, hrest⟩ := h.lacking hk hkind hg o ho
      exact ⟨bytes, hdevices.stores hstored, hrest⟩ }

/-- A buffer that has its content in an object, and nothing mapped, rests. -/
theorem rests_of_current (h : Agrees false c s) (hplain : s.buffer.isConverted = false)
    (hg : s.buffer.locations.has Location.gpuObject = true)
    (hspanned : s.buffer.dirty.size = s.buffer.size)
    (hclean : s.buffer.dirty.isPending = false) (hcount : s.buffer.mapCount = 0)
    (hbase : s.buffer.mapBase.isNone = true) : Rests c s := by
  have ho : Orderly false c s := { h with
    spanned := hspanned
    spans := by
      intro r hr
      rw [DirtySpans.isPending_eq_false.mp hclean] at hr
      cases hr
    present := fun _ => by
      obtain ⟨o, ho, -⟩ := h.stored hg nofun
      rw [ho, Option.isSome_some]
    complete := fun _ => hclean
    lacking := fun _ _ hno => absurd (hno.symm.trans hg) Bool.false_ne_true }
  rw [← hplain] at ho
  exact ⟨ho, fun hk => absurd (hplain.symm.trans hk) Bool.false_ne_true, hcount,
    Option.isNone_iff_eq_none.mp hbase⟩

/-- Where the object is current already, it is ready as it is. -/
theorem ReachesObject.of_current {δ : Type} [Device δ] {s t : Site δ}
    (h : ReachesObject s offset size flags j t)
    (hg : s.buffer.locations.has Location.gpuObject = true)
    (hd : flags.has MapFlags.discard = false) : t = s.counted := by
  obtain ⟨i, hi⟩ := h.ready
  unfold readyObject at hi
  rw [hd, if_neg Bool.false_ne_true] at hi
  exact (refreshObject_current (s := s.counted) hg).of_run hi

end BufferCoherence.Site

namespace BufferCoherence

/-- The buffer of a run of complete operations rests, and so does its twin on a Vulkan device. -/
theorem run_rests {m : Machine MemoryDevice} {request : BufferRequest} {data : Option ByteArray}
    {settings : Settings} {past : List Happening} {s : Site MemoryDevice}
    (h : Run m request data settings past s) :
    ∃ c, Explained (firstContent request.size data) past c ∧ Site.Rests c s ∧
      ∀ k t, Twin k s t → Site.Rests c t := by
  obtain ⟨c, hc, hi⟩ := run_idle h
  have hs := Site.rests_of_idle hi
  exact ⟨c, hc, hs, fun _ _ ht => hs.twin ht⟩

open Site in
/-- A buffer on a Vulkan device whose memory the host does not reach. -/
theorem rests_out_of_reach : ∃ s : Site VulkanDevice,
    Tenancy (.new (.new ⟨.new, 0⟩ .modern)) ⟨4, ∅, BindFlags.vertexBuffer, Access.gpu, 0⟩
      (some ⟨#[1, 2, 3, 4]⟩) {} [] s ∧
    Rests ⟨#[1, 2, 3, 4]⟩ s ∧ s.buffer.locations = Location.gpuObject ∧
    ((map 0 4 MapFlags.read).run s (.empty .error)).1.1.toOption.isNone = true := by
  have h₀ := Tenancy.first (.new (VulkanDevice.new ⟨.new, 0⟩ .modern))
    ⟨4, ∅, BindFlags.vertexBuffer, Access.gpu, 0⟩ (some ⟨#[1, 2, 3, 4]⟩) {} (.empty .error)
    (Option.some_get (by decide +kernel)).symm
  refine ⟨_, h₀, rests_of_current (agrees_of_tables ?_ ?_ ?_ ?_ false) ?_ ?_ ?_ ?_ ?_ ?_, ?_, ?_⟩
  all_goals decide +kernel

open Site in
/-- A buffer of zeroes on a device that makes no object, where a mapping past the shadow fails. -/
theorem zeroes_out_of_reach : ∃ (past : List Happening) (s : Site MemoryDevice),
    Run (.new { MemoryDevice.new .modern with refusesObjects := true })
      ⟨4, ∅, BindFlags.vertexBuffer, Access.gpu, 0⟩ none {} past s ∧
    s.buffer.locations = Location.cleared ∧ s.buffer.size = 4 ∧
    ((map 0 4 (MapFlags.write ∪ MapFlags.noOverwrite)).run s
      (.empty .error)).1.1.toOption.isNone = true := by
  have h₀ := Run.first (.new { MemoryDevice.new .modern with refusesObjects := true })
    ⟨4, ∅, BindFlags.vertexBuffer, Access.gpu, 0⟩ none {} (.empty .error)
    (Option.some_get (by decide +kernel)).symm
  refine ⟨_, _, h₀, ?_, ?_, ?_⟩
  all_goals decide +kernel

open Site in
/-- A read of memory that the host does not reach fails, and nothing is lost; nor is it where an
    object for zeroes is refused. -/
theorem refused_read_harmless :
    (∃ (s y : Site VulkanDevice) (f : Failure) (i : Journal),
      Tenancy (.new (.new ⟨.new, 0⟩ .modern)) ⟨4, ∅, BindFlags.vertexBuffer, Access.gpu, 0⟩
        (some ⟨#[1, 2, 3, 4]⟩) {} [] s ∧
      Rests ⟨#[1, 2, 3, 4]⟩ s ∧
      (map 0 4 MapFlags.read).run s (.empty .error) = ((.error f, y), i) ∧
      y.buffer.mapCount = s.buffer.mapCount ∧ Preserves ⟨#[1, 2, 3, 4]⟩ y ∧
      Harmless ⟨#[1, 2, 3, 4]⟩ y) ∧
    ∃ (past : List Happening) (s y : Site MemoryDevice) (f : Failure) (i : Journal),
      Run (.new { MemoryDevice.new .modern with refusesObjects := true })
        ⟨4, ∅, BindFlags.vertexBuffer, Access.gpu, 0⟩ none {} past s ∧
      (map 0 4 (MapFlags.write ∪ MapFlags.noOverwrite)).run s (.empty .error) =
        ((.error f, y), i) ∧
      y.buffer.mapCount = s.buffer.mapCount ∧ Preserves (Bytes.zeros 4) y := by
  constructor
  · obtain ⟨s, h₀, hrests, hl, hfails⟩ := rests_out_of_reach
    obtain ⟨f, y, i, hrun⟩ := Attempt.eq_error _ _ _ (Option.isNone_iff_eq_none.mp hfails)
    have hroom : s.buffer.size ≤ Bytes.largestRun := hrests.size ▸ (by decide)
    obtain ⟨hcount, hpreserves, hiff⟩ := map_failure_harmless_iff hrests (fun _ _ => hroom) hrun
    refine ⟨s, y, f, i, h₀, hrests, hrun, hcount, hpreserves rfl, hiff.mpr fun t ht => ⟨rfl, ?_⟩⟩
    have hg : s.buffer.locations.has Location.gpuObject = true := by rw [hl]; rfl
    obtain ⟨o, ho, hstored⟩ := hrests.stored hg fun _ => by rw [hl]; rfl
    rw [ht.of_current hg rfl]
    exact ⟨o, ho, hstored⟩
  · obtain ⟨past, s, h₀, hl, hsize, hfails⟩ := zeroes_out_of_reach
    obtain ⟨f, y, i, hrun⟩ := Attempt.eq_error _ _ _ (Option.isNone_iff_eq_none.mp hfails)
    obtain ⟨c, -, hrests, -⟩ := run_rests h₀
    obtain ⟨hcount, hpreserves, -⟩ :=
      map_failure_harmless_iff hrests (fun _ ht => ht.hosted hrests) hrun
    have hzero : c = Bytes.zeros 4 := hsize ▸ hrests.cleared (by rw [hl]; rfl)
    exact ⟨past, s, y, f, i, h₀, hrun, hcount, hzero ▸ hpreserves rfl⟩

open Site in
/-- To map memory for writing that the host does not reach fails as well, and the object stays
    claimed. It counts as changed although it is current, and where the content was to be thrown
    away, it is gone: the object stands for older bytes. -/
theorem refused_write_leaves_claim :
    (∃ s : Site VulkanDevice,
      Tenancy (.new (.new ⟨.new, 0⟩ .modern)) ⟨4, ∅, BindFlags.vertexBuffer, Access.gpu, 0⟩
        (some ⟨#[1, 2, 3, 4]⟩) {} [] s ∧
      s.buffer.dirty.isPending = false ∧
      let a := (map 0 4 (MapFlags.write ∪ MapFlags.noOverwrite)).run s (.empty .error)
      a.1.1.toOption.isNone = true ∧ a.1.2.buffer.mapCount = 0 ∧
        a.1.2.buffer.locations = Location.gpuObject ∧
        a.1.2.buffer.dirty.isPending = true) ∧
    (∃ s : Site VulkanDevice,
      Tenancy (.new (.new ⟨.new, 0⟩ .modern)) ⟨4, ∅, BindFlags.vertexBuffer, Access.gpu, 0⟩
        (some ⟨#[1, 2, 3, 4]⟩) {} [] s ∧
      (content.run s (.empty .error)).1.1.toOption = some ⟨#[9, 2, 3, 4]⟩ ∧
      let a := (map 0 4 (MapFlags.write ∪ MapFlags.discard)).run s (.empty .error)
      a.1.1.toOption.isNone = true ∧ a.1.2.buffer.mapCount = 0 ∧
        a.1.2.buffer.locations = Location.gpuObject ∧
        (content.run a.1.2 (.empty .error)).1.1.toOption = some ⟨#[1, 2, 3, 4]⟩) := by
  have h₀ := Tenancy.first (.new (VulkanDevice.new ⟨.new, 0⟩ .modern))
    ⟨4, ∅, BindFlags.vertexBuffer, Access.gpu, 0⟩ (some ⟨#[1, 2, 3, 4]⟩) {} (.empty .error)
    (Option.some_get (by decide +kernel)).symm
  have hnone {s : Site VulkanDevice} {c : Call} :
      ([] : List Mapping) ≠ [] → c.Spares s.buffer s.buffer.mapped := fun h => absurd rfl h
  have h₁ := h₀.call (.complete (.write 0 ⟨#[9]⟩ MapFlags.write)) hnone (.empty .error)
  exact ⟨⟨_, h₀, by decide +kernel⟩, _, h₁, by decide +kernel⟩

end BufferCoherence
