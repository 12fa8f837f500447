import BufferCoherence.Proofs.Refresh

/-!
# Where the bytes of a buffer are

Making a copy current keeps the copies coherent, and settled where they were (`Keeps`). The copy
that is answered for holds the content:

* `authoritative_ends`: an address is answered, and it answers for the content (`AnswersFor`);
* `content_ends`: the bytes of a buffer are its content. The only failure is that of a buffer that
  nothing was written to, and that cannot get storage for its zeroes.
-/

namespace BufferCoherence

/-! ## 1. Addresses -/

namespace Buffer

theorem object_of_currentObject {b : Buffer} {o : BufferObject}
    (h : b.currentObject = some o) : b.object = some o := by
  unfold Buffer.currentObject at h
  split at h
  · exact h
  · cases h

/-- An address in an object is that of the buffer's own. -/
theorem object_of_address? {b : Buffer} {handle : ObjectHandle} {offset : Nat}
    (h : b.address? = some (.object handle offset)) :
    ∃ o, b.object = some o ∧ o.handle = handle ∧ o.offset = offset := by
  unfold Buffer.address? at h
  split at h
  · cases h
  · split at h
    · rename_i o ho
      cases h
      exact ⟨o, object_of_currentObject ho, rfl, rfl⟩
    · split at h <;> cases h

end Buffer

namespace Site

variable {s t : Site MemoryDevice} {k : Bool} {c : ByteArray} {j : Journal}

/-! ## 2. What is kept -/

theorem settled_mirrored {v : Copies} (h : Settled k c v) (hroom : v.size ≤ Bytes.largestRun) :
    Settled k c (v.mirrored c) :=
  { h.toCoherent.mirror hroom with
    complete := fun hg => h.complete (by simpa [Copies.mirrored] using hg)
    lacking := fun ho hg => h.lacking ho (by simpa [Copies.mirrored] using hg) }

theorem settled_refused (h : Coherent k c s.copies) (hobj : s.buffer.object = none) :
    Settled k c s.refused :=
  { coherent_refused h hobj with
    complete := fun _ => DirtySpans.isPending_clear _
    lacking := fun ho => by
      rw [show s.refused.object = s.copies.object from rfl, copies_object_isSome, hobj] at ho
      cases ho }

/-- What one attempt to make a copy current keeps, whether it fails or not. -/
structure Keeps (c : ByteArray) (s t : Site MemoryDevice) : Prop where
  frame : t.frame = s.frame
  spares : Spares s t
  coherent : Coherent s.buffer.isConverted c t.copies
  settled : Settled s.buffer.isConverted c s.copies → Settled s.buffer.isConverted c t.copies
  size : t.buffer.size = s.buffer.size
  kind : t.buffer.backend.kind = s.buffer.backend.kind
  pinned : s.buffer.pinned = true → t.buffer.pinned = true
  unpinned : s.buffer.isConverted = false → t.buffer.pinned = true → s.buffer.pinned = true
  object : s.buffer.object.isSome = true → t.copies.object = s.copies.object

theorem Keeps.refl (h : Coherent s.buffer.isConverted c s.copies) : Keeps c s s :=
  ⟨rfl, .refl s, h, id, rfl, rfl, id, fun _ => id, fun _ => rfl⟩

theorem Keeps.trans {u : Site MemoryDevice} (h₁ : Keeps c s t) (h₂ : Keeps c t u) :
    Keeps c s u where
  frame := h₂.frame.trans h₁.frame
  spares := h₁.spares.trans h₂.spares
  coherent := by
    rw [← isConverted_eq h₁.frame]
    exact h₂.coherent
  settled hs := by
    have hst := h₁.settled hs
    rw [← isConverted_eq h₁.frame] at hst ⊢
    exact h₂.settled hst
  size := h₂.size.trans h₁.size
  kind := h₂.kind.trans h₁.kind
  pinned h := h₂.pinned (h₁.pinned h)
  unpinned hk h := h₁.unpinned hk (h₂.unpinned ((isConverted_eq h₁.frame).trans hk) h)
  object ho := by
    rw [← h₁.object ho]
    refine h₂.object ?_
    rw [← copies_object_isSome, h₁.object ho, copies_object_isSome]
    exact ho

/-- What is kept is coherent in its own right. -/
theorem Keeps.coherent' (h : Keeps c s t) : Coherent t.buffer.isConverted c t.copies := by
  rw [isConverted_eq h.frame]
  exact h.coherent

/-- The shadow of a buffer made current. -/
theorem refreshShadow_keeps (h : Coherent s.buffer.isConverted c s.copies) :
    refreshShadow.Ends s fun r y => Keeps c s y ∧
      ((r = .ok () ∧ y.copies = s.copies.mirrored c) ∨
        ((∃ f, r = .error f) ∧ y = s ∧ Bytes.largestRun < s.buffer.size)) := by
  refine (refreshShadow_ends h).mono fun r y hy => ?_
  rcases hy with ⟨rfl, hroom, hcopies, hframe, hobj, hd⟩ | ⟨hr, rfl, hlarge⟩
  · have hpinned : y.buffer.pinned = s.buffer.pinned := congrArg Copies.pinned hcopies
    refine ⟨⟨hframe, .of_untouched hd hobj, ?_, fun hs => ?_, congrArg Copies.size hcopies,
      congrArg Copies.kind hcopies, hpinned.trans, fun _ => hpinned.symm.trans,
      fun _ => by rw [hcopies]; rfl⟩, .inl ⟨rfl, hcopies⟩⟩
    · rw [hcopies]
      exact h.mirror hroom
    · rw [hcopies]
      exact settled_mirrored hs hroom
  · exact ⟨.refl h, .inr ⟨hr, rfl, hlarge⟩⟩

/-- What the load leaves is settled. -/
theorem settled_loaded {v : Copies} {map : Option ConversionMap} {dynamic : Bool}
    {new : ByteArray} (h : Coherent map.isSome c (v.loaded map.isSome dynamic c new)) :
    Settled map.isSome c (v.loaded map.isSome dynamic c new) := by
  have hl := Copies.loadedFrom_loaded v map.isSome dynamic c new
  refine { h with complete := fun _ => ?_, lacking := fun _ hg => ?_ }
  · rw [hl.dirty]
    exact DirtySpans.isPending_clear _
  · rw [hl.current] at hg
    cases hg

/-- An object that is refused leaves the copies as settled as they were. -/
theorem keeps_of_refused {y : Site MemoryDevice} (h : Coherent s.buffer.isConverted c s.copies)
    (hframe : y.frame = s.frame) (hsp : Spares s y)
    (hy : y.copies = s.copies ∨ (s.buffer.object = none ∧ y.copies = s.refused)) :
    Keeps c s y ∧
      y.buffer.locations.has Location.cleared = s.buffer.locations.has Location.cleared := by
  rcases hy with hy | ⟨hobj, hy⟩
  · refine ⟨⟨hframe, hsp, ?_, fun hs => ?_, congrArg Copies.size hy, congrArg Copies.kind hy,
      (congrArg Copies.pinned hy).trans, fun _ => (congrArg Copies.pinned hy).symm.trans,
      fun _ => congrArg Copies.object hy⟩, ?_⟩
    · rw [hy]
      exact h
    · rw [hy]
      exact hs
    · rw [show y.buffer.locations = _ from congrArg Copies.locations hy]
      rfl
  · refine ⟨⟨hframe, hsp, ?_, fun _ => ?_, congrArg Copies.size hy, congrArg Copies.kind hy,
      (congrArg Copies.pinned hy).trans, fun _ => (congrArg Copies.pinned hy).symm.trans,
      fun _ => by rw [hy]; rfl⟩, ?_⟩
    · rw [hy]
      exact coherent_refused h hobj
    · rw [hy]
      exact settled_refused h hobj
    · rw [show y.buffer.locations = _ from congrArg Copies.locations hy]
      rfl

/-- **The object of a buffer made current**, unless there is none to be had. -/
theorem refreshObject_keeps (h : Coherent s.buffer.isConverted c s.copies) :
    refreshObject.Ends s fun r y => Keeps c s y ∧
      y.buffer.locations.has Location.cleared = s.buffer.locations.has Location.cleared ∧
      ((r = .ok () ∧ y.buffer.locations.has Location.gpuObject = true ∧
          (s.buffer.locations.has Location.gpuObject = true → y = s) ∧
          y.buffer.objectAllowed = s.buffer.objectAllowed ∧
          (s.buffer.locations.has Location.gpuObject = false →
            Settled s.buffer.isConverted c y.copies ∧
              (s.buffer.isConverted = true → y.buffer.pinned = true))) ∨
        ((∃ f, r = .error f) ∧ s.buffer.locations.has Location.gpuObject = false ∧
          ¬ Reservable s ∧
          (y.copies = s.copies ∨ (s.buffer.object = none ∧ y.copies = s.refused)))) := by
  refine (refreshObject_ends h).mono fun r y ⟨hframe, hsp, hy⟩ => ?_
  rcases hy with ⟨rfl, hg, rfl⟩ | ⟨hr, hg, hno, hy⟩ |
    ⟨rfl, hg, hres, v, old, new, hv, hold, hnew, hy⟩
  · exact ⟨.refl h, rfl, .inl ⟨rfl, hg, fun _ => rfl, rfl, fun hg' =>
      absurd (hg.symm.trans hg') nofun⟩⟩
  · obtain ⟨hkeeps, hcleared⟩ := keeps_of_refused h hframe hsp hy
    exact ⟨hkeeps, hcleared, .inr ⟨hr, hg, hno, hy⟩⟩
  · -- the copies before the load are those at first, or those with a new object
    have hvc : Coherent s.buffer.isConverted c v ∧ v.object.isSome = true ∧ v.size = s.buffer.size ∧
        v.kind = s.buffer.backend.kind ∧ v.pinned = s.buffer.pinned ∧
        v.locations = s.buffer.locations ∧ v.objectAllowed = s.buffer.objectAllowed ∧
        (s.buffer.object.isSome = true → v.object = s.copies.object) := by
      rcases hv with ⟨hobj, rfl⟩ | ⟨hobj, rfl⟩
      · exact ⟨h, copies_object_isSome.trans hobj, rfl, rfl, rfl, rfl, rfl, fun _ => rfl⟩
      · refine ⟨coherent_equipped h hobj hres, rfl, rfl, rfl, rfl, rfl, rfl, fun ho => ?_⟩
        rw [hobj] at ho
        cases ho
    obtain ⟨hco, hvobj, hvsize, hvkind, hvpin, hvloc, hvallowed, hvobject⟩ := hvc
    have hl := Copies.loadedFrom_loaded v s.buffer.isConverted s.buffer.isDynamic c new
    have hset : Settled s.buffer.isConverted c
        (v.loaded s.buffer.isConverted s.buffer.isDynamic c new) :=
      settled_loaded (hco.loaded id (by rw [hvloc]; exact hg) hvobj
        (by rw [hvkind]; exact hres.1) hold hnew _)
    rw [← hy] at hl hset
    have hpinned : y.buffer.pinned = (s.buffer.pinned || s.buffer.isConverted) :=
      hl.pinned.trans (by rw [hvpin])
    refine ⟨⟨hframe, hsp, hset.toCoherent, fun _ => hset, hl.size.trans hvsize,
      hl.kind.trans hvkind, fun hp => ?_, fun hk hp => ?_, fun ho => hl.object.trans (hvobject ho)⟩,
      hl.cleared.trans (by rw [hvloc]), .inl ⟨rfl, hl.current,
      fun hg' => absurd (hg.symm.trans hg') nofun, hl.objectAllowed.trans hvallowed,
      fun _ => ⟨hset, fun hconv => ?_⟩⟩⟩
    · rw [hpinned, hp, Bool.true_or]
    · rw [hpinned, hk, Bool.or_false] at hp
      exact hp
    · rw [hpinned, hconv, Bool.or_true]

/-! ## 3. Some copy, and its address -/

/-- A buffer that host memory cannot hold has no object, and gets none. -/
theorem not_reservable_of_large (h : Coherent k c s.copies)
    (hlarge : Bytes.largestRun < s.buffer.size) :
    s.buffer.locations.has Location.gpuObject = false ∧ ¬ Reservable s := by
  have hobj : ¬ s.buffer.object.isSome = true := fun ho =>
    Nat.not_le_of_lt hlarge (h.room_of_object (copies_object_isSome.trans ho))
  constructor
  · cases hg : s.buffer.locations.has Location.gpuObject with
    | false => rfl
    | true => exact absurd (copies_object_isSome.symm.trans (h.present hg)) hobj
  · rintro ⟨-, ho | ⟨-, hroom, -⟩⟩
    · exact hobj ho
    · exact Nat.not_le_of_lt hlarge hroom

/-- Some copy made current: the object, or the shadow where there will be no object. -/
theorem refreshSomewhere_keeps (h : Coherent s.buffer.isConverted c s.copies) :
    refreshSomewhere.Ends s fun r y => Keeps c s y ∧
      ((r = .ok () ∧ (y.buffer.locations.has Location.sysmem = true ∨
          y.buffer.locations.has Location.gpuObject = true)) ∨
        ((∃ f, r = .error f) ∧ s.buffer.locations.has Location.gpuObject = false ∧
          ¬ Reservable s)) := by
  have hshadow {t : Site MemoryDevice} (ht : Keeps c s t) : refreshShadow.Ends t fun r y =>
      Keeps c s y ∧ ((r = .ok () ∧ (y.buffer.locations.has Location.sysmem = true ∨
          y.buffer.locations.has Location.gpuObject = true)) ∨
        ((∃ f, r = .error f) ∧ s.buffer.locations.has Location.gpuObject = false ∧
          ¬ Reservable s)) := by
    refine (refreshShadow_keeps ht.coherent').mono fun r y hy => ⟨ht.trans hy.1, ?_⟩
    rcases hy.2 with ⟨rfl, hcopies⟩ | ⟨hr, -, hlarge⟩
    · refine .inl ⟨rfl, .inl ?_⟩
      rw [show y.buffer.locations = _ from congrArg Copies.locations hcopies]
      simp [Copies.mirrored]
    · rw [ht.size] at hlarge
      exact .inr ⟨hr, not_reservable_of_large h hlarge⟩
  intro j
  unfold refreshSomewhere
  simp only [Attempt.wp_bind, Attempt.wp_always, wp_current, Attempt.wp_ite, Attempt.wp_outcome]
  cases hallowed : s.buffer.objectAllowed with
  | false =>
    simp only [Bool.not_false, if_true]
    exact hshadow (.refl h) j
  | true =>
    simp only [Bool.not_true, Bool.false_eq_true, if_false]
    refine (refreshObject_keeps h).wp fun r y j hpost => ?_
    obtain ⟨hy, _, hcase⟩ := hpost
    rcases hcase with ⟨rfl, hg, -⟩ | ⟨⟨f, rfl⟩, hg, hno, -⟩
    · exact ⟨hy, .inl ⟨rfl, .inr hg⟩⟩
    · simp only [Attempt.wp_bind, Attempt.wp_always, wp_current, Attempt.wp_ite, Attempt.wp_throw]
      split
      · exact ⟨hy, .inr ⟨⟨f, rfl⟩, hg, hno⟩⟩
      · exact hshadow hy j

/-- The address answers for the content `c`. -/
inductive AnswersFor (c : ByteArray) (s : Site MemoryDevice) : Address → Prop where
  | shadow (hs : s.buffer.locations.has Location.sysmem = true) (hc : s.buffer.shadow = some c)
      (hk : s.buffer.isConverted = true ∨ s.buffer.locations.has Location.gpuObject = false) :
      AnswersFor c s .shadow
  | object (o : BufferObject) (ho : s.buffer.object = some o)
      (hg : s.buffer.locations.has Location.gpuObject = true)
      (hc : s.machine.device.bytes? o.handle = some c)
      (hk : s.buffer.isConverted = true → s.buffer.locations.has Location.sysmem = false) :
      AnswersFor c s (.object o.handle 0)

/-- Where some copy is current there is an address, and it answers for the content. -/
theorem address?_answers (h : Coherent s.buffer.isConverted c s.copies)
    (hl : s.buffer.locations.has Location.sysmem = true ∨
      s.buffer.locations.has Location.gpuObject = true) :
    ∃ a, s.buffer.address? = some a ∧ AnswersFor c s a := by
  have hcur : s.buffer.shadowCurrent = s.buffer.locations.has Location.sysmem := by
    unfold Buffer.shadowCurrent
    cases hs : s.buffer.locations.has Location.sysmem with
    | false => rfl
    | true =>
      rw [show s.buffer.shadow = some c from h.mirrored hs]
      rfl
  unfold Buffer.address?
  rw [hcur]
  by_cases hconv : (s.buffer.isConverted && s.buffer.locations.has Location.sysmem) = true
  · rw [if_pos hconv]
    rw [Bool.and_eq_true] at hconv
    exact ⟨_, rfl, .shadow hconv.2 (h.mirrored hconv.2) (.inl hconv.1)⟩
  · rw [if_neg hconv]
    have hk : s.buffer.isConverted = true → s.buffer.locations.has Location.sysmem = false := by
      intro hk
      rw [hk, Bool.true_and, Bool.not_eq_true] at hconv
      exact hconv
    cases hg : s.buffer.locations.has Location.gpuObject with
    | true =>
      obtain ⟨o, hco, ho, hoff, hheld⟩ := currentObject_eq h hg
      simp only [hco, hoff]
      exact ⟨_, rfl, .object o ho hg (hheld.symm.trans (h.current hg hk)) hk⟩
    | false =>
      have hs : s.buffer.locations.has Location.sysmem = true := by
        rcases hl with hs | hg'
        · exact hs
        · exact absurd (hg.symm.trans hg') nofun
      unfold Buffer.currentObject
      simp only [hg, Bool.false_eq_true, if_false, hs, if_true]
      exact ⟨_, rfl, .shadow hs (h.mirrored hs) (.inr hg)⟩

section Addresses

variable {δ : Type}

/-- The last step of `authoritative`: the address is read off the locations. -/
def currentAddress : Attempt (Site δ) Address := do
  let b ← always current
  match b.address? with
  | some a => pure a
  | none => refuse .buffer (.unexpectedLocations b.locations b.id)

/-- The bytes at an address. -/
def bytesAt [Device δ] : Address → Attempt (Site δ) ByteArray
  | .shadow => shadowBytes
  | .object handle offset => do
    let b ← always current
    let reply ← always (onDevice (Device.transfer (.host (Bytes.zeros b.size))
      (.object handle offset) [b.span] MapFlags.write))
    answer reply.outcome
    pure reply.host

theorem content_eq [Device δ] :
    (content : Attempt (Site δ) ByteArray) = authoritative >>= bytesAt := rfl

theorem authoritative_eq [Device δ] : (authoritative : Attempt (Site δ) Address) = (do
    let b ← always current
    if b.locations.meets Location.sentinel then refreshSomewhere
    currentAddress) := rfl

theorem wp_currentAddress {s : Site δ} {a : Address} (ha : s.buffer.address? = some a)
    (Q : Except Failure Address → Site δ → Journal → Prop) :
    currentAddress.wp s j Q ↔ Q (.ok a) s j := by
  unfold currentAddress
  simp only [Attempt.wp_bind, Attempt.wp_always, wp_current, ha, Attempt.wp_pure]

end Addresses

/-- **Where the bytes of a buffer are**: the answer fails only where nothing was ever written and no
    object can be had. -/
theorem authoritative_ends (h : Coherent s.buffer.isConverted c s.copies) :
    authoritative.Ends s fun r y => Keeps c s y ∧
      ((∃ a, r = .ok a ∧ AnswersFor c y a) ∨
        ((∃ f, r = .error f) ∧ s.buffer.locations.has Location.cleared = true ∧
          s.buffer.locations.has Location.gpuObject = false ∧ ¬ Reservable s)) := by
  have haddress {t : Site MemoryDevice} (ht : Keeps c s t)
      (hl : t.buffer.locations.has Location.sysmem = true ∨
        t.buffer.locations.has Location.gpuObject = true) (j : Journal) :
      currentAddress.wp t j fun r y _ =>
        Keeps c s y ∧ ((∃ a, r = .ok a ∧ AnswersFor c y a) ∨
          ((∃ f, r = .error f) ∧ s.buffer.locations.has Location.cleared = true ∧
            s.buffer.locations.has Location.gpuObject = false ∧ ¬ Reservable s)) := by
    obtain ⟨a, ha, hans⟩ := address?_answers ht.coherent' hl
    rw [wp_currentAddress ha]
    exact ⟨ht, .inl ⟨a, rfl, hans⟩⟩
  intro j
  rw [authoritative_eq]
  simp only [Attempt.wp_bind, Attempt.wp_always, wp_current, Attempt.wp_ite]
  rw [Location.meets_sentinel,
    show s.buffer.locations.has Location.discarded = false from h.kept, Bool.false_or]
  by_cases hc : s.buffer.locations.has Location.cleared = true
  · rw [if_pos hc]
    refine (refreshSomewhere_keeps h).wp fun r y j hpost => ?_
    obtain ⟨hy, hcase⟩ := hpost
    rcases hcase with ⟨rfl, hl⟩ | ⟨⟨f, rfl⟩, hg, hno⟩
    · exact haddress hy hl j
    · exact ⟨hy, .inr ⟨⟨f, rfl⟩, hc, hg, hno⟩⟩
  · rw [if_neg hc]
    refine haddress (.refl h) ?_ j
    rcases h.somewhere with hs | hg | hc'
    · exact .inl hs
    · exact .inr hg
    · exact absurd hc' hc

/-- The bytes at an address that answers for the content are the content. -/
theorem bytesAt_ends (h : Coherent s.buffer.isConverted c s.copies) {a : Address}
    (ha : AnswersFor c s a) : (bytesAt a).Ends s fun r y => Keeps c s y ∧ r = .ok c := by
  intro j
  unfold bytesAt
  cases ha with
  | shadow hs hc hk =>
    unfold shadowBytes
    simp only [Attempt.wp_bind, Attempt.wp_always, wp_current, hc, Attempt.wp_pure]
    exact ⟨.refl h, trivial⟩
  | object o ho hg hc hk =>
    simp only [Attempt.wp_bind, Attempt.wp_always, wp_current, wp_onDevice, Attempt.wp_answer,
      Attempt.wp_pure]
    have hsize : c.size = s.buffer.size := h.size
    refine (MemoryDevice.transfer_out hc (Nat.le_of_eq (by rw [Nat.zero_add, hsize]))
      (Bytes.size_zeros _) _).wp fun reply d j hpost => ?_
    obtain ⟨hok, hhost, hd⟩ := hpost
    rw [hok]
    refine ⟨⟨rfl, .of_untouched hd rfl, by rw [copies_untouched hd]; exact h,
      fun hs => by rw [copies_untouched hd]; exact hs, rfl, rfl, id, fun _ => id, fun _ => rfl⟩, ?_⟩
    rw [hhost, Nat.zero_add]
    exact congrArg Except.ok (Bytes.extract_all (Nat.le_of_eq hsize))

/-- **The bytes of a buffer are its content.** -/
theorem content_ends (h : Coherent s.buffer.isConverted c s.copies) :
    content.Ends s fun r y => Keeps c s y ∧
      (r = .ok c ∨ ((∃ f, r = .error f) ∧ s.buffer.locations.has Location.cleared = true ∧
        s.buffer.locations.has Location.gpuObject = false ∧ ¬ Reservable s)) := by
  intro j
  rw [content_eq, Attempt.wp_bind]
  refine (authoritative_ends h).wp fun r y j hpost => ?_
  obtain ⟨hy, hcase⟩ := hpost
  rcases hcase with ⟨a, rfl, ha⟩ | ⟨⟨f, rfl⟩, hno⟩
  · exact (bytesAt_ends hy.coherent' ha).wp fun r z k ⟨hz, hr⟩ => ⟨hy.trans hz, .inl hr⟩
  · exact ⟨hy, .inr ⟨⟨f, rfl⟩, hno⟩⟩

/-- The content that is read back, whatever the journal. -/
def Reads (c : ByteArray) (s : Site MemoryDevice) : Prop :=
  ∀ j : Journal, (Site.content.run s j).1.1 = .ok c

theorem Reads.unique {d : ByteArray} (h : Reads c s) (h' : Reads d s) : c = d :=
  Except.ok.inj ((h (.empty .error)).symm.trans (h' (.empty .error)))

/-! ## 4. Between operations -/

/-- **A buffer that no operation is at work on**, with content `c`: its copies are settled, nothing
    is mapped, and a shadow that stands behind converted vertices stays. -/
structure Idle (c : ByteArray) (s : Site MemoryDevice) : Prop
    extends Settled s.buffer.isConverted c s.copies where
  backed : s.buffer.isConverted = true → s.buffer.pinned = true
  unmapped : s.buffer.mapCount = 0
  baseless : s.buffer.mapBase = none

/-- A step that settles the copies, and leaves the rest, leaves the buffer idle. -/
theorem Idle.of_settled {c' : ByteArray} (hi : Idle c s) (hf : t.frame = s.frame)
    (hs : Settled s.buffer.isConverted c' t.copies)
    (hp : s.buffer.pinned = true → t.buffer.pinned = true) : Idle c' t :=
  { (by rw [isConverted_eq hf]; exact hs : Settled t.buffer.isConverted c' t.copies) with
    backed := fun hc => hp (hi.backed (by rw [← isConverted_eq hf]; exact hc))
    unmapped := (congrArg Frame.mapCount hf).trans hi.unmapped
    baseless := (congrArg Frame.mapBase hf).trans hi.baseless }

/-- The content of a buffer is read back, unless nothing has bytes for it. -/
theorem Idle.reads (h : Idle c s) (hbytes : s.buffer.locations.has Location.cleared = true →
    s.buffer.locations.has Location.gpuObject = true) : Reads c s := by
  intro j
  rcases content_ends h.toCoherent j with ⟨-, hok | ⟨-, hcleared, hg, -⟩⟩
  · exact hok
  · exact absurd ((hbytes hcleared).symm.trans hg) nofun

theorem Keeps.idle (h : Keeps c s t) (hi : Idle c s) : Idle c t :=
  hi.of_settled h.frame (h.settled hi.toSettled) h.pinned

end Site

end BufferCoherence
