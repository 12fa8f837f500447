import BufferCoherence.Proofs.Backing

/-!
# What is behind converted vertices

An object with converted vertices does not hold the content, so that the shadow has to. What makes
this so is an order of events: the map comes with a draw, and the draw makes the shadow current and
pins it before it converts anything. This module is the invariant behind that order, for a buffer
that complete operations are performed on, each on any device, which may fail any call.

* `Buffer.Anchored`: cleared content with a conversion map has its shadow pinned and current, unless
  host memory has no room for a shadow. Where an analysis changed the map, the draw restores it
  (`Site.loadChanged_anchored`);
* **`Operation.perform_anchored`**: a complete operation keeps a buffer anchored.
-/

namespace BufferCoherence

/-! ## 1. The invariant -/

namespace Buffer

variable {b b' : Buffer}

/-- **Cleared content with a conversion map has a shadow that stays**, unless there is no room for
    one. -/
structure Anchored (b : Buffer) : Prop extends Grounded b where
  backed : b.isConverted = true → b.locations.has Location.cleared = true →
    b.pinned = true ∨ Bytes.largestRun < b.size

theorem Anchored.upheld (h : b.Anchored) (hs : b.Upholds b') : b'.Anchored where
  toGrounded := hs.grounded h.toGrounded
  backed hconv hc := by
    rw [hs.size]
    exact (h.backed (hs.converted hconv) (hs.cleared hc)).imp_left hs.pinned

end Buffer

namespace Site

variable {δ : Type} {s t : Site δ}

/-- What happens to a grounded buffer keeps it anchored where the shadow ends up pinned, or where
    nothing is converted or cleared. -/
theorem Upholds.anchored (h : Upholds s t) (hg : s.buffer.Grounded)
    (hpin : s.buffer.isConverted = true → s.buffer.locations.has Location.cleared = true →
      s.buffer.size ≤ Bytes.largestRun → t.buffer.pinned = true) : t.buffer.Anchored where
  toGrounded := h.grounded hg
  backed hconv hc := by
    rw [h.size]
    rcases Nat.lt_or_ge Bytes.largestRun s.buffer.size with hlarge | hroom
    · exact .inr hlarge
    · exact .inl (hpin (h.converted hconv) (h.cleared hc) hroom)

variable [Device δ]

/-! ## 2. A draw that changed the map -/

/-- Cleared content has a current shadow, wherever there is room for one. -/
theorem refreshShadow_cleared [LendsFreely δ]
    (hc : s.buffer.locations.has Location.cleared = true) :
    refreshShadow.Ends s fun r _ => (∃ f, r = .error f) → Bytes.largestRun < s.buffer.size := by
  refine refreshWith_fails (P := fun _ => Bytes.largestRun < s.buffer.size)
    (Location.isEmpty_eq_false (.inr (.inr hc))) fun _ =>
      (reserveShadow_ends s).mono fun ready t ht => ?_
  have hload (hl : t.buffer.locations = s.buffer.locations) : loadShadow.Ends t fun r _ =>
      (∃ f, r = .error f) → Bytes.largestRun < s.buffer.size := by
    intro j
    unfold loadShadow
    rw [Attempt.wp_bind, Attempt.wp_always, wp_current]
    dsimp only
    rw [Attempt.wp_ite, hl, if_pos hc]
    rintro ⟨f, hf⟩
    cases hf
  rcases ht with ⟨rfl, -, rfl⟩ | ⟨rfl, -, rfl⟩ | ⟨rfl, hrefused, -⟩
  · exact ⟨nofun, fun _ _ => hload rfl⟩
  · exact ⟨nofun, fun _ _ => hload rfl⟩
  · exact ⟨fun _ => size_of_refused hrefused, nofun⟩

/-- Bytes that move into an object leave the shadow to its use. -/
theorem fillObject_pinned (handle : ObjectHandle) (offset : Nat) (source : TransferSource)
    (ranges : List ByteRange) (flags : MapFlags) (hs : s.buffer.pinned = true) :
    (fillObject handle offset source ranges flags).Ends s fun _ t => t.buffer.pinned = true := by
  intro j
  unfold fillObject
  simp only [Attempt.wp_bind, Attempt.wp_always, wp_onDevice, Attempt.wp_answer]
  exact hs

/-- The conversion pins the shadow that it starts from, whether the upload fails or not. -/
theorem uploadConverted_pins (hs : s.buffer.locations.has Location.sysmem = true) :
    uploadConverted.Ends s fun _ t => t.buffer.pinned = true := by
  intro j
  unfold uploadConverted refreshShadow
  rw [Attempt.wp_bind, wp_refreshWith_of_current hs]
  simp only [Attempt.wp_bind, Attempt.wp_always, wp_pinShadow, wp_current]
  split
  · rw [Attempt.wp_bind, wp_borrowScratch]
    split
    · exact fillObject_pinned _ _ _ _ _ rfl _
    · rfl
  · rfl

/-- What is there is not made. -/
theorem reserveObject_present (ho : s.buffer.object.isSome = true)
    (hkind : s.buffer.backend.kind ≠ .noObject) :
    reserveObject.Ends s fun ready t => ready = true ∧ t = s := by
  intro j
  unfold reserveObject
  rw [Step.wp_bind, wp_current]
  rcases objectRequest?_cases s.buffer with ⟨hno, -⟩ | ⟨-, request, hreq, -⟩
  · exact absurd hno hkind
  · rw [hreq]
    simp only [ho, if_true, Step.wp_pure]
    exact ⟨trivial, trivial⟩

/-- An object that is ready is there. -/
theorem reserveObject_ready (s : Site δ) : reserveObject.Ends s fun ready t => ready = true →
    t.buffer.object.isSome = true ∧ t.buffer.backend.kind ≠ .noObject := by
  intro j
  unfold reserveObject
  rw [Step.wp_bind, wp_current]
  rcases objectRequest?_cases s.buffer with ⟨-, hreq⟩ | ⟨hkind, request, hreq, -⟩
  · rw [hreq]
    exact fun hyes => absurd hyes Bool.false_ne_true
  · rw [hreq]
    simp only [Step.wp_ite, Step.wp_pure, Step.wp_bind, Step.wp_note, Step.wp_noteAll,
      Attempt.wp_outcome]
    split
    · rename_i ho
      exact fun _ => ⟨ho, hkind⟩
    · split
      · exact fun hyes => absurd hyes Bool.false_ne_true
      · unfold newObject
        simp only [Attempt.wp_bind, wp_tryDevice, Attempt.wp_always, wp_current, wp_adoptObject,
          Attempt.wp_note]
        refine Attempt.wp_any fun r d k => ?_
        cases r with
        | ok a =>
          simp only [Step.wp_bind, wp_change, Step.wp_pure]
          obtain ⟨backend, hb, hk⟩ := restartBarriers_eq { s.buffer with
            object := some ((BufferObject.new a s.buffer.size).enlist s.machine.users
              s.buffer.user).1
            dirty := s.buffer.dirty.markAll }
          rw [hb]
          exact fun _ => ⟨rfl, hk.symm ▸ hkind⟩
        | error f =>
          simp only [Step.wp_bind, Step.wp_pure]
          exact (objectRefused_resembles f _).wp fun _ _ _ _ hyes =>
            absurd hyes Bool.false_ne_true

section Changed

variable [LendsFreely δ] (hconv : s.buffer.isConverted = true)
  (hc : s.buffer.locations.has Location.cleared = true)
  (hs : s.buffer.locations.has Location.sysmem = true) (hroom : s.buffer.size ≤ Bytes.largestRun)

include hconv hc hs hroom

/-- Where there is room for a shadow, to load cleared content with a conversion map pins it. -/
theorem loadObject_pins : loadObject.Ends s fun _ t => t.buffer.pinned = true := by
  intro j
  unfold loadObject
  rw [Attempt.wp_bind, Attempt.wp_always, wp_current]
  simp only [hc, if_true]
  unfold materializeCleared
  rw [Attempt.wp_bind, Attempt.wp_bind, Attempt.wp_always]
  have hupload (shadow : Option ByteArray) (j : Journal) :
      (do if (← always current).isConverted then uploadConverted else uploadPlain :
        Attempt (Site δ) Unit).wp { s with buffer := { s.buffer with shadow } } j
          fun _ u _ => u.buffer.pinned = true := by
    rw [Attempt.wp_bind, Attempt.wp_always, wp_current]
    have hconv' : { s.buffer with shadow }.isConverted = true := hconv
    simp only [hconv', if_true]
    exact uploadConverted_pins (s := { s with buffer := { s.buffer with shadow } }) hs j
  refine (reserveShadow_ends s).wp fun ready t k ht => ?_
  rcases ht with ⟨rfl, -, rfl⟩ | ⟨rfl, -, rfl⟩ | ⟨-, hrefused, -⟩
  · simp only [if_true, Attempt.wp_always, wp_clearShadow]
    exact hupload _ k
  · simp only [if_true, Attempt.wp_always, wp_clearShadow]
    exact hupload _ k
  · exact absurd hroom (Nat.not_le_of_lt (size_of_refused hrefused))

theorem refreshObject_pins (hkept : s.buffer.locations.has Location.discarded = false)
    (hg : s.buffer.locations.has Location.gpuObject = false)
    (ho : s.buffer.object.isSome = true) (hkind : s.buffer.backend.kind ≠ .noObject) :
    refreshObject.Ends s fun _ t => t.buffer.pinned = true := by
  intro j
  refine wp_refreshWith (Location.isEmpty_eq_false (.inl hs))
    (fun hno => absurd (hg.symm.trans hno) Bool.false_ne_true) fun _ j => ?_
  refine (reserveObject_present ho hkind).wp fun ready t k ht => ?_
  obtain ⟨rfl, rfl⟩ := ht
  refine ⟨nofun, fun _ => ⟨hkept, ?_⟩⟩
  refine (loadObject_pins hconv hc hs hroom).wp fun r u l hu => ?_
  cases r with
  | error f => exact hu
  | ok _ =>
    exact fun _ => (Step.Relates.upholds releaseShadow_deeds _).wp fun _ _ _ hv => hv.pinned hu

end Changed

/-- **A reload anchors the buffer**: the shadow is current before the object is loaded again. -/
theorem reload_anchored [LendsFreely δ] (hg : s.buffer.Grounded)
    (ho : s.buffer.object.isSome = true) (hkind : s.buffer.backend.kind ≠ .noObject) :
    reload.Ends s fun _ t => t.buffer.Anchored := by
  intro j
  unfold reload
  rw [Step.wp_bind, wp_current, Step.wp_bind, Step.wp_note, Step.wp_bind, Attempt.wp_outcome]
  refine Attempt.Ends.wp_run
    ((Attempt.Relates.upholds refreshShadow_deeds s).and (refreshShadow_within s))
    fun r t k hrun ⟨ht, hmoves⟩ => ?_
  cases r with
  | error f =>
    rw [Step.wp_note]
    -- the shadow of cleared content is refused only where there is no room for it
    exact ht.anchored hg fun _ hc hroom => absurd hroom
      (Nat.not_le_of_lt ((refreshShadow_cleared hc).of_run hrun ⟨f, rfl⟩))
  | ok _ =>
    have hs := (refreshShadow_current s).of_run hrun rfl
    unfold loadPending
    simp only [Step.wp_bind, wp_declareStale, Attempt.wp_outcome]
    let u : Site δ := { t with buffer := t.buffer.markStale Location.gpuObject 0 0 }
    have hu : Upholds s u :=
      ht.trans (t.buffer.upholds_markStale (fun h => absurd h (by decide)) 0 0)
    have hobject : t.buffer.object.isSome = true := by
      rw [← Option.isSome_map, hmoves.handle, Option.isSome_map]
      exact ho
    have hlocal : u.buffer.locations.has Location.sysmem = true ∧
        u.buffer.locations.has Location.gpuObject = false := by simp [u, Buffer.markStale, hs]
    refine Attempt.Ends.wp_run (Attempt.Relates.upholds refreshObject_deeds u)
      fun r v l hload hv => ?_
    have hanchored : v.buffer.Anchored := hv.anchored (hu.grounded hg) fun hconv hc hroom =>
      (refreshObject_pins hconv hc hlocal.1 hroom ((hu.grounded hg).kept hc) hlocal.2 hobject
        (hmoves.backend.1 ▸ hkind)).of_run hload
    cases r with
    | ok _ => exact hanchored
    | error f => exact hanchored

/-- A buffer that gave its object up converts nothing. -/
theorem vacate_plain (ho : s.buffer.object.isSome = true) :
    vacate.Ends s fun _ t => t.buffer.isConverted = false := by
  have hany {γ : Type} {p : Step (Site δ) γ} {x : Site δ} : p.Ends x fun _ _ => True := fun _ =>
    trivial
  intro j
  unfold vacate
  rw [Step.wp_bind, wp_current]
  simp only [ho, if_true]
  rw [Step.wp_bind]
  refine hany.wp fun _ t k _ => ?_
  rw [Step.wp_bind, wp_declareStale, Step.wp_bind]
  exact hany.wp fun _ u l _ => rfl

theorem loadChanged_anchored [LendsFreely δ] (hg : s.buffer.Grounded)
    (ho : s.buffer.object.isSome = true) (hkind : s.buffer.backend.kind ≠ .noObject) :
    loadChanged.Ends s fun _ t => t.buffer.Anchored := by
  intro j
  unfold loadChanged countEvent
  simp only [Step.wp_bind, wp_current, wp_change, Step.wp_pure, Step.wp_ite, Step.wp_note]
  let u : Site δ := { s with buffer := { s.buffer with
    hysteresis := s.buffer.hysteresis.countDeclaration.2 } }
  have hu : u.buffer.Grounded := ⟨⟨hg.shadow, hg.dirty⟩, hg.kept, hg.mirrored⟩
  split
  · have hplain : dropObject.Ends u fun _ t => t.buffer.isConverted = false := fun j =>
      vacate_plain (s := { u with buffer := { u.buffer with objectAllowed := false } }) ho j
    exact ((Step.Relates.upholds dropObject_deeds u).and hplain).wp fun _ t _ ht =>
      ⟨ht.1.grounded hu, fun hconv => absurd (ht.2.symm.trans hconv) Bool.false_ne_true⟩
  · exact reload_anchored (s := u) hu ho hkind _

/-- **The analysis of a layout anchors a map that is new**, before the draw ends. -/
theorem loadPrepared_anchored [LendsFreely δ] (h : s.buffer.Anchored)
    (ho : s.buffer.object.isSome = true) (hkind : s.buffer.backend.kind ≠ .noObject)
    (draw : Option Draw) :
    (loadPrepared draw).Ends s fun _ t => t.buffer.Anchored := by
  have hquiet (b : Buffer) :
      (if b.dirty.isPending then loadDirty else countQuietDraw : Step (Site δ) Unit).Relates
        Upholds :=
    .upholds (.ite loadDirty_phases.deeds countQuietDraw_deeds)
  intro j
  unfold loadPrepared
  cases draw with
  | none => exact (hquiet s.buffer s).wp fun _ _ _ ht => h.upheld ht
  | some d =>
    let a := s.buffer.conversion.analyse s.buffer.id d.layout
      ((Device.caps s.machine.device).fixups d.vertexShader) (s.buffer.usage.has Usage.staticDecl)
    let u : Site δ := { s with buffer := { s.buffer with conversion := a.conversion } }
    have hu : u.buffer.Grounded := ⟨⟨h.shadow, h.dirty⟩, h.kept, h.mirrored⟩
    unfold analyseLayout
    simp only [Step.wp_bind, Step.wp_get, Step.wp_noteAll, wp_change, Step.wp_pure, wp_current]
    rw [Step.wp_ite]
    split
    · exact loadChanged_anchored (s := u) hu ho hkind _
    · rename_i hsame
      -- an analysis that reports nothing left the map alone
      have hmap : a.conversion.map = s.buffer.conversion.map :=
        ConversionState.map_analyse ((Bool.not_eq_true _).mp hsame)
      have hanchored : u.buffer.Anchored := ⟨hu, fun hconv hc => h.backed
        ((congrArg Option.isSome hmap).symm.trans hconv) hc⟩
      exact (hquiet u.buffer u).wp fun _ _ _ ht => hanchored.upheld ht

theorem readyForDraw_anchored [LendsFreely δ] (h : s.buffer.Anchored) (draw : Option Draw) :
    (readyForDraw draw).Ends s fun _ t => t.buffer.Anchored := by
  intro j
  unfold readyForDraw
  simp only [Step.wp_bind, wp_current, Step.wp_ite, Step.wp_note, Step.wp_pure]
  have hload (j : Journal) : Step.wp reserveObject s j fun ready t k =>
      if ready = true then (loadPrepared draw).wp t k fun _ u _ => u.buffer.Anchored
      else t.buffer.Anchored := by
    refine ((Step.Relates.upholds reserveObject_deeds s).and (reserveObject_ready s)).wp
      fun ready t k ht => ?_
    obtain ⟨ht, hready⟩ := ht
    split
    · rename_i hyes
      exact loadPrepared_anchored (h.upheld ht) (hready hyes).1 (hready hyes).2 draw k
    · exact h.upheld ht
  split
  · exact h
  · split <;> split
    · exact hload _
    · exact h
    · exact hload _
    · exact h

/-! ## 3. Creation -/

theorem fillFresh_upholds {data : ByteArray} (hdata : data.size = s.buffer.size) :
    (fillFresh data).Ends s fun _ t => Upholds s t := by
  intro j
  unfold fillFresh
  rw [Attempt.wp_bind, Attempt.wp_always, wp_current]
  dsimp only
  rw [Attempt.wp_ite]
  split
  · exact Attempt.Relates.upholds (copyRun_deeds _ trivial trivial) s j
  · cases hm : s.buffer.shadow with
    | none => exact .refl _
    | some m =>
      simp only [Attempt.wp_bind, Attempt.wp_always, wp_change, wp_declareCurrent, wp_declareStale]
      have hfilled := s.buffer.upholds_shadow (m := data) fun h => ⟨hdata, (h.shadow m hm).2⟩
      exact (hfilled.trans (Buffer.upholds_markValid _ (by decide)
        fun h => absurd h (by decide))).trans
        (Buffer.upholds_markStale _ (fun h => absurd h (by decide)) 0 0)

/-- To open a new buffer, with its first content or without, clears and converts nothing. -/
theorem openFresh_upholds (pin : Bool) (data : Option ByteArray)
    (hdata : ∀ d, data = some d → s.buffer.size ≤ d.size) :
    (openFresh pin data).Ends s fun r t => r = .ok () → Upholds s t := by
  refine openFresh_ready
    ((Attempt.Relates.upholds (openStorage_deeds pin) s).mono fun _ _ ht _ => ht)
    (fun _ _ ht => ht) fun d t hsome ht => ?_
  have hsize : (Bytes.take d t.buffer.size).size = t.buffer.size := by
    rw [Bytes.size_take, ht.size]
    exact Nat.min_eq_left (hdata d hsome)
  exact (fillFresh_upholds hsize).mono fun _ _ hu _ => ht.trans hu

end Site

/-- A buffer begins without bytes and without a map. -/
theorem Buffer.fresh_anchored (id : BufferId) (user : UserId) (request : BufferRequest)
    (backend : Backend) (objectAllowed : Bool) (settings : Settings) :
    (Buffer.fresh id user request backend objectAllowed settings).Anchored :=
  ⟨⟨⟨nofun, rfl⟩, fun _ => Location.apart.2.2.2.2.2, nofun⟩, nofun⟩

theorem Machine.create_anchored {δ : Type} [Device δ] (m : Machine δ) (request : BufferRequest)
    (data : Option ByteArray) (settings : Settings) :
    (create request data settings).Ends m fun r _ => ∀ b, r = .ok b → b.Anchored := by
  refine create_opened (R := fun b _ => b.Anchored) fun hfault backend objectAllowed _ _ => ?_
  have hsize : (m.freshBuffer (request.granted settings) backend objectAllowed
      settings).buffer.size = request.size := size_granted request settings
  refine (Site.openFresh_upholds _ data fun d hd => ?_).mono fun r y hy hr => ?_
  · rw [hsize]
    exact size_le_of_fault? hfault d hd
  · exact (Buffer.fresh_anchored _ _ _ _ _ _).upheld (hy hr)

/-! ## 4. Operations -/

open Site in
/-- Every complete operation but a draw clears and converts nothing. -/
theorem Operation.perform_upholds {δ : Type} [Device δ] {op : Operation} (h : ∀ d, op ≠ .draw d) :
    (op.perform : Attempt (Site δ) (Option ByteArray)).Relates Upholds :=
  .upholds (Operation.perform_deeds (Operation.permitted trivial (fun _ => trivial)
    (fun _ _ => trivial) (fun d he => absurd he (h d)) fun _ _ _ _ _ => trivial))

open Site in
/-- **Every complete operation keeps a buffer anchored**, whichever calls of the device fail. -/
theorem Operation.perform_anchored {δ : Type} [Device δ] [LendsFreely δ] {s : Site δ}
    (h : s.buffer.Anchored) (op : Operation) : op.perform.Ends s fun _ t => t.buffer.Anchored := by
  by_cases hdraw : ∃ d, op = .draw d
  · obtain ⟨d, rfl⟩ := hdraw
    exact fun j => readyForDraw_anchored h d j
  · have hop := Operation.perform_upholds (δ := δ) fun d he => hdraw ⟨d, he⟩
    exact (hop s).mono fun _ _ ht => h.upheld ht

end BufferCoherence
