import BufferCoherence.Proofs.Copying

/-!
# New buffers

What a buffer holds when it comes to exist: the data it was created with, or zeroes. From the first
moment on the buffer is idle, so that everything proved of idle buffers holds of it (`create_ends`).
-/

namespace BufferCoherence

/-- The first content of a buffer of `size` bytes. -/
def firstContent (size : Nat) : Option ByteArray → ByteArray
  | some data => Bytes.take data size
  | none => Bytes.zeros size

/-- A report over all the bytes stands for everything. -/
theorem DirtySpans.mark_size (d : DirtySpans) : d.mark 0 d.size = d.markAll := by
  unfold mark receive
  simp

namespace Site

variable {s : Site MemoryDevice} {c : ByteArray}

/-! ## 1. Storage -/

/-- What is known of a buffer that was just made: it has no storage, and counts as zeroes. -/
structure Unborn (s : Site MemoryDevice) : Prop where
  locations : s.buffer.locations = Location.cleared
  shadow : s.buffer.shadow = none
  object : s.buffer.object = none
  pinned : s.buffer.pinned = false
  clean : s.buffer.dirty.spans = []
  spanned : s.buffer.dirty.size = s.buffer.size
  allowed : s.buffer.objectAllowed = true → s.buffer.backend.kind ≠ .noObject
  unmapped : s.buffer.mapCount = 0
  baseless : s.buffer.mapBase = none
  plain : s.buffer.conversion.map = none

theorem Unborn.idle (h : Unborn s) : Idle (Bytes.zeros s.buffer.size) s := by
  have hloc (l : Location) : s.copies.locations.has l = Location.cleared.has l :=
    congrArg (FlagSet.has · l) h.locations
  have hheld : s.copies.held = none := held_none h.object
  have hobj : s.copies.object = none := congrArg (Option.map _) h.object
  exact {
    size := Bytes.size_zeros _
    spanned := h.spanned
    spans := fun r hr => by
      rw [show s.copies.dirty.spans = [] from h.clean] at hr
      cases hr
    kept := hloc Location.discarded
    somewhere := .inr (.inr (hloc Location.cleared))
    allowed := h.allowed
    shadow := fun m hm => nomatch h.shadow.symm.trans hm
    pinned := fun hp => nomatch h.pinned.symm.trans hp
    cleared := fun _ => rfl
    mirrored := fun hs => nomatch (hloc Location.sysmem).symm.trans hs
    object := fun a ha => nomatch hobj.symm.trans ha
    held := fun b hb => nomatch hheld.symm.trans hb
    present := fun hg => nomatch (hloc Location.gpuObject).symm.trans hg
    current := fun hg => nomatch (hloc Location.gpuObject).symm.trans hg
    stale := fun b hb => nomatch hheld.symm.trans hb
    complete := fun hg => nomatch (hloc Location.gpuObject).symm.trans hg
    lacking := fun ho => by
      rw [hobj] at ho
      cases ho
    backed := fun hc => by
      rw [isConverted_iff h.plain] at hc
      cases hc
    unmapped := h.unmapped
    baseless := h.baseless }

/-- A new buffer has its storage: a shadow of zeroes, unless its object is to be made later. -/
theorem openStorage_ends (h : Unborn s) (pin : Bool) :
    (openStorage pin).Ends s fun r y => r = .ok () →
      Idle (Bytes.zeros s.buffer.size) y ∧ y.buffer.size = s.buffer.size ∧ y.frame = s.frame := by
  intro j
  have hi := h.idle
  unfold openStorage pinFresh
  simp only [Attempt.wp_bind, Attempt.wp_ite, Attempt.wp_always, Step.wp_bind, wp_current,
    Step.wp_note, wp_change, Attempt.wp_throw, Attempt.wp_note]
  cases pin with
  | true =>
    rw [if_pos rfl, if_pos (by simp)]
    refine (reserveShadow_ends _).wp fun ready y j hy => ?_
    rcases hy with ⟨-, hsome, -⟩ | ⟨rfl, hroom, rfl⟩ | ⟨rfl, -, -⟩
    · rw [show Option.isSome _ = _ from congrArg Option.isSome h.shadow] at hsome
      cases hsome
    · rw [if_neg (by simp)]
      refine fun _ => ⟨?_, rfl, rfl⟩
      exact { hi with
        kept := Location.apart.1.2.1
        somewhere := .inl Location.has_itself.1
        shadow := fun m hm => by
          cases hm
          exact ⟨Bytes.size_zeros _, hroom⟩
        pinned := fun _ => rfl
        cleared := fun _ => rfl
        mirrored := fun _ => rfl
        present := fun hg => absurd (Location.apart.1.1.symm.trans hg) Bool.false_ne_true
        current := fun hg => absurd (Location.apart.1.1.symm.trans hg) Bool.false_ne_true
        stale := fun b hb => by cases (held_none h.object).symm.trans hb
        complete := fun hg => absurd (Location.apart.1.1.symm.trans hg) Bool.false_ne_true
        lacking := fun ho => by
          rw [copies_object_isSome] at ho
          rw [show Option.isSome _ = _ from congrArg Option.isSome h.object] at ho
          cases ho
        backed := fun _ => rfl }
    · rintro ⟨⟩
  | false =>
    rw [if_neg Bool.false_ne_true]
    split
    · refine (reserveShadow_ends _).wp fun ready y j hy => ?_
      rcases hy with ⟨-, hsome, -⟩ | ⟨rfl, hroom, rfl⟩ | ⟨rfl, -, -⟩
      · rw [h.shadow] at hsome
        cases hsome
      · rw [if_neg (by simp)]
        refine fun _ => ⟨hi.of_settled rfl ?_ id, rfl, rfl⟩
        exact { coherent_shadow hi.toCoherent hroom with
          complete := hi.complete
          lacking := hi.lacking }
      · rintro ⟨⟩
    · exact fun _ => ⟨hi, trivial, trivial⟩

/-! ## 2. First content -/

/-- The first content of a buffer replaces its zeroes. -/
theorem fillFresh_ends {data : ByteArray} (hi : Idle c s) (hsize : data.size = s.buffer.size) :
    (fillFresh data).Ends s fun r y => r = .ok () →
      Idle data y ∧ y.buffer.size = s.buffer.size ∧ y.frame = s.frame := by
  intro j
  have hc : c.size = s.buffer.size := hi.size
  unfold fillFresh
  simp only [Attempt.wp_bind, Attempt.wp_always, wp_current, Attempt.wp_ite]
  cases ha : s.buffer.objectAllowed with
  | true =>
    rw [if_pos rfl]
    refine (storeBytes_ends hi 0 data).wp fun r y j hpost => ?_
    obtain ⟨hframe, hy⟩ := hpost
    rcases hy with ⟨rfl, -, hy⟩ | ⟨⟨f, rfl⟩, -⟩
    · rw [Bytes.splice_all (hsize.trans hc.symm)] at hy
      exact fun _ => ⟨hy, hy.size.symm.trans hsize, hframe⟩
    · rintro ⟨⟩
  | false =>
    rw [if_neg Bool.false_ne_true]
    split
    · rintro ⟨⟩
    · rename_i m hm
      simp only [Attempt.wp_bind, Attempt.wp_always, wp_change, wp_declareCurrent,
        wp_declareStale]
      refine fun _ => ⟨hi.of_settled rfl ?_ id, rfl, rfl⟩
      have hroom : s.buffer.size ≤ Bytes.largestRun := (hi.shadow m hm).2
      have hspan : s.buffer.dirty.size = s.buffer.size := hi.spanned
      have hsame (i : Nat) (hout : ¬ (0 ≤ i ∧ i < 0 + s.buffer.dirty.size)) :
          Bytes.byteAt? data i = Bytes.byteAt? c i := by
        rw [Bytes.byteAt?_eq_none_iff.mpr (by omega), Bytes.byteAt?_eq_none_iff.mpr (by omega)]
      have hstored := (hi.toCoherent.mirror hroom).storedInShadow (by simp [Copies.mirrored])
        (hsize.trans hc.symm) hsame
      -- the report over all the bytes is the report without a size
      have hmark : s.buffer.dirty.mark 0 s.buffer.dirty.size = s.buffer.dirty.mark 0 0 :=
        DirtySpans.mark_size _
      unfold Copies.markStale at hstored
      rw [show Copies.dirty { Copies.mirrored s.copies c with shadow := some data } =
        s.buffer.dirty from rfl, hmark] at hstored
      show Settled _ data ((Copies.markValid { s.copies with shadow := some data }
        Location.sysmem).markStale _ 0 0)
      rw [Copies.markValid_sysmem]
      exact hstored

/-! ## 3. Creation -/

/-- A new buffer that is ready was opened, and filled where there is something to fill it with. -/
theorem openFresh_ready {δ : Type} [Device δ] {s : Site δ} {pin : Bool} {data : Option ByteArray}
    {P Q : Site δ → Prop} (hopen : (openStorage pin).Ends s fun r t => r = .ok () → P t)
    (hnone : data = none → ∀ t, P t → Q t)
    (hfill : ∀ d t, data = some d → P t →
      (fillFresh (Bytes.take d t.buffer.size)).Ends t fun r u => r = .ok () → Q u) :
    (openFresh pin data).Ends s fun r t => r = .ok () → Q t := by
  intro j
  unfold openFresh
  simp only [Attempt.wp_bind, Attempt.wp_always, Attempt.wp_outcome]
  refine hopen.wp fun r t k ht => ?_
  cases r with
  | error f =>
    simp only [Attempt.wp_bind, Attempt.wp_always, Attempt.wp_throw]
    exact Step.wp_any fun _ _ _ hr => absurd hr (Failure.ne_ok _ _)
  | ok _ =>
    cases data with
    | none => exact fun _ => hnone rfl t (ht rfl)
    | some d =>
      simp only [Attempt.wp_bind, Attempt.wp_always, wp_current, Attempt.wp_outcome]
      refine (hfill d t rfl (ht rfl)).wp fun r u l hu => ?_
      cases r with
      | ok _ => exact fun _ => hu rfl
      | error f =>
        simp only [Attempt.wp_bind, Attempt.wp_always, Attempt.wp_throw]
        exact Step.wp_any fun _ _ _ hr => absurd hr (Failure.ne_ok _ _)

/-- A new buffer made ready holds its first content. -/
theorem openFresh_ends (h : Unborn s) (pin : Bool) (data : Option ByteArray)
    (hdata : ∀ d, data = some d → s.buffer.size ≤ d.size) :
    (openFresh pin data).Ends s fun r y => r = .ok () →
      Idle (firstContent s.buffer.size data) y ∧ y.buffer.size = s.buffer.size ∧
        y.frame = s.frame := by
  refine openFresh_ready (openStorage_ends h pin) (fun hnone t ht => ?_)
    fun d t hsome ⟨hi, hsize, hframe⟩ => ?_
  · rw [hnone]
    exact ht
  · have htake : (Bytes.take d t.buffer.size).size = t.buffer.size := by
      rw [Bytes.size_take, hsize]
      exact Nat.min_eq_left (hdata d hsome)
    refine (fillFresh_ends hi htake).mono fun r y hy hr => ?_
    obtain ⟨hy, hysize, hyframe⟩ := hy hr
    rw [hsize] at hy
    rw [hsome]
    exact ⟨hy, hysize.trans hsize, hyframe.trans hframe⟩

end Site

namespace Machine

theorem wp_openSite {δ : Type} {m : Machine δ} {j : Journal} (site : Site δ)
    (a : Attempt (Site δ) Unit) (Q : Except Failure Buffer → Machine δ → Journal → Prop) :
    (openSite site a).wp m j Q ↔
      a.wp site j fun r y k => Q (r.map fun _ => y.buffer) y.machine k := Iff.rfl

/-- The backend of a buffer is of the kind of its device, and one without objects comes with a buffer
    that may have none. -/
theorem chooseBackend_ends {σ : Type} (caps : Capabilities) (request : BufferRequest) (x : σ) :
    (chooseBackend caps request).Ends x fun r y => y = x ∧ ∀ b, r = .ok b →
      b.1.kind = caps.backend ∧ (b.2 = true → b.1.kind ≠ .noObject) := by
  intro j
  unfold chooseBackend
  cases hcaps : caps.backend with
  | noObject =>
    simp only [Attempt.wp_pure]
    refine ⟨trivial, fun b h => ?_⟩
    cases h
    exact ⟨rfl, fun hallowed => absurd hallowed Bool.false_ne_true⟩
  | legacy =>
    simp only [Attempt.wp_bind, Attempt.wp_noteAll, Attempt.wp_ite, Attempt.wp_note,
      Attempt.wp_pure, ite_self]
    refine ⟨trivial, fun b h => ?_⟩
    cases h
    exact ⟨rfl, fun _ h => by cases h⟩
  | modern =>
    simp only [Attempt.wp_ite, Attempt.wp_refuse, Attempt.wp_pure]
    split
    · exact ⟨trivial, fun b h => absurd h (Failure.ne_ok _ _)⟩
    · refine ⟨trivial, fun b h => ?_⟩
      cases h
      exact ⟨rfl, fun _ h => by cases h⟩

section Opening

variable {δ : Type} [Device δ] {m : Machine δ} {request : BufferRequest}
  {data : Option ByteArray} {settings : Settings}

/-- **How a buffer is created.** What is asked for is refused, and the machine is left as it was; or
    the next buffer is opened, on a backend of the kind of the device. -/
theorem create_opens {P : Except Failure Buffer → Machine δ → Prop}
    (refused : ∀ f, P (.error f) m)
    (opened : request.fault? settings (data.map (·.size)) = none → ∀ backend objectAllowed,
      backend.kind = (Device.caps m.device).backend →
      (objectAllowed = true → backend.kind ≠ .noObject) →
      (Site.openFresh ((request.granted settings).pinned settings) data).Ends
        (m.freshBuffer (request.granted settings) backend objectAllowed settings)
        fun r t => P (r.map fun _ => t.buffer) t.machine) :
    (create request data settings).Ends m P := by
  intro j
  unfold create
  cases hfault : request.fault? settings (data.map (·.size)) with
  | some f =>
    simp only [Attempt.wp_refuse]
    exact refused f
  | none =>
    simp only [Attempt.wp_bind, Attempt.wp_get, wp_openSite]
    refine (chooseBackend_ends _ _ m).wp fun r m' k hpost => ?_
    obtain ⟨rfl, hchosen⟩ := hpost
    cases r with
    | error f => exact refused f
    | ok chosen =>
      obtain ⟨hkind, hcapable⟩ := hchosen chosen rfl
      exact opened hfault chosen.1 chosen.2 hkind hcapable k

/-- What holds of each buffer that was opened holds of each buffer that was created. -/
theorem create_opened {R : Buffer → Machine δ → Prop}
    (opened : request.fault? settings (data.map (·.size)) = none → ∀ backend objectAllowed,
      backend.kind = (Device.caps m.device).backend →
      (objectAllowed = true → backend.kind ≠ .noObject) →
      (Site.openFresh ((request.granted settings).pinned settings) data).Ends
        (m.freshBuffer (request.granted settings) backend objectAllowed settings)
        fun r t => r = .ok () → R t.buffer t.machine) :
    (create request data settings).Ends m fun r m' => ∀ b, r = .ok b → R b m' := by
  refine create_opens (fun f b hb => absurd hb (f.ne_ok b)) fun hfault backend allowed hk hc =>
    (opened hfault backend allowed hk hc).mono fun r t ht b hb => ?_
  cases r with
  | error f => exact absurd hb (f.ne_ok b)
  | ok _ =>
    cases hb
    exact ht rfl

end Opening

theorem unborn_freshBuffer (m : Machine MemoryDevice) (request : BufferRequest)
    (backend : Backend) (objectAllowed : Bool) (settings : Settings)
    (h : objectAllowed = true → backend.kind ≠ .noObject) :
    Site.Unborn (m.freshBuffer request backend objectAllowed settings) :=
  ⟨rfl, rfl, rfl, rfl, rfl, rfl, h, rfl, rfl, rfl⟩

/-- What is asked for may be granted more access, and nothing else. -/
theorem size_granted (request : BufferRequest) (settings : Settings) :
    (request.granted settings).size = request.size := by
  unfold BufferRequest.granted
  split <;> rfl

theorem size_pos_of_fault? {request : BufferRequest} {settings : Settings} {held : Option Nat}
    (h : request.fault? settings held = none) : 0 < request.size := by
  unfold BufferRequest.fault? at h
  split at h
  · cases h
  · exact Nat.pos_of_ne_zero ‹_›

/-- A request that is not at fault comes with data for all of the buffer. -/
theorem size_le_of_fault? {request : BufferRequest} {settings : Settings}
    {data : Option ByteArray} (h : request.fault? settings (data.map (·.size)) = none) :
    ∀ d, data = some d → request.size ≤ d.size := by
  rintro d rfl
  unfold BufferRequest.fault? at h
  split at h
  · cases h
  · split at h
    · cases h
    · simp only [Option.map_some] at h
      split at h
      · cases h
      · omega

/-- **A buffer that was created holds its first content**: nothing is mapped, and no vertices are
    converted. -/
theorem create_ends (m : Machine MemoryDevice) (request : BufferRequest)
    (data : Option ByteArray) (settings : Settings) :
    (create request data settings).Ends m fun r m' => ∀ b, r = .ok b →
      Site.Idle (firstContent request.size data) ⟨b, m'⟩ ∧ b.size = request.size ∧
        b.conversion.map = none := by
  refine create_opened fun hfault backend objectAllowed _ hcapable => ?_
  have hfresh := unborn_freshBuffer m (request.granted settings) backend objectAllowed settings
    hcapable
  have hsize : (m.freshBuffer (request.granted settings) backend objectAllowed
      settings).buffer.size = request.size := size_granted request settings
  refine (Site.openFresh_ends hfresh _ data fun d hd => ?_).mono fun r y hy hr => ?_
  · rw [hsize]
    exact size_le_of_fault? hfault d hd
  · obtain ⟨hy, hysize, hframe⟩ := hy hr
    rw [hsize] at hy hysize
    exact ⟨hy, hysize, (congrArg (fun f : Frame => f.conversion.map) hframe).trans hfresh.plain⟩

end Machine

end BufferCoherence
