import BufferCoherence.Proofs.Loading

/-!
# Making a copy current

What `refreshShadow` and `refreshObject` do to the copies of a buffer that stand for a content `c`.
Both leave the content what it is; a failure leaves a trace only where it ends the use of objects.

* `refreshShadow_ends`: the shadow holds `c` and is current, unless the host cannot hold it;
* `refreshObject_ends`: the object is current exactly where there is one or one can be had
  (`Reservable`), and what was loaded into it is what `Copies.source` says, in the dirty spans.
-/

namespace BufferCoherence

namespace Site

/-! ## 1. One copy -/

section Storage

variable {δ : Type} {s : Site δ} {j : Journal}

theorem wp_giveUpLost (h : s.buffer.locations.isEmpty = false)
    (Q : Unit → Site δ → Journal → Prop) : giveUpLost.wp s j Q ↔ Q () s j := by
  unfold giveUpLost
  simp only [Step.wp_bind, wp_current, Step.wp_ite, h, Step.wp_pure]
  rw [if_neg Bool.false_ne_true]

/-- How a copy that has content is made current: the storage first, then the bytes. -/
theorem wp_refreshWith {target : Location} {prepare : Step (Site δ) Bool}
    {load : Attempt (Site δ) Unit} {settle : Step (Site δ) Unit}
    {Q : Except Failure Unit → Site δ → Journal → Prop}
    (hempty : s.buffer.locations.isEmpty = false)
    (hcurrent : s.buffer.locations.has target = true → Q (.ok ()) s j)
    (hload : s.buffer.locations.has target = false → ∀ j, prepare.wp s j fun ready y j =>
      (ready = false → ∀ f, Q (.error f) y j) ∧
      (ready = true → y.buffer.locations.has Location.discarded = false ∧
        load.wp y j fun r y j =>
          match r with
          | .ok _ => ∀ j, settle.wp { y with buffer := y.buffer.markValid target } j fun _ y j =>
              Q (.ok ()) y j
          | .error f => Q (.error f) y j)) :
    (refreshWith target prepare load settle).wp s j Q := by
  unfold refreshWith
  simp only [Attempt.wp_bind, Attempt.wp_always, wp_current, Attempt.wp_ite]
  cases htarget : s.buffer.locations.has target with
  | true =>
    rw [if_pos rfl, Attempt.wp_pure]
    exact hcurrent htarget
  | false =>
    rw [if_neg Bool.false_ne_true, wp_giveUpLost hempty]
    simp only [Attempt.wp_note]
    refine (hload htarget _).mono fun ready y k hpost => ?_
    obtain ⟨hno, hyes⟩ := hpost
    cases ready with
    | false =>
      simp only [Bool.not_false, if_true, Attempt.wp_throw]
      exact hno rfl _
    | true =>
      obtain ⟨hkept, hwp⟩ := hyes rfl
      simp only [Bool.not_true, hkept, Bool.false_eq_true, if_false]
      refine hwp.mono fun r z k hz => ?_
      cases r with
      | ok _ => exact hz _
      | error f => exact hz

/-- A host lends no more than one run of memory can hold, -/
theorem size_of_lent [Device δ] {use : HostUse} {n : Nat} (h : s.hostLends use n = true) :
    n ≤ Bytes.largestRun :=
  of_decide_eq_true ((Bool.and_eq_true _ _).mp h).1

/-- and all of that where its memory does not run out. -/
theorem hostLends_eq [Device δ] [LendsFreely δ] (s : Site δ) (use : HostUse) (n : Nat) :
    s.hostLends use n = decide (n ≤ Bytes.largestRun) := by
  unfold hostLends
  rw [LendsFreely.lends, Bool.and_true]

theorem lent_of_size [Device δ] [LendsFreely δ] {use : HostUse} {n : Nat}
    (h : n ≤ Bytes.largestRun) : s.hostLends use n = true :=
  (hostLends_eq s use n).trans (decide_eq_true h)

theorem size_of_refused [Device δ] [LendsFreely δ] {use : HostUse} {n : Nat}
    (h : s.hostLends use n = false) : Bytes.largestRun < n :=
  Nat.lt_of_not_le fun hroom => Bool.false_ne_true (h.symm.trans (lent_of_size hroom))

/-- The shadow comes to exist unless the host refuses it. -/
theorem reserveShadow_ends [Device δ] (s : Site δ) : reserveShadow.Ends s fun ready y =>
    (ready = true ∧ s.buffer.shadow.isSome = true ∧ y = s) ∨
    (ready = true ∧ s.buffer.size ≤ Bytes.largestRun ∧
      y = { s with buffer := { s.buffer with shadow := some (Bytes.zeros s.buffer.size) } }) ∨
    (ready = false ∧ s.hostLends .shadow s.buffer.size = false ∧ y = s) := by
  intro j
  unfold reserveShadow
  simp only [Step.wp_bind, Step.wp_get, Step.wp_ite, wp_change, Step.wp_pure, Step.wp_note]
  split
  · rename_i hs
    exact .inl ⟨trivial, hs, trivial⟩
  · split
    · rename_i hlent
      exact .inr (.inl ⟨trivial, size_of_lent hlent, trivial⟩)
    · rename_i hrefused
      exact .inr (.inr ⟨trivial, Bool.eq_false_iff.mpr hrefused, trivial⟩)

/-- Host memory to convert vertices in is had, or the host refuses it. -/
theorem wp_borrowScratch [Device δ] (n : Nat) (Q : Except Failure Unit → Site δ → Journal → Prop) :
    (borrowScratch n).wp s j Q ↔
      if s.hostLends .scratch n = true then Q (.ok ()) s j
      else Q (.error .outOfMemory) s (j.record (.scratchRefused s.buffer.id)) := by
  unfold borrowScratch
  simp only [Attempt.wp_bind, Attempt.wp_always, Step.wp_get, Attempt.wp_ite, Attempt.wp_pure,
    Attempt.wp_note, Attempt.wp_throw]

/-- **How the shadow is made current**: it is current already, or the host refuses it, or it is
    there and loaded, whichever bytes it holds at first. -/
theorem refreshShadow_cases [Device δ] {P : Except Failure Unit → Site δ → Prop}
    (hempty : s.buffer.locations.isEmpty = false)
    (hkept : s.buffer.locations.has Location.discarded = false)
    (hshadow : ∀ m, s.buffer.shadow = some m → m.size = s.buffer.size)
    (hcurrent : s.buffer.locations.has Location.sysmem = true → P (.ok ()) s)
    (hrefused : s.buffer.locations.has Location.sysmem = false →
      s.hostLends .shadow s.buffer.size = false → ∀ f, P (.error f) s)
    (hload : s.buffer.locations.has Location.sysmem = false → ∀ m : ByteArray,
      m.size = s.buffer.size → s.buffer.shadow = some m ∨ s.buffer.size ≤ Bytes.largestRun →
        loadShadow.Ends { s with buffer := { s.buffer with shadow := some m } } fun r y =>
          match r with
          | .ok _ => P (.ok ()) { y with buffer := y.buffer.markValid Location.sysmem }
          | .error f => P (.error f) y) : refreshShadow.Ends s P := by
  intro j
  refine wp_refreshWith hempty hcurrent fun hs j => ?_
  have hloaded {y : Site δ} (m : ByteArray) (hm : m.size = s.buffer.size)
      (hroom : s.buffer.shadow = some m ∨ s.buffer.size ≤ Bytes.largestRun)
      (hy : y = { s with buffer := { s.buffer with shadow := some m } }) (j : Journal) :
      y.buffer.locations.has Location.discarded = false ∧ Attempt.wp loadShadow y j fun r y j =>
        match r with
        | .ok _ => ∀ j, Step.wp (pure ()) { y with buffer := y.buffer.markValid Location.sysmem } j
            fun _ y _ => P (.ok ()) y
        | .error f => P (.error f) y := by
    subst hy
    refine ⟨hkept, (hload hs m hm hroom).wp fun r y k hy => ?_⟩
    cases r with
    | error f => exact hy
    | ok _ => exact fun _ => hy
  refine (reserveShadow_ends s).wp fun ready y j hready => ?_
  rcases hready with ⟨rfl, hsome, hy⟩ | ⟨rfl, hroom, hy⟩ | ⟨rfl, hno, hy⟩
  · obtain ⟨m, hm⟩ := Option.isSome_iff_exists.mp hsome
    refine ⟨nofun, fun _ => hloaded m (hshadow m hm) (.inl hm) ?_ j⟩
    rw [hy, ← hm]
  · exact ⟨nofun, fun _ => hloaded _ (Bytes.size_zeros _) (.inr hroom) hy j⟩
  · rw [hy]
    exact ⟨fun _ => hrefused hs hno, nofun⟩

theorem wp_adoptObject (o : BufferObject) (Q : Unit → Site δ → Journal → Prop) :
    (adoptObject o).wp s j Q ↔
      let e := o.enlist s.machine.users s.buffer.user
      Q () ⟨{ s.buffer with object := some e.1, dirty := s.buffer.dirty.markAll },
        { s.machine with users := e.2 }⟩ j := Iff.rfl

end Storage

variable {s t : Site MemoryDevice} {k : Bool} {c : ByteArray} {j : Journal}

/-! ## 2. The shadow -/

/-- The object that is current, and what it holds. -/
theorem currentObject_eq (h : Coherent k c s.copies)
    (hg : s.buffer.locations.has Location.gpuObject = true) :
    ∃ o, s.buffer.currentObject = some o ∧ s.buffer.object = some o ∧ o.offset = 0 ∧
      s.copies.held = s.machine.device.bytes? o.handle := by
  obtain ⟨a, ha⟩ := Option.isSome_iff_exists.mp (h.present hg)
  obtain ⟨o, ho, rfl, hheld⟩ := copies_object_some ha
  refine ⟨o, ?_, ho, (h.object _ ha).1, hheld⟩
  unfold Buffer.currentObject
  rw [if_pos hg]
  exact ho

/-- The shadow is loaded with the content, from wherever the content is. -/
theorem loadShadow_ends (h : Coherent k c s.copies) (m : ByteArray)
    (hm : m.size = s.buffer.size)
    (hs : s.buffer.locations.has Location.sysmem = false) :
    loadShadow.Ends { s with buffer := { s.buffer with shadow := some m } } fun r y =>
      r = .ok () ∧ ∃ d, s.machine.device.Untouched d ∧
        y = { s with buffer := { s.buffer with shadow := some c }, machine.device := d } := by
  intro j
  unfold loadShadow
  simp only [Attempt.wp_bind, Attempt.wp_always, wp_current, Attempt.wp_ite]
  cases hc : s.buffer.locations.has Location.cleared with
  | true =>
    rw [if_pos rfl, wp_clearShadow]
    refine ⟨trivial, s.machine.device, .refl _, ?_⟩
    have hzero : c = Bytes.zeros s.buffer.size := h.cleared hc
    simp only [Option.map_some, hm]
    rw [← hzero]
  | false =>
    have hg : s.buffer.locations.has Location.gpuObject = true := by
      rcases h.somewhere with h' | h' | h'
      · exact absurd (hs.symm.trans h') Bool.false_ne_true
      · exact h'
      · exact absurd (hc.symm.trans h') Bool.false_ne_true
    obtain ⟨o, hcur, -, hoff, hheld⟩ := currentObject_eq h hg
    have hbytes : s.machine.device.bytes? o.handle = some c := by
      rw [← hheld]
      exact h.current hg fun _ => hs
    have hcur' : Buffer.currentObject { s.buffer with shadow := some m } = some o := hcur
    rw [if_neg Bool.false_ne_true]
    simp only [hcur']
    unfold fillShadow
    simp only [Attempt.wp_bind, Attempt.wp_always, wp_current, wp_onDevice, wp_change,
      Attempt.wp_answer, hoff, Nat.zero_add]
    have hsize : (m.extract 0 s.buffer.size).size = s.buffer.size := by
      rw [ByteArray.size_extract, hm]
      omega
    refine (MemoryDevice.transfer_out hbytes (by rw [Nat.zero_add]; exact Nat.le_of_eq h.size.symm)
      hsize MapFlags.write).wp fun reply d _ hpost => ?_
    obtain ⟨hok, hhost, hd⟩ := hpost
    refine ⟨hok, d, hd, ?_⟩
    have hc' : reply.host = c := by
      rw [hhost, Nat.zero_add]
      exact Bytes.extract_all (Nat.le_of_eq h.size)
    rw [hc', Bytes.splice_all (h.size.trans hm.symm)]

/-- **The shadow made current holds the content**, and nothing else changes, unless the host cannot
    hold the shadow. -/
theorem refreshShadow_ends (h : Coherent k c s.copies) :
    refreshShadow.Ends s fun r y =>
      (r = .ok () ∧ s.buffer.size ≤ Bytes.largestRun ∧ y.copies = s.copies.mirrored c ∧
        y.frame = s.frame ∧ y.buffer.object = s.buffer.object ∧
        s.machine.device.Untouched y.machine.device) ∨
      ((∃ f, r = .error f) ∧ y = s ∧ Bytes.largestRun < s.buffer.size) := by
  refine refreshShadow_cases h.isEmpty_eq_false h.kept (fun m hm => (h.shadow m hm).1)
    (fun hs => ?_) (fun _ hrefused f => ?_) fun hs m hm hroom => ?_
  · exact .inl ⟨rfl, (h.shadow c (h.mirrored hs)).2,
      (Copies.mirrored_eq_self (h.mirrored hs) hs).symm, rfl, rfl, .refl _⟩
  · exact .inr ⟨⟨f, rfl⟩, rfl, size_of_refused hrefused⟩
  · refine (loadShadow_ends h m hm hs).mono fun r y ⟨hr, d, hd, hy⟩ => ?_
    subst hr hy
    refine .inl ⟨rfl, hroom.elim (fun hm => (h.shadow m hm).2) id, ?_, rfl, rfl, hd⟩
    show Copies.markValid (copies
      { s with machine.device := d, buffer := { s.buffer with shadow := some c } })
        Location.sysmem = _
    rw [Copies.markValid_sysmem]
    unfold Copies.mirrored
    rw [← copies_untouched hd]
    rfl

/-! ## 3. The object -/

/-- There is an object, or the device creates one when asked. -/
def Reservable (s : Site MemoryDevice) : Prop :=
  s.buffer.backend.kind ≠ .noObject ∧ (s.buffer.object.isSome = true ∨
    s.buffer.objectAllowed = true ∧ s.machine.device.Grants s.buffer.size)

/-- The copies with a new object, which lacks everything. -/
def equipped (s : Site MemoryDevice) : Copies :=
  { s.copies with
    object := some ⟨⟨s.machine.device.nextHandle⟩, 0⟩
    held := some (Bytes.zeros s.buffer.size)
    dirty := s.buffer.dirty.markAll }

/-- The copies of a buffer whose object was refused for good. -/
def refused (s : Site MemoryDevice) : Copies :=
  { s.copies with objectAllowed := false, dirty := s.buffer.dirty.clear }

theorem objectRequest?_cases (b : Buffer) :
    (b.backend.kind = .noObject ∧ b.objectRequest? = none) ∨
      (b.backend.kind ≠ .noObject ∧ ∃ r, b.objectRequest? = some r ∧ r.size = b.size) := by
  unfold Buffer.objectRequest?
  cases b.backend with
  | noObject => exact .inl ⟨rfl, rfl⟩
  | legacy t => exact .inr ⟨nofun, _, rfl, rfl⟩
  | modern t => exact .inr ⟨nofun, _, rfl, rfl⟩

/-- New barriers are a new backend of the same kind. -/
theorem restartBarriers_eq (b : Buffer) : ∃ backend, b.restartBarriers = { b with backend } ∧
    backend.kind = b.backend.kind := by
  unfold Buffer.restartBarriers
  split
  · rename_i h
    exact ⟨_, rfl, by rw [h]; rfl⟩
  · exact ⟨b.backend, rfl, rfl⟩

theorem copies_restartBarriers (s : Site MemoryDevice) :
    copies { s with buffer := s.buffer.restartBarriers } = s.copies := by
  obtain ⟨backend, hb, hk⟩ := restartBarriers_eq s.buffer
  unfold copies objectBytes?
  simp only [hb, hk]

theorem frame_restartBarriers (s : Site MemoryDevice) :
    frame { s with buffer := s.buffer.restartBarriers } = s.frame := by
  obtain ⟨backend, hb, -⟩ := restartBarriers_eq s.buffer
  rw [hb]
  rfl

theorem object_restartBarriers (b : Buffer) : b.restartBarriers.object = b.object := by
  obtain ⟨backend, hb, -⟩ := restartBarriers_eq b
  rw [hb]

/-- To register a user changes neither the handle nor the offset of an object. -/
theorem placement_enlist (o : BufferObject) (t : UserTable) (u : UserId) :
    (o.enlist t u).1.handle = o.handle ∧ (o.enlist t u).1.offset = o.offset := by
  unfold BufferObject.enlist
  split
  · exact ⟨rfl, rfl⟩
  · exact ⟨rfl, rfl⟩

theorem newObject_ends (s : Site MemoryDevice) (request : ObjectRequest)
    (hsize : request.size = s.buffer.size) :
    (newObject request).Ends s fun r y =>
      (r = .ok () ∧ s.machine.device.Grants s.buffer.size ∧ y.copies = s.equipped ∧
        y.frame = s.frame ∧ Spares s y) ∨
      ((∃ f, r = .error f) ∧ ¬ s.machine.device.Grants s.buffer.size ∧ y = s) := by
  intro j
  unfold newObject
  simp only [Attempt.wp_bind, wp_tryDevice, Attempt.wp_always, wp_current, Attempt.wp_note,
    wp_adoptObject]
  refine (MemoryDevice.makeObject_ends s.machine.device request).wp fun r d j hr => ?_
  rcases hr with ⟨rfl, hg, hd⟩ | ⟨⟨f, rfl⟩, hg, hd⟩
  · rw [hsize] at hg hd
    obtain ⟨hh, ho⟩ := placement_enlist
      (.new ⟨⟨s.machine.device.nextHandle⟩, 0⟩ s.buffer.size) s.machine.users s.buffer.user
    have hbytes : d.bytes? (BufferObject.new ⟨⟨s.machine.device.nextHandle⟩, 0⟩
        s.buffer.size).handle = some (Bytes.zeros s.buffer.size) := hd.bytes
    refine .inl ⟨trivial, hg, ?_, rfl, hd.caps, hd.refusesObjects, hd.shiftsMappings, ?_, ?_, ?_⟩
    · unfold copies objectBytes? equipped
      simp only [Option.map_some, Option.bind_some, hh, ho]
      rw [hbytes]
      rfl
    · show _ ≤ d.nextHandle
      rw [hd.nextHandle]
      omega
    · intro o he
      cases he
      rw [hh]
      exact .inr (Nat.le_refl _)
    · intro h hlt _
      refine hd.others h fun he => ?_
      rw [he] at hlt
      exact Nat.lt_irrefl _ hlt
  · rw [hsize] at hg
    exact .inr ⟨⟨f, rfl⟩, hg, by rw [hd]⟩

/-- **The object comes to exist exactly where it is reservable.** A new one lacks everything; a
    refusal may be for good, and leaves no other trace. -/
theorem reserveObject_ends (s : Site MemoryDevice) : reserveObject.Ends s fun ready y =>
    y.frame = s.frame ∧ Spares s y ∧
    ((ready = true ∧ Reservable s ∧ s.buffer.object.isSome = true ∧ y = s) ∨
      (ready = true ∧ Reservable s ∧ s.buffer.object = none ∧ y.copies = s.equipped) ∨
      (ready = false ∧ ¬ Reservable s ∧
        (y.copies = s.copies ∨ (s.buffer.object = none ∧ y.copies = s.refused)))) := by
  intro j
  unfold reserveObject
  simp only [Step.wp_bind, wp_current]
  rcases objectRequest?_cases s.buffer with ⟨hk, hreq⟩ | ⟨hk, request, hreq, hsize⟩
  · simp only [hreq, Step.wp_bind, Step.wp_note, Step.wp_pure]
    exact ⟨trivial, .refl s, .inr (.inr ⟨trivial, fun hr => hr.1 hk, .inl trivial⟩)⟩
  · simp only [hreq, Step.wp_ite, Step.wp_pure]
    cases hobj : s.buffer.object with
    | some o =>
      rw [if_pos (by rw [Option.isSome_some])]
      refine ⟨trivial, .refl s, .inl ⟨trivial, ⟨hk, .inl ?_⟩, rfl, trivial⟩⟩
      rw [hobj]
      rfl
    | none =>
      rw [if_neg (by rw [Option.isSome_none]; exact Bool.false_ne_true)]
      cases hallowed : s.buffer.objectAllowed with
      | false =>
        simp only [Bool.not_false, if_true, Step.wp_bind, Step.wp_note, Step.wp_pure]
        refine ⟨trivial, .refl s, .inr (.inr ⟨trivial, ?_, .inl trivial⟩)⟩
        rintro ⟨-, hr | hr⟩
        · rw [hobj] at hr
          cases hr
        · exact Bool.false_ne_true (hallowed.symm.trans hr.1)
      | true =>
        simp only [Bool.not_true, Bool.false_eq_true, if_false, Step.wp_bind, Step.wp_noteAll,
          Attempt.wp_outcome]
        refine (newObject_ends s request hsize).wp fun r y j hr => ?_
        rcases hr with ⟨rfl, hg, hy, hf, hsp⟩ | ⟨⟨f, rfl⟩, hg, hy⟩
        · simp only [Step.wp_bind, wp_change, Step.wp_pure]
          refine ⟨(frame_restartBarriers y).trans hf, ?_, .inr (.inl ⟨trivial, ?_, trivial, ?_⟩)⟩
          · exact ⟨hsp.caps, hsp.refusesObjects, hsp.shiftsMappings, hsp.nextHandle,
              fun o ho => hsp.own o ((object_restartBarriers _).symm.trans ho), hsp.others⟩
          · exact ⟨hk, .inr ⟨hallowed, hg⟩⟩
          · exact (copies_restartBarriers y).trans hy
        · have hno : ¬ Reservable s := by
            rintro ⟨-, hr | hr⟩
            · rw [hobj] at hr
              cases hr
            · exact hg hr.2
          simp only [Step.wp_bind, Step.wp_pure]
          rw [hy]
          unfold objectRefused
          simp only [Step.wp_bind, wp_current]
          split
          · exact ⟨rfl, .of_untouched (.refl _) rfl,
              .inr (.inr ⟨trivial, hno, .inr ⟨trivial, rfl⟩⟩)⟩
          · exact ⟨rfl, .refl s, .inr (.inr ⟨trivial, hno, .inl rfl⟩)⟩

theorem fillObject_ends {o : BufferObject} {old data : ByteArray} {spans : List ByteRange}
    (ho : s.buffer.object = some o) (hoff : o.offset = 0) (hold : s.copies.held = some old)
    (hdata : data.size = old.size) (hspans : ∀ r ∈ spans, r.stop ≤ old.size) (flags : MapFlags) :
    (fillObject o.handle o.offset (.host data) spans flags).Ends s fun r y =>
      r = .ok () ∧ ∃ new, Overlaid spans data old new ∧
        y.copies = { s.copies with held := some new } ∧ y.frame = s.frame ∧
        y.buffer.object = s.buffer.object ∧ Spares s y := by
  intro j
  have hbytes : s.machine.device.bytes? o.handle = some old := by
    obtain ⟨o', ho', -, hheld⟩ := copies_object_some (a := ⟨o.handle, o.offset⟩)
      (show s.copies.object = _ by unfold copies; rw [ho]; rfl)
    rw [ho] at ho'
    cases ho'
    rw [← hheld]
    exact hold
  unfold fillObject
  simp only [Attempt.wp_bind, Attempt.wp_always, wp_onDevice, Attempt.wp_answer]
  rw [hoff]
  refine (MemoryDevice.transfer_spans hbytes hdata hspans flags).wp
    fun reply d j hpost => ?_
  obtain ⟨hok, new, hd, hnew⟩ := hpost
  exact ⟨hok, new, hnew, copies_rewrites ho hd, rfl, trivial, .of_rewrites ho hd rfl⟩

theorem materializeCleared_ends (h : Coherent k c s.copies)
    (hc : s.buffer.locations.has Location.cleared = true)
    (hroom : s.buffer.size ≤ Bytes.largestRun) :
    materializeCleared.Ends s fun r y =>
      r = .ok () ∧ y = { s with buffer := { s.buffer with shadow := some c } } := by
  intro j
  have hzero : c = Bytes.zeros s.buffer.size := h.cleared hc
  unfold materializeCleared
  simp only [Attempt.wp_bind, Attempt.wp_always, Attempt.wp_ite]
  refine (reserveShadow_ends s).wp fun ready y j hy => ?_
  rcases hy with ⟨rfl, hsome, hy⟩ | ⟨rfl, -, hy⟩ | ⟨-, hrefused, -⟩
  · rw [if_pos rfl, wp_clearShadow, hy]
    obtain ⟨m, hm⟩ := Option.isSome_iff_exists.mp hsome
    refine ⟨trivial, ?_⟩
    have hsize : m.size = s.buffer.size := (h.shadow m hm).1
    rw [hm, Option.map_some, hsize, ← hzero]
  · rw [if_pos rfl, wp_clearShadow, hy]
    refine ⟨trivial, ?_⟩
    simp only [Option.map_some, Bytes.size_zeros]
    rw [← hzero]
  · exact absurd hroom (Nat.not_le_of_lt (size_of_refused hrefused))

/-- The shadow may hold the content before it is current. -/
theorem coherent_shadow (h : Coherent k c s.copies) (hroom : s.buffer.size ≤ Bytes.largestRun) :
    Coherent k c { s.copies with shadow := some c } :=
  { h with
    shadow := fun m hm => by
      cases hm
      exact ⟨h.size, hroom⟩
    pinned := fun _ => rfl
    mirrored := fun _ => rfl }

/-- A frame that holds a conversion map converts. -/
theorem isConverted_iff {m : Option ConversionMap} (h : s.buffer.conversion.map = m) :
    s.buffer.isConverted = m.isSome := by
  unfold Buffer.isConverted
  rw [h]

theorem uploadPlain_ends (h : Coherent k c s.copies) {o : BufferObject} {old : ByteArray}
    (ho : s.buffer.object = some o) (hold : s.copies.held = some old)
    (hshadow : s.buffer.shadow = some c) : uploadPlain.Ends s fun r y =>
      r = .ok () ∧ ∃ new, Overlaid s.buffer.dirty.spans c old new ∧
        y.copies = { s.copies with held := some new } ∧ y.frame = s.frame ∧
        y.buffer.object = s.buffer.object ∧ Spares s y := by
  intro j
  obtain ⟨hoff, b, hb, hsize, -⟩ := h.object ⟨o.handle, o.offset⟩
    (by unfold copies; rw [ho]; rfl)
  have hbo : b = old := Option.some.inj (hb.symm.trans hold)
  subst hbo
  unfold uploadPlain
  simp only [Attempt.wp_bind, Attempt.wp_always, wp_current]
  split
  · rename_i m o' hm ho'
    cases hshadow.symm.trans hm
    cases ho.symm.trans ho'
    refine fillObject_ends ho hoff hold (h.size.trans hsize.symm) (fun r hr => ?_) _ j
    rw [hsize, ← h.spanned]
    exact h.spans r hr
  · rename_i hno
    exact absurd ho (hno c o hshadow)

theorem uploadConverted_ends (h : Coherent k c s.copies) {o : BufferObject} {old : ByteArray}
    {m : ConversionMap} (ho : s.buffer.object = some o) (hold : s.copies.held = some old)
    (hm : s.buffer.conversion.map = some m) : uploadConverted.Ends s fun r y =>
      r = .ok () ∧ ∃ new, Overlaid s.buffer.dirty.spans (m.convert c s.buffer.dirty.spans) old new ∧
        y.copies = { s.copies.mirrored c with pinned := true, held := some new } ∧
        y.frame = s.frame ∧ y.buffer.object = s.buffer.object ∧ Spares s y := by
  intro j
  obtain ⟨hoff, b, hb, hsize, hroom⟩ := h.object ⟨o.handle, o.offset⟩
    (by unfold copies; rw [ho]; rfl)
  have hbo : b = old := Option.some.inj (hb.symm.trans hold)
  subst hbo
  unfold uploadConverted
  simp only [Attempt.wp_bind, Attempt.wp_always, wp_current, wp_pinShadow]
  refine (refreshShadow_ends h).wp fun r y j hy => ?_
  rcases hy with ⟨rfl, -, hcopies, hframe, hobj, hd⟩ | ⟨-, -, hlarge⟩
  · have hmap : y.buffer.conversion.map = some m :=
      (congrArg (fun f : Frame => f.conversion.map) hframe).trans hm
    have hshadow : y.buffer.shadow = some c := congrArg Copies.shadow hcopies
    have hdirty : y.buffer.dirty = s.buffer.dirty := congrArg Copies.dirty hcopies
    have hyo : y.buffer.object = some o := hobj.trans ho
    have hheld : y.copies.held = some b := by
      rw [hcopies]
      exact hold
    simp only []
    split
    · rename_i m' shadow o' hm' hs' ho'
      cases hmap.symm.trans hm'
      cases hshadow.symm.trans hs'
      cases hyo.symm.trans ho'
      have hscratch : c.size ≤ Bytes.largestRun := (show c.size = s.buffer.size from h.size) ▸ hroom
      rw [← hdirty, Attempt.wp_bind, wp_borrowScratch, if_pos (lent_of_size hscratch)]
      refine (fillObject_ends (s := { y with buffer := { y.buffer with pinned := true } }) hyo hoff
        hheld ?_ (fun r hr => ?_) _).wp fun r z j hpost => ?_
      · rw [ConversionMap.size_convert]
        exact h.size.trans hsize.symm
      · rw [hsize, ← h.spanned]
        exact h.spans r (by rw [hdirty] at hr; exact hr)
      · obtain ⟨hr, new, hnew, hz, hzf, hzo, hsp⟩ := hpost
        refine ⟨hr, new, hnew, ?_, hzf.trans hframe, hzo.trans hobj, ?_⟩
        · rw [hz, ← hcopies]
          rfl
        · exact (Spares.of_untouched hd hobj).trans
            (Spares.trans (t := { y with buffer := { y.buffer with pinned := true } })
              (.of_untouched (.refl _) rfl) hsp)
    · rename_i hno
      exact absurd hyo (hno m c o hmap hshadow)
  · exact absurd hroom (Nat.not_le_of_lt hlarge)

/-- The upload from a shadow that holds the content, whichever way the vertices are held. -/
theorem upload_ends (h : Coherent k c s.copies) {o : BufferObject} {old : ByteArray}
    (ho : s.buffer.object = some o) (hold : s.copies.held = some old)
    (ht : t = { s with buffer := { s.buffer with shadow := some c } }) :
    Attempt.Ends (if t.buffer.isConverted then uploadConverted else uploadPlain) t fun r y =>
      r = .ok () ∧ ∃ new,
        Overlaid s.buffer.dirty.spans (s.copies.source s.buffer.conversion.map c) old new ∧
        y.copies = s.copies.filled s.buffer.isConverted c new ∧ y.frame = s.frame ∧
        y.buffer.object = s.buffer.object ∧ Spares s y := by
  subst ht
  let t : Site MemoryDevice := { s with buffer := { s.buffer with shadow := some c } }
  have hroom : s.buffer.size ≤ Bytes.largestRun :=
    h.room_of_object (copies_object_isSome.trans (by rw [ho]; rfl))
  have hco : Coherent k c t.copies := coherent_shadow h hroom
  have hspare : Spares s t := .of_untouched (.refl _) rfl
  cases hm : s.buffer.conversion.map with
  | some m =>
    have hconv : s.buffer.isConverted = true := isConverted_iff hm
    rw [if_pos (show t.buffer.isConverted = true from hconv)]
    refine (uploadConverted_ends (s := t) hco ho hold hm).mono fun r y hy => ?_
    obtain ⟨hr, new, hnew, hcopies, hframe, hobj, hsp⟩ := hy
    exact ⟨hr, new, hnew, by rw [hconv]; exact hcopies, hframe, hobj, hspare.trans hsp⟩
  | none =>
    have hconv : s.buffer.isConverted = false := isConverted_iff hm
    rw [show t.buffer.isConverted = false from hconv, if_neg Bool.false_ne_true]
    refine (uploadPlain_ends (s := t) hco ho hold rfl).mono fun r y hy => ?_
    obtain ⟨hr, new, hnew, hcopies, hframe, hobj, hsp⟩ := hy
    exact ⟨hr, new, hnew, by rw [hconv]; exact hcopies, hframe, hobj, hspare.trans hsp⟩

/-- **The object is loaded from the shadow in the dirty spans**, converted where there is a
    conversion map. -/
theorem loadObject_ends (h : Coherent k c s.copies) {o : BufferObject} {old : ByteArray}
    (ho : s.buffer.object = some o) (hold : s.copies.held = some old)
    (hg : s.buffer.locations.has Location.gpuObject = false) : loadObject.Ends s fun r y =>
      r = .ok () ∧ ∃ new,
        Overlaid s.buffer.dirty.spans (s.copies.source s.buffer.conversion.map c) old new ∧
        y.copies = s.copies.filled s.buffer.isConverted c new ∧ y.frame = s.frame ∧
        y.buffer.object = s.buffer.object ∧ Spares s y := by
  intro j
  have hroom : s.buffer.size ≤ Bytes.largestRun :=
    h.room_of_object (copies_object_isSome.trans (by rw [ho]; rfl))
  unfold loadObject
  simp only [Attempt.wp_bind, Attempt.wp_always, wp_current, Attempt.wp_ite]
  cases hc : s.buffer.locations.has Location.cleared with
  | true =>
    rw [if_pos rfl]
    refine (materializeCleared_ends h hc hroom).wp fun r y j hpost => ?_
    obtain ⟨hr, hy⟩ := hpost
    subst hr
    exact (Attempt.wp_ite _ _ _ _).mp (upload_ends h ho hold hy j)
  | false =>
    have hs : s.buffer.locations.has Location.sysmem = true := by
      rcases h.somewhere with h' | h' | h'
      · exact h'
      · exact absurd (hg.symm.trans h') Bool.false_ne_true
      · exact absurd (hc.symm.trans h') Bool.false_ne_true
    have hself : s = { s with buffer := { s.buffer with shadow := some c } } := by
      rw [← h.mirrored hs]
      rfl
    rw [if_neg Bool.false_ne_true]
    exact (Attempt.wp_ite _ _ _ _).mp (upload_ends h ho hold hself j)

/-- The shadow goes away unless it must stay. -/
theorem giveUpShadow_ends (s : Site MemoryDevice) : giveUpShadow.Ends s fun _ y =>
    y.copies = s.copies.released ∧ y.frame = s.frame ∧ y.buffer.object = s.buffer.object ∧
      y.machine = s.machine := by
  intro j
  unfold giveUpShadow
  simp only [Step.wp_bind, wp_current, Step.wp_ite, Step.wp_note, wp_declareStale, wp_change]
  cases hp : s.buffer.pinned with
  | true =>
    rw [if_pos rfl, Copies.released_of_pinned hp]
    exact ⟨rfl, trivial, trivial, trivial⟩
  | false =>
    rw [if_neg Bool.false_ne_true, Copies.released_of_not_pinned hp]
    refine ⟨?_, rfl, rfl, trivial⟩
    show { s.copies.markStale Location.sysmem 0 0 with shadow := none } = _
    rw [Copies.markStale_sysmem]

theorem releaseShadow_ends (hs : s.buffer.shadow.isSome = true) :
    releaseShadow.Ends s fun _ y =>
      y.copies = (if s.buffer.isDynamic then s.copies else s.copies.released) ∧
        y.frame = s.frame ∧ y.buffer.object = s.buffer.object ∧ y.machine = s.machine := by
  intro j
  unfold releaseShadow
  simp only [Step.wp_bind, wp_current, Step.wp_ite, Step.wp_pure, hs, Bool.true_and]
  cases s.buffer.isDynamic with
  | true => exact ⟨rfl, trivial, trivial, trivial⟩
  | false => exact giveUpShadow_ends s j

/-- A load and what follows it: the object is declared current, and the shadow is given up where
    it is superfluous. -/
theorem loadObject_settles (h : Coherent k c s.copies) (ho : s.buffer.object.isSome = true)
    (hg : s.buffer.locations.has Location.gpuObject = false) (j : Journal) :
    loadObject.wp s j fun r y _ => r = .ok () ∧ ∀ j, releaseShadow.wp
      { y with buffer := y.buffer.markValid Location.gpuObject } j fun _ z _ =>
        z.frame = s.frame ∧ Spares s z ∧ ∃ old new, s.copies.held = some old ∧
          Overlaid s.buffer.dirty.spans (s.copies.source s.buffer.conversion.map c) old new ∧
          z.copies = s.copies.loaded s.buffer.isConverted s.buffer.isDynamic c new := by
  obtain ⟨o, ho⟩ := Option.isSome_iff_exists.mp ho
  obtain ⟨-, old, hold, -, -⟩ := h.object ⟨o.handle, o.offset⟩ (by unfold copies; rw [ho]; rfl)
  refine (loadObject_ends h ho hold hg).wp fun r y j hy => ?_
  obtain ⟨hr, new, hnew, hcopies, hframe, hobj, hsp⟩ := hy
  refine ⟨hr, fun j => ?_⟩
  have hshadow : y.buffer.shadow.isSome = true := by
    rw [show y.buffer.shadow = _ from congrArg Copies.shadow hcopies]
    unfold Copies.filled
    split <;> rfl
  refine (releaseShadow_ends (s := { y with buffer := y.buffer.markValid Location.gpuObject })
    hshadow).wp fun _ z j ⟨hz, hzf, hzo, hzm⟩ => ?_
  refine ⟨hzf.trans hframe, ?_, old, new, hold, hnew, ?_⟩
  · refine hsp.trans (.of_untouched ?_ hzo)
    rw [hzm]
    exact .refl _
  · rw [hz, copies_markValid, hcopies]
    unfold Copies.loaded
    rw [show Buffer.isDynamic (y.buffer.markValid Location.gpuObject) = s.buffer.isDynamic from
      isDynamic_eq hframe]

theorem held_none (h : s.buffer.object = none) : s.copies.held = none := by
  show s.objectBytes? = none
  unfold objectBytes?
  rw [h]
  rfl

/-- A new object lacks everything, so that the content stays what it is. -/
theorem coherent_equipped (h : Coherent k c s.copies) (hobj : s.buffer.object = none)
    (hr : Reservable s) : Coherent k c s.equipped := by
  have hg : ¬ s.buffer.locations.has Location.gpuObject = true := by
    intro hg
    have := h.present hg
    rw [copies_object_isSome, hobj] at this
    cases this
  have hroom : s.buffer.size ≤ Bytes.largestRun := by
    rcases hr.2 with hsome | ⟨-, hroom, -⟩
    · rw [hobj] at hsome
      cases hsome
    · exact hroom
  refine { h with
    spans := DirtySpans.Fits.markAll _
    object := ?_
    held := ?_
    present := fun hg' => absurd hg' hg
    current := fun hg' => absurd hg' hg
    stale := ?_ }
  · rintro a ha
    cases ha
    exact ⟨rfl, _, rfl, Bytes.size_zeros _, hroom⟩
  · rintro b hb
    cases hb
    exact Bytes.size_zeros _
  · rintro b hb - - - i hi
    cases hb
    have hsize : s.buffer.dirty.size = s.buffer.size := h.spanned
    have hle : s.buffer.size ≤ i := by
      refine Nat.le_of_not_lt fun hlt => hi (DirtySpans.covers_markAll ?_)
      rw [hsize]
      exact hlt
    rw [Bytes.byteAt?_eq_none_iff.mpr (by rw [Bytes.size_zeros]; exact hle),
      Bytes.byteAt?_eq_none_iff.mpr (by rw [h.size]; exact hle)]

/-- A refusal leaves the content what it is. -/
theorem coherent_refused (h : Coherent k c s.copies) (hobj : s.buffer.object = none) :
    Coherent k c s.refused :=
  { h with
    spans := DirtySpans.Fits.clear _
    allowed := nofun
    stale := fun b hb => by
      rw [show s.refused.held = none from held_none hobj] at hb
      cases hb }

/-- **The object made current**: it was so already; or none can be had; or it was loaded, after it
    came to exist where there was none (`v` are the copies before the load). -/
theorem refreshObject_ends (h : Coherent k c s.copies) : refreshObject.Ends s fun r y =>
    y.frame = s.frame ∧ Spares s y ∧
    ((r = .ok () ∧ s.buffer.locations.has Location.gpuObject = true ∧ y = s) ∨
      ((∃ f, r = .error f) ∧ s.buffer.locations.has Location.gpuObject = false ∧ ¬ Reservable s ∧
        (y.copies = s.copies ∨ (s.buffer.object = none ∧ y.copies = s.refused))) ∨
      (r = .ok () ∧ s.buffer.locations.has Location.gpuObject = false ∧ Reservable s ∧
        ∃ v old new, ((s.buffer.object.isSome = true ∧ v = s.copies) ∨
            (s.buffer.object = none ∧ v = s.equipped)) ∧
          v.held = some old ∧
          Overlaid v.dirty.spans (v.source s.buffer.conversion.map c) old new ∧
          y.copies = v.loaded s.buffer.isConverted s.buffer.isDynamic c new)) := by
  intro j
  refine wp_refreshWith h.isEmpty_eq_false (fun hg => ?_) fun hg j => ?_
  · exact ⟨rfl, .refl s, .inl ⟨rfl, hg, rfl⟩⟩
  · refine (reserveObject_ends s).wp fun ready t j ⟨hframe, hsp, ht⟩ => ?_
    rcases ht with ⟨rfl, hr, hobj, ht⟩ | ⟨rfl, hr, hobj, ht⟩ | ⟨rfl, hr, ht⟩
    · rw [ht]
      refine ⟨nofun, fun _ => ⟨h.kept, (loadObject_settles h hobj hg j).mono fun r y j hy => ?_⟩⟩
      obtain ⟨rfl, hy⟩ := hy
      refine fun j => (hy j).mono fun _ z j ⟨hzf, hzsp, old, new, hold, hnew, hz⟩ => ?_
      exact ⟨hzf, hzsp, .inr (.inr ⟨rfl, hg, hr, _, old, new, .inl ⟨hobj, rfl⟩, hold, hnew, hz⟩)⟩
    · have hco : Coherent k c t.copies := by
        rw [ht]
        exact coherent_equipped h hobj hr
      have htg : t.buffer.locations = s.buffer.locations := congrArg Copies.locations ht
      have hto : t.buffer.object.isSome = true := by
        rw [← copies_object_isSome, ht]
        rfl
      have hdirty : t.buffer.dirty = _ := congrArg Copies.dirty ht
      have hmap : t.buffer.conversion.map = s.buffer.conversion.map :=
        congrArg (fun f : Frame => f.conversion.map) hframe
      refine ⟨nofun, fun _ => ⟨hco.kept, ?_⟩⟩
      refine (loadObject_settles hco hto (by rw [htg]; exact hg) j).mono fun r y j hy => ?_
      obtain ⟨rfl, hy⟩ := hy
      refine fun j => (hy j).mono fun _ z j ⟨hzf, hzsp, old, new, hold, hnew, hz⟩ => ?_
      refine ⟨hzf.trans hframe, hsp.trans hzsp, .inr (.inr ⟨rfl, hg, hr, _, old, new,
        .inr ⟨hobj, rfl⟩, ?_, ?_, ?_⟩)⟩
      · rw [← ht]
        exact hold
      · rw [← ht, ← hmap]
        exact hnew
      · rw [← ht, ← isConverted_eq hframe, ← isDynamic_eq hframe]
        exact hz
    · exact ⟨fun _ f => ⟨hframe, hsp, .inr (.inl ⟨⟨f, rfl⟩, hg, hr, ht⟩)⟩, nofun⟩

end Site

end BufferCoherence
