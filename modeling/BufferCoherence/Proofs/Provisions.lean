import BufferCoherence.Proofs.Anchors
import BufferCoherence.Proofs.Conduct
import BufferCoherence.Proofs.Lending
import BufferCoherence.Proofs.Rollback

/-!
# What a mapping needs

Why a mapping can fail, where the content of the buffer changes often and no vertices are converted:
a call of the device failed, or host memory has no room for the buffer. There is no other reason.

* `Monitored` is a device, any at all, that remembers whether one of its calls failed;
* `Buffer.Furnished`: whatever counts as current has storage. One lemma for each step of a mapping
  says that the buffer stays so, also where the step fails, and that a step that fails is excused
  (`Site.Excused`);
* `Site.map_accounted` sums them up, for a range inside of a buffer of which nothing is mapped, and
  `Machine.create_lent` says when there is such a buffer.
-/

namespace BufferCoherence

variable {δ α : Type}

/-! ## 1. Monitored devices -/

/-- A device, and whether one of its calls failed. -/
structure Monitored (δ : Type) where
  device : δ
  failed : Bool

namespace Monitored

/-- The outcome of a call is looked at. -/
def observe (d : Monitored δ) (outcome : Except Failure α) : Monitored δ :=
  { d with failed := d.failed || !outcome.isOk }

/-- A step of the device that is monitored. -/
def forward (s : Step δ α) : Step (Monitored δ) α :=
  s.onPart (·.device) fun device d => { d with device }

/-- An attempt of the device that is monitored. -/
def tryForward (a : Attempt δ α) : Attempt (Monitored δ) α := do
  let outcome ← always (forward a.outcome)
  modify (·.observe outcome)
  answer outcome

instance [Device δ] : Device (Monitored δ) where
  caps d := Device.caps d.device
  live d h := Device.live d.device h
  makeObject request := tryForward (Device.makeObject request)
  freeObject h := forward (Device.freeObject h)
  transfer target source ranges flags := do
    let reply ← forward (Device.transfer target source ranges flags)
    modify (·.observe reply.outcome)
    pure reply
  openMapping h offset size flags := tryForward (Device.openMapping h offset size flags)
  closeMapping h ranges := forward (Device.closeMapping h ranges)
  recordBarrier b := forward (Device.recordBarrier b)
  captureActive d h := Device.captureActive d.device h
  endCapture := forward Device.endCapture
  peek d h position size := Device.peek d.device h position size
  poke h position data d := { d with device := Device.poke h position data d.device }
  hostLends d use size := Device.hostLends d.device use size

instance [Device δ] [LendsFreely δ] : LendsFreely (Monitored δ) :=
  ⟨fun d use size => LendsFreely.lends d.device use size⟩

/-- Monitoring changes nothing about what an attempt does. -/
theorem wp_tryForward (a : Attempt δ α) (d : Monitored δ) (j : Journal)
    (Q : Except Failure α → Monitored δ → Journal → Prop) : (tryForward a).wp d j Q ↔
      a.wp d.device j fun r e k => Q r (observe { d with device := e } r) k := by
  unfold tryForward forward
  simp only [Attempt.wp_bind, Attempt.wp_always, Step.wp_onPart, Attempt.wp_outcome,
    Attempt.wp_modify, Attempt.wp_answer]

theorem failed_observe {d : Monitored δ} (h : d.failed = true) (outcome : Except Failure α) :
    (d.observe outcome).failed = true := by
  unfold observe
  rw [h, Bool.true_or]

theorem observe_failed (d : Monitored δ) {outcome : Except Failure α} {f : Failure}
    (h : outcome = .error f) : (d.observe outcome).failed = true := by
  unfold observe
  rw [h]
  exact Bool.or_true _

theorem tryForward_ends (a : Attempt δ α) (d : Monitored δ) : (tryForward a).Ends d fun r e =>
    (∀ f, r = .error f → e.failed = true) ∧ (d.failed = true → e.failed = true) := by
  intro j
  rw [wp_tryForward]
  exact Attempt.wp_any fun r e k =>
    ⟨fun f hf => observe_failed _ hf, fun hd => failed_observe hd r⟩

variable [Device δ]

theorem transfer_ends (target : TransferTarget) (source : TransferSource)
    (ranges : List ByteRange) (flags : MapFlags) (d : Monitored δ) :
    (Device.transfer target source ranges flags).Ends d fun reply e =>
      (∀ f, reply.outcome = .error f → e.failed = true) ∧ (d.failed = true → e.failed = true) :=
  fun _ => ⟨fun _ hf => observe_failed _ hf, fun hd => failed_observe hd _⟩

theorem failed_quiet {d e : Monitored δ} (h : Device.Quiet d e) (hd : d.failed = true) :
    e.failed = true := by
  cases h with
  | transfer target source ranges flags j =>
    exact (transfer_ends target source ranges flags d j).2 hd
  | openMapping a offset size flags j => exact (tryForward_ends _ d j).2 hd
  | _ => exact hd

/-- A failure is not forgotten. -/
theorem failed_asked {allowed careful : Prop} {d e : Monitored δ}
    (h : Device.Asked allowed careful d e) (hd : d.failed = true) : e.failed = true := by
  induction h with
  | here => exact hd
  | quiet _ call ih => exact failed_quiet call ih
  | made _ _ request j ih => exact (tryForward_ends _ _ j).2 ih
  | freed _ a _ j ih => exact ih

end Monitored

/-! ## 2. Furnished buffers -/

namespace Buffer

/-- **Whatever counts as current has storage**, in a buffer whose content changes often and whose
    vertices are not converted. -/
structure Furnished (b : Buffer) : Prop where
  dynamic : b.isDynamic = true
  plain : b.isConverted = false
  capable : b.objectAllowed = true → b.backend.kind ≠ .noObject
  named : Location.all.has b.locations = true
  shadow : b.locations.has Location.sysmem = true → b.shadow.isSome = true
  object : b.locations.has Location.gpuObject = true → b.object.isSome = true

variable {b b' : Buffer}

/-- A copy that has storage may count as current. -/
theorem Furnished.markValid (h : b.Furnished) {l : Location} (hl : Location.all.has l = true)
    (hs : l.has Location.sysmem = true → b.shadow.isSome = true)
    (ho : l.has Location.gpuObject = true → b.object.isSome = true) : (b.markValid l).Furnished :=
  { h with
    named := by
      show Location.all.has (b.locations ∪ l) = true
      rw [FlagSet.has_union, h.named, hl]
      rfl
    shadow := fun hsys => by
      have hor : (b.locations.has Location.sysmem || l.has Location.sysmem) = true :=
        (Location.has_union b.locations l).1 ▸ hsys
      exact (Bool.or_eq_true_iff.mp hor).elim h.shadow hs
    object := fun hg => by
      have hor : (b.locations.has Location.gpuObject || l.has Location.gpuObject) = true :=
        (Location.has_union b.locations l).2.1 ▸ hg
      exact (Bool.or_eq_true_iff.mp hor).elim h.object ho }

/-- What is stale needs no storage. -/
theorem Furnished.markStale (h : b.Furnished) (l : Location) (offset size : Nat) :
    (b.markStale l offset size).Furnished :=
  { h with
    named := (FlagSet.has_iff _ _).mpr fun i hi => by
      have hboth : (b.locations.bits.getLsbD i && (~~~ l.bits).getLsbD i) = true := by
        rw [← BitVec.getLsbD_and]
        exact hi
      exact (FlagSet.has_iff _ _).mp h.named i (Bool.and_eq_true_iff.mp hboth).1
    shadow := fun hs => by
      have hand : (b.locations.has Location.sysmem && !l.has Location.sysmem) = true :=
        (Location.has_sdiff b.locations l).1 ▸ hs
      exact h.shadow (Bool.and_eq_true_iff.mp hand).1
    object := fun hg => by
      have hand : (b.locations.has Location.gpuObject && !l.has Location.gpuObject) = true :=
        (Location.has_sdiff b.locations l).2.1 ▸ hg
      exact h.object (Bool.and_eq_true_iff.mp hand).1 }

/-- Storage that is there may be another one. -/
theorem Furnished.stored (h : b.Furnished) {shadow : Option ByteArray}
    {object : Option BufferObject} (hs : b.shadow.isSome = true → shadow.isSome = true)
    (ho : b.object.isSome = true → object.isSome = true) :
    { b with shadow, object }.Furnished :=
  { h with
    shadow := fun hl => hs (h.shadow hl)
    object := fun hl => ho (h.object hl) }

/-- Something is current, where it is neither the shadow nor nothing yet. -/
theorem Furnished.object_of_rest (h : b.Furnished) (hne : b.locations.isEmpty = false)
    (hs : b.locations.has Location.sysmem = false)
    (hd : b.locations.has Location.discarded = false)
    (hc : b.locations.has Location.cleared = false) :
    b.locations.has Location.gpuObject = true := by
  rcases Location.has_of_named h.named hne with h' | h' | h' | h'
  · exact absurd (hs.symm.trans h') Bool.false_ne_true
  · exact h'
  · exact absurd (hd.symm.trans h') Bool.false_ne_true
  · exact absurd (hc.symm.trans h') Bool.false_ne_true

end Buffer

namespace Site

variable [Device δ] {s t : Site (Monitored δ)}

/-- **There is a reason to fail**: a call of the device failed, or host memory has no room for the
    buffer. -/
def Excused (s : Site (Monitored δ)) : Prop :=
  s.machine.device.failed = true ∨ Bytes.largestRun < s.buffer.size

/-- The buffer is furnished, and whatever failed had a reason to. -/
structure Accounted (outcome : Except Failure α) (s : Site (Monitored δ)) : Prop where
  furnished : s.buffer.Furnished
  excused : ∀ f, outcome = .error f → s.Excused

omit [Device δ] in
theorem Accounted.ok (h : s.buffer.Furnished) (a : α) : Accounted (.ok a) s := ⟨h, nofun⟩

/-- A reason does not go away. -/
theorem Excused.after (h : s.Excused) (ht : s.Conducts t) : t.Excused :=
  h.imp (Monitored.failed_asked ht.asked) fun hlarge => by
    rw [show t.buffer.size = s.buffer.size from congrArg Nature.size ht.buffer.nature]
    exact hlarge

/-! ## 3. Copies made current -/

variable [LendsFreely δ]

theorem reserveShadow_furnished (h : s.buffer.Furnished) : reserveShadow.Ends s fun ready t =>
    (∃ m, t = { s with buffer := { s.buffer with shadow := m } }) ∧ t.buffer.Furnished ∧
      (ready = true → t.buffer.shadow.isSome = true) ∧ (ready = false → t.Excused) := by
  refine (reserveShadow_ends s).mono fun ready t ht => ?_
  rcases ht with ⟨rfl, hsome, rfl⟩ | ⟨rfl, -, rfl⟩ | ⟨rfl, hrefused, rfl⟩
  · exact ⟨⟨_, rfl⟩, h, fun _ => hsome, nofun⟩
  · exact ⟨⟨_, rfl⟩, h.stored (fun _ => rfl) id, fun _ => rfl, nofun⟩
  · exact ⟨⟨_, rfl⟩, h, nofun, fun _ => .inr (size_of_refused hrefused)⟩

omit [LendsFreely δ] in
/-- An object is refused by the device alone. -/
theorem reserveObject_excused (ha : s.buffer.objectAllowed = true)
    (hkind : s.buffer.backend.kind ≠ .noObject) : reserveObject.Ends s fun ready t =>
      ready = false → t.machine.device.failed = true := by
  intro j
  unfold reserveObject
  rw [Step.wp_bind, wp_current]
  rcases objectRequest?_cases s.buffer with ⟨hno, -⟩ | ⟨-, request, hreq, -⟩
  · exact absurd hno hkind
  · rw [hreq]
    simp only [Step.wp_ite, Step.wp_pure, Step.wp_bind, Step.wp_noteAll, Attempt.wp_outcome,
      ha, Bool.not_true, Bool.false_eq_true, if_false]
    split
    · rintro ⟨⟩
    · unfold newObject
      simp only [Attempt.wp_bind, wp_tryDevice, Attempt.wp_always, wp_current, wp_adoptObject,
        Attempt.wp_note]
      refine (Monitored.tryForward_ends _ _).wp fun r d k hr => ?_
      cases r with
      | ok a =>
        simp only [Step.wp_bind, wp_change, Step.wp_pure]
        rintro ⟨⟩
      | error f =>
        simp only [Step.wp_bind, Step.wp_pure]
        exact (objectRefused_obeys f _).wp fun _ _ _ hu _ =>
          Monitored.failed_asked hu.asked (hr.1 f rfl)

omit [LendsFreely δ] in
theorem reserveObject_furnished (h : s.buffer.Furnished) (ha : s.buffer.objectAllowed = true) :
    reserveObject.Ends s fun ready t => t.buffer.Furnished ∧
      t.buffer.locations = s.buffer.locations ∧ (ready = true → t.buffer.object.isSome = true) ∧
      (ready = false → t.Excused) := by
  have hkind := h.capable ha
  cases ho : s.buffer.object.isSome with
  | true =>
    refine (reserveObject_present ho hkind).mono fun ready t ht => ?_
    obtain ⟨rfl, rfl⟩ := ht
    exact ⟨h, rfl, fun _ => ho, nofun⟩
  | false =>
    have hends := ((reserveObject_resembles s).and (reserveObject_obeys s)).and
      ((reserveObject_ready s).and (reserveObject_excused ha hkind))
    refine hends.mono fun ready t hpost => ?_
    obtain ⟨⟨hsame, hobeys⟩, hready, hexcused⟩ := hpost
    have hnature := hobeys.buffer.nature
    refine ⟨⟨?_, ?_, fun hallowed => ?_, ?_, ?_, fun hg => ?_⟩, hsame.locations,
      fun hr => (hready hr).1, fun hr => .inl (hexcused hr)⟩
    · rw [show t.buffer.isDynamic = s.buffer.isDynamic from
        congrArg (fun n : Nature => n.usage.has Usage.dynamic) hnature]
      exact h.dynamic
    · exact (congrArg (·.map.isSome) hsame.conversion).trans h.plain
    · rw [show t.buffer.backend.kind = s.buffer.backend.kind from congrArg Nature.kind hnature]
      exact h.capable (hobeys.buffer.allowed hallowed)
    · rw [hsame.locations]
      exact h.named
    · rw [hsame.locations, hsame.shadow]
      exact h.shadow
    · -- an object that was not there was not current
      rw [hsame.locations] at hg
      exact absurd (ho.symm.trans (h.object hg)) Bool.false_ne_true

omit [Device δ] in
/-- A buffer without any current copy counts as discarded. -/
theorem giveUpLost_furnished (h : s.buffer.Furnished) : giveUpLost.Ends s fun _ t =>
    t.buffer.Furnished ∧ t.buffer.locations.isEmpty = false ∧
      t.buffer.objectAllowed = s.buffer.objectAllowed ∧
      (t.buffer.locations = s.buffer.locations ∨
        t.buffer.locations.has Location.discarded = true) := by
  obtain ⟨hno, hno', -⟩ := Location.apart.2.2.1
  intro j
  unfold giveUpLost
  simp only [Step.wp_bind, wp_current, Step.wp_ite, Step.wp_note, wp_declareCurrent, Step.wp_pure]
  split
  · have hd : (s.buffer.markValid Location.discarded).locations.has Location.discarded = true := by
      simp [Buffer.markValid]
    exact ⟨h.markValid Location.all_has.2.2.1
      (fun hs => absurd (hno.symm.trans hs) Bool.false_ne_true)
      (fun hg => absurd (hno'.symm.trans hg) Bool.false_ne_true),
      FlagSet.isEmpty_of_has Location.isFlag.2.2.1 hd, rfl, .inr hd⟩
  · rename_i hne
    exact ⟨h, (Bool.not_eq_true _).mp hne, trivial, .inl trivial⟩

omit [Device δ] in
/-- **A copy is made current, or the failure is excused**: `S` says that the copy has storage. -/
theorem refreshWith_accounted {target : Location} {prepare : Step (Site (Monitored δ)) Bool}
    {load : Attempt (Site (Monitored δ)) Unit} {settle : Step (Site (Monitored δ)) Unit}
    {S : Buffer → Prop} (h : s.buffer.Furnished)
    (hflag : target.IsFlag) (happart : Location.discarded.has target = false)
    (hvalid : ∀ b : Buffer, b.Furnished → S b → (b.markValid target).Furnished)
    (hprepare : ∀ u : Site (Monitored δ), u.buffer.Furnished →
      u.buffer.objectAllowed = s.buffer.objectAllowed → prepare.Ends u fun ready t =>
        t.buffer.Furnished ∧ t.buffer.locations = u.buffer.locations ∧
          (ready = true → S t.buffer) ∧ (ready = false → t.Excused))
    (hload : ∀ u : Site (Monitored δ), u.buffer.Furnished → S u.buffer →
      u.buffer.locations.isEmpty = false → u.buffer.locations.has target = false →
      u.buffer.locations.has Location.discarded = false →
        load.Ends u fun r t => Accounted r t ∧ S t.buffer)
    (hsettle : ∀ u : Site (Monitored δ), u.buffer.Furnished → settle.Ends u fun _ t => t = u) :
    (refreshWith target prepare load settle).Ends s fun r t =>
      Accounted r t ∧ (r = .ok () → t.buffer.locations.has target = true) := by
  have hcurrent (b : Buffer) : (b.markValid target).locations.has target = true := by
    show (b.locations ∪ target).has target = true
    rw [FlagSet.has_union_left hflag, FlagSet.has_self, Bool.or_true]
  intro j
  unfold refreshWith
  simp only [Attempt.wp_bind, Attempt.wp_always, wp_current, Attempt.wp_ite, Attempt.wp_pure,
    Attempt.wp_note, Attempt.wp_throw, wp_declareCurrent, wp_declareStale]
  split
  · rename_i hs
    exact ⟨.ok h (), fun _ => hs⟩
  · rename_i hs
    refine (giveUpLost_furnished h).wp fun _ u k hu => ?_
    obtain ⟨hu, hne, hallowed, hlocations⟩ := hu
    refine (hprepare u hu hallowed).wp fun ready t k ht => ?_
    obtain ⟨ht, hkept, hready, hexcused⟩ := ht
    cases ready with
    | false => exact ⟨⟨ht, fun _ _ => hexcused rfl⟩, by rintro ⟨⟩⟩
    | true =>
      have hS := hready rfl
      simp only [Bool.not_true, Bool.false_eq_true, if_false]
      split
      · refine ⟨.ok ((hvalid _ ht hS).markStale _ _ _) (), fun _ => ?_⟩
        show ((t.buffer.markValid target).locations \ Location.discarded).has target = true
        rw [FlagSet.has_sdiff_left hflag, hcurrent, happart]
        rfl
      · rename_i hd
        -- what is not discarded had a copy from the start
        have hsame : t.buffer.locations = s.buffer.locations := by
          rcases hlocations with hl | hl
          · exact hkept.trans hl
          · rw [← hkept] at hl
            exact absurd hl hd
        refine (hload t ht hS (by rw [hkept]; exact hne) (by rw [hsame]; simpa using hs)
          ((Bool.not_eq_true _).mp hd)).wp fun r v k hv => ?_
        cases r with
        | error f => exact ⟨hv.1, by rintro ⟨⟩⟩
        | ok _ =>
          have hvalid' := hvalid _ hv.1.furnished hv.2
          refine (hsettle { v with buffer := v.buffer.markValid target } hvalid').wp
            fun _ w k hw => ?_
          rw [hw]
          exact ⟨.ok hvalid' (), fun _ => hcurrent _⟩

omit [Device δ] in
/-- A shadow that is there is filled with zeroes. -/
theorem zeroed_furnished {shadow : Option ByteArray}
    (h : Buffer.Furnished { s.buffer with shadow }) :
    Buffer.Furnished { s.buffer with shadow := shadow.map fun m => Bytes.zeros m.size } :=
  { h with shadow := fun hl => Option.isSome_map.trans (h.shadow hl) }

omit [LendsFreely δ] in
/-- Bytes moved into an object. -/
theorem fillObject_accounted (h : s.buffer.Furnished) (a : ObjectHandle) (offset : Nat)
    (source : TransferSource) (ranges : List ByteRange) (flags : MapFlags) :
    (fillObject a offset source ranges flags).Ends s fun r t =>
      Accounted r t ∧ t.buffer = s.buffer := by
  intro j
  unfold fillObject
  simp only [Attempt.wp_bind, Attempt.wp_always, wp_onDevice, Attempt.wp_answer]
  exact (Monitored.transfer_ends _ source ranges flags _).wp fun reply d k hd =>
    ⟨⟨h, fun f hf => .inl (hd.1 f hf)⟩, trivial⟩

omit [LendsFreely δ] in
/-- Bytes moved into a run of a shadow that is there. -/
theorem fillShadow_accounted (h : s.buffer.Furnished) (hs : s.buffer.shadow.isSome = true)
    (start size : Nat) (source : TransferSource) (flags : MapFlags) :
    (fillShadow start size source flags).Ends s fun r t =>
      Accounted r t ∧ t.buffer.shadow.isSome = true := by
  obtain ⟨m, hm⟩ := Option.isSome_iff_exists.mp hs
  intro j
  unfold fillShadow
  simp only [Attempt.wp_bind, Attempt.wp_always, wp_current, hm, wp_onDevice, wp_change,
    Attempt.wp_answer]
  exact (Monitored.transfer_ends _ source _ flags _).wp fun reply d k hd =>
    ⟨⟨h.stored (fun _ => rfl) id, fun f hf => .inl (hd.1 f hf)⟩, rfl⟩

omit [LendsFreely δ] in
theorem loadShadow_accounted (h : s.buffer.Furnished) (hsome : s.buffer.shadow.isSome = true)
    (hne : s.buffer.locations.isEmpty = false)
    (hs : s.buffer.locations.has Location.sysmem = false)
    (hd : s.buffer.locations.has Location.discarded = false) :
    loadShadow.Ends s fun r t => Accounted r t ∧ t.buffer.shadow.isSome = true := by
  intro j
  unfold loadShadow
  simp only [Attempt.wp_bind, Attempt.wp_always, wp_current, Attempt.wp_ite, wp_clearShadow]
  split
  · exact ⟨.ok (zeroed_furnished h) (), Option.isSome_map.trans hsome⟩
  · rename_i hc
    have hg := h.object_of_rest hne hs hd ((Bool.not_eq_true _).mp hc)
    obtain ⟨o, ho⟩ := Option.isSome_iff_exists.mp (h.object hg)
    have hcur : s.buffer.currentObject = some o := by
      unfold Buffer.currentObject
      rw [if_pos hg]
      exact ho
    rw [hcur]
    exact fillShadow_accounted h hsome _ _ _ _ j

/-- **The shadow is made current**, or there is a reason why not. -/
theorem refreshShadow_accounted (h : s.buffer.Furnished) : refreshShadow.Ends s fun r t =>
    Accounted r t ∧ (r = .ok () → t.buffer.locations.has Location.sysmem = true) := by
  exact refreshWith_accounted (S := fun b => b.shadow.isSome = true) h Location.isFlag.1
    Location.apart.2.2.1.1 (fun b hb hs => hb.markValid Location.all_has.1 (fun _ => hs)
      fun hg => absurd (Location.apart.1.1.symm.trans hg) Bool.false_ne_true)
    (fun u hu _ => (reserveShadow_furnished hu).mono fun ready t ht => by
      obtain ⟨⟨m, rfl⟩, ht⟩ := ht
      exact ⟨ht.1, rfl, ht.2⟩)
    (fun u hu hs hne hsys hd => loadShadow_accounted hu hs hne hsys hd) fun u _ _ => rfl

omit [LendsFreely δ] in
/-- The bytes that the object lacks, where there is a shadow to take them from. -/
theorem uploadPlain_accounted (h : s.buffer.Furnished) (hs : s.buffer.shadow.isSome = true)
    (ho : s.buffer.object.isSome = true) :
    uploadPlain.Ends s fun r t => Accounted r t ∧ t.buffer.object.isSome = true := by
  obtain ⟨m, hm⟩ := Option.isSome_iff_exists.mp hs
  obtain ⟨o, hobj⟩ := Option.isSome_iff_exists.mp ho
  intro j
  unfold uploadPlain
  simp only [Attempt.wp_bind, Attempt.wp_always, wp_current, hm, hobj]
  exact (fillObject_accounted h _ _ _ _ _).wp fun r t k ht => ⟨ht.1, by rw [ht.2]; exact ho⟩

/-- A shadow of zeroes, where host memory has room for it. -/
theorem materializeCleared_accounted (h : s.buffer.Furnished) :
    materializeCleared.Ends s fun r t => Accounted r t ∧ t.buffer.object = s.buffer.object ∧
      (r = .ok () → t.buffer.shadow.isSome = true) := by
  intro j
  unfold materializeCleared
  simp only [Attempt.wp_bind, Attempt.wp_always, Attempt.wp_ite, Attempt.wp_throw, wp_clearShadow]
  refine (reserveShadow_furnished h).wp fun ready t k ht => ?_
  obtain ⟨⟨m, rfl⟩, ht, hready, hexcused⟩ := ht
  cases ready with
  | false => exact ⟨⟨ht, fun _ _ => hexcused rfl⟩, rfl, by rintro ⟨⟩⟩
  | true => exact ⟨.ok (zeroed_furnished ht) (), rfl, fun _ => Option.isSome_map.trans (hready rfl)⟩

theorem loadObject_accounted (h : s.buffer.Furnished) (ho : s.buffer.object.isSome = true)
    (hne : s.buffer.locations.isEmpty = false)
    (hg : s.buffer.locations.has Location.gpuObject = false)
    (hd : s.buffer.locations.has Location.discarded = false) :
    loadObject.Ends s fun r t => Accounted r t ∧ t.buffer.object.isSome = true := by
  have hupload {t : Site (Monitored δ)} (ht : t.buffer.Furnished)
      (hs : t.buffer.shadow.isSome = true) (ho : t.buffer.object.isSome = true) :
      Attempt.Ends (do if (← always current).isConverted then uploadConverted else uploadPlain) t
        fun r u => Accounted r u ∧ u.buffer.object.isSome = true := by
    intro j
    simp only [Attempt.wp_bind, Attempt.wp_always, wp_current, ht.plain, Bool.false_eq_true,
      if_false]
    exact uploadPlain_accounted ht hs ho j
  intro j
  unfold loadObject
  rw [Attempt.wp_bind, Attempt.wp_always, wp_current]
  by_cases hc : s.buffer.locations.has Location.cleared = true
  · simp only [hc, if_true]
    rw [Attempt.wp_bind]
    refine (materializeCleared_accounted h).wp fun r t k ht => ?_
    obtain ⟨ht, hobj, hshadow⟩ := ht
    rw [← hobj] at ho
    cases r with
    | error f => exact ⟨ht, ho⟩
    | ok _ => exact hupload ht.furnished (hshadow rfl) ho k
  · have hsys : s.buffer.locations.has Location.sysmem = true := by
      rcases Location.has_of_named h.named hne with h' | h' | h' | h'
      · exact h'
      · exact absurd (hg.symm.trans h') Bool.false_ne_true
      · exact absurd (hd.symm.trans h') Bool.false_ne_true
      · exact absurd h' hc
    simp only [hc, Bool.false_eq_true, if_false]
    exact hupload h (h.shadow hsys) ho j

/-- **The object is made current**, or there is a reason why not. -/
theorem refreshObject_accounted (h : s.buffer.Furnished) (ha : s.buffer.objectAllowed = true) :
    refreshObject.Ends s fun r t =>
      Accounted r t ∧ (r = .ok () → t.buffer.locations.has Location.gpuObject = true) := by
  refine refreshWith_accounted (S := fun b => b.object.isSome = true) h Location.isFlag.2.1
    Location.apart.2.2.1.2.1 (fun b hb ho => hb.markValid Location.all_has.2.1
      (fun hs => absurd (Location.apart.2.1.1.symm.trans hs) Bool.false_ne_true) fun _ => ho)
    (fun u hu hallowed => reserveObject_furnished hu (hallowed.trans ha))
    (fun u hu ho hne hg hd => loadObject_accounted hu ho hne hg hd) fun u hu j => ?_
  -- the shadow of a buffer whose content changes often stays
  unfold releaseShadow
  simp only [Step.wp_bind, wp_current, hu.dynamic, Bool.not_true, Bool.and_false,
    Bool.false_eq_true, if_false, Step.wp_pure]

/-! ## 4. A range opened -/

/-- **There is something to map**, or a reason why not. -/
def Provided (s : Site (Monitored δ)) : Prop :=
  (s.buffer.mapBase.isSome = true ∨ s.buffer.shadow.isSome = true) ∨ s.Excused

/-- The object of the buffer is ready, and about to be mapped. -/
structure Poised (s : Site (Monitored δ)) : Prop where
  furnished : s.buffer.Furnished
  object : s.buffer.object.isSome = true
  count : s.buffer.mapCount = 1
  baseless : s.buffer.mapBase = none

/-- What it comes to, to open a range of a buffer of which nothing was mapped. -/
structure Unlocks (outcome : Except Failure Unit) (s : Site (Monitored δ)) : Prop
    extends Accounted outcome s where
  count : s.buffer.mapCount = 1
  baseless : ∀ f, outcome = .error f → s.buffer.mapBase = none
  provided : outcome = .ok () → s.Provided

theorem readyObject_accounted (h : s.buffer.Furnished) (ha : s.buffer.objectAllowed = true)
    (flags : MapFlags) : (readyObject flags).Ends s fun r t =>
      Accounted r t ∧ (r = .ok () → t.buffer.object.isSome = true) := by
  unfold readyObject
  split
  · intro j
    unfold discardIntoObject
    simp only [Attempt.wp_bind, Attempt.wp_always, Attempt.wp_ite, Attempt.wp_throw,
      wp_declareCurrent]
    refine (reserveObject_furnished h ha).wp fun ready t k ht => ?_
    obtain ⟨ht, -, hready, hexcused⟩ := ht
    cases ready with
    | false => exact ⟨⟨ht, fun _ _ => hexcused rfl⟩, by rintro ⟨⟩⟩
    | true =>
      exact ⟨.ok (ht.markValid Location.all_has.2.1 (fun hs => absurd
        (Location.apart.2.1.1.symm.trans hs) Bool.false_ne_true) fun _ => hready rfl) (),
        fun _ => hready rfl⟩
  · exact (refreshObject_accounted h ha).mono fun r t ht =>
      ⟨ht.1, fun hr => ht.1.furnished.object (ht.2 hr)⟩

omit [Device δ] in
theorem claimObject_poised (h : s.Poised) (flags : MapFlags) (dirty : ByteRange) :
    (claimObject flags dirty).Ends s fun _ t => t.Poised := by
  intro j
  unfold claimObject
  simp only [Step.wp_ite, Step.wp_bind, wp_declareStale, wp_markDirty, Step.wp_pure]
  split
  · exact { h with
      furnished := { h.furnished.markStale (Location.all \ Location.gpuObject) 0 0 with } }
  · exact h

omit [Device δ] in
theorem giveUpShadow_poised (h : s.Poised) : giveUpShadow.Ends s fun _ t => t.Poised :=
  (giveUpShadow_cases s).mono fun _ t ht => by
    rcases ht with rfl | rfl
    · exact h
    · exact { h with
        furnished := { h.furnished.markStale Location.sysmem 0 0 with
          shadow := fun hs => by simp [Buffer.markStale] at hs } }

omit [LendsFreely δ] in
theorem removeObject_furnished (h : s.buffer.Furnished)
    (hg : s.buffer.locations.has Location.gpuObject = false) : removeObject.Ends s fun _ t =>
      t.buffer.Furnished ∧ t.buffer.shadow = s.buffer.shadow ∧ s.Conducts t :=
  ((removeObject_ends s).and (removeObject_obeys s)).mono fun _ t ⟨ht, hobeys⟩ => by
    split at ht
    · subst ht
      exact ⟨h, rfl, hobeys⟩
    · refine ⟨?_, by rw [ht], hobeys⟩
      rw [ht]
      exact { h with object := fun hg' => absurd (hg.symm.trans hg') Bool.false_ne_true }

theorem saveContent_accounted (h : s.buffer.Furnished) : saveContent.Ends s fun _ t =>
    t.buffer.Furnished ∧ (t.buffer.shadow.isSome = true ∨ t.Excused) := by
  intro j
  unfold saveContent
  simp only [Step.wp_bind, Attempt.wp_outcome]
  refine (refreshShadow_accounted h).wp fun r t k ht => ?_
  obtain ⟨ht, hcurrent⟩ := ht
  cases r with
  | ok _ => exact ⟨ht.furnished, .inl (ht.furnished.shadow (hcurrent rfl))⟩
  | error f =>
    simp only [Step.wp_bind, wp_current, Step.wp_note]
    exact ⟨ht.furnished, .inr (ht.excused f rfl)⟩

/-- A buffer that gives its object up goes on with its shadow, or there is a reason why not. -/
theorem dropObject_accounted (h : s.buffer.Furnished) (ho : s.buffer.object.isSome = true) :
    dropObject.Ends s fun _ t => t.buffer.Furnished ∧
      (t.buffer.shadow.isSome = true ∨ t.Excused) := by
  intro j
  unfold dropObject vacate
  simp only [Step.wp_bind, wp_change, wp_current, Step.wp_ite, ho, if_true, wp_declareStale]
  have hbarred : { s.buffer with objectAllowed := false }.Furnished :=
    { h with capable := fun ha => absurd ha Bool.false_ne_true }
  refine (saveContent_accounted
    (s := { s with buffer := { s.buffer with objectAllowed := false } }) hbarred).wp
      fun _ t k ht => ?_
  obtain ⟨ht, hkept⟩ := ht
  refine (removeObject_furnished (ht.markStale Location.gpuObject 0 0)
    (by simp [Buffer.markStale])).wp fun _ u k hu => ?_
  obtain ⟨hu, hshadow, hconducts⟩ := hu
  refine ⟨{ hu with plain := rfl }, hkept.imp (fun hs => ?_) fun hx => ?_⟩
  · rw [hshadow]
    exact hs
  · have hx : Excused { t with buffer := t.buffer.markStale Location.gpuObject 0 0 } := hx
    have hu : u.Excused := hx.after hconducts
    exact hu

/-- An object that cannot be mapped where it is. -/
theorem mapWithoutObject_unlocks (h : s.Poised) (handle : ObjectHandle) (flags : MapFlags)
    (dirty : ByteRange) : (mapWithoutObject handle flags dirty).Ends s fun r t => Unlocks r t := by
  have hdrops : (mapWithoutObject handle flags dirty).Ends s fun r t => r = .ok () ∧
      t.buffer.Furnished ∧ (t.buffer.shadow.isSome = true ∨ t.Excused) := by
    intro j
    unfold mapWithoutObject
    simp only [Attempt.wp_bind, Attempt.wp_always, wp_current, Attempt.wp_note, wp_onDevice,
      wp_change, h.furnished.dynamic, if_true]
    refine Step.wp_any fun _ d k => ?_
    exact (dropObject_accounted (s := ⟨{ s.buffer with mapBase := none }, { s.machine with
      device := d }⟩) { h.furnished with } h.object).wp fun _ t k ht => ⟨trivial, ht⟩
  refine ((mapWithoutObject_baseless handle flags dirty s).and hdrops).mono fun r t ht => ?_
  obtain ⟨⟨hcount, hbase⟩, rfl, ht, hprovided⟩ := ht
  exact ⟨.ok ht (), hcount.trans h.count, by rintro _ ⟨⟩, fun _ => hprovided.imp_left .inr⟩

theorem openMapping_unlocks (h : s.Poised) (flags : MapFlags) (dirty : ByteRange) :
    (openMapping flags dirty).Ends s fun r t => Unlocks r t := by
  obtain ⟨o, ho⟩ := Option.isSome_iff_exists.mp h.object
  intro j
  unfold openMapping
  simp only [Attempt.wp_bind, Attempt.wp_always, wp_current, ho, wp_tryDevice]
  refine (Monitored.tryForward_ends _ _).wp fun r d k hd => ?_
  have hpoised : Poised ⟨s.buffer, { s.machine with device := d }⟩ := { h with }
  cases r with
  | error f =>
    exact ⟨⟨h.furnished, fun _ _ => .inl (hd.1 f rfl)⟩, h.count, fun _ _ => h.baseless,
      by rintro ⟨⟩⟩
  | ok position =>
    simp only [Attempt.wp_ite, Attempt.wp_always, wp_change]
    split
    · exact ⟨⟨{ h.furnished with }, by rintro _ ⟨⟩⟩, h.count, by rintro _ ⟨⟩,
        fun _ => .inl (.inl rfl)⟩
    · exact mapWithoutObject_unlocks hpoised _ _ _ k

/-- A range is opened in the object. -/
theorem openObject_unlocks (h : s.buffer.Furnished) (ha : s.buffer.objectAllowed = true)
    (hcount : s.buffer.mapCount = 1) (hbase : s.buffer.mapBase = none) (flags : MapFlags)
    (dirty : ByteRange) : (openObject flags dirty).Ends s fun r t => Unlocks r t := by
  intro j
  rw [openObject_eq, Attempt.wp_bind]
  refine ((readyObject_accounted h ha flags).and (readyObject_held flags s)).wp fun r t k ht => ?_
  obtain ⟨⟨ht, hobj⟩, hcount', hbase'⟩ := ht
  cases r with
  | error f => exact ⟨ht, hcount'.trans hcount, fun _ _ => hbase'.trans hbase, nofun⟩
  | ok _ =>
    have hpoised : t.Poised := ⟨ht.furnished, hobj rfl, hcount'.trans hcount, hbase'.trans hbase⟩
    unfold openClaimed
    rw [Attempt.wp_bind, Attempt.wp_always]
    refine (claimObject_poised hpoised flags dirty).wp fun _ u k hu => ?_
    simp only [Attempt.wp_bind, Attempt.wp_always, wp_current, Attempt.wp_ite, hu.count,
      beq_self_eq_true, if_true]
    split
    · exact (giveUpShadow_poised hu).wp fun _ v k hv => openMapping_unlocks hv _ _ k
    · exact openMapping_unlocks hu _ _ k

/-- A range is opened in the shadow. -/
theorem openShadow_unlocks (h : s.buffer.Furnished) (hcount : s.buffer.mapCount = 1)
    (hbase : s.buffer.mapBase = none) (flags : MapFlags) (dirty : ByteRange) :
    (openShadow flags dirty).Ends s fun r t => Unlocks r t := by
  intro j
  unfold openShadow
  rw [Attempt.wp_bind]
  refine ((refreshShadow_accounted h).and (refreshShadow_within s)).wp fun r t k ht => ?_
  obtain ⟨⟨ht, hcurrent⟩, hmoves⟩ := ht
  obtain ⟨hcount', hbase'⟩ := hmoves.unheld (by simp [MoveKind.inPlace])
  cases r with
  | error f => exact ⟨ht, hcount'.trans hcount, fun _ _ => hbase'.trans hbase, by rintro ⟨⟩⟩
  | ok _ =>
    have hshadow := ht.furnished.shadow (hcurrent rfl)
    simp only [Attempt.wp_ite, Attempt.wp_always, wp_declareStaleIn, Attempt.wp_pure]
    split
    · exact ⟨.ok (ht.furnished.markStale _ _ _) (), hcount'.trans hcount, by rintro _ ⟨⟩,
        fun _ => .inl (.inr hshadow)⟩
    · exact ⟨ht, hcount'.trans hcount, by rintro _ ⟨⟩, fun _ => .inl (.inr hshadow)⟩

end Site

/-! ## 5. Mappings -/

/-- A furnished buffer of which at most one range is mapped; `mapped` tells whether there is one. -/
structure Buffer.Lent (mapped : Bool) (b : Buffer) : Prop extends b.Furnished where
  count : b.mapCount = mapped.toNat
  baseless : mapped = false → b.mapBase = none

namespace Site

variable [Device δ] [LendsFreely δ] {s t : Site (Monitored δ)} {offset size : Nat}
  {flags : MapFlags}

theorem mapPrepared_accounted (h : s.buffer.Furnished) (hcount : s.buffer.mapCount = 1)
    (hbase : s.buffer.mapBase = none) : (mapPrepared offset size flags).Ends s fun r t =>
      Accounted r t ∧ t.buffer.mapCount = 1 ∧ ∀ f, r = .error f → t.buffer.mapBase = none := by
  have hopen (dirty : ByteRange) : Attempt.Ends (if s.buffer.mapsShadow flags then
      openShadow flags dirty else openObject flags dirty) s fun r t => Unlocks r t := by
    split
    · exact openShadow_unlocks h hcount hbase flags dirty
    · rename_i hobject
      refine openObject_unlocks h ?_ hcount hbase flags dirty
      unfold Buffer.mapsShadow at hobject
      simp only [Bool.or_eq_true, not_or, Bool.not_eq_true', Bool.not_eq_false] at hobject
      exact hobject.2
  refine (mapPrepared_opens hopen).mono fun r t ht => ?_
  cases r with
  | ok m => exact ⟨.ok ht.1.furnished m, ht.1.count, nofun⟩
  | error f =>
    rcases ht with ht | ⟨ht, hnone⟩
    · exact ⟨⟨ht.furnished, fun _ _ => ht.excused f rfl⟩, ht.count, fun _ _ => ht.baseless f rfl⟩
    · -- there is neither a mapped object nor a shadow
      have hno : ¬ (t.buffer.mapBase.isSome = true ∨ t.buffer.shadow.isSome = true) := fun hs => by
        obtain ⟨m, hm⟩ := mapping?_of_storage hs offset size
        cases hm.symm.trans hnone
      refine ⟨⟨ht.furnished, fun _ _ => (ht.provided rfl).resolve_left hno⟩, ht.count,
        fun _ _ => ?_⟩
      exact Option.not_isSome_iff_eq_none.mp fun hb => hno (.inl hb)

/-- **A mapping of a range of the buffer fails for a reason**, and what failed is not mapped. -/
theorem map_accounted (h : s.buffer.Lent false) (hfit : s.buffer.holds offset size = true) :
    (map offset size flags).Ends s fun r t => Accounted r t ∧ t.buffer.Lent r.isOk := by
  intro j
  unfold map
  simp only [Attempt.wp_bind, Attempt.wp_always, wp_current, hfit, Bool.not_true,
    Bool.false_eq_true, if_false, wp_change, Attempt.wp_outcome]
  refine (mapPrepared_accounted
    (s := { s with buffer := { s.buffer with mapCount := s.buffer.mapCount + 1 } })
    { h.toFurnished with } (congrArg (· + 1) h.count) (h.baseless rfl)).wp fun r t k ht => ?_
  obtain ⟨ht, hcount, hbase⟩ := ht
  cases r with
  | ok m => exact ⟨ht, { ht.furnished with count := hcount, baseless := by rintro ⟨⟩ }⟩
  | error f =>
    simp only [Attempt.wp_bind, Attempt.wp_always, wp_change, Attempt.wp_throw]
    exact ⟨⟨{ ht.furnished with }, fun _ _ => ht.excused f rfl⟩,
      { ht.furnished with
        count := by
          show t.buffer.mapCount - 1 = 0
          rw [hcount]
        baseless := fun _ => hbase f rfl }⟩

omit [LendsFreely δ] in
/-- What is written through a mapping takes no storage away. -/
theorem writeMapped_lent {mapped : Bool} (h : s.buffer.Lent mapped) (m : Mapping)
    (data : ByteArray) : (writeMapped m data).Ends s fun _ t => t.buffer.Lent mapped := by
  intro j
  unfold writeMapped
  split
  · rw [wp_change]
    exact { h with shadow := fun hl => Option.isSome_map.trans (h.shadow hl) }
  · exact h

omit [LendsFreely δ] in
theorem unmap_furnished (h : s.buffer.Furnished) :
    unmap.Ends s fun _ t => t.buffer.Furnished := by
  intro j
  unfold unmap flushMapping
  simp only [Step.wp_bind, wp_current, Step.wp_ite, Step.wp_note, wp_change, Step.wp_pure]
  split
  · exact h
  · split
    · exact { h with }
    · split
      · split
        · simp only [Step.wp_bind, wp_onDevice, wp_change]
          exact Step.wp_any fun _ d k => { h with }
        · exact { h with }
      · exact { h with }

omit [LendsFreely δ] in
theorem unmap_lent (h : s.buffer.Lent true) : unmap.Ends s fun _ t => t.buffer.Lent false :=
  ((unmap_furnished h.toFurnished).and (unmap_outer h.count)).mono fun _ _ ⟨ht, hcount, hbase⟩ =>
    { ht with count := hcount, baseless := fun _ => hbase }

/-! ## 6. New buffers -/

/-- A new buffer has the storage that it starts with, or host memory has no room for it. -/
theorem openStorage_lent (h : s.buffer.Lent false) (pin : Bool) :
    (openStorage pin).Ends s fun r t => t.buffer.size = s.buffer.size ∧
      match r with
      | .ok _ => t.buffer.Lent false
      | .error _ => Bytes.largestRun < s.buffer.size := by
  intro j
  unfold openStorage pinFresh
  simp only [Attempt.wp_bind, Attempt.wp_ite, Attempt.wp_always, Step.wp_bind, wp_current,
    Step.wp_note, wp_change, Attempt.wp_throw, Attempt.wp_note]
  cases pin with
  | true =>
    rw [if_pos rfl, if_pos (by simp)]
    refine (reserveShadow_ends _).wp fun ready t k ht => ?_
    have hpinned {m : Option ByteArray} (hm : m.isSome = true) : Buffer.Lent false { s.buffer with
        pinned := true, locations := Location.sysmem, shadow := m } :=
      { h with
        named := Location.all_has.1
        shadow := fun _ => hm
        object := fun hg => absurd (Location.apart.1.1.symm.trans hg) Bool.false_ne_true }
    rcases ht with ⟨rfl, hsome, rfl⟩ | ⟨rfl, -, rfl⟩ | ⟨rfl, hrefused, rfl⟩
    · exact ⟨rfl, hpinned hsome⟩
    · exact ⟨rfl, hpinned rfl⟩
    · exact ⟨rfl, size_of_refused hrefused⟩
  | false =>
    rw [if_neg Bool.false_ne_true]
    split
    · refine (reserveShadow_ends _).wp fun ready t k ht => ?_
      rcases ht with ⟨rfl, -, rfl⟩ | ⟨rfl, -, rfl⟩ | ⟨rfl, hrefused, rfl⟩
      · exact ⟨rfl, h⟩
      · exact ⟨rfl, { h with shadow := fun _ => rfl }⟩
      · exact ⟨rfl, size_of_refused hrefused⟩
    · exact ⟨trivial, h⟩

end Site

/-- The device has buffers with these bind flags. -/
def Capabilities.accepts (caps : Capabilities) (bind : BindFlags) : Bool :=
  !(caps.backend == .modern && bind.has BindFlags.streamOutput && !caps.transformFeedback)

theorem Machine.chooseBackend_accepts {σ : Type} (caps : Capabilities) (request : BufferRequest)
    (x : σ) : (chooseBackend caps request).Ends x fun r _ => ∀ f, r = .error f →
      caps.accepts request.bind = false := by
  intro j
  unfold chooseBackend Capabilities.accepts
  cases caps.backend with
  | noObject => rintro _ ⟨⟩
  | legacy =>
    simp only [Attempt.wp_bind, Attempt.wp_noteAll, Attempt.wp_ite, Attempt.wp_note,
      Attempt.wp_pure, ite_self]
    rintro _ ⟨⟩
  | modern =>
    simp only [Attempt.wp_ite, Attempt.wp_refuse, Attempt.wp_pure]
    split
    · rename_i hrefused
      rw [beq_self_eq_true, Bool.true_and, hrefused]
      exact fun _ _ => rfl
    · rintro _ ⟨⟩

theorem BufferRequest.bind_granted (request : BufferRequest) (settings : Settings) :
    (request.granted settings).bind = request.bind := by
  unfold granted
  split <;> rfl

theorem BufferRequest.usage_granted (request : BufferRequest) (settings : Settings) :
    (request.granted settings).usage = request.usage := by
  unfold granted
  split <;> rfl

theorem Machine.freshBuffer_lent {δ : Type} [Device δ] (m : Machine δ) (request : BufferRequest)
    (backend : Backend) (objectAllowed : Bool) (settings : Settings)
    (hdynamic : request.usage.has Usage.dynamic = true)
    (hcapable : objectAllowed = true → backend.kind ≠ .noObject) :
    (m.freshBuffer request backend objectAllowed settings).buffer.Lent false where
  dynamic := hdynamic
  plain := rfl
  capable := hcapable
  named := Location.all_has.2.2.2
  shadow hs := absurd (Location.apart.2.2.2.1.symm.trans hs) Bool.false_ne_true
  object hg := absurd (Location.apart.2.2.2.2.1.symm.trans hg) Bool.false_ne_true
  count := rfl
  baseless _ := rfl

/-- **A buffer whose content changes often is created**, unless what is asked for is at fault, the
    device has no such buffers or host memory has no room for it. -/
theorem Machine.create_lent [Device δ] [LendsFreely δ] (m : Machine (Monitored δ))
    (request : BufferRequest) (settings : Settings)
    (hdynamic : request.usage.has Usage.dynamic = true) :
    (create request none settings).Ends m fun r _ =>
      (∀ f, request.fault? settings none = some f → r = .error f) ∧
      (∀ b, r = .ok b → b.Lent false ∧ b.size = request.size) ∧
      (∀ f, r = .error f → request.fault? settings none = none →
        Bytes.largestRun < request.size ∨
          (Device.caps m.device).accepts request.bind = false) := by
  intro j
  unfold create
  rw [Option.map_none]
  cases hfault : request.fault? settings none with
  | some f =>
    simp only [Attempt.wp_refuse]
    exact ⟨fun g hg => by cases hg; rfl, fun b hb => absurd hb (f.ne_ok b), by rintro _ _ ⟨⟩⟩
  | none =>
    simp only [Attempt.wp_bind, Attempt.wp_get, wp_openSite]
    refine ((chooseBackend_ends _ _ m).and (chooseBackend_accepts _ _ m)).wp fun r m' k hpost => ?_
    obtain ⟨⟨rfl, hkind⟩, hrefused⟩ := hpost
    rw [BufferRequest.bind_granted] at hrefused
    cases r with
    | error f =>
      exact ⟨by rintro _ ⟨⟩, fun b hb => absurd hb (f.ne_ok b), fun _ _ _ => .inr (hrefused f rfl)⟩
    | ok chosen =>
      have hfresh := m'.freshBuffer_lent (request.granted settings) chosen.1 chosen.2 settings
        (by rw [BufferRequest.usage_granted]; exact hdynamic) (hkind chosen rfl).2
      have hsize := size_granted request settings
      unfold Site.openFresh
      simp only [Attempt.wp_bind, Attempt.wp_always, Attempt.wp_outcome]
      refine (Site.openStorage_lent hfresh _).wp fun r t k ht => ?_
      cases r with
      | error f =>
        simp only [Attempt.wp_bind, Attempt.wp_always, Attempt.wp_throw]
        exact Step.wp_any fun _ _ _ =>
          ⟨by rintro _ ⟨⟩, fun b hb => absurd hb (f.ne_ok b), fun _ _ _ => .inl (hsize ▸ ht.2)⟩
      | ok _ =>
        refine ⟨by rintro _ ⟨⟩, fun b hb => ?_, fun f hf => absurd hf.symm (f.ne_ok _)⟩
        cases hb
        exact ⟨ht.2, ht.1.trans hsize⟩

end BufferCoherence
