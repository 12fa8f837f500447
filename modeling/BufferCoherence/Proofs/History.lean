import BufferCoherence.Proofs.Creation
import BufferCoherence.Proofs.Draw
import BufferCoherence.Proofs.Mapping

/-!
# Histories

A buffer from its creation on, through any run of complete operations. Between two operations
anything may happen to the machine as long as it leaves the content of the buffer's object alone:
objects may be refused or granted, mappings may or may not be aligned, other buffers come and go.

* `Explained` is the meaning of a history: a content that starts as the buffer was created, that
  each operation changes in the way it says, and that every answer is taken from;
* `run_idle` is the invariant: wherever a run stands, the buffer is idle with a content that
  explains the run so far.
-/

namespace BufferCoherence

/-! ## 1. Operations -/

/-- A complete operation, which leaves nothing mapped. -/
inductive Operation where
  | write (offset : Nat) (data : ByteArray) (flags : MapFlags)
  | read (offset size : Nat)
  | content
  | store (offset : Nat) (data : ByteArray)
  | move (offset sourceOffset size : Nat)
  | upload (upload : Upload) (offset size : Nat)
  | refresh (l : Location)
  | keepShadow
  | draw (draw : Option Draw)
  | vacate
  | dropObject

namespace Operation

/-- The operation performed; the answer is the bytes that were asked for, if any were. -/
def perform {δ : Type} [Device δ] : Operation → Attempt (Site δ) (Option ByteArray)
  | write offset data flags => do
    Site.write offset data flags
    pure none
  | read offset size => do
    let bytes ← Site.read offset size
    pure (some bytes)
  | content => do
    let bytes ← Site.content
    pure (some bytes)
  | store offset data => do
    Site.storeBytes offset data
    pure none
  | move offset sourceOffset size => do
    Site.moveRun offset sourceOffset size
    pure none
  | upload u offset size => do
    Site.applyUpload u offset size
    pure none
  | refresh l => do
    Site.refreshCopy l
    pure none
  | keepShadow => do
    let bytes ← Site.keepShadow
    pure (some bytes)
  | draw d => do
    always (Site.readyForDraw d)
    pure none
  | vacate => do
    always Site.vacate
    pure none
  | dropObject => do
    always Site.dropObject
    pure none

/-- What an upload object holds when the operation begins. -/
def brought (s : Site MemoryDevice) : Operation → Option ByteArray
  | upload u _ _ => s.machine.device.bytes? u.placement.handle
  | _ => none

/-- What the caller of an operation sees to. -/
def Allowed (s : Site MemoryDevice) (op : Operation) : Prop :=
  Site.Aligned s ∧ ∀ u offset size, op = upload u offset size → Site.Brings s u

/-- An operation that succeeds turns the content `c` into `d`. A write that may throw content away
    leaves unspecified what it does not write. -/
def Turns (brought : Option ByteArray) (c d : ByteArray) : Operation → Prop
  | write offset data flags => offset + data.size ≤ c.size ∧
      ∃ kept : ByteArray, kept.size = c.size ∧ (flags.has MapFlags.discard = false → kept = c) ∧
        d = Bytes.splice kept offset data
  | store offset data => offset + data.size ≤ c.size ∧ d = Bytes.splice c offset data
  | move offset sourceOffset size => offset + size ≤ c.size ∧ sourceOffset + size ≤ c.size ∧
      d = Bytes.splice c offset (c.extract sourceOffset (sourceOffset + size))
  | upload u offset size => offset + size ≤ c.size ∧ ∃ b, brought = some b ∧
      ((u.rename = true ∧ d = b) ∨ (u.rename = false ∧ ∃ run,
        Bytes.slice? b u.placement.offset size = some run ∧ d = Bytes.splice c offset run))
  | _ => d = c

/-- An operation that succeeds on the content `c` answers `a`. -/
def Answers (c : ByteArray) (a : Option ByteArray) : Operation → Prop
  | read offset size => offset + size ≤ c.size ∧ a = some (c.extract offset (offset + size))
  | content => a = some c
  | keepShadow => a = some c
  | _ => a = none

end Operation

/-- One operation of a history, and what came of it. -/
structure Happening where
  operation : Operation
  brought : Option ByteArray
  outcome : Except Failure (Option ByteArray)

/-- **The meaning of a history**: from the content `c` on, each operation that succeeded changed the
    content as it says and answered from it, and each one that failed left it. -/
inductive Explained (c : ByteArray) : List Happening → ByteArray → Prop where
  | start : Explained c [] c
  | done {past : List Happening} {d e : ByteArray} {op : Operation} {brought a : Option ByteArray}
      (h : Explained c past d) (turns : op.Turns brought d e) (answers : op.Answers d a) :
      Explained c (past ++ [⟨op, brought, .ok a⟩]) e
  | failed {past : List Happening} {d : ByteArray} {op : Operation} {brought : Option ByteArray}
      {f : Failure} (h : Explained c past d) : Explained c (past ++ [⟨op, brought, .error f⟩]) d

namespace Site

variable {s t : Site MemoryDevice} {c : ByteArray} {j : Journal}

/-! ## 2. One operation -/

/-- A copy of an idle buffer made current. -/
theorem refreshCopy_ends (hi : Idle c s) (l : Location) : (refreshCopy l).Ends s fun _ y =>
    Idle c y := by
  intro j
  unfold refreshCopy
  simp only [Attempt.wp_bind, Attempt.wp_always, wp_current, Attempt.wp_ite, Attempt.wp_refuse]
  split
  · exact hi
  · split
    · exact (refreshShadow_keeps hi.toCoherent).wp fun r y j hy => hy.1.idle hi
    · exact (refreshObject_keeps hi.toCoherent).wp fun r y j hy => hy.1.idle hi

/-- The shadow of an idle buffer, which stays from then on, holds the content. -/
theorem keepShadow_ends (hi : Idle c s) : keepShadow.Ends s fun r y =>
    Idle c y ∧ (r = .ok c ∨ ∃ f, r = .error f) := by
  intro j
  unfold keepShadow shadowBytes
  simp only [Attempt.wp_bind, Attempt.wp_always, wp_pinShadow, wp_current]
  refine (refreshShadow_keeps hi.toCoherent).wp fun r y j hpost => ?_
  obtain ⟨hy, hcase⟩ := hpost
  rcases hcase with ⟨rfl, hcopies⟩ | ⟨⟨f, rfl⟩, -, -⟩
  · have hshadow : y.buffer.shadow = some c := congrArg Copies.shadow hcopies
    have hidle := hy.idle hi
    simp only []
    split
    · rename_i m hm
      cases hshadow.symm.trans hm
      refine ⟨hidle.of_settled rfl ?_ fun _ => rfl, .inl rfl⟩
      exact settled_pinned hidle.toSettled (by rw [show y.copies.shadow = _ from hshadow]; rfl)
    · rename_i hnone
      cases hshadow.symm.trans hnone
  · exact ⟨hy.idle hi, .inr ⟨f, rfl⟩⟩

/-- **What one operation does to an idle buffer**: it succeeds, and turns the content as it says and
    answers from it, or it fails and the content stays. -/
theorem perform_ends {op : Operation} (hi : Idle c s) (hop : op.Allowed s) :
    op.perform.Ends s fun r y =>
      (∃ a d, r = .ok a ∧ op.Turns (op.brought s) c d ∧ op.Answers c a ∧ Idle d y) ∨
        ((∃ f, r = .error f) ∧ Idle c y) := by
  obtain ⟨ha, hbrings⟩ := hop
  intro j
  have hsize : c.size = s.buffer.size := hi.size
  unfold Operation.perform
  cases op with
  | write offset data flags =>
    simp only [Attempt.wp_bind, Attempt.wp_pure]
    refine (write_ends hi ha offset data flags).wp fun r y j hpost => ?_
    obtain ⟨_, hy⟩ := hpost
    rcases hy with ⟨kept, rfl, hfit, hkept, hsame, hy⟩ | ⟨⟨f, rfl⟩, hy⟩
    · exact .inl ⟨none, _, rfl, ⟨hfit, kept, hkept, hsame, rfl⟩, rfl, hy⟩
    · exact .inr ⟨⟨f, rfl⟩, hy⟩
  | read offset size =>
    simp only [Attempt.wp_bind, Attempt.wp_pure]
    refine (read_ends hi ha offset size).wp fun r y j hpost => ?_
    obtain ⟨hy, hcase⟩ := hpost
    rcases hcase with ⟨rfl, hfit⟩ | ⟨f, rfl⟩
    · exact .inl ⟨_, c, rfl, rfl, ⟨hfit, rfl⟩, hy⟩
    · exact .inr ⟨⟨f, rfl⟩, hy⟩
  | content =>
    simp only [Attempt.wp_bind, Attempt.wp_pure]
    refine (content_ends hi.toCoherent).wp fun r y j hpost => ?_
    obtain ⟨hy, hcase⟩ := hpost
    rcases hcase with rfl | ⟨⟨f, rfl⟩, -⟩
    · exact .inl ⟨_, c, rfl, rfl, rfl, hy.idle hi⟩
    · exact .inr ⟨⟨f, rfl⟩, hy.idle hi⟩
  | store offset data =>
    simp only [Attempt.wp_bind, Attempt.wp_pure]
    refine (storeBytes_ends hi offset data).wp fun r y j hpost => ?_
    obtain ⟨_, hy⟩ := hpost
    rcases hy with ⟨rfl, hfit, hy⟩ | ⟨⟨f, rfl⟩, hy⟩
    · exact .inl ⟨none, _, rfl, ⟨hsize ▸ hfit, rfl⟩, rfl, hy⟩
    · exact .inr ⟨⟨f, rfl⟩, hy⟩
  | move offset sourceOffset size =>
    simp only [Attempt.wp_bind, Attempt.wp_pure]
    refine (moveRun_ends hi offset sourceOffset size).wp fun r y j hpost => ?_
    obtain ⟨_, hy⟩ := hpost
    rcases hy with ⟨rfl, hfit, hsource, hy⟩ | ⟨⟨f, rfl⟩, hy⟩
    · exact .inl ⟨none, _, rfl, ⟨hsize ▸ hfit, hsize ▸ hsource, rfl⟩, rfl, hy⟩
    · exact .inr ⟨⟨f, rfl⟩, hy⟩
  | upload u offset size =>
    simp only [Attempt.wp_bind, Attempt.wp_pure]
    refine (applyUpload_ends hi (hbrings u offset size rfl) offset size).wp fun r y j hy => ?_
    rcases hy with ⟨rfl, hfit, b, hb, hcase⟩ | ⟨⟨f, rfl⟩, hy⟩
    · rcases hcase with ⟨hrename, hy⟩ | ⟨hrename, run, hrun, hy⟩
      · exact .inl ⟨none, b, rfl, ⟨hsize ▸ hfit, b, hb, .inl ⟨hrename, rfl⟩⟩, rfl, hy⟩
      · exact .inl ⟨none, _, rfl, ⟨hsize ▸ hfit, b, hb, .inr ⟨hrename, run, hrun, rfl⟩⟩, rfl, hy⟩
    · exact .inr ⟨⟨f, rfl⟩, hy⟩
  | refresh l =>
    simp only [Attempt.wp_bind, Attempt.wp_pure]
    refine (refreshCopy_ends hi l).wp fun r y j hy => ?_
    cases r with
    | ok _ => exact .inl ⟨none, c, rfl, rfl, rfl, hy⟩
    | error f => exact .inr ⟨⟨f, rfl⟩, hy⟩
  | keepShadow =>
    simp only [Attempt.wp_bind, Attempt.wp_pure]
    refine (keepShadow_ends hi).wp fun r y j hpost => ?_
    obtain ⟨hy, hcase⟩ := hpost
    rcases hcase with rfl | ⟨f, rfl⟩
    · exact .inl ⟨_, c, rfl, rfl, rfl, hy⟩
    · exact .inr ⟨⟨f, rfl⟩, hy⟩
  | draw d =>
    simp only [Attempt.wp_bind, Attempt.wp_pure, Attempt.wp_always]
    exact (readyForDraw_ends hi d).wp fun _ y j hy => .inl ⟨none, c, rfl, rfl, rfl, hy.1⟩
  | vacate =>
    simp only [Attempt.wp_bind, Attempt.wp_pure, Attempt.wp_always]
    exact (vacate_idle hi).wp fun _ y j hy => .inl ⟨none, c, rfl, rfl, rfl, hy⟩
  | dropObject =>
    simp only [Attempt.wp_bind, Attempt.wp_pure, Attempt.wp_always]
    exact (dropObject_idle hi).wp fun _ y j hy => .inl ⟨none, c, rfl, rfl, rfl, hy.1⟩

/-! ## 3. Runs -/

/-- Between two operations: whatever happens, the content of the buffer's object stays. -/
structure Meanwhile (s t : Site MemoryDevice) : Prop where
  buffer : t.buffer = s.buffer
  own : ∀ o, s.buffer.object = some o →
    t.machine.device.bytes? o.handle = s.machine.device.bytes? o.handle

theorem Meanwhile.copies (h : Meanwhile s t) : t.copies = s.copies := by
  obtain ⟨b, m⟩ := t
  obtain ⟨hbuffer, hown⟩ := h
  cases hbuffer
  unfold Site.copies objectBytes?
  cases ho : s.buffer.object with
  | none => rfl
  | some o => simp only [Option.bind_some, hown o ho]

theorem Meanwhile.frame (h : Meanwhile s t) : t.frame = s.frame := by
  unfold Site.frame
  rw [h.buffer]

theorem Meanwhile.idle (h : Meanwhile s t) (hi : Idle c s) : Idle c t := by
  refine hi.of_settled h.frame ?_ fun hp => ?_
  · rw [h.copies]
    exact hi.toSettled
  · rw [h.buffer]
    exact hp

end Site

/-- A run: the buffer is created, and then operations are performed on it, while other things happen
    to the machine. No operation reads the journal, which may be any. -/
inductive Run (m : Machine MemoryDevice) (request : BufferRequest) (data : Option ByteArray)
    (settings : Settings) : List Happening → Site MemoryDevice → Prop where
  | created {b : Buffer} {m' : Machine MemoryDevice} {j k : Journal}
      (h : (Machine.create request data settings).run m j = ((.ok b, m'), k)) :
      Run m request data settings [] ⟨b, m'⟩
  | meanwhile {past : List Happening} {s t : Site MemoryDevice}
      (run : Run m request data settings past s) (h : Site.Meanwhile s t) :
      Run m request data settings past t
  | performed {past : List Happening} {s t : Site MemoryDevice} {op : Operation}
      {r : Except Failure (Option ByteArray)} {j k : Journal}
      (run : Run m request data settings past s) (allowed : op.Allowed s)
      (h : op.perform.run s j = ((r, t), k)) :
      Run m request data settings (past ++ [⟨op, op.brought s, r⟩]) t

variable {m : Machine MemoryDevice} {request : BufferRequest} {data : Option ByteArray}
  {settings : Settings} {past : List Happening} {s : Site MemoryDevice}

/-- A buffer that is created begins a run. -/
theorem Run.first (m : Machine MemoryDevice) (request : BufferRequest) (data : Option ByteArray)
    (settings : Settings) (j : Journal) {b : Buffer}
    (h : ((Machine.create request data settings).run m j).1.1.toOption = some b) :
    Run m request data settings [] ⟨b, ((Machine.create request data settings).run m j).1.2⟩ :=
  .created (Attempt.eq_end_of_ok _ _ _ h)

/-- An operation that is allowed goes on with the run. -/
theorem Run.next (run : Run m request data settings past s) (op : Operation)
    (allowed : op.Allowed s) (j : Journal) :
    Run m request data settings (past ++ [⟨op, op.brought s, (op.perform.run s j).1.1⟩])
      (op.perform.run s j).1.2 :=
  .performed run allowed rfl

/-- **Wherever a run stands, the buffer is idle with a content that explains the run.** -/
theorem run_idle (h : Run m request data settings past s) :
    ∃ c, Explained (firstContent request.size data) past c ∧ Site.Idle c s := by
  induction h with
  | @created b m' j k h =>
    have hi := (Machine.create_ends m request data settings).of_run h
    exact ⟨_, .start, (hi b rfl).1⟩
  | meanwhile _ h ih =>
    obtain ⟨c, hc, hi⟩ := ih
    exact ⟨c, hc, h.idle hi⟩
  | @performed past s t op r j k _ allowed h ih =>
    obtain ⟨c, hc, hi⟩ := ih
    rcases (Site.perform_ends hi allowed).of_run h with ⟨a, d, hr, hturns, hanswers, hd⟩ | ⟨⟨f, hr⟩, hd⟩
    · have hr' : r = .ok a := hr
      subst hr'
      exact ⟨d, .done hc hturns hanswers, hd⟩
    · have hr' : r = .error f := hr
      subst hr'
      exact ⟨c, .failed hc, hd⟩

/-- **Every answer is that of the operations before it.** A run of complete operations has a
    meaning: the content starts as the buffer was created, operations that succeed change it as they
    say and answer from it, and operations that fail leave it. -/
theorem run_explained (h : Run m request data settings past s) :
    ∃ c, Explained (firstContent request.size data) past c := by
  obtain ⟨c, hc, -⟩ := run_idle h
  exact ⟨c, hc⟩

/-- A write into the object, a move that overlaps itself, a store that leaves the buffer, and two
    reads. -/
theorem run_explained_by_writes :
    ∃ past s, Run (.new (.new .legacy)) ⟨4, Usage.dynamic, BindFlags.vertexBuffer, Access.gpu, 0⟩
        (some ⟨#[1, 2, 3, 4]⟩) {} past s ∧
      past.map (·.outcome.toOption) = [some none, some none, none, some (some ⟨#[1, 1, 9, 4]⟩),
        some (some ⟨#[1, 1, 9, 4]⟩)] ∧
      ∃ c, Explained ⟨#[1, 2, 3, 4]⟩ past c := by
  have h₀ := Run.first (.new (.new .legacy))
    ⟨4, Usage.dynamic, BindFlags.vertexBuffer, Access.gpu, 0⟩ (some ⟨#[1, 2, 3, 4]⟩) {}
    (.empty .error) (Option.some_get (by decide +kernel)).symm
  have h₁ := h₀.next (.write 1 ⟨#[9]⟩ MapFlags.noOverwrite)
    ⟨by decide +kernel, fun _ _ _ h => nomatch h⟩ (.empty .error)
  have h₂ := h₁.next (.move 1 0 2) ⟨by decide +kernel, fun _ _ _ h => nomatch h⟩ (.empty .error)
  have h₃ := h₂.next (.store 3 ⟨#[7, 7]⟩) ⟨by decide +kernel, fun _ _ _ h => nomatch h⟩
    (.empty .error)
  have h₄ := h₃.next (.read 0 4) ⟨by decide +kernel, fun _ _ _ h => nomatch h⟩ (.empty .error)
  have h₅ := h₄.next .content ⟨by decide +kernel, fun _ _ _ h => nomatch h⟩ (.empty .error)
  refine ⟨_, _, h₅, by decide +kernel, ?_⟩
  exact run_explained h₅

/-- **A draw never goes on with a stale object.** Where a draw ends with an object that the buffer
    may use and that holds no converted vertices, the object is current, lacks nothing, and holds
    the bytes that would have been read back just before the draw. -/
theorem drawn_object_is_fresh (h : Run m request data settings past s) {draw : Option Draw}
    {t : Site MemoryDevice} {j k : Journal} {o : BufferObject}
    (hdraw : Site.readyForDraw draw s j = (((), t), k))
    (hallowed : t.buffer.objectAllowed = true) (hobject : t.buffer.object = some o)
    (hplain : t.buffer.conversion.map = none) :
    t.buffer.locations.has Location.gpuObject = true ∧ t.buffer.dirty.isPending = false ∧
      ∀ i : Journal, (Site.content.run s i).1.1 =
        .ok (Device.peek t.machine.device o.handle o.offset t.buffer.size) := by
  obtain ⟨c, -, hi⟩ := run_idle h
  have hends := Site.readyForDraw_ends hi draw j
  unfold Step.wp at hends
  rw [hdraw] at hends
  obtain ⟨ht, hfresh, -⟩ := hends
  obtain ⟨hres, hfresh⟩ := hfresh hallowed (by rw [hobject]; rfl)
  obtain ⟨hcurrent, hcomplete, hholds⟩ := hfresh hplain
  refine ⟨hcurrent, hcomplete, fun i => ?_⟩
  have hbytes : t.machine.device.bytes? o.handle = some c := by
    rw [← hholds]
    unfold Site.objectBytes?
    rw [hobject, Option.bind_some]
  have hoffset : o.offset = 0 := (ht.object ⟨o.handle, o.offset⟩ (by
    unfold Site.copies
    rw [hobject]
    rfl)).1
  have hsize : c.size = t.buffer.size := ht.size
  have hpeek : Device.peek t.machine.device o.handle o.offset t.buffer.size = c := by
    rw [hoffset, ← hsize]
    refine (MemoryDevice.peek_eq hbytes (Nat.le_of_eq (Nat.zero_add _))).trans ?_
    rw [Nat.zero_add]
    exact Bytes.extract_all (Nat.le_refl _)
  rw [hpeek]
  have hcontent := Site.content_ends hi.toCoherent i
  rcases hcontent with ⟨-, hok | ⟨-, -, -, hno⟩⟩
  · exact hok
  · exact absurd hres hno

/-- A draw after a write that the object did not see yet. -/
theorem drawn_object_is_fresh_after_write :
    ∃ past s t o, Run (.new (.new .legacy)) ⟨4, ∅, BindFlags.vertexBuffer, Access.gpu, 0⟩
        (some ⟨#[1, 2, 3, 4]⟩) {} past s ∧
      s.buffer.dirty.isPending = true ∧
      (∃ j k, Site.readyForDraw none s j = (((), t), k)) ∧ t.buffer.objectAllowed = true ∧
      t.buffer.object = some o ∧ t.buffer.conversion.map = none ∧
      (t.buffer.locations.has Location.gpuObject = true ∧ t.buffer.dirty.isPending = false ∧
        ∀ i : Journal, (Site.content.run s i).1.1 =
          .ok (Device.peek t.machine.device o.handle o.offset t.buffer.size)) := by
  have h₀ := Run.first (.new (.new .legacy)) ⟨4, ∅, BindFlags.vertexBuffer, Access.gpu, 0⟩
    (some ⟨#[1, 2, 3, 4]⟩) {} (.empty .error) (Option.some_get (by decide +kernel)).symm
  have h₁ := h₀.next (.write 1 ⟨#[9]⟩ MapFlags.write)
    ⟨by decide +kernel, fun _ _ _ h => nomatch h⟩ (.empty .error)
  refine ⟨_, _, _, _, h₁, by decide +kernel, ⟨.empty .error, _, Step.eq_end _ _ _⟩,
    by decide +kernel, (Option.some_get (by decide +kernel)).symm, by decide +kernel, ?_⟩
  exact drawn_object_is_fresh h₁ (Step.eq_end _ _ _) (by decide +kernel)
    (Option.some_get (by decide +kernel)).symm (by decide +kernel)

end BufferCoherence
