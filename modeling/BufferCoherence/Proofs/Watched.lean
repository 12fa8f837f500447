import BufferCoherence.Proofs.Conduct
import BufferCoherence.Proofs.Sparing

/-!
# Watched devices

A device that is watched writes down what one buffer asks it for: the objects that it is to make, and
those that are given back to it, each with whether it was being captured into at that moment
(`Watched`). Apart from that it does what the device does.

`Site.Course` is whatever may become of a buffer: any calls, a change of everything else on the
machine between two calls, captures that begin included, and its end.

* **`objects_given_up_for_good`**: a buffer that may not have an object never may again, asks for
  none, and no draw changes anything about it;
* **`captured_objects_kept_iff`**: a buffer that can be captured into gives no object back that is
  being captured into, exactly as long as it is not renamed during a capture.
-/

namespace BufferCoherence

variable {δ : Type}

/-! ## 1. Watching -/

/-- What a buffer may ask for that concerns whole objects. -/
inductive ObjectOrder where
  | make (request : ObjectRequest)
  /-- An object given back, and whether it was being captured into. -/
  | free (handle : ObjectHandle) (captured : Bool)
deriving DecidableEq

namespace ObjectOrder

/-- The order gives an object back. -/
def isFree : ObjectOrder → Bool
  | make _ => false
  | free _ _ => true

end ObjectOrder

/-- A device, and what it received from one buffer, the oldest order first. -/
structure Watched (δ : Type) where
  device : δ
  received : List ObjectOrder

namespace Watched

variable {α : Type}

/-- One more order received. -/
def receive (w : Watched δ) (order : ObjectOrder) : Watched δ :=
  { w with received := w.received ++ [order] }

/-- A step of the device that is watched. -/
def forward (s : Step δ α) : Step (Watched δ) α :=
  s.onPart (·.device) fun device w => { w with device }

/-- An attempt of the device that is watched. -/
def tryForward (a : Attempt δ α) : Attempt (Watched δ) α :=
  a.onPart (·.device) fun device w => { w with device }

instance [Device δ] : Device (Watched δ) where
  caps w := Device.caps w.device
  live w h := Device.live w.device h
  makeObject request := do
    modify (·.receive (.make request))
    tryForward (Device.makeObject request)
  freeObject h := do
    modify fun w => w.receive (.free h (Device.captureActive w.device h))
    forward (Device.freeObject h)
  transfer target source ranges flags := forward (Device.transfer target source ranges flags)
  openMapping h offset size flags := tryForward (Device.openMapping h offset size flags)
  closeMapping h ranges := forward (Device.closeMapping h ranges)
  recordBarrier b := forward (Device.recordBarrier b)
  captureActive w h := Device.captureActive w.device h
  endCapture := forward Device.endCapture
  peek w h position size := Device.peek w.device h position size
  poke h position data w := { w with device := Device.poke h position data w.device }
  hostLends w use size := Device.hostLends w.device use size

instance [Device δ] [LendsFreely δ] : LendsFreely (Watched δ) :=
  ⟨fun w use size => LendsFreely.lends w.device use size⟩

end Watched

/-- The machine, with its device watched from now on. -/
def Machine.watched (m : Machine δ) : Machine (Watched δ) := ⟨⟨m.device, []⟩, m.users, m.nextBuffer⟩

/-- Once a capture was ended, no object is being captured into. -/
class EndsCapture (δ : Type) [Device δ] : Prop where
  ended (d : δ) (j : Journal) (h : ObjectHandle) :
    Device.captureActive (Device.endCapture d j).1.2 h = false

instance : EndsCapture MemoryDevice := ⟨fun _ _ _ => rfl⟩

namespace Watched

variable [Device δ] {allowed careful : Prop} {d e : Watched δ}

/-! ## 2. What is received -/

theorem received_quiet (h : Device.Quiet d e) : e.received = d.received := by
  cases h <;> rfl

theorem received_made (request : ObjectRequest) (d : Watched δ) (j : Journal) :
    ((Device.makeObject request).run d j).1.2.received = d.received ++ [.make request] := rfl

theorem received_freed (h : ObjectHandle) (d : Watched δ) (j : Journal) :
    (Device.freeObject h d j).1.2.received =
      d.received ++ [.free h (Device.captureActive d h)] := rfl

/-- Where objects may not be made, none is asked for. -/
theorem makes_nothing (h : Device.Asked allowed careful d e) (hallowed : ¬ allowed) :
    ∃ new, e.received = d.received ++ new ∧ ∀ request, .make request ∉ new := by
  induction h with
  | here => exact ⟨[], (List.append_nil _).symm, fun _ => List.not_mem_nil⟩
  | quiet _ call ih =>
    obtain ⟨new, hnew, hnone⟩ := ih
    exact ⟨new, (received_quiet call).trans hnew, hnone⟩
  | made _ may _ _ _ => exact absurd may hallowed
  | freed _ a _ j ih =>
    obtain ⟨new, hnew, hnone⟩ := ih
    refine ⟨new ++ [.free a _], by rw [received_freed, hnew, List.append_assoc], fun r hr => ?_⟩
    rcases List.mem_append.mp hr with hr | hr
    · exact hnone r hr
    · cases List.mem_singleton.mp hr

/-- **Where captures are ended first, no object is given back that is being captured into.** -/
theorem frees_nothing_captured [EndsCapture δ] (h : Device.Asked allowed careful d e)
    (hcareful : careful) (a : ObjectHandle) :
    .free a true ∈ e.received ↔ .free a true ∈ d.received := by
  induction h with
  | here => exact Iff.rfl
  | quiet _ call ih =>
    rw [received_quiet call]
    exact ih
  | made _ _ request j ih => rw [received_made, List.mem_append, ih]; simp
  | @freed e _ b released j ih =>
    rw [received_freed, List.mem_append, ih, List.mem_singleton, or_iff_left_iff_imp]
    intro hfree
    -- the capture that would be going on was ended just before
    have hactive : Device.captureActive e b = true := by
      injection hfree with _ hcaptured
      exact hcaptured.symm
    obtain ⟨f, i, rfl⟩ := released hcareful hactive
    exact absurd ((EndsCapture.ended f.device i b).symm.trans hactive) nofun

end Watched

/-! ## 3. What becomes of a buffer -/

/-- The call puts another object in place of one that is being captured into. -/
def Call.breaksCapture [Device δ] (c : Call) (s : Site δ) : Bool :=
  (c.consumed? s.buffer).isSome &&
    s.buffer.object.any fun o => Device.captureActive s.machine.device o.handle

/-- **Whatever becomes of a buffer**, and whether a call broke a capture. What else happens on the
    machine sends no orders of this buffer, and is free otherwise: captures begin, objects come and
    go, and what the device does next may change. -/
inductive Site.Course [Device δ] (s : Site (Watched δ)) : Bool → Site (Watched δ) → Prop where
  | here : Course s false s
  | meanwhile {broken : Bool} {t : Site (Watched δ)} (h : Course s broken t)
      (m : Machine (Watched δ)) (own : m.device.received = t.machine.device.received) :
      Course s broken { t with machine := m }
  | called {broken : Bool} {t u : Site (Watched δ)} {a : Option Mapping} {j k : Journal}
      (h : Course s broken t) (c : Call) (run : c.perform t j = ((a, u), k)) :
      Course s (broken || c.breaksCapture t) u
  | ended {broken : Bool} {t u : Site (Watched δ)} {j k : Journal} (h : Course s broken t)
      (run : Site.destroy t j = (((), u), k)) : Course s broken u

namespace Site.Course

variable [Device δ] {s t : Site (Watched δ)} {broken : Bool}

/-- The buffer is called next. -/
theorem call (h : s.Course broken t) (c : Call) (j : Journal) :
    s.Course (broken || c.breaksCapture t) (c.perform t j).1.2 := .called h c rfl

/-- The machine changes next, and nothing that the buffer asked for. -/
theorem onMachine (h : s.Course broken t) (f : δ → δ) :
    s.Course broken { t with machine.device.device := f t.machine.device.device } :=
  .meanwhile h { t.machine with device.device := f t.machine.device.device } rfl

/-! ## 4. Objects given up for good -/

/-- What a buffer without leave to have an object sends to its device. -/
structure Barred (s t : Site (Watched δ)) : Prop where
  allowed : t.buffer.objectAllowed = false
  orders : ∃ new, t.machine.device.received = s.machine.device.received ++ new ∧
    ∀ request, .make request ∉ new

theorem Barred.deals (h : Barred s t) {u : Site (Watched δ)} (hu : t.Deals u) : Barred s u := by
  have hbarred : ¬ t.buffer.objectAllowed = true := by rw [h.allowed]; exact Bool.false_ne_true
  obtain ⟨new, hnew, hnone⟩ := h.orders
  obtain ⟨more, hmore, hnone'⟩ := Watched.makes_nothing hu.asked hbarred
  refine ⟨(Bool.not_eq_true _).mp (hbarred ∘ hu.allowed), new ++ more, ?_, fun r hr => ?_⟩
  · rw [hmore, hnew, List.append_assoc]
  · exact (List.mem_append.mp hr).elim (hnone r) (hnone' r)

theorem Barred.renamed (h : Barred s t) {u : Site (Watched δ)} (hu : t.Renamed u) : Barred s u := by
  obtain ⟨new, hnew, hnone⟩ := h.orders
  refine ⟨hu.allowed.trans h.allowed, ?_⟩
  have hdisplaces := hu.displaces
  unfold Displaces at hdisplaces
  split at hdisplaces
  · exact ⟨new, by rw [hdisplaces, hnew], hnone⟩
  · obtain ⟨j, hj⟩ := hdisplaces
    refine ⟨new ++ [.free _ _], by rw [hj, Watched.received_freed, hnew, List.append_assoc],
      fun r hr => ?_⟩
    rcases List.mem_append.mp hr with hr | hr
    · exact hnone r hr
    · cases List.mem_singleton.mp hr

theorem barred (h : s.Course broken t) (hs : s.buffer.objectAllowed = false) : Barred s t := by
  induction h with
  | here => exact ⟨hs, [], (List.append_nil _).symm, fun _ => List.not_mem_nil⟩
  | meanwhile _ m own ih =>
    obtain ⟨new, hnew, hnone⟩ := ih.orders
    exact ⟨ih.allowed, new, own.trans hnew, hnone⟩
  | @called _ t u _ _ _ _ c run ih =>
    have houtcome := (c.perform_outcome t).of_run run
    unfold Call.Outcome at houtcome
    split at houtcome
    · obtain ⟨v, hv, hu⟩ := houtcome
      exact (ih.renamed hv).deals hu
    · exact ih.deals houtcome
  | ended _ run ih => exact ih.deals ((destroy_obeys _).of_run run).deals

end Site.Course

/-- **Objects are given up for good**: once a buffer may not have one, it never may again, its device
    gets no order to make one, and draws change nothing at all. -/
theorem objects_given_up_for_good [Device δ] {s t : Site (Watched δ)} {broken : Bool}
    (h : s.Course broken t) (hs : s.buffer.objectAllowed = false) :
    t.buffer.objectAllowed = false ∧
      (∃ new, t.machine.device.received = s.machine.device.received ++ new ∧
        ∀ request, .make request ∉ new) ∧
      ∀ draw, (Site.readyForDraw draw).Ends t fun _ u => u = t :=
  have hbarred := h.barred hs
  ⟨hbarred.allowed, hbarred.orders, Site.readyForDraw_declines (.inl hbarred.allowed)⟩

/-- A buffer whose object was refused keeps to its shadow, also once its device makes objects again and
    an upload object becomes its own. -/
theorem objects_given_up_through_rename :
    ∃ (s t : Site (Watched MemoryDevice)) (broken : Bool), s.Course broken t ∧
      s.buffer.objectAllowed = false ∧ t.buffer.object.map (·.handle) = some ⟨1⟩ ∧
      t.machine.device.received = s.machine.device.received ∧
      (t.buffer.objectAllowed = false ∧
        (∃ new, t.machine.device.received = s.machine.device.received ++ new ∧
          ∀ request, .make request ∉ new) ∧
        ∀ draw, (Site.readyForDraw draw).Ends t fun _ u => u = t) := by
  let request : BufferRequest := ⟨4, ∅, BindFlags.vertexBuffer, Access.gpu, 0⟩
  let made := (Machine.create request none {}).run
    (Machine.new { MemoryDevice.new .legacy with refusesObjects := true }).watched (.empty .error)
  -- the draw is refused an object, and from then on there is none
  let s : Site (Watched MemoryDevice) := (Site.readyForDraw none
    ⟨made.1.1.toOption.get (by decide +kernel), made.1.2⟩ (.empty .error)).1.2
  have h₁ : s.Course _ _ := Site.Course.here.onMachine fun d =>
    ((MemoryDevice.makeUpload ⟨#[5, 6, 7, 8]⟩).run { d with refusesObjects := false }
      (.empty .error)).1.2
  have h₂ := h₁.call (.complete (.upload ⟨⟨⟨1⟩, 0⟩, true, false⟩ 0 4)) (.empty .error)
  have h₃ := h₂.call (.complete (.draw none)) (.empty .error)
  have hs : s.buffer.objectAllowed = false := by decide +kernel
  exact ⟨s, _, _, h₃, hs, by decide +kernel, by decide +kernel, objects_given_up_for_good h₃ hs⟩

/-! ## 5. Captures -/

namespace Site.Course

variable [Device δ] {s t : Site (Watched δ)} {broken : Bool}

/-- An object was given back while it was being captured into. -/
def Breaks (t : Site (Watched δ)) : Prop := ∃ a, .free a true ∈ t.machine.device.received

theorem breaks_deals [EndsCapture δ] {u : Site (Watched δ)} (hu : t.Deals u)
    (ht : t.buffer.nature.Capturable) : Breaks u ↔ Breaks t :=
  exists_congr fun a => Watched.frees_nothing_captured hu.asked ht a

theorem breaks_renamed {u : Site (Watched δ)} (hu : t.Renamed u) : Breaks u ↔ Breaks t ∨
    t.buffer.object.any (fun o => Device.captureActive t.machine.device o.handle) = true := by
  have hdisplaces := hu.displaces
  unfold Displaces at hdisplaces
  unfold Breaks
  split at hdisplaces
  · rename_i hobj
    rw [hdisplaces, hobj, Option.any_none, or_iff_left Bool.false_ne_true]
  · rename_i o hobj
    obtain ⟨j, hj⟩ := hdisplaces
    rw [hj, Watched.received_freed, hobj, Option.any_some]
    simp only [List.mem_append, List.mem_singleton, exists_or, ObjectOrder.free.injEq,
      exists_eq_left, eq_comm (a := true)]

theorem broken_iff [EndsCapture δ] (h : s.Course broken t) (hs : s.buffer.nature.Capturable)
    (hfresh : ¬ Breaks s) : t.buffer.nature.Capturable ∧ (Breaks t ↔ broken = true) := by
  induction h with
  | here => exact ⟨hs, iff_of_false hfresh Bool.false_ne_true⟩
  | meanwhile _ m own ih =>
    obtain ⟨hcapturable, hbreaks⟩ := ih
    refine ⟨hcapturable, Iff.trans ?_ hbreaks⟩
    unfold Breaks
    rw [own]
  | @called broken t u _ _ _ _ c run ih =>
    obtain ⟨hcapturable, hbreaks⟩ := ih
    have houtcome := (c.perform_outcome t).of_run run
    unfold Call.Outcome at houtcome
    unfold Call.breaksCapture
    split at houtcome
    · rename_i a hconsumed
      obtain ⟨v, hv, hu⟩ := houtcome
      have hcapturable' : v.buffer.nature.Capturable := hv.nature ▸ hcapturable
      refine ⟨hu.nature ▸ hcapturable', ?_⟩
      rw [breaks_deals hu hcapturable', breaks_renamed hv, hbreaks, hconsumed, Option.isSome_some,
        Bool.true_and, Bool.or_eq_true]
    · rename_i hconsumed
      refine ⟨houtcome.nature ▸ hcapturable, ?_⟩
      rw [breaks_deals houtcome hcapturable, hbreaks, hconsumed, Option.isSome_none,
        Bool.false_and, Bool.or_false]
  | ended _ run ih =>
    have hdeals := ((destroy_obeys _).of_run run).deals
    exact ⟨hdeals.nature ▸ ih.1, (breaks_deals hdeals ih.1).trans ih.2⟩

end Site.Course

section Captures

variable [Device δ] {m : Machine δ} {request : BufferRequest} {data : Option ByteArray}
  {settings : Settings} {b : Buffer} {m' : Machine (Watched δ)} {j k : Journal}

/-- A run begins where the buffer was created. -/
theorem Site.Course.created
    (_ : (Machine.create request data settings).run m.watched j = ((.ok b, m'), k)) :
    Site.Course ⟨b, m'⟩ false ⟨b, m'⟩ := .here

/-- A buffer that is created for captures can be captured into, and so far no capture was broken. -/
theorem capturable_of_created [EndsCapture δ] (legacy : (Device.caps m.device).backend = .legacy)
    (captures : request.bind.has BindFlags.streamOutput = true)
    (created : (Machine.create request data settings).run m.watched j = ((.ok b, m'), k)) :
    b.nature.Capturable ∧ ¬ Site.Course.Breaks ⟨b, m'⟩ := by
  rcases (Machine.create_conducts _ _ _ _).of_run created with ⟨-, f, hf⟩ |
    ⟨backend, objectAllowed, b', hkind, hsame, hconducts⟩
  · cases hf
  · obtain rfl := hsame b rfl
    have hbind : (request.granted settings).bind = request.bind := by
      unfold BufferRequest.granted
      split <;> rfl
    have hfresh : (m.watched.freshBuffer (request.granted settings) backend objectAllowed
        settings).buffer.nature.Capturable :=
      ⟨hkind.trans legacy, (congrArg (·.has BindFlags.streamOutput) hbind).trans captures⟩
    refine ⟨hconducts.buffer.nature ▸ hfresh, fun hbreaks => ?_⟩
    obtain ⟨a, ha⟩ := (Site.Course.breaks_deals hconducts.deals hfresh).mp hbreaks
    exact absurd ha List.not_mem_nil

/-- **No object is given back that is being captured into**, exactly as long as no call puts another
    object in its place during the capture: whatever else is called, the buffer's end included, ends
    the capture first. -/
theorem captured_objects_kept_iff [EndsCapture δ]
    (legacy : (Device.caps m.device).backend = .legacy)
    (captures : request.bind.has BindFlags.streamOutput = true)
    (created : (Machine.create request data settings).run m.watched j = ((.ok b, m'), k))
    {broken : Bool} {t : Site (Watched δ)} (h : Site.Course ⟨b, m'⟩ broken t) :
    (∀ a, .free a true ∉ t.machine.device.received) ↔ broken = false := by
  obtain ⟨hcapturable, hfresh⟩ := capturable_of_created legacy captures created
  rw [← Bool.not_eq_true, ← (h.broken_iff hcapturable hfresh).2]
  unfold Site.Course.Breaks
  rw [not_exists]

end Captures

/-- A buffer that gives its object up, and later ends, while it is being captured into: both objects
    are given back after the capture. -/
theorem captured_objects_kept_to_the_end :
    ∃ b m' j k t broken,
      (Machine.create ⟨4, ∅, BindFlags.streamOutput, Access.gpu, 0⟩ (some ⟨#[1, 2, 3, 4]⟩) {}).run
        (Machine.new (MemoryDevice.new .legacy)).watched j = ((.ok b, m'), k) ∧
      Site.Course ⟨b, m'⟩ broken t ∧ broken = false ∧
      t.machine.device.received.filter ObjectOrder.isFree = [.free ⟨1⟩ false, .free ⟨2⟩ false] ∧
      ((∀ a, .free a true ∉ t.machine.device.received) ↔ broken = false) := by
  have created := Attempt.eq_end_of_ok
    (Machine.create ⟨4, ∅, BindFlags.streamOutput, Access.gpu, 0⟩ (some ⟨#[1, 2, 3, 4]⟩) {})
    (Machine.new (MemoryDevice.new .legacy)).watched (.empty .error)
    (Option.some_get (by decide +kernel)).symm
  have h₁ := (Site.Course.created created).onMachine fun d => d.beginCapture ⟨1⟩
  have h₂ := h₁.call (.complete .vacate) (.empty .error)
  have h₃ := h₂.call (.complete (.draw none)) (.empty .error)
  have h₄ := h₃.onMachine fun d => d.beginCapture ⟨2⟩
  have h₅ := Site.Course.ended h₄ (Step.eq_end _ _ (.empty .error))
  exact ⟨_, _, _, _, _, _, created, h₅, by decide +kernel, by decide +kernel,
    captured_objects_kept_iff rfl (by decide) created h₅⟩

/-- A buffer that is renamed while it is being captured into: its object goes in the middle of the
    capture. -/
theorem captured_object_replaced :
    ∃ b m' j k t broken,
      (Machine.create ⟨4, ∅, BindFlags.streamOutput, Access.gpu, 0⟩ (some ⟨#[1, 2, 3, 4]⟩) {}).run
        (Machine.new (MemoryDevice.new .legacy)).watched j = ((.ok b, m'), k) ∧
      Site.Course ⟨b, m'⟩ broken t ∧ .free ⟨1⟩ true ∈ t.machine.device.received := by
  have created := Attempt.eq_end_of_ok
    (Machine.create ⟨4, ∅, BindFlags.streamOutput, Access.gpu, 0⟩ (some ⟨#[1, 2, 3, 4]⟩) {})
    (Machine.new (MemoryDevice.new .legacy)).watched (.empty .error)
    (Option.some_get (by decide +kernel)).symm
  have h₁ := (Site.Course.created created).onMachine fun d =>
    ((MemoryDevice.makeUpload ⟨#[5, 6, 7, 8]⟩).run (d.beginCapture ⟨1⟩) (.empty .error)).1.2
  have h₂ := h₁.call (.complete (.upload ⟨⟨⟨2⟩, 0⟩, true, false⟩ 0 4)) (.empty .error)
  exact ⟨_, _, _, _, _, _, created, h₂, by decide +kernel⟩

end BufferCoherence
