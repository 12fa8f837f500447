import BufferCoherence.Proofs.Benches
import BufferCoherence.Proofs.Recording

/-!
# Depots

All that lives on one Vulkan device: buffers and rings, and beside them a client who asks the device
as well, while the driver refuses what it likes.

* `Depot.Event` is one thing that is asked. `Event.Full` says that it asks for nothing empty, and
  `Event.Ranged` that it asks for no transfer within one object without a range; only a client can
  do that;
* `Depot.Sound` is the invariant: the record of the device is in order, and all buffers are filled.
  Every event keeps it (`Event.perform_sound`), and so does every run (`run_sound`);
* **`copies_recorded`**: every region of every copy in the record lies within both buffers. A region
  without a byte, or a copy without a region, is there only if just that was asked for, and then it
  may be there (`empty_copies_recorded`).
-/

namespace BufferCoherence

open Vulkan (Driver CopyRegion)

/-! ## 1. Services -/

namespace VulkanDevice

variable {care : Care} {d : VulkanDevice}

/-- A transfer within one object has a range. -/
def Service.Ranged : Service → Prop
  | .transfer (.object a _) (.object b _) ranges _ => a = b → ranges ≠ []
  | _ => True

/-- Every range of a transfer has a byte. -/
def Service.Full : Service → Prop
  | .transfer _ _ ranges _ => ∀ r ∈ ranges, 0 < r.size
  | _ => True

instance (s : Service) : Decidable s.Ranged := by
  unfold Service.Ranged
  split <;> infer_instance

instance (s : Service) : Decidable s.Full := by
  cases s <;> unfold Service.Full <;> infer_instance

theorem Service.perform_filed (h : d.Filed care) (s : Service) (hranged : care.ranged → s.Ranged)
    (hfull : care.full → s.Full) : s.perform.Ends d fun _ e => e.Filed care := by
  cases s with
  | make request => exact h.makeObject request
  | free a => exact h.freeObject a
  | transfer target source ranges flags =>
    refine h.transfer ⟨fun hr a base start htarget hsource => ?_, hfull⟩ flags
    subst htarget hsource
    exact hranged hr rfl
  | openMapping a offset size flags => exact h.openMapping a offset size flags
  | poke a position data => exact fun _ => h.poke a position data
  | closeMapping a ranges => exact fun j => h.serves (.closed a ranges j)
  | barrier b => exact h.recordBarrier b
  | beginCapture a => exact fun _ => h.beginCapture a
  | endCapture => exact fun j => h.serves (.captured j)

end VulkanDevice

/-! ## 2. Benches -/

/-- The command copies no empty run, and reports no change that is about no byte. -/
def Command.Full : Command → Prop
  | create .. => True
  | operate _ operation => operation.Full
  | copy _ _ _ _ size => 0 < size

instance (c : Command) : Decidable c.Full := by
  cases c <;> unfold Command.Full <;> infer_instance

namespace Bench

variable {care : Care} {w : Bench VulkanDevice} {n m : Nat} {b c : Buffer}

/-- The record of the device is in order, and all buffers are filled. -/
structure Filed (care : Care) (w : Bench VulkanDevice) : Prop where
  device : w.machine.device.Filed care
  buffers : care.full → ∀ b ∈ w.buffers, b.Filled

namespace Filed

theorem filled (h : w.Filed care) (hb : w.buffers[n]? = some b) (hf : care.full) : b.Filled :=
  h.buffers hf b (List.mem_of_getElem? hb)

/-- What a buffer sends to the device keeps the bench in order, whether it stays or goes. -/
theorem send {t : Site VulkanDevice} {buffers : List Buffer} (h : w.Filed care)
    (hb : w.buffers[n]? = some b) (ht : Site.Sends care ⟨b, w.machine⟩ t)
    (hsub : buffers ⊆ t.buffer :: w.buffers) : Bench.Filed care ⟨t.machine, buffers⟩ := by
  obtain ⟨hfilled, hserved⟩ := ht (h.filled hb)
  refine ⟨h.device.served hserved, fun hf b' hb' => ?_⟩
  rcases List.mem_cons.mp (hsub hb') with rfl | hold
  · exact hfilled hf
  · exact h.buffers hf b' hold

theorem put {t : Site VulkanDevice} (h : w.Filed care) (hb : w.buffers[n]? = some b)
    (ht : Site.Sends care ⟨b, w.machine⟩ t) : (w.put n t).Filed care :=
  h.send hb ht fun _ hb' => List.mem_cons.mpr (List.mem_or_eq_of_mem_set hb').symm

/-- A buffer that is created is one more. -/
theorem create (h : w.Filed care) (request : BufferRequest) (data : Option ByteArray)
    (settings : Settings) : (Command.create request data settings).perform.Ends w
      fun _ v => v.Filed care := by
  intro j
  unfold Command.perform
  rw [Attempt.wp_bind, Attempt.wp_onPart]
  refine (Machine.create_sends care w.machine request data settings).wp fun r m' _ hm => ?_
  obtain ⟨hserved, hnew⟩ := hm
  cases r with
  | error _ => exact ⟨h.device.served hserved, h.buffers⟩
  | ok b =>
    refine ⟨h.device.served hserved, fun hf b' hb' => ?_⟩
    rcases List.mem_append.mp hb' with hold | hb'
    · exact h.buffers hf b' hold
    · rw [List.mem_singleton.mp hb']
      exact hnew b rfl hf

/-- A copy from one buffer to another one. -/
theorem copy (h : w.Filed care) (n m offset sourceOffset : Nat) {size : Nat}
    (hsize : care.full → 0 < size) : (Command.copy n m offset sourceOffset size).perform.Ends w
      fun _ v => v.Filed care := by
  intro j
  unfold Command.perform
  rw [Attempt.wp_bind, Attempt.wp_get]
  dsimp only
  split
  · rename_i b c hb hc
    split
    · exact h
    · unfold onPair
      rw [Attempt.wp_bind, Attempt.wp_onPart]
      have hcopy : (Pair.copy offset sourceOffset size : Attempt (Pair VulkanDevice) Unit).Relates
          (Pair.Sends care) := Pair.copy_sends offset sourceOffset hsize
      refine (hcopy _).wp fun r p _ hp => ?_
      obtain ⟨hfilled, hserved⟩ := hp fun hf => ⟨h.filled hb hf, h.filled hc hf⟩
      have hend : Bench.Filed care
          ((w.put m ⟨p.source, p.machine⟩).put n ⟨p.target, p.machine⟩) := by
        refine ⟨h.device.served hserved, fun hf b' hb' => ?_⟩
        rcases List.mem_or_eq_of_mem_set hb' with hb' | rfl
        · rcases List.mem_or_eq_of_mem_set hb' with hold | rfl
          · exact h.buffers hf b' hold
          · exact (hfilled hf).2
        · exact (hfilled hf).1
      cases r with
      | error _ => exact hend
      | ok _ => exact hend
  · exact h

theorem command (h : w.Filed care) (c : Command) (hfull : care.full → c.Full) :
    c.perform.Ends w fun _ v => v.Filed care := by
  cases c with
  | create request data settings => exact h.create request data settings
  | operate n operation =>
    intro j
    unfold Command.perform
    rw [Attempt.wp_bind, Attempt.wp_get]
    dsimp only
    split
    · exact h
    · rename_i b hb
      exact (operation.perform_sends hfull _).wp fun _ _ _ ht => h.put hb ht
  | copy n m offset sourceOffset size => exact h.copy n m offset sourceOffset hfull

end Filed

end Bench

/-! ## 3. Events -/

/-- Buffers and rings on a Vulkan device, the first ones first. -/
structure Depot extends Bench VulkanDevice where
  rings : List Ring

namespace Depot

/-- No buffers and no rings yet. -/
def new (queue : VulkanQueue) (caps : Capabilities) : Depot := ⟨.new (.new queue caps), []⟩

/-- All that the driver was called for, the first call first. -/
def calls (x : Depot) : List Vulkan.Call := x.machine.device.driver.calls.toList

/-- A step on the buffer of a number. `keep` says which buffers there are then; if there is no such
    buffer, nothing is done. -/
def onBuffer (n : Nat) (keep : Buffer → List Buffer → List Buffer)
    (p : Step (Site VulkanDevice) Unit) : Step Depot Unit := do
  match (← get).buffers[n]? with
  | none => pure ()
  | some b =>
    p.onPart (fun x => ⟨b, x.machine⟩)
      fun s x => { x with machine := s.machine, buffers := keep s.buffer x.buffers }

/-- A step on the ring of a number, in the same way. -/
def onRing (n : Nat) (keep : Ring → List Ring → List Ring) (p : Step (RingSite VulkanDevice) Unit) :
    Step Depot Unit := do
  match (← get).rings[n]? with
  | none => pure ()
  | some r =>
    p.onPart (fun x => ⟨r, x.machine⟩)
      fun s x => { x with machine := s.machine, rings := keep s.ring x.rings }

/-- One thing that is asked of a depot. -/
inductive Event where
  /-- From now on the driver refuses these calls. -/
  | refuse (refused : List (DriverCall × String))
  /-- The client asks the device itself. -/
  | serve (s : VulkanDevice.Service)
  | command (c : Command)
  | call (n : Nat) (c : Call)
  | destroy (n : Nat)
  | openRing (bind : BindFlags) (settings : Settings)
  | ringCall (n : Nat) (c : RingCall)
  | destroyRing (n : Nat)

namespace Event

/-- The event takes place, whatever is answered. -/
def perform : Event → Step Depot Unit
  | refuse refused =>
    modify fun x => { x with machine.device := x.machine.device.refusing refused }
  | serve s =>
    s.perform.onPart (·.machine.device) fun device x => { x with machine.device := device }
  | command c => discard (c.perform.outcome.onPart (·.toBench) fun w x => { x with toBench := w })
  | call n c => onBuffer n (fun b buffers => buffers.set n b) (discard c.perform)
  | destroy n => onBuffer n (fun _ buffers => buffers.eraseIdx n) Site.destroy
  | openRing bind settings => modify fun x => { x with rings := x.rings ++ [.new bind settings] }
  | ringCall n c => onRing n (fun r rings => rings.set n r) c.carryOut
  | destroyRing n => onRing n (fun _ rings => rings.eraseIdx n) RingSite.destroy

/-- No transfer within one object is without a range. -/
def Ranged : Event → Prop
  | serve s => s.Ranged
  | _ => True

/-- Nothing empty is asked for. -/
def Full : Event → Prop
  | serve s => s.Full
  | command c => c.Full
  | call _ c => c.Full
  | ringCall _ c => c.Full
  | _ => True

instance (e : Event) : Decidable e.Ranged := by
  cases e <;> unfold Ranged <;> infer_instance

instance (e : Event) : Decidable e.Full := by
  cases e <;> unfold Full <;> infer_instance

end Event

/-- Events, one after the other. -/
def run (events : List Event) : Step Depot Unit := events.forM Event.perform

/-! ## 4. The invariant -/

variable {care : Care} {x : Depot}

/-- **The record of the device is in order**, and all buffers are filled, those of the rings as
    well. -/
structure Sound (care : Care) (x : Depot) : Prop where
  bench : x.toBench.Filed care
  rings : care.full → ∀ r ∈ x.rings, r.Filled

namespace Sound

theorem onBuffer {p : Step (Site VulkanDevice) Unit} {keep : Buffer → List Buffer → List Buffer}
    (h : x.Sound care) (n : Nat) (hp : p.Relates (Site.Sends care))
    (hkeep : ∀ b buffers, keep b buffers ⊆ b :: buffers) :
    (Depot.onBuffer n keep p).Ends x fun _ y => y.Sound care := by
  intro j
  unfold Depot.onBuffer
  rw [Step.wp_bind, Step.wp_get]
  dsimp only
  split
  · exact h
  · rename_i b hb
    rw [Step.wp_onPart]
    exact (hp _).wp fun _ _ _ ht => ⟨h.bench.send hb ht (hkeep _ _), h.rings⟩

theorem onRing {p : Step (RingSite VulkanDevice) Unit} {keep : Ring → List Ring → List Ring}
    (h : x.Sound care) (n : Nat) (hp : p.Relates (RingSite.Sends care))
    (hkeep : ∀ r rings, keep r rings ⊆ r :: rings) :
    (Depot.onRing n keep p).Ends x fun _ y => y.Sound care := by
  intro j
  unfold Depot.onRing
  rw [Step.wp_bind, Step.wp_get]
  dsimp only
  split
  · exact h
  · rename_i r hr
    rw [Step.wp_onPart]
    refine (hp _).wp fun _ t _ ht => ?_
    obtain ⟨hfilled, hserved⟩ := ht fun hf => h.rings hf r (List.mem_of_getElem? hr)
    refine ⟨⟨h.bench.device.served hserved, h.bench.buffers⟩, fun hf r' hr' => ?_⟩
    rcases List.mem_cons.mp (hkeep _ _ hr') with rfl | hold
    · exact hfilled hf
    · exact h.rings hf r' hold

end Sound

/-- **Every event keeps the record in order.** -/
theorem Event.perform_sound (h : x.Sound care) (e : Event) (hranged : care.ranged → e.Ranged)
    (hfull : care.full → e.Full) : e.perform.Ends x fun _ y => y.Sound care := by
  have hset {α : Type} (n : Nat) (a : α) (as : List α) : as.set n a ⊆ a :: as := fun _ ha =>
    List.mem_cons.mpr (List.mem_or_eq_of_mem_set ha).symm
  have herase {α : Type} (n : Nat) (a : α) (as : List α) : as.eraseIdx n ⊆ a :: as :=
    fun _ ha => List.mem_cons_of_mem a (List.mem_of_mem_eraseIdx ha)
  cases e with
  | refuse refused => exact fun _ => ⟨⟨h.bench.device.refusing refused, h.bench.buffers⟩, h.rings⟩
  | serve s =>
    intro j
    unfold Event.perform
    rw [Step.wp_onPart]
    exact (VulkanDevice.Service.perform_filed h.bench.device s hranged hfull).wp
      fun _ _ _ hd => ⟨⟨hd, h.bench.buffers⟩, h.rings⟩
  | command c =>
    intro j
    show Step.wp (c.perform.outcome.onPart (·.toBench) fun w x => { x with toBench := w }) x j
      fun _ y _ => y.Sound care
    rw [Step.wp_onPart, Attempt.wp_outcome]
    exact (h.bench.command c hfull).wp fun _ _ _ hw => ⟨hw, h.rings⟩
  | call n c => exact h.onBuffer n (fun s j => c.perform_sends hfull s j) (hset n)
  | destroy n => exact h.onBuffer n Site.destroy_sends (herase n)
  | openRing bind settings =>
    refine fun _ => ⟨h.bench, fun hf r hr => ?_⟩
    rcases List.mem_append.mp hr with hold | hnew
    · exact h.rings hf r hold
    · -- a new ring has no buffer yet
      rw [List.mem_singleton.mp hnew]
      exact fun _ hb => nomatch hb
  | ringCall n c => exact h.onRing n (c.carryOut_sends hfull) (hset n)
  | destroyRing n => exact h.onRing n RingSite.destroy_sends (herase n)

/-- **Every run keeps the record in order.** -/
theorem run_sound {events : List Event} (h : x.Sound care)
    (hranged : care.ranged → ∀ e ∈ events, e.Ranged) (hfull : care.full → ∀ e ∈ events, e.Full) :
    (run events).Ends x fun _ y => y.Sound care := by
  induction events generalizing x with
  | nil => exact fun _ => h
  | cons e rest ih =>
    intro j
    show Step.wp (e.perform >>= fun _ => run rest) x j _
    rw [Step.wp_bind]
    refine (Event.perform_sound h e (fun hc => hranged hc e List.mem_cons_self)
      fun hc => hfull hc e List.mem_cons_self).wp fun _ y k hy => ?_
    exact ih hy (fun hc e' he' => hranged hc e' (List.mem_cons_of_mem e he'))
      (fun hc e' he' => hfull hc e' (List.mem_cons_of_mem e he')) k

/-! ## 5. Copies -/

/-- **The copies that are recorded.** A queue was started, and buffers, rings and a client asked the
    device for what they liked, while the driver refused and lent what it liked. Take any copy in
    the record. By what the calls before it say, its source and its target are there and bound to
    memory, and each of its regions lies within both. If nothing empty was asked for, each region
    has a byte; and if no transfer within one object was asked for without a range, the copy has a
    region. -/
theorem copies_recorded {present : Bool} {family : Nat} {refused : List (DriverCall × String)}
    {lends : Nat → Bool} {i : Journal} {queue : VulkanQueue}
    (hstart : ((VulkanQueue.start present family).run
      { Driver.new with failing := refused, lends } i).1.1 = .ok queue)
    (caps : Capabilities) (events : List Event) :
    (run events).Ends (.new queue caps) fun _ x => ∀ before source target regions after,
      x.calls = before ++ .copyBuffer source target regions :: after →
        ((∀ e ∈ events, e.Ranged) → regions ≠ []) ∧
        ∃ m n, Vulkan.standings before source = some ⟨m, true⟩ ∧
          Vulkan.standings before target = some ⟨n, true⟩ ∧
          ∀ r ∈ regions, r.sourceOffset + r.size ≤ m ∧ r.targetOffset + r.size ≤ n ∧
            ((∀ e ∈ events, e.Full) → 0 < r.size) := by
  let care : Care := ⟨∀ e ∈ events, e.Ranged, ∀ e ∈ events, e.Full⟩
  have hqueue : queue.driver.Filed care [] :=
    VulkanDevice.filed_start care present family refused lends i queue hstart
  have hnew : (new queue caps).Sound care :=
    ⟨⟨VulkanDevice.filed_new hqueue caps, fun _ _ hb => absurd hb List.not_mem_nil⟩,
      fun _ _ hr => absurd hr List.not_mem_nil⟩
  refine (run_sound hnew id id).mono fun _ x h before source target regions after hcalls => ?_
  obtain ⟨hsome, m, n, hs, ht, hapt⟩ := h.bench.device.filed.documented _ _ _ _ _ hcalls
  exact ⟨hsome, m, n, hs, ht, fun r hr =>
    ⟨(hapt r hr).source, (hapt r hr).target, (hapt r hr).filled⟩⟩

/-- A buffer is made with content. A write to it fails, since the staging buffer is refused its
    memory, and then bytes of it are moved: over a staging buffer, there and back. -/
def moving : List Event :=
  [.command (.create ⟨4, ∅, BindFlags.vertexBuffer, Access.gpu, 0⟩ (some ⟨#[1, 2, 3, 4]⟩) {}),
    .refuse [(.bindMemory, "ERROR_OUT_OF_DEVICE_MEMORY")],
    .call 0 (.complete (.store 1 ⟨#[5, 6]⟩)), .refuse [], .call 0 (.complete (.move 0 2 2))]

/-- The first of the two copies that move the bytes. -/
theorem copies_recorded_moving : ∃ queue x k,
    ((VulkanQueue.start true 0).run { Driver.new with failing := [] } (.empty .error)).1.1 =
      .ok queue ∧
    run moving (.new queue .modern) (.empty .error) = (((), x), k) ∧
    (∀ e ∈ moving, e.Ranged) ∧ (∀ e ∈ moving, e.Full) ∧
    ∃ before after m n, x.calls = before ++ .copyBuffer 1 5 [⟨2, 0, 2⟩] :: after ∧
      Vulkan.standings before 1 = some ⟨m, true⟩ ∧ Vulkan.standings before 5 = some ⟨n, true⟩ ∧
      2 + 2 ≤ m ∧ 0 + 2 ≤ n ∧ 0 < 2 := by
  have hstart : ((VulkanQueue.start true 0).run { Driver.new with failing := [] }
      (.empty .error)).1.1 = .ok ⟨(Driver.new.createCommandPool 0).2.firstQueue 0, 0⟩ := rfl
  let x := (run moving (.new ⟨(Driver.new.createCommandPool 0).2.firstQueue 0, 0⟩ .modern)
    (.empty .error)).1.2
  have hmoved : x.calls =
      x.calls.take 31 ++ .copyBuffer 1 5 [⟨2, 0, 2⟩] :: x.calls.drop 32 := by decide +kernel
  have hfull : ∀ e ∈ moving, e.Full := by decide
  obtain ⟨-, m, n, hsource, htarget, hregions⟩ :=
    (copies_recorded hstart .modern moving).of_run (Step.eq_end _ _ _) _ _ _ _ _ hmoved
  obtain ⟨hm, hn, hpos⟩ := hregions _ List.mem_cons_self
  exact ⟨_, x, _, hstart, Step.eq_end _ _ _, by decide, hfull, _, _, m, n, hmoved, hsource, htarget,
    hm, hn, hpos hfull⟩

/-- **Empty copies are recorded.** A buffer is made, and no bytes are written to it: that is a copy
    of a region without a byte. Where the client asks for a transfer within one object without a
    range, that is a copy without a region. -/
theorem empty_copies_recorded : ∃ queue x k,
    ((VulkanQueue.start true 0).run { Driver.new with failing := [] } (.empty .error)).1.1 =
      .ok queue ∧
    run [.command (.create ⟨4, ∅, BindFlags.vertexBuffer, Access.gpu, 0⟩ none {}),
        .call 0 (.complete (.store 1 ⟨#[]⟩)),
        .serve (.transfer (.object ⟨1⟩ 0) (.object ⟨1⟩ 0) [] ∅)]
      (.new queue .modern) (.empty .error) = (((), x), k) ∧
    .copyBuffer 3 1 [⟨0, 1, 0⟩] ∈ x.calls ∧ .copyBuffer 1 4 [] ∈ x.calls := by
  refine ⟨⟨(Driver.new.createCommandPool 0).2.firstQueue 0, 0⟩, _, _, rfl, Step.eq_end _ _ _,
    ?_, ?_⟩
  · decide +kernel
  · decide +kernel

end Depot

end BufferCoherence
