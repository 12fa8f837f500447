import BufferCoherence.Proofs.SideBySide
import BufferCoherence.Proofs.Transfers

/-!
# Twin devices

A memory device and a Vulkan device with the same objects. `Twins` says that both have handed out
the same handles and hold the same contents under them, that the memory device refuses nothing and
shifts no mapping, and that the Vulkan device is balanced on a driver that refuses no call.

Twins that are asked for the same answer the same and stay twins, one lemma a call; what has to hold
of the call is said by it: a transfer is in bounds, an object that is made is not empty, and an
object that is mapped is one that the host reaches (`VulkanDevice.visible`). `KeepsObjects` says
that the objects that were there keep their sizes, and stay as visible as they were.
-/

namespace BufferCoherence

open Vulkan (Driver MemoryLocation MemoryRecord)
open VulkanDevice (totalSize)

/-! ## 1. Objects of the Vulkan device -/

namespace VulkanDevice

variable {d e f : VulkanDevice} {c : VulkanQueue} {o : BoundBuffer} {a : ObjectHandle}
  {size : Nat} {reached : Bool}

/-- An object of a size, and whether the host reaches it. -/
def Has (e : VulkanDevice) (a : ObjectHandle) (size : Nat) (reached : Bool) : Prop :=
  ∃ content, e.bytes? a = some content ∧ content.size = size ∧ e.visible a = reached

/-- Every object stays, as long and as visible as it was. -/
def KeepsObjects (e f : VulkanDevice) : Prop := ∀ a size reached, e.Has a size reached →
  f.Has a size reached

theorem KeepsObjects.refl (e : VulkanDevice) : e.KeepsObjects e := fun _ _ _ h => h

theorem Balanced.has_iff (h : d.Balanced) : d.Has a size reached ↔ ∃ o m, d.object? a = some o ∧
    d.driver.Holds o.buffer o.memory m ∧ m.bytes.size = size ∧ m.hostVisible = reached := by
  constructor
  · rintro ⟨content, hcontent, hsize, hreached⟩
    obtain ⟨o, ho, -, hm⟩ := h.object_of_bytes? hcontent
    exact ⟨o, _, ho, hm, hsize, hreached⟩
  · rintro ⟨o, m, ho, hm, hsize, hreached⟩
    obtain ⟨m', hm', -, hbytes, hvisible⟩ := h.bytes?_eq ho
    cases hm'.bound.symm.trans hm.bound
    exact ⟨_, hbytes, hsize, hvisible.trans hreached⟩

/-- Handles that were not handed out yet name no object. -/
theorem Has.issued (h : d.Balanced) (ha : d.Has a size reached) : a.number < d.nextHandle := by
  obtain ⟨o, -, ho, -⟩ := h.has_iff.mp ha
  exact h.issued _ (List.mem_map_of_mem (Balanced.mem_of_object? ho))

/-- Where the driver keeps its bindings, the objects are kept. -/
theorem Balanced.keepsObjects (h : d.Balanced) (he : Balanced { d with queue := c })
    (hbinds : d.driver.Binds c.driver) : d.KeepsObjects { d with queue := c } := by
  intro a size reached ha
  obtain ⟨o, m, ho, hm, hsize, hreached⟩ := h.has_iff.mp ha
  obtain ⟨bytes, hbytes, hsame⟩ := hbinds.bound _ _ m hm
  exact he.has_iff.mpr ⟨o, _, ho, ⟨Nat.lt_of_lt_of_le hm.bufferKnown hbinds.nextBuffer,
    Nat.lt_of_lt_of_le hm.memoryKnown hbinds.nextMemory, hbytes⟩, hsame.trans hsize, hreached⟩

/-- A transfer is the work of the queue alone. -/
theorem transfer_onQueue (h : d.Balanced) (target : TransferTarget) (source : TransferSource)
    (ranges : List ByteRange) (flags : MapFlags) :
    (transfer target source ranges flags).Ends d fun _ e => ∃ c, e = { d with queue := c } ∧
      d.driver.Binds c.driver := by
  intro j
  unfold transfer VulkanDevice.onQueue
  simp only [Step.wp_bind, Step.wp_note, Step.wp_get, Step.wp_onPart]
  exact (transferOn_binds h target source ranges).wp fun _ c _ hbinds => ⟨c, rfl, hbinds⟩

/-- **A new object**, where the driver refuses nothing and has room: all zeroes, and visible as its
    memory preference says. -/
theorem makeObject_adds (h : d.Balanced) (hwilling : d.driver.Willing) (request : ObjectRequest)
    (hpos : 0 < request.size) (hroom : d.driver.lends request.size = true) :
    (makeObject request).Ends d fun r e => r = .ok ⟨⟨d.nextHandle⟩, 0⟩ ∧ e.caps = d.caps ∧
      e.nextHandle = d.nextHandle + 1 ∧ e.driver.manner = d.driver.manner ∧
      e.visible ⟨d.nextHandle⟩ = (MemoryLocation.ofPreference request.memory).hostVisible ∧
      ∀ a, e.bytes? a =
          (if a = ⟨d.nextHandle⟩ then some (Bytes.zeros request.size) else d.bytes? a) ∧
        (a ≠ ⟨d.nextHandle⟩ → e.visible a = d.visible a) := by
  intro j
  unfold makeObject
  simp only [Attempt.wp_bind, Attempt.wp_onPart]
  refine (VulkanQueue.makeBuffer_ends (.refl d.driver) _ _ _).wp fun r c k hpost => ?_
  obtain ⟨hkeeps, hstages, hok⟩ := hpost
  obtain ⟨o, rfl⟩ := hok hwilling (hwilling.allocationFault? hpos hroom)
  obtain ⟨hlength, hs⟩ := hstages o rfl
  simp only [Attempt.wp_get, Attempt.wp_note, Attempt.wp_set, Attempt.wp_pure]
  refine ⟨trivial, trivial, trivial, hkeeps.manner, ?_, fun a => ?_⟩
  · unfold visible object?
    show ((d.objects.insert d.nextHandle o).get? d.nextHandle |>.bind _).isSome = _
    rw [Table.get?_insert, if_pos rfl]
    show (c.driver.mapped? o.buffer).isSome = _
    rw [Driver.mapped?_of_memoryOf? hs.bound]
    cases (MemoryLocation.ofPreference request.memory).hostVisible <;> rfl
  · unfold bytes? visible object?
    show ((d.objects.insert d.nextHandle o).get? a.number |>.bind
        fun o => c.driver.bytes? o.buffer) = _ ∧
      (_ → ((d.objects.insert d.nextHandle o).get? a.number |>.bind
        fun o => c.driver.mapped? o.buffer).isSome = _)
    rw [Table.get?_insert]
    by_cases ha : a = ⟨d.nextHandle⟩
    · rw [if_pos ha, if_pos (congrArg ObjectHandle.number ha)]
      exact ⟨Driver.bytes?_of_memoryOf? hs.bound, fun hne => absurd ha hne⟩
    · rw [if_neg ha, if_neg fun he => ha (by cases a; cases he; rfl)]
      cases hp : d.objects.get? a.number with
      | none => exact ⟨rfl, fun _ => rfl⟩
      | some p =>
        -- an object that was there before has the memory it had
        obtain ⟨m, hm, -⟩ := h.holds (a := a) hp
        have hsame := (hm.kept hkeeps).bound
        simp only [Option.bind_some, Driver.bytes?_of_memoryOf? hsame,
          Driver.bytes?_of_memoryOf? hm.bound, Driver.mapped?_of_memoryOf? hsame,
          Driver.mapped?_of_memoryOf? hm.bound]
        exact ⟨trivial, fun _ => trivial⟩

theorem releaseIdle_manner (a : ObjectHandle) (o : BoundBuffer) :
    (releaseIdle a o).Ends c fun _ e => e.driver.manner = c.driver.manner := by
  intro j
  have hreleased (d : Driver) : ((d.free o.memory).destroyBuffer o.buffer).manner = d.manner := by
    unfold Driver.destroyBuffer Driver.free
    simp only
    split <;> split <;> rfl
  unfold releaseIdle VulkanQueue.releaseBuffer
  rw [Step.wp_bind, VulkanQueue.wp_call]
  have hwaited := (Driver.idles_perform c.driver .queueWaitIdle .waitQueueIdle).manner
  cases (Driver.waitQueueIdle c.driver).1 with
  | ok _ => exact (hreleased _).trans hwaited
  | error _ => exact (hreleased _).trans hwaited

/-- **An object given up** is gone, and the others stay as they were. -/
theorem freeObject_removes (h : d.Balanced) (a : ObjectHandle) :
    (freeObject a).Ends d fun _ e => e.caps = d.caps ∧ e.nextHandle = d.nextHandle ∧
      e.driver.manner = d.driver.manner ∧ e.bytes? a = none ∧
      ∀ b, b ≠ a → e.bytes? b = d.bytes? b ∧ e.visible b = d.visible b := by
  intro j
  unfold freeObject VulkanDevice.onQueue
  simp only [Step.wp_bind, Step.wp_modify, Step.wp_get]
  cases ho : object? { d with capture := if d.capture = some a then none else d.capture } a with
  | none =>
    refine ⟨rfl, rfl, rfl, ?_, fun b _ => ⟨rfl, rfl⟩⟩
    exact congrArg (Option.bind · _) ho
  | some o =>
    simp only [Step.wp_bind, Step.wp_set, Step.wp_onPart]
    refine ((releaseIdle_others (a := a) (o := o)).and (releaseIdle_manner a o)).wp
      fun _ c k hpost => ?_
    obtain ⟨hothers, hmanner⟩ := hpost
    refine ⟨trivial, trivial, hmanner, ?_, fun b hb => ?_⟩
    · show ((d.objects.erase a.number).get? a.number).bind _ = _
      rw [Table.get?_erase, if_pos rfl]
      rfl
    · have hget : (d.objects.erase a.number).get? b.number = d.object? b := by
        rw [Table.get?_erase, if_neg fun he => hb (by cases a; cases b; cases he; rfl)]
        rfl
      show ((d.objects.erase a.number).get? b.number).bind (fun o => c.driver.bytes? o.buffer) = _ ∧
        (((d.objects.erase a.number).get? b.number).bind
          fun o => c.driver.mapped? o.buffer).isSome = _
      rw [hget]
      unfold bytes? visible
      cases hp : d.object? b with
      | none => exact ⟨rfl, rfl⟩
      | some p =>
        obtain ⟨m, hm, -⟩ := h.holds hp
        obtain ⟨m', hm', -⟩ := h.holds ho
        have hmemory : p.memory ≠ o.memory := h.memory_ne hp ho hb.symm
        have hbuffer : p.buffer ≠ o.buffer := fun he => by
          have hbound := hm.bound
          rw [he] at hbound
          exact hmemory (congrArg Prod.fst (Option.some.inj (hbound.symm.trans hm'.bound)))
        have hsame := hothers _ _ m hm.bound hbuffer hmemory
        simp only [Option.bind_some, Driver.bytes?_of_memoryOf? hsame,
          Driver.bytes?_of_memoryOf? hm.bound, Driver.mapped?_of_memoryOf? hsame,
          Driver.mapped?_of_memoryOf? hm.bound]
        exact ⟨trivial, trivial⟩

/-- An object that the host reaches is mapped where it lies. -/
theorem openMapping_ok (h : d.Balanced) (hwilling : d.driver.Willing) (ha : d.Has a size true)
    {offset length : Nat} (hfit : offset + length ≤ size) (flags : MapFlags) :
    (openMapping a offset length flags).Ends d fun r e => r = .ok offset ∧
      ∃ c, e = { d with queue := c } ∧ d.driver.SameStorage c.driver := by
  intro j
  obtain ⟨o, m, ho, hm, hsize, hreached⟩ := h.has_iff.mp ha
  obtain ⟨m', hm', hlength⟩ := h.holds ho
  cases hm'.bound.symm.trans hm.bound
  have hmapped : d.driver.mapped? o.buffer = some m.bytes := by
    rw [Driver.mapped?_of_memoryOf? hm.bound, hreached]
    rfl
  unfold openMapping
  simp only [Attempt.wp_bind, Attempt.wp_get, ho, hmapped, Option.isNone_some]
  rw [if_neg (by omega), if_neg Bool.false_ne_true]
  simp only [Attempt.wp_bind, Attempt.wp_ite, Attempt.wp_onPart, Attempt.wp_pure]
  split
  · refine (VulkanQueue.tryCall_idles (k := .waitQueueIdle) fun _ => rfl).wp fun r c k hpost => ?_
    obtain ⟨hidles, hok⟩ := hpost
    cases hok hwilling
    exact ⟨trivial, c, rfl, hidles.toSameStorage⟩
  · exact ⟨trivial, d.queue, rfl, rfl, rfl, rfl, rfl, rfl⟩

/-- An object that the host does not reach is not mapped. -/
theorem openMapping_refused (h : d.Balanced) (ha : d.Has a size false) (offset length : Nat)
    (flags : MapFlags) :
    (openMapping a offset length flags).Ends d fun r _ => ∃ f, r = .error f := by
  intro j
  obtain ⟨o, m, ho, hm, -, hreached⟩ := h.has_iff.mp ha
  have hmapped : d.driver.mapped? o.buffer = none := by
    rw [Driver.mapped?_of_memoryOf? hm.bound, hreached]
    rfl
  unfold openMapping
  simp only [Attempt.wp_bind, Attempt.wp_get, ho, hmapped, Option.isNone_none, if_true]
  split
  · exact ⟨_, rfl⟩
  · exact ⟨_, rfl⟩

theorem closeMapping_same (d : VulkanDevice) (a : ObjectHandle) (ranges : List ByteRange) :
    (closeMapping a ranges).Ends d fun _ e => e = d := by
  intro j
  unfold closeMapping
  simp only [Step.wp_bind, Step.wp_get, Step.wp_ite, Step.wp_note, ite_self]

/-- Bytes written in place where they fit: the content changes, and nothing else does. -/
theorem poke_writes (h : d.Balanced) {content : ByteArray} (ha : d.bytes? a = some content)
    (position : Nat) (data : ByteArray) :
    ∃ c, poke a position data d = { d with queue := c } ∧ d.driver.Binds c.driver ∧
      ∀ b, bytes? { d with queue := c } b =
        if b = a then some (Bytes.splice content position data) else d.bytes? b := by
  obtain ⟨o, ho, -, hm⟩ := h.object_of_bytes? ha
  unfold poke
  simp only [ho, Driver.bytes?_of_memoryOf? hm.bound]
  refine ⟨_, rfl, Driver.binds_setBytes hm.bound (Bytes.size_splice _ _ _), ?_⟩
  exact h.bytes?_written ho (.refl _)

theorem peek_eq {content : ByteArray} (ha : d.bytes? a = some content) (position size : Nat) :
    peek d a position size = content.extract position (position + size) := by
  unfold peek
  simp only [show ((d.object? a).bind fun o => d.driver.bytes? o.buffer) = some content from ha]

end VulkanDevice

/-! ## 2. Twins -/

/-- Both devices are modern and have the same objects with the same contents, and neither refuses
    anything; the driver lends memory of the sizes `lends`. -/
structure Twins (lends : Nat → Bool) (d : MemoryDevice) (e : VulkanDevice) : Prop where
  caps : e.caps = d.caps
  modern : d.caps.backend = .modern
  nextHandle : e.nextHandle = d.nextHandle
  granting : d.refusesObjects = false
  straight : d.shiftsMappings = false
  balanced : e.Balanced
  willing : e.driver.Willing
  lent : e.driver.lends = lends
  bytes : ∀ a, e.bytes? a = d.bytes? a

/-- The source has every range. -/
def TransferSource.Covers (e : VulkanDevice) (ranges : List ByteRange) (source : TransferSource) :
    Prop :=
  ∃ content base, source.reads? e.bytes? = some (content, base) ∧
    ∀ r ∈ ranges, base + r.stop ≤ content.size

/-- The target has every range. -/
def TransferTarget.Covers (e : VulkanDevice) (ranges : List ByteRange) (target : TransferTarget) :
    Prop :=
  ∃ content base, target.writes? e.bytes? = some (content, base) ∧
    ∀ r ∈ ranges, base + r.stop ≤ content.size

section Covers

variable {e : VulkanDevice} {ranges : List ByteRange} {a : ObjectHandle} {size : Nat}
  {reached : Bool}

theorem TransferSource.covers_host {data : ByteArray} (h : ∀ r ∈ ranges, r.stop ≤ data.size) :
    (TransferSource.host data).Covers e ranges :=
  ⟨data, 0, rfl, fun r hr => (Nat.zero_add r.stop).symm ▸ h r hr⟩

theorem TransferTarget.covers_host {data : ByteArray} (h : ∀ r ∈ ranges, r.stop ≤ data.size) :
    (TransferTarget.host data).Covers e ranges :=
  ⟨data, 0, rfl, fun r hr => (Nat.zero_add r.stop).symm ▸ h r hr⟩

theorem TransferSource.covers_object (ha : e.Has a size reached) {base : Nat}
    (h : ∀ r ∈ ranges, base + r.stop ≤ size) : (TransferSource.object a base).Covers e ranges := by
  obtain ⟨content, hcontent, rfl, -⟩ := ha
  exact ⟨content, base, congrArg (Option.map (·, base)) hcontent, h⟩

theorem TransferTarget.covers_object (ha : e.Has a size reached) {base : Nat}
    (h : ∀ r ∈ ranges, base + r.stop ≤ size) : (TransferTarget.object a base).Covers e ranges := by
  obtain ⟨content, hcontent, rfl, -⟩ := ha
  exact ⟨content, base, congrArg (Option.map (·, base)) hcontent, h⟩

end Covers

namespace Twins

variable {lends : Nat → Bool} {d d' : MemoryDevice} {e : VulkanDevice} {c : VulkanQueue}
  {a : ObjectHandle} {size : Nat} {reached : Bool}

/-- Two devices without objects. -/
theorem new (hbooks : c.driver.Books [] [] []) (hwilling : c.driver.Willing)
    {caps : Capabilities} (hmodern : caps.backend = .modern) :
    Twins c.driver.lends (.new caps) (.new c caps) :=
  ⟨rfl, hmodern, rfl, rfl, rfl, .new hbooks caps, hwilling, rfl, fun _ => rfl⟩

/-- What the queue works on keeps the twins, where both contents stay equal. -/
theorem onQueue (h : Twins lends d e) (hd : MemoryDevice.SameKnobs d d')
    (he : VulkanDevice.Balanced { e with queue := c }) (hbinds : e.driver.Binds c.driver)
    (hbytes : ∀ a, VulkanDevice.bytes? { e with queue := c } a = d'.bytes? a) :
    Twins lends d' { e with queue := c } where
  caps := h.caps.trans hd.caps.symm
  modern := hd.caps ▸ h.modern
  nextHandle := h.nextHandle.trans hd.nextHandle.symm
  granting := hd.refusesObjects.trans h.granting
  straight := hd.shiftsMappings.trans h.straight
  balanced := he
  willing := h.willing.of_manner hbinds.manner
  lent := (Driver.lends_of_manner hbinds.manner).trans h.lent
  bytes := hbytes

/-- **Twins transfer alike.** -/
theorem transfer (h : Twins lends d e) {target : TransferTarget} {source : TransferSource}
    {ranges : List ByteRange} (hsource : source.Covers e ranges) (htarget : target.Covers e ranges)
    (hroom : lends (max (totalSize ranges) 1) = true) (flags : MapFlags) :
    (Device.transfer target source ranges flags : Step MemoryDevice _).Agree
      (Device.transfer target source ranges flags) d e fun reply d' e' =>
        reply.outcome = .ok () ∧ reply.host.size = target.hostBytes.size ∧ Twins lends d' e' ∧
          e.KeepsObjects e' := by
  obtain ⟨content, sourceBase, hreads, hfrom⟩ := hsource
  obtain ⟨into, targetBase, hwrites, hto⟩ := htarget
  have hviews : e.bytes? = d.bytes? := funext h.bytes
  rw [hviews] at hreads hwrites
  obtain ⟨result, hresult, hends⟩ := transfers_agree h.balanced h.willing h.bytes hreads hwrites
    (fun r hr => ⟨hfrom r hr, hto r hr⟩) (fun _ => h.lent ▸ hroom) flags
  have hknobs := MemoryDevice.transfer_delivers hreads hwrites hfrom hto flags
  refine .of_ends (hends.and hknobs) fun reply d' hpost => ?_
  obtain ⟨⟨hdelivers, he⟩, -, hsame⟩ := hpost
  refine ((he.and (VulkanDevice.transfer_onQueue h.balanced target source ranges flags)).and
    (VulkanDevice.transfer_balanced h.balanced target source ranges flags)).mono
      fun reply' e' hpost => ?_
  obtain ⟨⟨⟨-, rfl, hbytes⟩, c, rfl, hbinds⟩, hbalanced⟩ := hpost
  refine ⟨rfl, hdelivers.1, ?_, h.onQueue hsame hbalanced hbinds hbytes,
    h.balanced.keepsObjects hbalanced hbinds⟩
  obtain ⟨-, hhost⟩ := hdelivers
  cases target with
  | host data =>
    cases hwrites
    rw [hhost.1, hresult.size]
    rfl
  | object _ _ =>
    rw [hhost.1]
    rfl

/-- **Twins make the same objects**, and name them the same. -/
theorem makeObject (h : Twins lends d e) (request : ObjectRequest) (hpos : 0 < request.size)
    (hhosted : request.size ≤ Bytes.largestRun) (hroom : lends request.size = true) :
    (Device.makeObject request : Attempt MemoryDevice _).Agree (Device.makeObject request) d e
      fun r d' e' => r = .ok ⟨⟨e.nextHandle⟩, 0⟩ ∧ Twins lends d' e' ∧ e.KeepsObjects e' ∧
        e'.Has ⟨e.nextHandle⟩ request.size
          (MemoryLocation.ofPreference request.memory).hostVisible := by
  refine Step.Agree.of_ends (MemoryDevice.makeObject_ends d request) fun r d' hpost => ?_
  obtain ⟨rfl, -, hadds⟩ | ⟨-, hno, -⟩ := hpost
  · refine Step.Ends.mono (Step.Ends.and
      (VulkanDevice.makeObject_adds h.balanced h.willing request hpos (h.lent ▸ hroom))
      (VulkanDevice.makeObject_balanced h.balanced request)) fun r' e' hpost => ?_
    obtain ⟨⟨rfl, hcaps, hnext, hmanner, hvisible, hobjects⟩, hbalanced⟩ := hpost
    have hnew := (hobjects ⟨e.nextHandle⟩).1
    rw [if_pos rfl] at hnew
    rw [h.nextHandle]
    refine ⟨rfl, rfl, ⟨hcaps.trans (h.caps.trans hadds.caps.symm), hadds.caps ▸ h.modern, ?_, ?_,
      ?_, hbalanced, h.willing.of_manner hmanner,
      (Driver.lends_of_manner hmanner).trans h.lent, fun a => ?_⟩, fun a size reached ha => ?_, ?_⟩
    · rw [hnext, hadds.nextHandle, h.nextHandle]
    · exact hadds.refusesObjects.trans h.granting
    · exact hadds.shiftsMappings.trans h.straight
    · rw [(hobjects a).1, h.nextHandle]
      split
      · rename_i ha
        rw [ha]
        exact hadds.bytes.symm
      · rename_i ha
        exact (h.bytes a).trans (hadds.others a ha).symm
    · have hne : a ≠ ⟨e.nextHandle⟩ := fun he =>
        Nat.lt_irrefl _ (he ▸ ha.issued h.balanced)
      obtain ⟨content, hcontent, hsize, hreached⟩ := ha
      refine ⟨content, ?_, hsize, ((hobjects a).2 hne).trans hreached⟩
      rw [(hobjects a).1, if_neg hne]
      exact hcontent
    · rw [← h.nextHandle]
      exact ⟨_, hnew, Bytes.size_zeros _, hvisible⟩
  · exact absurd ⟨hhosted, h.granting⟩ hno

/-- **Twins give up the same objects.** -/
theorem freeObject (h : Twins lends d e) (a : ObjectHandle) :
    (Device.freeObject a : Step MemoryDevice _).Agree (Device.freeObject a) d e fun _ d' e' =>
      Twins lends d' e' ∧
        ∀ b size reached, b ≠ a → e.Has b size reached → e'.Has b size reached := by
  have hgone : (MemoryDevice.freeObject a).Ends d fun _ d' => d'.bytes? a = none := by
    intro j
    unfold MemoryDevice.freeObject
    simp only [Step.wp_bind, Step.wp_get, Step.wp_ite, Step.wp_note, Step.wp_set, ite_self]
    show ((d.objects.erase a.number).get? a.number).map _ = _
    rw [Table.get?_erase, if_pos rfl]
    rfl
  refine .of_ends ((MemoryDevice.freeObject_ends d a).and hgone) fun _ d' hpost => ?_
  obtain ⟨⟨hknobs, hothers⟩, hnone⟩ := hpost
  refine ((VulkanDevice.freeObject_removes h.balanced a).and
    (VulkanDevice.freeObject_balanced h.balanced a)).mono fun _ e' hpost => ?_
  obtain ⟨⟨hcaps, hnext, hmanner, hnone', hkept⟩, hbalanced⟩ := hpost
  refine ⟨rfl, ⟨hcaps.trans (h.caps.trans hknobs.caps.symm), hknobs.caps ▸ h.modern, ?_, ?_, ?_,
    hbalanced, h.willing.of_manner hmanner, (Driver.lends_of_manner hmanner).trans h.lent,
    fun b => ?_⟩, fun b size reached hb hhas => ?_⟩
  · rw [hnext, hknobs.nextHandle, h.nextHandle]
  · exact hknobs.refusesObjects.trans h.granting
  · exact hknobs.shiftsMappings.trans h.straight
  · by_cases hb : b = a
    · rw [hb, hnone, hnone']
    · rw [(hkept b hb).1, hothers b hb, h.bytes b]
  · obtain ⟨content, hcontent, hsize, hreached⟩ := hhas
    exact ⟨content, (hkept b hb).1.trans hcontent, hsize, (hkept b hb).2.trans hreached⟩

/-- **Twins map the same objects**, those that the host reaches. -/
theorem openMapping (h : Twins lends d e) (ha : e.Has a size true) (flags : MapFlags) :
    (Device.openMapping a 0 size flags : Attempt MemoryDevice _).Agree
      (Device.openMapping a 0 size flags) d e fun r d' e' => r = .ok 0 ∧ Twins lends d' e' ∧
        e.KeepsObjects e' := by
  obtain ⟨content, hcontent, hsize, -⟩ := id ha
  refine Step.Agree.of_ends
    (MemoryDevice.openMapping_ends ((h.bytes a).symm.trans hcontent) hsize.symm flags)
    fun r d' hpost => ?_
  obtain ⟨rfl, huntouched⟩ := hpost
  refine Step.Ends.mono (VulkanDevice.openMapping_ok h.balanced h.willing ha
    (Nat.le_of_eq (Nat.zero_add size)) flags |>.and
      (VulkanDevice.openMapping_balanced h.balanced a 0 size flags)) fun r' e' hpost => ?_
  obtain ⟨⟨rfl, c, rfl, hsame⟩, hbalanced⟩ := hpost
  have hkeeps : e.driver.Keeps c.driver := (Driver.Keeps.refl _).same hsame
  rw [h.straight]
  refine ⟨rfl, rfl, h.onQueue huntouched.toSameKnobs hbalanced hkeeps.binds fun b => ?_,
    h.balanced.keepsObjects hbalanced hkeeps.binds⟩
  rw [h.balanced.bytes?_kept hkeeps b, huntouched.bytes b, h.bytes b]

/-- Twins unmap the same objects. -/
theorem closeMapping (h : Twins lends d e) (a : ObjectHandle) (ranges : List ByteRange) :
    (Device.closeMapping a ranges : Step MemoryDevice _).Agree (Device.closeMapping a ranges) d e
      fun _ d' e' => Twins lends d' e' ∧ e.KeepsObjects e' := by
  refine .of_ends (MemoryDevice.closeMapping_ends d a ranges) fun _ d' huntouched => ?_
  refine (VulkanDevice.closeMapping_same e a ranges).mono fun _ e' he => ?_
  have hbytes (b : ObjectHandle) : e.bytes? b = d'.bytes? b :=
    (h.bytes b).trans (huntouched.bytes b).symm
  rw [he]
  exact ⟨rfl, h.onQueue (c := e.queue) huntouched.toSameKnobs h.balanced
    (Driver.Keeps.refl _).binds hbytes, .refl e⟩

/-- Twins read the same bytes in place. -/
theorem peek (h : Twins lends d e) (ha : e.Has a size reached) {position length : Nat}
    (hfit : position + length ≤ size) :
    Device.peek e a position length = Device.peek d a position length := by
  obtain ⟨content, hcontent, hsize, -⟩ := ha
  show VulkanDevice.peek e a position length = MemoryDevice.peek d a position length
  rw [VulkanDevice.peek_eq hcontent,
    MemoryDevice.peek_eq ((h.bytes a).symm.trans hcontent) (by omega)]

/-- Bytes written in place keep the twins. -/
theorem poke (h : Twins lends d e) (ha : e.Has a size reached) {position : Nat} {data : ByteArray}
    (hfit : position + data.size ≤ size) :
    Twins lends (Device.poke a position data d) (Device.poke a position data e) ∧
      e.KeepsObjects (Device.poke a position data e) := by
  obtain ⟨content, hcontent, hsize, -⟩ := ha
  obtain ⟨c, hc, hbinds, hbytes⟩ := VulkanDevice.poke_writes h.balanced hcontent position data
  have hbalanced := VulkanDevice.poke_balanced h.balanced a position data
  have hrewrites : MemoryDevice.Rewrites a (Bytes.splice content position data) d
      (MemoryDevice.poke a position data d) :=
    MemoryDevice.rewrites_poke ((h.bytes a).symm.trans hcontent) (by omega)
  show Twins lends (MemoryDevice.poke a position data d) (VulkanDevice.poke a position data e) ∧
    e.KeepsObjects (VulkanDevice.poke a position data e)
  rw [hc] at hbalanced ⊢
  refine ⟨h.onQueue hrewrites.toSameKnobs hbalanced hbinds fun b => ?_,
    h.balanced.keepsObjects hbalanced hbinds⟩
  rw [hbytes b]
  split
  · rename_i hb
    rw [hb, hrewrites.bytes]
  · rename_i hb
    rw [hrewrites.others b hb, h.bytes b]

end Twins

end BufferCoherence
