import BufferCoherence.Proofs.Bytes
import BufferCoherence.Proofs.Steps
import BufferCoherence.Vulkan.Device

/-!
# What the Vulkan queue keeps

What the calls of a driver leave of what was there, while any of them may fail, and that all of them
succeed where the driver refuses none (`Driver.Willing`).

* `Driver.Keeps`: a staging buffer has numbers of its own, so that what the driver had before stays
  as it was;
* `VulkanQueue.submitOnce_ends`: copies that are submitted happen, in the order in which they were
  recorded, or the submission fails. It may fail after they happened.
-/

namespace BufferCoherence

open Vulkan (Driver MemoryLocation MemoryRecord BufferRecord CopyRegion CopyCommand)

/-! ## 1. What a driver keeps -/

namespace Vulkan.Driver

variable {d e e' : Driver} {buffer memory : Nat} {m : MemoryRecord}

/-- No call is refused. -/
def Willing (d : Driver) : Prop := ∀ c, d.code? c = none

/-- Memory of a size that is not zero is had, where the driver lends it. -/
theorem Willing.allocationFault? (h : d.Willing) {size : Nat} (hpos : 0 < size)
    (hroom : d.lends size = true) : d.allocationFault? size = none := by
  unfold Driver.allocationFault?
  rw [h .allocateMemory, hroom, if_neg (by omega), if_neg (by simp), if_neg (by simp)]

/-- How the driver answers: the calls that it refuses, and the sizes of which it lends memory. -/
def manner (d : Driver) : List (DriverCall × String) × (Nat → Bool) := (d.failing, d.lends)

theorem lends_of_manner (h : e.manner = d.manner) : e.lends = d.lends := congrArg Prod.snd h

theorem code?_of_manner (h : e.manner = d.manner) (c : DriverCall) : e.code? c = d.code? c :=
  congrArg (fun m => m.1.lookup c) h

theorem allocationFault?_of_manner (h : e.manner = d.manner) (size : Nat) :
    e.allocationFault? size = d.allocationFault? size := by
  unfold Driver.allocationFault?
  rw [code?_of_manner h, lends_of_manner h]

/-- The same buffers and the same memory, and the same answers. -/
structure SameStorage (d e : Driver) : Prop where
  manner : e.manner = d.manner
  buffers : e.buffers = d.buffers
  nextBuffer : e.nextBuffer = d.nextBuffer
  memories : e.memories = d.memories
  nextMemory : e.nextMemory = d.nextMemory

theorem SameStorage.trans (h : d.SameStorage e) (h' : e.SameStorage e') : d.SameStorage e' :=
  ⟨h'.manner.trans h.manner, h'.buffers.trans h.buffers, h'.nextBuffer.trans h.nextBuffer,
    h'.memories.trans h.memories, h'.nextMemory.trans h.nextMemory⟩

theorem Willing.of_manner (hd : d.Willing) (h : e.manner = d.manner) : e.Willing := fun c =>
  (code?_of_manner h c).trans (hd c)

/-- Every buffer and every piece of memory numbered before stays as it was. -/
structure Keeps (d e : Driver) : Prop where
  manner : e.manner = d.manner
  nextBuffer : d.nextBuffer ≤ e.nextBuffer
  nextMemory : d.nextMemory ≤ e.nextMemory
  buffers : ∀ i < d.nextBuffer, e.buffers.get? i = d.buffers.get? i
  memories : ∀ i < d.nextMemory, e.memories.get? i = d.memories.get? i

theorem Keeps.refl (d : Driver) : d.Keeps d :=
  ⟨rfl, Nat.le_refl _, Nat.le_refl _, fun _ _ => rfl, fun _ _ => rfl⟩

theorem Keeps.same (h : d.Keeps e) (hs : e.SameStorage e') : d.Keeps e' := by
  refine ⟨hs.manner.trans h.manner, ?_, ?_, fun i hi => ?_, fun i hi => ?_⟩
  · rw [hs.nextBuffer]
    exact h.nextBuffer
  · rw [hs.nextMemory]
    exact h.nextMemory
  · rw [hs.buffers]
    exact h.buffers i hi
  · rw [hs.memories]
    exact h.memories i hi

theorem memoryOf?_eq_some : d.memoryOf? buffer = some (memory, m) ↔
    ∃ b, d.buffers.get? buffer = some b ∧ b.memory = some memory ∧
      d.memories.get? memory = some m := by
  unfold memoryOf?
  simp only [bind, Option.bind_eq_some_iff, pure, Option.some.injEq, Prod.mk.injEq]
  grind

/-- The memory of a buffer numbered before is the memory it had. -/
theorem Keeps.memoryOf? (h : d.Keeps e) (hl : d.memoryOf? buffer = some (memory, m))
    (hb : buffer < d.nextBuffer) (hm : memory < d.nextMemory) :
    e.memoryOf? buffer = some (memory, m) := by
  rw [memoryOf?_eq_some] at hl ⊢
  rw [h.buffers buffer hb, h.memories memory hm]
  exact hl

theorem SameStorage.memoryOf? (h : d.SameStorage e) (b : Nat) :
    e.memoryOf? b = d.memoryOf? b := by
  unfold Driver.memoryOf?
  rw [h.buffers, h.memories]

theorem mapped?_of_memoryOf? (hl : d.memoryOf? buffer = some (memory, m)) :
    d.mapped? buffer = if m.hostVisible then some m.bytes else none := by
  unfold mapped?
  simp only [hl]

theorem bytes?_of_memoryOf? (hl : d.memoryOf? buffer = some (memory, m)) :
    d.bytes? buffer = some m.bytes := by
  unfold Driver.bytes?
  rw [hl, Option.map_some]

theorem sameStorage_record (d : Driver) (c : Call) : d.SameStorage (d.record c) :=
  ⟨rfl, rfl, rfl, rfl, rfl⟩

theorem Keeps.insertBuffer (h : d.Keeps e) (hb : d.nextBuffer ≤ buffer) (b : BufferRecord) :
    d.Keeps { e with buffers := e.buffers.insert buffer b } := by
  refine { h with buffers := fun i hi => ?_ }
  rw [Table.get?_insert, if_neg (by omega)]
  exact h.buffers i hi

theorem Keeps.insertMemory (h : d.Keeps e) (hm : d.nextMemory ≤ memory) (m : MemoryRecord) :
    d.Keeps { e with memories := e.memories.insert memory m } := by
  refine { h with memories := fun i hi => ?_ }
  rw [Table.get?_insert, if_neg (by omega)]
  exact h.memories i hi

theorem Keeps.newBuffer (h : d.Keeps e) (b : BufferRecord) : d.Keeps { e with
    buffers := e.buffers.insert e.nextBuffer b, nextBuffer := e.nextBuffer + 1 } :=
  { h.insertBuffer h.nextBuffer b with nextBuffer := Nat.le_succ_of_le h.nextBuffer }

theorem Keeps.newMemory (h : d.Keeps e) (m : MemoryRecord) : d.Keeps { e with
    memories := e.memories.insert e.nextMemory m, nextMemory := e.nextMemory + 1 } :=
  { h.insertMemory h.nextMemory m with nextMemory := Nat.le_succ_of_le h.nextMemory }

/-- A buffer that came later is released. -/
theorem Keeps.destroyBuffer (h : d.Keeps e) (hb : d.nextBuffer ≤ buffer) :
    d.Keeps (e.destroyBuffer buffer) := by
  unfold Driver.destroyBuffer
  simp only
  split
  · refine { h with buffers := fun i hi => ?_ }
    show (e.buffers.erase buffer).get? i = _
    rw [Table.get?_erase, if_neg (by omega)]
    exact h.buffers i hi
  · exact h.same ⟨rfl, rfl, rfl, rfl, rfl⟩

/-- Memory that came later is released. -/
theorem Keeps.free (h : d.Keeps e) (hm : d.nextMemory ≤ memory) : d.Keeps (e.free memory) := by
  unfold Driver.free
  split
  · refine { h with memories := fun i hi => ?_ }
    show (e.memories.erase memory).get? i = _
    rw [Table.get?_erase, if_neg (by omega)]
    exact h.memories i hi
  · exact h.same ⟨rfl, rfl, rfl, rfl, rfl⟩

/-- Bytes written to memory that came later. -/
theorem Keeps.setBytes (h : d.Keeps e) (hl : e.memoryOf? buffer = some (memory, m))
    (hm : d.nextMemory ≤ memory) (bytes : ByteArray) : d.Keeps (e.setBytes buffer bytes) := by
  unfold Driver.setBytes
  simp only [hl]
  exact h.insertMemory hm _

theorem memoryOf?_setBytes (hl : d.memoryOf? buffer = some (memory, m)) (bytes : ByteArray) :
    (d.setBytes buffer bytes).memoryOf? buffer = some (memory, { m with bytes }) := by
  obtain ⟨b, hb, hbm, -⟩ := memoryOf?_eq_some.mp hl
  unfold Driver.setBytes
  simp only [hl]
  refine memoryOf?_eq_some.mpr ⟨b, hb, hbm, ?_⟩
  show (d.memories.insert memory _).get? memory = _
  rw [Table.get?_insert, if_pos rfl]

theorem SameStorage.setBytes (h : d.SameStorage e) (b : Nat) (bytes : ByteArray) :
    (d.setBytes b bytes).SameStorage (e.setBytes b bytes) := by
  unfold Driver.setBytes
  rw [h.memoryOf? b]
  split
  · exact ⟨h.manner, h.buffers, h.nextBuffer, by rw [h.memories], h.nextMemory⟩
  · exact h

theorem SameStorage.bytes? (h : d.SameStorage e) (b : Nat) : e.bytes? b = d.bytes? b :=
  congrArg (Option.map _) (h.memoryOf? b)

/-- One run copied, where the source has it. -/
theorem copyRegion_eq {source target i k : Nat} {r : CopyRegion} {m t : MemoryRecord}
    (hs : d.memoryOf? source = some (i, m)) (ht : d.memoryOf? target = some (k, t))
    (hfit : r.sourceOffset + r.size ≤ m.bytes.size) :
    d.copyRegion source target r = d.setBytes target (Bytes.splice t.bytes r.targetOffset
      (m.bytes.extract r.sourceOffset (r.sourceOffset + r.size))) := by
  unfold Driver.copyRegion
  simp only [bytes?_of_memoryOf? hs, bytes?_of_memoryOf? ht, Bytes.slice?_eq_some hfit]

/-- The same copy between the same buffers. -/
theorem SameStorage.copyRegion (h : d.SameStorage e) (source target : Nat) (r : CopyRegion) :
    (d.copyRegion source target r).SameStorage (e.copyRegion source target r) := by
  unfold Driver.copyRegion
  rw [h.bytes? source, h.bytes? target]
  split
  · split
    · exact h.setBytes target _
    · exact h
  · exact h

/-- The same copies, one after the other. -/
theorem SameStorage.runCopies (h : d.SameStorage e) (cs : List CopyCommand) :
    (cs.foldl runCopy d).SameStorage (cs.foldl runCopy e) := by
  have hcopy {d e : Driver} (h : d.SameStorage e) (c : CopyCommand) :
      (d.runCopy c).SameStorage (e.runCopy c) := by
    unfold runCopy
    induction c.regions generalizing d e with
    | nil => exact h
    | cons r rest ih => exact ih (h.copyRegion c.source c.target r)
  induction cs generalizing d e with
  | nil => exact h
  | cons c rest ih => exact ih (hcopy h c)

@[simp] theorem manner_setBytes (d : Driver) (b : Nat) (bytes : ByteArray) :
    (d.setBytes b bytes).manner = d.manner := by
  unfold Driver.setBytes
  split
  · rfl
  · rfl

@[simp] theorem manner_copyRegion (source target : Nat) (d : Driver) (r : CopyRegion) :
    (d.copyRegion source target r).manner = d.manner := by
  unfold Driver.copyRegion
  split
  · split
    · exact manner_setBytes _ _ _
    · rfl
  · rfl

/-- To copy has no part in which calls fail. -/
@[simp] theorem manner_runCopies (cs : List CopyCommand) (d : Driver) :
    (cs.foldl runCopy d).manner = d.manner := by
  have hcopy (c : CopyCommand) (d : Driver) : (d.runCopy c).manner = d.manner := by
    unfold runCopy
    induction c.regions generalizing d with
    | nil => rfl
    | cons r rest ih => exact (ih _).trans (manner_copyRegion c.source c.target d r)
  induction cs generalizing d with
  | nil => rfl
  | cons c rest ih => exact (ih _).trans (hcopy c d)

/-- A call that is refused leaves the driver as it is. -/
theorem perform_cases {α : Type} (d : Driver) (c : DriverCall) (effect : Driver → α × Driver) :
    (∃ code, d.code? c = some code ∧ d.perform c effect = (.error code, d)) ∨
      d.perform c effect = (.ok (effect d).1, (effect d).2) := by
  unfold perform
  cases d.code? c with
  | some code => exact .inl ⟨code, rfl, rfl⟩
  | none => exact .inr rfl

/-- Storage and recorded commands are the same. -/
structure Idles (d e : Driver) : Prop extends SameStorage d e where
  commandBuffers : e.commandBuffers = d.commandBuffers

/-- A call that only answers is recorded, and nothing more. -/
theorem idles_perform (d : Driver) (call : Call) (c : DriverCall) :
    d.Idles ((d.record call).perform c fun e => ((), e)).2 := by
  rcases perform_cases (d.record call) c fun e => ((), e) with ⟨code, -, h⟩ | h
  · rw [h]
    exact ⟨sameStorage_record d call, rfl⟩
  · rw [h]
    exact ⟨sameStorage_record d call, rfl⟩

theorem createBuffer_cases (size usage : Nat) (d : Driver) :
    (∃ code, d.code? .createBuffer = some code ∧ createBuffer size usage d =
        (.error code, d.record (.createBuffer d.nextBuffer size usage 0))) ∨
      createBuffer size usage d = (.ok d.nextBuffer,
        { d.record (.createBuffer d.nextBuffer size usage 0) with
          buffers := d.buffers.insert d.nextBuffer ⟨size, none⟩
          nextBuffer := d.nextBuffer + 1 }) := by
  unfold createBuffer perform
  simp only
  cases hcode : (d.record (.createBuffer d.nextBuffer size usage 0)).code? .createBuffer with
  | some code => exact .inl ⟨code, hcode, rfl⟩
  | none => exact .inr rfl

theorem allocate_cases (size : Nat) (location : MemoryLocation) (d : Driver) :
    (∃ code, d.allocationFault? size = some code ∧
        allocate size location d = (.error code, d)) ∨
      allocate size location d = (.ok d.nextMemory, { d with
        memories := d.memories.insert d.nextMemory ⟨Bytes.zeros size, location.hostVisible⟩
        nextMemory := d.nextMemory + 1 }) := by
  unfold allocate
  cases d.allocationFault? size with
  | some fault => exact .inl ⟨fault, rfl, rfl⟩
  | none => exact .inr rfl

theorem bindMemory_cases {b : BufferRecord} (hb : d.buffers.get? buffer = some b) (memory : Nat) :
    (∃ code, d.code? .bindMemory = some code ∧
        bindMemory buffer memory d = (.error code, d.record (.bindBufferMemory buffer))) ∨
      bindMemory buffer memory d = (.ok (), { d.record (.bindBufferMemory buffer) with
        buffers := d.buffers.insert buffer { b with memory := some memory } }) := by
  unfold bindMemory perform
  cases hcode : (d.record (.bindBufferMemory buffer)).code? .bindMemory with
  | some code => exact .inl ⟨code, hcode, rfl⟩
  | none =>
    refine .inr ?_
    simp only [record, hb]

/-- A new command buffer is empty. -/
theorem allocateCommandBuffer_cases (d : Driver) :
    (∃ code, d.code? .allocateCommandBuffer = some code ∧ allocateCommandBuffer d =
        (.error code, d.record (.allocateCommandBuffers 0 1))) ∨
      allocateCommandBuffer d = (.ok d.nextCommandBuffer,
        { d.record (.allocateCommandBuffers 0 1) with
          commandBuffers := d.commandBuffers.insert d.nextCommandBuffer []
          nextCommandBuffer := d.nextCommandBuffer + 1 }) := by
  unfold allocateCommandBuffer perform
  cases hcode : (d.record (.allocateCommandBuffers 0 1)).code? .allocateCommandBuffer with
  | some code => exact .inl ⟨code, hcode, rfl⟩
  | none => exact .inr rfl

theorem submit_cases {id : Nat} {cs : List CopyCommand}
    (hc : d.commandBuffers.get? id = some cs) :
    (∃ code, d.code? .submitCommandBuffer = some code ∧
        submit id d = (.error code, d.record (.queueSubmit 1 1))) ∨
      submit id d = (.ok (), cs.foldl runCopy (d.record (.queueSubmit 1 1))) := by
  unfold submit perform
  cases hcode : (d.record (.queueSubmit 1 1)).code? .submitCommandBuffer with
  | some code => exact .inl ⟨code, hcode, rfl⟩
  | none =>
    refine .inr ?_
    simp only [record, hc, Option.getD_some]

theorem sameStorage_freeCommandBuffer (d : Driver) (id : Nat) :
    d.SameStorage (d.freeCommandBuffer id) := by
  unfold freeCommandBuffer
  simp only
  split
  · exact ⟨rfl, rfl, rfl, rfl, rfl⟩
  · exact ⟨rfl, rfl, rfl, rfl, rfl⟩

theorem idles_recordBarrier (d : Driver) (sourceStages targetStages : Nat)
    (accesses : List (Nat × Nat)) (hazards : List BufferHazard) :
    d.Idles (d.recordBarrier sourceStages targetStages accesses hazards) :=
  ⟨⟨rfl, rfl, rfl, rfl, rfl⟩, rfl⟩

/-- One more command in a command buffer; nothing is copied before it is submitted. -/
theorem recordCopy_cases {id : Nat} {cs : List CopyCommand} (c : CopyCommand)
    (hc : d.commandBuffers.get? id = some cs) :
    d.SameStorage (d.recordCopy id c) ∧
      (d.recordCopy id c).commandBuffers.get? id = some (cs ++ [c]) := by
  refine ⟨⟨rfl, rfl, rfl, rfl, rfl⟩, ?_⟩
  show (d.commandBuffers.insert id _).get? id = _
  rw [Table.get?_insert, if_pos rfl, hc, Option.getD_some]

/-- What is recorded in a command buffer that was empty. -/
def Records (record : Nat → Driver → Driver) (cs : List CopyCommand) : Prop :=
  ∀ id d, d.commandBuffers.get? id = some [] →
    d.SameStorage (record id d) ∧ (record id d).commandBuffers.get? id = some cs

end Vulkan.Driver

/-! ## 2. What the queue keeps -/

namespace VulkanQueue

variable {c : VulkanQueue} {d : Driver} {j : Journal} {α : Type}

theorem wp_call (f : Driver → α × Driver) (Q : α → VulkanQueue → Journal → Prop) :
    (call f).wp c j Q ↔ Q (f c.driver).1 { c with driver := (f c.driver).2 } j := Iff.rfl

theorem wp_run (f : Driver → Driver) (Q : Unit → VulkanQueue → Journal → Prop) :
    (run f).wp c j Q ↔ Q () { c with driver := f c.driver } j := Iff.rfl

/-- A call that is refused fails, and one that is not answers. -/
theorem wp_tryCall {k : DriverCall} {f : Driver → Except String α × Driver}
    {Q : Except Failure α → VulkanQueue → Journal → Prop}
    (hok : ∀ a, (f c.driver).1 = .ok a → Q (.ok a) { c with driver := (f c.driver).2 } j)
    (herror : ∀ code, (f c.driver).1 = .error code → ∀ failure i,
      Q (.error failure) { c with driver := (f c.driver).2 } i) :
    (tryCall k f).wp c j Q := by
  unfold tryCall
  simp only [Attempt.wp_bind, Attempt.wp_always, wp_call]
  cases hf : (f c.driver).1 with
  | ok a => exact hok a hf
  | error code => exact herror code hf _ _

/-- A call that only answers is recorded, and fails where it is refused. -/
theorem tryCall_idles {k : DriverCall} {f : Driver → Except String Unit × Driver}
    {call : Vulkan.Call} (hf : ∀ d : Driver, f d = (d.record call).perform k fun e => ((), e)) :
    (tryCall k f).Ends c fun r e =>
      c.driver.Idles e.driver ∧ (c.driver.Willing → r = .ok ()) := by
  have hsame : c.driver.Idles (f c.driver).2 := hf c.driver ▸ Driver.idles_perform _ _ _
  refine fun _ => wp_tryCall (fun _ _ => ⟨hsame, fun _ => rfl⟩) fun code herror _ _ =>
    ⟨hsame, fun hwilling => ?_⟩
  rw [hf] at herror
  unfold Driver.perform at herror
  rw [show (c.driver.record call).code? k = none from hwilling k] at herror
  cases herror

/-- A buffer that came after `d`, and its memory. -/
structure Stages (d e : Driver) (o : BoundBuffer) (m : MemoryRecord) : Prop where
  buffer : d.nextBuffer ≤ o.buffer
  memory : d.nextMemory ≤ o.memory
  bound : e.memoryOf? o.buffer = some (o.memory, m)

/-- A buffer that came after `d` is released. -/
theorem releaseBuffer_ends (h : d.Keeps c.driver) {o : BoundBuffer}
    (hb : d.nextBuffer ≤ o.buffer) (hm : d.nextMemory ≤ o.memory) :
    (releaseBuffer o).Ends c fun _ e => d.Keeps e.driver := by
  intro j
  unfold releaseBuffer
  simp only [Step.wp_bind, wp_run]
  exact (h.free hm).destroyBuffer hb

/-- Memory of its own for a buffer that has none yet. -/
theorem bindBuffer_ends (h : d.Keeps c.driver) {o : BoundBuffer} {b : BufferRecord}
    {m : MemoryRecord} (hb : d.nextBuffer ≤ o.buffer) (hm : d.nextMemory ≤ o.memory)
    (hget : c.driver.buffers.get? o.buffer = some b)
    (hmem : c.driver.memories.get? o.memory = some m) :
    (bindBuffer o).Ends c fun r e => d.Keeps e.driver ∧ (r = .ok () → Stages d e.driver o m) ∧
      (c.driver.Willing → r = .ok ()) := by
  intro j
  unfold bindBuffer
  simp only [Attempt.wp_bind, Attempt.wp_always, wp_call]
  rcases Driver.bindMemory_cases hget o.memory with ⟨code, hcode, he⟩ | he
  · simp only [he, Attempt.wp_bind, Attempt.wp_always, Attempt.wp_refuse]
    refine (releaseBuffer_ends (h.same (Driver.sameStorage_record _ _)) hb hm).wp fun _ e k hk =>
      ⟨hk, fun h => absurd h (Failure.ne_ok _ _), fun hwilling => ?_⟩
    rw [hwilling .bindMemory] at hcode
    cases hcode
  · simp only [he, Attempt.wp_pure]
    refine ⟨(h.insertBuffer hb _).same ⟨rfl, rfl, rfl, rfl, rfl⟩, fun _ => ⟨hb, hm, ?_⟩,
      fun _ => trivial⟩
    refine Driver.memoryOf?_eq_some.mpr ⟨{ b with memory := some o.memory }, ?_, rfl, hmem⟩
    rw [Table.get?_insert, if_pos rfl]

/-- **A new buffer and its memory have numbers of their own**; what a failure leaves behind is
    released. Where no call is refused and there is room, there is no failure. -/
theorem makeBuffer_ends (h : d.Keeps c.driver) (size usage : Nat) (location : MemoryLocation) :
    (makeBuffer size usage location).Ends c fun r e => d.Keeps e.driver ∧
      (∀ o, r = .ok o → o.size = size ∧
        Stages d e.driver o ⟨Bytes.zeros size, location.hostVisible⟩) ∧
      (c.driver.Willing → c.driver.allocationFault? size = none → ∃ o, r = .ok o) := by
  intro j
  unfold makeBuffer tryCall allocateMemory
  simp only [Attempt.wp_bind, Attempt.wp_always, wp_call, Attempt.wp_outcome]
  rcases Driver.createBuffer_cases size usage c.driver with ⟨code, hcode, he⟩ | he
  · simp only [he, Attempt.wp_refuse]
    refine ⟨h.same (Driver.sameStorage_record _ _), fun _ h => absurd h (Failure.ne_ok _ _),
      fun hwilling => ?_⟩
    rw [hwilling .createBuffer] at hcode
    cases hcode
  simp only [he, Attempt.wp_pure]
  generalize hmid : Driver.mk _ _ _ _ _ _ _ _ _ _ = e
  have hmade : d.Keeps e := hmid ▸ (h.newBuffer ⟨size, none⟩).same ⟨rfl, rfl, rfl, rfl, rfl⟩
  have hget : e.buffers.get? c.driver.nextBuffer = some ⟨size, none⟩ := by
    rw [← hmid, Table.get?_insert, if_pos rfl]
  have hmanner : e.manner = c.driver.manner := hmid ▸ rfl
  rcases Driver.allocate_cases size location e with ⟨code, hcode, ha⟩ | ha
  · simp only [ha, Attempt.wp_bind, Attempt.wp_note, Attempt.wp_throw, Attempt.wp_always, wp_run]
    refine ⟨hmade.destroyBuffer h.nextBuffer, fun _ h => absurd h (Failure.ne_ok _ _),
      fun _ hgranted => ?_⟩
    rw [Driver.allocationFault?_of_manner hmanner, hgranted] at hcode
    cases hcode
  simp only [ha, Attempt.wp_pure, Attempt.wp_bind]
  refine (bindBuffer_ends (c := { c with driver := _ }) (hmade.newMemory _) (b := ⟨size, none⟩)
    (m := ⟨Bytes.zeros size, location.hostVisible⟩) h.nextBuffer hmade.nextMemory hget ?_).wp
    fun r f k hpost => ?_
  · show (e.memories.insert e.nextMemory _).get? e.nextMemory = _
    rw [Table.get?_insert, if_pos rfl]
  · obtain ⟨hf, hstages, hok⟩ := hpost
    cases r with
    | error f =>
      refine ⟨hf, fun _ h => absurd h (Failure.ne_ok _ _), fun hwilling _ => ?_⟩
      cases hok (hwilling.of_manner hmanner)
    | ok _ =>
      refine ⟨hf, fun o ho => ?_, fun _ _ => ⟨_, rfl⟩⟩
      cases ho
      exact ⟨rfl, hstages rfl⟩

/-! ## 3. Copies that are submitted -/

section Submitting

variable {record : Nat → Driver → Driver} {cs : List CopyCommand}

/-- What a submission of copies comes to, begun in `d`: all copies are made, in order, or it fails
    and nothing happened, or it fails although they were made. -/
def Submitted (cs : List CopyCommand) (d : Driver) (r : Except Failure Unit) (e : Driver) : Prop :=
  (d.SameStorage e ∧ r ≠ .ok () ∨ (cs.foldl Driver.runCopy d).SameStorage e) ∧
    (d.Willing → r = .ok ())

theorem Submitted.after {d' e : Driver} {r : Except Failure Unit} (h : Submitted cs d r e)
    (hd : d'.SameStorage d) : Submitted cs d' r e :=
  ⟨h.1.imp (.imp_left hd.trans) (hd.runCopies cs).trans, fun hw => h.2 (hw.of_manner hd.manner)⟩

theorem Submitted.before {e e' : Driver} {r : Except Failure Unit} (h : Submitted cs d r e)
    (he : e.SameStorage e') : Submitted cs d r e' :=
  ⟨h.1.imp (.imp_left fun hs => hs.trans he) fun hs => hs.trans he, h.2⟩

/-- **Copies that are submitted happen, or they fail.** -/
theorem runCommands_ends (hrecord : Driver.Records record cs) {id : Nat}
    (hc : c.driver.commandBuffers.get? id = some []) :
    (runCommands id record).Ends c fun r e => Submitted cs c.driver r e.driver := by
  intro j
  unfold runCommands
  rw [Attempt.wp_bind]
  refine (tryCall_idles (k := .beginCommandBuffer) fun _ => rfl).wp fun b c₁ k hpost => ?_
  obtain ⟨h₁, hok₁⟩ := hpost
  cases b with
  | error f =>
    exact ⟨.inl ⟨h₁.toSameStorage, Failure.ne_ok _ _⟩,
      fun hw => absurd (hok₁ hw) (Failure.ne_ok _ _)⟩
  | ok _ =>
  simp only [Attempt.wp_bind, Attempt.wp_always, wp_run]
  -- the copies are recorded in the command buffer, which was empty
  obtain ⟨hsame, hcopies⟩ := hrecord id c₁.driver (h₁.commandBuffers ▸ hc)
  have hsame₁ := h₁.toSameStorage.trans hsame
  refine (tryCall_idles (c := { c₁ with driver := _ }) (k := .endCommandBuffer) fun _ => rfl).wp
    fun b c₂ k hpost => ?_
  obtain ⟨h₂, hok₂⟩ := hpost
  cases b with
  | error f =>
    exact ⟨.inl ⟨hsame₁.trans h₂.toSameStorage, Failure.ne_ok _ _⟩,
      fun hw => absurd (hok₂ (hw.of_manner hsame₁.manner)) (Failure.ne_ok _ _)⟩
  | ok _ =>
  have hsame₂ := hsame₁.trans h₂.toSameStorage
  have hsub := Driver.submit_cases ((congrArg (Table.get? · id) h₂.commandBuffers).trans hcopies)
  refine wp_tryCall (fun _ hok => ?_) fun _ herror _ _ => ?_
  · rcases hsub with ⟨code, -, he⟩ | he
    · rw [he] at hok
      cases hok
    · refine (tryCall_idles (c := { c₂ with driver := (Driver.submit id c₂.driver).2 })
        (k := .waitQueueIdle) fun _ => rfl).wp fun b c₃ k hpost => ?_
      obtain ⟨h₃, hok₃⟩ := hpost
      rw [he] at h₃ hok₃
      have hdone : (cs.foldl Driver.runCopy c.driver).SameStorage c₃.driver :=
        ((hsame₂.trans (Driver.sameStorage_record _ _)).runCopies cs).trans h₃.toSameStorage
      cases b with
      | error f =>
        refine ⟨.inr hdone, fun hw => absurd (hok₃ (hw.of_manner ?_)) (Failure.ne_ok _ _)⟩
        exact (Driver.manner_runCopies cs _).trans hsame₂.manner
      | ok _ => exact ⟨.inr hdone, fun _ => rfl⟩
  · rcases hsub with ⟨code, hcode, he⟩ | he
    · rw [he]
      refine ⟨.inl ⟨hsame₂.trans (Driver.sameStorage_record _ _), Failure.ne_ok _ _⟩,
        fun hw => ?_⟩
      rw [(hw.of_manner hsame₂.manner) .submitCommandBuffer] at hcode
      cases hcode
    · rw [he] at herror
      cases herror

/-- The same holds with a command buffer of its own, which is released. -/
theorem submitOnce_ends (hrecord : Driver.Records record cs) :
    (submitOnce record).Ends c fun r e => Submitted cs c.driver r e.driver := by
  intro j
  unfold submitOnce
  rw [Attempt.wp_bind]
  rcases Driver.allocateCommandBuffer_cases c.driver with ⟨code, hcode, he⟩ | he
  · refine wp_tryCall (fun id hok => ?_) fun _ _ _ _ => ?_
    · rw [he] at hok
      cases hok
    · rw [he]
      refine ⟨.inl ⟨Driver.sameStorage_record _ _, nofun⟩, fun hw => ?_⟩
      rw [hw .allocateCommandBuffer] at hcode
      cases hcode
  · refine wp_tryCall (fun id hok => ?_) fun _ herror _ _ => ?_
    · rw [he] at hok
      cases hok
      rw [he]
      simp only [Attempt.wp_bind, Attempt.wp_always, Attempt.wp_outcome, wp_run, Attempt.wp_answer]
      refine (runCommands_ends (c := { c with driver := _ }) hrecord ?_).wp fun r e k h => ?_
      · show (c.driver.commandBuffers.insert _ []).get? _ = _
        rw [Table.get?_insert, if_pos rfl]
      · refine Submitted.before ?_ (Driver.sameStorage_freeCommandBuffer _ _)
        exact h.after ⟨rfl, rfl, rfl, rfl, rfl⟩
    · rw [he] at herror
      cases herror

end Submitting

/-- A queue that was started has the driver as the command pool and the choice of a queue left it. -/
theorem start_ends (d : Driver) (present : Bool) (family : Nat) :
    (start present family).Ends d fun r _ => ∀ queue, r = .ok queue →
      queue.driver = (d.createCommandPool family).2.firstQueue family := by
  intro j
  unfold start
  simp only [Attempt.wp_bind, Attempt.wp_ite, Attempt.wp_refuse, Attempt.wp_get, Attempt.wp_set]
  split
  · exact fun _ h => absurd h (Failure.ne_ok _ _)
  · split
    · exact fun _ h => absurd h (Failure.ne_ok _ _)
    · intro queue hqueue
      cases hqueue
      rfl

end VulkanQueue

end BufferCoherence
