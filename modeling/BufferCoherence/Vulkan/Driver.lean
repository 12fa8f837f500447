import BufferCoherence.Bytes
import BufferCoherence.Failure
import BufferCoherence.Table
import BufferCoherence.Vulkan.Masks

/-!
# A Vulkan driver in software

The part of a Vulkan driver that buffers need: buffers, memory, command buffers and one queue. Every
call is recorded; calls can be made to fail. Copies are recorded in a command buffer and happen when
it is submitted, one region after the other.

What is released twice, or was never there, is counted in `Driver.faults`; a client that leaks
nothing and releases nothing twice leaves the tables empty and the count at zero.
-/

namespace BufferCoherence.Vulkan

/-! ## 1. Calls -/

/-- A run of bytes that a copy moves. -/
structure CopyRegion where
  sourceOffset : Nat
  targetOffset : Nat
  size : Nat
deriving DecidableEq

/-- A hazard on a part of a buffer. -/
structure BufferHazard where
  sourceAccess : Nat
  targetAccess : Nat
  sourceFamily : Nat
  targetFamily : Nat
  buffer : Nat
  offset : Nat
  size : Nat
deriving DecidableEq

/-- A recorded call. -/
inductive Call where
  | createCommandPool (flags family : Nat)
  | destroyCommandPool
  | getDeviceQueue (family index : Nat)
  | allocateCommandBuffers (level count : Nat)
  | freeCommandBuffers (count : Nat)
  | beginCommandBuffer (flags : Nat)
  | endCommandBuffer
  | queueSubmit (submits commandBuffers : Nat)
  | queueWaitIdle
  | deviceWaitIdle
  | createBuffer (buffer size usage sharing : Nat)
  | bindBufferMemory (buffer : Nat)
  | destroyBuffer (buffer : Nat)
  | copyBuffer (source target : Nat) (regions : List CopyRegion)
  | pipelineBarrier (sourceStages targetStages dependency : Nat) (accesses : List (Nat × Nat))
      (hazards : List BufferHazard) (images : Nat)
deriving DecidableEq

/-- The name under which a call is made to fail. -/
def callName : DriverCall → String
  | .createCommandPool => "CreateCommandPool"
  | .createBuffer => "CreateBuffer"
  | .allocateMemory => "memory"
  | .bindMemory => "BindBufferMemory"
  | .allocateCommandBuffer => "AllocateCommandBuffers"
  | .beginCommandBuffer => "BeginCommandBuffer"
  | .endCommandBuffer => "EndCommandBuffer"
  | .submitCommandBuffer => "QueueSubmit"
  | .waitQueueIdle => "QueueWaitIdle"
  | .waitDeviceIdle => "DeviceWaitIdle"

/-- Every call that can be made to fail. -/
def refusableCalls : List DriverCall :=
  [.createCommandPool, .createBuffer, .allocateMemory, .bindMemory, .allocateCommandBuffer,
   .beginCommandBuffer, .endCommandBuffer, .submitCommandBuffer, .waitQueueIdle, .waitDeviceIdle]

/-- The call with a given name. -/
def callOfName? (s : String) : Option DriverCall := refusableCalls.find? fun c => callName c == s

/-! ## 2. State -/

/-- A buffer, and the memory that it is bound to. -/
structure BufferRecord where
  size : Nat
  memory : Option Nat

/-- A piece of memory. -/
structure MemoryRecord where
  bytes : ByteArray
  hostVisible : Bool

/-- A copy recorded in a command buffer. -/
structure CopyCommand where
  source : Nat
  target : Nat
  regions : List CopyRegion
deriving DecidableEq

/-- The state of the driver. -/
structure Driver where
  /-- The calls that fail, with the codes they fail with. -/
  failing : List (DriverCall × String)
  calls : Array Call
  buffers : Table BufferRecord
  nextBuffer : Nat
  memories : Table MemoryRecord
  nextMemory : Nat
  commandBuffers : Table (List CopyCommand)
  nextCommandBuffer : Nat
  /-- How often something was released that was not there. -/
  faults : Nat
  /-- The sizes of which a piece of memory is lent. -/
  lends : Nat → Bool

namespace Driver

/-- A driver that was never called. It lends at most 64 MiB at once. -/
def new : Driver :=
  ⟨[], #[], .empty, 1, .empty, 1, .empty, 1, 0, fun size => size ≤ 64 * 1024 * 1024⟩

/-- One more call recorded. -/
def record (d : Driver) (c : Call) : Driver := { d with calls := d.calls.push c }

/-- The code that a call fails with, if it does. -/
def code? (d : Driver) (c : DriverCall) : Option String := d.failing.lookup c

/-- A call made to fail with a code; the empty code makes it succeed again. -/
def setCode (d : Driver) (c : DriverCall) (code : String) : Driver :=
  let others := d.failing.filter (·.1 ≠ c)
  { d with failing := if code.isEmpty then others else (c, code) :: others }

/-- The answer of a call: its code where it fails, and else what it does. -/
def perform {α : Type} (d : Driver) (c : DriverCall) (effect : Driver → α × Driver) :
    Except String α × Driver :=
  match d.code? c with
  | some code => (.error code, d)
  | none =>
    let (a, d) := effect d
    (.ok a, d)

/-! ## 3. Buffers and memory -/

/-- A buffer for one queue family at a time. -/
def createBuffer (size usage : Nat) (d : Driver) : Except String Nat × Driver :=
  let id := d.nextBuffer
  (d.record (.createBuffer id size usage 0)).perform .createBuffer fun d =>
    (id, { d with nextBuffer := id + 1, buffers := d.buffers.insert id ⟨size, none⟩ })

/-- A buffer released. -/
def destroyBuffer (id : Nat) (d : Driver) : Driver :=
  let d := d.record (.destroyBuffer id)
  if d.buffers.contains id then { d with buffers := d.buffers.erase id }
  else { d with faults := d.faults + 1 }

/-- Why a piece of memory cannot be had, if it cannot. -/
def allocationFault? (d : Driver) (size : Nat) : Option String :=
  if size = 0 then some "InvalidAllocationCreateDesc"
  else if (d.code? .allocateMemory).isSome then some "NoCompatibleMemoryTypeFound"
  else if !d.lends size then some "OutOfMemory"
  else none

/-- A piece of memory. -/
def allocate (size : Nat) (location : MemoryLocation) (d : Driver) : Except String Nat × Driver :=
  match d.allocationFault? size with
  | some fault => (.error fault, d)
  | none =>
    let id := d.nextMemory
    (.ok id, { d with
      nextMemory := id + 1
      memories := d.memories.insert id ⟨Bytes.zeros size, location.hostVisible⟩ })

/-- A piece of memory released. -/
def free (id : Nat) (d : Driver) : Driver :=
  if d.memories.contains id then { d with memories := d.memories.erase id }
  else { d with faults := d.faults + 1 }

/-- A buffer bound to memory, which starts as zeroes. -/
def bindMemory (buffer memory : Nat) (d : Driver) : Except String Unit × Driver :=
  (d.record (.bindBufferMemory buffer)).perform .bindMemory fun d =>
    match d.buffers.get? buffer with
    | some b => ((), { d with buffers := d.buffers.insert buffer { b with memory := some memory } })
    | none => ((), { d with faults := d.faults + 1 })

/-- The memory of a buffer. -/
def memoryOf? (d : Driver) (buffer : Nat) : Option (Nat × MemoryRecord) := do
  let b ← d.buffers.get? buffer
  let id ← b.memory
  let m ← d.memories.get? id
  pure (id, m)

/-- The bytes of a buffer. -/
def bytes? (d : Driver) (buffer : Nat) : Option ByteArray := (d.memoryOf? buffer).map (·.2.bytes)

/-- The bytes of a buffer, where the host can reach them. -/
def mapped? (d : Driver) (buffer : Nat) : Option ByteArray :=
  match d.memoryOf? buffer with
  | some (_, m) => if m.hostVisible then some m.bytes else none
  | none => none

/-- The bytes of a buffer replaced. -/
def setBytes (d : Driver) (buffer : Nat) (bytes : ByteArray) : Driver :=
  match d.memoryOf? buffer with
  | some (id, m) => { d with memories := d.memories.insert id { m with bytes } }
  | none => d

/-! ## 4. Command buffers -/

/-- A command buffer of the first level. -/
def allocateCommandBuffer (d : Driver) : Except String Nat × Driver :=
  (d.record (.allocateCommandBuffers 0 1)).perform .allocateCommandBuffer fun d =>
    let id := d.nextCommandBuffer
    (id, { d with
      nextCommandBuffer := id + 1
      commandBuffers := d.commandBuffers.insert id [] })

/-- A command buffer released. -/
def freeCommandBuffer (id : Nat) (d : Driver) : Driver :=
  let d := d.record (.freeCommandBuffers 1)
  if d.commandBuffers.contains id then { d with commandBuffers := d.commandBuffers.erase id }
  else { d with faults := d.faults + 1 }

/-- The mark of a command buffer that is submitted once. -/
def oneTimeSubmit : Nat := 1

/-- Recording started. -/
def beginCommandBuffer (d : Driver) : Except String Unit × Driver :=
  (d.record (.beginCommandBuffer oneTimeSubmit)).perform .beginCommandBuffer fun d => ((), d)

/-- Recording ended. -/
def endCommandBuffer (d : Driver) : Except String Unit × Driver :=
  (d.record .endCommandBuffer).perform .endCommandBuffer fun d => ((), d)

/-- A copy recorded in a command buffer. -/
def recordCopy (id : Nat) (c : CopyCommand) (d : Driver) : Driver :=
  let commands := (d.commandBuffers.get? id).getD []
  { d.record (.copyBuffer c.source c.target c.regions) with
    commandBuffers := d.commandBuffers.insert id (commands ++ [c]) }

/-- A barrier recorded; copies are made in order anyway. -/
def recordBarrier (sourceStages targetStages : Nat) (accesses : List (Nat × Nat))
    (hazards : List BufferHazard) (d : Driver) : Driver :=
  d.record (.pipelineBarrier sourceStages targetStages 0 accesses hazards 0)

/-- One region of a copy. -/
def copyRegion (source target : Nat) (d : Driver) (r : CopyRegion) : Driver :=
  match d.bytes? source, d.bytes? target with
  | some content, some into =>
    match Bytes.slice? content r.sourceOffset r.size with
    | some run => d.setBytes target (Bytes.splice into r.targetOffset run)
    | none => d
  | _, _ => d

/-- One copy, region after region. -/
def runCopy (d : Driver) (c : CopyCommand) : Driver :=
  c.regions.foldl (copyRegion c.source c.target) d

/-- A command buffer submitted: its copies are made, in order. -/
def submit (id : Nat) (d : Driver) : Except String Unit × Driver :=
  (d.record (.queueSubmit 1 1)).perform .submitCommandBuffer fun d =>
    ((), ((d.commandBuffers.get? id).getD []).foldl runCopy d)

/-- The queue waited for. -/
def waitQueueIdle (d : Driver) : Except String Unit × Driver :=
  (d.record .queueWaitIdle).perform .waitQueueIdle fun d => ((), d)

/-- The whole device waited for. -/
def waitDeviceIdle (d : Driver) : Except String Unit × Driver :=
  (d.record .deviceWaitIdle).perform .waitDeviceIdle fun d => ((), d)

/-! ## 5. Setting up -/

/-- The marks of a pool whose command buffers live shortly and are reset one by one. -/
def transientPool : Nat := 3

/-- The pool of command buffers for a queue family. -/
def createCommandPool (family : Nat) (d : Driver) : Except String Unit × Driver :=
  (d.record (.createCommandPool transientPool family)).perform .createCommandPool fun d => ((), d)

/-- The pool of command buffers released. -/
def destroyCommandPool (d : Driver) : Driver := d.record .destroyCommandPool

/-- The first queue of a family. -/
def firstQueue (family : Nat) (d : Driver) : Driver := d.record (.getDeviceQueue family 0)

end Driver

end BufferCoherence.Vulkan
