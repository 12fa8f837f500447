import BufferCoherence.Journal.Journal
import BufferCoherence.Vulkan.Driver

/-!
# The Vulkan queue

What the Vulkan device shares with nobody else: the driver and the queue family that it submits to.
Two things are built on it here, and each of them releases whatever it acquired when it fails:

* `VulkanQueue.makeBuffer` makes a buffer with memory of its own;
* `VulkanQueue.submitOnce` records commands, submits them and waits for them.
-/

namespace BufferCoherence

open Vulkan (Driver MemoryLocation CopyRegion CopyCommand BufferHazard)

/-- A driver and the queue family that is submitted to. -/
structure VulkanQueue where
  driver : Driver
  queueFamily : Nat

/-- A buffer of the driver with its memory. -/
structure BoundBuffer where
  buffer : Nat
  memory : Nat
  size : Nat
deriving DecidableEq

namespace VulkanQueue

/-! ## 1. Calling the driver -/

/-- A call of the driver. -/
def call {α : Type} (f : Driver → α × Driver) : Step VulkanQueue α := fun c =>
  let (a, driver) := f c.driver
  pure (a, { c with driver })

/-- A call of the driver that answers nothing. -/
def run (f : Driver → Driver) : Step VulkanQueue Unit := call fun d => ((), f d)

/-- A call of the driver that can be refused. -/
def tryCall {α : Type} (c : DriverCall) (f : Driver → Except String α × Driver) :
    Attempt VulkanQueue α := do
  match ← always (call f) with
  | .ok a => pure a
  | .error code => refuse .vulkan (.driverRefused c code)

/-! ## 2. Buffers -/

/-- A piece of memory. -/
def allocateMemory (size : Nat) (location : MemoryLocation) : Attempt VulkanQueue Nat := do
  match ← always (call (Driver.allocate size location)) with
  | .ok memory => pure memory
  | .error reason =>
    note (.vulkanMemoryRefused size reason)
    throw .outOfMemory

/-- A buffer released, with its memory. -/
def releaseBuffer (o : BoundBuffer) : Step VulkanQueue Unit := do
  run (Driver.free o.memory)
  run (Driver.destroyBuffer o.buffer)

/-- A buffer bound to its memory. -/
def bindBuffer (o : BoundBuffer) : Attempt VulkanQueue Unit := do
  match ← always (call (Driver.bindMemory o.buffer o.memory)) with
  | .ok () => pure ()
  | .error code =>
    always (releaseBuffer o)
    refuse .vulkan (.driverRefused .bindMemory code)

/-- A buffer with memory of its own. -/
def makeBuffer (size usage : Nat) (location : MemoryLocation) :
    Attempt VulkanQueue BoundBuffer := do
  let buffer ← tryCall .createBuffer (Driver.createBuffer size usage)
  match ← always (allocateMemory size location).outcome with
  | .error f =>
    always (run (Driver.destroyBuffer buffer))
    throw f
  | .ok memory =>
    let o : BoundBuffer := ⟨buffer, memory, size⟩
    bindBuffer o
    pure o

/-! ## 3. Submitting -/

/-- Commands recorded, submitted and waited for. -/
def runCommands (commands : Nat) (record : Nat → Driver → Driver) :
    Attempt VulkanQueue Unit := do
  tryCall .beginCommandBuffer Driver.beginCommandBuffer
  always (run (record commands))
  tryCall .endCommandBuffer Driver.endCommandBuffer
  tryCall .submitCommandBuffer (Driver.submit commands)
  tryCall .waitQueueIdle Driver.waitQueueIdle
  note .vulkanSubmitted

/-- Commands recorded in a command buffer of their own, submitted and waited for. -/
def submitOnce (record : Nat → Driver → Driver) : Attempt VulkanQueue Unit := do
  let commands ← tryCall .allocateCommandBuffer Driver.allocateCommandBuffer
  let outcome ← always (runCommands commands record).outcome
  always (run (Driver.freeCommandBuffer commands))
  answer outcome

/-! ## 4. Setting up and ending -/

/-- Why there is no allocator on a device that is no device. -/
def noPhysicalDevice : String :=
  "InvalidAllocatorCreateDesc(\"AllocatorCreateDesc field `physical_device` is null.\")"

/-- A queue on a driver; `present` says that there is a physical device. -/
def start (present : Bool) (queueFamily : Nat) : Attempt Driver VulkanQueue := do
  if !present then refuse .vulkan (.noAllocator noPhysicalDevice)
  else
    let (outcome, driver) := (← get).createCommandPool queueFamily
    set driver
    match outcome with
    | .error code => refuse .vulkan (.noCommandPool code)
    | .ok () => pure ⟨driver.firstQueue queueFamily, queueFamily⟩

/-- The queue ended. Nobody is told whether the wait succeeded. -/
def finish : Step VulkanQueue Unit := do
  discard (call Driver.waitDeviceIdle)
  run Driver.destroyCommandPool

end VulkanQueue

end BufferCoherence
