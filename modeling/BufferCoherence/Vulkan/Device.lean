import BufferCoherence.Device.Interface
import BufferCoherence.Vulkan.Queue

/-!
# The Vulkan device

A device whose objects are Vulkan buffers. Memory that the host can reach is mapped for good and
needs no flush; bytes of any other memory go through a staging buffer, which lives for one transfer:

* the ranges of a transfer are packed in the staging buffer one behind the other (`packed`);
* two objects exchange bytes directly; within one object the bytes go through a staging buffer,
  since a copy may not overlap itself.

A range that leaves its source or its target is refused before anything is copied, except from
host to host, where the ranges before it are copied.
-/

namespace BufferCoherence

open Vulkan (Driver MemoryLocation CopyRegion CopyCommand BufferHazard)

/-- The state of the device. -/
structure VulkanDevice where
  queue : VulkanQueue
  caps : Capabilities
  objects : Table BoundBuffer
  nextHandle : Nat
  /-- The object that a capture writes to. -/
  capture : Option ObjectHandle

namespace VulkanDevice

/-- A device without objects. -/
def new (queue : VulkanQueue) (caps : Capabilities) : VulkanDevice :=
  ⟨queue, caps, .empty, 1, none⟩

/-- The object of a handle. -/
def object? (d : VulkanDevice) (h : ObjectHandle) : Option BoundBuffer := d.objects.get? h.number

/-- The driver with what it records, the rest of the device as it is. -/
def driver (d : VulkanDevice) : Driver := d.queue.driver

/-- The device on another state of its driver. -/
def setDriver (d : VulkanDevice) (driver : Driver) : VulkanDevice :=
  { d with queue.driver := driver }

/-- The capture turned to an object. -/
def beginCapture (d : VulkanDevice) (h : ObjectHandle) : VulkanDevice :=
  { d with capture := some h }

/-- A step of the queue. -/
def onQueue {α : Type} (s : Step VulkanQueue α) : Step VulkanDevice α :=
  s.onPart (·.queue) fun queue d => { d with queue }

/-! ## 1. Ranges -/

/-- Each range with its place in a staging buffer, one behind the other from `start` on. -/
def packed (start : Nat) : List ByteRange → List (Nat × ByteRange)
  | [] => []
  | r :: rest => (start, r) :: packed (start + r.size) rest

/-- The bytes of all ranges together. -/
def totalSize (ranges : List ByteRange) : Nat := ranges.foldr (fun r n => r.size + n) 0

/-- The first range that leaves the source or the target. -/
def outside? (sourceBase sourceSize targetBase targetSize : Nat) (ranges : List ByteRange) :
    Option ByteRange :=
  ranges.find? fun r => decide (sourceSize < sourceBase + r.stop ∨ targetSize < targetBase + r.stop)

/-- A transfer with a range that leaves its source or its target is refused. -/
def requireRanges {σ : Type} (sourceBase sourceSize targetBase targetSize : Nat)
    (ranges : List ByteRange) : Attempt σ Unit :=
  match outside? sourceBase sourceSize targetBase targetSize ranges with
  | some r => refuse .vulkan (.transferOutside r.offset r.size)
  | none => pure ()

/-- The bytes of each range written from one run of bytes to another. -/
def copyRanges (source : ByteArray) (sourceBase : Nat) (targetBase : Nat)
    (ranges : List ByteRange) (target : ByteArray) : ByteArray :=
  ranges.foldl (fun target r =>
    let start := sourceBase + r.offset
    Bytes.splice target (targetBase + r.offset) (source.extract start (start + r.size))) target

/-! ## 2. Staging -/

/-- A staging buffer, which is at least one byte long. -/
def stagingBuffer (size : Nat) (location : MemoryLocation) : Attempt VulkanQueue BoundBuffer :=
  VulkanQueue.makeBuffer (max size 1) Vulkan.usageTransfer location

/-- An attempt with a staging buffer, which is released afterwards. -/
def withStaging {α : Type} (size : Nat) (location : MemoryLocation)
    (use : BoundBuffer → Attempt VulkanQueue α) : Attempt VulkanQueue α := do
  let staging ← stagingBuffer size location
  let outcome ← always (use staging).outcome
  always (VulkanQueue.releaseBuffer staging)
  answer outcome

/-- Regions copied from one buffer to another; nothing is submitted where there are none. -/
def submitCopy (source target : Nat) (regions : List CopyRegion) : Attempt VulkanQueue Unit :=
  if regions.isEmpty then pure ()
  else VulkanQueue.submitOnce fun id => Driver.recordCopy id ⟨source, target, regions⟩

/-- The bytes of a staging buffer. -/
def stagingBytes (staging : BoundBuffer) : Attempt VulkanQueue ByteArray := do
  let c ← get
  match c.driver.mapped? staging.buffer with
  | some bytes => pure bytes
  | none => refuse .vulkan .stagingNotVisible

/-! ## 3. Transfers -/

/-- The regions from a staging buffer to an object. -/
def regionsOut (base : Nat) (ranges : List ByteRange) : List CopyRegion :=
  (packed 0 ranges).map fun (place, r) => ⟨place, base + r.offset, r.size⟩

/-- The regions from an object to a staging buffer. -/
def regionsIn (base : Nat) (ranges : List ByteRange) : List CopyRegion :=
  (packed 0 ranges).map fun (place, r) => ⟨base + r.offset, place, r.size⟩

/-- The bytes of ranges of the host, packed. -/
def pack (data : ByteArray) (ranges : List ByteRange) (target : ByteArray) : ByteArray :=
  (packed 0 ranges).foldl (fun target (place, r) =>
    Bytes.splice target place (data.extract r.offset r.stop)) target

/-- The bytes of ranges of the host, out of their packed form. -/
def unpack (bytes : ByteArray) (ranges : List ByteRange) (target : ByteArray) : ByteArray :=
  (packed 0 ranges).foldl (fun target (place, r) =>
    Bytes.splice target r.offset (bytes.extract place (place + r.size))) target

/-- Bytes of the host written to an object through a staging buffer. -/
def storeStaged (o : BoundBuffer) (base : Nat) (data : ByteArray) (ranges : List ByteRange) :
    Attempt VulkanQueue Unit :=
  withStaging (totalSize ranges) .cpuToGpu fun staging => do
    let bytes ← stagingBytes staging
    always (VulkanQueue.run (·.setBytes staging.buffer (pack data ranges bytes)))
    submitCopy staging.buffer o.buffer (regionsOut base ranges)

/-- Bytes of the host written to an object. -/
def store (o : BoundBuffer) (base : Nat) (data : ByteArray) (ranges : List ByteRange) :
    Attempt VulkanQueue Unit := do
  requireRanges 0 data.size base o.size ranges
  let c ← get
  match c.driver.mapped? o.buffer with
  | some bytes =>
    always (VulkanQueue.run (·.setBytes o.buffer (copyRanges data 0 base ranges bytes)))
  | none => storeStaged o base data ranges

/-- Bytes of an object read by the host through a staging buffer. -/
def fetchStaged (o : BoundBuffer) (base : Nat) (data : ByteArray) (ranges : List ByteRange) :
    Attempt VulkanQueue ByteArray :=
  withStaging (totalSize ranges) .gpuToCpu fun staging => do
    submitCopy o.buffer staging.buffer (regionsIn base ranges)
    let bytes ← stagingBytes staging
    pure (unpack bytes ranges data)

/-- Bytes of an object read by the host; the answer is the host bytes afterwards. -/
def fetch (o : BoundBuffer) (base : Nat) (data : ByteArray) (ranges : List ByteRange) :
    Attempt VulkanQueue ByteArray := do
  requireRanges base o.size 0 data.size ranges
  let c ← get
  match c.driver.mapped? o.buffer with
  | some bytes => pure (copyRanges bytes base 0 ranges data)
  | none => fetchStaged o base data ranges

/-- The barrier between the two halves of a copy within one object. -/
def stagingBarrier : Driver → Driver :=
  Driver.recordBarrier Vulkan.stageTransfer Vulkan.stageTransfer
    [(Vulkan.accessTransferWrite, Vulkan.accessTransferRead)] []

/-- Bytes copied within one object, by way of a staging buffer. -/
def copyInside (o : BoundBuffer) (targetBase sourceBase : Nat) (ranges : List ByteRange) :
    Attempt VulkanQueue Unit :=
  withStaging (totalSize ranges) .gpuOnly fun staging =>
    VulkanQueue.submitOnce fun id d =>
      let d := d.recordCopy id ⟨o.buffer, staging.buffer, regionsIn sourceBase ranges⟩
      (stagingBarrier d).recordCopy id ⟨staging.buffer, o.buffer, regionsOut targetBase ranges⟩

/-- Bytes copied from one object to another. -/
def copyAcross (target source : BoundBuffer) (targetBase sourceBase : Nat)
    (ranges : List ByteRange) : Attempt VulkanQueue Unit :=
  submitCopy source.buffer target.buffer
    (ranges.map fun r => ⟨sourceBase + r.offset, targetBase + r.offset, r.size⟩)

/-- The object of a handle; an unknown handle is refused. -/
def known (d : VulkanDevice) (h : ObjectHandle) : Attempt VulkanQueue BoundBuffer :=
  match d.object? h with
  | some o => pure o
  | none => refuse .vulkan (.unknownObject h)

/-- Bytes copied between objects. -/
def transferBetween (d : VulkanDevice) (target : ObjectHandle) (targetBase : Nat)
    (source : ObjectHandle) (sourceBase : Nat) (ranges : List ByteRange) :
    Attempt VulkanQueue Unit := do
  let into ← d.known target
  let o ← d.known source
  requireRanges sourceBase o.size targetBase into.size ranges
  if target = source then copyInside o targetBase sourceBase ranges
  else copyAcross into o targetBase sourceBase ranges

/-- Bytes copied from host to host, range after range. The answer is the target afterwards, and the
    first range that does not fit, if there is one. -/
def copyHost (source : ByteArray) : List ByteRange → ByteArray → ByteArray × Option ByteRange
  | [], target => (target, none)
  | r :: rest, target =>
    if r.stop ≤ target.size ∧ r.stop ≤ source.size then
      copyHost source rest (Bytes.splice target r.offset (source.extract r.offset r.stop))
    else (target, some r)

/-- A transfer on the queue; the answer is the host bytes where they were read. -/
def transferOn (d : VulkanDevice) (target : TransferTarget) (source : TransferSource)
    (ranges : List ByteRange) : Step VulkanQueue TransferReply := do
  match target, source with
  | .object h base, .host data => do
    let outcome ← (do store (← d.known h) base data ranges : Attempt _ _).outcome
    pure ⟨ByteArray.empty, outcome⟩
  | .host data, .object h base => do
    match ← (do fetch (← d.known h) base data ranges : Attempt _ _).outcome with
    | .ok read => pure ⟨read, .ok ()⟩
    | .error f => pure ⟨data, .error f⟩
  | .object into targetBase, .object h sourceBase => do
    let outcome ← (transferBetween d into targetBase h sourceBase ranges).outcome
    pure ⟨ByteArray.empty, outcome⟩
  | .host into, .host data => do
    match copyHost data ranges into with
    | (into, none) => pure ⟨into, .ok ()⟩
    | (into, some r) => do
      let outcome ← (refuse .vulkan (.transferOutside r.offset r.size) : Attempt _ _).outcome
      pure ⟨into, outcome⟩

/-- A transfer. -/
def transfer (target : TransferTarget) (source : TransferSource) (ranges : List ByteRange)
    (flags : MapFlags) : Step VulkanDevice TransferReply := do
  note (.vulkanTransfer ranges.length flags)
  let d ← get
  onQueue (d.transferOn target source ranges)

/-! ## 4. Objects and mappings -/

/-- A new object under the next handle. -/
def makeObject (request : ObjectRequest) : Attempt VulkanDevice Placement := do
  let location := MemoryLocation.ofPreference request.memory
  let o ← Attempt.onPart (·.queue) (fun queue d => { d with queue })
    (VulkanQueue.makeBuffer request.size (Vulkan.bufferUsage request.usage) location)
  let d ← get
  let h : ObjectHandle := ⟨d.nextHandle⟩
  note (.vulkanObjectCreated h request.size location)
  set { d with nextHandle := d.nextHandle + 1, objects := d.objects.insert h.number o }
  pure ⟨h, 0⟩

/-- An object released once the queue no longer uses it; a failed wait is only told. -/
def releaseIdle (h : ObjectHandle) (o : BoundBuffer) : Step VulkanQueue Unit := do
  match ← VulkanQueue.call Driver.waitQueueIdle with
  | .ok () => pure ()
  | .error code => note (.vulkanIdleFailed h code)
  VulkanQueue.releaseBuffer o

/-- An object given up; a capture into it ends. -/
def freeObject (h : ObjectHandle) : Step VulkanDevice Unit := do
  modify fun d => { d with capture := if d.capture = some h then none else d.capture }
  let d ← get
  match d.object? h with
  | none => note (.destroyingUnknown .vulkan h)
  | some o =>
    set { d with objects := d.objects.erase h.number }
    onQueue (releaseIdle h o)

/-- An object mapped. Only a mapping that throws content away, or leaves alone what is in use, need
    not wait for the queue. -/
def openMapping (h : ObjectHandle) (offset size : Nat) (flags : MapFlags) :
    Attempt VulkanDevice Nat := do
  let d ← get
  match d.object? h with
  | none => refuse .vulkan (.unknownObject h)
  | some o =>
    if offset + size > o.size then refuse .vulkan (.mapBeyondObject offset size o.size)
    else if (d.driver.mapped? o.buffer).isNone then refuse .vulkan (.notHostVisible h)
    else
      if !flags.meets (MapFlags.discard ∪ MapFlags.noOverwrite) then
        Attempt.onPart (·.queue) (fun queue d => { d with queue })
          (VulkanQueue.tryCall .waitQueueIdle Driver.waitQueueIdle)
      pure offset

/-- An object unmapped; its memory needs no flush. -/
def closeMapping (h : ObjectHandle) (ranges : List ByteRange) : Step VulkanDevice Unit := do
  let d ← get
  if (d.object? h).isSome then note (.vulkanUnmapped h ranges.length)
  else note (.unmappingUnknown .vulkan h)

/-- The hazards of a queue family that takes no part in a transfer of ownership. -/
def ignoredFamily : Nat := UInt32.size - 1

/-- A barrier submitted. A failure is only told. -/
def recordBarrier (b : Barrier) : Step VulkanDevice Unit := do
  let d ← get
  match d.object? b.handle with
  | none => note (.vulkanBarrierUnknown b.handle)
  | some o =>
    let hazard : BufferHazard :=
      ⟨Vulkan.accessMask b.source, Vulkan.accessMask b.target, ignoredFamily, ignoredFamily,
        o.buffer, b.offset, b.size⟩
    let record := fun _ =>
      Driver.recordBarrier (Vulkan.stageMask b.source) (Vulkan.stageMask b.target) [] [hazard]
    match ← onQueue (VulkanQueue.submitOnce record).outcome with
    | .ok () => pure ()
    | .error f => note (.vulkanBarrierFailed f)

/-- The bytes of a mapped object from a position on. -/
def peek (d : VulkanDevice) (h : ObjectHandle) (position size : Nat) : ByteArray :=
  match (d.object? h).bind fun o => d.driver.bytes? o.buffer with
  | some bytes => bytes.extract position (position + size)
  | none => ByteArray.empty

/-- Bytes written through a mapping. -/
def poke (h : ObjectHandle) (position : Nat) (data : ByteArray) (d : VulkanDevice) : VulkanDevice :=
  match d.object? h with
  | some o =>
    match d.driver.bytes? o.buffer with
    | some bytes => d.setDriver (d.driver.setBytes o.buffer (Bytes.splice bytes position data))
    | none => d
  | none => d

/-- The capture ended. -/
def endCapture : Step VulkanDevice Unit := do
  note .vulkanCaptureEnded
  modify fun d => { d with capture := none }

instance : Device VulkanDevice where
  caps d := d.caps
  live d h := (d.object? h).isSome
  makeObject := makeObject
  freeObject := freeObject
  transfer := transfer
  openMapping := openMapping
  closeMapping := closeMapping
  recordBarrier := recordBarrier
  captureActive d h := d.capture == some h
  endCapture := endCapture
  peek := peek
  poke := poke

instance : LendsFreely VulkanDevice := ⟨fun _ _ _ => rfl⟩

/-! ## 5. The end -/

/-- Every object released. -/
def releaseAll : Step VulkanDevice Unit := do
  let d ← get
  let left := d.objects.rows.map (·.2)
  if !left.isEmpty then note (.vulkanReleasing left.length)
  set { d with objects := .empty }
  left.forM fun o => onQueue (VulkanQueue.releaseBuffer o)

/-- The device ended, and its queue with it. -/
def finish : Step VulkanDevice Unit := do
  discard (onQueue (VulkanQueue.call Driver.waitDeviceIdle))
  releaseAll
  onQueue VulkanQueue.finish

end VulkanDevice

end BufferCoherence
