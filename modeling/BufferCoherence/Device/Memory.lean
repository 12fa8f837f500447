import BufferCoherence.Device.Interface
import BufferCoherence.Table

/-!
# The memory device

A device whose objects live in host memory. Every call that does something is recorded, so that
the traffic of a buffer can be read off. Three knobs change how it behaves: creating objects may
fail, mappings may be one byte off, and an object may be the target of a capture.

An object of `n` bytes has storage of whole blocks with at least sixteen bytes to spare, so that a
mapping that is one byte off still has room; what is written there stays.

A transfer reads all its ranges before it writes any (`MemoryDevice.stage`, `writeRanges`); a write
that does not fit ends it, and what was written before stays.
-/

namespace BufferCoherence

/-! ## 1. State -/

/-- One end of a recorded transfer. -/
inductive Endpoint where
  | host
  | object (handle : ObjectHandle)
deriving DecidableEq

/-- One recorded call. -/
inductive DeviceCall where
  | create (handle : ObjectHandle) (request : ObjectRequest)
  | destroy (handle : ObjectHandle)
  | transfer (target source : Endpoint) (ranges : List ByteRange) (flags : MapFlags)
  | map (handle : ObjectHandle) (flags : MapFlags)
  | unmap (handle : ObjectHandle) (ranges : List ByteRange)
  | barrier (barrier : Barrier)
  | endCapture
deriving DecidableEq

/-- The end of a transfer that a source is. -/
def TransferSource.endpoint : TransferSource → Endpoint
  | host _ => .host
  | object h _ => .object h

/-- The end of a transfer that a target is. -/
def TransferTarget.endpoint : TransferTarget → Endpoint
  | host _ => .host
  | object h _ => .object h

/-- The size of a block of storage. -/
def blockSize : Nat := 16

/-- An object in host memory. -/
structure HostObject where
  request : ObjectRequest
  storage : ByteArray
  mapped : Bool
  /-- The host can hold the object. -/
  hosted : request.size ≤ Bytes.largestRun
  /-- There is storage for every byte of it. -/
  covered : request.size ≤ storage.size

namespace HostObject

/-- The bytes of storage for an object of `size` bytes: whole blocks, one block to spare. -/
def storageSize (size : Nat) : Nat := (size + blockSize + blockSize - 1) / blockSize * blockSize

theorem le_storageSize (size : Nat) : size ≤ storageSize size := by
  unfold storageSize blockSize; omega

/-- A new object, all zeroes. -/
def new (request : ObjectRequest) (hosted : request.size ≤ Bytes.largestRun) : HostObject where
  request := request
  storage := Bytes.zeros (storageSize request.size)
  mapped := false
  hosted := hosted
  covered := by rw [Bytes.size_zeros]; exact le_storageSize _

/-- The content of the object, without the bytes to spare. -/
def bytes (o : HostObject) : ByteArray := Bytes.take o.storage o.request.size

/-- The object with its storage replaced by as many bytes. -/
def withStorage (o : HostObject) (storage : ByteArray) (h : storage.size = o.storage.size) :
    HostObject :=
  { o with storage, covered := h ▸ o.covered }

/-- The object with `data` written to its storage. -/
def write (o : HostObject) (position : Nat) (data : ByteArray) : HostObject :=
  o.withStorage (Bytes.splice o.storage position data) (Bytes.size_splice _ _ _)

end HostObject

/-- The state of the device. -/
structure MemoryDevice where
  caps : Capabilities
  objects : Table HostObject
  nextHandle : Nat
  /-- The calls recorded so far, the oldest first. -/
  commands : Array DeviceCall
  refusesObjects : Bool
  shiftsMappings : Bool
  /-- The object that a capture writes to. -/
  capture : Option ObjectHandle

namespace MemoryDevice

/-- A device without objects. -/
def new (caps : Capabilities) : MemoryDevice := ⟨caps, .empty, 1, #[], false, false, none⟩

/-- The object of a handle. -/
def object? (d : MemoryDevice) (h : ObjectHandle) : Option HostObject := d.objects.get? h.number

/-- An object replaced. -/
def putObject (d : MemoryDevice) (h : ObjectHandle) (o : HostObject) : MemoryDevice :=
  { d with objects := d.objects.insert h.number o }

/-- One more call recorded. -/
def record (d : MemoryDevice) (c : DeviceCall) : MemoryDevice :=
  { d with commands := d.commands.push c }

/-- The barriers recorded so far. -/
def recordedBarriers (d : MemoryDevice) : List Barrier :=
  d.commands.toList.filterMap fun c => match c with
    | .barrier b => some b
    | _ => none

/-- The record of calls thrown away. -/
def forgetCommands (d : MemoryDevice) : MemoryDevice := { d with commands := #[] }

/-- The capture turned to an object. -/
def beginCapture (d : MemoryDevice) (h : ObjectHandle) : MemoryDevice :=
  { d with capture := some h }

/-! ## 2. Transfers -/

/-- The bytes of one range of a source. -/
def readRun (d : MemoryDevice) (source : TransferSource) (r : ByteRange) :
    Except Failure ByteArray :=
  let read (bytes : ByteArray) (base : Nat) : Except Failure ByteArray :=
    let start := base + r.offset
    match Bytes.slice? bytes start r.size with
    | some run => .ok run
    | none => .error (.sourceOutside start (start + r.size))
  match source with
  | .host data => read data 0
  | .object h offset =>
    match d.object? h with
    | some o => read o.bytes offset
    | none => .error (.sourceUnknown h)

/-- The bytes of all ranges of a source; the first range that cannot be read is the failure. -/
def stage (d : MemoryDevice) (source : TransferSource) :
    List ByteRange → Except Failure (List (ByteRange × ByteArray))
  | [] => .ok []
  | r :: rest =>
    match d.readRun source r with
    | .error f => .error f
    | .ok run =>
      match d.stage source rest with
      | .error f => .error f
      | .ok runs => .ok ((r, run) :: runs)

/-- Runs written behind `base`, one after the other, into the first `limit` bytes; a run that does
    not fit ends the writing. The answer says whether all were written. -/
def writeRanges (base limit : Nat) : List (ByteRange × ByteArray) → ByteArray → ByteArray × Bool
  | [], data => (data, true)
  | (r, run) :: rest, data =>
    let start := base + r.offset
    if start + run.size ≤ limit then
      writeRanges base limit rest (Bytes.splice data start run)
    else (data, false)

theorem size_writeRanges (base limit : Nat) (runs : List (ByteRange × ByteArray))
    (data : ByteArray) : (writeRanges base limit runs data).1.size = data.size := by
  induction runs generalizing data with
  | nil => rfl
  | cons head rest ih =>
    simp only [writeRanges]
    split
    · rw [ih, Bytes.size_splice]
    · rfl

/-- The staged runs written to the target: the host bytes afterwards, the failure if there is one,
    and the device. -/
def deliver (d : MemoryDevice) (target : TransferTarget) (runs : List (ByteRange × ByteArray)) :
    ByteArray × Option Failure × MemoryDevice :=
  match target with
  | .host data =>
    let (data, done) := writeRanges 0 data.size runs data
    (data, if done then none else some .targetOutside, d)
  | .object h offset =>
    match d.object? h with
    | none => (ByteArray.empty, some (.targetUnknown h), d)
    | some o =>
      let written := writeRanges offset o.request.size runs o.storage
      let failure := if written.2 then none else some .targetOutside
      (ByteArray.empty, failure, d.putObject h (o.withStorage written.1 (size_writeRanges ..)))

/-- A transfer: everything is read, then everything is written, then the call is recorded. -/
def transfer (target : TransferTarget) (source : TransferSource) (ranges : List ByteRange)
    (flags : MapFlags) : Step MemoryDevice TransferReply := do
  let d ← get
  match d.stage source ranges with
  | .error f =>
    note (.failed .memoryDevice f)
    pure ⟨target.hostBytes, .error f⟩
  | .ok runs =>
    match d.deliver target runs with
    | (host, some f, d) =>
      set d
      note (.failed .memoryDevice f)
      pure ⟨host, .error f⟩
    | (host, none, d) =>
      set (d.record (.transfer target.endpoint source.endpoint ranges flags))
      pure ⟨host, .ok ()⟩

/-! ## 3. Objects and mappings -/

/-- The device with a new object under the next handle. -/
def addObject (d : MemoryDevice) (o : HostObject) : MemoryDevice :=
  ({ d with nextHandle := d.nextHandle + 1 }.putObject ⟨d.nextHandle⟩ o).record
    (.create ⟨d.nextHandle⟩ o.request)

/-- A new object under the next handle; one that the host cannot hold is refused. -/
def makeObject (request : ObjectRequest) : Attempt MemoryDevice Placement := do
  let d ← get
  if hosted : request.size ≤ Bytes.largestRun ∧ d.refusesObjects = false then
    set (d.addObject (.new request hosted.1))
    pure ⟨⟨d.nextHandle⟩, 0⟩
  else
    note (.allocationRefused request.size)
    throw .outOfMemory

/-- An object given up; a capture into it ends. -/
def freeObject (h : ObjectHandle) : Step MemoryDevice Unit := do
  let d ← get
  if (d.object? h).isNone then note (.destroyingUnknown .memoryDevice h)
  let capture := if d.capture = some h then none else d.capture
  set ({ d with objects := d.objects.erase h.number, capture }.record (.destroy h))

/-- An object mapped. -/
def openMapping (h : ObjectHandle) (offset size : Nat) (flags : MapFlags) :
    Attempt MemoryDevice Nat := do
  let d ← get
  match d.object? h with
  | none => refuse .memoryDevice (.mapUnknown h)
  | some o =>
    if offset + size > o.request.size then
      refuse .memoryDevice (.mapBeyondObject offset size o.request.size)
    else
      set ((d.putObject h { o with mapped := true }).record (.map h flags))
      pure (offset + if d.shiftsMappings then 1 else 0)

/-- An object unmapped. -/
def closeMapping (h : ObjectHandle) (ranges : List ByteRange) : Step MemoryDevice Unit := do
  let d ← get
  match d.object? h with
  | some o => set ((d.putObject h { o with mapped := false }).record (.unmap h ranges))
  | none =>
    note (.unmappingUnknown .memoryDevice h)
    set (d.record (.unmap h ranges))

/-- An upload object that holds the data given. -/
def makeUpload (data : ByteArray) : Attempt MemoryDevice Placement := do
  let a ← makeObject
    ⟨data.size, .generic, ObjectUsage.transferSrc, MemoryPreference.hostVisible, true, true⟩
  modify fun d => match d.object? a.handle with
    | some o => d.putObject a.handle (o.write 0 data)
    | none => d
  pure a

/-- The bytes of storage from a position on. -/
def peek (d : MemoryDevice) (h : ObjectHandle) (position size : Nat) : ByteArray :=
  match d.object? h with
  | some o => o.storage.extract position (position + size)
  | none => ByteArray.empty

/-- Bytes written to the storage of an object. -/
def poke (h : ObjectHandle) (position : Nat) (data : ByteArray) (d : MemoryDevice) : MemoryDevice :=
  match d.object? h with
  | some o => d.putObject h (o.write position data)
  | none => d

instance : Device MemoryDevice where
  caps d := d.caps
  live d h := (d.object? h).isSome
  makeObject := makeObject
  freeObject := freeObject
  transfer := transfer
  openMapping := openMapping
  closeMapping := closeMapping
  recordBarrier b := modify (·.record (.barrier b))
  captureActive d h := d.capture == some h
  endCapture := modify fun d => { d with capture := none }.record .endCapture
  peek := peek
  poke := poke

instance : LendsFreely MemoryDevice := ⟨fun _ _ _ => rfl⟩

end MemoryDevice

end BufferCoherence
