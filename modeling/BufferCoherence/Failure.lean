import BufferCoherence.Device.Object
import BufferCoherence.Vertex.Layout

/-!
# Failures

What an operation may fail with. Each constructor is one cause; its kind and its wording are
fixed here and nowhere else:

* `Failure.kind` sorts the causes into five kinds;
* `Failure.text` words a cause;
* `Failure.describe` is what a caller is shown: the kind in front of the wording.
-/

namespace BufferCoherence

/-! ## 1. Kinds -/

/-- The kind of a failure. -/
inductive FailureKind where
  | outOfMemory
  /-- Refused before anything changed. -/
  | invalidArgument
  /-- The backend has no such location. -/
  | unsupportedLocation
  /-- The device or the state of the buffer stands in the way. -/
  | backend
  | initialization
deriving DecidableEq

namespace FailureKind

/-- Every kind. -/
def all : List FailureKind :=
  [.outOfMemory, .invalidArgument, .unsupportedLocation, .backend, .initialization]

/-- The name a kind is written with. -/
def name : FailureKind → String
  | .outOfMemory => "OutOfMemory"
  | .invalidArgument => "InvalidArgument"
  | .unsupportedLocation => "UnsupportedLocation"
  | .backend => "BackendError"
  | .initialization => "InitializationFailed"

/-- The kind with a given name. -/
def ofName? (s : String) : Option FailureKind := all.find? fun k => k.name == s

/-- A wording with its kind in front; a lack of memory has no wording of its own. -/
def label (k : FailureKind) (text : String) : String :=
  match k with
  | .outOfMemory => "Out of memory"
  | .invalidArgument => "Invalid argument: " ++ text
  | .unsupportedLocation => "Unsupported location: " ++ text
  | .backend => "Backend error: " ++ text
  | .initialization => "Initialization failed: " ++ text

end FailureKind

/-! ## 2. Causes -/

/-- A call of a Vulkan driver that can be refused. -/
inductive DriverCall where
  | createCommandPool
  | createBuffer
  | allocateMemory
  | bindMemory
  | allocateCommandBuffer
  | beginCommandBuffer
  | endCommandBuffer
  | submitCommandBuffer
  | waitQueueIdle
  | waitDeviceIdle
deriving DecidableEq

/-- What the call was to do, as a failure words it. -/
def DriverCall.purpose : DriverCall → String
  | .createCommandPool => "create command pool"
  | .createBuffer => "create buffer"
  | .allocateMemory => "allocate memory"
  | .bindMemory => "bind buffer memory"
  | .allocateCommandBuffer => "allocate command buffer"
  | .beginCommandBuffer => "begin command buffer"
  | .endCommandBuffer => "end command buffer"
  | .submitCommandBuffer => "submit command buffer"
  | .waitQueueIdle => "wait for queue idle"
  | .waitDeviceIdle => "wait for device idle"

/-- Why an operation failed. -/
inductive Failure where
  | outOfMemory
  -- creating a buffer
  | emptyRequest
  | unalignedConstantSize (size : Nat)
  | shortInitialData (held needed : Nat)
  | noTransformFeedback
  -- residency
  | notLoadable (location : Location) (buffer : BufferId)
  | locationUnavailable (location : Location) (buffer : BufferId)
  | noShadow (buffer : BufferId)
  | noSource (buffer : BufferId)
  | noUploadSource (buffer : BufferId)
  | notConvertible (buffer : BufferId)
  | unexpectedLocations (locations : Location) (buffer : BufferId)
  -- mapping and copying
  | mapOutside (offset size : Nat) (buffer : BufferId) (total : Nat)
  | noMemoryToMap (buffer : BufferId)
  | noObjectToMap (buffer : BufferId)
  | rangeOutside (offset size : Nat) (buffer : BufferId) (total : Nat)
  | noSubResource (index : Nat)
  -- streaming
  | ringMapped
  | ringWithoutStorage
  -- the memory device
  | sourceUnknown (handle : ObjectHandle)
  | sourceOutside (start stop : Nat)
  | targetUnknown (handle : ObjectHandle)
  | targetOutside
  | mapUnknown (handle : ObjectHandle)
  | mapBeyondObject (offset size total : Nat)
  -- the Vulkan device
  | unknownObject (handle : ObjectHandle)
  | transferOutside (offset size : Nat)
  | stagingNotVisible
  | notHostVisible (handle : ObjectHandle)
  | driverRefused (call : DriverCall) (code : String)
  | noCommandPool (code : String)
  | noAllocator (reason : String)
  /-- A failure that a client of the library words itself. -/
  | reported (kind : FailureKind) (text : String)
deriving DecidableEq

namespace Failure

/-- The kind of a cause. -/
def kind : Failure → FailureKind
  | outOfMemory => .outOfMemory
  | emptyRequest | unalignedConstantSize _ | shortInitialData _ _ | noTransformFeedback
  | mapOutside _ _ _ _ | rangeOutside _ _ _ _ | noSubResource _ | ringMapped
  | mapBeyondObject _ _ _ | transferOutside _ _ => .invalidArgument
  | notLoadable _ _ | locationUnavailable _ _ => .unsupportedLocation
  | noCommandPool _ | noAllocator _ => .initialization
  | reported k _ => k
  | _ => .backend

/-- The wording of a cause. -/
def text : Failure → String
  | outOfMemory => ""
  | emptyRequest => "Size 0 requested"
  | unalignedConstantSize size =>
    s!"Size {FlagSet.hexText size} is not suitably aligned for constant buffers"
  | shortInitialData held needed => s!"Initial data holds {held} bytes, {needed} needed"
  | noTransformFeedback => "Stream output buffers need transform feedback support"
  | notLoadable l b => s!"Cannot load {l.describe} for buffer {b.number}"
  | locationUnavailable l b => s!"{l.describe} is not available for buffer {b.number}"
  | noShadow b => s!"Buffer {b.number} has no system memory"
  | noSource b => s!"No valid copy to load system memory of buffer {b.number} from"
  | noUploadSource b => s!"Buffer {b.number} has no source to upload from"
  | notConvertible b => s!"Buffer {b.number} cannot be converted"
  | unexpectedLocations l b => s!"Unexpected locations {l.describe} for buffer {b.number}"
  | mapOutside offset size b total =>
    s!"Map range {offset}+{size} outside buffer {b.number} of {total} bytes"
  | noMemoryToMap b => s!"Buffer {b.number} has no memory to map"
  | noObjectToMap b => s!"Buffer {b.number} has no object to map"
  | rangeOutside offset size b total =>
    s!"Range {offset}+{size} outside buffer {b.number} of {total} bytes"
  | noSubResource i => s!"Invalid sub-resource index {i}"
  | ringMapped => "Streaming buffer is already mapped"
  | ringWithoutStorage => "Streaming buffer has no storage"
  | sourceUnknown h => s!"Transfer from unknown object {h.describe}"
  | sourceOutside start stop => s!"Transfer source range {start}..{stop} out of bounds"
  | targetUnknown h => s!"Transfer to unknown object {h.describe}"
  | targetOutside => "Transfer destination range out of bounds"
  | mapUnknown h => s!"Mapping unknown object {h.describe}"
  | mapBeyondObject offset size total =>
    s!"Map range {offset}+{size} exceeds object size {total}"
  | unknownObject h => s!"Unknown buffer object {h.describe}"
  | transferOutside offset size => s!"Transfer range {offset}+{size} out of bounds"
  | stagingNotVisible => "Staging buffer is not host visible"
  | notHostVisible h => s!"Buffer object {h.describe} is not host visible"
  | driverRefused call code => s!"Failed to {call.purpose}: {code}"
  | noCommandPool code => s!"Failed to {DriverCall.createCommandPool.purpose}: {code}"
  | noAllocator reason => s!"Failed to create GPU allocator: {reason}"
  | reported _ text => text

/-- What a caller is shown. -/
def describe (f : Failure) : String := f.kind.label f.text

end Failure

end BufferCoherence
