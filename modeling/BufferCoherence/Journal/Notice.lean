import BufferCoherence.Vertex.ConversionMap
import BufferCoherence.Failure
import BufferCoherence.Journal.Severity
import BufferCoherence.Vulkan.Masks
import BufferCoherence.WritePolicy

/-!
# Notices

What the library has to say while it works. Each constructor is one event; who says it
(`Notice.source`), how much it matters (`Notice.severity`) and how it is worded (`Notice.text`)
is fixed here and nowhere else. An address has no value that a reader could compare, so that a
notice shows `PTR` in its place.
-/

namespace BufferCoherence

/-! ## 1. Sources -/

/-- The part of the library that gives a notice. -/
inductive Source where
  | buffer
  | conversion
  | streaming
  | memoryDevice
  | vulkan
  /-- A client of the library. -/
  | client (name : String)
deriving DecidableEq

/-- The name a source is written with. -/
def Source.name : Source → String
  | .buffer => "galaxy3d::Buffer"
  | .conversion => "galaxy3d::Conversion"
  | .streaming => "galaxy3d::Streaming"
  | .memoryDevice => "galaxy3d::MemoryDevice"
  | .vulkan => "galaxy3d::vulkan"
  | .client name => name

/-! ## 2. Events -/

/-- Something worth telling. -/
inductive Notice where
  /-- An operation fails; the failure is also the answer to the caller. -/
  | failed (source : Source) (failure : Failure)
  -- residency
  | locationsNow (buffer : BufferId) (locations : Location)
  | noLocation (buffer : BufferId)
  | shadowKept (buffer : BufferId)
  | shadowEvicted (buffer : BufferId)
  | shadowPinned (buffer : BufferId)
  | shadowRefused (size : Nat) (buffer : BufferId)
  | loading (target : Location) (buffer : BufferId) (current : Location)
  | nothingToCopy (buffer : BufferId)
  | dirtyOutside (offset size total : Nat)
  | dirtyOverflow (limit : Nat)
  | dirtyNotGrown
  | scratchRefused (buffer : BufferId)
  -- objects
  | objectCreated (handle : ObjectHandle) (buffer : BufferId)
  | objectRefused (severity : Severity) (failure : Failure)
  | objectNotAllowed (buffer : BufferId)
  | withoutObjects (location : Location)
  | nothingToUnload (location : Location) (buffer : BufferId)
  | captureEnded (buffer : BufferId)
  | bindFlagsIgnored (bind : BindFlags)
  | bindFlagsUnhandled (bind : BindFlags)
  | notGpuAccessible
  | objectsUnsupported
  | rangeMapsUnsupported
  | renamed (buffer : BufferId) (previous next : ObjectHandle)
  -- the life of a buffer
  | created (buffer : BufferId) (size : Nat) (kind : BackendKind) (objectAllowed : Bool)
  | destroying (buffer : BufferId)
  | leaked (buffer : BufferId) (handle : ObjectHandle)
  | saveFailed (buffer : BufferId) (failure : Failure)
  -- mapping
  | memoryReturned (offset : Nat)
  | misaligned (alignment : Nat)
  | dynamicObjectDropped (buffer : BufferId)
  | doubleBuffered (buffer : BufferId)
  | unmatchedUnmap (source : Source)
  | unmapIgnored (outstanding : Nat)
  -- draws
  | mappedThroughObject (buffer : BufferId)
  | loadingMapped (buffer : BufferId)
  | prepareFailed (buffer : BufferId)
  | stopsConverting (buffer : BufferId)
  | tooManyConversions (buffer : BufferId)
  | reloading (buffer : BufferId)
  | shadowLoadFailed (buffer : BufferId) (failure : Failure)
  | objectLoadFailed (buffer : BufferId) (failure : Failure)
  -- barriers
  | barrier (source target : BindFlags) (buffer : BufferId)
  | barrierWithoutObject (buffer : BufferId)
  | noBarrierNeeded (buffer : BufferId)
  -- conversion
  | noFixup
  | analysisSkipped (buffer : BufferId)
  | mapOrphaned (buffer : BufferId)
  | mapChanged (buffer : BufferId)
  | formatUnexpected (format : VertexFormat)
  | strideZero (format : VertexFormat)
  | stridesConflict (stride expected : Nat)
  | strideChanged (stride : Nat)
  | strideUnknown (format : VertexFormat)
  | tagChanged (index : Nat) (previous next : ByteFixup)
  -- streaming
  | ringGrows (previous next : Nat)
  | ringMapped (size position : Nat) (policy : WritePolicy)
  -- devices
  | allocationRefused (size : Nat)
  | destroyingUnknown (source : Source) (handle : ObjectHandle)
  | unmappingUnknown (source : Source) (handle : ObjectHandle)
  | vulkanObjectCreated (handle : ObjectHandle) (size : Nat) (memory : Vulkan.MemoryLocation)
  | vulkanMemoryRefused (size : Nat) (reason : String)
  | vulkanTransfer (ranges : Nat) (flags : MapFlags)
  | vulkanUnmapped (handle : ObjectHandle) (ranges : Nat)
  | vulkanSubmitted
  | vulkanCaptureEnded
  | vulkanBarrierUnknown (handle : ObjectHandle)
  | vulkanBarrierFailed (failure : Failure)
  | vulkanIdleFailed (handle : ObjectHandle) (code : String)
  | vulkanReleasing (count : Nat)
  /-- Anything a client has to say. -/
  | remark (severity : Severity) (source text : String)

namespace Notice

/-- Who gives a notice. -/
def source : Notice → Source
  | failed s _ | unmatchedUnmap s | destroyingUnknown s _ | unmappingUnknown s _ => s
  | noFixup | analysisSkipped _ | mapOrphaned _ | mapChanged _ | formatUnexpected _
  | strideZero _ | stridesConflict _ _ | strideChanged _ | strideUnknown _
  | tagChanged _ _ _ => .conversion
  | ringGrows _ _ | ringMapped _ _ _ => .streaming
  | allocationRefused _ => .memoryDevice
  | vulkanObjectCreated _ _ _ | vulkanMemoryRefused _ _ | vulkanTransfer _ _
  | vulkanUnmapped _ _ | vulkanSubmitted | vulkanCaptureEnded | vulkanBarrierUnknown _
  | vulkanBarrierFailed _ | vulkanIdleFailed _ _ | vulkanReleasing _ => .vulkan
  | remark _ s _ => .client s
  | _ => .buffer

/-- How much a notice matters. -/
def severity : Notice → Severity
  | objectRefused s _ | remark s _ _ => s
  | failed _ _ | noLocation _ | shadowRefused _ _ | dirtyNotGrown | scratchRefused _
  | saveFailed _ _ | prepareFailed _ | shadowLoadFailed _ _ | objectLoadFailed _ _ | mapOrphaned _
  | allocationRefused _ | vulkanMemoryRefused _ _ => .error
  | created _ _ _ _ | destroying _ | reloading _ | ringGrows _ _ => .debug
  | dirtyOutside _ _ _ | dirtyOverflow _ | objectNotAllowed _ | withoutObjects _
  | captureEnded _ | bindFlagsIgnored _ | bindFlagsUnhandled _ | leaked _ _ | misaligned _
  | dynamicObjectDropped _ | doubleBuffered _ | unmatchedUnmap _ | mappedThroughObject _
  | loadingMapped _ | stopsConverting _ | tooManyConversions _ | barrierWithoutObject _
  | analysisSkipped _ | formatUnexpected _ | strideZero _ | stridesConflict _ _
  | strideUnknown _ | destroyingUnknown _ _ | unmappingUnknown _ _ | vulkanBarrierUnknown _
  | vulkanBarrierFailed _ | vulkanIdleFailed _ _ | vulkanReleasing _ => .warn
  | _ => .trace

/-- The wording of a notice. -/
def text : Notice → String
  | failed _ f => f.text
  | locationsNow b l => s!"Buffer {b.number} locations now {l.describe}"
  | noLocation b => s!"Buffer {b.number} does not have any up to date location"
  | shadowKept b => s!"Not evicting system memory for buffer {b.number}"
  | shadowEvicted b => s!"Evicting system memory for buffer {b.number}"
  | shadowPinned b => s!"Pinning system memory for buffer {b.number}"
  | shadowRefused size b =>
    s!"Failed to allocate {size} bytes of system memory for buffer {b.number}"
  | loading l b current =>
    s!"Loading {l.describe} for buffer {b.number}, current locations {current.describe}"
  | nothingToCopy b => s!"Buffer {b.number} previously discarded, nothing to copy"
  | dirtyOutside offset size total =>
    s!"Invalid range {offset}+{size} for a {total} byte buffer, invalidating entire buffer"
  | dirtyOverflow limit => s!"More than {limit} dirty ranges, invalidating entire buffer"
  | dirtyNotGrown => "Failed to grow the dirty range array, invalidating entire buffer"
  | scratchRefused b => s!"Out of memory converting buffer {b.number}"
  | objectCreated h b => s!"Created object {h.describe} for buffer {b.number}"
  | objectRefused _ f => s!"Failed to create buffer object: {f.describe}"
  | objectNotAllowed b =>
    s!"Trying to create an object for buffer {b.number} without object usage"
  | withoutObjects l => s!"Unhandled location {l.describe} without buffer objects"
  | nothingToUnload l b => s!"Nothing to unload for {l.describe} of buffer {b.number}"
  | captureEnded b => s!"Deleting object for buffer {b.number}, disabling stream output"
  | bindFlagsIgnored bind => s!"Ignoring some bind flags {bind.describe}"
  | bindFlagsUnhandled bind => s!"Unhandled bind flags {bind.describe}"
  | notGpuAccessible => "Not creating an object because the buffer is not GPU accessible"
  | objectsUnsupported => "Not creating an object because buffer objects are not supported"
  | rangeMapsUnsupported =>
    "Not creating an object for a dynamic buffer without range mapping"
  | renamed b previous next =>
    s!"Renaming buffer {b.number} from {previous.describe} to {next.describe}"
  | created b size kind objectAllowed =>
    s!"Created buffer {b.number} ({size} bytes, {kind.name}, use_bo {objectAllowed})"
  | destroying b => s!"Destroying buffer {b.number}"
  | leaked b h =>
    s!"Buffer {b.number} dropped without destroy, object {h.describe} leaked"
  | saveFailed b f => s!"Failed to save buffer {b.number} before unloading: {f.describe}"
  | memoryReturned offset => s!"Returning memory at PTR (base PTR, offset {offset})"
  | misaligned alignment => s!"Pointer PTR is not {alignment} byte aligned"
  | dynamicObjectDropped b => s!"Dynamic buffer {b.number}, dropping GPU object"
  | doubleBuffered b =>
    s!"Falling back to double-buffered operation for buffer {b.number}"
  | unmatchedUnmap _ => "Unmap called without a previous map call"
  | unmapIgnored outstanding => s!"Ignoring unmap, {outstanding} maps outstanding"
  | mappedThroughObject b => s!"Buffer {b.number} is mapped through its object, not loading"
  | loadingMapped b => s!"Loading mapped buffer {b.number}"
  | prepareFailed b => s!"Failed to prepare the object of buffer {b.number}"
  | stopsConverting b =>
    s!"Too many declaration changes or converting dynamic buffer {b.number}, " ++
      "stopping converting"
  | tooManyConversions b =>
    s!"Too many full conversions of buffer {b.number}, stopping converting"
  | reloading b =>
    s!"Reloading buffer {b.number} because of a vertex declaration change"
  | shadowLoadFailed b f =>
    s!"Failed to load system memory of buffer {b.number}: {f.describe}"
  | objectLoadFailed b f =>
    s!"Failed to load the object of buffer {b.number}: {f.describe}"
  | barrier source target b =>
    s!"Barrier {source.describe} -> {target.describe} for buffer {b.number}"
  | barrierWithoutObject b =>
    s!"Barrier requested for buffer {b.number} without an object"
  | noBarrierNeeded b => s!"No barrier needed for buffer {b.number}"
  | noFixup => "No fixup required"
  | analysisSkipped b => s!"Skipping conversion analysis of buffer {b.number}"
  | mapOrphaned b =>
    s!"No converted attribute found for buffer {b.number} but a conversion map exists"
  | mapChanged b => s!"Conversion information changed for buffer {b.number}"
  | formatUnexpected f => s!"Unexpected format {f.name} for transformed position"
  | strideZero f => s!"{f.name} used with stride 0, assuming the stride of the existing map"
  | stridesConflict stride expected =>
    s!"Got two concurrent strides, {stride} and {expected}"
  | strideChanged stride => s!"Stride changed to {stride}, reallocating conversion map"
  | strideUnknown f => s!"No vertex stride known for {f.name}, not converting"
  | tagChanged i previous next =>
    s!"Byte {i} was {previous.name}, is {next.name} now"
  | ringGrows previous next =>
    s!"Growing streaming buffer from {previous} to {next} bytes"
  | ringMapped size position policy =>
    s!"Mapped {size} bytes at {position} ({policy.name})"
  | allocationRefused size => s!"Failed to allocate a {size} byte object"
  | destroyingUnknown _ h => s!"Destroying unknown object {h.describe}"
  | unmappingUnknown _ h => s!"Unmapping unknown object {h.describe}"
  | vulkanObjectCreated h size memory =>
    s!"Created buffer object {h.describe} ({size} bytes, {memory.name})"
  | vulkanMemoryRefused size reason =>
    s!"Failed to allocate {size} bytes of buffer memory: {reason}"
  | vulkanTransfer ranges flags => s!"Transfer of {ranges} ranges ({flags.describe})"
  | vulkanUnmapped h ranges => s!"Unmapped {h.describe}, {ranges} coherent ranges"
  | vulkanSubmitted => "One-shot submission completed"
  | vulkanCaptureEnded => "Ending transform feedback"
  | vulkanBarrierUnknown h => s!"Barrier on unknown object {h.describe}"
  | vulkanBarrierFailed f => s!"Failed to record buffer barrier: {f.describe}"
  | vulkanIdleFailed h code =>
    s!"Queue wait before destroying {h.describe} failed: {code}"
  | vulkanReleasing count => s!"Releasing {count} buffer objects still alive"
  | remark _ _ text => text

/-- The place in the program is told with failures and with whatever else is an error. -/
def located : Notice → Bool
  | remark _ _ _ => false
  | n => n.severity == .error

end Notice

end BufferCoherence
