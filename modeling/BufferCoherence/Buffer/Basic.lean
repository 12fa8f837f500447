import BufferCoherence.HazardTracker
import BufferCoherence.Vertex.Analysis
import BufferCoherence.Hysteresis
import BufferCoherence.Object.Users

/-!
# Buffers

The state of a buffer and the small functions on it. The bytes of a buffer may be in its shadow,
which is a copy in host memory, in a device object, or nowhere yet; `Buffer.locations` says which
copies are current, and `Buffer.dirty` which spans the object still lacks.

Functions here change the record alone. What they have to say is said by the steps of the modules
above, which pair each function with its notices.
-/

namespace BufferCoherence

/-! ## 1. Parts -/

/-- What a buffer is asked to be. -/
structure BufferRequest where
  size : Nat
  usage : Usage
  bind : BindFlags
  access : Access
  /-- The size of one element of a structured buffer, zero for any other. -/
  elementStride : Nat
deriving DecidableEq

/-- How a buffer is backed, fixed when it is created. -/
inductive Backend where
  | noObject
  | legacy (binding : BindingTarget)
  | modern (tracker : HazardTracker)
deriving DecidableEq

/-- The kind of a backend. -/
def Backend.kind : Backend → BackendKind
  | noObject => .noObject
  | legacy _ => .legacy
  | modern _ => .modern

/-- A mapping of the whole object: which object, and where its first byte is in the storage. -/
structure MapBase where
  handle : ObjectHandle
  position : Nat
deriving DecidableEq

/-- Where the authoritative bytes of a buffer are. -/
inductive Address where
  | shadow
  | object (handle : ObjectHandle) (offset : Nat)
deriving DecidableEq

/-- The location an address belongs to. -/
def Address.location : Address → Location
  | shadow => Location.sysmem
  | object _ _ => Location.gpuObject

/-! ## 2. The buffer -/

/-- A linear buffer. -/
structure Buffer where
  id : BufferId
  size : Nat
  usage : Usage
  bind : BindFlags
  access : Access
  elementStride : Nat
  settings : Settings
  backend : Backend
  /-- The copies that are current. -/
  locations : Location
  /-- The copy in host memory. -/
  shadow : Option ByteArray
  /-- The shadow must stay. -/
  pinned : Bool
  /-- The device object, with its users. -/
  object : Option BufferObject
  /-- The buffer's own entry among the users of its object. -/
  user : UserId
  /-- The buffer may have a device object; once false, false for good. -/
  objectAllowed : Bool
  /-- The spans that changed since the object was brought up to date. -/
  dirty : DirtySpans
  /-- How many mappings are outstanding. -/
  mapCount : Nat
  /-- The mapping of the object, while there is one. -/
  mapBase : Option MapBase
  conversion : ConversionState
  hysteresis : Hysteresis

namespace Buffer

/-- A buffer whose content is cleared and has no storage yet. -/
def fresh (id : BufferId) (user : UserId) (request : BufferRequest) (backend : Backend)
    (objectAllowed : Bool) (settings : Settings) : Buffer where
  id := id
  size := request.size
  usage := request.usage
  bind := request.bind
  access := request.access
  elementStride := request.elementStride
  settings := settings
  backend := backend
  locations := Location.cleared
  shadow := none
  pinned := false
  object := none
  user := user
  objectAllowed := objectAllowed
  dirty := .clean request.size settings.spanLimit
  mapCount := 0
  mapBase := none
  conversion := .fresh
  hysteresis := .fresh settings.hysteresis

/-- The content changes often. -/
def isDynamic (b : Buffer) : Bool := b.usage.has Usage.dynamic

/-- The vertices of the object are converted. -/
def isConverted (b : Buffer) : Bool := b.conversion.map.isSome

/-- A run of bytes lies within the buffer. -/
def holds (b : Buffer) (offset size : Nat) : Bool := fits offset size b.size

/-- The span over the whole buffer. -/
def span (b : Buffer) : ByteRange := ⟨0, b.size⟩

/-- The copies of `l` become current; an object that is current lacks nothing. -/
def markValid (b : Buffer) (l : Location) : Buffer :=
  { b with
    dirty := if l.has Location.gpuObject then b.dirty.clear else b.dirty
    locations := b.locations ∪ l }

/-- The copies of `l` become stale in a span; an object that is stale lacks the span. -/
def markStale (b : Buffer) (l : Location) (offset size : Nat) : Buffer :=
  { b with
    dirty := if l.has Location.gpuObject then b.dirty.mark offset size else b.dirty
    locations := b.locations \ l }

/-- The barrier tracking starts over. -/
def restartBarriers (b : Buffer) : Buffer :=
  match b.backend with
  | .modern _ => { b with backend := .modern .idle }
  | _ => b

/-- The uses tracked for barriers, on a backend that has barriers. -/
def barrierUses (b : Buffer) : Option BindFlags :=
  match b.backend with
  | .modern t => some t.uses
  | _ => none

/-- The binding target, on a backend that has targets. -/
def binding (b : Buffer) : Option BindingTarget :=
  match b.backend with
  | .legacy t => some t
  | _ => none

/-- The object that is current, if it is. -/
def currentObject (b : Buffer) : Option BufferObject :=
  if b.locations.has Location.gpuObject then b.object else none

/-- The shadow is there and current. -/
def shadowCurrent (b : Buffer) : Bool := b.locations.has Location.sysmem && b.shadow.isSome

/-- The authoritative copy. The object wins, except where it holds converted vertices. -/
def address? (b : Buffer) : Option Address :=
  if b.isConverted && b.shadowCurrent then some .shadow
  else match b.currentObject with
    | some o => some (.object o.handle o.offset)
    | none => if b.shadowCurrent then some .shadow else none

/-- What the object of the buffer is asked to be, on a backend that has objects. -/
def objectRequest? (b : Buffer) : Option ObjectRequest :=
  let request (binding : BindingTarget) (coherent : Bool) : ObjectRequest :=
    { size := b.size
      binding
      usage := ObjectUsage.ofBind b.bind
      memory := MemoryPreference.ofAccess b.access b.usage
      dynamic := b.isDynamic
      coherent }
  match b.backend with
  | .noObject => none
  | .legacy binding => some (request binding (!b.isDynamic))
  | .modern _ => some (request .generic true)

end Buffer

/-! ## 3. Choosing a backend -/

namespace BindingTarget

/-- The target for a set of bind flags, where one of them decides. An index buffer comes first,
    since its object must stand alone. -/
def decided? (caps : Capabilities) (bind : BindFlags) : Option BindingTarget :=
  if bind.isEmpty then some .generic
  else if bind.has BindFlags.indexBuffer then some .index
  else if bind.meets (BindFlags.shaderResource ∪ BindFlags.unorderedAccess) &&
    caps.textureBufferObject then some .textureBuffer
  else if bind.has BindFlags.constantBuffer then some .uniform
  else if bind.has BindFlags.streamOutput then some .streamOutput
  else if bind.has BindFlags.indirectBuffer && caps.drawIndirect then some .indirect
  else none

/-- The target for a set of bind flags; what nothing decides is a vertex buffer. -/
def ofBind (caps : Capabilities) (bind : BindFlags) : BindingTarget :=
  (decided? caps bind).getD .vertex

/-- Some bind flag has no part in the choice of a vertex buffer. -/
def unhandled (caps : Capabilities) (bind : BindFlags) : Bool :=
  (decided? caps bind).isNone &&
    !(bind \ (BindFlags.vertexBuffer ∪ BindFlags.indexBuffer)).isEmpty

end BindingTarget

/-- Why a buffer on a device with binding targets has no object; `none` if it may have one. -/
def objectObstacle? (caps : Capabilities) (request : BufferRequest) : Option Notice :=
  if !request.access.has Access.gpu then some .notGpuAccessible
  else if !caps.bufferObjects then some .objectsUnsupported
  else if !caps.mapBufferRange && request.usage.has Usage.dynamic then some .rangeMapsUnsupported
  else none

end BufferCoherence
