import BufferCoherence.Buffer.Basic
import BufferCoherence.Device.Interface

/-!
# The storage of a buffer

Steps that make the storage of a copy exist and steps that give it up. Bytes are copied by the
modules above; here the only bytes that appear are the zeroes of a new shadow.

A `Site` is what an operation on a buffer works on: the buffer and the machine it lives on, which
is the device with the users of all its objects.
-/

namespace BufferCoherence

/-! ## 1. Sites -/

/-- A device, the users of its objects, and the number of the next buffer. -/
structure Machine (δ : Type) where
  device : δ
  users : UserTable
  nextBuffer : Nat

/-- A machine on which no buffer was created. -/
def Machine.new {δ : Type} (device : δ) : Machine δ := ⟨device, .empty, 1⟩

/-- A buffer and the machine it lives on. -/
structure Site (δ : Type) where
  buffer : Buffer
  machine : Machine δ

namespace Site

variable {δ α : Type}

/-- A step of the device. -/
def onDevice (s : Step δ α) : Step (Site δ) α :=
  s.onPart (·.machine.device) fun device site => { site with machine.device := device }

/-- An attempt of the device. -/
def tryDevice (a : Attempt δ α) : Attempt (Site δ) α :=
  a.onPart (·.machine.device) fun device site => { site with machine.device := device }

/-- A run of host memory is to be had now. -/
def hostLends [Device δ] (s : Site δ) (use : HostUse) (size : Nat) : Bool :=
  size ≤ Bytes.largestRun && Device.hostLends s.machine.device use size

/-- The buffer as it is now. -/
def current : Step (Site δ) Buffer := do return (← get).buffer

/-- The buffer changed. -/
def change (f : Buffer → Buffer) : Step (Site δ) Unit :=
  modify fun s => { s with buffer := f s.buffer }

/-- The users changed. -/
def changeUsers (f : UserTable → UserTable) : Step (Site δ) Unit :=
  modify fun s => { s with machine.users := f s.machine.users }

/-! ## 2. Which copies are current -/

/-- The copies of `l` become current. -/
def declareCurrent (l : Location) : Step (Site δ) Unit := do
  change (·.markValid l)
  let b ← current
  note (.locationsNow b.id b.locations)

/-- What there is to tell about a span that is reported as changed. -/
def dirtyNotices (d : DirtySpans) (offset size : Nat) : List Notice :=
  match d.receive offset size with
  | .outside => [.dirtyOutside offset size d.size]
  | .overflow => [.dirtyOverflow d.limit]
  | .starved => [.dirtyNotGrown]
  | _ => []

/-- The copies of `l` become stale in a span. -/
def declareStaleIn (l : Location) (offset size : Nat) : Step (Site δ) Unit := do
  let b ← current
  if l.has Location.gpuObject then noteAll (dirtyNotices b.dirty offset size)
  change (·.markStale l offset size)
  let b ← current
  note (.locationsNow b.id b.locations)
  if b.locations.isEmpty then note (.noLocation b.id)

/-- The copies of `l` become stale altogether. -/
def declareStale (l : Location) : Step (Site δ) Unit := declareStaleIn l 0 0

/-- A span of the object is reported as changed. -/
def markDirty (offset size : Nat) : Step (Site δ) Unit := do
  let b ← current
  noteAll (dirtyNotices b.dirty offset size)
  change fun b => { b with dirty := b.dirty.mark offset size }

/-! ## 3. The shadow -/

/-- The shadow comes to exist, filled with zeroes; the answer is whether it does. -/
def reserveShadow [Device δ] : Step (Site δ) Bool := do
  let s ← get
  if s.buffer.shadow.isSome then pure true
  else if s.hostLends .shadow s.buffer.size then
    change fun b => { b with shadow := some (Bytes.zeros b.size) }
    pure true
  else
    note (.shadowRefused s.buffer.size s.buffer.id)
    pure false

/-- The shadow is filled with zeroes. -/
def clearShadow : Step (Site δ) Unit :=
  change fun b => { b with shadow := b.shadow.map fun m => Bytes.zeros m.size }

/-- The shadow goes away, unless it must stay. -/
def giveUpShadow : Step (Site δ) Unit := do
  let b ← current
  if b.pinned then note (.shadowKept b.id)
  else
    note (.shadowEvicted b.id)
    declareStale Location.sysmem
    change fun b => { b with shadow := none }

/-- The shadow must stay from now on. -/
def pinShadow : Step (Site δ) Unit := change fun b => { b with pinned := true }

/-! ## 4. The object -/

/-- An object taken as the object of the buffer; nothing of the content is in it yet. -/
def adoptObject (o : BufferObject) : Step (Site δ) Unit :=
  modify fun s =>
    let (o, users) := o.enlist s.machine.users s.buffer.user
    { s with
      buffer := { s.buffer with object := some o, dirty := s.buffer.dirty.markAll }
      machine.users := users }

/-- The object taken from the buffer; its users lose their views and their entries. -/
def takeObject : Step (Site δ) (Option BufferObject) := do
  let s ← get
  match s.buffer.object with
  | none => pure none
  | some o =>
    let (o, users) := o.dismissUsers s.machine.users
    set { s with buffer := { s.buffer with object := none }, machine.users := users }
    pure (some o)

variable [Device δ]

/-- A new object, taken as the object of the buffer. -/
def newObject (request : ObjectRequest) : Attempt (Site δ) Unit := do
  let a ← tryDevice (Device.makeObject request)
  let b ← always current
  always (adoptObject (.new a b.size))
  note (.objectCreated a.handle b.id)

/-- A device refused to create the object. With binding targets the buffer does without one from
    now on; with barriers it may try again. -/
def objectRefused (f : Failure) : Step (Site δ) Unit := do
  let b ← current
  match b.backend with
  | .legacy _ =>
    note (.objectRefused .error f)
    change fun b => { b with objectAllowed := false, dirty := b.dirty.clear }
  | _ => note (.objectRefused .warn f)

/-- What there is to tell about the bind flags of a new object. -/
def bindNotices (bind : BindFlags) : List Notice :=
  if bind.meets (BindFlags.renderTarget ∪ BindFlags.depthStencil) then [.bindFlagsIgnored bind]
  else []

/-- The object comes to exist; the answer is whether it does. -/
def reserveObject : Step (Site δ) Bool := do
  let b ← current
  match b.objectRequest? with
  | none =>
    note (.withoutObjects Location.gpuObject)
    pure false
  | some request =>
    if b.object.isSome then pure true
    else if !b.objectAllowed then
      note (.objectNotAllowed b.id)
      pure false
    else
      noteAll (bindNotices b.bind)
      match ← (newObject request).outcome with
      | .ok () =>
        change (·.restartBarriers)
        pure true
      | .error f =>
        objectRefused f
        pure false

/-- The object is detached and given back to the device. -/
def freeObject : Step (Site δ) Unit := do
  match ← takeObject with
  | some o => onDevice (Device.freeObject o.handle)
  | none => pure ()

/-- An object that is being captured into ends the capture. -/
def endCaptureInto (h : ObjectHandle) : Step (Site δ) Unit := do
  let s ← get
  if s.buffer.bind.has BindFlags.streamOutput && Device.captureActive s.machine.device h then
    note (.captureEnded s.buffer.id)
    onDevice Device.endCapture

/-- The object goes away. -/
def removeObject : Step (Site δ) Unit := do
  let b ← current
  match b.backend with
  | .noObject => note (.nothingToUnload Location.gpuObject b.id)
  | .legacy _ =>
    match b.object with
    | none => pure ()
    | some o =>
      endCaptureInto o.handle
      freeObject
  | .modern _ => freeObject

end Site

end BufferCoherence
