import BufferCoherence.Buffer.Draw

/-!
# Creating buffers

A buffer is created in three steps: what is asked for is checked, a backend is chosen for it, and
then the buffer exists and may be given its first content. Whatever the first two steps refuse
leaves no trace; from then on the number of the buffer is used up, also where the rest fails.
-/

namespace BufferCoherence

/-! ## 1. Checks -/

/-- What is wrong with a request, if anything; `held` are the bytes of the first content. -/
def BufferRequest.fault? (request : BufferRequest) (settings : Settings) (held : Option Nat) :
    Option Failure :=
  if request.size = 0 then some .emptyRequest
  else if request.bind.has BindFlags.constantBuffer &&
    request.size % max settings.constantBufferAlignment 1 != 0 then
    some (.unalignedConstantSize request.size)
  else match held with
    | some held => if held < request.size then some (.shortInitialData held request.size) else none
    | none => none

/-- The request with the access that the settings grant to constant buffers. -/
def BufferRequest.granted (request : BufferRequest) (settings : Settings) : BufferRequest :=
  if request.bind.has BindFlags.constantBuffer && settings.constantBuffersMappable then
    { request with access := request.access ∪ Access.mapWrite }
  else request

/-- The buffer keeps its shadow from the start. -/
def BufferRequest.pinned (request : BufferRequest) (settings : Settings) : Bool :=
  settings.softwareVertexProcessing || request.usage.has Usage.managed

/-- The backend for a request, and whether the buffer may have an object. -/
def chooseBackend {σ : Type} (caps : Capabilities) (request : BufferRequest) :
    Attempt σ (Backend × Bool) := do
  match caps.backend with
  | .noObject => pure (.noObject, false)
  | .legacy => do
    let obstacle := objectObstacle? caps request
    noteAll obstacle.toList
    if BindingTarget.unhandled caps request.bind then note (.bindFlagsUnhandled request.bind)
    pure (.legacy (.ofBind caps request.bind), obstacle.isNone)
  | .modern =>
    if request.bind.has BindFlags.streamOutput && !caps.transformFeedback then
      refuse .buffer .noTransformFeedback
    else pure (.modern .idle, request.access.has Access.gpu)

/-! ## 2. The new buffer -/

namespace Machine

variable {δ : Type} [Device δ]

/-- A buffer with the next number and a user of its own. -/
def freshBuffer (request : BufferRequest) (backend : Backend) (objectAllowed : Bool)
    (settings : Settings) (m : Machine δ) : Site δ :=
  let (user, users) := m.users.add
  ⟨.fresh ⟨m.nextBuffer⟩ user request backend objectAllowed settings,
    { m with users, nextBuffer := m.nextBuffer + 1 }⟩

end Machine

namespace Site

variable {δ : Type} [Device δ]

/-- A new buffer that keeps its shadow counts its zeroes as content. -/
def pinFresh : Step (Site δ) Unit := do
  let b ← current
  note (.shadowPinned b.id)
  change fun b => { b with pinned := true, locations := Location.sysmem }

/-- The storage that a new buffer has from the start. -/
def openStorage (pin : Bool) : Attempt (Site δ) Unit := do
  if pin then always pinFresh
  let b ← always current
  if b.locations.has Location.sysmem || !b.objectAllowed then
    if !(← always reserveShadow) then throw .outOfMemory
  note (.created b.id b.size b.backend.kind b.objectAllowed)

/-- The first content of a buffer. -/
def fillFresh (data : ByteArray) : Attempt (Site δ) Unit := do
  let b ← always current
  if b.objectAllowed then storeBytes 0 data
  else
    match b.shadow with
    | none => refuse .buffer (.noShadow b.id)
    | some _ =>
      always (change fun b => { b with shadow := some data })
      always (declareCurrent Location.sysmem)
      always (declareStale (Location.all \ Location.sysmem))

/-- A new buffer made ready. A buffer that cannot have its storage is let go, and one that cannot
    have its first content is destroyed. -/
def openFresh (pin : Bool) (data : Option ByteArray) : Attempt (Site δ) Unit := do
  match ← always (openStorage pin).outcome with
  | .error f =>
    always abandon
    throw f
  | .ok () =>
    match data with
    | none => pure ()
    | some data =>
      let b ← always current
      match ← always (fillFresh (Bytes.take data b.size)).outcome with
      | .ok () => pure ()
      | .error f =>
        always destroy
        throw f

end Site

namespace Machine

variable {δ : Type} [Device δ]

/-- An attempt on a buffer of the machine; the buffer is answered as it is afterwards. -/
def openSite (site : Site δ) (a : Attempt (Site δ) Unit) : Attempt (Machine δ) Buffer :=
  ExceptT.mk fun _ => do
    let (outcome, site) ← a.run site
    pure (outcome.map fun _ => site.buffer, site.machine)

/-- A buffer created, with its first content if there is some. -/
def create (request : BufferRequest) (data : Option ByteArray) (settings : Settings) :
    Attempt (Machine δ) Buffer := do
  match request.fault? settings (data.map (·.size)) with
  | some f => refuse .buffer f
  | none => do
    let request := request.granted settings
    let m ← get
    let (backend, objectAllowed) ← chooseBackend (Device.caps m.device) request
    openSite (m.freshBuffer request backend objectAllowed settings)
      (Site.openFresh (request.pinned settings) data)

end Machine

/-! ## 3. Parts -/

/-- A part of a buffer, described the way a part of a texture is. -/
structure BufferPart where
  format : VertexFormat
  usage : Usage
  bind : BindFlags
  access : Access
  width : Nat
  height : Nat
  depth : Nat
  size : Nat
deriving DecidableEq

namespace Site

variable {δ : Type} [Device δ]

/-- A buffer has one part; any other is refused. -/
def checkPart (index : Nat) : Attempt (Site δ) Unit :=
  if index = 0 then pure () else refuse .buffer (.noSubResource index)

/-- The one part of a buffer is a row of bytes. -/
def part (index : Nat) : Attempt (Site δ) BufferPart := do
  checkPart index
  let b ← always current
  pure ⟨.r8Unorm, b.usage, b.bind, b.access, b.size, 1, 1, b.size⟩

/-- The distances between the rows and between the slices of a mapping. -/
def pitches (index : Nat) : Attempt (Site δ) (Nat × Nat) := do
  checkPart index
  let b ← always current
  pure (b.size, b.size)

end Site

end BufferCoherence
