import BufferCoherence.Buffer.Storage

/-!
# Residency

How a copy of a buffer is made current. Both copies go the same way (`Site.refreshWith`): storage
first, then the bytes, then the claim that the copy is current. Content that has no bytes yet needs
no copy: discarded content is whatever the storage holds, and cleared content is zeroes.

* `refreshShadow` and `refreshObject` make one copy current; loading is a copy, so that the source
  stays current too;
* an object is loaded from the shadow, its vertices converted where a conversion map asks for it;
* `authoritative` answers where the bytes of the buffer are, after giving bytes to content that
  has none.
-/

namespace BufferCoherence.Site

variable {δ : Type} [Device δ]

/-! ## 1. Moving bytes -/

/-- Bytes moved into an object. -/
def fillObject (handle : ObjectHandle) (offset : Nat) (source : TransferSource)
    (ranges : List ByteRange) (flags : MapFlags) : Attempt (Site δ) Unit := do
  let reply ← always (onDevice (Device.transfer (.object handle offset) source ranges flags))
  answer reply.outcome

/-- Bytes moved into a run of the shadow. What arrived stays there, also where the transfer failed
    half way. -/
def fillShadow (start size : Nat) (source : TransferSource) (flags : MapFlags) :
    Attempt (Site δ) Unit := do
  let b ← always current
  match b.shadow with
  | none => refuse .buffer (.noShadow b.id)
  | some shadow => do
    let reply ← always (onDevice (Device.transfer
      (.host (shadow.extract start (start + size))) source [⟨0, size⟩] flags))
    always (change fun b => { b with shadow := some (Bytes.splice shadow start reply.host) })
    answer reply.outcome

/-! ## 2. One copy made current -/

/-- A buffer without any current copy counts as discarded. -/
def giveUpLost : Step (Site δ) Unit := do
  let b ← current
  if b.locations.isEmpty then
    note (.noLocation b.id)
    declareCurrent Location.discarded

/-- Why the storage of a copy cannot be had: the memory ran out, or the buffer has no such copy. -/
def storageFailure (b : Buffer) (target : Location) : Failure :=
  if target == Location.sysmem || b.objectAllowed then .outOfMemory
  else .locationUnavailable target b.id

/-- A copy made current: `prepare` makes its storage exist, `load` brings the bytes there, and
    `settle` follows where bytes were loaded. -/
def refreshWith (target : Location) (prepare : Step (Site δ) Bool) (load : Attempt (Site δ) Unit)
    (settle : Step (Site δ) Unit) : Attempt (Site δ) Unit := do
  let b ← always current
  if b.locations.has target then pure ()
  else
    always giveUpLost
    let b ← always current
    note (.loading target b.id b.locations)
    if !(← always prepare) then throw (storageFailure b target)
    else
      let b ← always current
      if b.locations.has Location.discarded then
        note (.nothingToCopy b.id)
        always (declareCurrent target)
        always (declareStale Location.discarded)
      else
        load
        always (declareCurrent target)
        always settle

/-! ## 3. The shadow -/

/-- The bytes of the shadow: zeroes for cleared content, and else those of the object. -/
def loadShadow : Attempt (Site δ) Unit := do
  let b ← always current
  if b.locations.has Location.cleared then always clearShadow
  else match b.currentObject with
    | none => refuse .buffer (.noSource b.id)
    | some o => fillShadow 0 b.size (.object o.handle o.offset) MapFlags.write

/-- The shadow made current. -/
def refreshShadow : Attempt (Site δ) Unit :=
  refreshWith Location.sysmem reserveShadow loadShadow (pure ())

/-! ## 4. The object -/

/-- The bytes that the object lacks, taken from the shadow. -/
def uploadPlain : Attempt (Site δ) Unit := do
  let b ← always current
  match b.shadow, b.object with
  | some shadow, some o =>
    let flags := if b.dirty.isFull then MapFlags.write ∪ MapFlags.discard else MapFlags.write
    fillObject o.handle o.offset (.host shadow) b.dirty.spans flags
  | _, _ => refuse .buffer (.noUploadSource b.id)

/-- A copy in host memory to convert vertices in, as large as the shadow. -/
def borrowScratch (size : Nat) : Attempt (Site δ) Unit := do
  let s ← always get
  if s.hostLends .scratch size then pure ()
  else
    note (.scratchRefused s.buffer.id)
    throw .outOfMemory

/-- The bytes that the object lacks, taken from the shadow with its vertices converted. The shadow
    keeps the unconverted bytes, so that it must stay from now on. -/
def uploadConverted : Attempt (Site δ) Unit := do
  refreshShadow
  always pinShadow
  let b ← always current
  match b.conversion.map, b.shadow, b.object with
  | some map, some shadow, some o => do
    borrowScratch shadow.size
    fillObject o.handle o.offset (.host (map.convert shadow b.dirty.spans)) b.dirty.spans
      MapFlags.write
  | _, _, _ => refuse .buffer (.notConvertible b.id)

/-- A shadow of zeroes, to load cleared content from. -/
def materializeCleared : Attempt (Site δ) Unit := do
  if ← always reserveShadow then always clearShadow else throw .outOfMemory

/-- The bytes of the object. -/
def loadObject : Attempt (Site δ) Unit := do
  let b ← always current
  if b.locations.has Location.cleared then materializeCleared
  let b ← always current
  if b.isConverted then uploadConverted else uploadPlain

/-- An object that was loaded makes the shadow superfluous, unless the content changes often. -/
def releaseShadow : Step (Site δ) Unit := do
  let b ← current
  if b.shadow.isSome && !b.isDynamic then giveUpShadow

/-- The object made current. -/
def refreshObject : Attempt (Site δ) Unit :=
  refreshWith Location.gpuObject reserveObject loadObject releaseShadow

/-! ## 5. Entry points -/

/-- A location made current; only the two locations with storage can be. -/
def refreshCopy (l : Location) : Attempt (Site δ) Unit := do
  let b ← always current
  if !l.isLoadable then refuse .buffer (.notLoadable l b.id)
  else if l == Location.sysmem then refreshShadow
  else refreshObject

/-- The object made current, or the shadow where the attempt showed that there will be no
    object. -/
def refreshSomewhere : Attempt (Site δ) Unit := do
  let b ← always current
  if !b.objectAllowed then refreshShadow
  else
    match ← always refreshObject.outcome with
    | .ok () => pure ()
    | .error f =>
      let b ← always current
      if b.objectAllowed then throw f else refreshShadow

/-- Where the bytes of the buffer are. Content without bytes gets them first. -/
def authoritative : Attempt (Site δ) Address := do
  let b ← always current
  if b.locations.meets Location.sentinel then refreshSomewhere
  let b ← always current
  match b.address? with
  | some a => pure a
  | none => refuse .buffer (.unexpectedLocations b.locations b.id)

/-- The bytes of the shadow. -/
def shadowBytes : Attempt (Site δ) ByteArray := do
  let b ← always current
  match b.shadow with
  | some shadow => pure shadow
  | none => refuse .buffer (.noShadow b.id)

/-- The bytes of the buffer, read back through the device where they are in the object. -/
def content : Attempt (Site δ) ByteArray := do
  match ← authoritative with
  | .shadow => shadowBytes
  | .object handle offset => do
    let b ← always current
    let reply ← always (onDevice (Device.transfer (.host (Bytes.zeros b.size))
      (.object handle offset) [b.span] MapFlags.write))
    answer reply.outcome
    pure reply.host

/-- The bytes of the shadow, which is made current and stays from now on. -/
def keepShadow : Attempt (Site δ) ByteArray := do
  refreshShadow
  always pinShadow
  shadowBytes

end BufferCoherence.Site
