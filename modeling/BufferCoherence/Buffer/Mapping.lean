import BufferCoherence.Buffer.Lifecycle

/-!
# Mapping

A mapped range is written and read in place, in the shadow or in the storage of the object:

* a write that may not throw content away goes through the shadow, and so does a read where the
  shadow is current; any other mapping goes through the object, if there may be one;
* mappings nest; the object is mapped by the outermost one alone, and the last `unmap` flushes the
  spans recorded meanwhile;
* a mapping whose address is not aligned is given up: a buffer whose content changes often does
  without an object from then on, and any other one is mapped through its shadow.

A mapping that throws content away counts the whole buffer as changed, whatever its range.
-/

namespace BufferCoherence

/-- The storage that a mapping points into. -/
inductive MappedStorage where
  | shadow
  | object (handle : ObjectHandle)
deriving DecidableEq

/-- A mapped range: where it starts in the storage, and how long it is. -/
structure Mapping where
  storage : MappedStorage
  position : Nat
  size : Nat
deriving DecidableEq

/-- A mapping goes through the shadow. -/
def Buffer.mapsShadow (b : Buffer) (flags : MapFlags) : Bool :=
  let write := flags.has MapFlags.write
  (write && !flags.meets (MapFlags.noOverwrite ∪ MapFlags.discard)) ||
    (!write && b.locations.has Location.sysmem) || b.pinned || !b.objectAllowed

/-- The mapping of a range, from what is mapped already or else from the shadow. -/
def Buffer.mapping? (b : Buffer) (offset size : Nat) : Option Mapping :=
  match b.mapBase with
  | some base => some ⟨.object base.handle, base.position + offset, size⟩
  | none => if b.shadow.isSome then some ⟨.shadow, offset, size⟩ else none

namespace Site

variable {δ : Type} [Device δ]

/-! ## 1. Mapping -/

/-- The object mapped at a position that is not aligned is unmapped, and the buffer goes on
    without mapping its object. -/
def mapWithoutObject (handle : ObjectHandle) (flags : MapFlags) (dirty : ByteRange) :
    Attempt (Site δ) Unit := do
  let b ← always current
  note (.misaligned (max b.settings.resourceAlignment 1))
  always (onDevice (Device.closeMapping handle []))
  always (change fun b => { b with mapBase := none })
  if b.isDynamic then
    note (.dynamicObjectDropped b.id)
    always dropObject
  else
    note (.doubleBuffered b.id)
    refreshShadow
    always pinShadow
    if flags.has MapFlags.write then
      always (declareStaleIn (Location.all \ Location.sysmem) dirty.offset dirty.size)

/-- The object mapped as a whole. -/
def openMapping (flags : MapFlags) (dirty : ByteRange) : Attempt (Site δ) Unit := do
  let b ← always current
  match b.object with
  | none => refuse .buffer (.noObjectToMap b.id)
  | some o => do
    let position ← tryDevice (Device.openMapping o.handle o.offset b.size flags)
    if position % max b.settings.resourceAlignment 1 == 0 then
      always (change fun b => { b with mapBase := some ⟨o.handle, position⟩ })
    else mapWithoutObject o.handle flags dirty

/-- A mapping prepared in the shadow. -/
def openShadow (flags : MapFlags) (dirty : ByteRange) : Attempt (Site δ) Unit := do
  refreshShadow
  if flags.has MapFlags.write then
    always (declareStaleIn (Location.all \ Location.sysmem) dirty.offset dirty.size)

/-- The object made current without its bytes, which are thrown away. -/
def discardIntoObject : Attempt (Site δ) Unit := do
  if ← always reserveObject then always (declareCurrent Location.gpuObject) else throw .outOfMemory

/-- A mapping for writing leaves the object as the only current copy. -/
def claimObject (flags : MapFlags) (dirty : ByteRange) : Step (Site δ) Unit := do
  if flags.has MapFlags.write then
    declareStale (Location.all \ Location.gpuObject)
    markDirty dirty.offset dirty.size

/-- A mapping prepared in the object. -/
def openObject (flags : MapFlags) (dirty : ByteRange) : Attempt (Site δ) Unit := do
  let discard := flags.has MapFlags.discard
  if discard then discardIntoObject else refreshObject
  always (claimObject flags dirty)
  let b ← always current
  if discard && b.shadow.isSome then always giveUpShadow
  if b.mapCount == 1 then openMapping flags dirty

/-- A range prepared and mapped. -/
def mapPrepared (offset size : Nat) (flags : MapFlags) : Attempt (Site δ) Mapping := do
  let dirty : ByteRange := if flags.has MapFlags.discard then ⟨0, 0⟩ else ⟨offset, size⟩
  let b ← always current
  if b.mapsShadow flags then openShadow flags dirty else openObject flags dirty
  let b ← always current
  match b.mapping? offset size with
  | none => refuse .buffer (.noMemoryToMap b.id)
  | some mapping => do
    note (.memoryReturned offset)
    pure mapping

/-- A range mapped. A failure leaves the number of mappings as it was. -/
def map (offset size : Nat) (flags : MapFlags) : Attempt (Site δ) Mapping := do
  let b ← always current
  if !b.holds offset size then refuse .buffer (.mapOutside offset size b.id b.size)
  else
    always (change fun b => { b with mapCount := b.mapCount + 1 })
    match ← always (mapPrepared offset size flags).outcome with
    | .ok mapping => pure mapping
    | .error f =>
      always (change fun b => { b with mapCount := b.mapCount - 1 })
      throw f

/-! ## 2. Unmapping -/

/-- The mapping of the object ended, if there is one; what was recorded as changed is flushed. -/
def flushMapping : Step (Site δ) Unit := do
  let b ← current
  if b.mapBase.isSome then
    change fun b => { b with mapBase := none }
    match b.object with
    | some o => onDevice (Device.closeMapping o.handle b.dirty.spans)
    | none => pure ()
    change fun b => { b with dirty := b.dirty.clear }

/-- One mapping released; the last one flushes. -/
def unmap : Step (Site δ) Unit := do
  let b ← current
  if b.mapCount == 0 then note (.unmatchedUnmap .buffer)
  else
    change fun b => { b with mapCount := b.mapCount - 1 }
    if b.mapCount > 1 then note (.unmapIgnored (b.mapCount - 1)) else flushMapping

/-! ## 3. Through a mapping -/

/-- The bytes of a mapped range. -/
def mappedBytes (s : Site δ) (m : Mapping) : ByteArray :=
  match m.storage with
  | .shadow => (s.buffer.shadow.getD ByteArray.empty).extract m.position (m.position + m.size)
  | .object h => Device.peek s.machine.device h m.position m.size

/-- Bytes written through a mapping. -/
def writeMapped (m : Mapping) (data : ByteArray) : Step (Site δ) Unit :=
  match m.storage with
  | .shadow => change fun b => { b with shadow := b.shadow.map (Bytes.splice · m.position data) }
  | .object h => modify fun s =>
    { s with machine.device := Device.poke h m.position data s.machine.device }

/-- A range mapped, written and unmapped. -/
def write (offset : Nat) (data : ByteArray) (flags : MapFlags) : Attempt (Site δ) Unit := do
  let m ← map offset data.size (flags ∪ MapFlags.write)
  always (writeMapped m data)
  always unmap

/-- A range mapped, read and unmapped. -/
def read (offset size : Nat) : Attempt (Site δ) ByteArray := do
  let m ← map offset size MapFlags.read
  let s ← get
  let bytes := s.mappedBytes m
  always unmap
  pure bytes

end Site

end BufferCoherence
