import BufferCoherence.Buffer.Mapping

/-!
# Copying

Bytes copied into a buffer. A copy goes to wherever the bytes of the buffer are; the other copies
become stale in the run that was written:

* `copyRun` is the one way in; `storeBytes`, `applyUpload` and `Pair.copy` choose the source;
* `moveRun` moves a run inside the buffer; the two runs may overlap;
* an upload object is copied, or becomes the object of the buffer (`Upload.rename`), or is the
  object of the buffer already.
-/

namespace BufferCoherence

/-- An object that brings new content. -/
structure Upload where
  placement : Placement
  /-- It becomes the object of the buffer, instead of being copied. -/
  rename : Bool
  /-- It is mapped, and what was written has to be flushed. -/
  mapped : Bool
deriving DecidableEq

/-- The object of the buffer is the one of a handle. -/
def Buffer.usesObject (b : Buffer) (h : ObjectHandle) : Bool := b.object.any (·.handle == h)

namespace Site

variable {δ : Type} [Device δ]

/-! ## 1. Into one buffer -/

/-- A run that leaves the buffer is refused. -/
def requireRun (offset size : Nat) : Attempt (Site δ) Unit := do
  let b ← always current
  if !b.holds offset size then refuse .buffer (.rangeOutside offset size b.id b.size)

/-- The bytes of a run, copied from a source that starts at its first byte. -/
def copyRun (offset : Nat) (source : TransferSource) (size : Nat) :
    Attempt (Site δ) Unit := do
  requireRun offset size
  let b ← always current
  let flags :=
    if offset == 0 && size == b.size then MapFlags.write ∪ MapFlags.discard else MapFlags.write
  let address ← authoritative
  match address with
  | .object handle base => fillObject handle (base + offset) source [⟨0, size⟩] flags
  | .shadow => fillShadow offset size source flags
  always (declareStaleIn (Location.all \ address.location) offset size)

/-- The bytes of a run, given by the host. -/
def storeBytes (offset : Nat) (data : ByteArray) : Attempt (Site δ) Unit :=
  copyRun offset (.host data) data.size

/-- A run of the shadow moved inside it. -/
def moveInShadow (offset sourceOffset size : Nat) : Attempt (Site δ) Unit := do
  let b ← always current
  match b.shadow with
  | none => refuse .buffer (.noShadow b.id)
  | some shadow =>
    let run := shadow.extract sourceOffset (sourceOffset + size)
    always (change fun b => { b with shadow := some (Bytes.splice shadow offset run) })

/-- A run of the buffer copied inside it. -/
def moveRun (offset sourceOffset size : Nat) : Attempt (Site δ) Unit := do
  requireRun offset size
  requireRun sourceOffset size
  let address ← authoritative
  match address with
  | .object handle base =>
    fillObject handle (base + offset) (.object handle (base + sourceOffset)) [⟨0, size⟩]
      MapFlags.write
  | .shadow => moveInShadow offset sourceOffset size
  always (declareStaleIn (Location.all \ address.location) offset size)

/-! ## 2. From an upload object -/

/-- An upload object taken as the object of the buffer, with what it holds. -/
def takeOver (a : Placement) : Step (Site δ) Unit := do
  renameTo a
  declareCurrent Location.gpuObject
  declareStale (Location.all \ Location.gpuObject)

/-- The bytes of a run, brought by an upload object. -/
def applyUpload (upload : Upload) (offset size : Nat) : Attempt (Site δ) Unit := do
  requireRun offset size
  let handle := upload.placement.handle
  if upload.rename then always (takeOver upload.placement)
  let b ← always current
  if b.usesObject handle then
    if upload.mapped then
      always (onDevice (Device.closeMapping handle [⟨offset, size⟩]))
  else copyRun offset (.object handle upload.placement.offset) size

end Site

/-! ## 3. From another buffer -/

/-- Two buffers on one machine: one is copied from, the other one to. -/
structure Pair (δ : Type) where
  target : Buffer
  source : Buffer
  machine : Machine δ

namespace Pair

variable {δ : Type} [Device δ]

/-- An attempt on the buffer that is copied to. -/
def onTarget {α : Type} (a : Attempt (Site δ) α) : Attempt (Pair δ) α :=
  a.onPart (fun p => ⟨p.target, p.machine⟩)
    fun s p => { p with target := s.buffer, machine := s.machine }

/-- An attempt on the buffer that is copied from. -/
def onSource {α : Type} (a : Attempt (Site δ) α) : Attempt (Pair δ) α :=
  a.onPart (fun p => ⟨p.source, p.machine⟩)
    fun s p => { p with source := s.buffer, machine := s.machine }

end Pair

/-- A run of the buffer as a source of transfers. -/
def Site.runSource {δ : Type} [Device δ] (offset size : Nat) :
    Attempt (Site δ) TransferSource := do
  match ← authoritative with
  | .object handle base => pure (.object handle (base + offset))
  | .shadow => do
    let shadow ← shadowBytes
    pure (.host (shadow.extract offset (offset + size)))

/-- A run of one buffer copied to another. -/
def Pair.copy {δ : Type} [Device δ] (offset sourceOffset size : Nat) :
    Attempt (Pair δ) Unit := do
  onTarget (Site.requireRun offset size)
  onSource (Site.requireRun sourceOffset size)
  let source ← onSource (Site.runSource sourceOffset size)
  onTarget (Site.copyRun offset source size)

end BufferCoherence
