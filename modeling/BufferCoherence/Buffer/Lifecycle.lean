import BufferCoherence.Buffer.Residency

/-!
# The life of a buffer's object

Objects come and go while a buffer lives:

* `renameTo` renames the buffer: an object handed in replaces the one it had, and the users move
  to the new one before the old one is destroyed;
* `vacate` saves the content in the shadow and gives the object up, and `dropObject` does so for
  good;
* `destroy` ends the buffer, and `abandon` is what is left to do for a buffer that nobody ended.
-/

namespace BufferCoherence.Site

variable {δ : Type} [Device δ]

/-! ## 1. Renaming -/

/-- The users of one object moved to another, and the first object destroyed. -/
def replaceObject (previous next : BufferObject) : Step (Site δ) BufferObject := do
  let b ← current
  note (.renamed b.id previous.handle next.handle)
  let s ← get
  let (_, next, users) := previous.moveUsers next s.machine.users
  set { s with machine.users := users }
  onDevice (Device.freeObject previous.handle)
  pure next

/-- The buffer's own user entered into the registry of an object. -/
def enterOwnUser (o : BufferObject) : Step (Site δ) BufferObject := do
  let s ← get
  let (o, users) := o.enlist s.machine.users s.buffer.user
  set { s with machine.users := users }
  pure o

/-- An object handed in as the object of the buffer, in place of the one it had. -/
def renameTo (a : Placement) : Step (Site δ) Unit := do
  let b ← current
  let next := BufferObject.new a b.size
  let next ← match b.object with
    | some previous => replaceObject previous next
    | none => enterOwnUser next
  change fun b => { b.restartBarriers with object := some next }

/-! ## 2. Users -/

/-- A user registered on the object; the answer is whether there is one. -/
def enlistUser (u : UserId) : Step (Site δ) Bool := do
  let s ← get
  match s.buffer.object with
  | none => pure false
  | some o =>
    let (o, users) := o.enlist s.machine.users u
    set { s with buffer := { s.buffer with object := some o }, machine.users := users }
    pure true

/-- A user taken from the registry of the object. -/
def delistUser (u : UserId) : Step (Site δ) Unit := do
  let s ← get
  match s.buffer.object with
  | none => pure ()
  | some o =>
    let (o, users) := o.delist s.machine.users u
    set { s with buffer := { s.buffer with object := some o }, machine.users := users }

/-! ## 3. Giving the object up -/

/-- The content saved in the shadow. -/
def saveContent : Step (Site δ) Unit := do
  match ← refreshShadow.outcome with
  | .ok () => pure ()
  | .error f =>
    let b ← current
    note (.saveFailed b.id f)

/-- The content moved to the shadow, and the object given up. -/
def vacate : Step (Site δ) Unit := do
  let b ← current
  if b.object.isSome then
    saveContent
    declareStale Location.gpuObject
    removeObject
    change fun b => { b with dirty := b.dirty.clear, conversion := .fresh }

/-- The object given up for good. -/
def dropObject : Step (Site δ) Unit := do
  change fun b => { b with objectAllowed := false }
  vacate

/-! ## 4. The end -/

/-- What is left to do for a buffer that ends: an object that it still has is lost, and its own
    user is let go. -/
def abandon : Step (Site δ) Unit := do
  let b ← current
  match b.object with
  | some o => note (.leaked b.id o.handle)
  | none => pure ()
  changeUsers (·.letGo b.user)

/-- A mapping of the object ended, without anything written. -/
def dropMapping : Step (Site δ) Unit := do
  let b ← current
  change fun b => { b with mapBase := none }
  match b.mapBase, b.object with
  | some _, some o => onDevice (Device.closeMapping o.handle [])
  | _, _ => pure ()

/-- The buffer ended; its object goes back to the device. -/
def destroy : Step (Site δ) Unit := do
  let b ← current
  note (.destroying b.id)
  dropMapping
  removeObject
  abandon

end BufferCoherence.Site
