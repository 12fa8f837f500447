import BufferCoherence.Object.Slots
import BufferCoherence.Ring

/-!
# Workspaces

A machine with buffers, rings and users under numbers of the client's choice. Each operation names
the slots it works on; what is refused because of the slots themselves is told apart from the
failures of the library (`Refusal`).

The mappings of a buffer are handed out by number too. A mapping points into storage that may go
away while the mapping is outstanding; from then on it is stale, also if storage comes back. Nothing
is read or written through a stale mapping.
-/

namespace BufferCoherence

/-! ## 1. State -/

/-- A mapping that was handed out, and whether its storage went away since. -/
structure HeldMapping where
  mapping : Mapping
  stale : Bool
deriving DecidableEq

/-- A buffer with its outstanding mappings, the first one first. -/
structure HeldBuffer where
  buffer : Buffer
  mappings : List HeldMapping

/-- A machine with what lives on it. -/
structure Workspace (δ : Type) where
  machine : Machine δ
  /-- The settings for what is created without settings of its own. -/
  settings : Settings
  buffers : Table HeldBuffer
  rings : Table Ring
  users : Table UserId

/-- Why an operation on a workspace did not come about. -/
inductive Refusal where
  | noBuffer
  | noRing
  | staleMapping
  /-- A buffer cannot be copied from itself as if it were another one. -/
  | sameBuffer
  | failed (failure : Failure)
deriving DecidableEq

/-- A request to a workspace. -/
abbrev Request (δ : Type) := ExceptT Refusal (Step (Workspace δ))

namespace Workspace

variable {δ α : Type}

/-- A workspace without buffers. -/
def new (device : δ) (settings : Settings) : Workspace δ :=
  ⟨.new device, settings, .empty, .empty, .empty⟩

/-- The users, in their slots. -/
def userSlots (w : Workspace δ) : UserSlots := ⟨w.users, w.machine.users⟩

/-- The users replaced. -/
def setUserSlots (w : Workspace δ) (s : UserSlots) : Workspace δ :=
  { w with users := s.slots, machine.users := s.cells }

/-- A buffer of a slot replaced. -/
def setBuffer (w : Workspace δ) (slot : Nat) (b : HeldBuffer) : Workspace δ :=
  { w with buffers := w.buffers.insert slot b }

end Workspace

namespace Request

variable {δ α : Type}

/-- The outcome of an operation, as a value. -/
def outcome (t : Request δ α) : Step (Workspace δ) (Except Refusal α) := t.run

/-- A step on the machine. -/
def onMachine (s : Step (Machine δ) α) : Request δ α :=
  ExceptT.lift (s.onPart (·.machine) fun machine w => { w with machine })

/-- A step of the device. -/
def onDevice (s : Step δ α) : Request δ α :=
  onMachine (s.onPart (·.device) fun device m => { m with device })

/-- A failure of the library as a refusal. -/
def settled (outcome : Except Failure α) : Request δ α :=
  match outcome with
  | .ok a => pure a
  | .error f => throw (.failed f)

/-- An attempt of the device. -/
def tryDevice (a : Attempt δ α) : Request δ α := do settled (← onDevice a.run)

/-! ## 2. Users -/

/-- The users changed. -/
def onUsers (f : UserSlots → UserSlots) : Request δ Unit :=
  modify fun w => w.setUserSlots (f w.userSlots)

/-- An operation for the user of a slot, or for one that nobody keeps. -/
def withUser (slot : Nat) (t : UserId → Request δ α) : Request δ α := do
  let w ← get
  let (u, users) := w.userSlots.lend slot
  set (w.setUserSlots users)
  let outcome ← ExceptT.lift (t u).outcome
  onUsers (·.giveBack u)
  ExceptT.mk (pure outcome)

/-! ## 3. Buffers -/

/-- The buffer of a slot. -/
def held (slot : Nat) : Request δ HeldBuffer := do
  match (← get).buffers.get? slot with
  | some b => pure b
  | none => throw .noBuffer

/-- A step on a buffer that is in no slot. -/
def onLoose (b : Buffer) (s : Step (Site δ) α) : Request δ (α × Buffer) :=
  onMachine fun machine => do
    let (a, site) ← s ⟨b, machine⟩
    pure ((a, site.buffer), site.machine)

/-- A step on the buffer of a slot. -/
def onBuffer (slot : Nat) (s : Step (Site δ) α) : Request δ α := do
  let b ← held slot
  let (a, buffer) ← onLoose b.buffer s
  modify (·.setBuffer slot { b with buffer })
  pure a

/-- An attempt on the buffer of a slot. -/
def tryBuffer (slot : Nat) (a : Attempt (Site δ) α) : Request δ α := do
  settled (← onBuffer slot a.run)

variable [Device δ]

/-- A buffer created in a slot. The buffer that was there is abandoned once the new one exists. -/
def create (slot : Nat) (request : BufferRequest) (data : Option ByteArray)
    (settings : Option Settings) : Request δ Buffer := do
  let w ← get
  let b ← settled (← onMachine (Machine.create request data (settings.getD w.settings)).run)
  modify (·.setBuffer slot ⟨b, []⟩)
  match w.buffers.get? slot with
  | some previous => discard (onLoose previous.buffer (Site.abandon : Step (Site δ) Unit))
  | none => pure ()
  pure b

/-- The buffer of a slot ended by a step; an empty slot stays empty. -/
def endBuffer (slot : Nat) (last : Step (Site δ) Unit) : Request δ Unit := do
  let w ← get
  match w.buffers.get? slot with
  | none => pure ()
  | some b =>
    set { w with buffers := w.buffers.erase slot }
    discard (onLoose b.buffer last)

/-- A run of one buffer copied to another one. -/
def copyBetween (slot other offset sourceOffset size : Nat) : Request δ Unit := do
  let target ← held slot
  let source ← held other
  if slot = other then throw .sameBuffer
  else
    let (outcome, p) ← onMachine fun machine => do
      let (outcome, p) ← (Pair.copy offset sourceOffset size : Attempt (Pair δ) Unit).run
        ⟨target.buffer, source.buffer, machine⟩
      pure ((outcome, p), p.machine)
    modify fun w => (w.setBuffer slot { target with buffer := p.target }).setBuffer other
      { source with buffer := p.source }
    settled outcome

/-! ## 4. Mappings -/

/-- The storage of a mapping is there. -/
def alive (device : δ) (b : Buffer) (m : Mapping) : Bool :=
  match m.storage with
  | .shadow => b.shadow.isSome
  | .object h => Device.live device h

/-- The object that the outermost mapping points into is gone. -/
def dangling (device : δ) (b : Buffer) : Bool :=
  match b.mapBase with
  | some base => b.mapCount > 0 && !Device.live device base.handle
  | none => false

/-- A buffer whose mapped object is gone is left alone. -/
def guardMapping (slot : Nat) : Request δ Unit := do
  let b ← held slot
  if dangling (← get).machine.device b.buffer then throw .staleMapping

/-- A range mapped; the mapping is handed out under the next number. -/
def map (slot offset size : Nat) (flags : MapFlags) : Request δ Mapping := do
  guardMapping slot
  let m ← tryBuffer slot (Site.map offset size flags)
  let b ← held slot
  modify (·.setBuffer slot { b with mappings := b.mappings ++ [⟨m, false⟩] })
  pure m

/-- A mapping that was handed out and is not stale. -/
def mapping (slot number : Nat) : Request δ Mapping := do
  let b ← held slot
  match b.mappings[number]? with
  | some ⟨m, false⟩ => pure m
  | _ => throw .staleMapping

/-- The bytes of a mapping. -/
def peek (slot number : Nat) : Request δ ByteArray := do
  let m ← mapping slot number
  onBuffer slot (do return (← get).mappedBytes m)

/-- Bytes written into a mapping from a place in it on; what does not fit is cut off. -/
def poke (slot number start : Nat) (data : ByteArray) : Request δ Unit := do
  let m ← mapping slot number
  let data := Bytes.take data (m.size - start)
  if !data.isEmpty then
    onBuffer slot (Site.writeMapped { m with position := m.position + start } data)

/-- Bytes written to a buffer. -/
def write (slot offset : Nat) (data : ByteArray) (flags : MapFlags) : Request δ Unit := do
  guardMapping slot
  tryBuffer slot (Site.write offset data flags)

/-- Bytes read from a buffer. -/
def read (slot offset size : Nat) : Request δ ByteArray := do
  guardMapping slot
  tryBuffer slot (Site.read offset size)

/-- The mappings of a buffer looked through: those whose storage is gone are stale from now on, and
    a buffer that is not mapped has none. -/
def reviewed (device : δ) (b : HeldBuffer) : HeldBuffer :=
  if b.buffer.mapCount = 0 then { b with mappings := [] }
  else { b with mappings := b.mappings.map fun m =>
    { m with stale := m.stale || !alive device b.buffer m.mapping } }

/-- All mappings looked through. -/
def review : Request δ Unit :=
  modify fun w => { w with buffers := w.buffers.map (reviewed w.machine.device) }

/-! ## 5. Users of buffers -/

/-- The object of a buffer owns the user of a slot; `none` while there is no object. -/
def owns (slot user : Nat) : Request δ (Option Bool) :=
  withUser user fun u => onBuffer slot do
    let s ← get
    return s.buffer.object.map (·.owns s.machine.users u)

/-- The object of a buffer shown to the user of a slot; `none` while there is no object. -/
def refreshUser (slot user : Nat) : Request δ (Option ObjectView) :=
  withUser user fun u => onBuffer slot do
    let s ← get
    match s.buffer.object with
    | none => return none
    | some o =>
      let (view, users) := o.refresh s.machine.users u
      set { s with machine.users := users }
      return some view

/-! ## 6. Rings -/

/-- A new ring in a slot. The buffer of the ring that was there is abandoned. -/
def newRing (slot : Nat) (bind : BindFlags) (settings : Option Settings) : Request δ Unit := do
  let w ← get
  set { w with rings := w.rings.insert slot (.new bind (settings.getD w.settings)) }
  match (w.rings.get? slot).bind (·.buffer) with
  | some b => discard (onLoose b (Site.abandon : Step (Site δ) Unit))
  | none => pure ()

/-- A step on the ring of a slot. -/
def onRing (slot : Nat) (s : Step (RingSite δ) α) : Request δ α := do
  match (← get).rings.get? slot with
  | none => throw .noRing
  | some ring =>
    let (a, ring) ← onMachine fun machine => do
      let (a, site) ← s ⟨ring, machine⟩
      pure ((a, site.ring), site.machine)
    modify fun w => { w with rings := w.rings.insert slot ring }
    pure a

/-- An attempt on the ring of a slot. -/
def tryRing (slot : Nat) (a : Attempt (RingSite δ) α) : Request δ α := do
  settled (← onRing slot a.run)

/-- A region mapped in a ring, and its first bytes written. -/
def mapRing (slot size stride : Nat) (data : ByteArray) : Request δ RingRegion :=
  tryRing slot do
    let region ← RingSite.map size stride
    discard (always (RingSite.onBuffer (Site.writeMapped region.mapping (Bytes.take data size))))
    pure region

/-- Bytes read from the buffer of a ring; `none` while there is no buffer. -/
def readRing (slot offset size : Nat) : Request δ (Option ByteArray) := do
  match ← onRing slot (RingSite.onBuffer (Site.read offset size).run) with
  | none => pure none
  | some outcome => some <$> settled outcome

/-- The ring of a slot ended; an empty slot stays empty. -/
def destroyRing (slot : Nat) : Request δ Unit := do
  match (← get).rings.get? slot with
  | none => pure ()
  | some _ =>
    onRing slot RingSite.destroy
    modify fun w => { w with rings := w.rings.erase slot }

end Request

end BufferCoherence
