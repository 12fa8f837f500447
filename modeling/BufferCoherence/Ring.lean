import BufferCoherence.Buffer.Creation

/-!
# Streaming rings

A ring hands out regions of one buffer for data that a single draw reads. Regions follow one
another; a region that does not fit behind the others throws the whole buffer away and starts at
zero (`Ring.place`). A request larger than the buffer replaces the buffer by a bigger one first.

Only one region is mapped at a time.
-/

namespace BufferCoherence

/-- A ring. The buffer is created with the first region. -/
structure Ring where
  buffer : Option Buffer
  bind : BindFlags
  /-- Where the last region ended. -/
  position : Nat
  mapped : Bool
  settings : Settings

/-- A region handed out. -/
structure RingRegion where
  position : Nat
  policy : WritePolicy
  mapping : Mapping
deriving DecidableEq

namespace Ring

/-- A ring without a buffer. -/
def new (bind : BindFlags) (settings : Settings) : Ring := ⟨none, bind, 0, false, settings⟩

/-- The size of the buffer; zero while there is none. -/
def capacity (r : Ring) : Nat := (r.buffer.map (·.size)).getD 0

/-- The first multiple of a stride from a position on; without a stride, the position itself. -/
def alignUp (position stride : Nat) : Nat :=
  let stride := max stride 1
  position + (stride - position % stride) % stride

/-- Where a region goes, and how it may be written. -/
def place (r : Ring) (size stride : Nat) : Nat × WritePolicy :=
  let start := alignUp r.position stride
  if r.capacity < start + size then (0, .discard) else (start, .noOverwrite)

/-- The size of the buffer that has room for a region. -/
def grownSize (r : Ring) (size : Nat) : Nat :=
  max r.settings.streamingMinSize (max (r.capacity * 2) size)

/-- The buffer that a ring asks for. -/
def bufferRequest (r : Ring) (size : Nat) : BufferRequest :=
  ⟨size, Usage.dynamic, r.bind, Access.gpu ∪ Access.mapWrite, 0⟩

end Ring

/-- A ring and the machine it lives on. -/
structure RingSite (δ : Type) where
  ring : Ring
  machine : Machine δ

namespace RingSite

variable {δ : Type} [Device δ]

/-! ## 1. The buffer of a ring -/

/-- The ring as it is now. -/
def current : Step (RingSite δ) Ring := do return (← get).ring

/-- The ring changed. -/
def change (f : Ring → Ring) : Step (RingSite δ) Unit :=
  modify fun s => { s with ring := f s.ring }

/-- An attempt of the machine. -/
def onMachine {α : Type} (a : Attempt (Machine δ) α) : Attempt (RingSite δ) α :=
  a.onPart (·.machine) fun machine s => { s with machine }

/-- A step on the buffer of the ring; `none` while there is no buffer. -/
def onBuffer {α : Type} (s : Step (Site δ) α) : Step (RingSite δ) (Option α) := do
  let r ← get
  match r.ring.buffer with
  | none => pure none
  | some b => do
    let (a, site) ← s ⟨b, r.machine⟩
    set { r with ring := { r.ring with buffer := some site.buffer }, machine := site.machine }
    pure (some a)

/-- The buffer of the ring destroyed. -/
def destroyBuffer : Step (RingSite δ) Unit := do
  discard (onBuffer Site.destroy)
  change fun r => { r with buffer := none }

/-- The buffer of the ring replaced by a bigger one. -/
def enlarge (size : Nat) : Attempt (RingSite δ) Unit := do
  let r ← always current
  note (.ringGrows r.capacity size)
  let b ← onMachine (Machine.create (r.bufferRequest size) none r.settings)
  always destroyBuffer
  always (change fun r => { r with buffer := some b, position := 0 })

/-! ## 2. Regions -/

/-- A region mapped in the buffer of the ring. -/
def mapPlaced (position size : Nat) (policy : WritePolicy) : Attempt (RingSite δ) Mapping := do
  match ← always (onBuffer (Site.map position size (MapFlags.write ∪ policy.flags)).outcome) with
  | none => refuse .streaming .ringWithoutStorage
  | some outcome => answer outcome

/-- A region of `size` bytes mapped, its start a multiple of the stride. -/
def map (size stride : Nat) : Attempt (RingSite δ) RingRegion := do
  let r ← always current
  if r.mapped then refuse .streaming .ringMapped
  else if size = 0 then refuse .streaming .emptyRequest
  else
    if r.capacity < size then enlarge (r.grownSize size)
    let r ← always current
    let (position, policy) := r.place size stride
    let mapping ← mapPlaced position size policy
    note (.ringMapped size position policy)
    always (change fun r => { r with position := position + size, mapped := true })
    pure ⟨position, policy, mapping⟩

/-- The mapped region released. -/
def unmap : Step (RingSite δ) Unit := do
  let r ← current
  if !r.mapped then note (.unmatchedUnmap .streaming)
  else
    discard (onBuffer Site.unmap)
    change fun r => { r with mapped := false }

/-- Bytes written to a region of their own; the answer is where it starts. -/
def append (data : ByteArray) (stride : Nat) : Attempt (RingSite δ) Nat := do
  let region ← map data.size stride
  discard (always (onBuffer (Site.writeMapped region.mapping data)))
  always unmap
  pure region.position

/-- The ring ended. -/
def destroy : Step (RingSite δ) Unit := do
  let r ← current
  if r.mapped then unmap
  destroyBuffer

end RingSite

end BufferCoherence
