import BufferCoherence.Journal.Journal

/-!
# Analysis of vertex layouts

From the layout of a draw to the conversion map of one buffer. The analysis goes through the
attribute slots in order (`Pass.visit`); each attribute that the buffer feeds is either tagged in
the map or left alone (`Treatment`). Tags of an earlier layout stay until an attribute of the new
one covers their bytes. Two attributes that are tagged with different strides end the pass, and
the map stays what it was.

`ConversionState.analyse` answers whether the map changed, and what there is to tell.
-/

namespace BufferCoherence

/-! ## 1. The conversion state of a buffer -/

/-- The conversion map of a buffer, and whether a layout was ever analysed. -/
structure ConversionState where
  map : Option ConversionMap
  analysed : Bool
deriving DecidableEq

/-- No map, nothing analysed. -/
def ConversionState.fresh : ConversionState := ⟨none, false⟩

/-! ## 2. One attribute -/

/-- What the analysis does with an attribute. -/
inductive Treatment where
  /-- Its bytes are tagged. -/
  | tag (fixup : ByteFixup)
  /-- A transformed position in a format that cannot be converted. -/
  | unexpected
  /-- Nothing. -/
  | skip
deriving DecidableEq

/-- The treatment of an attribute. Only the position slot can hold a transformed position, and an
    attribute that needs no fixup matters only where a map exists. -/
def treatment (fixup : FixupFlags) (transformed mapped : Bool) (slot : AttributeSlot)
    (format : VertexFormat) : Treatment :=
  if fixup.has FixupFlags.color && format == .b8g8r8a8Unorm then .tag .color
  else if slot == .position && fixup.has FixupFlags.position && transformed then
    if format == .r32g32b32a32Float then .tag .position else .unexpected
  else if mapped then .tag .keep
  else .skip

/-- A pass over the slots of a layout. -/
structure Pass where
  map : Option ConversionMap
  /-- The stride of the attributes tagged so far; zero while there is none. -/
  stride : Nat
  /-- The map differs from the one that the pass started with. -/
  changed : Bool
  /-- Two attributes have different strides; the pass is over. -/
  conflict : Bool
  /-- What there is to tell, the last first. -/
  told : List Notice

namespace Pass

/-- The pass with one more notice. -/
def tell (p : Pass) (n : Notice) : Pass := { p with told := n :: p.told }

/-- One byte of the vertex tagged. -/
def tagByte (p : Pass) (m : ConversionMap) (i : Nat) (f : ByteFixup) : Pass :=
  if m.tag i = f then p
  else { p with map := some (m.setTag i f), changed := true }.tell (.tagChanged i (m.tag i) f)

/-- The bytes of an attribute tagged; an attribute that leaves the vertex goes on at its start. -/
def tagBytes (p : Pass) (e : VertexAttribute) (f : ByteFixup) : Pass :=
  (List.range e.format.width).foldl (fun p i =>
    match p.map with
    | some m => p.tagByte m ((e.offset % m.stride + i) % m.stride) f
    | none => p) p

/-- The stride of an attribute taken over: an attribute without a stride relies on the map as it
    is, and a stride that the map does not have replaces the map by a plain one. -/
def takeStride (p : Pass) (e : VertexAttribute) : Pass :=
  if e.stride = 0 then p.tell (.strideZero e.format)
  else if p.stride ≠ 0 ∧ e.stride ≠ p.stride then
    { p with conflict := true }.tell (.stridesConflict e.stride p.stride)
  else
    let p := { p with stride := e.stride }
    if p.map.map (·.stride) = some e.stride then p
    else
      { p with map := some (.plain e.stride), changed := true }.tell (.strideChanged e.stride)

/-- An attribute tagged with a fixup. -/
def tagAttribute (p : Pass) (e : VertexAttribute) (f : ByteFixup) : Pass :=
  let p := p.takeStride e
  if p.conflict then p
  else match p.map with
    | none => p.tell (.strideUnknown e.format)
    | some _ => p.tagBytes e f

/-- An attribute slot visited. -/
def visit (buffer : BufferId) (layout : VertexLayout) (fixup : FixupFlags) (p : Pass)
    (slot : AttributeSlot) : Pass :=
  if p.conflict then p
  else match layout.element slot with
    | none => p
    | some e =>
      if e.buffer ≠ buffer then p
      else match treatment fixup layout.transformed p.map.isSome slot e.format with
        | .tag f => p.tagAttribute e f
        | .unexpected => p.tell (.formatUnexpected e.format)
        | .skip => p

/-- A pass over all slots, starting from a map. -/
def run (buffer : BufferId) (layout : VertexLayout) (fixup : FixupFlags)
    (map : Option ConversionMap) : Pass :=
  AttributeSlot.all.foldl (visit buffer layout fixup) ⟨map, 0, false, false, []⟩

/-- The map is of no use: the pass tagged nothing, or no byte needs a fixup. -/
def mapUnused (p : Pass) : Bool :=
  match p.map with
  | some m => p.stride = 0 || !m.hasFixup
  | none => false

/-- The pass with a map of no use removed. -/
def dropUnused (p : Pass) (buffer : BufferId) : Pass :=
  if p.mapUnused then
    let p := if p.stride = 0 && !p.changed then p.tell (.mapOrphaned buffer) else p
    { p with map := none, changed := true }
  else p

end Pass

/-! ## 3. The analysis -/

/-- The answer of an analysis. -/
structure Analysis where
  conversion : ConversionState
  /-- The map changed. -/
  changed : Bool
  /-- What there is to tell, in order. -/
  notices : List Notice

namespace ConversionState

/-- The layout of a draw analysed for one buffer. With a static declaration only the first layout
    counts; with no fixup to make the map goes away. -/
def analyse (c : ConversionState) (buffer : BufferId) (layout : VertexLayout)
    (fixup : FixupFlags) (staticDecl : Bool) : Analysis :=
  if c.analysed && staticDecl then ⟨c, false, []⟩
  else if fixup.isEmpty then ⟨⟨none, true⟩, c.map.isSome, [.noFixup]⟩
  else
    let p := Pass.run buffer layout fixup c.map
    if p.conflict then ⟨⟨c.map, true⟩, false, (p.tell (.analysisSkipped buffer)).told.reverse⟩
    else
      let p := p.dropUnused buffer
      let p := if p.changed then p.tell (.mapChanged buffer) else p
      ⟨⟨p.map, true⟩, p.changed, p.told.reverse⟩

end ConversionState

end BufferCoherence
