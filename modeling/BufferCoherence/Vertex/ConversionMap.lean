import BufferCoherence.Bytes
import BufferCoherence.DirtySpans

/-!
# Conversion maps

A conversion map says for each byte of a vertex which fixup it needs. This file holds the two
fixups and the conversion of vertices:

* colors have red and blue swapped (`swapRedBlue`);
* transformed positions are brought back to homogeneous coordinates (`dehomogenize`);
* `ConversionMap.plan` is the walk over one vertex: where a fixup starts, and which one. It
  depends on the map alone, so that every vertex is converted the same way;
* `convert` goes through the vertices that each range touches, range after range. A vertex
  that two ranges touch is converted once for each.
-/

namespace BufferCoherence

/-! ## 1. Fixups of one attribute -/

/-- The fixup of one byte of a vertex. -/
inductive ByteFixup where
  | keep
  | color
  | position
deriving DecidableEq

namespace ByteFixup

/-- The name a fixup is written with. -/
def name : ByteFixup → String
  | .keep => "None"
  | .color => "ColorSwizzle"
  | .position => "PositionDehomogenize"

/-- The bytes that the walk over a vertex moves on by. -/
def width : ByteFixup → Nat
  | .keep => 4
  | .color => 4
  | .position => 16

theorem width_pos (f : ByteFixup) : 0 < f.width := by cases f <;> decide

end ByteFixup

/-- Four bytes with the first and the third exchanged. -/
def swapRedBlue (group : ByteArray) : ByteArray :=
  let w : UInt32 := Bytes.word32 group 0
  let first : UInt32 := w &&& 0x000000ff
  let third : UInt32 := w &&& 0x00ff0000
  let others : UInt32 := w &&& 0xff00ff00
  Bytes.ofWord32 (others ||| (third >>> 16) ||| (first <<< 16))

/-- A pattern of all-one exponent bits with a fraction: not a number. -/
def isNaN (w : UInt32) : Bool := 0x7f800000 < (w &&& 0x7fffffff)

/-- A pattern that is not a number, marked as quiet. -/
def quiet (w : UInt32) : UInt32 := w ||| 0x00400000

/-- The reciprocal of a lane; a lane that is not a number stays itself, marked as quiet. -/
def reciprocal (w : UInt32) : UInt32 :=
  if isNaN w then quiet w else (1 / Float32.ofBits w).toBits

/-- The product of two lanes. A factor that is not a number is the product, marked as quiet, the
    left one first; a product that has no value is the negative quiet pattern. -/
def product (x w : UInt32) : UInt32 :=
  if isNaN x then quiet x
  else if isNaN w then quiet w
  else
    let p := (Float32.ofBits x * Float32.ofBits w).toBits
    if isNaN p then 0xffc00000 else p

/-- A position of four lanes `x, y, z, w`, with `x, y, z` divided by `w` and `w` replaced by its
    reciprocal; a `w` of one or zero leaves the position as it is. -/
def dehomogenize (group : ByteArray) : ByteArray :=
  let lane := fun i => Bytes.word32 group (4 * i)
  let w := Float32.ofBits (lane 3)
  if w != 1 && w != 0 then
    let r := reciprocal (lane 3)
    Bytes.ofWord32 (product (lane 0) r) ++ Bytes.ofWord32 (product (lane 1) r) ++
      Bytes.ofWord32 (product (lane 2) r) ++ Bytes.ofWord32 r
  else group

/-- What a fixup does to a group of `width` bytes. -/
def ByteFixup.onGroup : ByteFixup → ByteArray → ByteArray
  | .keep => id
  | .color => swapRedBlue
  | .position => dehomogenize

/-- A fixup applied at `start`, in an area that ends `room` bytes later; it does nothing where the
    area is too short for its group. -/
def ByteFixup.apply (f : ByteFixup) (data : ByteArray) (start room : Nat) : ByteArray :=
  if f = .keep ∨ room < f.width then data
  else match Bytes.slice? data start f.width with
    | some group => Bytes.splice data start (f.onGroup group)
    | none => data

/-! ## 2. Maps -/

/-- The fixups of the bytes of one vertex. -/
structure ConversionMap where
  stride : Nat
  tags : Array ByteFixup
deriving DecidableEq

namespace ConversionMap

/-- No byte of the vertex needs a fixup. -/
def plain (stride : Nat) : ConversionMap := ⟨stride, Array.replicate stride .keep⟩

/-- The fixup of a byte; past the end there is none. -/
def tag (m : ConversionMap) (i : Nat) : ByteFixup := (m.tags[i]?).getD .keep

/-- The map with the fixup of one byte replaced. -/
def setTag (m : ConversionMap) (i : Nat) (f : ByteFixup) : ConversionMap :=
  { m with tags := m.tags.setIfInBounds i f }

/-- Some byte needs a fixup. -/
def hasFixup (m : ConversionMap) : Bool := m.tags.any (· ≠ .keep)

/-! ## 3. Conversion -/

/-- The walk from byte `j` on, for at most `fuel` steps. -/
def planFrom (m : ConversionMap) : (fuel j : Nat) → List (Nat × ByteFixup)
  | 0, _ => []
  | fuel + 1, j =>
    if j < m.stride then (j, m.tag j) :: m.planFrom fuel (j + (m.tag j).width) else []

/-- The walk over one vertex: where each fixup starts. Each step moves on by at least one byte, so
    that the stride bounds the number of steps. -/
def plan (m : ConversionMap) : List (Nat × ByteFixup) := m.planFrom m.stride 0

/-- The content with the vertex at `base` converted. -/
def convertVertex (m : ConversionMap) (base : Nat) (data : ByteArray) : ByteArray :=
  m.plan.foldl (fun d (j, f) => f.apply d (base + j) (m.stride - j)) data

/-- The complete vertices that a range touches, by number. A range that ends where a vertex starts
    touches that vertex too. -/
def touched (m : ConversionMap) (total : Nat) (r : ByteRange) : List Nat :=
  let first := r.offset / m.stride
  let last := min (r.stop / m.stride + 1) (total / m.stride)
  (List.range (last - first)).map (first + ·)

/-- The content with the vertices converted that the ranges touch, range after range. -/
def convert (m : ConversionMap) (data : ByteArray) (ranges : List ByteRange) : ByteArray :=
  if m.stride = 0 then data
  else
    let vertices := ranges.flatMap (m.touched data.size)
    vertices.foldl (fun d v => m.convertVertex (v * m.stride) d) data

end ConversionMap

end BufferCoherence
