/-!
# Vertex formats and attribute slots

The formats a vertex attribute may have, with their names and sizes, and the fourteen fixed
attribute slots in the order in which layouts are analysed.
-/

namespace BufferCoherence

/-- The format of one vertex attribute. -/
inductive VertexFormat where
  /-- Raw bytes. -/
  | r8Unorm
  | r32Float
  | r32g32Float
  | r32g32b32Float
  | r32g32b32a32Float
  | r8g8b8a8Unorm
  /-- A packed color with red and blue swapped. -/
  | b8g8r8a8Unorm
  | r8g8b8a8Uint
  | r16g16Float
  | r16g16b16a16Float
  | r16g16Sint
  | r16g16b16a16Sint
deriving DecidableEq

namespace VertexFormat

/-- Every format. -/
def all : List VertexFormat :=
  [.r8Unorm, .r32Float, .r32g32Float, .r32g32b32Float, .r32g32b32a32Float, .r8g8b8a8Unorm,
   .b8g8r8a8Unorm, .r8g8b8a8Uint, .r16g16Float, .r16g16b16a16Float, .r16g16Sint,
   .r16g16b16a16Sint]

/-- The name a format is written with. -/
def name : VertexFormat → String
  | .r8Unorm => "R8_UNORM"
  | .r32Float => "R32_FLOAT"
  | .r32g32Float => "R32G32_FLOAT"
  | .r32g32b32Float => "R32G32B32_FLOAT"
  | .r32g32b32a32Float => "R32G32B32A32_FLOAT"
  | .r8g8b8a8Unorm => "R8G8B8A8_UNORM"
  | .b8g8r8a8Unorm => "B8G8R8A8_UNORM"
  | .r8g8b8a8Uint => "R8G8B8A8_UINT"
  | .r16g16Float => "R16G16_FLOAT"
  | .r16g16b16a16Float => "R16G16B16A16_FLOAT"
  | .r16g16Sint => "R16G16_SINT"
  | .r16g16b16a16Sint => "R16G16B16A16_SINT"

/-- The bytes that one attribute takes. -/
def width : VertexFormat → Nat
  | .r8Unorm => 1
  | .r32Float => 4
  | .r32g32Float => 8
  | .r32g32b32Float => 12
  | .r32g32b32a32Float => 16
  | .r8g8b8a8Unorm => 4
  | .b8g8r8a8Unorm => 4
  | .r8g8b8a8Uint => 4
  | .r16g16Float => 4
  | .r16g16b16a16Float => 8
  | .r16g16Sint => 4
  | .r16g16b16a16Sint => 8

/-- The format with a given name. -/
def ofName? (s : String) : Option VertexFormat := all.find? fun f => f.name == s

theorem mem_all (f : VertexFormat) : f ∈ all := by cases f <;> decide

theorem width_pos (f : VertexFormat) : 0 < f.width := by cases f <;> decide

end VertexFormat

/-- The fixed attribute slots. -/
inductive AttributeSlot where
  | position
  | blendWeight
  | blendIndices
  | normal
  | diffuse
  | specular
  | texCoord0
  | texCoord1
  | texCoord2
  | texCoord3
  | texCoord4
  | texCoord5
  | texCoord6
  | texCoord7
deriving DecidableEq

namespace AttributeSlot

/-- Every slot, in the order of analysis. -/
def all : List AttributeSlot :=
  [.position, .blendWeight, .blendIndices, .normal, .diffuse, .specular, .texCoord0, .texCoord1,
   .texCoord2, .texCoord3, .texCoord4, .texCoord5, .texCoord6, .texCoord7]

/-- The name a slot is written with. -/
def name : AttributeSlot → String
  | .position => "Position"
  | .blendWeight => "BlendWeight"
  | .blendIndices => "BlendIndices"
  | .normal => "Normal"
  | .diffuse => "Diffuse"
  | .specular => "Specular"
  | .texCoord0 => "TexCoord0"
  | .texCoord1 => "TexCoord1"
  | .texCoord2 => "TexCoord2"
  | .texCoord3 => "TexCoord3"
  | .texCoord4 => "TexCoord4"
  | .texCoord5 => "TexCoord5"
  | .texCoord6 => "TexCoord6"
  | .texCoord7 => "TexCoord7"

/-- The place of a slot in the order of analysis. -/
def index (s : AttributeSlot) : Nat := all.idxOf s

/-- The slot with a given name. -/
def ofName? (s : String) : Option AttributeSlot := all.find? fun a => a.name == s

theorem mem_all (s : AttributeSlot) : s ∈ all := by cases s <;> decide

end AttributeSlot

end BufferCoherence
