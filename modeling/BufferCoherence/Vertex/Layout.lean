import BufferCoherence.Vertex.Format

/-!
# Vertex layouts

What a draw reads: for each attribute slot at most one element, which says from which buffer the
attribute comes, at which offset and with which distance between vertices.
-/

namespace BufferCoherence

/-- The identity of a buffer, unique among all buffers ever created. -/
structure BufferId where
  number : Nat
deriving DecidableEq

/-- One active attribute. -/
structure VertexAttribute where
  format : VertexFormat
  /-- The distance between two vertices; zero for an attribute that is the same for all. -/
  stride : Nat
  /-- Where the attribute of the first vertex starts. -/
  offset : Nat
  /-- The buffer it is read from. -/
  buffer : BufferId
deriving DecidableEq

/-- The active attributes of a draw. -/
structure VertexLayout where
  element : AttributeSlot → Option VertexAttribute
  /-- The position is in window coordinates already. -/
  transformed : Bool

namespace VertexLayout

/-- No attribute is active. -/
def empty (transformed : Bool) : VertexLayout := ⟨fun _ => none, transformed⟩

/-- The layout with one slot set, or cleared by `none`. -/
def set (l : VertexLayout) (slot : AttributeSlot) (e : Option VertexAttribute) : VertexLayout :=
  { l with element := fun s => if s = slot then e else l.element s }

end VertexLayout

/-- What a draw tells the buffers it reads. -/
structure Draw where
  layout : VertexLayout
  /-- The attributes go to a programmable vertex shader, so that nothing is converted. -/
  vertexShader : Bool

end BufferCoherence
