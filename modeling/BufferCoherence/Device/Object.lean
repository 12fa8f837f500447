import BufferCoherence.FlagSet.Catalogue

/-!
# Device objects and capabilities

The data that a buffer and its device exchange: handles, requests for objects, barriers, and
the capabilities that decide how a buffer is backed.
-/

namespace BufferCoherence

/-! ## 1. Objects -/

/-- A device's name for one of its objects. -/
structure ObjectHandle where
  number : Nat
deriving DecidableEq

namespace ObjectHandle

/-- The written form, such as `ObjectHandle(7)`. -/
def describe (h : ObjectHandle) : String := "ObjectHandle(" ++ toString h.number ++ ")"

end ObjectHandle

/-- The binding target that an object is created for. -/
inductive BindingTarget where
  | generic
  | index
  | vertex
  | uniform
  | textureBuffer
  | streamOutput
  | indirect
deriving DecidableEq

namespace BindingTarget

/-- Every target. -/
def all : List BindingTarget :=
  [.generic, .index, .vertex, .uniform, .textureBuffer, .streamOutput, .indirect]

/-- The name a target is written with. -/
def name : BindingTarget → String
  | .generic => "Generic"
  | .index => "Index"
  | .vertex => "Vertex"
  | .uniform => "Uniform"
  | .textureBuffer => "TextureBuffer"
  | .streamOutput => "StreamOutput"
  | .indirect => "Indirect"

/-- The target with a given name. -/
def ofName? (s : String) : Option BindingTarget := all.find? fun t => t.name == s

end BindingTarget

/-- What an object is asked to be. -/
structure ObjectRequest where
  size : Nat
  binding : BindingTarget
  usage : ObjectUsage
  memory : MemoryPreference
  /-- The content changes often. -/
  dynamic : Bool
  /-- Host writes need no flush. -/
  coherent : Bool
deriving DecidableEq

/-- A created object; the offset is not zero where the object is a part of a larger one. -/
structure Placement where
  handle : ObjectHandle
  offset : Nat
deriving DecidableEq

/-- A barrier between two uses of a part of an object. -/
structure Barrier where
  handle : ObjectHandle
  offset : Nat
  size : Nat
  source : BindFlags
  target : BindFlags
deriving DecidableEq

/-- The identity of an object as its users remember it. -/
structure ObjectView where
  handle : ObjectHandle
  offset : Nat
  size : Nat
deriving DecidableEq

/-! ## 2. Capabilities -/

/-- How a device backs its buffers. -/
inductive BackendKind where
  /-- No device objects at all. -/
  | noObject
  /-- Objects with binding targets, synchronised by the device. -/
  | legacy
  /-- Objects with explicit barriers. -/
  | modern
deriving DecidableEq

/-- The name a backend is written with. -/
def BackendKind.name : BackendKind → String
  | .noObject => "NoObject"
  | .legacy => "Legacy"
  | .modern => "Modern"

/-- What a device can do. -/
structure Capabilities where
  backend : BackendKind
  bufferObjects : Bool
  /-- A part of an object can be mapped and flushed. -/
  mapBufferRange : Bool
  textureBufferObject : Bool
  drawIndirect : Bool
  transformFeedback : Bool
  /-- Attributes with red and blue swapped are read as they are. -/
  vertexBgra : Bool
  /-- Fixed attributes reach the shader, which swaps colors itself. -/
  ffpGenericAttributes : Bool
  /-- Transformed positions are read as they are. -/
  xyzrhw : Bool
deriving DecidableEq

namespace Capabilities

/-- A device without objects. -/
def noObject : Capabilities := ⟨.noObject, false, false, false, false, false, false, false, false⟩

/-- A device with binding targets that reads neither swapped colors nor transformed positions. -/
def legacy : Capabilities := ⟨.legacy, true, true, true, true, true, false, false, false⟩

/-- A device with explicit barriers. -/
def modern : Capabilities := ⟨.modern, true, true, true, true, true, true, true, true⟩

/-- The vertex fixups that a draw needs on the device. -/
def fixups (caps : Capabilities) (vertexShader : Bool) : FixupFlags :=
  if vertexShader then ∅
  else
    (if !caps.vertexBgra && !caps.ffpGenericAttributes then FixupFlags.color else ∅) ∪
      (if !caps.xyzrhw then FixupFlags.position else ∅)

end Capabilities

end BufferCoherence
