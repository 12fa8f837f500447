/-!
# Settings

The tunables of the library with their defaults. A buffer keeps the settings it was created with, so
that a later change reaches only the buffers created later.
-/

namespace BufferCoherence

/-- The limits on how often the vertices of a buffer are converted again. -/
structure HysteresisLimits where
  /-- Declaration changes that are tolerated. -/
  maxDeclChanges : Nat := 100
  /-- Quiet draws after which the declaration changes are forgotten. -/
  resetDeclChangeDraws : Nat := 1000
  /-- Conversions of the whole buffer that are tolerated. -/
  maxFullConversions : Nat := 5
  /-- Quiet draws after which the full conversions are forgotten. -/
  resetFullConversionDraws : Nat := 20
deriving DecidableEq

/-- The tunables that a buffer is created with. -/
structure Settings where
  hysteresis : HysteresisLimits := {}
  /-- The smallest size a streaming ring grows to. -/
  streamingMinSize : Nat := 512 * 1024
  /-- The alignment that a mapped address must have. -/
  resourceAlignment : Nat := 16
  /-- The size of a constant buffer is a multiple of this. -/
  constantBufferAlignment : Nat := 16
  /-- The spans recorded before the whole buffer counts as changed. -/
  spanLimit : Nat := 4096
  /-- Constant buffers may be mapped for writing even when nobody asked. -/
  constantBuffersMappable : Bool := false
  /-- Vertices are processed on the host, so that every buffer keeps a host copy. -/
  softwareVertexProcessing : Bool := false
deriving DecidableEq

instance : Inhabited Settings := ⟨{}⟩

end BufferCoherence
