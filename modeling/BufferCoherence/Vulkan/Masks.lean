import BufferCoherence.FlagSet.Catalogue

/-!
# Flags of the Vulkan interface

The numbers that the flags of the library become when a Vulkan driver is called.
-/

namespace BufferCoherence.Vulkan

/-- A flag table read as a function: the entries of the flags that are set, joined. -/
def collect {k : FlagKind} (table : List (FlagSet k × Nat)) (flags : FlagSet k) : Nat :=
  table.foldl (fun acc (flag, bits) => if flags.has flag then acc ||| bits else acc) 0

/-! ## 1. Usage and memory -/

/-- The usage bit for copies out of a buffer. -/
def usageTransferSrc : Nat := 0x1

/-- The usage bit for copies into a buffer. -/
def usageTransferDst : Nat := 0x2

/-- The usage of a buffer that only takes part in copies. -/
def usageTransfer : Nat := usageTransferSrc ||| usageTransferDst

/-- The usage bits of a Vulkan buffer. Transfers in both directions are always allowed. -/
def bufferUsage (usage : ObjectUsage) : Nat :=
  usageTransfer ||| collect
    [(ObjectUsage.vertex, 0x80), (ObjectUsage.index, 0x40), (ObjectUsage.uniform, 0x10),
     (ObjectUsage.uniformTexel, 0x4), (ObjectUsage.storageTexel, 0x8 ||| 0x20),
     (ObjectUsage.transformFeedback, 0x800), (ObjectUsage.indirect, 0x100)] usage

/-- Where the memory of a Vulkan buffer lives. -/
inductive MemoryLocation where
  | gpuToCpu
  | cpuToGpu
  | gpuOnly
deriving DecidableEq

namespace MemoryLocation

/-- The name a memory location is written with. -/
def name : MemoryLocation → String
  | .gpuToCpu => "GpuToCpu"
  | .cpuToGpu => "CpuToGpu"
  | .gpuOnly => "GpuOnly"

/-- The host can map the memory. -/
def hostVisible : MemoryLocation → Bool
  | .gpuOnly => false
  | _ => true

/-- The memory for a preference: cached memory first, then memory the host writes, then memory of
    the device alone. -/
def ofPreference (memory : MemoryPreference) : MemoryLocation :=
  if memory.has MemoryPreference.hostCached then .gpuToCpu
  else if memory.has MemoryPreference.hostVisible then .cpuToGpu
  else if memory.has MemoryPreference.deviceLocal then .gpuOnly
  else .cpuToGpu

end MemoryLocation

/-! ## 2. Barriers -/

/-- The access bits for reads by a copy. -/
def accessTransferRead : Nat := 0x800

/-- The access bits for writes by a copy. -/
def accessTransferWrite : Nat := 0x1000

/-- The pipeline stage of copies. -/
def stageTransfer : Nat := 0x1000

/-- The accesses that a bound buffer sees; an unbound one is seen by copies alone. -/
def accessMask (bind : BindFlags) : Nat :=
  let access := collect
    [(BindFlags.vertexBuffer, 0x4), (BindFlags.indexBuffer, 0x2),
     (BindFlags.constantBuffer, 0x8), (BindFlags.shaderResource, 0x20),
     (BindFlags.unorderedAccess, 0x20 ||| 0x40), (BindFlags.streamOutput, 0x2000000),
     (BindFlags.indirectBuffer, 0x1)] bind
  if access == 0 then accessTransferRead ||| accessTransferWrite else access

/-- The pipeline stages that a bound buffer is seen by; an unbound one is seen by copies alone. -/
def stageMask (bind : BindFlags) : Nat :=
  let vertexInput := 0x4
  let shaders := 0x8 ||| 0x80 ||| 0x800
  let stages := collect
    [(BindFlags.vertexBuffer, vertexInput), (BindFlags.indexBuffer, vertexInput),
     (BindFlags.constantBuffer, shaders), (BindFlags.shaderResource, shaders),
     (BindFlags.unorderedAccess, shaders), (BindFlags.streamOutput, 0x1000000),
     (BindFlags.indirectBuffer, 0x2)] bind
  if stages == 0 then stageTransfer else stages

end BufferCoherence.Vulkan
