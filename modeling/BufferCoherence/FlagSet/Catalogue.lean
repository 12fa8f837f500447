import BufferCoherence.FlagSet.Basic

/-!
# The flags of the library

One definition for each named bit, grouped by what the flags speak about, and the derived sets
that the rules of the library use: the locations with storage of their own, the uses that only
read, and the flags a new device object is created with.
-/

namespace BufferCoherence

/-! ## 1. Where the bytes of a buffer are current -/

/-- Which copies of a buffer are current. `discarded` and `cleared` stand for content that has no
    bytes yet: undefined content, and zeroes. -/
abbrev Location := FlagSet .location

namespace Location

def sysmem : Location := .single 0
def gpuObject : Location := .single 1
def discarded : Location := .single 2
def cleared : Location := .single 3

/-- The locations with storage of their own. -/
def stored : Location := sysmem ∪ gpuObject

/-- The locations that only describe content. -/
def sentinel : Location := discarded ∪ cleared

/-- Every location. -/
def all : Location := FlagSet.known .location

/-- Some current copy has storage. -/
def hasStoredCopy (l : Location) : Bool := l.meets stored

/-- Exactly one of the locations that bytes can be loaded into. -/
def isLoadable (l : Location) : Bool := l == sysmem || l == gpuObject

end Location

/-! ## 2. How a buffer is bound, used and reached -/

/-- The pipeline stages a buffer is bound to. -/
abbrev BindFlags := FlagSet .bind

namespace BindFlags

def vertexBuffer : BindFlags := .single 0
def indexBuffer : BindFlags := .single 1
def constantBuffer : BindFlags := .single 2
def shaderResource : BindFlags := .single 3
def streamOutput : BindFlags := .single 4
def renderTarget : BindFlags := .single 5
def depthStencil : BindFlags := .single 6
def unorderedAccess : BindFlags := .single 7
def indirectBuffer : BindFlags := .single 8

/-- The uses that never write to the buffer. -/
def readers : BindFlags :=
  vertexBuffer ∪ indexBuffer ∪ constantBuffer ∪ shaderResource ∪ indirectBuffer

/-- The part of a set that only reads. -/
def reading (b : BindFlags) : BindFlags := b ∩ readers

/-- The part of a set that may write. -/
def writing (b : BindFlags) : BindFlags := b \ readers

end BindFlags

/-- Hints given when a buffer is created. -/
abbrev Usage := FlagSet .usage

namespace Usage

/-- The host changes the content often. -/
def dynamic : Usage := .single 0

/-- The vertex declaration that reads the buffer never changes. -/
def staticDecl : Usage := .single 1

/-- A host copy is kept that survives discards. -/
def managed : Usage := .single 2

end Usage

/-- Who may reach the bytes. -/
abbrev Access := FlagSet .access

namespace Access

def gpu : Access := .single 0
def cpu : Access := .single 1
def mapRead : Access := .single 2
def mapWrite : Access := .single 3

end Access

/-- How a buffer is mapped or written. -/
abbrev MapFlags := FlagSet .map

namespace MapFlags

def read : MapFlags := .single 0
def write : MapFlags := .single 1

/-- The content held so far may be thrown away. -/
def discard : MapFlags := .single 2

/-- The writer leaves alone the bytes that earlier draws still read. -/
def noOverwrite : MapFlags := .single 3

end MapFlags

/-! ## 3. Device objects -/

/-- What a device object is used for. -/
abbrev ObjectUsage := FlagSet .objectUsage

namespace ObjectUsage

def transferSrc : ObjectUsage := .single 0
def transferDst : ObjectUsage := .single 1
def vertex : ObjectUsage := .single 2
def index : ObjectUsage := .single 3
def uniform : ObjectUsage := .single 4
def uniformTexel : ObjectUsage := .single 5
def storageTexel : ObjectUsage := .single 6
def transformFeedback : ObjectUsage := .single 7
def indirect : ObjectUsage := .single 8

/-- The object usage each bind flag asks for; a flag without an entry asks for none. -/
def ofBindTable : List (BindFlags × ObjectUsage) :=
  [(BindFlags.vertexBuffer, vertex), (BindFlags.indexBuffer, index),
   (BindFlags.constantBuffer, uniform), (BindFlags.shaderResource, uniformTexel),
   (BindFlags.streamOutput, transformFeedback), (BindFlags.unorderedAccess, storageTexel),
   (BindFlags.indirectBuffer, indirect)]

/-- What an object bound with `bind` is used for; transfers in both directions always. -/
def ofBind (bind : BindFlags) : ObjectUsage :=
  ofBindTable.foldl (fun u (flag, use) => if bind.has flag then u ∪ use else u)
    (transferSrc ∪ transferDst)

end ObjectUsage

/-- Where the memory of a device object should live. -/
abbrev MemoryPreference := FlagSet .memory

namespace MemoryPreference

def hostVisible : MemoryPreference := .single 0
def hostCached : MemoryPreference := .single 1
def deviceLocal : MemoryPreference := .single 2

/-- Memory the host reads is cached, memory it only writes is visible, and memory it never maps is
    local to the device unless the content changes often. -/
def ofAccess (access : Access) (usage : Usage) : MemoryPreference :=
  if access.has Access.mapRead then hostVisible ∪ hostCached
  else if access.has Access.mapWrite then hostVisible
  else if usage.has Usage.dynamic then ∅
  else deviceLocal

end MemoryPreference

/-! ## 4. Vertex fixups -/

/-- The vertex fixups a device asks for. -/
abbrev FixupFlags := FlagSet .fixup

namespace FixupFlags

def color : FixupFlags := .single 0
def position : FixupFlags := .single 1

end FixupFlags

end BufferCoherence
