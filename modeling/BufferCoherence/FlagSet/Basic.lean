/-!
# Flag sets

A flag set is a 32-bit word whose low bits carry names. This file fixes

* the KINDS of flag sets and the names of their bits (`FlagKind.members`: bit `i` carries the
  `i`th name);
* the operations: union, intersection and difference act on the whole word, so a bit without a
  name survives them, while `complement` ranges over the named bits only;
* the written form (`FlagSet.describe`): the names that are set, in bit order, then what is left
  as one hexadecimal number.
-/

namespace BufferCoherence

/-! ## 1. Kinds -/

/-- What a flag set speaks about. -/
inductive FlagKind where
  | location
  | bind
  | usage
  | access
  | map
  | objectUsage
  | memory
  | fixup
deriving DecidableEq

/-- The name a kind is written with. -/
def FlagKind.title : FlagKind → String
  | .location => "Location"
  | .bind => "BindFlags"
  | .usage => "Usage"
  | .access => "Access"
  | .map => "MapFlags"
  | .objectUsage => "ObjectUsage"
  | .memory => "MemoryPreference"
  | .fixup => "FixupFlags"

/-- The names of the bits of a kind, from bit 0 on. -/
def FlagKind.members : FlagKind → List String
  | .location => ["SYSMEM", "GPU_OBJECT", "DISCARDED", "CLEARED"]
  | .bind => ["VERTEX_BUFFER", "INDEX_BUFFER", "CONSTANT_BUFFER", "SHADER_RESOURCE",
      "STREAM_OUTPUT", "RENDER_TARGET", "DEPTH_STENCIL", "UNORDERED_ACCESS", "INDIRECT_BUFFER"]
  | .usage => ["DYNAMIC", "STATIC_DECL", "MANAGED"]
  | .access => ["GPU", "CPU", "MAP_R", "MAP_W"]
  | .map => ["READ", "WRITE", "DISCARD", "NO_OVERWRITE"]
  | .objectUsage => ["TRANSFER_SRC", "TRANSFER_DST", "VERTEX", "INDEX", "UNIFORM",
      "UNIFORM_TEXEL", "STORAGE_TEXEL", "TRANSFORM_FEEDBACK", "INDIRECT"]
  | .memory => ["HOST_VISIBLE", "HOST_CACHED", "DEVICE_LOCAL"]
  | .fixup => ["COLOR", "POSITION"]

/-- Every kind, in the order of declaration. -/
def FlagKind.all : List FlagKind :=
  [.location, .bind, .usage, .access, .map, .objectUsage, .memory, .fixup]

/-- The kind written with a given name. -/
def FlagKind.ofTitle? (title : String) : Option FlagKind :=
  FlagKind.all.find? fun k => k.title == title

/-! ## 2. Sets -/

/-- A set of flags of one kind; bits without a name are kept. -/
structure FlagSet (k : FlagKind) where
  bits : BitVec 32
deriving DecidableEq

namespace FlagSet

variable {k : FlagKind}

/-- The set with the bits of a number, named or not. -/
def ofNat (n : Nat) : FlagSet k := ⟨BitVec.ofNat 32 n⟩

/-- The set that holds bit `i` alone. -/
def single (i : Nat) : FlagSet k := ⟨1#32 <<< i⟩

/-- The bits read as a number. -/
def toNat (a : FlagSet k) : Nat := a.bits.toNat

instance : EmptyCollection (FlagSet k) := ⟨⟨0#32⟩⟩
instance : Union (FlagSet k) := ⟨fun a b => ⟨a.bits ||| b.bits⟩⟩
instance : Inter (FlagSet k) := ⟨fun a b => ⟨a.bits &&& b.bits⟩⟩
instance : SDiff (FlagSet k) := ⟨fun a b => ⟨a.bits &&& ~~~ b.bits⟩⟩
instance : Inhabited (FlagSet k) := ⟨∅⟩

/-- Every named flag of the kind. -/
def known (k : FlagKind) : FlagSet k := ⟨BitVec.ofNat 32 (1 <<< k.members.length - 1)⟩

/-- The named flags that are not in the set. -/
def complement (a : FlagSet k) : FlagSet k := known k \ a

/-- No bit is set, named or not. -/
def isEmpty (a : FlagSet k) : Bool := a.bits == 0#32

/-- All of `b` is in the set. -/
def has (a b : FlagSet k) : Bool := a ∩ b == b

/-- Something of `b` is in the set. -/
def meets (a b : FlagSet k) : Bool := !(a ∩ b).isEmpty

/-- The named part of a set. -/
def truncate (a : FlagSet k) : FlagSet k := a ∩ known k

/-- A set only if all its bits carry names. -/
def strict? (a : FlagSet k) : Option (FlagSet k) :=
  if (known k).has a then some a else none

/-! ## 3. Written form -/

/-- A number in lower-case hexadecimal, with the `0x` in front. -/
def hexText (n : Nat) : String := "0x" ++ String.ofList (Nat.toDigits 16 n)

/-- The names of the flags that are set, in bit order. -/
def setNames (a : FlagSet k) : List String :=
  k.members.zipIdx.filterMap fun (name, i) => if a.bits.getLsbD i then some name else none

/-- The names that are set, then the bits without a name as one number. -/
def parts (a : FlagSet k) : List String :=
  let rest := a \ known k
  if rest.isEmpty then a.setNames else a.setNames ++ [hexText rest.toNat]

/-- The written form, such as `Location(SYSMEM | GPU_OBJECT)`; the empty set is written `0x0`. -/
def describe (a : FlagSet k) : String :=
  let body := if a.isEmpty then "0x0" else " | ".intercalate a.parts
  k.title ++ "(" ++ body ++ ")"

/-! ## 4. Laws of the operations -/

theorem eq_of_bits {a b : FlagSet k} (h : a.bits = b.bits) : a = b := by
  cases a; cases b; simp_all

@[simp] theorem bits_empty : (∅ : FlagSet k).bits = 0#32 := rfl
@[simp] theorem bits_union (a b : FlagSet k) : (a ∪ b).bits = a.bits ||| b.bits := rfl
@[simp] theorem bits_inter (a b : FlagSet k) : (a ∩ b).bits = a.bits &&& b.bits := rfl
@[simp] theorem bits_sdiff (a b : FlagSet k) : (a \ b).bits = a.bits &&& ~~~ b.bits := rfl

theorem isEmpty_iff (a : FlagSet k) : a.isEmpty = true ↔ a = ∅ := by
  constructor
  · intro h; exact eq_of_bits (by simpa [isEmpty] using h)
  · rintro rfl; rfl

theorem has_iff (a b : FlagSet k) :
    a.has b = true ↔ ∀ i, b.bits.getLsbD i = true → a.bits.getLsbD i = true := by
  constructor
  · intro h i hi
    have e : a.bits &&& b.bits = b.bits := congrArg FlagSet.bits (eq_of_beq h)
    rw [← e, BitVec.getLsbD_and, Bool.and_eq_true] at hi
    exact hi.1
  · intro h
    apply beq_of_eq
    apply eq_of_bits
    apply BitVec.eq_of_getLsbD_eq
    intro i _
    have := h i
    simp only [bits_inter, BitVec.getLsbD_and]
    cases hb : b.bits.getLsbD i <;> simp_all

theorem has_self (a : FlagSet k) : a.has a = true := (has_iff a a).2 fun _ h => h

theorem has_union (a b c : FlagSet k) : a.has (b ∪ c) = (a.has b && a.has c) := by
  rw [Bool.eq_iff_iff, Bool.and_eq_true, has_iff, has_iff, has_iff]
  simp only [bits_union, BitVec.getLsbD_or, Bool.or_eq_true]
  exact ⟨fun h => ⟨fun i hi => h i (.inl hi), fun i hi => h i (.inr hi)⟩,
    fun h i hi => hi.elim (h.1 i) (h.2 i)⟩

end FlagSet

end BufferCoherence
