/-!
# Slot maps

A store that hands out keys. A key names a slot and the version the slot had when the value was
put there, so that the key of a value that was removed never finds what came after it. Freeing a
slot raises its version, and so does using it again; the slot freed last is used first. The values
are listed in the order of their slots.
-/

namespace BufferCoherence

/-- The name of a stored value: a slot and the version of its content. -/
structure SlotKey where
  slot : Nat
  version : Nat
deriving DecidableEq

/-- A slot with its version and what it holds. -/
structure Slot (α : Type) where
  version : Nat
  content : Option α
deriving DecidableEq

/-- A store of values; `free` lists the empty slots, the one freed last in front. -/
structure SlotMap (α : Type) where
  slots : List (Slot α)
  free : List Nat
deriving DecidableEq

namespace SlotMap

variable {α : Type}

/-- A store without slots. -/
def empty : SlotMap α := ⟨[], []⟩

/-- The value of a key, unless it was removed. -/
def get? (m : SlotMap α) (k : SlotKey) : Option α :=
  match m.slots[k.slot]? with
  | some s => if s.version = k.version then s.content else none
  | none => none

/-- The version of a slot; zero where there is no such slot. -/
def versionOf (m : SlotMap α) (i : Nat) : Nat := (m.slots[i]?.map (·.version)).getD 0

/-- A value stored in the slot freed last, or in a new slot of version one. -/
def insert (m : SlotMap α) (a : α) : SlotKey × SlotMap α :=
  match m.free with
  | i :: free =>
    let version := m.versionOf i + 1
    (⟨i, version⟩, ⟨m.slots.set i ⟨version, some a⟩, free⟩)
  | [] => (⟨m.slots.length, 1⟩, ⟨m.slots ++ [⟨1, some a⟩], []⟩)

/-- A slot emptied. -/
def freeSlot (m : SlotMap α) (i : Nat) : SlotMap α :=
  ⟨m.slots.set i ⟨m.versionOf i + 1, none⟩, i :: m.free⟩

/-- The value of a key removed; nothing happens if it was removed before. -/
def erase (m : SlotMap α) (k : SlotKey) : SlotMap α :=
  if (m.get? k).isSome then m.freeSlot k.slot else m

/-- The stored values with their keys, in the order of the slots. -/
def entries (m : SlotMap α) : List (SlotKey × α) :=
  m.slots.zipIdx.filterMap fun (s, i) => s.content.map fun a => (⟨i, s.version⟩, a)

/-- The stored values, in the order of the slots. -/
def values (m : SlotMap α) : List α := m.entries.map (·.2)

/-- The store without the values that fail a test; their slots are freed in order. -/
def keep (m : SlotMap α) (test : α → Bool) : SlotMap α :=
  m.entries.foldl (fun m (k, a) => if test a then m else m.freeSlot k.slot) m

/-- The store without values; the slots are freed in order. -/
def clear (m : SlotMap α) : SlotMap α := m.keep fun _ => false

end SlotMap

end BufferCoherence
