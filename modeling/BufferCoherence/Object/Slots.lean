import BufferCoherence.Object.Users
import BufferCoherence.Table

/-!
# Users and objects in slots

Users and objects kept under numbers of the client's choice. A slot holds its user: assigning
another one, or emptying the slot, lets the first one go. Whoever asks for the user of an empty slot
is lent a new one, which nobody holds afterwards.
-/

namespace BufferCoherence

/-! ## 1. Users -/

/-- Users in slots, with the cells of all users there ever were. -/
structure UserSlots where
  slots : Table UserId
  cells : UserTable

namespace UserSlots

/-- No users. -/
def empty : UserSlots := ⟨.empty, .empty⟩

/-- The user of a slot let go. -/
def release (s : UserSlots) (slot : Nat) : UserSlots :=
  match s.slots.get? slot with
  | some u => ⟨s.slots.erase slot, s.cells.letGo u⟩
  | none => s

/-- A user that is held once more put into a slot. -/
def assign (s : UserSlots) (slot : Nat) (u : UserId) : UserSlots :=
  let s := s.release slot
  { s with slots := s.slots.insert slot u }

/-- A new user in a slot. -/
def enroll (s : UserSlots) (slot : Nat) : UserSlots :=
  let (u, cells) := s.cells.add
  { s with cells }.assign slot u

/-- The user of a slot, or a new one; it is held once more. -/
def lend (s : UserSlots) (slot : Nat) : UserId × UserSlots :=
  match s.slots.get? slot with
  | some u => (u, { s with cells := s.cells.hold u })
  | none =>
    let (u, cells) := s.cells.add
    (u, { s with cells })

/-- A user that was lent given back. -/
def giveBack (s : UserSlots) (u : UserId) : UserSlots := { s with cells := s.cells.letGo u }

/-- The user of one slot put into another slot as well. -/
def share (s : UserSlots) (slot other : Nat) : UserSlots :=
  let (u, s) := s.lend slot
  s.assign other u

end UserSlots

/-! ## 2. Objects -/

/-- Objects in slots, and users in slots of their own. -/
structure ObjectSlots where
  objects : Table BufferObject
  users : UserSlots

namespace ObjectSlots

/-- No objects and no users. -/
def empty : ObjectSlots := ⟨.empty, .empty⟩

/-- An object put into a slot. -/
def put (s : ObjectSlots) (slot : Nat) (o : BufferObject) : ObjectSlots :=
  { s with objects := s.objects.insert slot o }

/-- The object of a slot changed, with the cells of the users. -/
def onObject (s : ObjectSlots) (slot : Nat)
    (f : BufferObject → UserTable → BufferObject × UserTable) : ObjectSlots :=
  match s.objects.get? slot with
  | none => s
  | some o =>
    let (o, cells) := f o s.users.cells
    { s with users.cells := cells }.put slot o

/-- The object of a slot owns a user; `none` where the slot is empty. -/
def owns (s : ObjectSlots) (slot : Nat) (u : UserId) : Option Bool :=
  (s.objects.get? slot).map fun o => o.owns s.users.cells u

/-- The users of one object moved to another. -/
def transfer (s : ObjectSlots) (slot other : Nat) : ObjectSlots :=
  match s.objects.get? slot, s.objects.get? other with
  | some o, some target =>
    if slot = other then s
    else
      let (o, target, cells) := o.moveUsers target s.users.cells
      ({ s with users.cells := cells }.put slot o).put other target
  | _, _ => s

end ObjectSlots

end BufferCoherence
