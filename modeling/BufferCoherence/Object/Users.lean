import BufferCoherence.Device.Object
import BufferCoherence.Object.SlotMap

/-!
# Users of a buffer object

Whoever remembers the identity of an object (a descriptor, a bound stream) is a user of it. A user
has a cell, which holds the remembered view and the key of its entry in the registry of an object;
the cell lives while somebody holds the user. The object in turn lists its users, so that each
can be told when the object goes away:

* `BufferObject.enlist` enters a user, which stays without a view until it is refreshed;
* `forgetViews` takes the view from every user, and forgets the users nobody holds;
* `moveUsers` moves the users to the object that takes over, and `dismissUsers` lets them go.

An object owns a user when the user's key finds that very user in the object's own registry.
-/

namespace BufferCoherence

/-! ## 1. Cells -/

/-- The identity of a user. -/
structure UserId where
  number : Nat
deriving DecidableEq

/-- What is known of a user. -/
structure UserCell where
  /-- The object as the user remembers it. -/
  view : Option ObjectView
  /-- The user's entry in the registry of an object. -/
  key : Option SlotKey
  /-- How many hold the user. -/
  holders : Nat
deriving DecidableEq

namespace UserCell

/-- Nobody knows the user. -/
def unknown : UserCell := ⟨none, none, 0⟩

/-- Somebody holds the user. -/
def alive (c : UserCell) : Bool := 0 < c.holders

/-- The user remembers a view. -/
def hasView (c : UserCell) : Bool := c.view.isSome

/-- The user has an entry in some registry. -/
def hasEntry (c : UserCell) : Bool := c.key.isSome

end UserCell

/-- The cells of all users there ever were. -/
structure UserTable where
  cells : Array UserCell
deriving DecidableEq

namespace UserTable

/-- No users. -/
def empty : UserTable := ⟨#[]⟩

/-- The cell of a user. -/
def cell (t : UserTable) (u : UserId) : UserCell := (t.cells[u.number]?).getD .unknown

/-- The cell of a user changed. -/
def update (t : UserTable) (u : UserId) (f : UserCell → UserCell) : UserTable :=
  ⟨t.cells.setIfInBounds u.number (f (t.cell u))⟩

/-- A new user, held once. -/
def add (t : UserTable) : UserId × UserTable :=
  (⟨t.cells.size⟩, ⟨t.cells.push ⟨none, none, 1⟩⟩)

/-- A user held once more. -/
def hold (t : UserTable) (u : UserId) : UserTable :=
  t.update u fun c => { c with holders := c.holders + 1 }

/-- A user held once less. -/
def letGo (t : UserTable) (u : UserId) : UserTable :=
  t.update u fun c => { c with holders := c.holders - 1 }

/-- The view of a user replaced. -/
def putView (t : UserTable) (u : UserId) (view : Option ObjectView) : UserTable :=
  t.update u fun c => { c with view }

/-- The key of a user replaced. -/
def putKey (t : UserTable) (u : UserId) (key : Option SlotKey) : UserTable :=
  t.update u fun c => { c with key }

end UserTable

/-! ## 2. Objects with their users -/

/-- A device object that a buffer uses, with the users registered on it. -/
structure BufferObject where
  handle : ObjectHandle
  offset : Nat
  size : Nat
  users : SlotMap UserId
deriving DecidableEq

namespace BufferObject

/-- An object without users. -/
def new (a : Placement) (size : Nat) : BufferObject := ⟨a.handle, a.offset, size, .empty⟩

/-- The identity of the object. -/
def view (o : BufferObject) : ObjectView := ⟨o.handle, o.offset, o.size⟩

/-- The user's key finds the user in the registry of the object. -/
def owns (o : BufferObject) (t : UserTable) (u : UserId) : Bool :=
  match (t.cell u).key with
  | some k => o.users.get? k == some u
  | none => false

/-- A user entered in the registry; it gets a new key. -/
def enter (o : BufferObject) (t : UserTable) (u : UserId) : BufferObject × UserTable :=
  let (k, users) := o.users.insert u
  ({ o with users }, t.putKey u (some k))

/-- A user registered, unless the object owns it already. -/
def enlist (o : BufferObject) (t : UserTable) (u : UserId) : BufferObject × UserTable :=
  if o.owns t u then (o, t) else o.enter t u

/-- A user taken from the registry, if the object owns it. -/
def delist (o : BufferObject) (t : UserTable) (u : UserId) : BufferObject × UserTable :=
  if o.owns t u then
    match (t.cell u).key with
    | some k => ({ o with users := o.users.erase k }, t.putKey u none)
    | none => (o, t)
  else (o, t)

/-- The view of the object given to a user. -/
def refresh (o : BufferObject) (t : UserTable) (u : UserId) : ObjectView × UserTable :=
  (o.view, t.putView u (some o.view))

/-- Every user that somebody holds loses its view; the others lose their entries. -/
def forgetViews (o : BufferObject) (t : UserTable) : BufferObject × UserTable :=
  let users := o.users.keep fun u => (t.cell u).alive
  ({ o with users }, users.values.foldl (fun t u => t.putView u none) t)

/-- Every user loses its view and moves to another object, in the order of the slots. -/
def moveUsers (o target : BufferObject) (t : UserTable) :
    BufferObject × BufferObject × UserTable :=
  let (o, t) := o.forgetViews t
  let (target, t) := o.users.values.foldl (fun (target, t) u => target.enter t u) (target, t)
  ({ o with users := o.users.clear }, target, t)

/-- Every user loses its view and its entry. -/
def dismissUsers (o : BufferObject) (t : UserTable) : BufferObject × UserTable :=
  let (o, t) := o.forgetViews t
  ({ o with users := o.users.clear }, o.users.values.foldl (fun t u => t.putKey u none) t)

/-- How many entries belong to users that somebody holds. -/
def liveUserCount (o : BufferObject) (t : UserTable) : Nat :=
  o.users.values.countP fun u => (t.cell u).alive

end BufferObject

end BufferCoherence
