/-!
# Tables

A finite map from numbers to values, listed in the order in which the numbers came. The laws say
what each operation does to `get?`.
-/

namespace BufferCoherence

/-- Values under numbers. -/
structure Table (α : Type) where
  rows : List (Nat × α)

namespace Table

variable {α : Type}

/-- The first value under a number. -/
def find (k : Nat) : List (Nat × α) → Option α
  | [] => none
  | (i, a) :: rest => if i = k then some a else find k rest

/-- The rows without a number. -/
def remove (k : Nat) : List (Nat × α) → List (Nat × α)
  | [] => []
  | (i, a) :: rest => if i = k then remove k rest else (i, a) :: remove k rest

/-- The first value under a number replaced, or the number put at the end. -/
def put (k : Nat) (b : α) : List (Nat × α) → List (Nat × α)
  | [] => [(k, b)]
  | (i, a) :: rest => if i = k then (k, b) :: rest else (i, a) :: put k b rest

/-- No values. -/
def empty : Table α := ⟨[]⟩

/-- The value under a number. -/
def get? (t : Table α) (k : Nat) : Option α := find k t.rows

/-- There is a value under the number. -/
def contains (t : Table α) (k : Nat) : Bool := (t.get? k).isSome

/-- The table without a number. -/
def erase (t : Table α) (k : Nat) : Table α := ⟨remove k t.rows⟩

/-- The table with a value under a number. -/
def insert (t : Table α) (k : Nat) (a : α) : Table α := ⟨put k a t.rows⟩

/-- The numbers in use. -/
def keys (t : Table α) : List Nat := t.rows.map (·.1)

/-- The rows in the order of their numbers. -/
def sorted (t : Table α) : List (Nat × α) := t.rows.mergeSort fun a b => a.1 ≤ b.1

/-- The values changed, each by itself. -/
def map {β : Type} (f : α → β) (t : Table α) : Table β := ⟨t.rows.map fun (i, a) => (i, f a)⟩

/-- How many numbers are in use. -/
def size (t : Table α) : Nat := t.rows.length

/-! ## Laws -/

@[simp] theorem get?_empty (k : Nat) : (empty : Table α).get? k = none := rfl

theorem find_remove (k j : Nat) (rows : List (Nat × α)) :
    find j (remove k rows) = if j = k then none else find j rows := by
  induction rows with
  | nil => simp [find, remove]
  | cons row rest ih =>
    simp only [remove, find]
    by_cases hi : row.1 = k <;> by_cases hj : row.1 = j <;> simp [hi, find, ih] <;> grind

theorem find_put (k j : Nat) (b : α) (rows : List (Nat × α)) :
    find j (put k b rows) = if j = k then some b else find j rows := by
  induction rows with
  | nil => simp only [put, find]; grind
  | cons row rest ih =>
    simp only [put, find]
    by_cases hi : row.1 = k <;> by_cases hj : row.1 = j <;> simp [hi, find, ih] <;> grind

/-- **An erased number has no value**, and the other numbers keep theirs. -/
theorem get?_erase (t : Table α) (k j : Nat) :
    (t.erase k).get? j = if j = k then none else t.get? j := find_remove k j t.rows

/-- **An inserted value is found**, and the other numbers keep theirs. -/
theorem get?_insert (t : Table α) (k j : Nat) (a : α) :
    (t.insert k a).get? j = if j = k then some a else t.get? j := find_put k j a t.rows

end Table

end BufferCoherence
