/-!
# Tables

A table binds keys to values, each key once, and remembers the order in which they were first bound,
so that walking through it has one outcome.
-/

namespace Nearest

/-- Values under keys. -/
structure Table (α : Type) where
  /-- The bindings, in the order in which their keys were first bound. -/
  toList : List (String × α) := []

namespace Table

variable {α : Type}

/-- A table without bindings. -/
def empty : Table α := {}

/-- The value of a key. -/
def get? (t : Table α) (key : String) : Option α :=
  t.toList.lookup key

/-- Whether a key is bound. -/
def contains (t : Table α) (key : String) : Bool :=
  t.toList.any fun (k, _) => k == key

/-- Removes a key's binding. -/
def erase (t : Table α) (key : String) : Table α :=
  ⟨t.toList.filter fun (k, _) => k != key⟩

/-- Puts a value under a key, in the place of one that is there. -/
def insertInto (key : String) (a : α) : List (String × α) → List (String × α)
  | [] => [(key, a)]
  | (k, b) :: rest => if k = key then (key, a) :: rest else (k, b) :: insertInto key a rest

/-- Binds a key to a value. -/
def insert (t : Table α) (key : String) (a : α) : Table α :=
  ⟨insertInto key a t.toList⟩

/-- How many keys are bound. -/
def size (t : Table α) : Nat :=
  t.toList.length

/-- The keys whose values satisfy `p`. -/
def keysWhere (t : Table α) (p : α → Bool) : List String :=
  (t.toList.filter fun (_, a) => p a).map (·.1)

end Table

end Nearest
