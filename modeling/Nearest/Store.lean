import Std.Data.HashMap
import Nearest.Record

/-!
# The vector store

The vectors of one shard, column by column: the keys, the components of all vectors end to end, and
the precomputed norms. A key's place in the columns is its slot; an index leads from keys to slots.
Removing a key moves the last slot into the hole, so slots are always counted without gaps.

A store is a value, so a copy of it is a view of the moment at which it was taken.
-/

namespace Nearest

/-- The vectors of one shard, in columns. -/
structure Store where
  /-- How many components every vector has. -/
  dimension : UInt64
  /-- The slot of each key. -/
  slots : Std.HashMap String Nat := ∅
  /-- The key in each slot. -/
  keys : Array String := #[]
  /-- The components, slot after slot. -/
  components : Array UInt32 := #[]
  /-- The norm of the vector in each slot. -/
  norms : Array Float := #[]

namespace Store

/-- A store without vectors. -/
def empty (dimension : UInt64) : Store where
  dimension

/-- How many components the vector in a slot takes. -/
def width (s : Store) : Nat :=
  s.dimension.toNat

/-- How many vectors are resident. -/
def size (s : Store) : Nat :=
  s.keys.size

/-- Whether no vector is resident. -/
def isEmpty (s : Store) : Bool :=
  s.keys.isEmpty

/-- The slot of a key. -/
def slot? (s : Store) (key : String) : Option Nat :=
  s.slots[key]?

/-- Whether a key holds a vector. -/
def contains (s : Store) (key : String) : Bool :=
  s.slots.contains key

/-- The components of the vector in a slot. -/
def vector (s : Store) (slot : Nat) : List UInt32 :=
  (s.components.extract (slot * s.width) ((slot + 1) * s.width)).toList

/-- The norm of the vector in a slot. -/
def norm (s : Store) (slot : Nat) : Float :=
  s.norms.getD slot 0.0

/-- The key in a slot. -/
def key (s : Store) (slot : Nat) : String :=
  s.keys.getD slot ""

/-- The keys and their vectors, in the order of their slots. -/
def toList (s : Store) : List (String × List UInt32) :=
  s.keys.toList.zipIdx.map fun (key, slot) => (key, s.vector slot)

/-- The record that a key holds. -/
def get? (s : Store) (key : String) : Option Record :=
  (s.slot? key).map fun slot => ⟨s.vector slot⟩

/-- Writes components into an array from position `i` on. -/
def overwrite (a : Array UInt32) (i : Nat) : List UInt32 → Array UInt32
  | [] => a
  | w :: rest => overwrite (a.setIfInBounds i w) (i + 1) rest

/-- Binds a record to a key, in the place of one that it holds already; whether it held one. A
record of another dimension is refused. -/
def upsert (s : Store) (key : String) (r : Record) : Except Fault (Bool × Store) :=
  if r.dimension ≠ s.width then
    .error (.vectorSize s.dimension (UInt64.ofNat r.dimension * 4))
  else
    match s.slot? key with
    | some slot =>
      .ok (true, { s with
        components := overwrite s.components (slot * s.width) r.components
        norms := s.norms.setIfInBounds slot r.norm })
    | none =>
      .ok (false, { s with
        slots := s.slots.insert key s.keys.size
        keys := s.keys.push key
        components := s.components ++ r.components
        norms := s.norms.push r.norm })

/-- Takes the last slot out of the columns, and puts what it held into `slot` if that is another. -/
def fillHole (s : Store) (slot : Nat) : Store :=
  let last := s.keys.size - 1
  let keys := (s.keys.setIfInBounds slot (s.key last)).pop
  let norms := (s.norms.setIfInBounds slot (s.norm last)).pop
  let components := overwrite s.components (slot * s.width) (s.vector last)
  { s with
    slots := if slot = last then s.slots else s.slots.insert (s.key last) slot
    keys
    norms
    components := components.shrink (last * s.width) }

/-- Releases the vector of a key; whether there was one. -/
def remove (s : Store) (key : String) : Bool × Store :=
  match s.slot? key with
  | none => (false, s)
  | some slot => (true, { s with slots := s.slots.erase key }.fillHole slot)

/-- Releases all vectors; how many there were. -/
def clear (s : Store) : Nat × Store :=
  (s.size, empty s.dimension)

end Store

end Nearest
