import Nearest.Bytes.Frame
import Nearest.Store
import Nearest.Table

/-!
# Snapshots

A snapshot file holds all vectors of a shard: a header, one entry for each vector, and a checksum
over both.

* `Image` is what is to be written, `Image.bytes` the file.
* `walk` reads a file and hands its entries to a sink one by one. The sink carries a state, which is
  answered also if the walk breaks off: it shows which entries were handed out.
-/

namespace Nearest.Snapshot

/-- The four bytes that a snapshot begins with. -/
def magic : Bytes := [0x56, 0x53, 0x4e, 0x50]

/-- The version of the layout. -/
def version : UInt32 := 1

/-! ## Header and entries -/

/-- What a snapshot begins with. -/
structure Header where
  magic : Bytes
  version : UInt32
  dimension : UInt32
  count : UInt64
  deriving DecidableEq

namespace Header

/-- The bytes of a header. -/
def bytes (h : Header) : Bytes :=
  h.magic ++ Bytes.ofWord32 h.version ++ Bytes.ofWord32 h.dimension ++ Bytes.ofWord64 h.count

/-- Reads a header. -/
def read : Field.Reader Header
  | a :: b :: c :: d :: rest => do
    let (version, rest) ← Field.word32 rest
    let (dimension, rest) ← Field.word32 rest
    let (count, rest) ← Field.word64 rest
    return ({ magic := [a, b, c, d], version, dimension, count }, rest)
  | _ => .error .ended

end Header

/-- One vector of a snapshot. -/
structure Entry where
  key : String
  dimension : UInt32
  data : Bytes
  /-- When the key expires, in milliseconds since the epoch. -/
  expiresAt : Option UInt64
  deriving DecidableEq

namespace Entry

/-- The bytes of an entry. -/
def bytes (e : Entry) : Bytes :=
  Field.ofText e.key ++ Bytes.ofWord32 e.dimension ++ Field.ofBlob e.data
    ++ Field.ofOptional Bytes.ofWord64 e.expiresAt

/-- Reads an entry. -/
def read : Field.Reader Entry := fun b => do
  let (key, b) ← Field.text b
  let (dimension, b) ← Field.word32 b
  let (data, b) ← Field.blob b
  let (expiresAt, b) ← Field.optional Field.word64 b
  return ({ key, dimension, data, expiresAt }, b)

end Entry

/-! ## Writing -/

/-- The vectors of a shard at one moment, and when their keys expire. -/
structure Image where
  store : Store
  expiries : Table UInt64 := {}

namespace Image

/-- How many vectors an image has. -/
def size (i : Image) : Nat :=
  i.store.size

/-- Whether an image has no vectors. -/
def isEmpty (i : Image) : Bool :=
  i.store.isEmpty

/-- The header of an image. -/
def header (i : Image) : Header where
  magic
  version
  dimension := i.store.dimension.toUInt32
  count := UInt64.ofNat i.size

/-- The entries of an image, in the order of the slots. -/
def entries (i : Image) : List Entry :=
  i.store.toList.map fun (key, components) =>
    { key
      dimension := UInt32.ofNat components.length
      data := Bytes.ofWords32 components
      expiresAt := i.expiries.get? key }

/-- The file of an image. -/
def bytes (i : Image) : Bytes :=
  Checksum.sealed (i.header.bytes ++ i.entries.flatMap Entry.bytes)

end Image

/-! ## Reading -/

/-- A receiver of entries, with a state. -/
abbrev Sink (σ : Type) := σ → Entry → Except Fault Unit × σ

/-- Hands out `left` entries, the first of them the one with number `index`; answers the bytes that
are left, and the state. -/
def handOut {σ : Type} (sink : Sink σ) (state : σ) (body : Bytes) :
    (left index : Nat) → Except Fault Bytes × σ
  | 0, _ => (.ok body, state)
  | left + 1, index =>
    match Entry.read body with
    | .error why => (.error (.corrupt (.entry index why)), state)
    | .ok (entry, rest) =>
      match sink state entry with
      | (.error e, state) => (.error e, state)
      | (.ok (), state) => handOut sink state rest left (index + 1)

/-- The header of an unsealed file, which has to fit the configured dimension, and the bytes after
it. -/
def open? (body : Bytes) (dimension : UInt64) : Except Fault (Header × Bytes) :=
  match Header.read body with
  | .error why => .error (.corrupt (.header why))
  | .ok (h, rest) =>
    if h.magic ≠ magic then .error (.corrupt .notSnapshot)
    else if version < h.version then .error (.corrupt (.formatVersion h.version))
    else if h.dimension.toUInt64 ≠ dimension then
      .error (.corrupt (.snapshotDimension h.dimension dimension))
    else .ok (h, rest)

/-- Walks through a file and hands every entry to the sink. The checksum and the header are verified
before the first; any fault, also one of the sink, ends the walk. Answers the number of entries. -/
def walk {σ : Type} (sink : Sink σ) (state : σ) (file : Bytes) (dimension : UInt64) :
    Except Fault UInt64 × σ :=
  match Checksum.unsealed file >>= (open? · dimension) with
  | .error e => (.error e, state)
  | .ok (h, rest) =>
    match handOut sink state rest h.count.toNat 0 with
    | (.error e, state) => (.error e, state)
    | (.ok [], state) => (.ok h.count, state)
    | (.ok left, state) => (.error (.corrupt (.trailing left.length)), state)

end Nearest.Snapshot
