import Nearest.Bytes.Basic
import Nearest.Text.Utf8

/-!
# Fixed-width fields

Records are written field by field: words of fixed width with the least significant byte first, a
text or a byte string after its length, an optional field after a byte that is 0 or 1. Each kind of
field has a writer `Field.of…` and a reader, which answers the value and the bytes after it.
-/

namespace Nearest

namespace Field

/-- Why a field cannot be read. -/
inductive Fault
  /-- The bytes end inside a word, a byte string or a tag. -/
  | ended
  /-- The bytes end inside a text. -/
  | textEnded
  /-- A text is not UTF-8. -/
  | notUtf8 (why : Utf8.Fault)
  /-- The byte before an optional field is neither 0 nor 1. -/
  | tag (found : UInt8)
  deriving DecidableEq

/-- Reads one field and answers the bytes after it. -/
abbrev Reader (α : Type) := Bytes → Except Fault (α × Bytes)

/-- A word of four bytes. -/
def word32 : Reader UInt32
  | a :: b :: c :: d :: rest => .ok (Bytes.word32 a b c d, rest)
  | _ => .error .ended

/-- A word of eight bytes. -/
def word64 : Reader UInt64 := fun b => do
  let (low, b) ← word32 b
  let (high, b) ← word32 b
  return (Bytes.word64 low high, b)

/-- A byte string after its length. -/
def blob : Reader Bytes := fun b => do
  let (n, b) ← word64 b
  match Bytes.splitExactly n.toNat b with
  | some (taken, rest) => .ok (taken, rest)
  | none => .error .ended

/-- The text with these bytes, or where they stop being UTF-8. -/
def textOf (b : Bytes) : Except Fault String :=
  match Bytes.text? b with
  | some s => .ok s
  | none => .error (.notUtf8 ((Utf8.fault? b).getD ⟨0, none⟩))

/-- A text after its length in bytes. -/
def text : Reader String := fun b => do
  let (n, b) ← word64 b
  match Bytes.splitExactly n.toNat b with
  | some (taken, rest) => return (← textOf taken, rest)
  | none => .error .textEnded

/-- An optional field. -/
def optional {α : Type} (field : Reader α) : Reader (Option α)
  | 0 :: rest => .ok (none, rest)
  | 1 :: rest => do
    let (a, rest) ← field rest
    return (some a, rest)
  | found :: _ => .error (.tag found)
  | [] => .error .ended

/-- The bytes of a byte string after its length. -/
def ofBlob (b : Bytes) : Bytes :=
  Bytes.ofWord64 (UInt64.ofNat b.length) ++ b

/-- The bytes of a text after its length. -/
def ofText (s : String) : Bytes :=
  ofBlob (Bytes.ofText s)

/-- The bytes of an optional field. -/
def ofOptional {α : Type} (field : α → Bytes) : Option α → Bytes
  | none => [0]
  | some a => 1 :: field a

/-- How the bytes reach the reader: all at hand, or one after the other from a stream. The two
report a missing byte in different words. -/
inductive Source
  | atHand
  | stream

namespace Fault

/-- The text that reports a fault. -/
def message (source : Source) : Fault → String
  | .ended =>
    match source with
    | .atHand => "io error: unexpected end of file"
    | .stream => "io error: failed to fill whole buffer"
  | .textEnded =>
    match source with
    | .atHand => "io error: "
    | .stream => "io error: failed to fill whole buffer"
  | .notUtf8 why => "string is not valid utf8: " ++ why.message
  | .tag found => s!"tag for enum is not valid, found {found.toNat}"

end Fault

end Field

end Nearest
