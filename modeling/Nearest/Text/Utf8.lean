import Nearest.Bytes.Basic

/-!
# Reading UTF-8 byte by byte

Where a byte string stops being UTF-8, and how far the fault reaches: `Utf8.fault?`. A fault is
either a sequence that no continuation could mend, with its length, or a sequence cut off by the
end. `Utf8.lossy` reads past faults and leaves a replacement character for each.
-/

namespace Nearest.Utf8

/-- What stands at the head of a non-empty byte string. -/
inductive Head
  /-- A character of `size` bytes. -/
  | character (size : Nat)
  /-- The first `size` bytes begin no character, whatever follows. -/
  | invalid (size : Nat)
  /-- All the bytes begin a character, and the rest of it is missing. -/
  | incomplete
  deriving DecidableEq

/-- A byte that continues a character. -/
def isContinuation (b : UInt8) : Bool :=
  0x80 ≤ b && b ≤ 0xbf

/-- How many more bytes follow a first byte, and which range the next one is from. -/
def following (first : UInt8) : Option (Nat × UInt8 × UInt8) :=
  if first < 0x80 then some (0, 0x80, 0xbf)
  else if first < 0xc2 then none
  else if first < 0xe0 then some (1, 0x80, 0xbf)
  else if first = 0xe0 then some (2, 0xa0, 0xbf)
  else if first = 0xed then some (2, 0x80, 0x9f)
  else if first < 0xf0 then some (2, 0x80, 0xbf)
  else if first = 0xf0 then some (3, 0x90, 0xbf)
  else if first < 0xf4 then some (3, 0x80, 0xbf)
  else if first = 0xf4 then some (3, 0x80, 0x8f)
  else none

/-- Follows `left` continuation bytes after `seen` bytes of a character. -/
def continued (seen : Nat) : Nat → Bytes → Head
  | 0, _ => .character seen
  | _ + 1, [] => .incomplete
  | left + 1, b :: rest =>
    if isContinuation b then continued (seen + 1) left rest else .invalid seen

/-- The head of a byte string that starts with `first`. -/
def head (first : UInt8) (rest : Bytes) : Head :=
  match following first with
  | none => .invalid 1
  | some (0, _) => .character 1
  | some (left + 1, low, high) =>
    match rest with
    | [] => .incomplete
    | b :: rest => if low ≤ b && b ≤ high then continued 2 left rest else .invalid 1

/-- Where a byte string stops being UTF-8. -/
structure Fault where
  /-- How many bytes before the fault are UTF-8. -/
  validUpTo : Nat
  /-- The length of the faulty sequence; none if the end cuts it off. -/
  size : Option Nat
  deriving DecidableEq

namespace Fault

/-- The text that reports a fault. -/
def message (f : Fault) : String :=
  match f.size with
  | some n => s!"invalid utf-8 sequence of {n} bytes from index {f.validUpTo}"
  | none => s!"incomplete utf-8 byte sequence from index {f.validUpTo}"

end Fault

/-- The first fault at or after index `i`; `skip` bytes belong to a character already read. -/
def faultFrom (i : Nat) : Nat → Bytes → Option Fault
  | _, [] => none
  | skip + 1, _ :: rest => faultFrom (i + 1) skip rest
  | 0, first :: rest =>
    match head first rest with
    | .character size => faultFrom (i + 1) (size - 1) rest
    | .invalid size => some ⟨i, some size⟩
    | .incomplete => some ⟨i, none⟩

/-- The first fault of a byte string. -/
def fault? (b : Bytes) : Option Fault :=
  faultFrom 0 0 b

/-- The bytes of a byte string with each faulty sequence replaced by the character U+FFFD. The next
`pending` bytes belong to a sequence already looked at, which is kept or dropped. -/
def mended (keep : Bool) (pending : Nat) : Bytes → Bytes
  | [] => []
  | first :: rest =>
    match pending with
    | pending + 1 =>
      if keep then first :: mended keep pending rest else mended keep pending rest
    | 0 =>
      match head first rest with
      | .character size => first :: mended true (size - 1) rest
      | .invalid size => 0xef :: 0xbf :: 0xbd :: mended false (size - 1) rest
      | .incomplete => [0xef, 0xbf, 0xbd]

/-- The text of a byte string, each faulty sequence read as U+FFFD. -/
def lossy (b : Bytes) : String :=
  (Bytes.text? (mended true 0 b)).getD ""

end Nearest.Utf8
