import Nearest.Bytes.Basic
import Nearest.Number.Shortest
import Nearest.Text.Classes

/-!
# Reading JSON text

A reader of JSON walks over the bytes with a cursor that counts lines and columns, so that a fault
can say where it was met. `Json.Problem` is what can be wrong, `Json.Fault` a problem with its
place.
-/

namespace Nearest.Json

/-- A value of the wrong kind, as far as a report names it. -/
inductive Found
  | null
  | boolean (b : Bool)
  | unsigned (n : Nat)
  | signed (n : Int)
  /-- A number with a point, an exponent or too many digits, as its binary64 pattern. -/
  | float (w : UInt64)
  | text (s : String)
  | sequence
  | map

/-- What is wrong with a text. -/
inductive Problem
  | endInList
  | endInObject
  | endInString
  | endInValue
  | colonExpected
  | listCommaExpected
  | objectCommaExpected
  | identExpected
  | valueExpected
  | invalidEscape
  | invalidNumber
  | numberOutOfRange
  | invalidUnicode
  | controlCharacter
  | keyNotString
  | loneSurrogate
  | unexpectedEndOfHexEscape
  | trailingComma
  | trailingCharacters
  /-- A value of another kind than is wanted. -/
  | wrongType (found : Found) (wanted : String)
  /-- A value of the right kind outside its range. -/
  | wrongValue (found : Found) (wanted : String)
  | duplicateField (name : String)

/-- A problem and the place where it was met: the line, and how many of its bytes come before. -/
structure Fault where
  problem : Problem
  line : Nat
  column : Nat

/-- A hexadecimal numeral without leading zeros. -/
def hex (n : Nat) : String :=
  String.ofList (Nat.toDigits 16 n)

/-- One character of a quoted text. -/
def quotedChar (c : Char) : String :=
  if c = '"' then "\\\""
  else if c = '\\' then "\\\\"
  else if c = '\t' then "\\t"
  else if c = '\n' then "\\n"
  else if c = '\r' then "\\r"
  else if c.toNat = 0 then "\\0"
  else if Text.isVisible c then String.singleton c
  else "\\u\x7b" ++ hex c.toNat ++ "\x7d"

/-- A text between quotes, with the characters that are not visible escaped. -/
def quoted (s : String) : String :=
  "\"" ++ String.join (s.toList.map quotedChar) ++ "\""

/-- How a report names a value. -/
def Found.message : Found → String
  | .null => "null"
  | .boolean b => "boolean `" ++ toString b ++ "`"
  | .unsigned n => "integer `" ++ toString n ++ "`"
  | .signed n => "integer `" ++ toString n ++ "`"
  | .float w => "floating point `" ++ Shortest.render w ++ "`"
  | .text s => "string " ++ quoted s
  | .sequence => "sequence"
  | .map => "map"

/-- The text that reports a problem. -/
def Problem.message : Problem → String
  | .endInList => "EOF while parsing a list"
  | .endInObject => "EOF while parsing an object"
  | .endInString => "EOF while parsing a string"
  | .endInValue => "EOF while parsing a value"
  | .colonExpected => "expected `:`"
  | .listCommaExpected => "expected `,` or `]`"
  | .objectCommaExpected => "expected `,` or `\x7d`"
  | .identExpected => "expected ident"
  | .valueExpected => "expected value"
  | .invalidEscape => "invalid escape"
  | .invalidNumber => "invalid number"
  | .numberOutOfRange => "number out of range"
  | .invalidUnicode => "invalid unicode code point"
  | .controlCharacter => "control character (\\u0000-\\u001F) found while parsing a string"
  | .keyNotString => "key must be a string"
  | .loneSurrogate => "lone leading surrogate in hex escape"
  | .unexpectedEndOfHexEscape => "unexpected end of hex escape"
  | .trailingComma => "trailing comma"
  | .trailingCharacters => "trailing characters"
  | .wrongType found wanted => "invalid type: " ++ found.message ++ ", expected " ++ wanted
  | .wrongValue found wanted => "invalid value: " ++ found.message ++ ", expected " ++ wanted
  | .duplicateField name => "duplicate field `" ++ name ++ "`"

/-- The text that reports a fault. -/
def Fault.message (f : Fault) : String :=
  s!"{f.problem.message} at line {f.line} column {f.column}"

/-- A place in a text. -/
structure Cursor where
  /-- The bytes that are left. -/
  rest : Bytes
  /-- The number of the line, from one. -/
  line : Nat := 1
  /-- How many bytes of the line have been passed. -/
  column : Nat := 0

namespace Cursor

/-- Passes one byte. -/
def next (c : Cursor) : Cursor :=
  match c.rest with
  | [] => c
  | b :: rest => if b = 0x0a then ⟨rest, c.line + 1, 0⟩ else ⟨rest, c.line, c.column + 1⟩

/-- Passing a byte leaves fewer of them. -/
theorem length_next_lt {c : Cursor} {b : UInt8} {rest : Bytes} (h : c.rest = b :: rest) :
    c.next.rest.length < c.rest.length := by
  unfold next
  rw [h]
  dsimp only
  split <;> simp

/-- A problem met here, with all the bytes before it passed. -/
def fault (c : Cursor) (p : Problem) : Fault :=
  ⟨p, c.line, c.column⟩

/-- A problem with the next byte. -/
def faultAtNext (c : Cursor) (p : Problem) : Fault :=
  c.next.fault p

/-- Passes bytes as long as they satisfy `p`. -/
def skipWhile (p : UInt8 → Bool) (c : Cursor) : Cursor :=
  match h : c.rest with
  | [] => c
  | b :: rest =>
    if p b then
      have := length_next_lt h
      skipWhile p c.next
    else c
  termination_by c.rest.length

/-- Passes the blanks of JSON. -/
def skipBlanks (c : Cursor) : Cursor :=
  c.skipWhile fun b => b = 0x20 || b = 0x0a || b = 0x09 || b = 0x0d

/-- The next byte. -/
def peek? (c : Cursor) : Option UInt8 :=
  c.rest.head?

end Cursor

end Nearest.Json
