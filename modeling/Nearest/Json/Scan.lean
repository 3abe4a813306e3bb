import Nearest.Json.Cursor
import Nearest.Number.Numeral
import Nearest.Text.Utf8

/-!
# Scanning JSON values

The parts of JSON text: names, numbers, strings, the marks between the members of a list or an
object, and values that are passed over (`Json.skipValue`).
-/

namespace Nearest.Json

/-- Reads from a cursor and answers the cursor behind what was read. -/
abbrev Reader (α : Type) := Cursor → Except Fault (α × Cursor)

/-- Passes the bytes of a name whose first byte has been passed. -/
def ident : Bytes → Reader Unit
  | [], c => .ok ((), c)
  | b :: name, c =>
    match c.peek? with
    | none => .error (c.fault .endInValue)
    | some found =>
      if found = b then ident name c.next else .error (c.next.fault .identExpected)

def isDigit (b : UInt8) : Bool := 0x30 ≤ b && b ≤ 0x39

/-! ## Numbers -/

/-- A number, as exactly as a reader keeps it. -/
inductive Number
  | unsigned (n : Nat)
  | signed (n : Int)
  /-- A binary64 pattern. -/
  | float (w : UInt64)

/-- How a report names a number. -/
def Number.found : Number → Found
  | .unsigned n => .unsigned n
  | .signed n => .signed n
  | .float w => .float w

/-- Significant digits that still fit into a word, and how many digits were read or left out after
them: the number is `significand * 10 ^ exponent`. -/
structure Digits where
  significand : Nat
  exponent : Int

/-- Takes digits as long as the number fits into 64 bits. After the point each digit taken lowers
the exponent by one. -/
def takeDigits (afterPoint : Bool) (d : Digits) (c : Cursor) : Digits × Cursor :=
  match h : c.rest with
  | [] => (d, c)
  | b :: rest =>
    let n := 10 * d.significand + (b.toNat - 0x30)
    if isDigit b && n < UInt64.size then
      have := Cursor.length_next_lt h
      takeDigits afterPoint ⟨n, if afterPoint then d.exponent - 1 else d.exponent⟩ c.next
    else (d, c)
  termination_by c.rest.length

/-- The binary64 number `significand * 10 ^ exponent`, computed by one rounded product or quotient
with a power of ten up to the 308th, after quotients by that power while the exponent is below. -/
def scaled (d : Digits) : Option Float :=
  let f := Float.ofNat d.significand
  let power := fun n : Nat => Float.ofScientific 1 false n
  if 0 ≤ d.exponent then
    if 308 < d.exponent then if d.significand = 0 then some f else none
    else
      let f := f * power d.exponent.toNat
      if f.isInf then none else some f
  else
    let e := (-d.exponent).toNat
    let times := min ((e - 1) / 308) 4
    let f := times.repeat (· / power 308) f
    if 1600 < e then some 0.0 else some (f / power (e - 308 * times))

/-- The number with these digits. -/
def floatOf (positive : Bool) (d : Digits) : Reader Number := fun c =>
  match scaled d with
  | some f => .ok (.float (if positive then f else -f).toBits, c)
  | none => .error (c.fault .numberOutOfRange)

/-- Reads the exponent that starts here with its letter. -/
def exponentPart (positive : Bool) (d : Digits) : Reader Number := fun c =>
  let c := c.next
  let (up, c) := match c.peek? with
    | some 0x2b => (true, c.next)
    | some 0x2d => (false, c.next)
    | _ => (true, c)
  match c.peek? with
  | none => .error (c.fault .endInValue)
  | some b =>
    if !isDigit b then .error (c.next.fault .invalidNumber)
    else
      let fits := fun n : Nat => n < 0x80000000
      let (e, c) := takeExponent fits 0 c
      match c.peek? with
      | some b =>
        -- A further digit would not fit: the number is infinite or zero.
        if isDigit b then
          if d.significand ≠ 0 && up then .error (c.next.fault .numberOutOfRange)
          else .ok (.float (if positive then 0 else 0x8000000000000000), c.skipWhile isDigit)
        else floatOf positive ⟨d.significand, if up then d.exponent + e else d.exponent - e⟩ c
      | none => floatOf positive ⟨d.significand, if up then d.exponent + e else d.exponent - e⟩ c
where
  /-- Takes the digits of an exponent as long as it fits. -/
  takeExponent (fits : Nat → Bool) (e : Nat) (c : Cursor) : Nat × Cursor :=
    match h : c.rest with
    | [] => (e, c)
    | b :: rest =>
      let n := 10 * e + (b.toNat - 0x30)
      if isDigit b && fits n then
        have := Cursor.length_next_lt h
        takeExponent fits n c.next
      else (e, c)
    termination_by c.rest.length

/-- Whether the next byte is the letter of an exponent. -/
def atExponent (c : Cursor) : Bool :=
  c.peek? == some 0x65 || c.peek? == some 0x45

/-- Reads what may follow the significant digits, starting with the point. -/
def decimalPart (positive : Bool) (d : Digits) : Reader Number := fun c =>
  let start := c.next
  let (taken, c) := takeDigits true d start
  let more := (c.peek?).any isDigit
  if taken.exponent = d.exponent && !more then
    match c.peek? with
    | some _ => .error (c.faultAtNext .invalidNumber)
    | none => .error (c.faultAtNext .endInValue)
  else
    let c := c.skipWhile isDigit
    if atExponent c then exponentPart positive taken c else floatOf positive taken c

/-- Reads the rest of a number of which the sign has been read. -/
def number (positive : Bool) : Reader Number := fun c =>
  match c.peek? with
  | none => .error (c.fault .endInValue)
  | some b =>
    if b = 0x30 && ((c.next.peek?).any isDigit) then .error (c.next.faultAtNext .invalidNumber)
    else if !isDigit b then .error (c.next.fault .invalidNumber)
    else
      let (d, c) := takeDigits false ⟨0, 0⟩ c
      let whole := c
      let c := c.skipWhile isDigit
      let skipped := c.column - whole.column
      let long := 0 < skipped
      let d : Digits := ⟨d.significand, skipped⟩
      if c.peek? == some 0x2e then decimalPart positive d c
      else if atExponent c then exponentPart positive d c
      else if long then floatOf positive d c
      else if positive then .ok (.unsigned d.significand, c)
      else if 0 < d.significand && d.significand ≤ 0x8000000000000000 then
        .ok (.signed (-d.significand), c)
      else floatOf false d c

/-- Reads a number, of which the next byte is the first. -/
def signedNumber : Reader Number := fun c =>
  if c.peek? == some 0x2d then number false c.next else number true c

/-! ## Strings -/

/-- The value of a hexadecimal digit. -/
def hexDigit? (b : UInt8) : Option Nat :=
  if isDigit b then some (b.toNat - 0x30)
  else if 0x61 ≤ b && b ≤ 0x66 then some (b.toNat - 0x57)
  else if 0x41 ≤ b && b ≤ 0x46 then some (b.toNat - 0x37)
  else none

/-- Reads the four digits of an escaped code unit. -/
def hexUnit : Reader Nat := fun c =>
  match c.rest with
  | a :: b :: d :: e :: _ =>
    let after := c.next.next.next.next
    match hexDigit? a, hexDigit? b, hexDigit? d, hexDigit? e with
    | some a, some b, some d, some e => .ok (((a * 16 + b) * 16 + d) * 16 + e, after)
    | _, _, _, _ => .error (after.fault .invalidEscape)
  | _ => .error ((c.skipWhile fun _ => true).fault .endInString)

/-- Reads an escaped character after its letter, as UTF-8. A character beyond the first plane takes
two units. -/
def unicodeEscape : Reader Bytes := fun c => do
  let (n, c) ← hexUnit c
  if 0xdc00 ≤ n && n ≤ 0xdfff then throw (c.fault .loneSurrogate)
  if n < 0xd800 || 0xdbff < n then return (Bytes.ofText (String.singleton (Char.ofNat n)), c)
  let c ← expect 0x5c c
  let c ← expect 0x75 c
  let (low, c) ← hexUnit c
  if low < 0xdc00 || 0xdfff < low then throw (c.fault .loneSurrogate)
  let point := (n - 0xd800) * 0x400 + (low - 0xdc00) + 0x10000
  return (Bytes.ofText (String.singleton (Char.ofNat point)), c)
where
  /-- Passes one byte that has to be there between two units. -/
  expect (b : UInt8) (c : Cursor) : Except Fault Cursor :=
    match c.peek? with
    | none => .error (c.fault .endInString)
    | some found =>
      if found = b then .ok c.next else .error (c.next.fault .unexpectedEndOfHexEscape)

/-- The byte that an escape of one letter stands for. -/
def shortEscape? (b : UInt8) : Option UInt8 :=
  if b = 0x22 || b = 0x5c || b = 0x2f then some b
  else if b = 0x62 then some 0x08
  else if b = 0x66 then some 0x0c
  else if b = 0x6e then some 0x0a
  else if b = 0x72 then some 0x0d
  else if b = 0x74 then some 0x09
  else none

/-- Reads an escape after its backslash. -/
def escape : Reader Bytes := fun c =>
  match c.peek? with
  | none => .error (c.fault .endInString)
  | some b =>
    match shortEscape? b with
    | some b => .ok ([b], c.next)
    | none => if b = 0x75 then unicodeEscape c.next else .error (c.next.fault .invalidEscape)

/-- Passes an escape after its backslash, without asking whether it stands for a character. -/
def skipEscape : Reader Bytes := fun c =>
  match c.peek? with
  | none => .error (c.fault .endInString)
  | some b =>
    if (shortEscape? b).isSome then .ok ([], c.next)
    else if b = 0x75 then (hexUnit c.next).map fun (_, c) => ([], c)
    else .error (c.next.fault .invalidEscape)

/-- Reads the bytes of a string up to its closing quote, one piece for each unit of `fuel`. -/
def stringBytes (escape : Reader Bytes) (passControl : Bool) : Nat → Bytes → Reader Bytes
  | 0, _, c => .error (c.fault .endInString)
  | fuel + 1, read, c =>
    match c.peek? with
    | none => .error (c.fault .endInString)
    | some b =>
      if b = 0x22 then .ok (read.reverse, c.next)
      else if b = 0x5c then do
        let (bytes, c) ← escape c.next
        stringBytes escape passControl fuel (bytes.reverse ++ read) c
      else if b < 0x20 then
        .error ((if passControl then c.next else c).fault .controlCharacter)
      else stringBytes escape passControl fuel (b :: read) c.next

/-- The fault of a string that has been passed and stands for bytes that are not UTF-8. Its place is
counted back from here, over as many bytes as there are from the first faulty one to the last: an
escape counts as what it stands for. -/
def unicodeFault (bytes : Bytes) (c : Cursor) : Fault :=
  let valid := ((Utf8.fault? bytes).map (·.validUpTo)).getD 0
  ⟨.invalidUnicode, c.line, c.column - (bytes.length - valid)⟩

/-- Reads a string after its opening quote. -/
def string : Reader String := fun c => do
  let (bytes, c) ← stringBytes escape true (c.rest.length + 1) [] c
  match Bytes.text? bytes with
  | some s => return (s, c)
  | none => throw (unicodeFault bytes c)

/-- Passes a string after its opening quote. -/
def skipString : Reader Unit := fun c =>
  (stringBytes skipEscape false (c.rest.length + 1) [] c).map fun (_, c) => ((), c)

/-! ## Values that are passed over -/

/-- Passes an exponent that starts here with its letter. -/
def skipExponent : Reader Unit := fun c =>
  let c := c.next
  let c := if c.peek? == some 0x2b || c.peek? == some 0x2d then c.next else c
  if (c.peek?).any isDigit then .ok ((), c.skipWhile isDigit)
  else .error (c.next.fault .invalidNumber)

/-- Passes a number without sign. -/
def skipNumber : Reader Unit := fun c =>
  if c.peek? == some 0x30 && (c.next.peek?).any isDigit then
    .error (c.next.faultAtNext .invalidNumber)
  else if !(c.peek?).any isDigit then .error (c.next.fault .invalidNumber)
  else
    let c := c.skipWhile isDigit
    if c.peek? == some 0x2e then
      let c := c.next
      if !(c.peek?).any isDigit then .error (c.faultAtNext .invalidNumber)
      else
        let c := c.skipWhile isDigit
        if atExponent c then skipExponent c else .ok ((), c)
    else if atExponent c then skipExponent c
    else .ok ((), c)

/-- What is being passed over. -/
inductive Part
  /-- One value. -/
  | value
  /-- The values of a list after its first, up to the bracket. -/
  | restOfList
  /-- The members of an object up to the brace, from the key of one of them. -/
  | members

/-- Passes a part of a text. Each step passes at least one byte or hands over to one that does, so
two units of `fuel` for each byte are enough. -/
def skipPart : Nat → Part → Reader Unit
  | 0, _, c => .error (c.fault .endInValue)
  | fuel + 1, .value, c =>
    let c := c.skipBlanks
    match c.peek? with
    | none => .error (c.faultAtNext .endInValue)
    | some 0x6e => ident [0x75, 0x6c, 0x6c] c.next
    | some 0x74 => ident [0x72, 0x75, 0x65] c.next
    | some 0x66 => ident [0x61, 0x6c, 0x73, 0x65] c.next
    | some 0x2d => skipNumber c.next
    | some 0x22 => skipString c.next
    | some 0x5b =>
      let c := c.next.skipBlanks
      match c.peek? with
      | none => .error (c.faultAtNext .endInList)
      | some 0x5d => .ok ((), c.next)
      | some _ => do
        let ((), c) ← skipPart fuel .value c
        skipPart fuel .restOfList c
    | some 0x7b =>
      let c := c.next.skipBlanks
      match c.peek? with
      | none => .error (c.faultAtNext .endInObject)
      | some 0x7d => .ok ((), c.next)
      | some _ => skipPart fuel .members c
    | some b => if isDigit b then skipNumber c else .error (c.faultAtNext .valueExpected)
  | fuel + 1, .restOfList, c =>
    let c := c.skipBlanks
    match c.peek? with
    | none => .error (c.faultAtNext .endInList)
    | some 0x5d => .ok ((), c.next)
    | some 0x2c => do
      let ((), c) ← skipPart fuel .value c.next
      skipPart fuel .restOfList c
    | some _ => .error (c.faultAtNext .listCommaExpected)
  | fuel + 1, .members, c =>
    let c := c.skipBlanks
    match c.peek? with
    | none => .error (c.faultAtNext .endInObject)
    | some 0x22 => do
      let ((), c) ← skipString c.next
      let c := c.skipBlanks
      match c.peek? with
      | none => throw (c.faultAtNext .endInObject)
      | some 0x3a =>
        let ((), c) ← skipPart fuel .value c.next
        let c := c.skipBlanks
        match c.peek? with
        | none => throw (c.faultAtNext .endInObject)
        | some 0x7d => return ((), c.next)
        | some 0x2c => skipPart fuel .members c.next
        | some _ => throw (c.faultAtNext .objectCommaExpected)
      | some _ => throw (c.faultAtNext .colonExpected)
    | some _ => .error (c.faultAtNext .keyNotString)

/-- Passes one value. -/
def skipValue : Reader Unit := fun c =>
  skipPart (2 * c.rest.length + 2) .value c

/-! ## Values that are wanted -/

/-- The fault of a value that is not of the kind that is wanted; the value itself may be at fault
before that. The value's place is behind it, or before an opening bracket or brace. -/
def unwanted (wanted : String) (c : Cursor) : Fault :=
  let wrong := fun (found : Found) (c : Cursor) => c.fault (.wrongType found wanted)
  let afterIdent := fun (name : Bytes) (found : Found) =>
    match ident name c.next with
    | .ok ((), c) => wrong found c
    | .error f => f
  match c.peek? with
  | some 0x6e => afterIdent [0x75, 0x6c, 0x6c] .null
  | some 0x74 => afterIdent [0x72, 0x75, 0x65] (.boolean true)
  | some 0x66 => afterIdent [0x61, 0x6c, 0x73, 0x65] (.boolean false)
  | some 0x22 =>
    match string c.next with
    | .ok (s, c) => wrong (.text s) c
    | .error f => f
  | some 0x5b => wrong .sequence c
  | some 0x7b => wrong .map c
  | some b =>
    if b = 0x2d || isDigit b then
      match signedNumber c with
      | .ok (n, c) => wrong n.found c
      | .error f => f
    else c.faultAtNext .valueExpected
  | none => c.faultAtNext .valueExpected

/-- Reads a natural number of 64 bits. -/
def unsigned (wanted : String) : Reader UInt64 := fun c =>
  let c := c.skipBlanks
  match c.peek? with
  | none => .error (c.faultAtNext .endInValue)
  | some b =>
    if b = 0x2d || isDigit b then do
      let (n, c) ← signedNumber c
      match n with
      | .unsigned n => return (UInt64.ofNat n, c)
      | .signed n => throw (c.fault (.wrongValue (.signed n) wanted))
      | .float w => throw (c.fault (.wrongType (.float w) wanted))
    else .error (unwanted wanted c)

/-- Reads a text. -/
def text (wanted : String) : Reader String := fun c =>
  let c := c.skipBlanks
  match c.peek? with
  | none => .error (c.faultAtNext .endInValue)
  | some 0x22 => string c.next
  | some _ => .error (unwanted wanted c)

end Nearest.Json
