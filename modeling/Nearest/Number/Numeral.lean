import Nearest.Number.Binary32
import Nearest.Text.Classes

/-!
# Numerals

How numbers are read from text.

* `Numeral.integer?` reads an optional sign and decimal digits; `Numeral.int64?` and
  `Numeral.word64?` keep to the range of a word.
* `Numeral.binary32?` reads a decimal number with an optional point and exponent, or the name of an
  infinity or a NaN, and answers the nearest 32-bit pattern.
-/

namespace Nearest.Numeral

/-- The value of a decimal digit. -/
def digit? (c : Char) : Option Nat :=
  if '0' ≤ c && c ≤ '9' then some (c.toNat - '0'.toNat) else none

/-- The number written by a run of digits after a number already read. -/
def value (read : Nat) (digits : List Char) : Nat :=
  digits.foldl (fun n c => 10 * n + (digit? c).getD 0) read

/-- The number that a non-empty text of digits alone writes. -/
def natural? (cs : List Char) : Option Nat :=
  if !cs.isEmpty && cs.all (fun c => (digit? c).isSome) then some (value 0 cs) else none

/-- The sign at the head of a text, minus being `true`, and the rest. -/
def signed : List Char → Bool × List Char
  | '-' :: rest => (true, rest)
  | '+' :: rest => (false, rest)
  | cs => (false, cs)

/-- The integer written by an optional sign and digits. -/
def integer? (cs : List Char) : Option Int :=
  let (minus, digits) := signed cs
  (natural? digits).map fun n => if minus then -(n : Int) else n

/-- An integer of 64 bits with sign. -/
def int64? (cs : List Char) : Option Int :=
  (integer? cs).filter fun n => -0x8000000000000000 ≤ n && n ≤ 0x7fffffffffffffff

/-- A word of 64 bits; the only sign it may have is plus. -/
def word64? (cs : List Char) : Option UInt64 :=
  let digits := match cs with
    | '+' :: rest => rest
    | cs => cs
  ((natural? digits).filter (· < UInt64.size)).map UInt64.ofNat

/-- A decimal number without sign: `digits`, with the last `places` of them after the point, times
`10 ^ exponent`. -/
structure Decimal where
  digits : List Char
  places : Nat
  exponent : Int

/-- The exponent at the end of a number, after its letter; zero where there is none. -/
def exponent? : List Char → Option Int
  | [] => some 0
  | 'e' :: rest | 'E' :: rest => integer? rest
  | _ => none

/-- Reads a decimal number without sign: digits with an optional point among or beside them, at
least one digit, and an optional exponent. -/
def decimal? (cs : List Char) : Option Decimal :=
  let isDigit := fun c => (digit? c).isSome
  let whole := cs.takeWhile isDigit
  let (fraction, rest) := match cs.dropWhile isDigit with
    | '.' :: rest => (rest.takeWhile isDigit, rest.dropWhile isDigit)
    | rest => ([], rest)
  if whole.isEmpty && fraction.isEmpty then none
  else (exponent? rest).map fun e => ⟨whole ++ fraction, fraction.length, e⟩

/-- The 32-bit pattern nearest to a decimal number. A number whose leading digit stands beyond the
forty-fifth place before or the fiftieth after the point is beyond the range, and not computed. -/
def Decimal.nearest (d : Decimal) : UInt32 :=
  let n := value 0 d.digits
  let e := d.exponent - d.places
  let size := (d.digits.dropWhile (· = '0')).length
  if n = 0 then 0
  else if e + size > 45 then Binary32.infinity
  else if e + size < -50 then 0
  else if 0 ≤ e then Binary32.nearest (n * Nat.pow 10 e.toNat) 1
  else Binary32.nearest n (Nat.pow 10 (-e).toNat)

/-- The pattern of a number without sign; the names of infinity and NaN in any case. -/
def magnitude? (cs : List Char) : Option UInt32 :=
  let name := String.ofList (cs.map Char.toLower)
  if name = "inf" || name = "infinity" then some Binary32.infinity
  else if name = "nan" then some Binary32.nan
  else (decimal? cs).map Decimal.nearest

/-- The 32-bit pattern nearest to the number that a text writes. -/
def binary32? (cs : List Char) : Option UInt32 :=
  let (minus, rest) := signed cs
  (magnitude? rest).map fun w => if minus then Binary32.negated w else w

end Nearest.Numeral
