import Nearest.Number.Binary32

/-!
# Numbers with a fixed count of decimal places

`Fixed.render` writes a finite binary64 number with a given count of places after the point. The
exact value is rounded, a tie to the even last digit, and the sign of the pattern is kept, also
where all digits are zero.
-/

namespace Nearest.Fixed

/-- The magnitude of a finite binary64 pattern, as a ratio with a positive denominator. -/
def ratio (w : UInt64) : Nat × Nat :=
  let exponent := ((w >>> 52) &&& 0x7ff).toNat
  let fraction := (w &&& 0xfffffffffffff).toNat
  if exponent = 0 then (fraction, 1 <<< 1074)
  else if exponent < 1075 then (fraction + 0x10000000000000, 1 <<< (1075 - exponent))
  else ((fraction + 0x10000000000000) <<< (exponent - 1075), 1)

/-- A natural number with at least `width` digits. -/
def padded (width n : Nat) : String :=
  let digits := Nat.toDigits 10 n
  String.ofList (List.replicate (width - digits.length) '0' ++ digits)

/-- A natural number of units of the last place, with its point. -/
def withPoint (places n : Nat) : String :=
  let unit := Nat.pow 10 places
  toString (n / unit) ++ "." ++ padded places (n % unit)

/-- The text of the number that a finite binary64 pattern stands for, with `places` places, at least
one. -/
def render (places : Nat) (w : UInt64) : String :=
  let (num, den) := ratio w
  let sign := if w >>> 63 = 1 then "-" else ""
  sign ++ withPoint places (roundedQuotient (num * Nat.pow 10 places) den)

end Nearest.Fixed
