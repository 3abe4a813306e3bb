/-!
# Binary32 patterns

A component of a vector is kept as its 32-bit pattern, so that every payload of a NaN survives. The
sums over components are taken in binary64:

* `Binary32.widen` is the binary64 pattern of the same number, `Binary32.toFloat` that number;
* `Binary32.nearest` is the pattern nearest to a positive ratio, a tie going to the even pattern.

`roundedQuotient` is the rounding of a ratio to a natural number, here and where decimals are
written.
-/

namespace Nearest

/-- The quotient rounded to the nearest natural number, a tie to the even one. -/
def roundedQuotient (num den : Nat) : Nat :=
  let q := num / den
  let twice := 2 * (num % den)
  if twice > den || (twice = den && q % 2 = 1) then q + 1 else q

namespace Binary32

/-- The pattern of positive infinity. -/
def infinity : UInt32 := 0x7f800000

/-- The pattern of the quiet NaN with no payload. -/
def nan : UInt32 := 0x7fc00000

/-- The pattern with the sign turned to minus. -/
def negated (w : UInt32) : UInt32 := w ||| 0x80000000

/-- The binary64 pattern of the magnitude of `w`. A number below the normal range of binary32 is in
that of binary64, so its leading one has to be found. -/
def widenMagnitude (w : UInt32) : UInt64 :=
  let exponent := (w >>> 23) &&& 0xff
  let fraction := w &&& 0x7fffff
  if exponent = 0xff then
    if fraction = 0 then 0x7ff0000000000000 else 0x7ff8000000000000
  else if exponent = 0 then
    if fraction = 0 then 0
    else
      let top := fraction.toNat.log2
      UInt64.ofNat (((top + 874) <<< 52) + ((fraction.toNat - (1 <<< top)) <<< (52 - top)))
  else
    ((exponent.toUInt64 + 896) <<< 52) ||| (fraction.toUInt64 <<< 29)

/-- The binary64 pattern of the number that `w` stands for. -/
def widen (w : UInt32) : UInt64 :=
  ((w >>> 31).toUInt64 <<< 63) ||| widenMagnitude w

/-- The number that a pattern stands for. -/
def toFloat (w : UInt32) : Float :=
  Float.ofBits (widen w)

/-- The least `e` for which `num / den`, in units of `2 ^ (e - 149)`, is below `2 ^ 24`. The
quotient lies between two neighbouring powers of two around the difference of the logarithms. -/
def unitExponent (num den : Nat) : Nat :=
  let units := num <<< 149
  let e := units.log2 - den.log2 - 24
  if units < den <<< (e + 24) then e else e + 1

/-- The pattern nearest to `num / den`, both positive; beyond the largest finite number, infinity.
An exponent and a rounded quotient, added in their places, are the pattern: below the normal range
the leading one is missing in both, and a carry out of the quotient moves into the exponent. -/
def nearest (num den : Nat) : UInt32 :=
  let e := unitExponent num den
  UInt32.ofNat (min ((e <<< 23) + roundedQuotient (num <<< 149) (den <<< e)) infinity.toNat)

end Binary32

end Nearest
