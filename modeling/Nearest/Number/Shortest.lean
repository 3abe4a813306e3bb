import Nearest.Number.Fixed

/-!
# The shortest decimal that reads back

`Shortest.render` writes a finite binary64 number with the fewest decimal digits that still read
back to it, and of those decimals the nearest one.

The numbers that read back to a pattern lie between the midpoints to its two neighbours, the
midpoints included iff the pattern is even. On the grid of multiples of a power of ten, only the two
grid points around the number itself have to be tried: if any grid point lies in the interval, so
does one of these.
-/

namespace Nearest.Shortest

/-- A number of at most 17 digits times a power of ten. -/
structure Decimal where
  digits : Nat
  exponent : Int

/-- The numbers that read back to one positive pattern: `low` to `high` around `value`, all in units
of `1 / unit`. -/
structure Interval where
  low : Nat
  value : Nat
  high : Nat
  unit : Nat
  closed : Bool

/-- The interval of a positive finite magnitude. Below a power of two the neighbour is half as far,
save at the bottom of the range. -/
def interval (w : UInt64) : Interval :=
  let exponent := ((w >>> 52) &&& 0x7ff).toNat
  let fraction := (w &&& 0xfffffffffffff).toNat
  let (num, den) := Fixed.ratio w
  -- The distance to the next pattern, in the units of `num / den`.
  let gap := if exponent < 1075 then 1 else 1 <<< (exponent - 1075)
  let below := if fraction = 0 && 1 < exponent then gap else 2 * gap
  ⟨4 * num - below, 4 * num, 4 * num + 2 * gap, 4 * den, fraction % 2 = 0⟩

namespace Interval

/-- Whether `n` times `10 ^ e` lies in the interval. -/
def holds (i : Interval) (n : Nat) (e : Int) : Bool :=
  let point := n * Nat.pow 10 e.toNat * i.unit
  let scale := Nat.pow 10 (-e).toNat
  let low := i.low * scale
  let high := i.high * scale
  (low < point || (i.closed && low = point)) && (point < high || (i.closed && point = high))

/-- The nearest multiple of `10 ^ e` that lies in the interval, if there is one. -/
def onGrid (i : Interval) (e : Int) : Option Nat :=
  let num := i.value * Nat.pow 10 (-e).toNat
  let den := i.unit * Nat.pow 10 e.toNat
  let n := num / den
  let nearer := roundedQuotient num den
  let other := if nearer = n then n + 1 else n
  if i.holds nearer e then some nearer
  else if i.holds other e then some other
  else none

end Interval

/-- The place of the leading digit of `num / den`: `10 ^ e ≤ num / den < 10 ^ (e + 1)`. -/
def leadingPlace (num den : Nat) : Int :=
  if den ≤ num then ((Nat.toDigits 10 (num / den)).length : Int) - 1
  else
    let e := (Nat.toDigits 10 (den / num)).length
    if den ≤ num * Nat.pow 10 (e - 1) then -((e : Int) - 1) else -(e : Int)

/-- Tries the grids from coarse to fine, `left` of them. -/
def search (i : Interval) : Nat → Int → Decimal
  | 0, e => ⟨i.value / i.unit, e⟩
  | left + 1, e =>
    match i.onGrid e with
    | some n => ⟨n, e⟩
    | none => search i left (e - 1)

/-- The shortest decimal of a positive finite magnitude, without zeros at its end. -/
def decimal (w : UInt64) : Decimal :=
  let i := interval w
  search i 18 (leadingPlace i.value i.unit + 1)

/-- A number is positional from `1e-5` to below `1e16`, with at least one place, and has an exponent
with its sign outside. -/
def layout (d : Decimal) : String :=
  let digits := Nat.toDigits 10 d.digits
  let zeros := fun n : Nat => String.ofList (List.replicate n '0')
  let text := String.ofList digits
  -- The number of digits before the point, if it were written positionally.
  let point : Int := digits.length + d.exponent
  if 0 ≤ d.exponent && point ≤ 16 then text ++ zeros d.exponent.toNat ++ ".0"
  else if 0 < point && point ≤ 16 then
    String.ofList (digits.take point.toNat) ++ "." ++ String.ofList (digits.drop point.toNat)
  else if -5 < point && point ≤ 0 then "0." ++ zeros (-point).toNat ++ text
  else
    let mantissa := match digits with
      | [d] => String.singleton d
      | d :: rest => String.singleton d ++ "." ++ String.ofList rest
      | [] => ""
    mantissa ++ (if 0 < point then "e+" else "e") ++ toString (point - 1)

/-- The text of a finite binary64 pattern. -/
def render (w : UInt64) : String :=
  let magnitude := w &&& 0x7fffffffffffffff
  let sign := if w >>> 63 = 1 then "-" else ""
  sign ++ if magnitude = 0 then "0.0" else layout (decimal magnitude)

end Nearest.Shortest
