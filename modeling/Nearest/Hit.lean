import Nearest.Bytes.Basic

/-!
# Hits and their rank

A hit is a key with a score. The greater of two hits is the better one: the one with the higher
score and, at equal scores, the one with the smaller key. Scores are 64-bit patterns in the total
order of the floating-point standard, so that every pattern has its place, those of NaNs included:

  negative NaNs, minus infinity, negative numbers, minus zero, plus zero, positive numbers,
  infinity, positive NaNs.

Keys are ordered by their UTF-8 bytes.
-/

namespace Nearest

/-- A score, as its 64-bit pattern. -/
structure Score where
  pattern : UInt64
  deriving DecidableEq

namespace Score

/-- The pattern of a number. -/
def ofFloat (f : Float) : Score :=
  ⟨f.toBits⟩

/-- The place of a score in the total order: negative patterns, which grow downwards, come first. -/
def place (s : Score) : UInt64 :=
  if s.pattern < 0x8000000000000000 then s.pattern + 0x8000000000000000
  else 0xffffffffffffffff - s.pattern

instance : Ord Score where
  compare a b := compare a.place b.place

end Score

/-- A key with its score. -/
structure Hit where
  key : String
  score : Score
  deriving DecidableEq

namespace Hit

/-- The order of keys: that of their bytes. -/
def compareKeys (a b : String) : Ordering :=
  compare (Bytes.ofText a) (Bytes.ofText b)

/-- Hits by rank: a higher score is better, at equal scores a smaller key. -/
instance : Ord Hit where
  compare a b := (compare a.score b.score).then (compareKeys b.key a.key)

/-- Two hits are equal iff neither outranks the other. -/
instance : BEq Hit where
  beq a b := compare a b == .eq

/-- The comparison as that of a partial order. No two hits are incomparable. -/
def partialCompare (a b : Hit) : Option Ordering :=
  some (compare a b)

instance : LT Hit where
  lt a b := compare a b = .lt

instance : LE Hit where
  le a b := compare a b ≠ .gt

instance (a b : Hit) : Decidable (a < b) :=
  inferInstanceAs (Decidable (compare a b = .lt))

instance (a b : Hit) : Decidable (a ≤ b) :=
  inferInstanceAs (Decidable (compare a b ≠ .gt))

end Hit

end Nearest
