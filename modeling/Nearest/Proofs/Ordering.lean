import Mathlib.Algebra.Group.Int.Defs
import Mathlib.Data.Multiset.ZeroCons
import Nearest.Proofs.Selection

/-!
# The total order of hits

The rank orders all hits, whatever the patterns of their scores.

* `Score.standing` reads a pattern as a sign and a magnitude. Scores are compared as these integers
  are (`Score.place_lt_iff`), which puts the NaNs of either sign beyond the infinity of that sign
  and minus zero below plus zero.
* `Score.standing_lt_of_lt`: of two numbers the higher one has the higher score. For this
  `Score.Encodes` says which number a sign and a magnitude stand for.
* `Hit.existsUnique_arrangement`: there is one way to arrange some hits, the best first.
* `Hit.compare_total_order`: the laws of the comparison, and what it comes to.
-/

namespace Nearest

/-! ## Scores by sign and magnitude -/

namespace Score

open Float.Model (UnpackedFloat)
open Float.Model.UnpackedFloat

/-- The integer with a sign and a magnitude. Minus zero is not zero, but just below it. -/
def signed : Sign → Nat → Int
  | .negative, n => -1 - n
  | .positive, n => n

/-- The sign of a score: the first bit of its pattern. -/
def sign (s : Score) : Sign :=
  if s.pattern.toNat < 2 ^ 63 then .positive else .negative

/-- The magnitude of a score: all other bits of its pattern. -/
def magnitude (s : Score) : Nat :=
  s.pattern.toNat % 2 ^ 63

/-- Where a score stands among all scores. -/
def standing (s : Score) : Int :=
  signed s.sign s.magnitude

theorem toNat_place_eq (s : Score) : (s.place.toNat : Int) = s.standing + 2 ^ 63 := by
  have hlt := s.pattern.toNat_lt
  rw [toNat_place, standing, sign, magnitude]
  split <;> simp only [signed] <;> omega

theorem place_lt_iff {a b : Score} : a.place < b.place ↔ a.standing < b.standing := by
  have ha := toNat_place_eq a
  have hb := toNat_place_eq b
  rw [UInt64.lt_iff_toNat_lt]
  omega

/-! ## Scores that are numbers -/

/-- The number that a sign and a magnitude stand for. Exponent, counted from the least one, and
mantissa make up the magnitude, where the leading one of a normal mantissa carries into the
exponent. -/
inductive Encodes (s : Sign) (n : Nat) : UnpackedFloat → Prop
  | notANumber (hn : 2047 * 2 ^ 52 < n) : Encodes s n .notANumber
  | infinity (hn : n = 2047 * 2 ^ 52) : Encodes s n (.infinity s)
  | zero (hn : n = 0) : Encodes s n (.zero s)
  | finite {m : Nat} {e : Int} {hpos : 0 < m} (hn : (n : Int) = (e + 1074) * 2 ^ 52 + m)
      (hm : m < 2 ^ 53) (hmax : e < 972) (hmin : e = -1074 ∨ -1074 < e ∧ 2 ^ 52 ≤ m) :
      Encodes s n (.finite s m e hpos)

theorem ofBitVec_unpackSign (s : Score) :
    Sign.ofBitVec (@unpackSign .binary64 s.pattern.toBitVec) = s.sign := by
  have hlt := s.pattern.toNat_lt
  have hsign : (@unpackSign .binary64 s.pattern.toBitVec).toNat = s.pattern.toNat / 2 ^ 63 := by
    change (s.pattern.toNat >>> 63) % 2 = _
    rw [Nat.shiftRight_eq_div_pow]
    omega
  rw [Sign.ofBitVec, sign]
  congr 1
  rw [← BitVec.toNat_inj, hsign, BitVec.toNat_ofNat, eq_iff_iff]
  omega

theorem toNat_unpackExponent (s : Score) :
    (@unpackExponent .binary64 s.pattern.toBitVec).toNat = s.magnitude / 2 ^ 52 := by
  change (s.pattern.toNat >>> 52) % 2 ^ 11 = _
  rw [Nat.shiftRight_eq_div_pow, magnitude]
  omega

theorem toNat_unpackMantissa (s : Score) :
    (@unpackMantissa .binary64 s.pattern.toBitVec).toNat = s.magnitude % 2 ^ 52 := by
  change (s.pattern.toNat >>> 0) % 2 ^ 52 = _
  rw [Nat.shiftRight_zero, magnitude]
  omega

theorem unpackExponent_eq_iff (s : Score) (e : BitVec 11) :
    @unpackExponent .binary64 s.pattern.toBitVec = e ↔ s.magnitude / 2 ^ 52 = e.toNat := by
  rw [← BitVec.toNat_inj, toNat_unpackExponent]

theorem unpackMantissa_eq_iff (s : Score) (m : BitVec 52) :
    @unpackMantissa .binary64 s.pattern.toBitVec = m ↔ s.magnitude % 2 ^ 52 = m.toNat := by
  rw [← BitVec.toNat_inj, toNat_unpackMantissa]

/-- A one in front of a word of `w` bits counts `2 ^ w`. -/
theorem toNat_one_append {w : Nat} (v : BitVec w) : (1#1 ++ v).toNat = 2 ^ w + v.toNat := by
  rw [BitVec.toNat_append, ← Nat.shiftLeft_add_eq_or_of_lt v.isLt, BitVec.toNat_ofNat,
    Nat.shiftLeft_eq, Nat.one_mod, Nat.one_mul]

/-- A pattern is unpacked to the number that its sign and its magnitude stand for. -/
theorem encodes_unpack (s : Score) :
    Encodes s.sign s.magnitude (unpack .binary64 s.pattern.toBitVec) := by
  have hlt : s.magnitude < 2 ^ 63 := Nat.mod_lt _ (by decide)
  have hexponent := toNat_unpackExponent s
  have hmantissa := toNat_unpackMantissa s
  have hones : @unpackExponent .binary64 s.pattern.toBitVec = -1#11 ↔
      s.magnitude / 2 ^ 52 = 2047 := unpackExponent_eq_iff s _
  have hzeros : @unpackExponent .binary64 s.pattern.toBitVec = 0#11 ↔
      s.magnitude / 2 ^ 52 = 0 := unpackExponent_eq_iff s _
  have hempty : @unpackMantissa .binary64 s.pattern.toBitVec = 0#52 ↔
      s.magnitude % 2 ^ 52 = 0 := unpackMantissa_eq_iff s _
  have hbias : (Float.Model.Format.binary64.exponentBias : Int) = 1023 := rfl
  have hwidth : (Float.Model.Format.binary64.mantissaBitsWithoutImplicit : Int) = 52 := rfl
  rw [← ofBitVec_unpackSign]
  unfold unpack
  by_cases he : s.magnitude / 2 ^ 52 = 2047
  · rw [if_pos (hones.2 he)]
    by_cases hm : s.magnitude % 2 ^ 52 = 0
    · rw [if_pos (hempty.2 hm)]
      exact .infinity (by omega)
    · rw [if_neg (mt hempty.1 hm)]
      exact .notANumber (by omega)
  · rw [if_neg (mt hones.1 he)]
    by_cases he' : s.magnitude / 2 ^ 52 = 0
    · rw [if_pos (hzeros.2 he')]
      by_cases hm : s.magnitude % 2 ^ 52 = 0
      · rw [dif_pos (hempty.2 hm)]
        exact .zero (by omega)
      · -- below the normal range the exponent is that of the smallest normal numbers
        rw [dif_neg (mt hempty.1 hm)]
        exact .finite (by omega) (by omega) (by omega) (.inl (by omega))
    · rw [if_neg (mt hzeros.1 he')]
      have hm : (1#1 ++ @unpackMantissa .binary64 s.pattern.toBitVec).toNat =
          2 ^ 52 + s.magnitude % 2 ^ 52 :=
        (toNat_one_append _).trans (congrArg _ hmantissa)
      exact .finite (by omega) (by omega) (by omega) (by omega)

/-- Comparing numbers is comparing them by sign and magnitude. -/
theorem Encodes.signed_lt {s s' : Sign} {n n' : Nat} {x y : UnpackedFloat} (hx : Encodes s n x)
    (hy : Encodes s' n' y) (h : x.compare y = some .lt) : signed s n < signed s' n' := by
  -- once the signs are known, either they and the kinds of the numbers decide, or the exponents and
  -- then the mantissas do; a mantissa is below `2 ^ 53`, and above the least exponent it is not
  -- below `2 ^ 52`, so that the greater exponent comes with the greater magnitude
  cases hx <;> cases hy <;> cases s <;> cases s' <;>
    dsimp only [UnpackedFloat.compare, signed] at h ⊢ <;>
    simp only [Option.some.injEq, reduceCtorEq, Ordering.swap_eq_lt,
      Ordering.then_eq_lt, Ordering.then_eq_gt, Int.compare_eq_lt, Int.compare_eq_gt,
      Nat.compare_eq_lt, Nat.compare_eq_gt, Std.LawfulEqOrd.compare_eq_iff_eq] at h ⊢ <;>
    omega

/-- Of two numbers the higher one has the higher score. -/
theorem standing_lt_of_lt {f g : Float} (h : f < g) :
    (ofFloat f).standing < (ofFloat g).standing := by
  have hlt : f.toModel.unpack.lt g.toModel.unpack = true := of_decide_eq_true h
  exact (encodes_unpack (ofFloat f)).signed_lt (encodes_unpack (ofFloat g)) (beq_iff_eq.1 hlt)

end Score

/-! ## Hits -/

namespace Hit

variable {a b c : Hit}

theorem compare_swap (a b : Hit) : compare b a = (compare a b).swap :=
  Std.OrientedOrd.eq_swap

/-- The comparison is transitive in each of its outcomes. -/
theorem compare_trans {o : Ordering} (hab : compare a b = o) (hbc : compare b c = o) :
    compare a c = o := by
  cases o with
  | lt => exact compare_lt_iff_lt.2 ((compare_lt_iff_lt.1 hab).trans (compare_lt_iff_lt.1 hbc))
  | eq => rwa [compare_eq_iff_eq.1 hab]
  | gt => exact compare_gt_iff_gt.2 ((compare_gt_iff_gt.1 hbc).trans (compare_gt_iff_gt.1 hab))

theorem eq_iff : a = b ↔ a.key = b.key ∧ a.score.pattern = b.score.pattern := by
  obtain ⟨key, ⟨pattern⟩⟩ := a
  obtain ⟨key', ⟨pattern'⟩⟩ := b
  simp

/-- There is one way to arrange some hits, the best first. -/
theorem existsUnique_arrangement (hs : Multiset Hit) :
    ∃! l : List Hit, (l : Multiset Hit) = hs ∧ l.Pairwise (· ≥ ·) := by
  induction hs using Quotient.inductionOn with
  | h l =>
    refine ⟨ranked l, ⟨Multiset.coe_eq_coe.2 (ranked_perm l), pairwise_ranked l⟩, ?_⟩
    rintro l' ⟨hperm, hsorted⟩
    exact eq_ranked hsorted (Multiset.coe_eq_coe.1 hperm)

/-- **Hits are in a total order**, whatever their keys and the patterns of their scores. The
comparison is total, antisymmetric and transitive; only the same key with the same pattern is
equal; the partial comparison, `==` and the operators agree with it; and there is one way to arrange
some hits, the best first. The hit with the higher score is the better one, at equal scores the one
with the smaller key, and of two numbers the higher one is the higher score. -/
theorem compare_total_order (a b c : Hit) (hs : Multiset Hit) :
    ((compare a b ≠ .gt ∨ compare b a ≠ .gt) ∧
      (compare a b ≠ .gt ∧ compare b a ≠ .gt ↔ a = b) ∧
      (compare a b ≠ .gt → compare b c ≠ .gt → compare a c ≠ .gt)) ∧
    (compare b a = (compare a b).swap ∧
      ∀ o, compare a b = o → compare b c = o → compare a c = o) ∧
    (compare a b = .eq ↔ a.key = b.key ∧ a.score.pattern = b.score.pattern) ∧
    (a.partialCompare b = some (compare a b) ∧ (a == b) = (compare a b == .eq) ∧
      (a < b ↔ compare a b = .lt) ∧ (a > b ↔ compare a b = .gt) ∧
      (a ≤ b ↔ compare a b ≠ .gt) ∧ (a ≥ b ↔ compare a b ≠ .lt)) ∧
    (∃! l : List Hit, (l : Multiset Hit) = hs ∧ l.Pairwise (· ≥ ·)) ∧
    (compare a b = .lt ↔ a.score.standing < b.score.standing ∨
      a.score = b.score ∧ Bytes.ofText b.key < Bytes.ofText a.key) ∧
    ∀ f g : Float, f < g →
      compare (Hit.mk a.key (.ofFloat f)) (Hit.mk b.key (.ofFloat g)) = .lt := by
  have hle (x y : Hit) : compare x y ≠ .gt ↔ x ≤ y := compare_le_iff_le
  refine ⟨⟨?_, ?_, ?_⟩, ⟨compare_swap a b, fun o => compare_trans⟩, ?_,
    ⟨rfl, rfl, compare_lt_iff_lt.symm, compare_gt_iff_gt.symm, (hle a b).symm,
      compare_ge_iff_ge.symm⟩, existsUnique_arrangement hs, ?_, fun f g hfg => ?_⟩
  · rw [hle, hle]
    exact le_total a b
  · rw [hle, hle]
    exact le_antisymm_iff.symm
  · rw [hle, hle, hle]
    exact le_trans
  · rw [compare_eq_iff_eq, eq_iff]
  · rw [compare_lt_iff_lt, lt_iff, Score.place_lt_iff]
  · rw [compare_lt_iff_lt, lt_iff, Score.place_lt_iff]
    exact .inl (Score.standing_lt_of_lt hfg)

/-- A negative NaN, minus zero and plus zero, of which one comes twice. -/
theorem compare_total_order_zeros :
    let a : Hit := ⟨"k", ⟨0xfff8000000000001⟩⟩
    let b : Hit := ⟨"k", ⟨0x8000000000000000⟩⟩
    let c : Hit := ⟨"j", ⟨0⟩⟩
    compare a b = .lt ∧ compare b c = .lt ∧ compare a c = .lt ∧ compare a c ≠ .gt ∧
      (∃! l : List Hit, (l : Multiset Hit) = {b, c, a, b} ∧ l.Pairwise (· ≥ ·)) ∧
      compare (Hit.mk "k" (.ofFloat (-1))) (Hit.mk "k" (.ofFloat 0.5)) = .lt := by
  intro a b c
  have hab : compare a b = .lt := by decide +kernel
  have hbc : compare b c = .lt := by decide +kernel
  obtain ⟨⟨-, -, htrans⟩, ⟨-, hsame⟩, -, -, hone, -, hfloat⟩ :=
    compare_total_order a b c {b, c, a, b}
  refine ⟨hab, hbc, hsame .lt hab hbc, htrans ?_ ?_, hone, hfloat (-1) 0.5 (by decide +kernel)⟩
  · rw [hab]
    decide
  · rw [hbc]
    decide

end Hit

end Nearest
