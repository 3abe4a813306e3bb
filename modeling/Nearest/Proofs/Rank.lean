import Mathlib.Algebra.Group.Nat.Defs
import Mathlib.Order.Defs.LinearOrder
import Nearest.Hit

/-!
# The rank of hits

Hits are in a linear order. `Hit.lt_iff` spells it out: a hit is below another one if its score is
below in the total order of the patterns, or if the scores are the same and its key has the greater
bytes.
-/

namespace Nearest

/-! ## Scores -/

namespace Score

theorem toNat_place (s : Score) :
    s.place.toNat =
      if s.pattern.toNat < 2 ^ 63 then s.pattern.toNat + 2 ^ 63
      else 2 ^ 64 - 1 - s.pattern.toNat := by
  have hlt := s.pattern.toNat_lt
  have hiff : s.pattern < 0x8000000000000000 ↔ s.pattern.toNat < 2 ^ 63 := by
    rw [UInt64.lt_iff_toNat_lt]
    rfl
  unfold place
  by_cases h : s.pattern.toNat < 2 ^ 63
  · rw [if_pos (hiff.2 h), if_pos h, UInt64.toNat_add]
    simp only [UInt64.reduceToNat]
    omega
  · rw [if_neg (mt hiff.1 h), if_neg h, UInt64.toNat_sub]
    simp only [UInt64.reduceToNat]
    omega

theorem place_injective {a b : Score} (h : a.place = b.place) : a = b := by
  have h' := congrArg UInt64.toNat h
  have ha := a.pattern.toNat_lt
  have hb := b.pattern.toNat_lt
  rw [toNat_place, toNat_place] at h'
  have hpattern : a.pattern.toNat = b.pattern.toNat := by
    split at h' <;> split at h' <;> omega
  obtain ⟨a⟩ := a
  obtain ⟨b⟩ := b
  exact congrArg mk (UInt64.toNat_inj.1 hpattern)

end Score

/-! ## Keys -/

/-- Byte strings are compared as lists are. -/
theorem compare_bytes_eq_lt {a b : Bytes} : compare a b = .lt ↔ a < b := by
  induction a generalizing b with
  | nil => cases b <;> simp [List.compare_nil_cons]
  | cons x a ih =>
    cases b with
    | nil => simp [List.compare_cons_nil]
    | cons y b =>
      rw [List.compare_cons_cons, Ordering.then_eq_lt, ih, List.cons_lt_cons_iff,
        Std.LawfulEqOrd.compare_eq_iff_eq, Std.compare_eq_lt]

/-! ## Hits -/

namespace Hit

instance : Std.TransOrd Hit :=
  inferInstanceAs (Std.TransCmp (compareLex (compareOn fun h : Hit => h.score.place)
    fun a b => compareOn (fun h : Hit => Bytes.ofText h.key) b a))

instance : Std.LawfulEqOrd Hit where
  eq_of_compare {a b} h := by
    obtain ⟨hs, hk⟩ := Ordering.then_eq_eq.1 h
    have hscore := Score.place_injective (Std.LawfulEqOrd.eq_of_compare hs)
    have hkey := Bytes.ofText_injective (Std.LawfulEqOrd.eq_of_compare hk)
    cases a
    cases b
    simp_all

theorem le_iff {a b : Hit} : a ≤ b ↔ (compare a b).isLE := by
  rw [Ordering.isLE_iff_ne_gt]
  rfl

instance : LinearOrder Hit where
  le_refl a := le_iff.2 Std.ReflCmp.isLE_rfl
  le_trans a b c hab hbc := le_iff.2 (Std.TransCmp.isLE_trans (le_iff.1 hab) (le_iff.1 hbc))
  le_antisymm a b hab hba :=
    Std.LawfulEqOrd.eq_of_compare (Std.OrientedCmp.isLE_antisymm (le_iff.1 hab) (le_iff.1 hba))
  le_total a b := by
    rw [le_iff, le_iff, ← Std.OrientedCmp.isGE_iff_isLE (a := a)]
    cases compare a b <;> simp
  lt_iff_le_not_ge a b := by
    rw [le_iff, le_iff, ← Std.OrientedCmp.isGE_iff_isLE (a := a)]
    show compare a b = .lt ↔ _
    cases compare a b <;> simp
  toDecidableLE := inferInstance
  toDecidableLT := inferInstance
  toDecidableEq := inferInstance
  compare_eq_compareOfLessAndEq a b := by
    unfold compareOfLessAndEq
    split
    · assumption
    · rename_i h
      split
      · rename_i e
        rw [e]
        exact Std.ReflCmp.compare_self
      · rename_i e
        cases hc : compare a b
        · exact absurd hc h
        · exact absurd (Std.LawfulEqOrd.eq_of_compare hc) e
        · rfl

/-- A hit is below another one if its score is, or else if its key is above. -/
theorem lt_iff {a b : Hit} :
    a < b ↔ a.score.place < b.score.place ∨
      a.score = b.score ∧ Bytes.ofText b.key < Bytes.ofText a.key := by
  show (compare a.score.place b.score.place).then (compareKeys b.key a.key) = .lt ↔ _
  rw [Ordering.then_eq_lt, Std.compare_eq_lt, Std.LawfulEqOrd.compare_eq_iff_eq, compareKeys,
    compare_bytes_eq_lt]
  exact or_congr_right (and_congr_left' ⟨Score.place_injective, congrArg _⟩)

end Hit

end Nearest
