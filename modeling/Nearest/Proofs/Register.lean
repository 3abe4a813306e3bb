import Mathlib.Algebra.Group.Nat.Defs
import Mathlib.Logic.Function.Iterate
import Nearest.Bytes.Checksum

/-!
# The checksum register

The register is linear in exclusive or, and no two of its states have the same successor. Four bytes
reach every difference between two states: they enter the register as one word
(`Checksum.register_of_length`).

* `Checksum.register_sealed`: whatever a sealed frame says, it leaves the register in one and the
  same state.
* `Checksum.eq_of_register_eq`: byte strings that differ inside a window of up to four bytes leave
  it in different ones.
-/

namespace Nearest.Checksum

/-! ## One step -/

theorem toNat_and_one (r : UInt32) : (r &&& 1).toNat = r.toNat % 2 := by
  rw [UInt32.toNat_and]
  exact Nat.and_one_is_mod r.toNat

theorem and_one_eq (r : UInt32) : r &&& 1 = 0 ∨ r &&& 1 = 1 := by
  have hmod := toNat_and_one r
  rcases Nat.mod_two_eq_zero_or_one r.toNat with h | h
  · exact .inl (UInt32.toNat_inj.1 (hmod.trans h))
  · exact .inr (UInt32.toNat_inj.1 (hmod.trans h))

theorem toNat_shiftRight_one (r : UInt32) : (r >>> 1).toNat = r.toNat / 2 := by
  rw [UInt32.toNat_shiftRight]
  rfl

theorem shift_of_even {r : UInt32} (h : r &&& 1 = 0) : shift r = r >>> 1 := by
  rw [shift, if_neg (by rw [h]; decide)]

theorem shift_of_odd {r : UInt32} (h : r &&& 1 = 1) : shift r = (r >>> 1) ^^^ polynomial :=
  if_pos h

/-- A step is linear. -/
theorem shift_xor (a b : UInt32) : shift (a ^^^ b) = shift a ^^^ shift b := by
  have hlow : (a ^^^ b) &&& 1 = (a &&& 1) ^^^ (b &&& 1) := by
    apply UInt32.toNat_inj.1
    simp only [UInt32.toNat_and, UInt32.toNat_xor]
    exact Nat.and_xor_distrib_right
  rcases and_one_eq a with ha | ha <;> rcases and_one_eq b with hb | hb <;> rw [ha, hb] at hlow
  · rw [shift_of_even hlow, shift_of_even ha, shift_of_even hb, UInt32.shiftRight_xor]
  · rw [shift_of_odd hlow, shift_of_even ha, shift_of_odd hb, UInt32.shiftRight_xor,
      UInt32.xor_assoc]
  · rw [shift_of_odd hlow, shift_of_odd ha, shift_of_even hb, UInt32.shiftRight_xor]
    ac_rfl
  · rw [shift_of_even hlow, shift_of_odd ha, shift_of_odd hb, UInt32.shiftRight_xor]
    -- the polynomial is subtracted twice
    have htwice : ∀ x y p : UInt32, x ^^^ p ^^^ (y ^^^ p) = x ^^^ y := by
      intro x y p
      rw [UInt32.xor_comm y p, UInt32.xor_assoc, ← UInt32.xor_assoc p, UInt32.xor_self,
        UInt32.zero_xor]
    exact (htwice _ _ _).symm

/-- The polynomial sets the bit that a step clears, so no state but zero becomes zero. -/
theorem eq_zero_of_shift {r : UInt32} (h : shift r = 0) : r = 0 := by
  have hhalf := toNat_shiftRight_one r
  have hlow := toNat_and_one r
  apply UInt32.toNat_inj.1
  rcases and_one_eq r with hr | hr <;> rw [hr] at hlow
  · rw [shift_of_even hr] at h
    rw [h] at hhalf
    simp only [UInt32.reduceToNat] at hlow hhalf ⊢
    omega
  · rw [shift_of_odd hr, UInt32.xor_eq_zero_iff] at h
    have hlt := r.toNat_lt
    rw [h, polynomial] at hhalf
    simp only [UInt32.reduceToNat] at hhalf
    omega

theorem shift_injective : Function.Injective shift := by
  intro a b h
  rw [← UInt32.xor_eq_zero_iff, ← shift_xor] at h
  exact UInt32.xor_eq_zero_iff.1 (eq_zero_of_shift h)

/-! ## Steps in a row -/

theorem iterate_shift_xor (n : Nat) (a b : UInt32) :
    shift^[n] (a ^^^ b) = shift^[n] a ^^^ shift^[n] b := by
  induction n generalizing a b with
  | zero => rfl
  | succ n ih => simp only [Function.iterate_succ_apply, shift_xor, ih]

theorem shift_ofNat_double {m : Nat} (h : 2 * m < 2 ^ 32) :
    shift (UInt32.ofNat (2 * m)) = UInt32.ofNat m := by
  have heven : UInt32.ofNat (2 * m) &&& 1 = 0 := by
    apply UInt32.toNat_inj.1
    rw [toNat_and_one, UInt32.toNat_ofNat', Nat.mod_eq_of_lt h, Nat.mul_mod_right]
    rfl
  apply UInt32.toNat_inj.1
  rw [shift_of_even heven, toNat_shiftRight_one, UInt32.toNat_ofNat', UInt32.toNat_ofNat']
  omega

/-- Bits that are not yet at the low end move towards it. -/
theorem iterate_shift_ofNat {m : Nat} (n : Nat) (h : 2 ^ n * m < 2 ^ 32) :
    shift^[n] (UInt32.ofNat (2 ^ n * m)) = UInt32.ofNat m := by
  induction n with
  | zero => rw [Nat.pow_zero, Nat.one_mul]; rfl
  | succ n ih =>
    rw [Nat.pow_succ', Nat.mul_assoc] at h ⊢
    rw [Function.iterate_succ_apply, shift_ofNat_double h]
    exact ih (by omega)

/-! ## Bytes -/

/-- The number that a byte string is, its least significant byte first. -/
def number : Bytes → Nat
  | [] => 0
  | x :: b => x.toNat + 2 ^ 8 * number b

theorem number_lt (b : Bytes) : number b < 2 ^ (8 * b.length) := by
  induction b with
  | nil => decide
  | cons x b ih =>
    have hx := x.toNat_lt
    rw [number, List.length_cons, Nat.mul_succ, Nat.pow_add]
    omega

theorem eq_of_number_eq {b b' : Bytes} (hlength : b.length = b'.length)
    (h : number b = number b') : b = b' := by
  induction b generalizing b' with
  | nil => exact (List.length_eq_zero_iff.1 hlength.symm).symm
  | cons x b ih =>
    cases b' with
    | nil => cases hlength
    | cons x' b' =>
      have hx := x.toNat_lt
      have hx' := x'.toNat_lt
      rw [number, number] at h
      have hhead : x.toNat = x'.toNat := by omega
      have htail : number b = number b' := by omega
      rw [UInt8.toNat_inj.1 hhead, ih (Nat.succ.inj hlength) htail]

theorem number_ofWord32 (w : UInt32) : number (Bytes.ofWord32 w) = w.toNat := by
  have := w.toNat_lt
  simp [Bytes.ofWord32, number]
  omega

/-- A number above another's bits is added by exclusive or. -/
theorem xor_two_pow_mul {x n : Nat} (h : x < 2 ^ n) (m : Nat) :
    x ^^^ 2 ^ n * m = x + 2 ^ n * m := by
  have hdiv : (x ^^^ 2 ^ n * m) / 2 ^ n = m := by
    rw [Nat.xor_div_two_pow, Nat.div_eq_of_lt h, Nat.mul_div_cancel_left _ (Nat.two_pow_pos n),
      Nat.zero_xor]
  have hmod : (x ^^^ 2 ^ n * m) % 2 ^ n = x := by
    rw [Nat.xor_mod_two_pow, Nat.mod_eq_of_lt h, Nat.mul_mod_right, Nat.xor_zero]
  rw [← Nat.div_add_mod (x ^^^ 2 ^ n * m) (2 ^ n), hdiv, hmod, Nat.add_comm]

/-- Absorbing a byte takes it off the low end of what is above it. -/
theorem absorb_xor (r : UInt32) (x : UInt8) {m : Nat} (h : 2 ^ 8 * m < 2 ^ 32) :
    absorb r x ^^^ UInt32.ofNat m = shift^[8] (r ^^^ UInt32.ofNat (x.toNat + 2 ^ 8 * m)) := by
  have habsorb : absorb r x = shift^[8] (r ^^^ x.toUInt32) := rfl
  have hx : x.toUInt32 = UInt32.ofNat x.toNat := by
    apply UInt32.toNat_inj.1
    simp
  rw [habsorb, ← iterate_shift_ofNat 8 h, ← iterate_shift_xor, UInt32.xor_assoc, hx,
    ← UInt32.ofNat_xor, xor_two_pow_mul x.toNat_lt]

/-- Up to four bytes enter the register as one number. -/
theorem register_of_length {b : Bytes} (h : b.length ≤ 4) (r : UInt32) :
    register r b = shift^[8 * b.length] (r ^^^ UInt32.ofNat (number b)) := by
  induction b generalizing r with
  | nil => exact (UInt32.xor_zero).symm
  | cons x b ih =>
    rw [List.length_cons] at h
    have hlt : 2 ^ 8 * number b < 2 ^ 32 := by
      have hb := number_lt b
      have hle : 2 ^ (8 * b.length) ≤ 2 ^ 24 := Nat.pow_le_pow_right (by decide) (by omega)
      omega
    have hstep : register r (x :: b) = register (absorb r x) b := rfl
    rw [hstep, ih (by omega), absorb_xor r x hlt, number, List.length_cons, Nat.mul_succ,
      Function.iterate_add_apply]

theorem register_ofWord32 (r w : UInt32) :
    register r (Bytes.ofWord32 w) = shift^[32] (r ^^^ w) := by
  have hlength : (Bytes.ofWord32 w).length ≤ 4 := Nat.le_refl 4
  rw [register_of_length hlength, number_ofWord32, UInt32.ofNat_toNat]
  rfl

/-! ## Byte strings -/

theorem absorb_injective (x : UInt8) : Function.Injective (absorb · x) := by
  intro a b h
  exact (UInt32.xor_left_inj _).1 (shift_injective.iterate 8 h)

/-- Different states stay different. -/
theorem register_injective (b : Bytes) : Function.Injective (register · b) := by
  induction b with
  | nil => exact fun _ _ h => h
  | cons x b ih => exact fun _ _ h => absorb_injective x (ih h)

/-- **Every sealed frame** leaves the register in the same state. -/
theorem register_sealed (frame : Bytes) :
    register start (sealed frame) = shift^[32] 0xffffffff := by
  rw [sealed, register_append, register_ofWord32, sum, finish, UInt32.xor_not, UInt32.xor_self]
  rfl

/-- **Byte strings that differ inside a window** of up to four bytes leave the register in different
states. -/
theorem eq_of_register_eq {before window window' after : Bytes} {r : UInt32}
    (hlength : window.length = window'.length) (hwindow : window.length ≤ 4)
    (h : register r (before ++ window ++ after) = register r (before ++ window' ++ after)) :
    window = window' := by
  have hwindow' : window'.length ≤ 4 := hlength ▸ hwindow
  rw [register_append, register_append, register_append, register_append] at h
  have hshort : register (register r before) window = register (register r before) window' :=
    register_injective after h
  rw [register_of_length hwindow, register_of_length hwindow', hlength] at hshort
  have hnumbers := (UInt32.xor_right_inj _).1 (shift_injective.iterate _ hshort)
  have hlt : ∀ b : Bytes, b.length ≤ 4 → number b < 2 ^ 32 := fun b hb =>
    Nat.lt_of_lt_of_le (number_lt b) (Nat.pow_le_pow_right (by decide) (by omega))
  have hnat := congrArg UInt32.toNat hnumbers
  rw [UInt32.toNat_ofNat', UInt32.toNat_ofNat', Nat.mod_eq_of_lt (hlt _ hwindow),
    Nat.mod_eq_of_lt (hlt _ hwindow')] at hnat
  exact eq_of_number_eq hlength hnat

end Nearest.Checksum
