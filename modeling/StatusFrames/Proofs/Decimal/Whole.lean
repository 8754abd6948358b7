/-
Whole numbers as binary64 numbers. A whole number below 2 ^ 53 is one exactly: shifted until it has 53 bits, it is a
mantissa that rounding leaves alone. Comparing such binary64 numbers is therefore comparing the whole numbers.
-/
import Mathlib

namespace StatusFrames.Decimal

open Float.Model (Format UnpackedFloat)
open Float.Model.UnpackedFloat (ExtendedMantissa)

/-! ## Numbers with a mantissa of 53 bits -/

section

variable {m : Nat} {e : Int} (hm : m.log2 = 52) (hpos : 0 < m) (hlow : -1074 ≤ e)

include hm hlow

theorem shiftToTargetExponent_normal :
    UnpackedFloat.shiftToTargetExponent .binary64 m e .exact = (⟨m, false, false⟩, e) := by
  have target : Format.binary64.targetExponent (Float.Model.totalExponent m e) = e := by
    simp only [Format.targetExponent, Float.Model.totalExponent, Format.mantissaBits, Format.minExponent, hm]
    omega
  simp only [UnpackedFloat.shiftToTargetExponent, target, UnpackedFloat.shiftToExponent, Int.sub_self, Int.toNat_zero]
  show ((⟨m, false, false⟩ : ExtendedMantissa), e + 0) = _
  rw [Int.add_zero]

theorem roundWithAccuracy_normal :
    UnpackedFloat.roundWithAccuracy .binary64 .positive m e .exact = .finite .positive m e hpos := by
  have rounded : (⟨m, false, false⟩ : ExtendedMantissa).roundedMantissa = m := rfl
  simp only [UnpackedFloat.roundWithAccuracy, shiftToTargetExponent_normal hm hlow, rounded]
  rw [dif_neg (Nat.ne_of_gt hpos)]

/-- The bits of a number give it back. -/
theorem unpack_pack_normal (hhigh : e ≤ 971) :
    UnpackedFloat.unpack .binary64 (UnpackedFloat.pack .binary64 (.finite .positive m e hpos)) =
      .finite .positive m e hpos := by
  obtain ⟨hleast, hmost⟩ := (Nat.log2_eq_iff (Nat.ne_of_gt hpos)).mp hm
  have exponent : (BitVec.ofNat 11 (e + 1023 + 52).toNat).toNat = (e + 1075).toNat := by
    rw [BitVec.toNat_ofNat]
    omega
  have mantissa : (1#1 ++ BitVec.ofNat 52 m).toNat = m := by
    rw [BitVec.toNat_append, ← Nat.shiftLeft_add_eq_or_of_lt (BitVec.isLt _), BitVec.toNat_ofNat, BitVec.toNat_ofNat,
      Nat.shiftLeft_eq]
    omega
  have notGreatest : BitVec.ofNat 11 (e + 1023 + 52).toNat ≠ -1#11 := by
    intro h
    have : (e + 1075).toNat = 2047 := exponent.symm.trans (congrArg BitVec.toNat h)
    omega
  have notLeast : BitVec.ofNat 11 (e + 1023 + 52).toNat ≠ 0#11 := by
    intro h
    have : (e + 1075).toNat = 0 := exponent.symm.trans (congrArg BitVec.toNat h)
    omega
  have packed : UnpackedFloat.pack .binary64 (.finite .positive m e hpos) =
      UnpackedFloat.packComponents .binary64 .positive (BitVec.ofNat 11 (e + 1023 + 52).toNat) (BitVec.ofNat 52 m) := by
    have bounded : ¬2048 ≤ (e + 1023 + 52).toNat + 1 := by omega
    have bits : m.log2 + 1 = Format.binary64.mantissaBits := by rw [hm]; rfl
    exact (if_neg bounded).trans (if_pos bits)
  rw [packed, UnpackedFloat.unpack]
  simp only [UnpackedFloat.unpackMantissa_packComponents, UnpackedFloat.unpackExponent_packComponents,
    UnpackedFloat.unpackSign_packComponents]
  rw [if_neg notGreatest, if_neg notLeast]
  congr 1
  rw [exponent]
  show ((e + 1075).toNat : Int) - (1023 + 52) = e
  omega

end

/-! ## Whole numbers -/

/-- A number shifted until it has 53 bits. -/
def mantissaOf (n : Nat) : Nat := n <<< (52 - n.log2)

section

variable {n : Nat} (hpos : 0 < n)

include hpos

theorem mantissaOf_pos : 0 < mantissaOf n := Nat.shiftLeft_pos_iff.mpr hpos

variable (hn : n < 2 ^ 53)

include hn

theorem log2_le : n.log2 ≤ 52 := Nat.lt_succ_iff.mp ((Nat.log2_lt (Nat.ne_of_gt hpos)).mpr hn)

theorem log2_mantissaOf : (mantissaOf n).log2 = 52 := by
  obtain ⟨hleast, hmost⟩ := (Nat.log2_eq_iff (Nat.ne_of_gt hpos)).mp rfl
  have shift : n.log2 + (52 - n.log2) = 52 := Nat.add_sub_of_le (log2_le hpos hn)
  rw [Nat.log2_eq_iff (Nat.ne_of_gt (mantissaOf_pos hpos)), mantissaOf, Nat.shiftLeft_eq]
  constructor
  · calc 2 ^ 52 = 2 ^ n.log2 * 2 ^ (52 - n.log2) := by rw [← Nat.pow_add, shift]
      _ ≤ n * 2 ^ (52 - n.log2) := Nat.mul_le_mul_right _ hleast
  · calc n * 2 ^ (52 - n.log2) < 2 ^ (n.log2 + 1) * 2 ^ (52 - n.log2) :=
          Nat.mul_lt_mul_of_pos_right hmost (Nat.two_pow_pos _)
      _ = 2 ^ (52 + 1) := by rw [← Nat.pow_add, Nat.add_right_comm, shift]

theorem round_whole : UnpackedFloat.round .binary64 .positive n 0 =
    .finite .positive (mantissaOf n) (n.log2 - 52) (mantissaOf_pos hpos) := by
  have small := log2_le hpos hn
  have target : Format.binary64.targetExponent (Float.Model.totalExponent n 0) = n.log2 - 52 := by
    simp only [Format.targetExponent, Float.Model.totalExponent, Format.mantissaBits, Format.minExponent]
    omega
  have decreased : UnpackedFloat.decreaseExponent n 0 (n.log2 - 52) = (mantissaOf n, (n.log2 : Int) - 52) := by
    have shift : (0 - ((n.log2 : Int) - 52)).toNat = 52 - n.log2 := by omega
    simp only [UnpackedFloat.decreaseExponent, shift, mantissaOf, Prod.mk.injEq, true_and]
    omega
  simp only [UnpackedFloat.round, target, decreased]
  exact roundWithAccuracy_normal (log2_mantissaOf hpos hn) (mantissaOf_pos hpos) (by omega)

theorem unpack_whole : n.toUInt64.toFloat.toModel.unpack =
    .finite .positive (mantissaOf n) (n.log2 - 52) (mantissaOf_pos hpos) := by
  have small := log2_le hpos hn
  have word : n.toUInt64.toNat = n := Nat.mod_eq_of_lt (Nat.lt_trans hn (by decide))
  have positive : compare (n : Int) 0 = .gt := Int.compare_eq_gt.mpr (by omega)
  have rounded : UnpackedFloat.ofUInt64 .binary64 n.toUInt64 =
      .finite .positive (mantissaOf n) (n.log2 - 52) (mantissaOf_pos hpos) := by
    simp only [UnpackedFloat.ofUInt64, UnpackedFloat.ofNat, UnpackedFloat.ofInt, UnpackedFloat.normalize, word, positive,
      Int.toNat_natCast]
    exact round_whole hpos hn
  show UnpackedFloat.unpack .binary64 (UnpackedFloat.pack .binary64 (UnpackedFloat.ofUInt64 .binary64 _)) = _
  rw [rounded]
  exact unpack_pack_normal (log2_mantissaOf hpos hn) (mantissaOf_pos hpos) (by omega) (by omega)

end

/-! ## Order -/

theorem lt_iff_compare {x y : Float} :
    x < y ↔ UnpackedFloat.compare x.toModel.unpack y.toModel.unpack = some .lt := by
  calc x < y ↔ x.toModel < y.toModel := decide_eq_true_iff
    _ ↔ (UnpackedFloat.compare x.toModel.unpack y.toModel.unpack == some .lt) = true := Iff.rfl
    _ ↔ _ := beq_iff_eq

theorem compare_finite {m₁ m₂ : Nat} {e₁ e₂ : Int} (h₁ : 0 < m₁) (h₂ : 0 < m₂) :
    UnpackedFloat.compare (.finite .positive m₁ e₁ h₁) (.finite .positive m₂ e₂ h₂) = some .lt ↔
      e₁ < e₂ ∨ e₁ = e₂ ∧ m₁ < m₂ := by
  simp only [UnpackedFloat.compare, Option.some.injEq, Ordering.then_eq_lt, Int.compare_eq_lt, Nat.compare_eq_lt,
    Int.compare_eq_eq]

/-- The longer number is the greater one; of two that are equally long it is the one with the greater mantissa. -/
theorem lt_iff_log2 {a b : Nat} :
    a < b ↔ a.log2 < b.log2 ∨ a.log2 = b.log2 ∧ mantissaOf a < mantissaOf b := by
  have mono {m n : Nat} (h : m ≤ n) : m.log2 ≤ n.log2 := by
    rw [Nat.log2_eq_log_two, Nat.log2_eq_log_two]
    exact Nat.log_mono_right h
  have same (h : a.log2 = b.log2) : mantissaOf a < mantissaOf b ↔ a < b := by
    rw [mantissaOf, mantissaOf, h, Nat.shiftLeft_eq, Nat.shiftLeft_eq]
    exact Nat.mul_lt_mul_right (Nat.two_pow_pos _)
  constructor
  · intro hlt
    rcases Nat.lt_or_eq_of_le (mono (Nat.le_of_lt hlt)) with hlog | hlog
    · exact .inl hlog
    · exact .inr ⟨hlog, (same hlog).mpr hlt⟩
  · rintro (hlog | ⟨hlog, hmantissa⟩)
    · by_contra hle
      exact Nat.not_le_of_lt hlog (mono (Nat.le_of_not_lt hle))
    · exact (same hlog).mp hmantissa

theorem unpack_zero : (0).toUInt64.toFloat.toModel.unpack = .zero .positive := rfl

/-- Whole numbers are in the order of their binary64 numbers. -/
theorem toFloat_lt_iff {a b : Nat} (ha : a < 2 ^ 53) (hb : b < 2 ^ 53) :
    a.toUInt64.toFloat < b.toUInt64.toFloat ↔ a < b := by
  rw [lt_iff_compare]
  rcases Nat.eq_zero_or_pos a with rfl | hapos <;> rcases Nat.eq_zero_or_pos b with rfl | hbpos
  · rw [unpack_zero]
    simp [UnpackedFloat.compare]
  · rw [unpack_zero, unpack_whole hbpos hb]
    simp [UnpackedFloat.compare, hbpos]
  · rw [unpack_zero, unpack_whole hapos ha]
    simp [UnpackedFloat.compare]
  · rw [unpack_whole hapos ha, unpack_whole hbpos hb, compare_finite, @lt_iff_log2 a b]
    omega

theorem toFloat_bool (b : Bool) : (if b then 1.0 else 0.0 : Float) = (if b then 1 else 0).toUInt64.toFloat := by
  cases b with
  | true => rfl
  | false => rfl

end StatusFrames.Decimal
