/-
Numbers hold no names. That is so for integers with their suffixes and for every finite binary64 number as it is written;
only infinities and what is no number would be read as names.
-/
import StatusFrames.Document.Literal
import StatusFrames.Proofs.C.Pieces

namespace StatusFrames

namespace C

theorem isDigit_of_mem_toDigits {n : Nat} : ∀ c ∈ Nat.toDigits 10 n, c.isDigit = true :=
  fun _ hc => Nat.isDigit_of_mem_toDigits (by decide) (by decide) hc

theorem numeric_toDigits (n : Nat) (inWord : Bool) (rest : List Char) :
    numeric inWord (Nat.toDigits 10 n ++ rest) = numeric true rest :=
  numeric_digits Nat.toDigits_ne_nil isDigit_of_mem_toDigits inWord rest

/-- Digits and points, in any order. -/
theorem numeric_points {cs : List Char} (h : ∀ c ∈ cs, c.isDigit = true ∨ c = '.') (inWord : Bool) :
    numeric inWord cs = true := by
  induction cs generalizing inWord with
  | nil => rfl
  | cons c rest ih =>
    obtain ⟨hc, hrest⟩ := List.forall_mem_cons.mp h
    rw [numeric]
    rcases hc with hc | rfl
    · have hname : Text.isNameChar c = true := by simp [Text.isNameChar, Char.isAlphanum, hc]
      rw [if_pos hname, hc, Bool.or_true, Bool.true_and]
      exact ih hrest true
    · exact ih hrest false

theorem numeric_minus (inWord : Bool) (cs : List Char) : numeric inWord ('-' :: cs) = numeric false cs := rfl

/-! ## Binary64 numbers -/

section

variable {digits : List Char} (h : ∀ c ∈ digits, c.isDigit = true)

include h

theorem numeric_positionalText (point : Int) : numeric false (Decimal.positionalText digits point) = true := by
  have zeros : ∀ n, ∀ c ∈ List.replicate n '0', c.isDigit = true ∨ c = '.' := by
    intro n c hc
    rw [List.eq_of_mem_replicate hc]
    decide
  refine numeric_points ?_ false
  unfold Decimal.positionalText
  split
  · exact List.forall_mem_append.mpr ⟨List.forall_mem_append.mpr ⟨by simp, zeros _⟩, fun c hc => .inl (h c hc)⟩
  split
  · exact List.forall_mem_append.mpr ⟨List.forall_mem_append.mpr ⟨fun c hc => .inl (h c hc), zeros _⟩, by simp⟩
  · refine List.forall_mem_append.mpr ⟨List.forall_mem_append.mpr ⟨fun c hc => ?_, by simp⟩, fun c hc => ?_⟩
    · exact .inl (h c (List.mem_of_mem_take hc))
    · exact .inl (h c (List.mem_of_mem_drop hc))

theorem numeric_scientificText (hne : digits ≠ []) (plusSign : Bool) (point : Int) :
    numeric false (Decimal.scientificText plusSign digits point) = true := by
  have exponent : numeric true (['e'] ++ ((if point - 1 < 0 then ['-'] else if plusSign then ['+'] else []) ++
      Nat.toDigits 10 (point - 1).natAbs)) = true := by
    have number := fun inWord => numeric_toDigits (point - 1).natAbs inWord []
    simp only [List.append_nil] at number
    split
    · exact number false
    split
    · exact number false
    · exact number true
  simp only [Decimal.scientificText, List.append_assoc]
  -- what stands before the exponent ends in a digit, so `e` goes on with a number
  cases digits with
  | nil => exact absurd rfl hne
  | cons d more =>
    obtain ⟨hd, hmore⟩ := List.forall_mem_cons.mp h
    have first := numeric_digits (List.cons_ne_nil d []) (List.forall_mem_singleton.mpr hd) false
    cases more with
    | nil => exact (first _).trans exponent
    | cons e others => exact (first _).trans ((numeric_digits (List.cons_ne_nil e others) hmore false _).trans exponent)

end

theorem numeric_unsigned (style : Decimal.Style) (x : Decimal.Scaled) : numeric false (style.unsigned x) = true := by
  have positional := numeric_positionalText (isDigit_of_mem_toDigits (n := x.digits))
  unfold Decimal.Style.unsigned
  dsimp only
  split
  · exact positional _
  split
  · rfl
  split
  · exact positional _
  · exact numeric_scientificText isDigit_of_mem_toDigits Nat.toDigits_ne_nil _ _

end C

/-! ## Finite numbers -/

section

open Float.Model

theorem unpackExponent_of_isFinite {x : Float} (h : x.isFinite = true) :
    @UnpackedFloat.unpackExponent Format.binary64 x.toModel.toBits.toBitVec ≠ -1#11 := by
  intro hones
  unfold Float.isFinite Float.Model.isFinite Float.Model.unpack UnpackedFloat.unpack at h
  dsimp only at h
  rw [if_pos hones] at h
  split at h <;> cases h

theorem toNat_unpackExponent (b : BitVec 64) :
    (@UnpackedFloat.unpackExponent Format.binary64 b).toNat = b.toNat / 0x10000000000000 % 0x800 := by
  simp [UnpackedFloat.unpackExponent, Nat.shiftRight_eq_div_pow]

/-- The exponent of a finite number is not the greatest. -/
theorem magnitude_of_isFinite {x : Float} (h : x.isFinite = true) :
    x.toBits.toNat % 0x8000000000000000 < 0x7FF0000000000000 := by
  refine Nat.lt_of_not_le fun hlarge => unpackExponent_of_isFinite h (BitVec.eq_of_toNat_eq ?_)
  have exponent : x.toBits.toNat / 0x10000000000000 % 0x800 = 0x7FF := by omega
  rw [toNat_unpackExponent]
  exact exponent

end

namespace C

theorem names_write (style : Decimal.Style) {x : Float} (h : x.isFinite = true) : names (style.write x) = [] := by
  have magnitude := magnitude_of_isFinite h
  have signed : ∀ (negative : Prop) [Decidable negative] (cs : List Char), numeric false cs = true →
      numeric false ((if negative then [] else ['-']) ++ cs) = true := by
    intro negative _ cs hcs
    split
    · exact hcs
    · exact hcs
  refine names_numeric ?_
  unfold Decimal.Style.write
  dsimp only
  rw [if_neg (by omega), if_neg (by omega)]
  split
  · rw [String.toList_ofList]
    exact signed _ _ rfl
  · rw [String.toList_ofList]
    exact signed _ _ (numeric_unsigned style _)

/-! ## Integers -/

theorem names_nat (n : Nat) : names (toString n) = [] := by
  refine names_numeric ?_
  have number := numeric_toDigits n false []
  rwa [List.append_nil, ← Nat.toList_repr] at number

theorem names_integer (i : Int) : names (Literal.integer i).source = [] := by
  have number := fun n => numeric_toDigits n false []
  simp only [List.append_nil] at number
  refine names_numeric ?_
  simp only [Literal.source]
  split
  · decide
  cases i with
  | ofNat n =>
    have digits : (toString (Int.ofNat n)).toList = Nat.toDigits 10 n := Nat.toList_repr
    rw [digits, number]
    rfl
  | negSucc n =>
    have text : toString (Int.negSucc n) = "-" ++ toString (n + 1) := rfl
    have digits : (toString (Int.negSucc n)).toList = '-' :: Nat.toDigits 10 (n + 1) := by
      simp [text, Nat.toString_eq_repr, Nat.toList_repr]
    rw [digits, numeric_minus, number]
    rfl

theorem names_unsigned (n : Nat) : names (Literal.unsigned n).source = [] := by
  have digits : (toString n ++ "ULL").toList = Nat.toDigits 10 n ++ ['U', 'L', 'L'] := by
    simp [Nat.toString_eq_repr, Nat.toList_repr]
  refine names_numeric ?_
  simp only [Literal.source]
  rw [digits, numeric_toDigits]
  rfl

end C

end StatusFrames
