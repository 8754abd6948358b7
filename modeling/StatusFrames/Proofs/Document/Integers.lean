/-
Integers in documents. Main statement: the decimal text of an integer of 64 bits, signed or unsigned, is read as the
literal of that integer, and the literal is written as a C constant of the same value.
-/
import StatusFrames.Document.Reading
import StatusFrames.Proofs.C.Numerals
import StatusFrames.Proofs.Outline.Meaning
import StatusFrames.Proofs.Yaml.Word

namespace StatusFrames

/-! ## Decimal digits -/

namespace Decimal

theorem digitValue?_of_isDigit {c : Char} (h : c.isDigit = true) : digitValue? 10 c = some (c.toNat - '0'.toNat) := by
  simp only [Char.isDigit, Bool.and_eq_true, decide_eq_true_iff, UInt32.le_iff_toNat_le, ge_iff_le] at h
  have hcode : c.toNat = c.val.toNat := rfl
  have hends : '0'.val.toNat = 0x30 ∧ '9'.val.toNat = 0x39 ∧ '0'.toNat = 0x30 := ⟨rfl, rfl, rfl⟩
  have hrange : '0' ≤ c ∧ c ≤ '9' := ⟨UInt32.le_iff_toNat_le.mpr h.1, UInt32.le_iff_toNat_le.mpr h.2⟩
  have hsmall : decide (c.toNat - '0'.toNat < 10) = true := decide_eq_true (by omega)
  simp only [digitValue?, if_pos hrange, Option.filter, hsmall, if_true]

theorem foldlM_digits {cs : List Char} (h : ∀ c ∈ cs, c.isDigit = true) (start : Nat) :
    cs.foldlM (fun value c => (digitValue? 10 c).map (value * 10 + ·)) start = some (Nat.ofDigitChars 10 cs start) := by
  induction cs generalizing start with
  | nil => rfl
  | cons c rest ih =>
    obtain ⟨hc, hrest⟩ := List.forall_mem_cons.mp h
    rw [List.foldlM_cons, digitValue?_of_isDigit hc]
    simp only [Option.map_some, Option.bind_eq_bind, Option.bind_some, ih hrest, Nat.mul_comm start 10]
    rfl

theorem natural?_toDigits (n : Nat) : natural? 10 (Nat.toDigits 10 n) = some n := by
  have hfold := foldlM_digits (C.isDigit_of_mem_toDigits (n := n)) 0
  rw [Nat.ofDigitChars_ten_toDigits] at hfold
  cases hcs : Nat.toDigits 10 n with
  | nil => exact absurd hcs Nat.toDigits_ne_nil
  | cons c rest => rwa [hcs] at hfold

end Decimal

/-! ## Plain scalars -/

namespace Yaml

theorem exists_digit (n : Nat) : ∃ c rest, Nat.toDigits 10 n = c :: rest ∧ c.isDigit = true := by
  cases hcs : Nat.toDigits 10 n with
  | nil => exact absurd hcs Nat.toDigits_ne_nil
  | cons c rest => exact ⟨c, rest, rfl, C.isDigit_of_mem_toDigits c (hcs ▸ List.mem_cons_self)⟩

theorem ne_of_isDigit {c d : Char} (h : c.isDigit = true) (hd : d.isDigit = false) : c ≠ d := by
  rintro rfl
  rw [h] at hd
  cases hd

theorem isWordChar_of_isDigit {c : Char} (h : c.isDigit = true) : isWordChar c = true := by
  simp [isWordChar, Char.isAlphanum, h]

namespace Plain

theorem hasLeadingZero_toDigits (n : Nat) : hasLeadingZero (Nat.toDigits 10 n) = false := by
  obtain ⟨c, rest, hcs, hc⟩ := exists_digit n
  have hsign : startsWithSign (Nat.toDigits 10 n) = false := by
    simp (disch := decide) [startsWithSign, hcs, ne_of_isDigit hc]
  rw [hasLeadingZero, hsign]
  split
  · rename_i d more heq
    exact absurd heq (C.toDigits_ne_octal n d more)
  · rfl

theorem magnitude?_toDigits (n : Nat) : magnitude? (Nat.toDigits 10 n) = some n := by
  rw [magnitude?]
  · rw [hasLeadingZero_toDigits, if_neg Bool.false_ne_true, Decimal.natural?_toDigits]
  all_goals exact fun digits heq => C.toDigits_ne_octal n _ digits heq

theorem unsigned?_toDigits (n : Nat) : unsigned? (Nat.toDigits 10 n) = some n := by
  obtain ⟨c, rest, hcs, hc⟩ := exists_digit n
  rw [unsigned?]
  · exact magnitude?_toDigits n
  · rintro more heq
    rw [hcs] at heq
    exact ne_of_isDigit hc (by decide) (List.cons.inj heq).1

end Plain

theorem toList_toString_ofNat (n : Nat) : (toString (Int.ofNat n)).toList = Nat.toDigits 10 n := Nat.toList_repr

theorem toList_toString_negSucc (n : Nat) :
    (toString (Int.negSucc n)).toList = '-' :: Nat.toDigits 10 (n + 1) := by
  have htext : toString (Int.negSucc n) = "-" ++ (n + 1).repr := rfl
  rw [htext, String.toList_append, Nat.toList_repr]
  rfl

/-- An integer of 64 bits is read back from its decimal text. -/
theorem Plain.integer?_toString {i : Int} (hlow : -0x8000000000000000 ≤ i) (hhigh : i < 0x10000000000000000) :
    integer? (toString i) = some i := by
  cases i with
  | ofNat n =>
    have hn : n < 0x10000000000000000 := Int.ofNat_lt.mp hhigh
    have hbits : decide (n < 0x100000000000000000000000000000000) = true := decide_eq_true (by omega)
    obtain ⟨c, rest, hcs, hc⟩ := exists_digit n
    rw [integer?, toList_toString_ofNat]
    split
    · rename_i heq
      rw [hcs] at heq
      exact absurd (List.cons.inj heq).1 (ne_of_isDigit hc (by decide))
    · simp only [unsigned?_toDigits, Option.filter, hbits, if_true, Option.map_some]
  | negSucc n =>
    have hbits : decide (n + 1 ≤ 0x80000000000000000000000000000000) = true := decide_eq_true (by omega)
    simp only [integer?, toList_toString_negSucc, magnitude?_toDigits, Option.filter, hbits, if_true]
    rfl

/-- The decimal text of an integer is a word. -/
theorem isWord_toString {i : Int} (hlow : -0x8000000000000000 ≤ i) (hhigh : i < 0x10000000000000000) :
    IsWord (toString i).toList := by
  have hdigits : ∀ n, ∀ c ∈ Nat.toDigits 10 n, isWordChar c = true := fun n c hc =>
    isWordChar_of_isDigit (C.isDigit_of_mem_toDigits c hc)
  have hlength : ∀ n, n < 0x10000000000000000 → (Nat.toDigits 10 n).length ≤ 20 := fun n hn =>
    (Nat.length_toDigits_le_iff (by decide) (by decide)).mpr (by omega)
  cases i with
  | ofNat n =>
    obtain ⟨c, rest, hcs, hc⟩ := exists_digit n
    rw [toList_toString_ofNat]
    refine ⟨hdigits n, ⟨c, ?_, ne_of_isDigit hc (by decide)⟩, (hlength n (Int.ofNat_lt.mp hhigh)).trans (by decide)⟩
    simp [hcs]
  | negSucc n =>
    obtain ⟨c, rest, hcs, hc⟩ := exists_digit (n + 1)
    rw [toList_toString_negSucc]
    refine ⟨?_, ⟨c, ?_, ne_of_isDigit hc (by decide)⟩, ?_⟩
    · exact List.forall_mem_cons.mpr ⟨by decide, hdigits (n + 1)⟩
    · simp [hcs]
    · have := hlength (n + 1) (by omega)
      rw [List.length_cons]
      omega

theorem exists_head_toString (i : Int) : ∃ c rest, (toString i).toList = c :: rest ∧ (c.isDigit || c == '-') = true := by
  cases i with
  | ofNat n =>
    obtain ⟨c, rest, hcs, hc⟩ := exists_digit n
    exact ⟨c, rest, (toList_toString_ofNat n).trans hcs, by rw [hc, Bool.true_or]⟩
  | negSucc n => exact ⟨'-', _, toList_toString_negSucc n, rfl⟩

/-- The words that stand for other values do not start as an integer does. -/
theorem toString_not_mem {words : List String}
    (h : ∀ word ∈ words, word.toList.head?.any (fun c => c.isDigit || c == '-') = false) (i : Int) :
    toString i ∉ words := by
  intro hmem
  obtain ⟨c, rest, htext, hc⟩ := exists_head_toString i
  have hhead := h _ hmem
  rw [htext, List.head?_cons, Option.any_some, hc] at hhead
  cases hhead

theorem ofPlain_toString {i : Int} (hlow : -0x8000000000000000 ≤ i) (hhigh : i < 0x10000000000000000) :
    Value.ofPlain (toString i) = .integer i := by
  have hempty : (toString i).isEmpty = false := by
    obtain ⟨c, rest, htext, -⟩ := exists_head_toString i
    rw [Bool.eq_false_iff, ne_eq, String.isEmpty_iff, ← String.toList_eq_nil_iff, htext]
    exact List.cons_ne_nil c rest
  have hnull : Plain.isNull (toString i) = false := decide_eq_false (toString_not_mem (by decide) i)
  have hbool : Plain.bool? (toString i) = none := by
    rw [Plain.bool?, if_neg (toString_not_mem (by decide) i), if_neg (toString_not_mem (by decide) i)]
  simp only [Value.ofPlain, hempty, hnull, hbool, Plain.integer?_toString hlow hhigh, Bool.or_self, Bool.false_eq_true,
    if_false]

/-- Anywhere in a document, a plain scalar that stands for an integer of 64 bits is read as that integer. -/
theorem readAny_integer {text : String} {i : Int} (h : Value.ofPlain text = .integer i) (hlow : -0x8000000000000000 ≤ i)
    (hhigh : i < 0x10000000000000000) (ctx : Context) (followed : Nat) :
    readAny ctx (.scalar none .plain text) followed = .ok (.integer i, followed) := by
  have hvalue : Value.ofScalar none .plain text = .ok (.integer i) := by
    rw [Value.ofScalar, if_pos rfl, h]
  simp only [readAny, readValueAt, follow, pure_bind, located, hvalue, Tag.word?, Option.isSome_none, hlow, hhigh,
    and_self, if_true]
  rfl

end Yaml

/-! ## Literals -/

/-- The literal of an integer: a signed one where it fits. -/
def Literal.ofInteger (i : Int) : Literal := if i < 0x8000000000000000 then .integer i else .unsigned i.toNat

namespace Document

open Yaml

variable {i : Int} (hlow : -0x8000000000000000 ≤ i) (hhigh : i < 0x10000000000000000)

include hlow hhigh

theorem readLiteral_integer (ctx : Context) (followed : Nat) :
    readLiteral ctx (.scalar none .plain (toString i)) followed = .ok (.ofInteger i, followed) := by
  have hany := readAny_integer (ofPlain_toString hlow hhigh) hlow hhigh ctx followed
  rw [readLiteral, bind, Monad.toBind, StateT.instMonad]
  simp only [StateT.bind, hany]
  rfl

theorem readDocument_integer : readDocument readAny (toString i) = .ok (.integer i) := by
  have htext := (isWord_toString hlow hhigh).ofText_eq
  rw [String.ofList_toList] at htext
  have hany := readAny_integer (ofPlain_toString hlow hhigh) hlow hhigh
  simp only [readDocument, htext, StateT.run, hany, if_true]

theorem literalOfText_integer : literalOfText (toString i) = .ok (.ofInteger i) := by
  rw [literalOfText, readDocument_integer hlow hhigh]
  rfl

end Document

theorem Literal.integerValue?_ofInteger (i : Int) : (Literal.ofInteger i).integerValue? = some i := by
  unfold ofInteger
  split
  · rfl
  · rw [integerValue?, Int.toNat_of_nonneg (by omega)]

theorem C.constant?_ofInteger (enumerator? : String → Option Int) {i : Int} (hlow : -0x8000000000000000 ≤ i)
    (hhigh : i < 0x10000000000000000) : constant? enumerator? (Literal.ofInteger i).source = some i := by
  unfold Literal.ofInteger
  split
  · exact constant?_integer enumerator? hlow (by assumption)
  · rw [Literal.source, constant?_unsigned enumerator? (by omega), Int.toNat_of_nonneg (by omega)]

/-- The decimal text of an integer from the least signed to the greatest unsigned one of 64 bits is read as a signed
literal where it fits and as an unsigned one otherwise, by itself and anywhere in a document. The literal has the
integer's value, and so has its text in C, in which no constant and no intermediate result overflows. -/
theorem Document.literalOfText_toString (n : Int) (hlow : -0x8000000000000000 ≤ n) (hhigh : n ≤ 0xFFFFFFFFFFFFFFFF) :
    ∃ literal : Literal,
      (n ≤ 0x7FFFFFFFFFFFFFFF → literal = .integer n) ∧
      (0x7FFFFFFFFFFFFFFF < n → literal = .unsigned n.toNat) ∧
      literalOfText (toString n) = .ok literal ∧
      (∀ ctx followed, readLiteral ctx (.scalar none .plain (toString n)) followed = .ok (literal, followed)) ∧
      literal.integerValue? = some n ∧
      ∀ enumerator?, C.constant? enumerator? literal.source = some n := by
  have hbound : n < 0x10000000000000000 := by omega
  refine ⟨.ofInteger n, ?_, ?_, literalOfText_integer hlow hbound, readLiteral_integer hlow hbound,
    Literal.integerValue?_ofInteger n, fun _ => C.constant?_ofInteger _ hlow hbound⟩
  · intro hsigned
    exact if_pos (by omega)
  · intro hunsigned
    exact if_neg (by omega)

/-- The two ends of the range. -/
theorem Document.literalOfText_toString_ends :
    (∃ literal, literalOfText "-9223372036854775808" = .ok literal ∧ literal = .integer (-0x8000000000000000) ∧
      C.constant? (fun _ => none) literal.source = some (-0x8000000000000000)) ∧
    ∃ literal, literalOfText "18446744073709551615" = .ok literal ∧ literal = .unsigned 0xFFFFFFFFFFFFFFFF ∧
      C.constant? (fun _ => none) literal.source = some 0xFFFFFFFFFFFFFFFF := by
  obtain ⟨least, hsigned, -, hleast, -, -, hvalue⟩ :=
    literalOfText_toString (-0x8000000000000000) (by decide) (by decide)
  obtain ⟨greatest, -, hunsigned, hgreatest, -, -, hvalue'⟩ :=
    literalOfText_toString 0xFFFFFFFFFFFFFFFF (by decide) (by decide)
  exact ⟨⟨least, hleast, hsigned (by decide), hvalue _⟩, greatest, hgreatest, hunsigned (by decide), hvalue' _⟩

end StatusFrames
