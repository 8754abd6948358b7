/-
The value of a C constant expression, from its text: decimal integers with their suffixes, enumerators, `true` and
`false`, differences, minus signs and parentheses. Anything that C leaves open has no value here: an integer that does
not fit its type, a difference that overflows, an octal number.
-/
import StatusFrames.Document.Literal
import StatusFrames.Proofs.Naming.Letters
import Mathlib.Data.List.TakeWhile

namespace StatusFrames.C

/-- A value of an integer type of 64 bits. -/
structure Value where
  value : Int
  unsigned : Bool
deriving DecidableEq, Repr

namespace Value

def signed? (i : Int) : Option Value :=
  if -0x8000000000000000 ≤ i ∧ i < 0x8000000000000000 then some ⟨i, false⟩ else none

def unsigned? (n : Nat) : Option Value := if n < 0x10000000000000000 then some ⟨n, true⟩ else none

/-- Only signed values are subtracted from each other. -/
def sub? (a b : Value) : Option Value := if a.unsigned || b.unsigned then none else signed? (a.value - b.value)

def neg? (a : Value) : Option Value := if a.unsigned then none else signed? (-a.value)

end Value

inductive Token
  | integer (v : Value)
  | name (s : String)
  | minus
  | openParen
  | closeParen
deriving DecidableEq, Repr

/-- The value of an integer constant. A leading zero would make it octal. -/
def integer? (digits suffix : List Char) : Option Value :=
  let n := Nat.ofDigitChars 10 digits 0
  match digits, suffix with
  | '0' :: _ :: _, _ => none
  | _, [] | _, ['L', 'L'] => Value.signed? n
  | _, ['U', 'L', 'L'] => Value.unsigned? n
  | _, _ => none

/-- A word that starts with a digit is an integer constant, any other one a name. -/
def word? (word : List Char) : Option Token :=
  if word.head?.any Char.isDigit then
    (integer? (word.takeWhile Char.isDigit) (word.dropWhile Char.isDigit)).map .integer
  else some (.name (String.ofList word))

def lex : Nat → List Char → Option (List Token)
  | _, [] => some []
  | 0, _ :: _ => none
  | fuel + 1, c :: rest =>
    if c = ' ' then lex fuel rest
    else if c = '-' then (lex fuel rest).map (.minus :: ·)
    else if c = '(' then (lex fuel rest).map (.openParen :: ·)
    else if c = ')' then (lex fuel rest).map (.closeParen :: ·)
    else if Text.isNameChar c then do
      let token ← word? ((c :: rest).takeWhile Text.isNameChar)
      let tokens ← lex fuel ((c :: rest).dropWhile Text.isNameChar)
      return token :: tokens
    else none

/-- The value of a name: one of the two words for booleans, or an enumerator. -/
def nameValue? (enumerator? : String → Option Int) (s : String) : Option Value :=
  if s = "true" then some ⟨1, false⟩
  else if s = "false" then some ⟨0, false⟩
  else (enumerator? s).bind Value.signed?

section

variable (enumerator? : String → Option Int)

mutual

/-- A term and what is subtracted from it. -/
def additive : Nat → List Token → Option (Value × List Token)
  | 0, _ => none
  | fuel + 1, tokens => do
    let (a, rest) ← unary fuel tokens
    differences fuel a rest

def differences : Nat → Value → List Token → Option (Value × List Token)
  | 0, _, _ => none
  | fuel + 1, a, .minus :: rest => do
    let (b, rest) ← unary fuel rest
    differences fuel (← a.sub? b) rest
  | _ + 1, a, rest => some (a, rest)

def unary : Nat → List Token → Option (Value × List Token)
  | 0, _ => none
  | fuel + 1, tokens =>
    match tokens with
    | .minus :: rest => do
      let (a, rest) ← unary fuel rest
      return (← a.neg?, rest)
    | .openParen :: rest => do
      match ← additive fuel rest with
      | (a, .closeParen :: rest) => some (a, rest)
      | _ => none
    | .integer v :: rest => some (v, rest)
    | .name s :: rest => (nameValue? enumerator? s).map (·, rest)
    | _ => none

end

/-- The value of a constant expression, with the values of the enumerators it may name. -/
def constant? (text : String) : Option Int := do
  let tokens ← lex text.toList.length text.toList
  match ← additive enumerator? (2 * tokens.length + 2) tokens with
  | (a, []) => some a.value
  | _ => none

end

/-! ## Words -/

theorem isNameChar_of_isDigit {c : Char} (h : c.isDigit = true) : Text.isNameChar c = true := by
  simp [Text.isNameChar, Char.isAlphanum, h]

/-- A word by itself is one token. -/
theorem lex_word {word : List Char} (hne : word ≠ []) (h : ∀ c ∈ word, Text.isNameChar c = true) :
    lex word.length word = (word? word).map ([·]) := by
  cases word with
  | nil => exact absurd rfl hne
  | cons c rest =>
    have hc := h c (by simp)
    have hspace : c ≠ ' ' := by rintro rfl; exact absurd hc (by decide)
    have hminus : c ≠ '-' := by rintro rfl; exact absurd hc (by decide)
    have hopen : c ≠ '(' := by rintro rfl; exact absurd hc (by decide)
    have hclose : c ≠ ')' := by rintro rfl; exact absurd hc (by decide)
    have hall : (c :: rest).takeWhile Text.isNameChar = c :: rest := List.takeWhile_eq_self_iff.mpr h
    have hnone : (c :: rest).dropWhile Text.isNameChar = [] := List.dropWhile_eq_nil_iff.mpr h
    rw [List.length_cons, lex, if_neg hspace, if_neg hminus, if_neg hopen, if_neg hclose, if_pos hc, hall, hnone]
    cases word? (c :: rest) <;> simp [lex]

/-- Digits in front of a suffix that has none. -/
theorem word?_digits {digits suffix : List Char} (hne : digits ≠ []) (h : ∀ c ∈ digits, c.isDigit = true)
    (hsuffix : ∀ c ∈ suffix, c.isDigit = false) :
    word? (digits ++ suffix) = (integer? digits suffix).map .integer := by
  have hhead : (digits ++ suffix).head?.any Char.isDigit = true := by
    cases digits with
    | nil => exact absurd rfl hne
    | cons d rest => simpa using h d (by simp)
  have htake : suffix.takeWhile Char.isDigit = [] := by
    cases suffix with
    | nil => rfl
    | cons c rest => simp [hsuffix c (by simp)]
  have hdrop : suffix.dropWhile Char.isDigit = suffix := by
    cases suffix with
    | nil => rfl
    | cons c rest => simp [hsuffix c (by simp)]
  rw [word?, if_pos hhead, List.takeWhile_append_of_pos h, List.dropWhile_append_of_pos h, htake, hdrop,
    List.append_nil]

theorem word?_name {s : String} (h : Text.isIdentifier s = true) : word? s.toList = some (.name s) := by
  obtain ⟨first, rest, hs, hfirst⟩ := Text.cons_of_isIdentifier h
  have hhead : s.toList.head?.any Char.isDigit = false := by
    simp [hs, Text.isDigit_of_isNameStart hfirst]
  simp [word?, hhead]

theorem lex_name {s : String} (h : Text.isIdentifier s = true) : lex s.toList.length s.toList = some [.name s] := by
  obtain ⟨first, rest, hs, -⟩ := Text.cons_of_isIdentifier h
  rw [lex_word (by simp [hs]) (Text.isNameChar_of_isIdentifier h), word?_name h]
  rfl

theorem toDigits_ne_octal (n : Nat) (c : Char) (rest : List Char) : Nat.toDigits 10 n ≠ '0' :: c :: rest := by
  induction n using Nat.strong_induction_on generalizing c rest with
  | _ n ih =>
    intro h
    by_cases hn : n < 10
    · have hlength := congrArg List.length h
      simp [Nat.toDigits_of_lt_base hn] at hlength
    · rw [Nat.toDigits_of_base_le (by omega) (by omega)] at h
      cases hq : Nat.toDigits 10 (n / 10) with
      | nil => exact Nat.toDigits_ne_nil hq
      | cons d ds =>
        rw [hq] at h
        obtain ⟨rfl, h⟩ := List.cons.inj h
        cases ds with
        | nil =>
          have hzero : Nat.ofDigitChars 10 (Nat.toDigits 10 (n / 10)) 0 = 0 := by
            rw [hq]
            rfl
          rw [Nat.ofDigitChars_ten_toDigits] at hzero
          omega
        | cons e es => exact ih (n / 10) (by omega) e es hq

theorem integer?_toDigits (n : Nat) (suffix : List Char) :
    integer? (Nat.toDigits 10 n) suffix =
      match suffix with
      | [] | ['L', 'L'] => Value.signed? n
      | ['U', 'L', 'L'] => Value.unsigned? n
      | _ => none := by
  unfold integer?
  rw [Nat.ofDigitChars_ten_toDigits]
  split
  next h => exact absurd h (toDigits_ne_octal n _ _)
  all_goals simp_all

/-! ## Texts -/

section

variable (enumerator? : String → Option Int)

theorem constant?_of_lex {text : String} {tokens : List Token} {v : Value}
    (hlex : lex text.toList.length text.toList = some tokens)
    (hv : additive enumerator? (2 * tokens.length + 2) tokens = some (v, [])) :
    constant? enumerator? text = some v.value := by
  simp only [constant?, hlex, hv, Option.bind_eq_bind, Option.bind_some]

theorem lex_digits (n : Nat) {suffix : List Char} (hname : ∀ c ∈ suffix, Text.isNameChar c = true)
    (hsuffix : ∀ c ∈ suffix, c.isDigit = false) :
    lex (Nat.toDigits 10 n ++ suffix).length (Nat.toDigits 10 n ++ suffix) =
      (integer? (Nat.toDigits 10 n) suffix).map ([.integer ·]) := by
  have hdigits : ∀ c ∈ Nat.toDigits 10 n, c.isDigit = true := fun c hc =>
    Nat.isDigit_of_mem_toDigits (by decide) (by decide) hc
  rw [lex_word (by simp [Nat.toDigits_ne_nil]) ?_, word?_digits Nat.toDigits_ne_nil hdigits hsuffix, Option.map_map]
  · rfl
  · intro c hc
    rcases List.mem_append.mp hc with hc | hc
    · exact isNameChar_of_isDigit (hdigits c hc)
    · exact hname c hc

theorem constant?_nat {n : Nat} (h : n < 0x8000000000000000) : constant? enumerator? (toString n) = some (n : Int) := by
  have hv : Value.signed? n = some ⟨n, false⟩ := if_pos (by omega)
  have hlex : lex (toString n).toList.length (toString n).toList = some [.integer ⟨n, false⟩] := by
    have := lex_digits n (List.forall_mem_nil _) (List.forall_mem_nil _)
    simpa [Nat.toString_eq_repr, Nat.toList_repr, integer?_toDigits, hv] using this
  exact constant?_of_lex enumerator? hlex rfl

theorem constant?_unsigned {n : Nat} (h : n < 0x10000000000000000) :
    constant? enumerator? (toString n ++ "ULL") = some (n : Int) := by
  have hv : Value.unsigned? n = some ⟨n, true⟩ := if_pos h
  have hlex : lex (toString n ++ "ULL").toList.length (toString n ++ "ULL").toList = some [.integer ⟨n, true⟩] := by
    have hnames : ∀ c ∈ ['U', 'L', 'L'], Text.isNameChar c = true := List.all_eq_true.mp (by decide)
    have hletters : ∀ c ∈ ['U', 'L', 'L'], c.isDigit = false := by simp [Char.isDigit]
    have := lex_digits n hnames hletters
    simpa [Nat.toString_eq_repr, Nat.toList_repr, integer?_toDigits, hv] using this
  exact constant?_of_lex enumerator? hlex rfl

theorem constant?_negative {n : Nat} (h : n < 0x8000000000000000) :
    constant? enumerator? ("-" ++ toString n) = some (-(n : Int)) := by
  have hv : Value.signed? n = some ⟨n, false⟩ := if_pos (by omega)
  have hneg : (⟨n, false⟩ : Value).neg? = some ⟨-n, false⟩ := by
    simp only [Value.neg?, Value.signed?, Bool.false_eq_true, if_false]
    exact if_pos ⟨by omega, by omega⟩
  have hlex : lex ("-" ++ toString n).toList.length ("-" ++ toString n).toList =
      some [.minus, .integer ⟨n, false⟩] := by
    have := lex_digits n (List.forall_mem_nil _) (List.forall_mem_nil _)
    simpa [Nat.toString_eq_repr, Nat.toList_repr, integer?_toDigits, hv, lex] using this
  refine constant?_of_lex enumerator? hlex (v := ⟨-n, false⟩) ?_
  simp [additive, unary, differences, hneg]

theorem constant?_int {i : Int} (hlow : -0x8000000000000000 < i) (hhigh : i < 0x8000000000000000) :
    constant? enumerator? (toString i) = some i := by
  cases i with
  | ofNat n => exact constant?_nat enumerator? (Int.ofNat_lt.mp hhigh)
  | negSucc n => exact constant?_negative enumerator? (n := n + 1) (by omega)

theorem constant?_least : constant? enumerator? "(-9223372036854775807LL - 1)" = some (-0x8000000000000000) := by
  have hlex : lex "(-9223372036854775807LL - 1)".toList.length "(-9223372036854775807LL - 1)".toList =
      some [.openParen, .minus, .integer ⟨0x7fffffffffffffff, false⟩, .minus, .integer ⟨1, false⟩, .closeParen] := by
    decide +kernel
  exact constant?_of_lex enumerator? hlex rfl

theorem constant?_name {s : String} (h : Text.isIdentifier s = true) :
    constant? enumerator? s = (nameValue? enumerator? s).map (·.value) := by
  simp only [constant?, lex_name h, additive, unary, Option.bind_eq_bind, Option.bind_some]
  cases nameValue? enumerator? s <;> simp [differences]

end

end StatusFrames.C
