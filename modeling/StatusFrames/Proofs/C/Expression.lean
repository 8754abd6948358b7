/-
The value of a C expression of casts, shifts and bitwise or, from its text. All values are of type `int`, as those of
enumerators are, and none is negative. What C leaves open has no value here: a shift that loses bits, a cast to a type
that is not unsigned.
-/
import StatusFrames.Proofs.C.Constant
import StatusFrames.Proofs.C.Pieces
import StatusFrames.Proofs.C.Program
import StatusFrames.Proofs.C.Types

namespace StatusFrames.C

/-- A value of type `int`. -/
def int? (n : Nat) : Option Nat := if n < 0x80000000 then some n else none

def shift? (a b : Nat) : Option Nat := if b < 32 then int? (a <<< b) else none

/-- The low bits of a value, as many as the type has. -/
def cast? (typeName : String) (a : Nat) : Option Nat :=
  match (numberType? typeName).bind (·.range) with
  | some (0, high) => int? (a % (high.toNat + 1))
  | _ => none

section

variable (enumerator? : String → Option Int)

/-- The value of a number or an enumerator. -/
def wordValue? (letters : List Char) : Option Nat :=
  match word? letters with
  | some (.integer v) => v.value.toNat?.bind int?
  | some (.name s) => ((enumerator? s).bind Int.toNat?).bind int?
  | _ => none

mutual

/-- Operands with `|` between them. -/
def alternation : Nat → List Piece → Option (Nat × List Piece)
  | 0, _ => none
  | fuel + 1, ps => do
    let (a, rest) ← shifted fuel ps
    alternatives fuel a rest

def alternatives : Nat → Nat → List Piece → Option (Nat × List Piece)
  | 0, _, _ => none
  | fuel + 1, a, .mark '|' :: rest => do
    let (b, rest) ← shifted fuel rest
    alternatives fuel (a ||| b) rest
  | _ + 1, a, rest => some (a, rest)

/-- Operands with `<<` between them. -/
def shifted : Nat → List Piece → Option (Nat × List Piece)
  | 0, _ => none
  | fuel + 1, ps => do
    let (a, rest) ← operand fuel ps
    shifts fuel a rest

def shifts : Nat → Nat → List Piece → Option (Nat × List Piece)
  | 0, _, _ => none
  | fuel + 1, a, .mark '<' :: .mark '<' :: rest => do
    let (b, rest) ← operand fuel rest
    shifts fuel (← shift? a b) rest
  | _ + 1, a, rest => some (a, rest)

/-- A word, an expression in parentheses, or an operand behind a type in parentheses. -/
def operand : Nat → List Piece → Option (Nat × List Piece)
  | 0, _ => none
  | fuel + 1, ps =>
    match ps with
    | .word letters :: rest => (wordValue? enumerator? letters).map (·, rest)
    | .mark '(' :: rest =>
      match rest with
      | .word letters :: .mark ')' :: more =>
        if (numberType? (String.ofList letters)).isSome then do
          let (a, more) ← operand fuel more
          return (← cast? (String.ofList letters) a, more)
        else (wordValue? enumerator? letters).map (·, more)
      | rest => do
        match ← alternation fuel rest with
        | (a, .mark ')' :: more) => some (a, more)
        | _ => none
    | _ => none

end

/-- The value of an expression, with the values of the enumerators it may name. -/
def expression? (text : String) : Option Nat :=
  match alternation enumerator? (4 * (pieces text).length + 4) (pieces text) with
  | some (a, []) => some a
  | _ => none

end

/-- The text that a macro stands for. -/
def replacement? (declarations : List Declaration) (name : String) : Option String :=
  declarations.findSome? fun d =>
    match d with
    | .define other text => if other = name then some text else none
    | _ => none

/-- The value of a macro, with the enumerators that are declared beside it. -/
def macroValue? (declarations : List Declaration) (name : String) : Option Nat :=
  (replacement? declarations name).bind (expression? (enumerator? declarations))

theorem replacement?_eq_some {declarations : List Declaration}
    (hnodup : (declarations.flatMap Declaration.ownNames).Nodup) {name text : String}
    (h : .define name text ∈ declarations) : replacement? declarations name = some text := by
  have found : (replacement? declarations name).isSome = true := by
    rw [replacement?, List.findSome?_isSome_iff]
    exact ⟨_, h, by simp⟩
  obtain ⟨other, hother⟩ := Option.isSome_iff_exists.mp found
  obtain ⟨d, hd, hvalue⟩ := List.exists_of_findSome?_eq_some hother
  cases d with
  | define defined value =>
    obtain ⟨rfl, rfl⟩ : defined = name ∧ value = other := by simpa using hvalue
    have same := eq_of_common_name hnodup hd h (List.mem_singleton_self _) (List.mem_singleton_self _)
    rw [hother, (Declaration.define.inj same).2]
  | comment | group | inclusion | enumeration | record | staticAssert | prototype | guard => cases hvalue

/-! ## Two bytes in one number -/

theorem int?_eq_some {n : Nat} (hn : n < 0x80000000) : int? n = some n := if_pos hn

theorem wordValue?_name {enumerator? : String → Option Int} {s : String} (h : Text.isIdentifier s = true) {n : Nat}
    (hn : n < 0x80000000) (hs : enumerator? s = some (n : Int)) : wordValue? enumerator? s.toList = some n := by
  have hnat : Int.toNat? (n : Int) = some n := rfl
  simp only [wordValue?, word?_name h, hs, Option.bind_some, hnat, int?_eq_some hn]

theorem shift?_eight {n : Nat} (hn : n < 0x100) : shift? n 8 = some (n * 0x100) := by
  rw [shift?, if_pos (by decide), Nat.shiftLeft_eq, int?_eq_some (by omega)]

theorem cast?_uint16 {n : Nat} (hn : n < 0x10000) : cast? "uint16_t" n = some n := by
  have hrange : (numberType? "uint16_t").bind (·.range) = some (0, 0xffff) := by decide
  have hlow : n % (Int.toNat 0xffff + 1) = n := Nat.mod_eq_of_lt hn
  simp only [cast?, hrange, hlow]
  exact int?_eq_some (by omega)

/-- A byte goes into the eight bits that a shift left free. -/
theorem or_byte {n : Nat} (hn : n < 0x100) (m : Nat) : m * 0x100 ||| n = m * 0x100 + n := by
  have := Nat.shiftLeft_add_eq_or_of_lt (i := 8) hn m
  rwa [Nat.shiftLeft_eq, eq_comm] at this

theorem pieces_packed {high low : String} (hhigh : Text.isIdentifier high = true) (hlow : Text.isIdentifier low = true) :
    pieces ("((uint16_t)((" ++ high ++ " << 8) | " ++ low ++ "))") =
      [.mark '(', .mark '(', .word "uint16_t".toList, .mark ')', .mark '(', .mark '(', .word high.toList, .mark '<',
        .mark '<', .word ['8'], .mark ')', .mark '|', .word low.toList, .mark ')', .mark ')'] := by
  have front : pieces "((uint16_t)((" =
      [.mark '(', .mark '(', .word "uint16_t".toList, .mark ')', .mark '(', .mark '('] := by decide
  have middle : pieces " << 8) | " = [.mark '<', .mark '<', .word ['8'], .mark ')', .mark '|'] := by decide
  have back : pieces "))" = [.mark ')', .mark ')'] := by decide
  simp only [String.append_assoc]
  rw [pieces_append (by decide), pieces_identifier hhigh (Apart.append (by decide) (by decide) _),
    pieces_append (by decide), pieces_identifier hlow (by decide), front, middle, back]
  rfl

/-- The expression for two bytes, the first of them above the second. -/
theorem expression?_packed {enumerator? : String → Option Int} {high low : String}
    (hhigh : Text.isIdentifier high = true) (hlow : Text.isIdentifier low = true) {m n : Nat} (hm : m < 0x100)
    (hn : n < 0x100) (hhighValue : enumerator? high = some (m : Int)) (hlowValue : enumerator? low = some (n : Int)) :
    expression? enumerator? ("((uint16_t)((" ++ high ++ " << 8) | " ++ low ++ "))") = some (m * 0x100 + n) := by
  have highWord := wordValue?_name hhigh (by omega) hhighValue
  have lowWord := wordValue?_name hlow (by omega) hlowValue
  have eight : wordValue? enumerator? ['8'] = some 8 := rfl
  have uint16 : (numberType? "uint16_t").isSome = true := by decide
  have shift := shift?_eight hm
  have or := or_byte hn m
  have cast := cast?_uint16 (n := m * 0x100 + n) (by omega)
  rw [expression?, pieces_packed hhigh hlow]
  simp [alternation, alternatives, shifted, shifts, operand, highWord, lowWord, eight, uint16, shift, or, cast]

end StatusFrames.C
