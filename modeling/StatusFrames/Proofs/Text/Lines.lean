/-
The lines of a text, texts that stand on one line whatever is around them, and texts that stand in others on lines of
their own.
-/
import StatusFrames.Proofs.Naming.Letters
import StatusFrames.Proofs.C.Strings

namespace StatusFrames.Text

/-- A line without the return that may stand before its line break. -/
def dropReturn (line : List Char) : List Char := if line.getLast? = some '\r' then line.dropLast else line

/-- The lines of a text of which the first has been read in part. -/
def linesFrom : List Char → List Char → List (List Char)
  | line, [] => if line = [] then [] else [line]
  | line, c :: rest => if c = '\n' then dropReturn line :: linesFrom [] rest else linesFrom (line ++ [c]) rest

/-- The lines of a text. The last one need not end in a line break. -/
def lines (text : List Char) : List (List Char) := linesFrom [] text

theorem dropReturn_prefix (line : List Char) : dropReturn line <+: line := by
  unfold dropReturn
  split
  · exact List.dropLast_prefix line
  · exact List.prefix_refl line

theorem dropReturn_eq {line : List Char} (h : line.getLast? ≠ some '\r') : dropReturn line = line := if_neg h

theorem getLast?_append {a b : String} {c : Char} (h : b.toList.getLast? = some c) :
    (a ++ b).toList.getLast? = some c := by
  rw [String.toList_append, List.getLast?_append, h, Option.some_or]

theorem dropReturn_append {a b : String} {c : Char} (h : b.toList.getLast? = some c) (hc : c ≠ '\r') :
    dropReturn (a ++ b).toList = (a ++ b).toList := by
  refine dropReturn_eq ?_
  rw [getLast?_append h]
  exact fun heq => hc (Option.some.inj heq)

theorem linesFrom_break {line : List Char} (h : '\n' ∉ line) (before rest : List Char) :
    linesFrom before (line ++ '\n' :: rest) = dropReturn (before ++ line) :: lines rest := by
  induction line generalizing before with
  | nil => rw [List.append_nil]; rfl
  | cons c more ih =>
    obtain ⟨hc, hmore⟩ := not_or.mp (mt List.mem_cons.mpr h)
    rw [List.cons_append, linesFrom, if_neg (Ne.symm hc), ih hmore, List.append_assoc]
    rfl

/-- A line and its line break come before the other lines. -/
theorem lines_break {line : List Char} (h : '\n' ∉ line) (rest : List Char) :
    lines (line ++ '\n' :: rest) = dropReturn line :: lines rest :=
  linesFrom_break h [] rest

/-! ## Texts without a line break -/

/-- A text that does not break the line it stands on. -/
def OneLine (text : String) : Prop := '\n' ∉ text.toList

instance (text : String) : Decidable (OneLine text) := inferInstanceAs (Decidable (¬_))

@[simp] theorem oneLine_append {a b : String} : OneLine (a ++ b) ↔ OneLine a ∧ OneLine b := by
  simp [OneLine, not_or]

theorem oneLine_of_forall {text : String} {p : Char → Prop} (h : ∀ c ∈ text.toList, p c) (hp : ¬p '\n') :
    OneLine text :=
  fun hmem => hp (h _ hmem)

theorem oneLine_of_isIdentifier {name : String} (h : isIdentifier name = true) : OneLine name :=
  oneLine_of_forall (isNameChar_of_isIdentifier h) (by decide)

@[simp] theorem oneLine_repr (n : Nat) : OneLine n.repr := by
  refine oneLine_of_forall (p := fun c => c.isDigit = true) (fun c hc => ?_) (by decide)
  exact Nat.isDigit_of_mem_toDigits (by decide) (by decide) (Nat.toList_repr ▸ hc)

theorem oneLine_intercalate {separator : String} (hs : OneLine separator) {texts : List String}
    (h : ∀ t ∈ texts, OneLine t) : OneLine (separator.intercalate texts) := by
  induction texts with
  | nil => simp [OneLine]
  | cons t rest ih =>
    obtain ⟨ht, hrest⟩ := List.forall_mem_cons.mp h
    cases rest with
    | nil => simpa using ht
    | cons u more =>
      rw [String.intercalate_cons_cons, oneLine_append, oneLine_append]
      exact ⟨⟨ht, hs⟩, ih hrest⟩

/-- Line breaks in a string literal are escaped. -/
@[simp] theorem oneLine_quoted (text : String) : OneLine (quoted text) :=
  oneLine_of_forall (stringLiteral_quoted text).single_line (by simp)

/-! ## Texts on lines of their own -/

/-- A text between line breaks, or between a line break and an end, of another. -/
def StandsIn (part whole : List Char) : Prop :=
  ∃ before after, whole = before ++ part ++ after ∧ (∀ c ∈ before.getLast?, c = '\n') ∧ ∀ c ∈ after.head?, c = '\n'

theorem StandsIn.refl (part : List Char) : StandsIn part part :=
  ⟨[], [], by simp, by simp, by simp⟩

theorem StandsIn.isInfix {part whole : List Char} (h : StandsIn part whole) : part <:+: whole := by
  obtain ⟨before, after, rfl, -⟩ := h
  exact List.infix_append before part after

theorem StandsIn.within {part whole : List Char} (h : StandsIn part whole) (before after : List Char)
    (hbefore : ∀ c ∈ before.getLast?, c = '\n') (hafter : ∀ c ∈ after.head?, c = '\n') :
    StandsIn part (before ++ whole ++ after) := by
  obtain ⟨b, a, rfl, hb, ha⟩ := h
  refine ⟨before ++ b, a ++ after, by simp, ?_, ?_⟩
  · intro c hc
    rw [List.getLast?_append] at hc
    cases hlast : b.getLast? with
    | none => exact hbefore c (by simpa [hlast] using hc)
    | some d => exact hb c (by simpa [hlast] using hc)
  · intro c hc
    rw [List.head?_append] at hc
    cases hhead : a.head? with
    | none => exact hafter c (by simpa [hhead] using hc)
    | some d => exact ha c (by simpa [hhead] using hc)

theorem linesFrom_append (line before after : List Char) :
    linesFrom line (before ++ '\n' :: after) = linesFrom line (before ++ ['\n']) ++ lines after := by
  induction before generalizing line with
  | nil => rfl
  | cons c rest ih =>
    rw [List.cons_append, List.cons_append, linesFrom, linesFrom]
    split
    · rw [ih, List.cons_append]
    · exact ih _

theorem linesFrom_last {line : List Char} (h : '\n' ∉ line) (before : List Char) :
    linesFrom before line = if before ++ line = [] then [] else [before ++ line] := by
  induction line generalizing before with
  | nil => rw [List.append_nil, linesFrom]
  | cons c more ih =>
    obtain ⟨hc, hmore⟩ := not_or.mp (mt List.mem_cons.mpr h)
    rw [linesFrom, if_neg (Ne.symm hc), ih hmore, List.append_assoc]
    rfl

/-- A text without a line break that stands on lines of its own is a line. -/
theorem StandsIn.mem_lines {line whole : List Char} (h : StandsIn line whole) (hne : line ≠ []) (hbreak : '\n' ∉ line)
    (hreturn : '\r' ∉ line) : line ∈ lines whole := by
  obtain ⟨before, after, rfl, hbefore, hafter⟩ := h
  have hmem : line ∈ lines (line ++ after) := by
    cases after with
    | nil => simp [lines, linesFrom_last hbreak, hne]
    | cons c rest =>
      obtain rfl := hafter c rfl
      rw [lines_break hbreak, dropReturn_eq fun hlast => hreturn (List.mem_of_getLast? hlast)]
      exact List.mem_cons_self
  rw [List.append_assoc]
  rcases List.eq_nil_or_concat before with rfl | ⟨b, c, rfl⟩
  · exact hmem
  · obtain rfl := hbefore c (by simp)
    rw [List.concat_append, lines, linesFrom_append]
    exact List.mem_append_right _ hmem

end StatusFrames.Text
