/-
C string literals. Their grammar is stated as a relation between what stands between the quotes and the text that it
spells; the reader below decides it. Main statement: a quoted text is a literal that spells the text.
-/
import StatusFrames.Proofs.Steps
import StatusFrames.Text.Quoted

namespace StatusFrames.C

/-- The escapes in use: what stands behind the backslash, and the character that it means. -/
def escapes : List (Char × Char) := [('\\', '\\'), ('"', '"'), ('n', '\n'), ('r', '\r'), ('t', '\t')]

/-- The characters that stand for themselves in a literal. -/
def isOrdinary (c : Char) : Bool := c ∉ ['"', '\\', '\n', '\r']

/-- How a text is spelled between quotes. -/
inductive Spells : List Char → List Char → Prop
  | nil : Spells [] []
  | ordinary {c : Char} {body text : List Char} (h : isOrdinary c = true) (rest : Spells body text) :
      Spells (c :: body) (c :: text)
  | escape {letter c : Char} {body text : List Char} (h : (letter, c) ∈ escapes) (rest : Spells body text) :
      Spells ('\\' :: letter :: body) (c :: text)

/-- A literal that spells a text: its first and last character are quotes. -/
def StringLiteral (literal text : String) : Prop :=
  ∃ body, literal.toList = '"' :: body ++ ['"'] ∧ Spells body text.toList

/-- The text up to the closing quote, behind which nothing may stand. -/
def characters? : List Char → Option (List Char)
  | [] => none
  | '\\' :: letter :: rest => (escapes.lookup letter).bind fun c => (characters? rest).map (c :: ·)
  | c :: rest =>
    if isOrdinary c then (characters? rest).map (c :: ·) else if c = '"' ∧ rest = [] then some [] else none

/-- The text of a string literal. -/
def string? (literal : String) : Option String :=
  if literal.toList.head? = some '"' then (characters? literal.toList.tail).map String.ofList else none

theorem lookup_escapes {letter c : Char} : escapes.lookup letter = some c ↔ (letter, c) ∈ escapes := by
  constructor
  · exact mem_of_lookup
  · intro h
    have hall : ∀ e ∈ escapes, escapes.lookup e.1 = some e.2 := by decide
    exact hall (letter, c) h

theorem spells_of_characters? {cs text : List Char} (h : characters? cs = some text) :
    ∃ body, cs = body ++ ['"'] ∧ Spells body text := by
  fun_induction characters? cs generalizing text with
  | case1 => cases h
  | case2 letter rest ih =>
    obtain ⟨c, hc, h⟩ := Option.bind_eq_some_iff.mp h
    obtain ⟨more, hmore, rfl⟩ := Option.map_eq_some_iff.mp h
    obtain ⟨body, rfl, hspells⟩ := ih hmore
    exact ⟨'\\' :: letter :: body, rfl, .escape (lookup_escapes.mp hc) hspells⟩
  | case3 c rest _ hc ih =>
    obtain ⟨more, hmore, rfl⟩ := Option.map_eq_some_iff.mp h
    obtain ⟨body, rfl, hspells⟩ := ih hmore
    exact ⟨c :: body, rfl, .ordinary hc hspells⟩
  | case4 c rest _ hc hlast =>
    obtain ⟨rfl, rfl⟩ := hlast
    cases h
    exact ⟨[], rfl, .nil⟩
  | case5 => cases h

theorem Spells.characters? {body text : List Char} (h : Spells body text) :
    C.characters? (body ++ ['"']) = some text := by
  induction h with
  | nil => rfl
  | @ordinary c body text hc _ ih =>
    rw [List.cons_append, C.characters?, if_pos hc, ih, Option.map_some]
    rintro letter rest rfl
    cases hc
  | escape hc _ ih =>
    rw [List.cons_append, List.cons_append, C.characters?, lookup_escapes.mpr hc, Option.bind_some, ih, Option.map_some]

/-- The reader accepts the literals and gives the text that they spell. -/
theorem string?_eq_some {literal text : String} : string? literal = some text ↔ StringLiteral literal text := by
  unfold string? StringLiteral
  constructor
  · intro h
    split at h
    · next hquote =>
      obtain ⟨cs, hcs, rfl⟩ := Option.map_eq_some_iff.mp h
      obtain ⟨body, hbody, hspells⟩ := spells_of_characters? hcs
      obtain ⟨rest, hrest⟩ := List.head?_eq_some_iff.mp hquote
      rw [hrest, List.tail_cons] at hbody
      exact ⟨body, by rw [hrest, hbody, List.cons_append], by simpa using hspells⟩
    · cases h
  · rintro ⟨body, hbody, hspells⟩
    rw [hbody, List.cons_append, List.head?_cons, if_pos rfl, List.tail_cons, hspells.characters?, Option.map_some,
      String.ofList_toList]

theorem Spells.single_line {body text : List Char} (h : Spells body text) : ∀ c ∈ body, c ≠ '\n' ∧ c ≠ '\r' := by
  induction h with
  | nil => exact List.forall_mem_nil _
  | ordinary hc _ ih =>
    refine List.forall_mem_cons.mpr ⟨⟨?_, ?_⟩, ih⟩ <;> (rintro rfl; cases hc)
  | @escape letter c _ _ hc _ ih =>
    have hletters : ∀ e ∈ escapes, e.1 ≠ '\n' ∧ e.1 ≠ '\r' := by decide
    exact List.forall_mem_cons.mpr ⟨by decide, List.forall_mem_cons.mpr ⟨hletters (letter, c) hc, ih⟩⟩

/-- A literal does not leave its line. -/
theorem StringLiteral.single_line {literal text : String} (h : StringLiteral literal text) :
    ∀ c ∈ literal.toList, c ≠ '\n' ∧ c ≠ '\r' := by
  obtain ⟨body, heq, hspells⟩ := h
  rw [heq]
  exact List.forall_mem_append.mpr
    ⟨List.forall_mem_cons.mpr ⟨by decide, hspells.single_line⟩, List.forall_mem_singleton.mpr (by decide)⟩

end StatusFrames.C

namespace StatusFrames.Text

open C

theorem spells_escape (c : Char) {body text : List Char} (h : Spells body text) :
    Spells (escape c ++ body) (c :: text) := by
  unfold escape
  split
  case h_6 hbackslash hquote hbreak hreturn _ =>
    have hc : isOrdinary c = true := by
      simp only [isOrdinary, List.mem_cons, List.not_mem_nil, or_false, not_or, decide_eq_true_eq]
      exact ⟨hquote, hbackslash, hbreak, hreturn⟩
    exact .ordinary hc h
  all_goals exact .escape (by decide) h

theorem spells_flatMap_escape (text : List Char) : Spells (text.flatMap escape) text := by
  induction text with
  | nil => exact .nil
  | cons c text ih => exact List.flatMap_cons ▸ spells_escape c ih

theorem stringLiteral_quoted (text : String) : StringLiteral (quoted text) text := by
  refine ⟨text.toList.flatMap escape, ?_, spells_flatMap_escape text.toList⟩
  simp [quoted]

/-- Reading back a quoted text gives the text. -/
theorem string?_quoted (text : String) : string? (quoted text) = some text :=
  string?_eq_some.mpr (stringLiteral_quoted text)

theorem quoted_injective : Function.Injective quoted := by
  intro s t h
  have hs := string?_quoted s
  rw [h, string?_quoted t] at hs
  exact (Option.some.inj hs).symm

end StatusFrames.Text
