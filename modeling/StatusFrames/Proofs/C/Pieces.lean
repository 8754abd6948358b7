/-
What C sees in a text: words, string literals and single marks, with blanks between them or not. The text is read letter by
letter, so what a text of several parts holds follows from what its parts hold, as long as no word and no string runs on
from one part into the next.
-/
import StatusFrames.Proofs.Naming.Letters
import StatusFrames.Text.Quoted

namespace StatusFrames.C

inductive Piece
  /-- Letters, digits and underscores without a gap: a name, a keyword or a number. -/
  | word (letters : List Char)
  | string
  | mark (c : Char)
deriving DecidableEq, Repr

/-- How far a text has been read. -/
inductive Reading
  /-- Outside of strings, behind the letters of a word that may go on. -/
  | code (word : List Char)
  | string
  /-- Behind a backslash in a string. -/
  | escape
deriving DecidableEq, Repr

/-- The word that has come to its end, if there is one. -/
def ended (word : List Char) : List Piece := if word = [] then [] else [.word word]

/-- The pieces that are complete with one more letter. -/
def step : Reading → Char → List Piece × Reading
  | .code word, c =>
    if Text.isNameChar c then ([], .code (word ++ [c]))
    else if c = '"' then (ended word ++ [.string], .string)
    else if c = ' ' then (ended word, .code [])
    else (ended word ++ [.mark c], .code [])
  | .string, c => ([], if c = '"' then .code [] else if c = '\\' then .escape else .string)
  | .escape, _ => ([], .string)

def read : Reading → List Char → List Piece × Reading
  | r, [] => ([], r)
  | r, c :: rest => ((step r c).1 ++ (read (step r c).2 rest).1, (read (step r c).2 rest).2)

def Reading.rest : Reading → List Piece
  | .code word => ended word
  | .string | .escape => []

/-- The pieces of a text. -/
def pieces (text : String) : List Piece :=
  (read (.code []) text.toList).1 ++ (read (.code []) text.toList).2.rest

/-- The names in a text, keywords among them. A word that starts with a digit is a number. -/
def names (text : String) : List String :=
  (pieces text).filterMap fun piece =>
    match piece with
    | .word letters => if letters.head?.any Char.isDigit then none else some (String.ofList letters)
    | .string | .mark _ => none

/-! ## Parts of a text -/

theorem read_append (r : Reading) (a b : List Char) :
    read r (a ++ b) = ((read r a).1 ++ (read (read r a).2 b).1, (read (read r a).2 b).2) := by
  induction a generalizing r with
  | nil => simp [read]
  | cons c rest ih => simp [read, ih]

/-- The letters of a word are kept until it ends. -/
theorem read_letters {word : List Char} (h : ∀ c ∈ word, Text.isNameChar c = true) (before : List Char) :
    read (.code before) word = ([], .code (before ++ word)) := by
  induction word generalizing before with
  | nil => simp [read]
  | cons c rest ih =>
    obtain ⟨hc, hrest⟩ := List.forall_mem_cons.mp h
    simp [read, step, hc, ih hrest]

/-- No word of a text before this one goes on in it. -/
def Apart (text : String) : Prop := text.toList.head?.all (!Text.isNameChar ·) = true

instance (text : String) : Decidable (Apart text) := inferInstanceAs (Decidable (_ = true))

theorem Apart.append {a : String} (h : Apart a) (hne : a ≠ "") (b : String) : Apart (a ++ b) := by
  unfold Apart at h ⊢
  cases ha : a.toList with
  | nil => exact absurd (String.toList_eq_nil_iff.mp ha) hne
  | cons c rest =>
    rw [ha] at h
    rwa [String.toList_append, ha]

theorem read_apart {text : String} (h : Apart text) (word : List Char) :
    (read (.code word) text.toList).1 ++ (read (.code word) text.toList).2.rest = ended word ++ pieces text := by
  unfold Apart at h
  unfold pieces
  cases hc : text.toList with
  | nil => simp [read, Reading.rest, ended]
  | cons c rest =>
    have hc : Text.isNameChar c = false := by simpa [hc] using h
    by_cases hquote : c = '"'
    · simp [read, step, hquote, hquote ▸ hc, ended]
    · by_cases hblank : c = ' '
      · simp [read, step, hblank, hblank ▸ hc, ended]
      · simp [read, step, hc, hquote, hblank, ended]

/-- A text that ends outside of words and strings. -/
def Closed (text : String) : Prop := (read (.code []) text.toList).2 = .code []

instance (text : String) : Decidable (Closed text) := inferInstanceAs (Decidable (_ = _))

theorem pieces_append {a : String} (h : Closed a) (b : String) : pieces (a ++ b) = pieces a ++ pieces b := by
  rw [Closed] at h
  simp only [pieces, String.toList_append, read_append, h, Reading.rest, ended, if_true, List.append_nil,
    List.append_assoc]

theorem pieces_word {word : List Char} (hne : word ≠ []) (h : ∀ c ∈ word, Text.isNameChar c = true) {b : String}
    (hb : Apart b) : pieces (String.ofList word ++ b) = .word word :: pieces b := by
  have apart := read_apart hb word
  rw [pieces, String.toList_append, String.toList_ofList, read_append, read_letters h, List.nil_append,
    List.nil_append, apart, ended, if_neg hne]
  rfl

theorem names_append {a : String} (h : Closed a) (b : String) : names (a ++ b) = names a ++ names b := by
  rw [names, pieces_append h, List.filterMap_append]
  rfl

section

variable {s : String} (h : Text.isIdentifier s = true)

include h

theorem pieces_identifier {b : String} (hb : Apart b) : pieces (s ++ b) = .word s.toList :: pieces b := by
  obtain ⟨first, rest, hs, -⟩ := Text.cons_of_isIdentifier h
  have hne : s.toList ≠ [] := by simp [hs]
  have := pieces_word hne (Text.isNameChar_of_isIdentifier h) hb
  rwa [String.ofList_toList] at this

theorem names_identifier {b : String} (hb : Apart b) : names (s ++ b) = s :: names b := by
  obtain ⟨first, rest, hs, hfirst⟩ := Text.cons_of_isIdentifier h
  have hdigit : s.toList.head?.any Char.isDigit = false := by simp [hs, Text.isDigit_of_isNameStart hfirst]
  rw [names, pieces_identifier h hb, List.filterMap_cons]
  simp [hdigit, names]

theorem names_eq_singleton : names s = [s] := by
  have := names_identifier h (b := "") (by decide)
  rw [String.append_empty] at this
  exact this

end

/-! ## Strings and numbers -/

theorem read_escape (c : Char) : read .string (Text.escape c) = ([], .string) := by
  unfold Text.escape
  split
  case h_6 hslash hquote _ _ _ =>
    have next : (step .string c).2 = .string := by
      simp only [step]
      rw [if_neg hquote, if_neg hslash]
    simp only [read, next]
    rfl
  all_goals rfl

theorem read_escaped (cs : List Char) : read .string (cs.flatMap Text.escape) = ([], .string) := by
  induction cs with
  | nil => rfl
  | cons c rest ih => rw [List.flatMap_cons, read_append, read_escape, ih, List.append_nil]

/-- A string literal holds no names. -/
theorem names_quoted (text : String) : names (Text.quoted text) = [] := by
  have hpieces : pieces (Text.quoted text) = [.string] := by
    rw [pieces, Text.quoted, String.toList_ofList, List.cons_append, read, read_append]
    simp [step, Text.isNameChar, ended, read_escaped, read, Reading.rest]
  rw [names, hpieces]
  rfl

/-- Whether every word of a text without strings starts with a digit; `inWord` if the text goes on with a word. -/
def numeric : Bool → List Char → Bool
  | _, [] => true
  | inWord, c :: rest =>
    if Text.isNameChar c then (inWord || c.isDigit) && numeric true rest else c != '"' && numeric false rest

theorem numeric_digits {digits : List Char} (hne : digits ≠ []) (h : ∀ c ∈ digits, c.isDigit = true) (inWord : Bool)
    (rest : List Char) : numeric inWord (digits ++ rest) = numeric true rest := by
  induction digits generalizing inWord with
  | nil => exact absurd rfl hne
  | cons c more ih =>
    obtain ⟨hc, hmore⟩ := List.forall_mem_cons.mp h
    have hname : Text.isNameChar c = true := by simp [Text.isNameChar, Char.isAlphanum, hc]
    rw [List.cons_append, numeric, if_pos hname, hc, Bool.or_true, Bool.true_and]
    cases more with
    | nil => rfl
    | cons d others => exact ih (List.cons_ne_nil _ _) hmore true

/-- The piece is a number or a mark. -/
def Piece.isNumeric : Piece → Bool
  | .word letters => letters.head?.any Char.isDigit
  | .mark _ => true
  | .string => false

theorem isNumeric_ended {word : List Char} (h : word = [] ∨ word.head?.any Char.isDigit = true) :
    ∀ piece ∈ ended word, piece.isNumeric = true := by
  intro piece hmem
  unfold ended at hmem
  split at hmem
  next => cases hmem
  next hne =>
    rw [List.mem_singleton.mp hmem]
    exact h.resolve_left hne

theorem isNumeric_read {cs word : List Char} (hword : word = [] ∨ word.head?.any Char.isDigit = true)
    (h : numeric (!word.isEmpty) cs = true) :
    ∀ piece ∈ (read (.code word) cs).1 ++ (read (.code word) cs).2.rest, piece.isNumeric = true := by
  induction cs generalizing word with
  | nil => exact isNumeric_ended hword
  | cons c rest ih =>
    rw [numeric] at h
    simp only [read, step]
    by_cases hc : Text.isNameChar c = true
    · rw [if_pos hc, Bool.and_eq_true] at h
      rw [if_pos hc]
      cases word with
      | nil => exact ih (.inr (by simpa using h.1)) h.2
      | cons d more => exact ih (.inr (by simpa using hword)) h.2
    · rw [if_neg hc, Bool.and_eq_true, bne_iff_ne] at h
      rw [if_neg hc, if_neg h.1]
      have hrest := ih (.inl rfl) h.2
      intro piece hmem
      split at hmem
      · rw [List.append_assoc] at hmem
        exact (List.mem_append.mp hmem).elim (isNumeric_ended hword piece) (hrest piece)
      · rw [List.append_assoc, List.append_assoc] at hmem
        rcases List.mem_append.mp hmem with hmem | hmem
        · exact isNumeric_ended hword piece hmem
        rcases List.mem_cons.mp hmem with rfl | hmem
        · rfl
        · exact hrest piece hmem

/-- A text of numbers and marks holds no names. -/
theorem names_numeric {text : String} (h : numeric false text.toList = true) : names text = [] := by
  refine List.filterMap_eq_nil_iff.mpr fun piece hmem => ?_
  have hpiece : piece.isNumeric = true := isNumeric_read (.inl rfl) h piece hmem
  cases piece with
  | word letters => simpa [Piece.isNumeric] using hpiece
  | string => rfl
  | mark c => rfl

end StatusFrames.C
