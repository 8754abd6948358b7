/-
Names of documents are identifiers, so the two ways to write a name only ever see letters, digits and underscores of
ASCII. There each character is a cluster of its own and case is changed one character at a time, and what comes out is
again made of such characters.
-/
import StatusFrames.Naming
import StatusFrames.Text.Identifier

namespace StatusFrames.Text

/-- A property of ASCII characters, looked up character by character. -/
theorem forall_ascii {p : Char → Prop} (h : ∀ n < 0x80, p (Char.ofNat n)) {c : Char} (hc : c.toNat < 0x80) : p c := by
  have := h c.toNat hc
  rwa [Char.ofNat_toNat] at this

def BasicLetter (c : Char) : Prop := 'a' ≤ c ∧ c ≤ 'z' ∨ 'A' ≤ c ∧ c ≤ 'Z'

def BasicDigit (c : Char) : Prop := '0' ≤ c ∧ c ≤ '9'

theorem isAlpha_iff {c : Char} : c.isAlpha = true ↔ BasicLetter c := by
  have upper : c.isUpper = true ↔ 'A' ≤ c ∧ c ≤ 'Z' := decide_eq_true_iff
  have lower : c.isLower = true ↔ 'a' ≤ c ∧ c ≤ 'z' := by
    change (decide ('a' ≤ c) && decide (c ≤ 'z')) = true ↔ _
    rw [Bool.and_eq_true, decide_eq_true_iff, decide_eq_true_iff]
  change (c.isUpper || c.isLower) = true ↔ _
  rw [Bool.or_eq_true, or_comm, upper, lower, BasicLetter]

theorem isDigit_iff {c : Char} : c.isDigit = true ↔ BasicDigit c := by
  simp [Char.isDigit, BasicDigit, Char.le_def]

theorem isNameChar_iff {c : Char} : isNameChar c = true ↔ BasicLetter c ∨ BasicDigit c ∨ c = '_' := by
  simp [isNameChar, Char.isAlphanum, isAlpha_iff, isDigit_iff, or_assoc]

theorem ascii_of_isNameChar {c : Char} (h : isNameChar c = true) : c.toNat < 0x80 := by
  have below : ∀ d : Char, c ≤ d → c.toNat ≤ d.toNat := fun _ hd => hd
  rcases isNameChar_iff.mp h with (⟨-, hz⟩ | ⟨-, hZ⟩) | ⟨-, h9⟩ | rfl
  · exact Nat.lt_of_le_of_lt (below _ hz) (by decide)
  · exact Nat.lt_of_le_of_lt (below _ hZ) (by decide)
  · exact Nat.lt_of_le_of_lt (below _ h9) (by decide)
  · decide

theorem isNameChar_of_isAlphanum {c : Char} (h : c.isAlphanum = true) : isNameChar c = true := by
  simp [isNameChar, h]

theorem isAlphanum_of_isNameChar {c : Char} (h : isNameChar c = true) (hc : c ≠ '_') : c.isAlphanum = true := by
  simpa [isNameChar, hc] using h

theorem isAlphanum_toUpper {c : Char} (h : c.isAlphanum = true) : c.toUpper.isAlphanum = true :=
  forall_ascii (p := fun c => c.isAlphanum = true → c.toUpper.isAlphanum = true) (by decide)
    (ascii_of_isNameChar (isNameChar_of_isAlphanum h)) h

theorem isAlphanum_toLower {c : Char} (h : c.isAlphanum = true) : c.toLower.isAlphanum = true :=
  forall_ascii (p := fun c => c.isAlphanum = true → c.toLower.isAlphanum = true) (by decide)
    (ascii_of_isNameChar (isNameChar_of_isAlphanum h)) h

theorem isNameChar_of_isNameStart {c : Char} (h : isNameStart c = true) : isNameChar c = true := by
  simp only [isNameStart, Bool.or_eq_true] at h
  rcases h with h | h <;> simp [isNameChar, Char.isAlphanum, h]

/-- The characters of an identifier. -/
theorem isNameChar_of_isIdentifier {name : String} (h : isIdentifier name = true) :
    ∀ c ∈ name.toList, isNameChar c = true := by
  unfold isIdentifier at h
  cases hn : name.toList with
  | nil => simp
  | cons first rest =>
    simp only [hn, Bool.and_eq_true, List.all_eq_true] at h
    intro c hc
    rcases List.mem_cons.mp hc with rfl | hc
    · exact isNameChar_of_isNameStart h.1
    · exact h.2 c hc

theorem isDigit_of_isNameStart {c : Char} (h : isNameStart c = true) : c.isDigit = false :=
  forall_ascii (p := fun c => isNameStart c = true → c.isDigit = false) (by decide)
    (ascii_of_isNameChar (isNameChar_of_isNameStart h)) h

theorem cons_of_isIdentifier {name : String} (h : isIdentifier name = true) :
    ∃ first rest, name.toList = first :: rest ∧ isNameStart first = true := by
  unfold isIdentifier at h
  cases hn : name.toList with
  | nil => simp [hn] at h
  | cons first rest =>
    simp only [hn, Bool.and_eq_true] at h
    exact ⟨first, rest, rfl, h.1⟩

theorem joined_eq_false {a b : Char} (ha : isNameChar a = true) (hb : isNameChar b = true) : joined a b = false := by
  have hr : a ≠ '\r' := by
    rintro rfl
    exact absurd ha (by decide)
  have ha := ascii_of_isNameChar ha
  have hb := ascii_of_isNameChar hb
  have leads : leads a = false := by
    simp only [leads, Bool.and_eq_false_imp, decide_eq_true_eq]
    omega
  have attaches : attaches b = false := by
    simp only [attaches, Bool.and_eq_false_imp, decide_eq_true_eq]
    omega
  simp [joined, hr, leads, attaches]

theorem clusters_eq {cs : List Char} (h : ∀ c ∈ cs, isNameChar c = true) : clusters cs = cs.map ([·]) := by
  induction cs with
  | nil => rfl
  | cons c rest ih =>
    have ih := ih fun d hd => h d (by simp [hd])
    rw [clusters, ih]
    cases rest with
    | nil => rfl
    | cons d more => simp [joined_eq_false (h c (by simp)) (h d (by simp))]

theorem uppercase_eq {cs : List Char} (h : ∀ c ∈ cs, isNameChar c = true) : uppercase cs = cs.map Char.toUpper := by
  induction cs with
  | nil => rfl
  | cons c rest ih =>
    have hc : c.toNat < 0x80 := ascii_of_isNameChar (h c (by simp))
    have ih := ih fun d hd => h d (by simp [hd])
    rw [uppercase] at ih ⊢
    simp [upperChar, hc, ih]

theorem lowercase_eq {cs : List Char} (h : ∀ c ∈ cs, isNameChar c = true) : lowercase cs = cs.map Char.toLower := by
  suffices ∀ before, lowercaseAfter before cs = cs.map Char.toLower from this []
  induction cs with
  | nil => simp [lowercaseAfter]
  | cons c rest ih =>
    intro before
    have hc : c.toNat < 0x80 := ascii_of_isNameChar (h c (by simp))
    have sigma : c ≠ 'Σ' := by
      rintro rfl
      exact absurd hc (by decide)
    simp [lowercaseAfter, sigma, lowerChar, hc, ih fun d hd => h d (by simp [hd])]

end StatusFrames.Text

namespace StatusFrames.Naming

open Text

/-- The words of an identifier. -/
def wordsOf (cs : List Char) : List (List Char) := (cs.splitOn '_').filter (!·.isEmpty)

/-- A word with a capital at its front. -/
def capitalized : List Char → List Char
  | [] => []
  | c :: rest => c.toUpper :: rest.map Char.toLower

theorem flatten_singletons (cs : List Char) : (cs.map ([·])).flatten = cs := by
  induction cs with
  | nil => rfl
  | cons c rest ih => simp [ih]

theorem splitOn_singletons (cs : List Char) :
    (cs.map ([·])).splitOn ['_'] = (cs.splitOn '_').map (·.map ([·])) := by
  induction cs with
  | nil => rfl
  | cons c rest ih =>
    simp only [List.map_cons, List.splitOn_cons_eq_if_modifyHead, ih]
    by_cases hc : c = '_'
    · simp [hc]
    · cases h : rest.splitOn '_' <;> simp [hc]

theorem mem_wordsOf {cs word : List Char} (h : word ∈ wordsOf cs) : word ≠ [] ∧ ∀ c ∈ word, c ∈ cs ∧ c ≠ '_' := by
  simp only [wordsOf, List.mem_filter, Bool.not_eq_true', List.isEmpty_eq_false_iff] at h
  refine ⟨h.2, ?_⟩
  have hmem := h.1
  clear h
  -- A piece of `c :: rest` is a piece of `rest`, or the first one with `c` in front.
  induction cs generalizing word with
  | nil => simp_all
  | cons c rest ih =>
    rw [List.splitOn_cons_eq_if_modifyHead] at hmem
    intro d hd
    by_cases hc : c = '_'
    · simp only [hc, beq_self_eq_true, if_true, List.mem_cons] at hmem
      rcases hmem with rfl | hmem
      · simp at hd
      · exact ⟨List.mem_cons_of_mem _ (ih hmem d hd).1, (ih hmem d hd).2⟩
    · have hc' : (c == '_') = false := by simpa using hc
      rw [hc'] at hmem
      cases hs : rest.splitOn '_' with
      | nil => exact absurd hs (List.splitOn_ne_nil _ _)
      | cons first others =>
        simp only [hs, Bool.false_eq_true, if_false, List.modifyHead_cons, List.mem_cons] at hmem
        rcases hmem with rfl | hmem
        · rcases List.mem_cons.mp hd with rfl | hd
          · exact ⟨by simp, hc⟩
          · have := ih (show first ∈ rest.splitOn '_' by simp [hs]) d hd
            exact ⟨List.mem_cons_of_mem _ this.1, this.2⟩
        · have := ih (show word ∈ rest.splitOn '_' by simp [hs, hmem]) d hd
          exact ⟨List.mem_cons_of_mem _ this.1, this.2⟩

theorem mem_intercalate {sep c : Char} {parts : List (List Char)} (h : c ∈ [sep].intercalate parts) :
    c = sep ∨ ∃ part ∈ parts, c ∈ part := by
  induction parts with
  | nil => simp at h
  | cons part rest ih =>
    cases rest with
    | nil => exact .inr ⟨part, by simp, by simpa using h⟩
    | cons next others =>
      simp only [List.intercalate_cons_cons, List.append_assoc, List.mem_append, List.mem_singleton] at h
      rcases h with h | rfl | h
      · exact .inr ⟨part, by simp, h⟩
      · exact .inl rfl
      · rcases ih h with rfl | ⟨p, hp, hc⟩
        · exact .inl rfl
        · exact .inr ⟨p, List.mem_cons_of_mem _ hp, hc⟩

theorem words_eq {name : String} (h : ∀ c ∈ name.toList, isNameChar c = true) :
    words name = (wordsOf name.toList).map (·.map ([·])) := by
  rw [words, clusters_eq h, splitOn_singletons, wordsOf, List.filter_map]
  congr 1
  apply List.filter_congr
  intro word _
  simp

theorem camel_toList {name : String} (h : ∀ c ∈ name.toList, isNameChar c = true) :
    (camel name).toList = (wordsOf name.toList).flatMap capitalized := by
  rw [camel, String.toList_ofList, words_eq h, List.flatMap_map, List.flatMap_def, List.flatMap_def]
  congr 1
  apply List.map_congr_left
  intro word hw
  have hword : ∀ c ∈ word, isNameChar c = true := fun c hc => h c ((mem_wordsOf hw).2 c hc).1
  cases word with
  | nil => rfl
  | cons c rest =>
    simp only [List.map_cons, capitalize, capitalized, flatten_singletons]
    rw [uppercase_eq (by simpa using hword c (by simp)), lowercase_eq fun d hd => hword d (by simp [hd])]
    simp

theorem upper_toList {name : String} (h : ∀ c ∈ name.toList, isNameChar c = true) :
    (upper name).toList = ['_'].intercalate ((wordsOf name.toList).map (·.map Char.toUpper)) := by
  rw [upper, String.toList_ofList, words_eq h, List.map_map]
  congr 1
  apply List.map_congr_left
  intro word hw
  have hword : ∀ c ∈ word, isNameChar c = true := fun c hc => h c ((mem_wordsOf hw).2 c hc).1
  simp only [Function.comp_apply, flatten_singletons, uppercase_eq hword]

/-- Letters and digits are all that a capitalized name has. -/
theorem camel_isAlphanum {name : String} (h : isIdentifier name = true) :
    ∀ c ∈ (camel name).toList, c.isAlphanum = true := by
  have hname := isNameChar_of_isIdentifier h
  intro c hc
  rw [camel_toList hname, List.mem_flatMap] at hc
  obtain ⟨word, hw, hc⟩ := hc
  have hword : ∀ d ∈ word, d.isAlphanum = true := fun d hd =>
    isAlphanum_of_isNameChar (hname d ((mem_wordsOf hw).2 d hd).1) ((mem_wordsOf hw).2 d hd).2
  cases word with
  | nil => simp [capitalized] at hc
  | cons first rest =>
    simp only [capitalized, List.mem_cons, List.mem_map] at hc
    rcases hc with rfl | ⟨d, hd, rfl⟩
    · exact isAlphanum_toUpper (hword first (by simp))
    · exact isAlphanum_toLower (hword d (by simp [hd]))

theorem underscore_not_mem_camel {name : String} (h : isIdentifier name = true) : '_' ∉ (camel name).toList :=
  fun hmem => absurd (camel_isAlphanum h _ hmem) (by decide)

theorem upper_isNameChar {name : String} (h : isIdentifier name = true) :
    ∀ c ∈ (upper name).toList, isNameChar c = true := by
  have hname := isNameChar_of_isIdentifier h
  intro c hc
  rw [upper_toList hname] at hc
  rcases mem_intercalate hc with rfl | ⟨part, hp, hc⟩
  · decide
  · obtain ⟨word, hw, rfl⟩ := List.mem_map.mp hp
    obtain ⟨d, hd, rfl⟩ := List.mem_map.mp hc
    have hd := (mem_wordsOf hw).2 d hd
    exact isNameChar_of_isAlphanum (isAlphanum_toUpper (isAlphanum_of_isNameChar (hname d hd.1) hd.2))

/-- A symbol is an identifier when its leading word is one and its parts are made of the right characters. -/
theorem symbol_isIdentifier {n : Naming} {parts : List String} (hn : isIdentifier n.lead = true)
    (h : ∀ p ∈ parts, ∀ c ∈ p.toList, isNameChar c = true) : isIdentifier (n.symbol parts) = true := by
  have hrest : ∀ c ∈ ("_".intercalate parts).toList, isNameChar c = true := by
    intro c hc
    rw [String.toList_intercalate] at hc
    rcases mem_intercalate hc with rfl | ⟨part, hp, hc⟩
    · decide
    · obtain ⟨p, hmem, rfl⟩ := List.mem_map.mp hp
      exact h p hmem c hc
  unfold isIdentifier at hn ⊢
  cases hl : n.lead.toList with
  | nil => simp [hl] at hn
  | cons first rest =>
    simp only [hl, Bool.and_eq_true, List.all_eq_true] at hn
    have hsymbol : (n.symbol parts).toList = first :: (rest ++ '_' :: ("_".intercalate parts).toList) := by
      simp [symbol, hl]
    simp only [hsymbol, Bool.and_eq_true, List.all_eq_true, List.mem_append, List.mem_cons]
    refine ⟨hn.1, ?_⟩
    rintro c (hc | rfl | hc)
    · exact hn.2 c hc
    · decide
    · exact hrest c hc

end StatusFrames.Naming
