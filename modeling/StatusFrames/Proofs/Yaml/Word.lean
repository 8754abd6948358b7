/-
A text that is one plain word. It is readable as a whole, it is split into one scalar, and the document that it denotes is
that scalar.
-/
import StatusFrames.Yaml.Binding
import Mathlib.Data.List.TakeWhile

namespace StatusFrames.Yaml

/-- A word of letters, digits, hyphens and underscores, short enough to be a key. The first two characters are not both
hyphens, and a hyphen does not stand alone. -/
structure IsWord (cs : List Char) : Prop where
  chars : ∀ c ∈ cs, isWordChar c = true
  start : ∃ c ∈ cs.take 2, c ≠ '-'
  short : cs.length ≤ 1024

/-! ## Characters of words -/

section

variable {c : Char} (h : isWordChar c = true)

include h

theorem ne_of_isWordChar {d : Char} (hd : isWordChar d = false) : c ≠ d := by
  rintro rfl
  rw [h] at hd
  cases hd

theorem beq_of_isWordChar {d : Char} (hd : isWordChar d = false) : (c == d) = false :=
  beq_false_of_ne (ne_of_isWordChar h hd)

theorem toNat_of_isWordChar : 0x2D ≤ c.toNat ∧ c.toNat ≤ 0x7A := by
  have hranges : (decide (c.val ≥ 'A'.val ∧ c.val ≤ 'Z'.val) ||
      (decide (c.val ≥ 'a'.val) && decide (c.val ≤ 'z'.val)) ||
      (decide (c.val ≥ '0'.val) && decide (c.val ≤ '9'.val)) || c == '-' || c == '_') = true := h
  simp only [Bool.or_eq_true, Bool.and_eq_true, decide_eq_true_iff, beq_iff_eq, UInt32.le_iff_toNat_le,
    ge_iff_le] at hranges
  have hcode : c.toNat = c.val.toNat := rfl
  rcases hranges with (((hrange | hrange) | hrange) | rfl) | rfl
  · have hends : 'A'.val.toNat = 0x41 ∧ 'Z'.val.toNat = 0x5A := ⟨rfl, rfl⟩
    omega
  · have hends : 'a'.val.toNat = 0x61 ∧ 'z'.val.toNat = 0x7A := ⟨rfl, rfl⟩
    omega
  · have hends : '0'.val.toNat = 0x30 ∧ '9'.val.toNat = 0x39 := ⟨rfl, rfl⟩
    omega
  · decide
  · decide

theorem isReadable_of_isWordChar : isReadable c = true := by
  have hrange := toNat_of_isWordChar h
  simp only [isReadable, Bool.or_eq_true, Bool.and_eq_true, decide_eq_true_iff]
  omega

theorem utf8Size_of_isWordChar : c.utf8Size = 1 := by
  have hrange := toNat_of_isWordChar h
  have hcode : c.toNat = c.val.toNat := rfl
  have hlast : (127 : UInt32).toNat = 127 := rfl
  exact Char.utf8Size_eq_one_iff.mpr (UInt32.le_iff_toNat_le.mpr (by omega))

theorem isBlank_of_isWordChar : isBlank c = false := by
  simp (disch := decide) [isBlank, ne_of_isWordChar h]

theorem isBreak_of_isWordChar : isBreak c = false := by
  simp (disch := decide) [isBreak, ne_of_isWordChar h]

theorem isGap_of_isWordChar : isGap c = false := by
  rw [isGap, isBlank_of_isWordChar h, isBreak_of_isWordChar h, Bool.or_self]

end

/-! ## The text in front of the lexer -/

theorem spanOctets_of_isWordChar {cs : List Char} (h : ∀ c ∈ cs, isWordChar c = true) {room : Nat}
    (hroom : cs.length ≤ room) : spanOctets room cs = (cs, []) := by
  induction cs generalizing room with
  | nil => rfl
  | cons c rest ih =>
    obtain ⟨hc, hrest⟩ := List.forall_mem_cons.mp h
    rw [List.length_cons] at hroom
    rw [spanOctets, utf8Size_of_isWordChar hc, if_pos (by omega), ih hrest (by omega)]

theorem unifyBreaks_of_isWordChar {cs : List Char} (h : ∀ c ∈ cs, isWordChar c = true) : unifyBreaks cs = cs := by
  induction cs with
  | nil => rfl
  | cons c rest ih =>
    obtain ⟨hc, hrest⟩ := List.forall_mem_cons.mp h
    rw [unifyBreaks, ih hrest]
    · simp (disch := decide) [ne_of_isWordChar hc]
    · rintro rest rfl
      cases hc

namespace IsWord

variable {cs : List Char} (h : IsWord cs)

include h

/-- How a word starts: a hyphen is followed by another character of the word. -/
theorem exists_cons : ∃ c rest, cs = c :: rest ∧ isWordChar c = true ∧
    (c = '-' → ∃ d more, rest = d :: more ∧ isWordChar d = true ∧ d ≠ '-') := by
  obtain ⟨d, hd, hne⟩ := h.start
  cases cs with
  | nil => cases hd
  | cons c rest =>
    refine ⟨c, rest, rfl, h.chars c List.mem_cons_self, ?_⟩
    rintro rfl
    cases rest with
    | nil => simp [hne] at hd
    | cons e more =>
      have he : d = e := by simpa [hne] using hd
      exact ⟨e, more, rfl, h.chars e (by simp), he ▸ hne⟩

theorem ne_nil : cs ≠ [] := by
  obtain ⟨c, rest, rfl, -⟩ := h.exists_cons
  exact List.cons_ne_nil c rest

theorem readableWindows_eq : readableWindows cs.length cs = (cs, true) := by
  have hspan : spanOctets windowSize cs = (cs, []) :=
    spanOctets_of_isWordChar h.chars (h.short.trans (by decide))
  have hall : cs.all isReadable = true :=
    List.all_eq_true.mpr fun c hc => isReadable_of_isWordChar (h.chars c hc)
  obtain ⟨n, hn⟩ := Nat.exists_eq_succ_of_ne_zero (List.length_pos_iff.mpr h.ne_nil).ne'
  have hrest : readableWindows n [] = ([], true) := by cases n <;> rfl
  rw [hn, readableWindows, hspan]
  · simp only [hall, if_true, hrest, List.append_nil]
  · exact h.ne_nil

theorem readablePart_eq : readablePart (String.ofList cs) = (cs, true) := by
  simp only [readablePart, String.toList_ofList, h.readableWindows_eq, unifyBreaks_of_isWordChar h.chars]

end IsWord

/-! ## The scalar -/

theorem Cursor.skip_word {cs : List Char} (h : ∀ c ∈ cs, isWordChar c = true) (index line column : Nat) :
    (Cursor.mk cs index line column).skip cs.length = ⟨[], index + cs.length, line, column + cs.length⟩ := by
  induction cs generalizing index column with
  | nil => rfl
  | cons c rest ih =>
    obtain ⟨hc, hrest⟩ := List.forall_mem_cons.mp h
    have hnext : (Cursor.mk (c :: rest) index line column).next = ⟨rest, index + 1, line, column + 1⟩ := by
      simp [Cursor.next, utf8Size_of_isWordChar hc, isBreak_of_isWordChar hc]
    rw [List.length_cons, Cursor.skip, hnext, ih hrest]
    simp only [Cursor.mk.injEq, true_and]
    omega

theorem Cursor.skipWhile_of_peek? {p : Char → Bool} {cursor : Cursor} (h : ∀ c ∈ cursor.peek?, p c = false) :
    cursor.skipWhile p = cursor := by
  have hnone : cursor.upTo p = [] := by
    rw [Cursor.upTo]
    cases hrest : cursor.rest with
    | nil => rfl
    | cons c rest =>
      rw [Cursor.peek?, hrest] at h
      exact List.takeWhile_cons_of_neg (by simp [h c rfl])
  rw [Cursor.skipWhile, hnone]
  rfl

theorem Plain.word?_of_isWordChar {cs : List Char} (h : ∀ c ∈ cs, isWordChar c = true) : word? false cs = some cs := by
  induction cs with
  | nil => rfl
  | cons c rest ih =>
    obtain ⟨hc, hrest⟩ := List.forall_mem_cons.mp h
    simp (disch := decide) [word?, isGap_of_isWordChar hc, ne_of_isWordChar hc, ih hrest]

namespace IsWord

variable {cs : List Char} (h : IsWord cs)

include h

theorem peek?_ne {d : Char} (hd : isWordChar d = false) (index line column : Nat) :
    (Cursor.mk cs index line column).peek? ≠ some d := by
  obtain ⟨c, rest, rfl, hc, -⟩ := h.exists_cons
  simpa [Cursor.peek?] using ne_of_isWordChar hc hd

theorem atMarker_eq (index line column : Nat) : (Cursor.mk cs index line column).atMarker = false := by
  obtain ⟨c, rest, rfl, hc, hnext⟩ := h.exists_cons
  have hdot : c ≠ '.' := ne_of_isWordChar hc (by decide)
  by_cases hminus : c = '-'
  · obtain ⟨d, more, rfl, -, hd⟩ := hnext hminus
    simp [Cursor.atMarker, hminus, hd]
  · simp [Cursor.atMarker, hminus, hdot]

theorem read?_eq (indent : Int) (index line column : Nat) :
    Plain.read? false indent ⟨cs, index, line, column⟩ =
      some (cs, false, ⟨[], index + cs.length, line, column + cs.length⟩) := by
  have hword : cs.isEmpty = false := by simpa using h.ne_nil
  rw [Plain.read?, Plain.readFrom?, h.atMarker_eq]
  simp [h.peek?_ne (by decide : isWordChar '#' = false), Plain.word?_of_isWordChar h.chars, Cursor.skip_word h.chars,
    hword, Cursor.upTo, gapText]

end IsWord

/-! ## Tokens -/

namespace Lexer

/-- A lexer at the start of a text. -/
def atStart (cs : List Char) : Lexer := { cursor := { rest := cs }, whole := true }

/-- The lexer behind a word, which may still turn out to be a key. -/
def behindWord (cs : List Char) : Lexer where
  cursor := ⟨[], cs.length, 0, cs.length⟩
  keys := [some ⟨0, 0, 0, 0, false⟩]
  keyAllowed := false
  waiting := [.scalar (String.ofList cs) .plain]

/-- The lexer behind a word with which the text ends. -/
def atEnd (cs : List Char) : Lexer where
  cursor := ⟨[], cs.length, 1, 0⟩
  keyAllowed := false
  waiting := [.scalar (String.ofList cs) .plain, .streamEnd]

/-- Neither the start of a word nor the end of the text is white space. -/
theorem skipSpace_eq_self {s : Lexer} (h : ∀ c ∈ s.peek?, isWordChar c = true) (fuel : Nat) : skipSpace fuel s = s := by
  have hne : ∀ d, isWordChar d = false → s.cursor.peek? ≠ some d := by
    intro d hd hpeek
    rw [h d hpeek] at hd
    cases hd
  have hbom : (s.cursor.peek? == some byteOrderMark) = false := by simpa using hne _ (by decide)
  have hhash : (s.cursor.peek? == some '#') = false := by simpa using hne _ (by decide)
  have hblank : ∀ tabs : Bool, s.cursor.skipWhile (fun ch => ch == ' ' || (tabs && ch == '\t')) = s.cursor := by
    intro tabs
    apply Cursor.skipWhile_of_peek?
    intro c hc
    simp (disch := decide) [ne_of_isWordChar (h c hc)]
  have hbreak : s.cursor.peek?.any isBreak = false := by
    rw [Option.any_eq_false]
    intro c hc
    simp [isBreak_of_isWordChar (h c hc)]
  cases fuel with
  | zero => rfl
  | succ fuel => simp [skipSpace, hbom, hhash, hblank, hbreak]

variable {cs : List Char} (h : IsWord cs)

include h

theorem plain?_atStart : (atStart cs).plain? = some (behindWord cs) := by
  have hread := h.read?_eq 0 0 0 0
  simp [plain?, noteKey?, dropKey?, atStart, inFlow, indent, nextNumber, hread, accept, push, behindWord]

theorem startsPlain_atStart {c : Char} {rest : List Char} (hcs : cs = c :: rest) (flow : Bool) :
    startsPlain flow c rest.head? = true := by
  obtain ⟨_, _, heq, hc, hnext⟩ := hcs ▸ h.exists_cons
  cases heq
  by_cases hminus : c = '-'
  · obtain ⟨d, more, rfl, hd, -⟩ := hnext hminus
    simp [startsPlain, hminus, isBlank_of_isWordChar hd]
  · simp (disch := decide) [startsPlain, isGap_of_isWordChar hc, ne_of_isWordChar hc, hminus]

theorem not_dash_atStart {c : Char} {rest : List Char} (hcs : cs = c :: rest) :
    (c == '-' && endsWord rest.head?) = false := by
  obtain ⟨_, _, heq, hc, hnext⟩ := hcs ▸ h.exists_cons
  cases heq
  rw [Bool.and_eq_false_imp, beq_iff_eq]
  intro hminus
  obtain ⟨d, more, rfl, hd, -⟩ := hnext hminus
  simp [endsWord, isBlank_of_isWordChar hd, isBreak_of_isWordChar hd]

theorem readToken?_atStart {c : Char} {rest : List Char} (hcs : cs = c :: rest) :
    (atStart cs).readToken? c = some (behindWord cs) := by
  have hc : isWordChar c = true := h.chars c (hcs ▸ List.mem_cons_self)
  have hmarker : (atStart cs).cursor.atMarker = false := h.atMarker_eq 0 0 0
  have hahead : (atStart cs).cursor.ahead? 1 = rest.head? := by
    simp [atStart, Cursor.ahead?, hcs, List.head?_eq_getElem?]
  rw [readToken?, hahead, hmarker]
  simp (disch := decide) only [beq_of_isWordChar hc, not_dash_atStart h hcs, startsPlain_atStart h hcs, plain?_atStart h,
    Bool.and_false, Bool.false_and, Bool.false_eq_true, if_false, if_true]

theorem fetch?_atStart : (atStart cs).fetch? = some (behindWord cs) := by
  obtain ⟨c, rest, hcs, hc, -⟩ := h.exists_cons
  have hpeek : (atStart cs).peek? = some c := by
    rw [hcs]
    rfl
  have hspace : ∀ fuel, skipSpace fuel (atStart cs) = atStart cs :=
    skipSpace_eq_self fun d hd => Option.some.inj (hpeek.symm.trans hd) ▸ hc
  have hstale : (atStart cs).dropStale? = some (atStart cs) := rfl
  have hblocks : ∀ column, (atStart cs).closeBlocks column = atStart cs := fun _ => rfl
  simp only [fetch?, hspace, hstale, Option.bind_eq_bind, Option.bind_some, hblocks, hpeek, readToken?_atStart h hcs]
  rfl

theorem dropStale?_behindWord : (behindWord cs).dropStale? = some (behindWord cs) := by
  have hstale : (behindWord cs).isStale ⟨0, 0, 0, 0, false⟩ = false := by
    simp [isStale, behindWord, h.short]
  have hkeys : (behindWord cs).keys = [some ⟨0, 0, 0, 0, false⟩] := rfl
  have hkept : (behindWord cs).keys.map (·.filter (!(behindWord cs).isStale ·)) = (behindWord cs).keys := by
    simp [hkeys, hstale, Option.filter]
  rw [dropStale?, if_neg (by simp [hkeys]), hkept]

theorem fetch?_behindWord : (behindWord cs).fetch? = some (atEnd cs) := by
  have hspace : ∀ fuel, skipSpace fuel (behindWord cs) = behindWord cs :=
    skipSpace_eq_self fun d hd => by cases hd
  have hblocks : ∀ column, (behindWord cs).closeBlocks column = behindWord cs := fun _ => rfl
  have hlast : min cs.length 1 = 1 := min_eq_right (List.length_pos_iff.mpr h.ne_nil)
  have hend : (behindWord cs).streamEnd? = some (atEnd cs) := by
    simp [streamEnd?, behindWord, closeBlocks, inFlow, dropKey?, push, atEnd, hlast]
  simp only [fetch?, hspace, dropStale?_behindWord h, Option.bind_eq_bind, Option.bind_some, hblocks]
  exact hend

/-- The word is handed out when the end of the text shows that it is no key. -/
theorem next?_atStart (fuel : Nat) : next? (fuel + 3) (atStart cs) =
    some (.scalar (String.ofList cs) .plain, { atEnd cs with waiting := [.streamEnd], settled := 1 }) := by
  have hword : next? (fuel + 3) (atStart cs) = next? (fuel + 2) (behindWord cs) := by
    rw [next?, fetch?_atStart h]
    rfl
  have hlast : next? (fuel + 2) (behindWord cs) = next? (fuel + 1) (atEnd cs) := by
    have hwaiting : (behindWord cs).waiting = [.scalar (String.ofList cs) .plain] := rfl
    have hkey : (behindWord cs).headMayBeKey = true := rfl
    simp only [next?, hwaiting, dropStale?_behindWord h, hkey, if_true, fetch?_behindWord h, Option.bind_some]
  rw [hword, hlast]
  rfl

theorem collect_atStart (fuel : Nat) :
    collect (fuel + 2) (atStart cs) [] = [.scalar (String.ofList cs) .plain, .streamEnd] := by
  have hfirst : next? ((atStart cs).cursor.rest.length + (atStart cs).waiting.length + 4) (atStart cs) = _ :=
    next?_atStart h (cs.length + 1)
  rw [collect, hfirst]
  rfl

end Lexer

theorem IsWord.tokens_eq {cs : List Char} (h : IsWord cs) :
    tokens cs true = [.scalar (String.ofList cs) .plain, .streamEnd] :=
  Lexer.collect_atStart h (8 * cs.length + 6)

/-- A word denotes the document of one plain scalar. -/
theorem IsWord.ofText_eq {cs : List Char} (h : IsWord cs) :
    Document.ofText (String.ofList cs) = ⟨.scalar none .plain (String.ofList cs), [], true⟩ := by
  simp only [Document.ofText, h.readablePart_eq, h.tokens_eq]
  rfl

end StatusFrames.Yaml
