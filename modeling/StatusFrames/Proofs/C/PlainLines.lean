/-
Headers line by line. Readers of a header look at how its lines start: one looks for structs, another for include lines.
A plain line means nothing to either of them. All declarations stand on plain lines only, but for the first line of a
struct and the include lines of paths.
-/
import StatusFrames.Proofs.Declaration.Paragraphs
import StatusFrames.Proofs.Text.Lines
import Mathlib.Data.List.Infix

namespace StatusFrames.C

open Text (OneLine)

/-- The start of a line that opens a struct. -/
def opening : List Char := "typedef struct".toList

/-- The start of a line that includes a header by a path of its own. -/
def including : List Char := "#include \"".toList

/-- A line that neither opens a struct nor includes a header. -/
structure PlainLine (line : String) : Prop where
  oneLine : OneLine line
  opensNothing : ¬opening <+: line.toList
  includesNothing : ¬including <+: line.toList

/-- A text of plain lines, each with its line break. -/
inductive PlainText : String → Prop
  | nil : PlainText ""
  | line {line rest : String} (h : PlainLine line) (hrest : PlainText rest) : PlainText (line ++ "\n" ++ rest)

/-! ## Starts of lines -/

theorem not_prefix_of_start {word start : List Char} (h : ¬word <+: start ∧ ¬start <+: word) (rest : List Char) :
    ¬word <+: start ++ rest := fun hword =>
  (List.prefix_or_prefix_of_prefix hword (List.prefix_append start rest)).elim h.1 h.2

/-- Whether a text, as the start of a line, tells that the line is plain. -/
def isPlainStart (start : String) : Bool :=
  [opening, including].all fun word => decide (¬word <+: start.toList ∧ ¬start.toList <+: word)

theorem PlainLine.of_start {start rest : String} (hstart : isPlainStart start = true) (h : OneLine (start ++ rest)) :
    PlainLine (start ++ rest) := by
  have apart : ∀ word ∈ [opening, including], ¬word <+: (start ++ rest).toList := by
    intro word hword
    rw [String.toList_append]
    exact not_prefix_of_start (of_decide_eq_true (List.all_eq_true.mp hstart word hword)) _
  exact ⟨h, apart _ List.mem_cons_self, apart _ (List.mem_cons_of_mem _ List.mem_cons_self)⟩

/-- The line that closes a type. -/
theorem PlainLine.closing {name : String} (h : OneLine name) : PlainLine ("\x7d " ++ (name ++ ";")) :=
  of_start (by decide) (by simp +decide [h])

/-- A line whose first word is a name. -/
theorem PlainLine.of_word {word rest : String} (hword : Text.isIdentifier word = true) (hne : word ≠ "typedef")
    (h : OneLine (word ++ (" " ++ rest))) : PlainLine (word ++ (" " ++ rest)) := by
  have text : (word ++ (" " ++ rest)).toList = word.toList ++ ' ' :: rest.toList := by simp
  refine ⟨h, ?_, ?_⟩
  · rintro ⟨more, hmore⟩
    have blank : ' ' ∉ word.toList := fun hmem => absurd (Text.isNameChar_of_isIdentifier hword _ hmem) (by decide)
    have first : ' ' ∉ "typedef".toList := by decide
    have words : opening = "typedef".toList ++ ' ' :: "struct".toList := rfl
    rw [words, text, List.append_assoc, List.cons_append] at hmore
    have length := congrArg (List.idxOf ' ') hmore
    rw [List.idxOf_append_of_notMem first, List.idxOf_append_of_notMem blank, List.idxOf_cons_self,
      List.idxOf_cons_self] at length
    exact hne (String.toList_inj.mp (List.append_inj hmore length).1.symm)
  · -- a name does not start with `#`
    obtain ⟨first, others, hs, hfirst⟩ := Text.cons_of_isIdentifier hword
    rintro ⟨more, hmore⟩
    have head : (including ++ more).head? = some '#' := rfl
    rw [hmore, text, hs, List.cons_append, List.head?_cons, Option.some.injEq] at head
    rw [head] at hfirst
    exact absurd hfirst (by decide)

/-! ## Texts of plain lines -/

theorem PlainLine.text {line : String} (h : PlainLine line) : PlainText (line ++ "\n") := by
  rw [← String.append_empty (s := line ++ "\n")]
  exact .line h .nil

namespace PlainText

theorem blank : PlainText "\n" := by
  have empty : PlainLine "" := ⟨by decide, by decide, by decide⟩
  exact empty.text

theorem start {start rest : String} (hstart : isPlainStart start = true) (h : OneLine (start ++ rest)) :
    PlainText (start ++ rest ++ "\n") :=
  (PlainLine.of_start hstart h).text

theorem append {a b : String} (ha : PlainText a) (hb : PlainText b) : PlainText (a ++ b) := by
  induction ha with
  | nil => rwa [String.empty_append]
  | line h _ ih =>
    rw [String.append_assoc]
    exact .line h ih

theorem join {α : Type} {f : α → String} {xs : List α} (h : ∀ a ∈ xs, PlainText (f a)) :
    PlainText (String.join (xs.map f)) := by
  induction xs with
  | nil => exact nil
  | cons a rest ih =>
    obtain ⟨ha, hrest⟩ := List.forall_mem_cons.mp h
    rw [List.map_cons, String.join_cons]
    exact ha.append (ih hrest)

/-- Texts on consecutive lines. -/
theorem intercalate {ts : List String} (h : ∀ t ∈ ts, PlainText (t ++ "\n")) :
    PlainText ("\n".intercalate ts ++ "\n") := by
  by_cases hts : ts = []
  · rw [hts]
    exact blank
  · rw [Declaration.intercalate_break hts]
    exact join h

/-- Lines that are set in, with commas between them. -/
theorem listed {ts : List String} (h : ∀ t ∈ ts, OneLine ("  " ++ t)) :
    PlainText (",\n".intercalate (ts.map ("  " ++ ·)) ++ "\n") := by
  induction ts with
  | nil => exact blank
  | cons t rest ih =>
    obtain ⟨ht, hrest⟩ := List.forall_mem_cons.mp h
    cases rest with
    | nil =>
      rw [List.map_singleton, String.intercalate_singleton]
      exact start (by decide) ht
    | cons u more =>
      have split : ",\n".intercalate ((t :: u :: more).map ("  " ++ ·)) ++ "\n" =
          "  " ++ (t ++ ",") ++ "\n" ++ (",\n".intercalate ((u :: more).map ("  " ++ ·)) ++ "\n") := by
        simp only [List.map_cons, String.intercalate_cons_cons, String.append_assoc, show ",\n" = "," ++ "\n" from rfl]
      have line : OneLine ("  " ++ (t ++ ",")) := by
        rw [← String.append_assoc, Text.oneLine_append]
        exact ⟨ht, by decide⟩
      rw [split]
      exact (start (by decide) line).append (ih hrest)

end PlainText

/-! ## Members -/

/-- The line of a member, without what it is set in by. -/
def memberLine (m : Member) : String :=
  m.cType ++ " " ++ m.name ++ ";" ++
    match m.comment with
    | some comment => " /* " ++ comment ++ " */"
    | none => ""

theorem text_member (m : Member) : m.text = "  " ++ memberLine m ++ "\n" := by
  unfold Member.text memberLine
  cases m.comment <;> simp only [String.append_assoc]

/-- A member that stands on one line. -/
structure OnLine (m : Member) : Prop where
  cType : Text.isIdentifier m.cType = true
  name : OneLine m.name
  comment : ∀ comment ∈ m.comment, OneLine comment

theorem OnLine.memberLine {m : Member} (h : OnLine m) : OneLine (memberLine m) := by
  have behind : OneLine (match m.comment with
      | some comment => " /* " ++ comment ++ " */"
      | none => "") := by
    cases hc : m.comment with
    | none => decide
    | some comment => simp +decide [h.comment comment hc]
  simpa +decide [C.memberLine, Text.oneLine_of_isIdentifier h.cType, h.name] using behind

theorem plain_members {members : List Member} (h : ∀ m ∈ members, OnLine m) :
    PlainText (String.join (members.map Member.text)) := by
  refine PlainText.join fun m hm => ?_
  rw [text_member]
  exact PlainText.start (by decide) (by simp +decide [(h m hm).memberLine])

end StatusFrames.C

/-! ## Declarations -/

namespace StatusFrames.Declaration

open C
open Text (OneLine)

/-- A declaration that stands on plain lines. -/
def Plain (d : Declaration) : Prop := PlainText (d.text ++ "\n")

/-- A declaration on a line that starts with something else. -/
theorem plain_of_start {d : Declaration} {start rest : String} (htext : d.text = start ++ rest)
    (hstart : isPlainStart start = true) (h : OneLine (start ++ rest)) : d.Plain := by
  rw [Plain, htext]
  exact PlainText.start hstart h

theorem plain_comment {s : String} (h : OneLine s) : (comment s).Plain := by
  have htext : (comment s).text = "/* " ++ (s ++ " */") := by rw [text_comment, String.append_assoc]
  exact plain_of_start htext (by decide) (by simp +decide [h])

theorem plain_define {name value : String} (hname : OneLine name) (hvalue : OneLine value) :
    (define name value).Plain := by
  have htext : (define name value).text = "#define " ++ (name ++ (" " ++ value)) := by
    simp only [text_define, String.append_assoc]
  exact plain_of_start htext (by decide) (by simp +decide [hname, hvalue])

theorem plain_staticAssert {condition : String} (h : OneLine condition) (message : String) :
    (staticAssert condition message).Plain := by
  have htext : (staticAssert condition message).text =
      "_Static_assert(" ++ (condition ++ (", " ++ (Text.quoted message ++ ");"))) := by
    simp only [text_staticAssert, String.append_assoc]
  exact plain_of_start htext (by decide) (by simp +decide [h])

theorem plain_systemInclusion {path : String} (h : OneLine path) : (inclusion path true).Plain := by
  have htext : (inclusion path true).text = "#include <" ++ (path ++ ">") := by
    rw [text_inclusion, if_pos rfl, String.append_assoc]
  exact plain_of_start htext (by decide) (by simp +decide [h])

theorem plain_prototype {returnType name : String} {params : List String} (htype : Text.isIdentifier returnType = true)
    (hne : returnType ≠ "typedef") (hname : OneLine name) (hparams : ∀ p ∈ params, OneLine p) :
    (prototype returnType name params).Plain := by
  have inner : OneLine (if params.isEmpty then "void" else ", ".intercalate params) := by
    split
    · decide
    · exact Text.oneLine_intercalate (by decide) hparams
  have htext : (prototype returnType name params).text = returnType ++ (" " ++ (name ++ ("(" ++
      ((if params.isEmpty then "void" else ", ".intercalate params) ++ ");")))) := by
    simp only [text_prototype, String.append_assoc]
  have line : OneLine (prototype returnType name params).text := by
    rw [htext]
    simpa +decide [Text.oneLine_of_isIdentifier htype, hname] using inner
  rw [Plain, htext]
  exact (PlainLine.of_word htype hne (htext ▸ line)).text

/-- The rows of an enumeration are set in. -/
theorem enumerator_rows {enumerators : List (String × Option Nat)} (h : ∀ e ∈ enumerators, OneLine e.1) :
    ∃ ts : List String, enumerators.map enumeratorText = ts.map ("  " ++ ·) ∧ ∀ t ∈ ts, OneLine ("  " ++ t) := by
  induction enumerators with
  | nil => exact ⟨[], rfl, List.forall_mem_nil _⟩
  | cons e rest ih =>
    obtain ⟨he, hrest⟩ := List.forall_mem_cons.mp h
    obtain ⟨ts, hts, hlines⟩ := ih hrest
    rcases e with ⟨name, _ | value⟩
    · exact ⟨name :: ts, by rw [List.map_cons, hts]; rfl, List.forall_mem_cons.mpr ⟨by simp +decide [he], hlines⟩⟩
    · refine ⟨(name ++ (" = " ++ toString value)) :: ts, ?_, List.forall_mem_cons.mpr ⟨by simp +decide [he], hlines⟩⟩
      rw [List.map_cons, hts, List.map_cons, enumeratorText, String.append_assoc, String.append_assoc]

theorem plain_enumeration {name : String} {enumerators : List (String × Option Nat)} (hname : OneLine name)
    (h : ∀ e ∈ enumerators, OneLine e.1) : (enumeration name enumerators).Plain := by
  obtain ⟨ts, hts, hlines⟩ := enumerator_rows h
  have split : (enumeration name enumerators).text ++ "\n" =
      "typedef enum" ++ " \x7b" ++ "\n" ++ ((",\n".intercalate (ts.map ("  " ++ ·)) ++ "\n") ++
        ("\x7d " ++ (name ++ ";") ++ "\n")) := by
    rw [text_enumeration, hts, show "typedef enum \x7b\n" = "typedef enum" ++ " \x7b" ++ "\n" from rfl,
      show "\n\x7d " = "\n" ++ "\x7d " from rfl]
    simp only [String.append_assoc]
  rw [Plain, split]
  exact (PlainText.start (by decide) (by decide)).append
    ((PlainText.listed hlines).append (PlainLine.closing hname).text)

/-! ## Groups and guards -/

theorem mem_texts {t : String} {ds : List Declaration} (h : t ∈ texts ds) : ∃ d ∈ ds, d.text = t := by
  induction ds with
  | nil => cases h
  | cons d rest ih =>
    have found : t ∈ d.text :: texts rest := by
      rw [texts_cons] at h
      split at h
      · exact List.mem_cons_of_mem _ h
      · exact h
    rcases List.mem_cons.mp found with rfl | found
    · exact ⟨d, List.mem_cons_self, rfl⟩
    · obtain ⟨e, he, rfl⟩ := ih found
      exact ⟨e, List.mem_cons_of_mem _ he, rfl⟩

section

variable {ds : List Declaration} (h : ∀ d ∈ ds, d.Plain)

include h

theorem plain_texts : ∀ t ∈ texts ds, PlainText (t ++ "\n") := by
  intro t ht
  obtain ⟨d, hd, rfl⟩ := mem_texts ht
  exact h d hd

theorem plain_lines : (lines ds).Plain := PlainText.intercalate (plain_texts h)

theorem plain_titled {title : String} (htitle : OneLine title) : (titled title ds).Plain := by
  have split : (titled title ds).text ++ "\n" =
      (comment title).text ++ "\n" ++ ("\n".intercalate (texts ds) ++ "\n") := by
    rw [text_titled, String.append_assoc]
    rfl
  rw [Plain, split]
  exact (plain_comment htitle).append (PlainText.intercalate (plain_texts h))

theorem plain_paragraphs : PlainText (paragraphs ds) :=
  PlainText.join fun t ht => PlainText.blank.append (plain_texts h t ht)

end

/-- The first line of a struct. -/
def recordStart (packed : Bool) : String :=
  "typedef struct" ++ ((if packed then " __attribute__((packed))" else "") ++ " \x7b")

/-- A struct is its first line, its members and a line that closes it. -/
theorem record_lines (name : String) (packed : Bool) (members : List Member) :
    (record name packed members).text ++ "\n" =
      recordStart packed ++ "\n" ++
        (String.join (members.map Member.text) ++ ("\x7d " ++ (name ++ ";") ++ "\n")) := by
  rw [text_record, recordStart, show " \x7b\n" = " \x7b" ++ "\n" from rfl]
  simp only [String.append_assoc]

/-- An include guard puts plain lines around what it guards. -/
theorem guarded_lines {name : String} (hname : OneLine name) (body : String) :
    ∃ front back, PlainText front ∧ PlainText back ∧ guarded name body = front ++ (body ++ "\n" ++ back) := by
  have first : PlainText ("#ifndef " ++ name ++ "\n") := PlainText.start (by decide) (by simp +decide [hname])
  have second : PlainText ("#define " ++ name ++ "\n") := PlainText.start (by decide) (by simp +decide [hname])
  have last : PlainText ("#endif /* " ++ (name ++ " */") ++ "\n") :=
    PlainText.start (by decide) (by simp +decide [hname])
  refine ⟨_, _, first.append second, last, ?_⟩
  rw [guarded, show "\n#define " = "\n" ++ "#define " from rfl, show "\n#endif /* " = "\n" ++ "#endif /* " from rfl,
    show " */\n" = " */" ++ "\n" from rfl]
  simp only [String.append_assoc]

end StatusFrames.Declaration
