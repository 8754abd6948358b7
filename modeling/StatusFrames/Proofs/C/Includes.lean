/-
Include lines, as a reader finds them who takes a header line by line. A line that starts with `#include` and a quote names
the text up to the next quote, and the directive ends with the line. Lines end at line feeds, and a return in front of one
belongs to the end of the line; a return that stands alone, which some compilers take for the end of a line as well, is
text like any other here.
-/
import StatusFrames.Proofs.C.PlainLines

namespace StatusFrames.C

open Text (OneLine)

/-- What stands before the first quote, and what behind it. -/
def splitQuote? (cs : List Char) : Option (List Char × List Char) :=
  match cs.dropWhile (· ≠ '"') with
  | [] => none
  | _ :: rest => some (cs.takeWhile (· ≠ '"'), rest)

/-- The text between the first two quotes of a line, and what stands behind them. -/
def headerName? (line : List Char) : Option (String × String) := do
  let (_, rest) ← splitQuote? line
  let (name, behind) ← splitQuote? rest
  return (String.ofList name, String.ofList behind)

/-- What the include lines of a text name, one after the other. Only a line feed ends a line. -/
def includedNames (text : String) : List (Option (String × String)) :=
  ((Text.lines text.toList).filter (including <+: ·)).map headerName?

/-- What the include line of a path names. -/
def includedName (path : String) : Option (String × String) :=
  headerName? (Declaration.inclusion path false).text.toList

/-! ## Lines -/

theorem splitQuote?_eq {front : List Char} (h : '"' ∉ front) (back : List Char) :
    splitQuote? (front ++ '"' :: back) = some (front, back) := by
  have plain : ∀ c ∈ front, decide (c ≠ '"') = true := fun c hc => decide_eq_true fun heq => h (heq ▸ hc)
  rw [splitQuote?, List.dropWhile_append_of_pos plain, List.takeWhile_append_of_pos plain]
  simp

theorem splitQuote?_eq_some {cs front back : List Char} (h : splitQuote? cs = some (front, back)) :
    cs = front ++ '"' :: back ∧ '"' ∉ front := by
  unfold splitQuote? at h
  split at h
  · cases h
  next c rest hdrop =>
    obtain ⟨rfl, rfl⟩ := Prod.mk.inj (Option.some.inj h)
    obtain rfl : c = '"' := by
      have first := List.head?_dropWhile_not (p := (· ≠ '"')) cs
      rw [hdrop] at first
      simpa using first
    constructor
    · rw [← hdrop, List.takeWhile_append_dropWhile]
    · intro hmem
      simpa using List.all_eq_true.mp List.all_takeWhile _ hmem

/-- A path is named up to its first quote. -/
theorem includedName_cut {front : String} (h : '"' ∉ front.toList) (back : String) :
    includedName (front ++ "\"" ++ back) = some (front, back ++ "\"") := by
  have split : (Declaration.inclusion (front ++ "\"" ++ back) false).text.toList =
      "#include ".toList ++ '"' :: (front.toList ++ '"' :: (back ++ "\"").toList) := by
    simp [Declaration.text_inclusion]
  rw [includedName, split, headerName?, splitQuote?_eq (by decide)]
  simp [splitQuote?_eq h]

/-- A path without quotes is named whole. -/
theorem includedName_eq {path : String} (h : '"' ∉ path.toList) : includedName path = some (path, "") := by
  have split : (Declaration.inclusion path false).text.toList =
      "#include ".toList ++ '"' :: (path.toList ++ '"' :: []) := by
    simp [Declaration.text_inclusion]
  rw [includedName, split, headerName?, splitQuote?_eq (by decide)]
  simp [splitQuote?_eq h]

/-- What a line names is part of the line, and has no quotes. -/
theorem headerName?_eq_some {line : List Char} {name behind : String} (h : headerName? line = some (name, behind)) :
    name.toList ⊆ line ∧ '"' ∉ name.toList := by
  simp only [headerName?, Option.bind_eq_bind, Option.bind_eq_some_iff] at h
  obtain ⟨⟨front, rest⟩, hfirst, ⟨inner, back⟩, hsecond, hname⟩ := h
  obtain ⟨rfl, -⟩ := splitQuote?_eq_some hfirst
  obtain ⟨rfl, hquote⟩ := splitQuote?_eq_some hsecond
  obtain ⟨rfl, -⟩ := Prod.mk.inj (Option.some.inj hname)
  rw [String.toList_ofList]
  refine ⟨?_, hquote⟩
  intro c hc
  simp [hc]

theorem includedNames_append (a b : String) :
    includedNames (a ++ "\n" ++ b) = includedNames (a ++ "\n") ++ includedNames b := by
  have split : (a ++ "\n" ++ b).toList = a.toList ++ '\n' :: b.toList := by simp
  have first : (a ++ "\n").toList = a.toList ++ ['\n'] := by simp
  rw [includedNames, includedNames, includedNames, split, first, Text.lines, Text.linesFrom_append, List.filter_append,
    List.map_append]
  rfl

theorem break_not_mem_of_mem_linesFrom {before text line : List Char} (hbefore : '\n' ∉ before)
    (h : line ∈ Text.linesFrom before text) : '\n' ∉ line := by
  induction text generalizing before with
  | nil =>
    rw [Text.linesFrom] at h
    split at h
    · cases h
    · rwa [List.mem_singleton.mp h]
  | cons c rest ih =>
    rw [Text.linesFrom] at h
    split at h
    · rcases List.mem_cons.mp h with rfl | h
      · exact fun hmem => hbefore ((Text.dropReturn_prefix before).subset hmem)
      · exact ih List.not_mem_nil h
    · next hc => exact ih (by simp [hbefore, Ne.symm hc]) h

/-- Whatever root a path has, quotes and line breaks do not come out of an include line. -/
theorem plain_of_mem_includedNames {text name behind : String} (h : some (name, behind) ∈ includedNames text) :
    '"' ∉ name.toList ∧ '\n' ∉ name.toList := by
  obtain ⟨line, hline, hname⟩ := List.mem_map.mp h
  obtain ⟨hsub, hquote⟩ := headerName?_eq_some hname
  refine ⟨hquote, fun hbreak => ?_⟩
  exact break_not_mem_of_mem_linesFrom List.not_mem_nil (List.mem_filter.mp hline).1 (hsub hbreak)

/-! ## Parts of a text -/

/-- The include lines of a text name some headers, and what comes behind it is read as if the text were not there. -/
def Includes (text : String) (names : List (Option (String × String))) : Prop :=
  ∀ rest, includedNames (text ++ rest) = names ++ includedNames rest

theorem includedNames_eq {text : String} {names : List (Option (String × String))} (h : Includes text names) :
    includedNames text = names := by
  have := h ""
  rwa [String.append_empty, show includedNames "" = [] from rfl, List.append_nil] at this

namespace Includes

theorem nil : Includes "" [] := fun rest => by rw [String.empty_append, List.nil_append]

theorem append {a b : String} {xs ys : List (Option (String × String))} (ha : Includes a xs) (hb : Includes b ys) :
    Includes (a ++ b) (xs ++ ys) := by
  intro rest
  rw [String.append_assoc, ha, hb, List.append_assoc]

/-- A part that includes nothing in front of others. -/
theorem prepend {a b : String} {ys : List (Option (String × String))} (ha : Includes a []) (hb : Includes b ys) :
    Includes (a ++ b) ys :=
  ha.append hb

theorem join {α : Type} {f : α → String} {g : α → List (Option (String × String))} {xs : List α}
    (h : ∀ a ∈ xs, Includes (f a) (g a)) : Includes (String.join (xs.map f)) (xs.flatMap g) := by
  induction xs with
  | nil => exact nil
  | cons a rest ih =>
    obtain ⟨ha, hrest⟩ := List.forall_mem_cons.mp h
    rw [List.map_cons, String.join_cons, List.flatMap_cons]
    exact ha.append (ih hrest)

/-- Whatever ends with its line can be read on its own. -/
theorem of_break (text : String) : Includes (text ++ "\n") (includedNames (text ++ "\n")) := fun rest =>
  includedNames_append text rest

theorem line {line : String} (h : OneLine line) (hstart : ¬including <+: line.toList) : Includes (line ++ "\n") [] := by
  have split : (line ++ "\n").toList = line.toList ++ '\n' :: [] := by simp
  have plain : ¬including <+: Text.dropReturn line.toList := fun hleads =>
    hstart (hleads.trans (Text.dropReturn_prefix _))
  have none : includedNames (line ++ "\n") = [] := by
    rw [includedNames, split, Text.lines_break h, List.filter_cons_of_neg (by simpa using plain)]
    rfl
  exact none ▸ of_break line

/-- Plain lines include nothing. -/
theorem of_plain {t : String} (h : PlainText t) : Includes t [] := by
  induction h with
  | nil => exact nil
  | line h _ ih => exact (line h.oneLine h.includesNothing).prepend ih

end Includes

/-! ## Declarations -/

section

open Declaration

theorem includes_inclusion {path : String} (h : OneLine path) :
    Includes ((inclusion path false).text ++ "\n") [includedName path] := by
  have text : (inclusion path false).text = "#include \"" ++ (path ++ "\"") := by
    rw [text_inclusion, if_neg (by decide), String.append_assoc]
  have split : ((inclusion path false).text ++ "\n").toList = (inclusion path false).text.toList ++ '\n' :: [] := by simp
  have line : OneLine (inclusion path false).text := by simp +decide [text, h]
  have start : including <+: (inclusion path false).text.toList := by
    rw [text, String.toList_append]
    exact List.prefix_append _ _
  have whole : Text.dropReturn (inclusion path false).text.toList = (inclusion path false).text.toList := by
    rw [text]
    exact Text.dropReturn_append (Text.getLast?_append (b := "\"") (c := '"') (by decide)) (by decide)
  have named : includedNames ((inclusion path false).text ++ "\n") = [includedName path] := by
    rw [includedNames, split, Text.lines_break line, whole, List.filter_cons_of_pos (by simpa using start)]
    rfl
  exact named ▸ Includes.of_break _

/-- Include lines one after the other. -/
theorem includes_inclusions {paths : List String} (h : ∀ path ∈ paths, OneLine path) :
    Includes (paragraphs [lines (paths.map (inclusion · false))]) (paths.map includedName) := by
  cases paths with
  | nil => exact Includes.nil
  | cons path rest =>
    have all := Includes.join fun path hpath => includes_inclusion (h path hpath)
    rw [← List.map_eq_flatMap] at all
    rw [paragraphs_lines fun _ => rfl, List.isEmpty_cons, if_neg Bool.false_ne_true]
    exact (Includes.of_plain .blank).prepend all

/-- A struct includes nothing. -/
theorem includes_record {name : String} (hname : OneLine name) (packed : Bool) {members : List Member}
    (h : ∀ m ∈ members, OnLine m) : Includes (paragraphs [record name packed members]) [] := by
  have hfirst : OneLine (recordStart packed) ∧ ¬including <+: (recordStart packed).toList := by
    cases packed <;> decide
  have inside := (plain_members h).append (PlainLine.closing hname).text
  rw [paragraphs_singleton rfl, record_lines]
  exact (Includes.of_plain .blank).prepend
    ((Includes.line hfirst.1 hfirst.2).prepend (Includes.of_plain inside))

theorem includes_plain {ds : List Declaration} (h : ∀ d ∈ ds, d.Plain) : Includes (paragraphs ds) [] :=
  Includes.of_plain (plain_paragraphs h)

/-- An include guard adds nothing. -/
theorem includedNames_guarded {name : String} (hname : OneLine name) (body : String) :
    includedNames (guarded name body) = includedNames (body ++ "\n") := by
  obtain ⟨front, back, hfront, hback, hsplit⟩ := guarded_lines hname body
  have whole := (Includes.of_plain hfront).prepend ((Includes.of_break body).append (Includes.of_plain hback))
  rw [hsplit, includedNames_eq whole, List.append_nil]

end

end StatusFrames.C
