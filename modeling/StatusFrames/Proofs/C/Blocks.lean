/-
Structs as they are found by a reader who takes a header line by line: a line that starts with `typedef struct` opens a
block, the next line that starts with a closing brace closes it, and every line between the two is a member. What such a
reader finds in a text of several parts is what stands in the parts, as long as each of them ends with its line.
-/
import StatusFrames.Proofs.C.PlainLines
import StatusFrames.Text.Blank

namespace StatusFrames.C

open Text (OneLine)

/-- The blocks that have been closed, and what has been read of the one that is open. -/
structure Blocks where
  closed : List String
  current : Option String

namespace Blocks

def next (b : Blocks) (line : List Char) : Blocks :=
  if opening <+: line then ⟨b.closed, some ""⟩
  else if line.head? = some '\x7d' then
    match b.current with
    | some block => ⟨b.closed ++ [block ++ String.ofList line], none⟩
    | none => b
  else ⟨b.closed, b.current.map fun block => block ++ String.ofList (Text.trim line) ++ "\n"⟩

def scan (b : Blocks) (text : List Char) : Blocks := (Text.lines text).foldl next b

theorem scan_break (b : Blocks) {line : List Char} (h : '\n' ∉ line) (rest : List Char) :
    b.scan (line ++ '\n' :: rest) = (b.next (Text.dropReturn line)).scan rest := by
  rw [scan, Text.lines_break h]
  rfl

theorem next_outside (closed : List String) {line : List Char} (h : ¬opening <+: line) :
    next ⟨closed, none⟩ line = ⟨closed, none⟩ := by
  rw [next, if_neg h]
  split <;> rfl

end Blocks

/-- The structs of a header, each with its members on lines of their own and the line that closes it. -/
def structBlocks (text : String) : List String := (Blocks.scan ⟨[], none⟩ text.toList).closed

/-- The reader finds some blocks in a text, and what comes behind it is read as if the text were not there. -/
def Adds (text : String) (blocks : List String) : Prop :=
  ∀ closed rest, Blocks.scan ⟨closed, none⟩ (text.toList ++ rest) = Blocks.scan ⟨closed ++ blocks, none⟩ rest

theorem structBlocks_eq {text : String} {blocks : List String} (h : Adds text blocks) : structBlocks text = blocks := by
  have := h [] []
  rw [List.append_nil, List.nil_append] at this
  rw [structBlocks, this]
  rfl

namespace Adds

theorem nil : Adds "" [] := fun closed rest => by simp

theorem append {a b : String} {xs ys : List String} (ha : Adds a xs) (hb : Adds b ys) : Adds (a ++ b) (xs ++ ys) := by
  intro closed rest
  rw [String.toList_append, List.append_assoc, ha, hb, List.append_assoc]

/-- A part without a block in front of others. -/
theorem prepend {a b : String} {ys : List String} (ha : Adds a []) (hb : Adds b ys) : Adds (a ++ b) ys :=
  ha.append hb

theorem join {α : Type} {f : α → String} {g : α → List String} {xs : List α} (h : ∀ a ∈ xs, Adds (f a) (g a)) :
    Adds (String.join (xs.map f)) (xs.flatMap g) := by
  induction xs with
  | nil => exact nil
  | cons a rest ih =>
    obtain ⟨ha, hrest⟩ := List.forall_mem_cons.mp h
    rw [List.map_cons, String.join_cons, List.flatMap_cons]
    exact ha.append (ih hrest)

/-- A line that opens no block. -/
theorem line {t : String} (h : OneLine t) (hopen : ¬opening <+: t.toList) : Adds (t ++ "\n") [] := by
  intro closed rest
  have same : (t ++ "\n").toList ++ rest = t.toList ++ '\n' :: rest := by simp
  rw [same, Blocks.scan_break _ h, Blocks.next_outside, List.append_nil]
  exact fun hstart => hopen (hstart.trans (Text.dropReturn_prefix _))

/-- Plain lines open no block. -/
theorem of_plain {t : String} (h : PlainText t) : Adds t [] := by
  induction h with
  | nil => exact nil
  | line h _ ih => exact (line h.oneLine h.opensNothing).prepend ih

end Adds

/-! ## Paths -/

theorem infix_of_notMem {c : Char} {xs front back : List Char} (hc : c ∉ front) (h : c :: xs <:+: front ++ back) :
    c :: xs <:+: back := by
  induction front with
  | nil => exact h
  | cons d rest ih =>
    obtain ⟨hd, hrest⟩ := not_or.mp (mt List.mem_cons.mpr hc)
    rcases List.infix_cons_iff.mp h with hstart | hinside
    · exact absurd (List.cons_prefix_cons.mp hstart).1 hd
    · exact ih hrest hinside

/-- A path may even break the line, if no line of it opens a block. -/
theorem Adds.path {root : List Char} (hfirst : ¬opening <+: root) (hbreak : ¬ ('\n' :: opening) <:+: root) {file : String}
    (hfile : OneLine file) : Adds (String.ofList root ++ "/" ++ file ++ "\n") [] := by
  induction hn : root.length using Nat.strongRecOn generalizing root with
  | ind n ih =>
    by_cases hroot : '\n' ∈ root
    · obtain ⟨first, rest, rfl, hline⟩ := List.eq_append_cons_of_mem hroot
      have split : String.ofList (first ++ '\n' :: rest) ++ "/" ++ file ++ "\n" =
          String.ofList first ++ "\n" ++ (String.ofList rest ++ "/" ++ file ++ "\n") := by
        rw [← String.toList_inj]
        simp
      rw [split]
      refine Adds.prepend (Adds.line (by simpa [OneLine] using hline) ?_) (ih rest.length ?_ ?_ ?_ rfl)
      · rw [String.toList_ofList]
        exact fun hstart => hfirst (hstart.trans (List.prefix_append _ _))
      · rw [← hn, List.length_append, List.length_cons]
        omega
      · exact fun hstart => hbreak ((List.cons_prefix_cons.mpr ⟨rfl, hstart⟩).isInfix.trans
          (List.suffix_append _ _).isInfix)
      · exact fun hinside => hbreak (hinside.trans ((List.suffix_cons _ _).trans (List.suffix_append _ _)).isInfix)
    · refine Adds.line (by simpa [OneLine, hroot] using hfile) ?_
      rintro ⟨more, hmore⟩
      have split : opening ++ more = root ++ '/' :: file.toList := by simpa using hmore
      -- `typedef struct` has no slash, so it ends before the one behind the root
      rcases List.append_eq_append_iff.mp split with ⟨a, rfl, -⟩ | ⟨a, ha, hb⟩
      · exact hfirst (List.prefix_append _ _)
      · cases a with
        | nil => exact hfirst (by simp [ha])
        | cons c a =>
          obtain ⟨rfl, -⟩ := List.cons.inj hb
          have : '/' ∈ opening := ha ▸ List.mem_append_right _ List.mem_cons_self
          exact absurd this (by decide)

/-- The root of an inclusion may be any text in which no line opens a block. -/
theorem adds_inclusion {root file : String} (h : ¬ ('\n' :: opening) <:+: root.toList) (hfile : OneLine file) :
    Adds ((Declaration.inclusion (root ++ "/" ++ file) false).text ++ "\n") [] := by
  have split : (Declaration.inclusion (root ++ "/" ++ file) false).text ++ "\n" =
      String.ofList ("#include \"" ++ root).toList ++ "/" ++ (file ++ "\"") ++ "\n" := by
    rw [Declaration.text_inclusion, if_neg (by decide), String.ofList_toList]
    simp only [String.append_assoc]
  rw [split, String.toList_append]
  refine Adds.path (not_prefix_of_start (by decide) _) (fun hinside => h ?_) (by simp +decide [hfile])
  exact infix_of_notMem (by decide) hinside

/-! ## Structs -/

/-- A struct as the reader shows it. -/
def structBlock (name : String) (members : List Member) : String :=
  String.join (members.map fun m => memberLine m ++ "\n") ++ "\x7d " ++ name ++ ";"

theorem trim_eq {blanks cs : List Char} (hblanks : blanks.all Text.isBlank = true)
    (hfirst : cs.head?.all (!Text.isBlank ·) = true) (hlast : cs.getLast?.all (!Text.isBlank ·) = true) :
    Text.trim (blanks ++ cs) = cs := by
  have front : (blanks ++ cs).dropWhile Text.isBlank = cs := by
    rw [List.dropWhile_append_of_pos (List.all_eq_true.mp hblanks)]
    cases cs with
    | nil => rfl
    | cons c rest => exact List.dropWhile_cons_of_neg (by simpa using hfirst)
  have back : cs.reverse.dropWhile Text.isBlank = cs.reverse := by
    rw [← List.head?_reverse] at hlast
    cases hr : cs.reverse with
    | nil => rfl
    | cons c rest =>
      rw [hr] at hlast
      exact List.dropWhile_cons_of_neg (by simpa using hlast)
  rw [Text.trim, front, back, List.reverse_reverse]

theorem last_memberLine (m : Member) :
    (memberLine m).toList.getLast? = some '/' ∨ (memberLine m).toList.getLast? = some ';' := by
  unfold memberLine
  cases m.comment with
  | none => exact .inr (by rw [String.append_empty]; exact Text.getLast?_append (b := ";") (by decide))
  | some comment => exact .inl (Text.getLast?_append (Text.getLast?_append (b := " */") (by decide)))

theorem OnLine.trim {m : Member} (h : OnLine m) :
    Text.trim ("  " ++ C.memberLine m).toList = (C.memberLine m).toList := by
  obtain ⟨first, rest, hs, hfirst⟩ := Text.cons_of_isIdentifier h.cType
  have hletter : Text.isBlank first = false :=
    Text.forall_ascii (p := fun c => Text.isNameStart c = true → Text.isBlank c = false) (by decide)
      (Text.ascii_of_isNameChar (Text.isNameChar_of_isNameStart hfirst)) hfirst
  rw [String.toList_append]
  refine trim_eq (by decide) ?_ ?_
  · simp [C.memberLine, hs, hletter]
  · rcases last_memberLine m with hlast | hlast <;> rw [hlast] <;> decide

theorem scan_member {m : Member} (h : OnLine m) (closed : List String) (block : String) (rest : List Char) :
    Blocks.scan ⟨closed, some block⟩ (m.text.toList ++ rest) =
      Blocks.scan ⟨closed, some (block ++ (memberLine m ++ "\n"))⟩ rest := by
  have line : PlainLine ("  " ++ memberLine m) := PlainLine.of_start (by decide) (by simp +decide [h.memberLine])
  have same : m.text.toList ++ rest = ("  " ++ memberLine m).toList ++ '\n' :: rest := by simp [text_member]
  have whole : Text.dropReturn ("  " ++ memberLine m).toList = ("  " ++ memberLine m).toList := by
    rcases last_memberLine m with hlast | hlast <;> exact Text.dropReturn_append hlast (by decide)
  rw [same, Blocks.scan_break _ line.oneLine, whole, Blocks.next, if_neg line.opensNothing, if_neg]
  · rw [h.trim, String.ofList_toList, Option.map_some, String.append_assoc]
  · simp

theorem scan_members {members : List Member} (h : ∀ m ∈ members, OnLine m) (closed : List String) (block : String)
    (rest : List Char) :
    Blocks.scan ⟨closed, some block⟩ ((String.join (members.map Member.text)).toList ++ rest) =
      Blocks.scan ⟨closed, some (block ++ String.join (members.map fun m => memberLine m ++ "\n"))⟩ rest := by
  induction members generalizing block with
  | nil => simp
  | cons m others ih =>
    obtain ⟨hm, hothers⟩ := List.forall_mem_cons.mp h
    rw [List.map_cons, String.join_cons, String.toList_append, List.append_assoc, scan_member hm, ih hothers,
      List.map_cons, String.join_cons, String.append_assoc]

/-- A struct is read as a block of its members. -/
theorem adds_record {name : String} (hname : OneLine name) (packed : Bool) {members : List Member}
    (h : ∀ m ∈ members, OnLine m) :
    Adds ((Declaration.record name packed members).text ++ "\n") [structBlock name members] := by
  intro closed rest
  let first := Declaration.recordStart packed
  let last := "\x7d " ++ (name ++ ";")
  have hfirst : OneLine first ∧ Text.dropReturn first.toList = first.toList ∧ opening <+: first.toList := by
    cases packed <;> decide
  obtain ⟨hline, hwhole, hopening⟩ := hfirst
  have hlast : PlainLine last := PlainLine.closing hname
  have hclosed : Text.dropReturn last.toList = last.toList :=
    Text.dropReturn_append (Text.getLast?_append (b := ";") (c := ';') (by decide)) (by decide)
  have split : ((Declaration.record name packed members).text ++ "\n").toList ++ rest =
      first.toList ++ '\n' :: ((String.join (members.map Member.text)).toList ++ (last.toList ++ '\n' :: rest)) := by
    rw [Declaration.record_lines]
    simp [first, last]
  rw [split, Blocks.scan_break _ hline, hwhole, Blocks.next, if_pos hopening, scan_members h,
    Blocks.scan_break _ hlast.oneLine, hclosed, Blocks.next, if_neg hlast.opensNothing, if_pos (by simp [last])]
  simp only [structBlock, last, String.ofList_toList, String.empty_append, String.append_assoc]

/-! ## Headers -/

section

open Declaration

theorem adds_paragraph {d : Declaration} {blocks : List String} (hd : d.isEmpty = false)
    (h : Adds (d.text ++ "\n") blocks) : Adds (paragraphs [d]) blocks := by
  rw [paragraphs_singleton hd]
  exact (Adds.of_plain .blank).prepend h

theorem adds_append {as bs : List Declaration} {xs ys : List String} (ha : Adds (paragraphs as) xs)
    (hb : Adds (paragraphs bs) ys) : Adds (paragraphs (as ++ bs)) (xs ++ ys) := by
  rw [paragraphs_append]
  exact ha.append hb

theorem adds_plain {ds : List Declaration} (h : ∀ d ∈ ds, d.Plain) : Adds (paragraphs ds) [] :=
  Adds.of_plain (plain_paragraphs h)

/-- Declarations on consecutive lines. -/
theorem adds_lines {α : Type} {f : α → Declaration} {g : α → List String} {xs : List α}
    (hf : ∀ a, (f a).isEmpty = false) (h : ∀ a ∈ xs, Adds ((f a).text ++ "\n") (g a)) :
    Adds (paragraphs [lines (xs.map f)]) (xs.flatMap g) := by
  cases xs with
  | nil => exact Adds.nil
  | cons a rest =>
    rw [paragraphs_lines hf, List.isEmpty_cons, if_neg Bool.false_ne_true]
    exact (Adds.of_plain .blank).prepend (Adds.join h)

/-- A header holds the blocks of its body. -/
theorem adds_guard {name s : String} {rest : List Declaration} {blocks : List String} (hname : OneLine name)
    (h : Adds (paragraphs (comment s :: rest)) blocks) : Adds (guard name (comment s :: rest)).text blocks := by
  obtain ⟨front, back, hfront, hback, hsplit⟩ := guarded_lines hname (paragraphs (comment s :: rest))
  rw [text_guard, hsplit, String.append_assoc, ← List.append_nil blocks]
  exact (Adds.of_plain hfront).prepend (h.append (Adds.of_plain (PlainText.blank.append hback)))

end

end StatusFrames.C
