/-
The text of a header as a sequence of paragraphs, each with a line break before and behind it. In this form the text of
a list of declarations is the texts of its parts one behind the other.
-/
import StatusFrames.Declaration

namespace StatusFrames.Declaration

/-! ## The text of each kind -/

theorem text_comment (s : String) : (comment s).text = "/* " ++ s ++ " */" := rfl

theorem text_lines (items : List Declaration) : (lines items).text = "\n".intercalate (texts items) := rfl

theorem text_titled (title : String) (items : List Declaration) :
    (titled title items).text = commentText title ++ "\n" ++ "\n".intercalate (texts items) := rfl

theorem text_inclusion (path : String) (system : Bool) :
    (inclusion path system).text =
      if system then "#include <" ++ path ++ ">" else "#include \"" ++ path ++ "\"" := rfl

theorem text_define (name value : String) : (define name value).text = "#define " ++ name ++ " " ++ value := rfl

theorem text_enumeration (name : String) (enumerators : List (String × Option Nat)) :
    (enumeration name enumerators).text =
      "typedef enum \x7b\n" ++ ",\n".intercalate (enumerators.map enumeratorText) ++ "\n\x7d " ++ name ++ ";" := rfl

theorem text_record (name : String) (packed : Bool) (members : List Member) :
    (record name packed members).text =
      "typedef struct" ++ (if packed then " __attribute__((packed))" else "") ++ " \x7b\n" ++
        String.join (members.map Member.text) ++ "\x7d " ++ name ++ ";" := rfl

theorem text_staticAssert (condition message : String) :
    (staticAssert condition message).text = "_Static_assert(" ++ condition ++ ", " ++ Text.quoted message ++ ");" := rfl

theorem text_prototype (returnType name : String) (params : List String) :
    (prototype returnType name params).text =
      returnType ++ " " ++ name ++ "(" ++ (if params.isEmpty then "void" else ", ".intercalate params) ++ ");" := rfl

theorem text_guarded (name : String) (body : List Declaration) :
    (guard name body).text =
      "#ifndef " ++ name ++ "\n#define " ++ name ++ "\n\n" ++
        (if ("\n\n".intercalate (texts body)).isEmpty then "" else "\n\n".intercalate (texts body) ++ "\n\n") ++
        "#endif /* " ++ name ++ " */\n" := rfl

/-! ## Lists of declarations -/

theorem texts_cons (item : Declaration) (rest : List Declaration) :
    texts (item :: rest) = if item.isEmpty then texts rest else item.text :: texts rest := rfl

theorem texts_append (as bs : List Declaration) : texts (as ++ bs) = texts as ++ texts bs := by
  induction as with
  | nil => rfl
  | cons item rest ih =>
    rw [List.cons_append, texts_cons, texts_cons, ih]
    cases item.isEmpty <;> rfl

theorem texts_map {α : Type} {f : α → Declaration} (h : ∀ a, (f a).isEmpty = false) (xs : List α) :
    texts (xs.map f) = xs.map fun a => (f a).text := by
  induction xs with
  | nil => rfl
  | cons a rest ih => simp [texts_cons, h a, ih]

theorem isEmpty_lines_map {α : Type} {f : α → Declaration} (h : ∀ a, (f a).isEmpty = false) (xs : List α) :
    (lines (xs.map f)).isEmpty = xs.isEmpty := by
  cases xs with
  | nil => rfl
  | cons a rest =>
    show ((f a).isEmpty && allEmpty (rest.map f)) = false
    rw [h a, Bool.false_and]

/-! ## Paragraphs -/

/-- Two neighbours in a chain of texts as one. -/
theorem glue {a b c : String} (h : a ++ b = c) (t : String) : a ++ (b ++ t) = c ++ t := by
  rw [← String.append_assoc, h]

/-- Each text with a line break before and behind it. -/
def paragraphs (ds : List Declaration) : String := String.join ((texts ds).map fun t => "\n" ++ (t ++ "\n"))

theorem paragraphs_append (as bs : List Declaration) : paragraphs (as ++ bs) = paragraphs as ++ paragraphs bs := by
  rw [paragraphs, texts_append, List.map_append, String.join_append]
  rfl

theorem paragraphs_cons (d : Declaration) (ds : List Declaration) :
    paragraphs (d :: ds) = paragraphs [d] ++ paragraphs ds :=
  paragraphs_append [d] ds

theorem paragraphs_flatMap {α : Type} (f : α → List Declaration) (xs : List α) :
    paragraphs (xs.flatMap f) = String.join (xs.map fun a => paragraphs (f a)) := by
  induction xs with
  | nil => rfl
  | cons a rest ih => rw [List.flatMap_cons, paragraphs_append, ih, List.map_cons, String.join_cons]

theorem paragraphs_singleton {d : Declaration} (h : d.isEmpty = false) : paragraphs [d] = "\n" ++ (d.text ++ "\n") := by
  rw [paragraphs, texts_cons, h]
  simp [texts]

theorem paragraphs_map {α : Type} {f : α → Declaration} (h : ∀ a, (f a).isEmpty = false) (xs : List α) :
    paragraphs (xs.map f) = String.join (xs.map fun a => "\n" ++ ((f a).text ++ "\n")) := by
  rw [paragraphs, texts_map h, List.map_map]
  rfl

theorem intercalate_break {ts : List String} (h : ts ≠ []) :
    "\n".intercalate ts ++ "\n" = String.join (ts.map (· ++ "\n")) := by
  induction ts with
  | nil => exact absurd rfl h
  | cons t rest ih =>
    cases rest with
    | nil => simp
    | cons u more =>
      rw [List.map_cons, String.join_cons, ← ih (by simp), String.intercalate_cons_cons]
      simp only [String.append_assoc]

/-- Lines are one paragraph, which is left out if there are none. -/
theorem paragraphs_lines {α : Type} {f : α → Declaration} (h : ∀ a, (f a).isEmpty = false) (xs : List α) :
    paragraphs [lines (xs.map f)] =
      if xs.isEmpty then "" else "\n" ++ String.join (xs.map fun a => (f a).text ++ "\n") := by
  by_cases hxs : xs = []
  · rw [hxs]
    rfl
  · have hne : xs.isEmpty = false := by simpa using hxs
    rw [paragraphs_singleton (isEmpty_lines_map h xs ▸ hne), text_lines, texts_map h, intercalate_break (by simpa),
      List.map_map, hne]
    rfl

theorem intercalate_gap {ts : List String} (h : ts ≠ []) :
    "\n" ++ ("\n\n".intercalate ts ++ "\n") = String.join (ts.map fun t => "\n" ++ (t ++ "\n")) := by
  induction ts with
  | nil => exact absurd rfl h
  | cons t rest ih =>
    cases rest with
    | nil => simp
    | cons u more =>
      rw [List.map_cons, String.join_cons, ← ih (by simp), String.intercalate_cons_cons,
        show "\n\n" = "\n" ++ "\n" from rfl]
      simp only [String.append_assoc]

/-- Paragraphs between the lines of an include guard. -/
def guarded (name body : String) : String :=
  "#ifndef " ++ (name ++ ("\n#define " ++ (name ++ ("\n" ++ (body ++ ("\n#endif /* " ++ (name ++ " */\n")))))))

/-- A header whose body starts with a comment. -/
theorem text_guard (name s : String) (rest : List Declaration) :
    (guard name (comment s :: rest)).text = guarded name (paragraphs (comment s :: rest)) := by
  have hne : texts (comment s :: rest) ≠ [] := by simp [texts_cons, isEmpty]
  have inner : ("\n\n".intercalate (texts (comment s :: rest))).isEmpty = false := by
    rw [texts_cons, text_comment, String.append_assoc]
    simp [isEmpty]
  rw [text_guarded, inner, guarded, paragraphs, ← intercalate_gap hne, show "\n\n" = "\n" ++ "\n" from rfl,
    show "\n#endif /* " = "\n" ++ "#endif /* " from rfl]
  simp only [String.append_assoc, Bool.false_eq_true, if_false]

end StatusFrames.Declaration
