/-
What a tree of declarations holds, whatever groups and guards it stands in, and the global names that it declares.
-/
import StatusFrames.Proofs.Declaration.Paragraphs
import StatusFrames.Proofs.Text.Lines
import Mathlib.Data.List.Infix

namespace StatusFrames.Declaration

mutual

/-- The declarations of a tree from the outside in; a group counts for what is in it. -/
def parts : Declaration → List Declaration
  | .group _ items => partsOf items
  | .guard name body => .guard name body :: partsOf body
  | d => [d]

def partsOf : List Declaration → List Declaration
  | [] => []
  | item :: rest => item.parts ++ partsOf rest

end

/-- The global names that a declaration brings in itself. Members of structs and parameters are not global. -/
def ownNames : Declaration → List String
  | .define name _ => [name]
  | .enumeration name enumerators => name :: enumerators.map (·.1)
  | .record name _ _ => [name]
  | .prototype _ name _ => [name]
  | .guard name _ => [name]
  | .comment _ | .group .. | .inclusion .. | .staticAssert .. => []

/-- The global names that a tree declares. -/
def names (d : Declaration) : List String := d.parts.flatMap ownNames

@[simp] theorem partsOf_nil : partsOf [] = [] := rfl

@[simp] theorem partsOf_cons (item : Declaration) (rest : List Declaration) :
    partsOf (item :: rest) = item.parts ++ partsOf rest := rfl

@[simp] theorem partsOf_append (a b : List Declaration) : partsOf (a ++ b) = partsOf a ++ partsOf b := by
  induction a with
  | nil => rfl
  | cons item rest ih => rw [List.cons_append, partsOf_cons, partsOf_cons, ih, List.append_assoc]

theorem partsOf_map {α : Type} (f : α → Declaration) (as : List α) :
    partsOf (as.map f) = as.flatMap fun a => (f a).parts := by
  induction as with
  | nil => rfl
  | cons a rest ih => rw [List.map_cons, partsOf_cons, List.flatMap_cons, ih]

/-- A list of declarations that hold nothing but themselves. -/
theorem partsOf_leaves {α : Type} {f : α → Declaration} (h : ∀ a, (f a).parts = [f a]) (as : List α) :
    partsOf (as.map f) = as.map f := by
  rw [partsOf_map, List.map_eq_flatMap]
  exact List.flatMap_congr fun a _ => h a

theorem partsOf_flatMap {α : Type} (f : α → List Declaration) (as : List α) :
    partsOf (as.flatMap f) = as.flatMap fun a => partsOf (f a) := by
  induction as with
  | nil => rfl
  | cons a rest ih => rw [List.flatMap_cons, List.flatMap_cons, partsOf_append, ih]

@[simp] theorem parts_lines (items : List Declaration) : (lines items).parts = partsOf items := rfl

@[simp] theorem parts_titled (title : String) (items : List Declaration) : (titled title items).parts = partsOf items :=
  rfl

@[simp] theorem parts_guard (name : String) (body : List Declaration) :
    (Declaration.guard name body).parts = .guard name body :: partsOf body := rfl

/-! ## Parts in the printed text -/

open Text

theorem eq_break_of_getLast? {last : String} (h : last.toList.getLast? = some '\n') (text : String) :
    ∀ c ∈ (text ++ last).toList.getLast?, c = '\n' := by
  simp [List.getLast?_append, h]

/-- Texts that a line break separates stand on lines of their own. -/
theorem standsIn_intercalate {s t : String} (separator : String) (hfirst : separator.toList.head? = some '\n')
    (hlast : separator.toList.getLast? = some '\n') {ts : List String} (ht : t ∈ ts)
    (h : StandsIn s.toList t.toList) : StandsIn s.toList (separator.intercalate ts).toList := by
  induction ts with
  | nil => cases ht
  | cons u rest ih =>
    cases rest with
    | nil =>
      rw [String.intercalate_singleton, ← List.mem_singleton.mp ht]
      exact h
    | cons v more =>
      rw [String.intercalate_cons_cons, String.toList_append]
      rcases List.mem_cons.mp ht with rfl | ht
      · rw [String.toList_append, List.append_assoc]
        exact h.within [] _ (by simp) (by simp [List.head?_append, hfirst])
      · rw [← List.append_nil (_ ++ _)]
        exact (ih ht).within _ [] (eq_break_of_getLast? hlast u) (by simp)

mutual

theorem parts_eq_nil : ∀ {d : Declaration}, d.isEmpty = true → d.parts = []
  | .group _ _, h => partsOf_eq_nil h

theorem partsOf_eq_nil : ∀ {ds : List Declaration}, allEmpty ds = true → partsOf ds = []
  | [], _ => rfl
  | _ :: _, h => by
    obtain ⟨hitem, hrest⟩ := Bool.and_eq_true_iff.mp h
    rw [partsOf_cons, parts_eq_nil hitem, partsOf_eq_nil hrest, List.append_nil]

end

mutual

/-- Every part of a tree stands in its text on lines of its own. -/
theorem standsIn_of_mem_parts : ∀ {d part : Declaration}, part ∈ d.parts → StandsIn part.text.toList d.text.toList
  | .group title items, _, h => by
    obtain ⟨t, ht, hstands⟩ := standsIn_of_mem_partsOf h
    have inner := standsIn_intercalate "\n" rfl rfl ht hstands
    cases title with
    | none =>
      change StandsIn _ (lines items).text.toList
      rwa [text_lines]
    | some title =>
      change StandsIn _ (titled title items).text.toList
      rw [text_titled, String.toList_append, ← List.append_nil (_ ++ _)]
      exact inner.within _ [] (eq_break_of_getLast? rfl _) (by simp)
  | .guard name body, part, h => by
    rcases List.mem_cons.mp h with rfl | h
    · exact .refl _
    obtain ⟨t, ht, hstands⟩ := standsIn_of_mem_partsOf h
    have inner := standsIn_intercalate "\n\n" rfl rfl ht hstands
    rw [text_guarded]
    split
    next hempty =>
      -- Nothing is printed between the guards. The empty text stands at the end, behind the last line break.
      rw [String.isEmpty_iff.mp hempty] at inner
      rw [List.infix_nil.mp inner.isInfix]
      exact ⟨_, [], by rw [List.append_nil, List.append_nil], eq_break_of_getLast? rfl _, by simp⟩
    next =>
      have := inner.within ("#ifndef " ++ name ++ "\n#define " ++ name ++ "\n\n").toList
        ("\n\n" ++ "#endif /* " ++ name ++ " */\n").toList (eq_break_of_getLast? rfl _) (by simp)
      simpa only [← String.toList_append, String.append_assoc] using this
  | .comment _, _, h | .inclusion .., _, h | .define .., _, h | .enumeration .., _, h | .record .., _, h
  | .staticAssert .., _, h | .prototype .., _, h => by
    rw [List.mem_singleton.mp h]
    exact .refl _

theorem standsIn_of_mem_partsOf : ∀ {ds : List Declaration} {part : Declaration}, part ∈ partsOf ds →
    ∃ t ∈ texts ds, StandsIn part.text.toList t.toList
  | item :: rest, part, h => by
    rw [texts_cons]
    split
    next hempty =>
      rw [partsOf_cons, parts_eq_nil hempty, List.nil_append] at h
      exact standsIn_of_mem_partsOf h
    next =>
      rcases List.mem_append.mp h with h | h
      · exact ⟨item.text, List.mem_cons_self, standsIn_of_mem_parts h⟩
      · obtain ⟨t, ht, hstands⟩ := standsIn_of_mem_partsOf h
        exact ⟨t, List.mem_cons_of_mem _ ht, hstands⟩

end

/-- Every part of a tree stands in its text. -/
theorem infix_of_mem_parts {d part : Declaration} (h : part ∈ d.parts) : part.text.toList <:+: d.text.toList :=
  (standsIn_of_mem_parts h).isInfix

end StatusFrames.Declaration
