/-
Paths that are spelled as plain names with single slashes between them: their components are these names.
-/
import StatusFrames.Files.Path

namespace StatusFrames.Files.Path

/-- A name that is one component of a path and stands for itself. -/
structure Plain (name : List Char) : Prop where
  occupied : name ≠ []
  noSlash : '/' ∉ name
  notHere : name ≠ ['.']
  notUp : name ≠ ['.', '.']

theorem pieces_eq_splitOn (cs piece : List Char) (offset : Nat) :
    (pieces cs piece offset).map (·.1) = (cs.splitOn '/').modifyHead (piece.reverse ++ ·) := by
  induction cs generalizing piece offset with
  | nil => simp [pieces]
  | cons c rest ih =>
    rw [List.splitOn_cons_eq_if_modifyHead, pieces]
    by_cases hc : c = '/'
    · rw [if_pos hc, if_pos (by simp [hc]), List.map_cons, ih]
      cases rest.splitOn '/' <;> simp
    · rw [if_neg hc, if_neg (by simp [hc]), ih]
      cases rest.splitOn '/' <;> simp

theorem componentOf_eq {name : List Char} (h : Plain name) : componentOf name = .name (String.ofList name) := by
  unfold componentOf
  split
  · exact absurd rfl h.notUp
  · rfl

theorem components_ofList {names : List (List Char)} (h : ∀ name ∈ names, Plain name) (hne : names ≠ []) :
    (Path.mk (String.ofList (['/'].intercalate names))).components =
      names.map fun name => .name (String.ofList name) := by
  let cs := ['/'].intercalate names
  have hpieces : (pieces cs [] 0).map (·.1) = names := by
    rw [pieces_eq_splitOn, List.splitOn_intercalate '/' (fun name hname => (h name hname).noSlash) hne]
    cases names <;> simp
  have hslash : ∀ tail, cs ≠ '/' :: tail := by
    intro tail hcs
    cases names with
    | nil => exact hne rfl
    | cons first rest =>
      have hfirst := h first (by simp)
      cases first with
      | nil => exact hfirst.occupied rfl
      | cons c more =>
        have hc : c = '/' := by cases rest <;> simp_all [cs]
        exact hfirst.noSlash (by simp [hc])
  have hdot : ∀ offset tail, pieces cs [] 0 ≠ (['.'], offset) :: tail := by
    intro offset tail hall
    rw [hall] at hpieces
    exact absurd rfl (h ['.'] (hpieces ▸ by simp)).notHere
  have hkept : (pieces cs [] 0).filter (fun piece => piece.1 ≠ [] ∧ piece.1 ≠ ['.']) = pieces cs [] 0 := by
    rw [List.filter_eq_self]
    intro piece hpiece
    have hplain := h piece.1 (hpieces ▸ List.mem_map_of_mem hpiece)
    simp [hplain.occupied, hplain.notHere]
  have hcomponents : (pieces cs [] 0).map (fun piece => componentOf piece.1) =
      names.map fun name => .name (String.ofList name) := by
    rw [← List.map_congr_left fun name hname => componentOf_eq (h name hname), ← hpieces, List.map_map]
    rfl
  simp only [components, spans, String.toList_ofList]
  split
  · exact absurd ‹_› (hslash _)
  · exact absurd ‹_› (hdot _ _)
  · rw [List.nil_append, hkept, List.map_map, ← hcomponents]
    rfl

/-- Nothing but names stands in a path that is spelled with them. -/
theorem components_intercalate {names : List String} (h : ∀ name ∈ names, Plain name.toList) (hne : names ≠ []) :
    (Path.mk ("/".intercalate names)).components = names.map .name := by
  have spelled : "/".intercalate names = String.ofList (['/'].intercalate (names.map String.toList)) := by
    rw [← String.toList_inj, String.toList_intercalate, String.toList_ofList, String.toList_ofList]
  rw [spelled, components_ofList (by simpa using h) (by simpa using hne), List.map_map]
  simp [Function.comp_def]

end StatusFrames.Files.Path
