/-
Putting headers among others. Headers at different places can all be put there, and afterwards each of them is there
with its own text, whatever the order.
-/
import StatusFrames.Artifacts
import StatusFrames.Proofs.Steps
import Mathlib.Data.List.Perm.Basic

namespace StatusFrames.Artifacts

open scoped List

theorem contains_eq_false {a : Artifacts} {path : Files.Path} :
    a.contains path = false ↔ ∀ e ∈ a, e.1.components ≠ path.components := by
  simp [contains, Files.Path.same]

theorem put_perm {a : Artifacts} {path : Files.Path} {text : String} (h : a.contains path = false) :
    (put path text a).Perm ((path, text) :: a) := by
  induction a with
  | nil => exact .refl _
  | cons entry rest ih =>
    obtain ⟨q, other⟩ := entry
    rw [contains_eq_false] at h
    have hq : q.same path = false := by simpa [Files.Path.same] using h (q, other) (by simp)
    have hrest : contains rest path = false := contains_eq_false.mpr fun e he => h e (by simp [he])
    rw [put, if_neg (by simp [hq])]
    split
    · exact .refl _
    · exact ((ih hrest).cons _).trans (.swap ..)

theorem insert_eq_ok {a b : Artifacts} {path text : String} :
    a.insert path text = .ok b ↔ a.contains ⟨path⟩ = false ∧ put ⟨path⟩ text a = b := by
  simp [insert, refuse_eq_ok]

theorem insertAll_cons (a : Artifacts) (path text : String) (rest : List (String × String)) :
    a.insertAll ((path, text) :: rest) = (a.insert path text >>= fun b => b.insertAll rest) := rfl

/-- Headers as they are kept. -/
def atPaths (headers : List (String × String)) : Artifacts := headers.map fun h => (⟨h.1⟩, h.2)

/-- Headers that were put among others are all there, and nothing else is. -/
theorem insertAll_perm {a b : Artifacts} {headers : List (String × String)} (h : a.insertAll headers = .ok b) :
    b ~ a ++ atPaths headers := by
  induction headers generalizing a with
  | nil =>
    obtain rfl : a = b := Except.ok.inj h
    simp [atPaths]
  | cons header rest ih =>
    obtain ⟨path, text⟩ := header
    simp only [insertAll_cons, bind_eq_ok, insert_eq_ok] at h
    obtain ⟨c, ⟨hfree, rfl⟩, h⟩ := h
    calc b
      _ ~ put ⟨path⟩ text a ++ atPaths rest := ih h
      _ ~ (⟨path⟩, text) :: a ++ atPaths rest := (put_perm hfree).append_right _
      _ ~ a ++ atPaths ((path, text) :: rest) := List.perm_middle.symm

/-- Headers at places that differ can be put among others that are elsewhere. -/
theorem insertAll_ok {a : Artifacts} {headers : List (String × String)}
    (hdistinct : (headers.map fun h => (Files.Path.mk h.1).components).Nodup)
    (hfree : ∀ h ∈ headers, a.contains ⟨h.1⟩ = false) : ∃ b, a.insertAll headers = .ok b := by
  induction headers generalizing a with
  | nil => exact ⟨a, rfl⟩
  | cons header rest ih =>
    obtain ⟨path, text⟩ := header
    simp only [List.map_cons, List.nodup_cons, List.mem_map, not_exists, not_and] at hdistinct
    have hnew : a.contains ⟨path⟩ = false := hfree (path, text) (by simp)
    have hput : a.insert path text = .ok (put ⟨path⟩ text a) := insert_eq_ok.mpr ⟨hnew, rfl⟩
    have hrest : ∀ h ∈ rest, (put ⟨path⟩ text a).contains ⟨h.1⟩ = false := by
      intro h hh
      rw [contains_eq_false]
      intro e he
      rcases List.mem_cons.mp ((put_perm hnew).mem_iff.mp he) with rfl | he
      · exact fun heq => hdistinct.1 h hh heq.symm
      · exact contains_eq_false.mp (hfree h (by simp [hh])) e he
    obtain ⟨b, hb⟩ := ih hdistinct.2 hrest
    refine ⟨b, ?_⟩
    rw [insertAll_cons, hput, ok_bind, hb]

/-- The text of the header at a place. -/
def text? (a : Artifacts) (path : Files.Path) : Option String := (a.find? (·.1.same path)).map (·.2)

theorem text?_eq_some {a : Artifacts} (hdistinct : (a.map (·.1.components)).Nodup) {path : Files.Path} {text : String}
    (h : (path, text) ∈ a) : a.text? path = some text := by
  induction a with
  | nil => cases h
  | cons entry rest ih =>
    obtain ⟨hfresh, hrest⟩ := List.nodup_cons.mp hdistinct
    rcases List.mem_cons.mp h with rfl | hmem
    · simp [text?, Files.Path.same]
    · have hother : entry.1.same path = false := by
        simp only [Files.Path.same, decide_eq_false_iff_not]
        intro hsame
        exact hfresh (List.mem_map.mpr ⟨_, hmem, hsame.symm⟩)
      rw [text?, List.find?_cons, hother]
      exact ih hrest hmem

/-- Each of the headers that were put at different places is found there. -/
theorem text?_of_insertAll {a : Artifacts} {headers : List (String × String)} (h : insertAll [] headers = .ok a)
    (hdistinct : (headers.map fun h => (Files.Path.mk h.1).components).Nodup) {path text : String}
    (hmem : (path, text) ∈ headers) : a.text? ⟨path⟩ = some text := by
  have written : a ~ atPaths headers := insertAll_perm h
  refine text?_eq_some ?_ (written.mem_iff.mpr (List.mem_map.mpr ⟨_, hmem, rfl⟩))
  rwa [(written.map _).nodup_iff, atPaths, List.map_map]

end StatusFrames.Artifacts
