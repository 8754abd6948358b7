/-
The order of paths. Every component has a key, its kind and its name, and paths are ordered as the lists of these keys
are. Keys tell components apart, so the order is linear on the places that paths stand for.
-/
import StatusFrames.Files.Path
import Mathlib.Data.Prod.Lex
import Mathlib.Data.String.Basic

namespace StatusFrames.Files

namespace Component

/-- What a component is sorted by. -/
def key : Component → ℕ ×ₗ String
  | .name s => toLex (rank (.name s), s)
  | c => toLex (c.rank, "")

theorem key_injective : Function.Injective key := by
  intro a b h
  cases a <;> cases b <;> simp_all [key, rank]

theorem lt_iff {a b : Component} : a.lt b = true ↔ a.key < b.key := by
  cases a <;> cases b <;> simp only [lt, key, rank, Prod.Lex.toLex_lt_toLex] <;> grind

theorem le_iff {as bs : List Component} : le as bs = true ↔ as.map key ≤ bs.map key := by
  rw [← not_lt]
  induction as generalizing bs with
  | nil => simp [le]
  | cons a as ih =>
    cases bs with
    | nil => simp [le]
    | cons b bs =>
      rw [le, List.map_cons, List.map_cons, List.cons_lt_cons_iff]
      by_cases hab : a = b
      · subst hab
        simp [ih]
      · have hkey : b.key ≠ a.key := fun h => hab (key_injective h).symm
        simp [hab, hkey, lt_iff, hkey.symm.le_iff_lt]

end Component

/-- What a path is sorted by. Paths that spell the same place have the same key. -/
def Path.key (p : Path) : List (ℕ ×ₗ String) := p.components.map Component.key

theorem Path.le_iff {p q : Path} : p.le q = true ↔ p.key ≤ q.key := Component.le_iff

theorem Path.key_eq_iff {p q : Path} : p.key = q.key ↔ p.components = q.components :=
  (List.map_injective_iff.mpr Component.key_injective).eq_iff

end StatusFrames.Files
