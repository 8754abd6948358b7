/-
The fixed order of documents. Documents are sorted by a key, and where no two of them share one, sorting forgets the order
in which they were given. Files at different places give documents with different keys, so the order of the files makes
no difference either.
-/
import StatusFrames.Document.Folder
import StatusFrames.Proofs.Files.Order
import StatusFrames.Proofs.Steps
import Mathlib.Data.List.Pairwise
import Mathlib.Data.List.Perm.Basic

namespace StatusFrames.Document

/-- What a document is sorted by: its subsystem, then its place. -/
def key (d : Document) : String ×ₗ List (ℕ ×ₗ String) := toLex (d.subsystem, d.path.key)

theorem le_iff {a b : Document} : le a b = true ↔ a.key ≤ b.key := by
  rw [le, key, key, Prod.Lex.toLex_le_toLex]
  by_cases h : a.subsystem = b.subsystem
  · simp [h, Files.Path.le_iff]
  · simp only [h, if_false, decide_eq_true_eq, false_and, or_false]

theorem key_eq_iff {a b : Document} :
    a.key = b.key ↔ a.subsystem = b.subsystem ∧ a.path.components = b.path.components := by
  rw [key, key, toLex_inj, Prod.mk.injEq, Files.Path.key_eq_iff]

theorem sort_perm (documents : List Document) : (sort documents).Perm documents := List.mergeSort_perm ..

theorem pairwise_sort (documents : List Document) : (sort documents).Pairwise fun a b => a.key ≤ b.key := by
  have trans : ∀ a b c, le a b = true → le b c = true → le a c = true := by
    intro a b c hab hbc
    exact le_iff.mpr (le_trans (le_iff.mp hab) (le_iff.mp hbc))
  have total : ∀ a b, (le a b || le b a) = true := by
    intro a b
    rw [Bool.or_eq_true, le_iff, le_iff]
    exact le_total a.key b.key
  exact (List.pairwise_mergeSort trans total documents).imp le_iff.mp

/-- Documents that can be told apart by subsystem and place. -/
def Apart (documents : List Document) : Prop :=
  documents.Pairwise fun a b => ¬(a.subsystem = b.subsystem ∧ a.path.components = b.path.components)

instance (documents : List Document) : Decidable (Apart documents) :=
  inferInstanceAs (Decidable (List.Pairwise _ documents))

theorem Apart.eq_of_key {documents : List Document} (h : Apart documents) {a b : Document} (ha : a ∈ documents)
    (hb : b ∈ documents) (hkey : a.key = b.key) : a = b := by
  by_contra hne
  have symm : Std.Symm fun a b : Document => ¬(a.subsystem = b.subsystem ∧ a.path.components = b.path.components) :=
    ⟨fun _ _ h hsame => h ⟨hsame.1.symm, hsame.2.symm⟩⟩
  exact List.Pairwise.forall h ha hb hne (key_eq_iff.mp hkey)

/-- Sorting forgets the order in which documents were given. -/
theorem sort_eq_of_perm {documents others : List Document} (hperm : documents.Perm others) (h : Apart documents) :
    sort documents = sort others := by
  have same : (sort documents).Perm (sort others) :=
    ((sort_perm documents).trans hperm).trans (sort_perm others).symm
  refine List.Perm.eq_of_pairwise (fun a b ha hb hab hba => ?_) (pairwise_sort documents) (pairwise_sort others) same
  refine h.eq_of_key ((sort_perm documents).mem_iff.mp ha) ?_ (le_antisymm hab hba)
  exact hperm.mem_iff.mpr ((sort_perm others).mem_iff.mp hb)

/-- Documents of different subsystems stand in the strict order of these. -/
theorem increasing_sort {documents : List Document} (h : ((sort documents).map (·.subsystem)).Nodup) :
    (sort documents).Pairwise fun a b => a.subsystem < b.subsystem := by
  refine (pairwise_sort documents).imp₂ (fun a b hle hne => ?_) (List.pairwise_map.mp h)
  rw [key, key, Prod.Lex.toLex_le_toLex] at hle
  exact hle.resolve_right fun hsame => hne hsame.1

/-! ## Files -/

theorem path_of_ofFile {disk : Files.Disk} {path : Files.Path} {d : Document} (h : ofFile disk path = .ok d) :
    d.path = path := by
  simp only [ofFile, bind_eq_ok] at h
  obtain ⟨text, -, h⟩ := h
  unfold ofText at h
  split at h
  · cases h
  · simp only [then_eq_ok, pure_eq_ok] at h
    obtain ⟨-, rfl⟩ := h
    rfl

/-- Files at different places give documents that can be told apart. -/
theorem apart_of_files {disk : Files.Disk} {paths : List Files.Path} {documents : List Document}
    (hfiles : List.Forall₂ (fun path d => ofFile disk path = .ok d) paths documents)
    (hpaths : paths.Pairwise fun p q => p.components ≠ q.components) : Apart documents := by
  have same : documents.map (·.path.components) = paths.map (·.components) :=
    forall₂_map_eq hfiles fun path d hd => by rw [path_of_ofFile hd]
  have distinct : (documents.map (·.path.components)).Pairwise (· ≠ ·) := by
    rw [same]
    exact List.pairwise_map.mpr hpaths
  exact (List.pairwise_map.mp distinct).imp fun hne hsame => hne hsame.2

theorem ofFiles_eq_ok {disk : Files.Disk} {paths : List Files.Path} {loaded : List Document} :
    ofFiles disk paths = .ok loaded ↔
      ∃ documents, List.Forall₂ (fun path d => ofFile disk path = .ok d) paths documents ∧
        checkUnique (sort documents) = .ok () ∧ sort documents = loaded := by
  rw [ofFiles, bind_eq_ok]
  simp only [mapM_eq_ok, then_eq_ok, pure_eq_ok]

/-- Files that load in one order load in every order, as the same documents. -/
theorem ofFiles_of_perm {disk : Files.Disk} {paths others : List Files.Path} (hperm : paths.Perm others)
    (hpaths : paths.Pairwise fun p q => p.components ≠ q.components) {loaded : List Document}
    (h : ofFiles disk paths = .ok loaded) : ofFiles disk others = .ok loaded := by
  obtain ⟨documents, hfiles, hunique, rfl⟩ := ofFiles_eq_ok.mp h
  obtain ⟨documents', hfiles', hperm'⟩ := List.perm_comp_forall₂ hperm.symm hfiles
  have sorted : sort documents = sort documents' := sort_eq_of_perm hperm'.symm (apart_of_files hfiles hpaths)
  exact ofFiles_eq_ok.mpr ⟨documents', hfiles', sorted ▸ hunique, sorted.symm⟩

end StatusFrames.Document
