/-
Normalized texts. Main statement: normalizing gives a text without marks and without white space at its ends, a second
time it changes nothing, and marks in a text have no influence on the result, wherever they stand.
-/
import Mathlib.Data.List.DropRight
import StatusFrames.Proofs.Text.Decomposition

namespace StatusFrames.Text

/-- Putting a mark behind marks of a lower class moves it past marks only. -/
theorem filter_placeMark (c : Char) (cs : List Char) :
    (placeMark c cs).filter (!isMark ·) = (c :: cs).filter (!isMark ·) := by
  induction cs with
  | nil => rfl
  | cons d rest ih =>
    rw [placeMark]
    split
    · rename_i hclass
      have hd : isMark d = true := isMark_of_combiningClass hclass.1
      have hc : isMark c = true := isMark_of_combiningClass (by omega)
      rw [List.filter_cons, ih]
      simp [hd, hc]
    · rfl

theorem filter_canonicalOrder (cs : List Char) :
    (canonicalOrder cs).filter (!isMark ·) = cs.filter (!isMark ·) := by
  induction cs with
  | nil => rfl
  | cons c rest ih =>
    have hplace : canonicalOrder (c :: rest) = placeMark c (canonicalOrder rest) := rfl
    rw [hplace, filter_placeMark, List.filter_cons, List.filter_cons, ih]

/-- Removing marks works on each character alone. -/
theorem withoutMarks_eq (cs : List Char) :
    withoutMarks cs = cs.flatMap fun c => (decompose c).filter (!isMark ·) := by
  rw [withoutMarks, decomposed, filter_canonicalOrder, List.filter_flatMap]

theorem withoutMarks_append (cs ds : List Char) :
    withoutMarks (cs ++ ds) = withoutMarks cs ++ withoutMarks ds := by
  simp only [withoutMarks_eq, List.flatMap_append]

theorem withoutMarks_mark {c : Char} (h : isMark c = true) : (decompose c).filter (!isMark ·) = [] := by
  rw [List.filter_eq_nil_iff]
  intro d hd
  simp [isMark_of_mem_decompose h hd]

/-- The marks of a text may as well be taken out before it is decomposed. -/
theorem withoutMarks_filter (cs : List Char) : withoutMarks (cs.filter (!isMark ·)) = withoutMarks cs := by
  simp only [withoutMarks_eq]
  induction cs with
  | nil => rfl
  | cons c rest ih =>
    cases hc : isMark c with
    | true => simp [hc, withoutMarks_mark hc, ih]
    | false => simp [hc, ih]

theorem of_mem_withoutMarks {cs : List Char} {d : Char} (h : d ∈ withoutMarks cs) :
    decompose d = [d] ∧ isMark d = false := by
  rw [withoutMarks_eq] at h
  obtain ⟨c, -, hd⟩ := List.mem_flatMap.mp h
  obtain ⟨hmem, hmark⟩ := List.mem_filter.mp hd
  exact ⟨decompose_of_mem_decompose hmem, by simpa using hmark⟩

/-- A text of characters that stand for themselves and are no marks, with no white space at its ends. -/
structure IsPlain (cs : List Char) : Prop where
  standsAlone : ∀ c ∈ cs, decompose c = [c]
  unmarked : ∀ c ∈ cs, isMark c = false
  head : ∀ c ∈ cs.head?, isBlank c = false
  last : ∀ c ∈ cs.getLast?, isBlank c = false

theorem trim_eq (cs : List Char) : trim cs = (cs.dropWhile isBlank).rdropWhile isBlank := rfl

theorem trim_sublist (cs : List Char) : (trim cs).Sublist cs :=
  (List.rdropWhile_prefix isBlank (cs.dropWhile isBlank)).sublist.trans (List.dropWhile_sublist isBlank)

theorem isBlank_head_trim {cs : List Char} {c : Char} (h : (trim cs).head? = some c) : isBlank c = false := by
  obtain ⟨tail, htail⟩ := List.rdropWhile_prefix isBlank (cs.dropWhile isBlank)
  have hhead : (cs.dropWhile isBlank).head? = some c := by
    rw [← htail, List.head?_append, ← trim_eq, h]
    rfl
  have hnot := List.head?_dropWhile_not isBlank cs
  rwa [hhead] at hnot

theorem isBlank_last_trim {cs : List Char} {c : Char} (h : (trim cs).getLast? = some c) : isBlank c = false := by
  have hne : trim cs ≠ [] := by
    intro hnil
    rw [hnil] at h
    cases h
  rw [List.getLast?_eq_some_getLast hne, Option.some.injEq] at h
  rw [← h]
  exact Bool.eq_false_iff.mpr (List.rdropWhile_last_not isBlank _ hne)

theorem isPlain_trim {cs : List Char} (h : ∀ c ∈ cs, decompose c = [c] ∧ isMark c = false) : IsPlain (trim cs) where
  standsAlone c hc := (h c ((trim_sublist cs).subset hc)).1
  unmarked c hc := (h c ((trim_sublist cs).subset hc)).2
  head _ hc := isBlank_head_trim hc
  last _ hc := isBlank_last_trim hc

theorem IsPlain.trim_eq_self {cs : List Char} (h : IsPlain cs) : trim cs = cs := by
  have hhead : cs.dropWhile isBlank = cs := by
    cases cs with
    | nil => rfl
    | cons c rest => simp [h.head c rfl]
  rw [trim_eq, hhead, List.rdropWhile_eq_self_iff]
  intro hne
  simp [h.last _ (List.getLast?_eq_some_getLast hne)]

theorem IsPlain.withoutMarks_eq_self {cs : List Char} (h : IsPlain cs) : withoutMarks cs = cs := by
  have hself : ∀ c ∈ cs, (decompose c).filter (!isMark ·) = [c] := by
    intro c hc
    simp [h.standsAlone c hc, h.unmarked c hc]
  rw [withoutMarks_eq, List.flatMap_congr hself, List.flatMap_singleton']

theorem isPlain_normalize (text : String) : IsPlain (normalize text).toList := by
  rw [normalize, String.toList_ofList]
  exact isPlain_trim fun c hc => of_mem_withoutMarks hc

theorem normalize_of_isPlain {text : String} (h : IsPlain text.toList) : normalize text = text := by
  rw [normalize, h.withoutMarks_eq_self, h.trim_eq_self, String.ofList_toList]

theorem withoutMarks_eq_of_filter {cs ds : List Char} (h : cs.filter (!isMark ·) = ds.filter (!isMark ·)) :
    withoutMarks cs = withoutMarks ds := by
  rw [← withoutMarks_filter cs, h, withoutMarks_filter]

theorem normalize_eq_of_filter {s t : String}
    (h : s.toList.filter (!isMark ·) = t.toList.filter (!isMark ·)) : normalize s = normalize t := by
  rw [normalize, normalize, withoutMarks_eq_of_filter h]

theorem normalize_eq_self_iff {text : String} : normalize text = text ↔ IsPlain text.toList := by
  constructor
  · intro h
    rw [← h]
    exact isPlain_normalize text
  · exact normalize_of_isPlain

/-- Normalizing is idempotent, and leaves unchanged exactly the plain texts. Its result has no mark, and no white space
at its ends. Removing the marks works on the two parts of a text alone, and texts that differ only in their marks,
wherever these stand, have the same result. -/
theorem normalize_ignores_marks (s t : String) :
    normalize (normalize s) = normalize s ∧
    (normalize s = s ↔ IsPlain s.toList) ∧
    (∀ c ∈ (normalize s).toList, isMark c = false) ∧
    (∀ c ∈ (normalize s).toList.head?, isBlank c = false) ∧
    (∀ c ∈ (normalize s).toList.getLast?, isBlank c = false) ∧
    withoutMarks (s ++ t).toList = withoutMarks s.toList ++ withoutMarks t.toList ∧
    (s.toList.filter (!isMark ·) = t.toList.filter (!isMark ·) →
      withoutMarks s.toList = withoutMarks t.toList ∧ normalize s = normalize t) := by
  have hplain := isPlain_normalize s
  refine ⟨normalize_of_isPlain hplain, normalize_eq_self_iff, hplain.unmarked, hplain.head, hplain.last, ?_, ?_⟩
  · rw [String.toList_append, withoutMarks_append]
  · intro h
    exact ⟨withoutMarks_eq_of_filter h, normalize_eq_of_filter h⟩

/-- Two accents over one letter, and the same with one of them moved behind the blank at the end. -/
theorem normalize_ignores_marks_hot :
    " ho\u0302\u0323t ".toList.filter (!isMark ·) = " ho\u0323t \u0302".toList.filter (!isMark ·) ∧
    normalize " ho\u0302\u0323t " = normalize " ho\u0323t \u0302" ∧ normalize " ho\u0302\u0323t " = "hot" := by
  have hsame : " ho\u0302\u0323t ".toList.filter (!isMark ·) = " ho\u0323t \u0302".toList.filter (!isMark ·) := by
    decide +kernel
  exact ⟨hsame, ((normalize_ignores_marks _ _).2.2.2.2.2.2 hsame).2, by decide +kernel⟩

end StatusFrames.Text
