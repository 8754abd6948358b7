/-
What the tables of decompositions, marks and combining classes have to do with one another: a decomposition is full,
a mark decomposes into marks, and only marks have a combining class. The tests on the tables compare numbers with
`Nat.ble` and `Nat.beq`, which the kernel computes, and look for a code point only among the ranges of its page.
-/
import StatusFrames.Proofs.Steps
import StatusFrames.Text.Normal

namespace StatusFrames.Text

namespace Decomposition

/-- The parts that the table gives for a code point. -/
def listed? (code : Nat) : Option (List Nat) := (pages.lookup (code / 256)).bind (·.lookup code)

def unlisted (code : Nat) : Bool :=
  pages.all fun page => !page.1.beq (code / 256) || page.2.all fun entry => !entry.1.beq code

/-- Whether a code point is no syllable and has no entry of its own. -/
def standsAlone (code : Nat) : Bool :=
  code.ble 0xBF || (!(Nat.ble 0xAC00 code && code.ble 0xD7A3) && unlisted code)

def within (code : Nat) (range : Nat × Nat) : Bool := range.1.ble code && code.ble range.2

/-- The ranges of marks that reach into a page. -/
def marksOn (page : Nat) : List (Nat × Nat) :=
  markRanges.filter fun range => (page * 256).ble range.2 && range.1.ble (page * 256 + 255)

set_option maxRecDepth 20000 in
theorem parts_standAlone :
    (pages.all fun page => page.2.all fun entry => entry.2.all standsAlone) = true := by
  decide +kernel

set_option maxRecDepth 20000 in
theorem parts_of_mark_are_marks :
    (pages.all fun page => page.2.all fun entry =>
      !(marksOn page.1).any (within entry.1) || entry.2.all fun part =>
        part.isValidChar && markRanges.any (within part)) = true := by
  decide +kernel

theorem exists_of_listed? {code : Nat} {parts : List Nat} (h : listed? code = some parts) :
    ∃ entries, (code / 256, entries) ∈ pages ∧ (code, parts) ∈ entries := by
  obtain ⟨entries, hpage, hentry⟩ := Option.bind_eq_some_iff.mp h
  exact ⟨entries, mem_of_lookup hpage, mem_of_lookup hentry⟩

theorem listed?_of_unlisted {code : Nat} (h : unlisted code = true) : listed? code = none := by
  cases hl : listed? code with
  | none => rfl
  | some parts =>
    obtain ⟨entries, hpage, hentry⟩ := exists_of_listed? hl
    have hnone := List.all_eq_true.mp h _ hpage
    simp only [Nat.beq_refl, Bool.not_true, Bool.false_or, List.all_eq_true] at hnone
    simpa using hnone _ hentry

theorem standsAlone_of_listed? {code : Nat} {parts : List Nat} (h : listed? code = some parts) {part : Nat}
    (hpart : part ∈ parts) : standsAlone part = true := by
  obtain ⟨entries, hpage, hentry⟩ := exists_of_listed? h
  have hentries := List.all_eq_true.mp parts_standAlone _ hpage
  exact List.all_eq_true.mp (List.all_eq_true.mp hentries _ hentry) _ hpart

end Decomposition

open Decomposition

theorem any_within {ranges : List (Nat × Nat)} {code : Nat} : ranges.any (within code) = inRanges ranges code := by
  rw [Bool.eq_iff_iff, inRanges_iff]
  simp [within]

theorem inRanges_marksOn {code : Nat} : inRanges (marksOn (code / 256)) code = inRanges markRanges code := by
  rw [Bool.eq_iff_iff, inRanges_iff, inRanges_iff]
  constructor
  · rintro ⟨range, hmem, hrange⟩
    exact ⟨range, (List.mem_filter.mp hmem).1, hrange⟩
  · rintro ⟨range, hmem, hlo, hhi⟩
    refine ⟨range, List.mem_filter.mpr ⟨hmem, ?_⟩, hlo, hhi⟩
    simp only [Bool.and_eq_true, Nat.ble_eq]
    omega

theorem decompose_eq (c : Char) (h : ¬ c.toNat < 0xC0) (hs : ¬ (0xAC00 ≤ c.toNat ∧ c.toNat ≤ 0xD7A3)) :
    decompose c = ((listed? c.toNat).map (·.map Char.ofNat)).getD [c] := by
  simp only [decompose, if_neg h, if_neg hs, listed?]
  cases (pages.lookup (c.toNat / 256)).bind (·.lookup c.toNat) <;> rfl

theorem decompose_of_standsAlone {c : Char} (h : standsAlone c.toNat = true) : decompose c = [c] := by
  by_cases hlow : c.toNat < 0xC0
  · simp [decompose, hlow]
  · have hble : c.toNat.ble 0xBF = false := by
      rw [Bool.eq_false_iff, ne_eq, Nat.ble_eq]
      omega
    rw [standsAlone, hble, Bool.false_or, Bool.and_eq_true] at h
    have hs : ¬ (0xAC00 ≤ c.toNat ∧ c.toNat ≤ 0xD7A3) := by
      rintro ⟨hlo, hhi⟩
      simp [Nat.ble_eq.mpr hlo, Nat.ble_eq.mpr hhi] at h
    rw [decompose_eq c hlow hs, listed?_of_unlisted h.2]
    rfl

theorem toNat_ofNat {code : Nat} (h : code.isValidChar) : (Char.ofNat code).toNat = code := by
  rw [Char.ofNat, dif_pos h]
  rfl

theorem decompose_ofNat {code : Nat} (h : standsAlone code = true) :
    decompose (Char.ofNat code) = [Char.ofNat code] := by
  by_cases hvalid : code.isValidChar
  · exact decompose_of_standsAlone (by rwa [toNat_ofNat hvalid])
  · rw [Char.ofNat, dif_neg hvalid]
    rfl

theorem standsAlone_jamo {code : Nat} (h : code / 256 = 0x11) : standsAlone code = true := by
  have hlo : Nat.ble 0xAC00 code = false := by
    rw [Bool.eq_false_iff, ne_eq, Nat.ble_eq]
    omega
  have hpages : unlisted code = true := by
    rw [unlisted, h]
    rfl
  simp [standsAlone, hlo, hpages]

/-- A syllable is made up of jamo, which all stand on one page. -/
theorem mem_decomposeSyllable {index : Nat} (h : index < 11172) {d : Char} (hd : d ∈ decomposeSyllable index) :
    ∃ code, code / 256 = 0x11 ∧ d = Char.ofNat code := by
  have hlead : (0x1100 + index / 588) / 256 = 0x11 := by omega
  have hvowel : (0x1161 + index % 588 / 28) / 256 = 0x11 := by omega
  have htrail : (0x11A7 + index % 28) / 256 = 0x11 := by omega
  simp only [decomposeSyllable] at hd
  split at hd
  all_goals
    simp only [List.mem_cons, List.not_mem_nil, or_false] at hd
  · rcases hd with rfl | rfl
    · exact ⟨_, hlead, rfl⟩
    · exact ⟨_, hvowel, rfl⟩
  · rcases hd with rfl | rfl | rfl
    · exact ⟨_, hlead, rfl⟩
    · exact ⟨_, hvowel, rfl⟩
    · exact ⟨_, htrail, rfl⟩

/-- What a character may decompose into. -/
theorem mem_decompose {c d : Char} (h : d ∈ decompose c) :
    d = c ∧ decompose c = [c] ∨
    (0xAC00 ≤ c.toNat ∧ c.toNat ≤ 0xD7A3) ∧ (∃ code, code / 256 = 0x11 ∧ d = Char.ofNat code) ∨
    ∃ parts, listed? c.toNat = some parts ∧ ∃ part ∈ parts, d = Char.ofNat part := by
  by_cases hlow : c.toNat < 0xC0
  · have hself : decompose c = [c] := by simp [decompose, hlow]
    rw [hself, List.mem_singleton] at h
    exact .inl ⟨h, hself⟩
  by_cases hs : 0xAC00 ≤ c.toNat ∧ c.toNat ≤ 0xD7A3
  · rw [decompose, if_neg hlow, if_pos hs] at h
    exact .inr (.inl ⟨hs, mem_decomposeSyllable (by omega) h⟩)
  have heq := decompose_eq c hlow hs
  cases hl : listed? c.toNat with
  | none =>
    rw [hl] at heq
    rw [heq] at h
    exact .inl ⟨List.mem_singleton.mp h, heq⟩
  | some parts =>
    rw [heq, hl] at h
    obtain ⟨part, hpart, rfl⟩ := List.mem_map.mp h
    exact .inr (.inr ⟨parts, rfl, part, hpart, rfl⟩)

/-- A decomposition is full: its characters stand for themselves. -/
theorem decompose_of_mem_decompose {c d : Char} (h : d ∈ decompose c) : decompose d = [d] := by
  rcases mem_decompose h with ⟨rfl, hself⟩ | ⟨-, code, hcode, rfl⟩ | ⟨parts, hl, part, hpart, rfl⟩
  · exact hself
  · exact decompose_ofNat (standsAlone_jamo hcode)
  · exact decompose_ofNat (standsAlone_of_listed? hl hpart)

set_option maxRecDepth 20000 in
theorem marks_apart :
    (markRanges.all fun range => Nat.ble 0x300 range.1 && (range.2.blt 0xAC00 || Nat.blt 0xD7A3 range.1)) = true := by
  decide +kernel

theorem isMark_eq (c : Char) : isMark c = inRanges markRanges c.toNat := by
  rw [isMark, Bool.and_eq_right_iff_imp, inRanges_iff, decide_eq_true_iff]
  rintro ⟨range, hmem, hlo, -⟩
  have hapart := List.all_eq_true.mp marks_apart _ hmem
  rw [Bool.and_eq_true, Nat.ble_eq] at hapart
  omega

theorem isMark_syllable {c : Char} (h : 0xAC00 ≤ c.toNat ∧ c.toNat ≤ 0xD7A3) : isMark c = false := by
  rw [isMark_eq, Bool.eq_false_iff, ne_eq, inRanges_iff]
  rintro ⟨range, hmem, hlo, hhi⟩
  have hapart := List.all_eq_true.mp marks_apart _ hmem
  simp only [Bool.and_eq_true, Bool.or_eq_true, Nat.blt_eq] at hapart
  omega

theorem isMark_of_mem_decompose {c d : Char} (hc : isMark c = true) (h : d ∈ decompose c) : isMark d = true := by
  rcases mem_decompose h with ⟨rfl, -⟩ | ⟨hs, -⟩ | ⟨parts, hl, part, hpart, rfl⟩
  · exact hc
  · rw [isMark_syllable hs] at hc
    cases hc
  · obtain ⟨entries, hpage, hentry⟩ := exists_of_listed? hl
    have hparts := List.all_eq_true.mp (List.all_eq_true.mp parts_of_mark_are_marks _ hpage) _ hentry
    rw [any_within, inRanges_marksOn, ← isMark_eq, hc, Bool.not_true, Bool.false_or, List.all_eq_true] at hparts
    have hvalid := hparts part hpart
    rw [Bool.and_eq_true, any_within, decide_eq_true_iff] at hvalid
    rw [isMark_eq, toNat_ofNat hvalid.1]
    exact hvalid.2

set_option maxRecDepth 20000 in
theorem classes_in_marks :
    (classRanges.all fun range => markRanges.any fun marks =>
      range.2.1.ble marks.2 && marks.1.ble range.1) = true := by
  decide +kernel

theorem isMark_of_combiningClass {c : Char} (h : combiningClass c ≠ 0) : isMark c = true := by
  unfold combiningClass at h
  split at h
  · cases h rfl
  · split at h
    · rename_i lo hi k hfind
      have hmem := List.mem_of_find?_eq_some hfind
      have hin := List.find?_some hfind
      have hmarks := List.all_eq_true.mp classes_in_marks _ hmem
      simp only [List.any_eq_true, Bool.and_eq_true, Nat.ble_eq] at hmarks
      obtain ⟨marks, hmarks, hhi, hlo⟩ := hmarks
      simp only [Bool.and_eq_true, decide_eq_true_iff] at hin
      rw [isMark_eq, inRanges_iff]
      exact ⟨marks, hmarks, by omega, by omega⟩
    · cases h rfl

end StatusFrames.Text
