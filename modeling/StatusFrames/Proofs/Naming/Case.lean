/-
Names that differ in the case of their letters only. They are written alike where a name goes in upper case, so a guard
tells such names no better apart than a file system that ignores case.
-/
import StatusFrames.Proofs.Naming.Letters

namespace StatusFrames

namespace Text

/-- Equal once every capital of the basic alphabet is a small letter. -/
def EqIgnoringCase (a b : String) : Prop := a.toList.map Char.toLower = b.toList.map Char.toLower

instance (a b : String) : Decidable (EqIgnoringCase a b) := inferInstanceAs (Decidable (_ = _))

theorem EqIgnoringCase.symm {a b : String} (h : EqIgnoringCase a b) : EqIgnoringCase b a := Eq.symm h

theorem eqIgnoringCase_append_left {front a b : String} :
    EqIgnoringCase (front ++ a) (front ++ b) ↔ EqIgnoringCase a b := by
  simp [EqIgnoringCase]

theorem eqIgnoringCase_append_right {back a b : String} :
    EqIgnoringCase (a ++ back) (b ++ back) ↔ EqIgnoringCase a b := by
  simp [EqIgnoringCase]

/-- Texts differ if their beginnings do so at one position. -/
theorem not_eqIgnoringCase_append {front other : String} (n : Nat)
    (h : (front.toList[n]?.map Char.toLower).isSome ∧ (other.toList[n]?.map Char.toLower).isSome ∧
      front.toList[n]?.map Char.toLower ≠ other.toList[n]?.map Char.toLower) (a b : String) :
    ¬EqIgnoringCase (front ++ a) (other ++ b) := by
  obtain ⟨hfront, hother, hne⟩ := h
  have at_position : ∀ {s : String}, (s.toList[n]?.map Char.toLower).isSome → ∀ t : String,
      ((s ++ t).toList.map Char.toLower)[n]? = s.toList[n]?.map Char.toLower := by
    intro s hs t
    rw [Option.isSome_map, isSome_getElem?] at hs
    rw [List.getElem?_map, String.toList_append, List.getElem?_append_left hs]
  intro heq
  have := congrArg (·[n]?) heq
  simp only [at_position hfront, at_position hother] at this
  exact hne this

theorem toUpper_toLower {c : Char} (h : isNameChar c = true) : c.toLower.toUpper = c.toUpper :=
  forall_ascii (p := fun c => isNameChar c = true → c.toLower.toUpper = c.toUpper) (by decide)
    (ascii_of_isNameChar h) h

theorem toUpper_toUpper {c : Char} (h : isNameChar c = true) : c.toUpper.toUpper = c.toUpper :=
  forall_ascii (p := fun c => isNameChar c = true → c.toUpper.toUpper = c.toUpper) (by decide)
    (ascii_of_isNameChar h) h

theorem toLower_toUpper {c : Char} (h : isNameChar c = true) : c.toUpper.toLower = c.toLower :=
  forall_ascii (p := fun c => isNameChar c = true → c.toUpper.toLower = c.toLower) (by decide)
    (ascii_of_isNameChar h) h

theorem toUpper_eq_underscore {c : Char} (h : isNameChar c = true) : c.toUpper = '_' ↔ c = '_' :=
  forall_ascii (p := fun c => isNameChar c = true → (c.toUpper = '_' ↔ c = '_')) (by decide)
    (ascii_of_isNameChar h) h

end Text

namespace Naming

open Text

/-- Letters can be replaced before or after a name is split into words. -/
theorem splitOn_map {f : Char → Char} {cs : List Char} (h : ∀ c ∈ cs, f c = '_' ↔ c = '_') :
    (cs.map f).splitOn '_' = (cs.splitOn '_').map (·.map f) := by
  induction cs with
  | nil => rfl
  | cons c rest ih =>
    obtain ⟨hc, hrest⟩ := List.forall_mem_cons.mp h
    simp only [List.map_cons, List.splitOn_cons_eq_if_modifyHead, ih hrest]
    by_cases hmark : c = '_'
    · subst hmark
      simp [hc.mpr rfl]
    · have hf : f c ≠ '_' := fun he => hmark (hc.mp he)
      cases rest.splitOn '_' <;> simp [hmark, hf]

theorem wordsOf_map {f : Char → Char} {cs : List Char} (h : ∀ c ∈ cs, f c = '_' ↔ c = '_') :
    wordsOf (cs.map f) = (wordsOf cs).map (·.map f) := by
  rw [wordsOf, wordsOf, splitOn_map h, List.filter_map]
  congr 1
  apply List.filter_congr
  intro word _
  simp

theorem upper_eq_of_eqIgnoringCase {a b : String} (ha : ∀ c ∈ a.toList, isNameChar c = true)
    (hb : ∀ c ∈ b.toList, isNameChar c = true) (h : EqIgnoringCase a b) : upper a = upper b := by
  have raised : ∀ {s : String}, (∀ c ∈ s.toList, isNameChar c = true) →
      s.toList.map Char.toUpper = (s.toList.map Char.toLower).map Char.toUpper := by
    intro s hs
    rw [List.map_map]
    exact List.map_congr_left fun c hc => (toUpper_toLower (hs c hc)).symm
  have words : ∀ {s : String}, (∀ c ∈ s.toList, isNameChar c = true) →
      (upper s).toList = ['_'].intercalate (wordsOf (s.toList.map Char.toUpper)) := by
    intro s hs
    rw [upper_toList hs, wordsOf_map fun c hc => toUpper_eq_underscore (hs c hc)]
  rw [← String.toList_inj, words ha, words hb, raised ha, raised hb, h]

end Naming

end StatusFrames
