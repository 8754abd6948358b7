/-
Which labels can be numbered. The document numbers its labels with integers of any size; the layout takes them exactly
when the numbers differ and each fits a byte. That there may be at most 256 labels is no rule of its own, since no more
than 256 numbers fit.
-/
import StatusFrames.Proofs.Layout.Numbering
import Mathlib.Data.Int.Interval

namespace StatusFrames

namespace Document

/-- The numbers that a document gives its labels. -/
def numbers (next : Int) (entries : List EnumValue) : List Int := (labelNumbers next entries).map (·.2)

/-- The number of a label without a value that stands behind the entries. -/
def counterAfter : Int → List EnumValue → Int
  | next, [] => next
  | next, entry :: rest => counterAfter (entry.value.getD next + 1) rest

@[simp] theorem numbers_nil (next : Int) : numbers next [] = [] := rfl

@[simp] theorem numbers_cons (next : Int) (entry : EnumValue) (rest : List EnumValue) :
    numbers next (entry :: rest) = entry.value.getD next :: numbers (entry.value.getD next + 1) rest := rfl

theorem length_numbers (next : Int) (entries : List EnumValue) : (numbers next entries).length = entries.length := by
  induction entries generalizing next with
  | nil => rfl
  | cons entry rest ih => simp [ih]

/-- Behind the last label the counter is one more than its number. -/
theorem counterAfter_eq (next : Int) (entries : List EnumValue) :
    counterAfter next entries = ((numbers next entries).getLast?.map (· + 1)).getD next := by
  induction entries generalizing next with
  | nil => rfl
  | cons entry rest ih =>
    rw [counterAfter, ih, numbers_cons, List.getLast?_cons]
    cases (numbers (entry.value.getD next + 1) rest).getLast? <;> rfl

end Document

namespace Layout

open Document (labelNumbers numbers counterAfter)

variable {taken : List EnumValue} {next : Int} {entries : List Document.EnumValue} {values : List EnumValue}

/-! ## One label -/

/-- The label of an entry. -/
def labelOf (next : Int) (entry : Document.EnumValue) : EnumValue :=
  ⟨entry.name, (entry.value.getD next).toNat.toUInt8, entry.value.isSome⟩

/-- Whether an entry can be numbered behind labels whose numbers are taken. -/
def Fits (taken : List EnumValue) (next : Int) (entry : Document.EnumValue) : Prop :=
  (0 ≤ entry.value.getD next ∧ entry.value.getD next ≤ 255) ∧ ∀ t ∈ taken, t.value ≠ (labelOf next entry).value

theorem toNat_labelOf {entry : Document.EnumValue} (hfits : Fits taken next entry) :
    ((labelOf next entry).value.toNat : Int) = entry.value.getD next :=
  toNat_toUInt8 hfits.1.1 (Int.lt_of_le_of_lt hfits.1.2 (by decide))

theorem numberFrom_cons {entry : Document.EnumValue} (hfits : Fits taken next entry)
    (rest : List Document.EnumValue) :
    numberFrom taken next (entry :: rest) =
      (numberFrom (labelOf next entry :: taken) (entry.value.getD next + 1) rest).map (labelOf next entry :: ·) := by
  obtain ⟨⟨hlow, hhigh⟩, hnew⟩ := hfits
  have free : taken.find? (·.value == (entry.value.getD next).toNat.toUInt8) = none := by
    simp only [List.find?_eq_none, beq_iff_eq]
    exact hnew
  simp only [numberFrom, free, ok_bind]
  rw [if_neg (by omega)]
  show (numberFrom (labelOf next entry :: taken) (entry.value.getD next + 1) rest >>= fun others =>
    pure (labelOf next entry :: others)) = _
  cases numberFrom (labelOf next entry :: taken) (entry.value.getD next + 1) rest <;> rfl

/-- A walk that went through had a fitting label in front. -/
theorem fits_of_numberFrom {entry : Document.EnumValue} {rest : List Document.EnumValue}
    (h : numberFrom taken next (entry :: rest) = .ok values) : Fits taken next entry := by
  simp only [numberFrom, error_bind, refuse_eq_ok] at h
  obtain ⟨hbyte, h⟩ := h
  refine ⟨by omega, ?_⟩
  cases free : taken.find? (·.value == (entry.value.getD next).toNat.toUInt8) with
  | some t => simp [free] at h
  | none =>
    simp only [List.find?_eq_none, beq_iff_eq] at free
    exact free

/-! ## All labels -/

theorem numbers_of_numberFrom (h : numberFrom taken next entries = .ok values) :
    numbers next entries = values.map fun v => (v.value.toNat : Int) := by
  rw [numbers, ← (numberFrom_eq_ok h).1, List.map_map]
  rfl

/-- Numbers that were given out differ and fit a byte. -/
theorem bytes_of_numberFrom (h : numberFrom taken next entries = .ok values) :
    (numbers next entries).Nodup ∧ ∀ n ∈ numbers next entries, 0 ≤ n ∧ n ≤ 255 := by
  obtain ⟨-, -, hdistinct, -⟩ := numberFrom_eq_ok h
  rw [numbers_of_numberFrom h]
  constructor
  · rw [← Function.comp_def (fun b : UInt8 => (b.toNat : Int)) EnumValue.value, ← List.map_map]
    refine hdistinct.map fun a b hab => UInt8.toNat_inj.mp ?_
    exact Int.ofNat_inj.mp hab
  · simp only [List.forall_mem_map]
    intro v _
    have := v.value.toNat_lt
    omega

/-- The walk goes through as long as every number fits a byte, differs from the others and is not taken. -/
theorem numberFrom_ok (hdistinct : (numbers next entries).Nodup)
    (hbytes : ∀ n ∈ numbers next entries, 0 ≤ n ∧ n ≤ 255)
    (hfree : ∀ t ∈ taken, (t.value.toNat : Int) ∉ numbers next entries) :
    ∃ values, numberFrom taken next entries = .ok values := by
  induction entries generalizing taken next with
  | nil => exact ⟨[], rfl⟩
  | cons entry rest ih =>
    rw [Document.numbers_cons] at hdistinct hbytes hfree
    obtain ⟨hother, hdistinct⟩ := List.nodup_cons.mp hdistinct
    obtain ⟨hbyte, hbytes⟩ := List.forall_mem_cons.mp hbytes
    have value := toNat_toUInt8 hbyte.1 (Int.lt_of_le_of_lt hbyte.2 (by decide))
    have fits : Fits taken next entry := by
      refine ⟨hbyte, fun t ht htaken => hfree t ht ?_⟩
      rw [htaken, labelOf, value]
      exact List.mem_cons_self
    have free : ∀ t ∈ labelOf next entry :: taken,
        (t.value.toNat : Int) ∉ numbers (entry.value.getD next + 1) rest := by
      refine List.forall_mem_cons.mpr ⟨?_, fun t ht hmem => hfree t ht (List.mem_cons_of_mem _ hmem)⟩
      rwa [toNat_labelOf fits]
    obtain ⟨others, hothers⟩ := ih hdistinct hbytes free
    exact ⟨labelOf next entry :: others, by rw [numberFrom_cons fits, hothers]; rfl⟩

/-- Behind labels that were numbered, the walk goes on with their numbers taken and with the counter behind them. -/
theorem numberFrom_append (h : numberFrom taken next entries = .ok values) (rest : List Document.EnumValue) :
    numberFrom taken next (entries ++ rest) =
      (numberFrom (values.reverse ++ taken) (counterAfter next entries) rest).map (values ++ ·) := by
  induction entries generalizing taken next values with
  | nil =>
    obtain rfl : [] = values := Except.ok.inj h
    simp only [List.nil_append, List.reverse_nil, counterAfter]
    cases numberFrom taken next rest <;> rfl
  | cons entry entries ih =>
    have fits := fits_of_numberFrom h
    rw [numberFrom_cons fits] at h
    cases hothers : numberFrom (labelOf next entry :: taken) (entry.value.getD next + 1) entries with
    | error e => simp [hothers, Except.map] at h
    | ok others =>
      obtain rfl : labelOf next entry :: others = values := by simpa [hothers, Except.map] using h
      rw [List.cons_append, numberFrom_cons fits, ih hothers, counterAfter, List.reverse_cons, List.append_assoc,
        List.singleton_append]
      cases numberFrom (others.reverse ++ labelOf next entry :: taken) _ rest <;> rfl

/-- A counter behind labels that were numbered is at most one more than the greatest number of a byte. -/
theorem counterAfter_bounds (h : numberFrom [] 0 entries = .ok values) :
    0 ≤ counterAfter 0 entries ∧ counterAfter 0 entries ≤ 256 := by
  obtain ⟨-, hbytes⟩ := bytes_of_numberFrom h
  rw [Document.counterAfter_eq]
  cases hlast : (numbers 0 entries).getLast? with
  | none => decide
  | some n =>
    have := hbytes n (List.mem_of_getLast? hlast)
    simp only [Option.map_some, Option.getD_some]
    omega

/-- A list has no more than 256 distinct numbers of a byte. -/
theorem length_le_of_bytes {ns : List Int} (hdistinct : ns.Nodup) (hbytes : ∀ n ∈ ns, 0 ≤ n ∧ n ≤ 255) :
    ns.length ≤ 256 := by
  have inside : ns.toFinset ⊆ Finset.Icc 0 255 := by
    intro n hn
    exact Finset.mem_Icc.mpr (hbytes n (List.mem_toFinset.mp hn))
  calc ns.length = ns.toFinset.card := (List.toFinset_card_of_nodup hdistinct).symm
    _ ≤ (Finset.Icc (0 : Int) 255).card := Finset.card_le_card inside
    _ = 256 := by rw [Int.card_Icc]; rfl

/-- The limit on the number of labels stops nothing that the walk would let through. -/
theorem numberLabels_eq_ok : numberLabels entries = .ok values ↔ numberFrom [] 0 entries = .ok values := by
  rw [numberLabels, refuse_eq_ok]
  refine ⟨And.right, fun h => ⟨?_, h⟩⟩
  obtain ⟨hdistinct, hbytes⟩ := bytes_of_numberFrom h
  have := length_le_of_bytes hdistinct hbytes
  rw [Document.length_numbers] at this
  exact Nat.not_lt.mpr this

/-- Labels can be numbered exactly when the numbers that the document gives them differ and lie between 0 and 255, however
many labels there are: the limit on their number stops no list that the walk itself lets through. Then there is one label
for each entry, in order, with the name and the number of the entry, marked if the document spells the number out. Behind
any number of labels the counter of the walk is at most 256, far from the end of 64 bits. -/
theorem labels_fit_byte (entries : List Document.EnumValue) :
    ((∃ values, numberLabels entries = .ok values) ↔
      (numbers 0 entries).Nodup ∧ ∀ n ∈ numbers 0 entries, 0 ≤ n ∧ n ≤ 255) ∧
    (∀ values, numberFrom [] 0 entries = .ok values → numberLabels entries = .ok values) ∧
    (∀ values, numberLabels entries = .ok values →
      values.map (fun v => (v.label, (v.value.toNat : Int))) = labelNumbers 0 entries ∧
      values.map (·.explicit) = entries.map (·.value.isSome)) ∧
    ∀ front rest, entries = front ++ rest → ∀ values, numberFrom [] 0 front = .ok values →
      numberFrom [] 0 entries = (numberFrom values.reverse (counterAfter 0 front) rest).map (values ++ ·) ∧
      0 ≤ counterAfter 0 front ∧ counterAfter 0 front ≤ 256 := by
  refine ⟨⟨?_, ?_⟩, fun values => numberLabels_eq_ok.mpr, ?_, ?_⟩
  · rintro ⟨values, h⟩
    exact bytes_of_numberFrom (numberLabels_eq_ok.mp h)
  · rintro ⟨hdistinct, hbytes⟩
    obtain ⟨values, h⟩ : ∃ values, numberFrom [] 0 entries = .ok values := numberFrom_ok hdistinct hbytes (by simp)
    exact ⟨values, numberLabels_eq_ok.mpr h⟩
  · intro values h
    have labels := numbered_of_numberLabels h
    exact ⟨labels.numbers, labels.explicit⟩
  · rintro front rest rfl values h
    have walk := numberFrom_append h rest
    rw [List.append_nil] at walk
    exact ⟨walk, counterAfter_bounds h⟩

/-- A label that counts on can meet a number that was given before. -/
example : numbers 0 [⟨"stall", some 1⟩, ⟨"off", some 0⟩, ⟨"spin", none⟩] = [1, 0, 1] := rfl

end Layout

end StatusFrames
