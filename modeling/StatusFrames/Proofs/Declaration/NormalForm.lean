/-
Trees that print alike. Inside a tree, a group that holds nothing can be left out, and a group without a title that stands
in another one can be replaced by its items. Main statement: each such step keeps the text, all ways to take them to
the end lead to the same tree, and a group or guard has nothing printed in it exactly if it holds only groups that hold
nothing.
-/
import StatusFrames.Proofs.Declaration.Paragraphs
import Mathlib.Logic.Relation

namespace StatusFrames.Declaration

open Relation (ReflTransGen)

/-! ## Groups that hold nothing -/

/-- A group in which there are, to any depth, only groups. -/
inductive EmptyGroup : Declaration → Prop
  | group (title : Option String) {items : List Declaration} (h : ∀ item ∈ items, EmptyGroup item) :
    EmptyGroup (.group title items)

theorem emptyGroup_group {title : Option String} {items : List Declaration} :
    EmptyGroup (.group title items) ↔ ∀ item ∈ items, EmptyGroup item := by
  refine ⟨fun h => ?_, .group title⟩
  cases h with
  | group _ h => exact h

theorem not_emptyGroup_guard (name : String) (body : List Declaration) : ¬EmptyGroup (.guard name body) := by
  intro h
  cases h

mutual

theorem isEmpty_iff : ∀ {d : Declaration}, d.isEmpty = true ↔ EmptyGroup d
  | .group _ _ => allEmpty_iff.trans emptyGroup_group.symm
  | .comment _ | .inclusion .. | .define .. | .enumeration .. | .record .. | .staticAssert .. | .prototype ..
  | .guard .. => ⟨fun h => absurd h Bool.false_ne_true, fun h => by cases h⟩

theorem allEmpty_iff : ∀ {ds : List Declaration}, allEmpty ds = true ↔ ∀ d ∈ ds, EmptyGroup d
  | [] => by simp [allEmpty]
  | item :: rest => by rw [allEmpty, Bool.and_eq_true, isEmpty_iff, allEmpty_iff, List.forall_mem_cons]

end

instance (d : Declaration) : Decidable (EmptyGroup d) := decidable_of_iff _ isEmpty_iff

theorem texts_of_emptyGroup {d : Declaration} (h : EmptyGroup d) : texts [d] = [] := by
  rw [texts_cons, if_pos (isEmpty_iff.mpr h), texts]

theorem texts_of_not_emptyGroup {d : Declaration} (h : ¬EmptyGroup d) : texts [d] = [d.text] := by
  rw [texts_cons, if_neg (mt isEmpty_iff.mp h), texts]

theorem texts_eq_nil_iff {ds : List Declaration} : texts ds = [] ↔ ∀ d ∈ ds, EmptyGroup d := by
  induction ds with
  | nil => simp [texts]
  | cons d rest ih =>
    rw [texts_cons, List.forall_mem_cons, ← isEmpty_iff]
    cases d.isEmpty <;> simp [ih]

/-! ## Texts that are not empty -/

theorem intercalate_eq_empty_iff (separator : String) {ts : List String} (h : ∀ t ∈ ts, t ≠ "") :
    separator.intercalate ts = "" ↔ ts = [] := by
  cases ts with
  | nil => simp
  | cons t rest =>
    have ht : t ≠ "" := h t List.mem_cons_self
    cases rest with
    | nil => simpa using ht
    | cons u more => simp [String.intercalate_cons_cons, ht]

mutual

theorem text_ne_empty : ∀ {d : Declaration}, ¬EmptyGroup d → d.text ≠ ""
  | .group title items, h => by
    have inner : "\n".intercalate (texts items) ≠ "" := by
      rw [ne_eq, intercalate_eq_empty_iff _ ne_empty_of_mem_texts, texts_eq_nil_iff, ← emptyGroup_group]
      exact h
    cases title with
    | none => exact inner
    | some title =>
      change (titled title items).text ≠ ""
      simp [text_titled]
  | .inclusion path system, _ => by cases system <;> simp [text_inclusion]
  | .comment _, _ | .define .., _ | .enumeration .., _ | .record .., _ | .staticAssert .., _ | .prototype .., _
  | .guard .., _ => by
    simp [text_comment, text_define, text_enumeration, text_record, text_staticAssert, text_prototype, text_guarded]

theorem ne_empty_of_mem_texts : ∀ {ds : List Declaration}, ∀ t ∈ texts ds, t ≠ ""
  | item :: rest, t, ht => by
    rw [texts_cons] at ht
    split at ht
    next => exact ne_empty_of_mem_texts t ht
    next hitem =>
      rcases List.mem_cons.mp ht with rfl | ht
      · exact text_ne_empty (mt isEmpty_iff.mpr hitem)
      · exact ne_empty_of_mem_texts t ht

end

/-- Nothing is printed for a list exactly if it has only groups that hold nothing, whatever stands between the texts. -/
theorem intercalate_texts_eq_empty_iff (separator : String) (items : List Declaration) :
    separator.intercalate (texts items) = "" ↔ ∀ item ∈ items, EmptyGroup item := by
  rw [intercalate_eq_empty_iff separator ne_empty_of_mem_texts, texts_eq_nil_iff]

/-! ## Steps -/

/-- One step inside a tree. What stands at the root is never left out or replaced itself. -/
inductive Reduces : Declaration → Declaration → Prop
  /-- A group that holds nothing is left out of another one. -/
  | dropItem (title : Option String) (before after : List Declaration) {d : Declaration} (h : EmptyGroup d) :
    Reduces (.group title (before ++ d :: after)) (.group title (before ++ after))
  /-- A group that holds nothing is left out of a guard. -/
  | dropBlock (name : String) (before after : List Declaration) {d : Declaration} (h : EmptyGroup d) :
    Reduces (.guard name (before ++ d :: after)) (.guard name (before ++ after))
  /-- A group without a title is replaced by its items. -/
  | splice (title : Option String) (before items after : List Declaration) :
    Reduces (.group title (before ++ .group none items :: after)) (.group title (before ++ (items ++ after)))
  | inGroup (title : Option String) (before after : List Declaration) {d e : Declaration} (h : Reduces d e) :
    Reduces (.group title (before ++ d :: after)) (.group title (before ++ e :: after))
  | inGuard (name : String) (before after : List Declaration) {d e : Declaration} (h : Reduces d e) :
    Reduces (.guard name (before ++ d :: after)) (.guard name (before ++ e :: after))

/-- No step can be taken. -/
def Reduced (d : Declaration) : Prop := ∀ e, ¬Reduces d e

theorem Reduces.emptyGroup_iff {d e : Declaration} (h : Reduces d e) : EmptyGroup d ↔ EmptyGroup e := by
  induction h with
  | dropItem title before after h =>
    rw [emptyGroup_group, emptyGroup_group, List.forall_mem_append, List.forall_mem_cons, List.forall_mem_append,
      and_iff_right h]
  | splice title before items after =>
    rw [emptyGroup_group, emptyGroup_group, List.forall_mem_append, List.forall_mem_cons, List.forall_mem_append,
      List.forall_mem_append, emptyGroup_group]
  | inGroup title before after _ ih =>
    rw [emptyGroup_group, emptyGroup_group, List.forall_mem_append, List.forall_mem_cons, List.forall_mem_append,
      List.forall_mem_cons, ih]
  | dropBlock | inGuard => exact iff_of_false (not_emptyGroup_guard _ _) (not_emptyGroup_guard _ _)

/-- Texts that are put together beforehand are put together in the same way. -/
theorem intercalate_splice (separator : String) (before after : List String) {inner : List String} (h : inner ≠ []) :
    separator.intercalate (before ++ separator.intercalate inner :: after) =
      separator.intercalate (before ++ (inner ++ after)) := by
  induction before with
  | nil =>
    cases after with
    | nil => simp
    | cons t rest =>
      rw [List.nil_append, List.nil_append, String.intercalate_cons_cons,
        String.intercalate_append_of_ne_nil h (List.cons_ne_nil _ _)]
  | cons t rest ih =>
    rw [List.cons_append, List.cons_append, String.intercalate_cons_of_ne_nil (by simp),
      String.intercalate_cons_of_ne_nil (by simp [h]), ih]

theorem texts_splice (before items after : List Declaration) :
    "\n".intercalate (texts (before ++ .group none items :: after)) =
      "\n".intercalate (texts (before ++ (items ++ after))) := by
  rw [List.append_cons, texts_append, texts_append, texts_append before, texts_append items, List.append_assoc]
  -- a group that holds nothing is passed over and has no texts; any other is one text, made with the same separator
  by_cases h : EmptyGroup (.group none items)
  · rw [texts_of_emptyGroup h, texts_eq_nil_iff.mpr (emptyGroup_group.mp h)]
  · have hne : texts items ≠ [] := mt texts_eq_nil_iff.mp (mt emptyGroup_group.mpr h)
    rw [texts_of_not_emptyGroup h, List.singleton_append]
    exact intercalate_splice "\n" _ _ hne

/-- A list prints alike if one of its members is replaced by another that prints alike. -/
theorem texts_replace (before after : List Declaration) {d e : Declaration} (hempty : EmptyGroup d ↔ EmptyGroup e)
    (htext : d.text = e.text) : texts (before ++ d :: after) = texts (before ++ e :: after) := by
  have hsame : d.isEmpty = e.isEmpty := Bool.eq_iff_iff.mpr (isEmpty_iff.trans (hempty.trans isEmpty_iff.symm))
  rw [texts_append, texts_append, texts_cons, texts_cons, hsame, htext]

theorem texts_drop (before after : List Declaration) {d : Declaration} (h : EmptyGroup d) :
    texts (before ++ d :: after) = texts (before ++ after) := by
  rw [texts_append, texts_append, texts_cons, if_pos (isEmpty_iff.mpr h)]

theorem text_group_congr (title : Option String) {items others : List Declaration}
    (h : "\n".intercalate (texts items) = "\n".intercalate (texts others)) :
    (group title items).text = (group title others).text := by
  cases title with
  | none => exact h
  | some title =>
    change (titled title items).text = (titled title others).text
    rw [text_titled, text_titled, h]

theorem text_guard_congr (name : String) {body others : List Declaration} (h : texts body = texts others) :
    (guard name body).text = (guard name others).text := by
  rw [text_guarded, text_guarded, h]

/-- A step keeps the text. -/
theorem Reduces.text_eq {d e : Declaration} (h : Reduces d e) : d.text = e.text := by
  induction h with
  | dropItem title before after h => exact text_group_congr title (by rw [texts_drop before after h])
  | dropBlock name before after h => exact text_guard_congr name (texts_drop before after h)
  | splice title before items after => exact text_group_congr title (texts_splice before items after)
  | inGroup title before after h ih =>
    exact text_group_congr title (by rw [texts_replace before after h.emptyGroup_iff ih])
  | inGuard name before after h ih => exact text_guard_congr name (texts_replace before after h.emptyGroup_iff ih)

/-- What every step keeps, all sequences of steps keep. -/
theorem kept_by_steps {α : Type} {f : Declaration → α} (hstep : ∀ d e, Reduces d e → f d = f e) {d e : Declaration}
    (h : ReflTransGen Reduces d e) : f d = f e := by
  induction h with
  | refl => rfl
  | tail _ step ih => exact ih.trans (hstep _ _ step)

/-! ## The normal form -/

/-- What a declaration is replaced by where it stands in a group. -/
def spliced : Declaration → List Declaration
  | .group none items => items
  | d => [d]

mutual

/-- The tree without groups that hold nothing and without untitled groups in groups, the root apart. -/
def normalForm : Declaration → Declaration
  | .group title items => .group title (normalItems items)
  | .guard name body => .guard name (normalBody body)
  | d => d

/-- The items of a group. -/
def normalItems : List Declaration → List Declaration
  | [] => []
  | item :: rest => (if EmptyGroup item then [] else spliced item.normalForm) ++ normalItems rest

/-- The blocks of a guard. -/
def normalBody : List Declaration → List Declaration
  | [] => []
  | item :: rest => (if EmptyGroup item then [] else [item.normalForm]) ++ normalBody rest

end

theorem normalForm_group (title : Option String) (items : List Declaration) :
    (group title items).normalForm = .group title (normalItems items) := rfl

theorem normalForm_guard (name : String) (body : List Declaration) :
    (guard name body).normalForm = .guard name (normalBody body) := rfl

theorem normalItems_cons (item : Declaration) (rest : List Declaration) :
    normalItems (item :: rest) = (if EmptyGroup item then [] else spliced item.normalForm) ++ normalItems rest := rfl

theorem normalBody_cons (item : Declaration) (rest : List Declaration) :
    normalBody (item :: rest) = (if EmptyGroup item then [] else [item.normalForm]) ++ normalBody rest := rfl

theorem normalItems_append (as bs : List Declaration) : normalItems (as ++ bs) = normalItems as ++ normalItems bs := by
  induction as with
  | nil => rfl
  | cons item rest ih => rw [List.cons_append, normalItems_cons, normalItems_cons, ih, List.append_assoc]

theorem normalBody_append (as bs : List Declaration) : normalBody (as ++ bs) = normalBody as ++ normalBody bs := by
  induction as with
  | nil => rfl
  | cons item rest ih => rw [List.cons_append, normalBody_cons, normalBody_cons, ih, List.append_assoc]

theorem normalItems_eq_nil {items : List Declaration} (h : ∀ item ∈ items, EmptyGroup item) :
    normalItems items = [] := by
  induction items with
  | nil => rfl
  | cons item rest ih =>
    obtain ⟨hitem, hrest⟩ := List.forall_mem_cons.mp h
    rw [normalItems_cons, if_pos hitem, ih hrest, List.nil_append]

/-! ## Steps lead to the normal form -/

theorem reduces_inGroup (title : Option String) (before after : List Declaration) {d e : Declaration}
    (h : ReflTransGen Reduces d e) :
    ReflTransGen Reduces (.group title (before ++ d :: after)) (.group title (before ++ e :: after)) :=
  ReflTransGen.lift (fun x => group title (before ++ x :: after)) (fun _ _ => .inGroup title before after) d e h

theorem reduces_inGuard (name : String) (before after : List Declaration) {d e : Declaration}
    (h : ReflTransGen Reduces d e) :
    ReflTransGen Reduces (.guard name (before ++ d :: after)) (.guard name (before ++ e :: after)) :=
  ReflTransGen.lift (fun x => guard name (before ++ x :: after)) (fun _ _ => .inGuard name before after) d e h

theorem reduces_spliced (title : Option String) (before after : List Declaration) (d : Declaration) :
    ReflTransGen Reduces (.group title (before ++ d :: after)) (.group title (before ++ (spliced d ++ after))) := by
  unfold spliced
  split
  next items => exact .single (.splice title before items after)
  next => exact .refl

mutual

theorem reduces_normalForm : ∀ d : Declaration, ReflTransGen Reduces d d.normalForm
  | .group title items => reduces_normalItems title [] items
  | .guard name body => reduces_normalBody name [] body
  | .comment _ | .inclusion .. | .define .. | .enumeration .. | .record .. | .staticAssert .. | .prototype .. => .refl

/-- The items of a group are worked off from the front, behind those that are in their final form. -/
theorem reduces_normalItems : ∀ (title : Option String) (before items : List Declaration),
    ReflTransGen Reduces (.group title (before ++ items)) (.group title (before ++ normalItems items))
  | _, _, [] => .refl
  | title, before, item :: rest => by
    rw [normalItems_cons]
    by_cases h : EmptyGroup item
    · rw [if_pos h]
      exact .head (.dropItem title before rest h) (reduces_normalItems title before rest)
    · have inside := reduces_inGroup title before rest (reduces_normalForm item)
      have behind := reduces_normalItems title (before ++ spliced item.normalForm) rest
      rw [List.append_assoc, List.append_assoc] at behind
      rw [if_neg h]
      exact inside.trans ((reduces_spliced title before rest item.normalForm).trans behind)

theorem reduces_normalBody : ∀ (name : String) (before body : List Declaration),
    ReflTransGen Reduces (.guard name (before ++ body)) (.guard name (before ++ normalBody body))
  | _, _, [] => .refl
  | name, before, item :: rest => by
    rw [normalBody_cons]
    by_cases h : EmptyGroup item
    · rw [if_pos h]
      exact .head (.dropBlock name before rest h) (reduces_normalBody name before rest)
    · have inside := reduces_inGuard name before rest (reduces_normalForm item)
      have behind := reduces_normalBody name (before ++ [item.normalForm]) rest
      rw [List.append_assoc, List.append_assoc, List.singleton_append] at behind
      rw [if_neg h]
      exact inside.trans behind

end

/-! ## No step leads on from there -/

theorem reduced_group_iff {title : Option String} {items : List Declaration} :
    Reduced (.group title items) ↔
      ∀ item ∈ items, ¬EmptyGroup item ∧ (∀ inner, item ≠ .group none inner) ∧ Reduced item := by
  constructor
  · intro h item hitem
    obtain ⟨before, after, rfl⟩ := List.append_of_mem hitem
    refine ⟨fun hempty => h _ (.dropItem title before after hempty), ?_, fun e he => ?_⟩
    · rintro inner rfl
      exact h _ (.splice title before inner after)
    · exact h _ (.inGroup title before after he)
  · intro h e he
    cases he with
    | dropItem _ before after hempty => exact (h _ (List.mem_append_right _ List.mem_cons_self)).1 hempty
    | splice _ before inner after => exact (h _ (List.mem_append_right _ List.mem_cons_self)).2.1 inner rfl
    | inGroup _ before after hstep => exact (h _ (List.mem_append_right _ List.mem_cons_self)).2.2 _ hstep

theorem reduced_guard_iff {name : String} {body : List Declaration} :
    Reduced (.guard name body) ↔ ∀ item ∈ body, ¬EmptyGroup item ∧ Reduced item := by
  constructor
  · intro h item hitem
    obtain ⟨before, after, rfl⟩ := List.append_of_mem hitem
    exact ⟨fun hempty => h _ (.dropBlock name before after hempty), fun e he => h _ (.inGuard name before after he)⟩
  · intro h e he
    cases he with
    | dropBlock _ before after hempty => exact (h _ (List.mem_append_right _ List.mem_cons_self)).1 hempty
    | inGuard _ before after hstep => exact (h _ (List.mem_append_right _ List.mem_cons_self)).2 _ hstep

theorem emptyGroup_normalForm_iff (d : Declaration) : EmptyGroup d.normalForm ↔ EmptyGroup d :=
  (kept_by_steps (fun _ _ step => propext step.emptyGroup_iff) (reduces_normalForm d)).to_iff.symm

theorem reduced_of_mem_spliced {d : Declaration} (hempty : ¬EmptyGroup d) (hreduced : Reduced d) :
    ∀ item ∈ spliced d, ¬EmptyGroup item ∧ (∀ inner, item ≠ .group none inner) ∧ Reduced item := by
  unfold spliced
  split
  next items => exact reduced_group_iff.mp hreduced
  next hother => exact List.forall_mem_singleton.mpr ⟨hempty, hother, hreduced⟩

mutual

theorem reduced_normalForm : ∀ d : Declaration, Reduced d.normalForm
  | .group _ items => reduced_group_iff.mpr (reduced_of_mem_normalItems items)
  | .guard _ body => reduced_guard_iff.mpr (reduced_of_mem_normalBody body)
  | .comment _ | .inclusion .. | .define .. | .enumeration .. | .record .. | .staticAssert .. | .prototype .. =>
    fun _ h => by cases h

theorem reduced_of_mem_normalItems : ∀ items : List Declaration,
    ∀ item ∈ normalItems items, ¬EmptyGroup item ∧ (∀ inner, item ≠ .group none inner) ∧ Reduced item
  | [] => fun _ h => absurd h List.not_mem_nil
  | item :: rest => by
    rw [normalItems_cons]
    refine List.forall_mem_append.mpr ⟨?_, reduced_of_mem_normalItems rest⟩
    split
    next => exact fun _ h => absurd h List.not_mem_nil
    next h => exact reduced_of_mem_spliced (mt (emptyGroup_normalForm_iff item).mp h) (reduced_normalForm item)

theorem reduced_of_mem_normalBody : ∀ body : List Declaration, ∀ item ∈ normalBody body, ¬EmptyGroup item ∧ Reduced item
  | [] => fun _ h => absurd h List.not_mem_nil
  | item :: rest => by
    rw [normalBody_cons]
    refine List.forall_mem_append.mpr ⟨?_, reduced_of_mem_normalBody rest⟩
    split
    next => exact fun _ h => absurd h List.not_mem_nil
    next h =>
      exact List.forall_mem_singleton.mpr ⟨mt (emptyGroup_normalForm_iff item).mp h, reduced_normalForm item⟩

end

theorem eq_of_reduced {d e : Declaration} (hd : Reduced d) (h : ReflTransGen Reduces d e) : d = e := by
  rcases h.cases_head with rfl | ⟨next, step, -⟩
  · rfl
  · exact absurd step (hd next)

/-! ## Every way leads there -/

/-- A step does not change where steps lead in the end. -/
theorem Reduces.normalForm_eq {d e : Declaration} (h : Reduces d e) : d.normalForm = e.normalForm := by
  induction h with
  | dropItem title before after h =>
    rw [normalForm_group, normalForm_group, normalItems_append, normalItems_append, normalItems_cons, if_pos h,
      List.nil_append]
  | dropBlock name before after h =>
    rw [normalForm_guard, normalForm_guard, normalBody_append, normalBody_append, normalBody_cons, if_pos h,
      List.nil_append]
  | splice title before items after =>
    -- whether the inner group is left out or replaced, its normal items are what remains of it
    have same : (if EmptyGroup (.group none items) then [] else normalItems items) = normalItems items := by
      split
      next hempty => rw [normalItems_eq_nil (emptyGroup_group.mp hempty)]
      next => rfl
    rw [normalForm_group, normalForm_group, normalItems_append, normalItems_append, normalItems_append,
      normalItems_cons, normalForm_group, spliced, same]
  | inGroup title before after h ih =>
    simp only [normalForm_group, normalItems_append, normalItems_cons, h.emptyGroup_iff, ih]
  | inGuard name before after h ih =>
    simp only [normalForm_guard, normalBody_append, normalBody_cons, h.emptyGroup_iff, ih]

/-- A tree prints exactly what its normal form prints. The normal form is the one tree that is left when, inside the tree,
every group that holds nothing has been left out and every untitled group in a group replaced by its items, in whatever
order. Between the lines of a group or guard, whatever separates the parts, there is no text exactly if all that stands
there are groups that hold nothing. -/
theorem normalForm_prints_alike (d : Declaration) :
    d.normalForm.text = d.text ∧
    (∀ e, ReflTransGen Reduces d e ∧ Reduced e ↔ e = d.normalForm) ∧
    ∀ (separator : String) (items : List Declaration),
      separator.intercalate (texts items) = "" ↔ ∀ item ∈ items, EmptyGroup item := by
  have htext := kept_by_steps (fun _ _ => Reduces.text_eq) (reduces_normalForm d)
  refine ⟨htext.symm, fun e => ⟨?_, ?_⟩, intercalate_texts_eq_empty_iff⟩
  · rintro ⟨steps, hreduced⟩
    -- no step leads on from `e`, so it is its own normal form, and steps do not change the normal form
    calc e
      _ = e.normalForm := eq_of_reduced hreduced (reduces_normalForm e)
      _ = d.normalForm := (kept_by_steps (fun _ _ => Reduces.normalForm_eq) steps).symm
  · rintro rfl
    exact ⟨reduces_normalForm d, reduced_normalForm d⟩

end StatusFrames.Declaration
