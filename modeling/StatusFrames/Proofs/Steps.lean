/-
Chains of steps of which each may fail: what a chain that succeeded says about its steps.
-/
import Mathlib.Data.List.Forall2

namespace StatusFrames

theorem bind_eq_ok {ε α β : Type} {x : Except ε α} {f : α → Except ε β} {b : β} :
    (x >>= f) = .ok b ↔ ∃ a, x = .ok a ∧ f a = .ok b := by
  cases x with
  | error e => simp [bind, Except.bind]
  | ok a => simp [bind, Except.bind]

/-- A step that is taken only for its failures. -/
theorem then_eq_ok {ε β : Type} {x : Except ε Unit} {f : Unit → Except ε β} {b : β} :
    (x >>= f) = .ok b ↔ x = .ok () ∧ f () = .ok b :=
  bind_eq_ok.trans ⟨fun ⟨(), h⟩ => h, fun h => ⟨(), h⟩⟩

theorem pure_eq_ok {ε α : Type} {a b : α} : (pure a : Except ε α) = .ok b ↔ a = b := by
  simp [pure, Except.pure]

theorem ok_of_isOk {ε α : Type} {x : Except ε α} (h : x.isOk = true) : ∃ a, x = .ok a := by
  cases x with
  | error e => cases h
  | ok a => exact ⟨a, rfl⟩

@[simp] theorem ok_bind {ε α β : Type} (a : α) (f : α → Except ε β) : (Except.ok a >>= f) = f a := rfl

@[simp] theorem error_bind {ε α β : Type} (e : ε) (f : α → Except ε β) : (Except.error e >>= f) = .error e := rfl

theorem refuse_eq_ok {ε α : Type} {c : Prop} [Decidable c] {e : ε} {x : Except ε α} {a : α} :
    (if c then .error e else x) = .ok a ↔ ¬c ∧ x = .ok a := by
  by_cases h : c <;> simp [h]

theorem mapError_eq_ok {ε δ α : Type} {x : Except ε α} {f : ε → δ} {a : α} :
    x.mapError f = .ok a ↔ x = .ok a := by
  cases x with
  | error e => simp [Except.mapError]
  | ok b => simp [Except.mapError]

theorem bind_eq_error {ε α β : Type} {x : Except ε α} {f : α → Except ε β} {e : ε} :
    (x >>= f) = .error e ↔ x = .error e ∨ ∃ a, x = .ok a ∧ f a = .error e := by
  cases x with
  | error e' => simp [bind, Except.bind]
  | ok a => simp [bind, Except.bind]

theorem mapError_eq_error {ε δ α : Type} {x : Except ε α} {f : ε → δ} {e : δ} :
    x.mapError f = .error e ↔ ∃ cause, x = .error cause ∧ f cause = e := by
  cases x with
  | error e' => simp [Except.mapError]
  | ok a => simp [Except.mapError]

/-- A step for each item succeeds exactly when it does so for every item, and the results stand in the order of the
items. -/
theorem mapM_eq_ok {ε α β : Type} {f : α → Except ε β} {as : List α} {bs : List β} :
    as.mapM f = .ok bs ↔ List.Forall₂ (fun a b => f a = .ok b) as bs := by
  induction as generalizing bs with
  | nil => rw [List.mapM_nil, pure_eq_ok, List.forall₂_nil_left_iff, eq_comm]
  | cons a as ih =>
    simp only [List.mapM_cons, bind_eq_ok, pure_eq_ok, List.forall₂_cons_left_iff]
    constructor
    · rintro ⟨b, hb, bs', hbs, rfl⟩
      exact ⟨b, bs', hb, ih.mp hbs, rfl⟩
    · rintro ⟨b, bs', hb, hbs, rfl⟩
      exact ⟨b, hb, bs', ih.mpr hbs, rfl⟩

/-- Where a step for each item fails, it fails for one of them. -/
theorem exists_of_mapM_eq_error {ε α β : Type} {f : α → Except ε β} {as : List α} {e : ε}
    (h : as.mapM f = .error e) : ∃ a ∈ as, f a = .error e := by
  induction as with
  | nil => cases h
  | cons a rest ih =>
    rw [List.mapM_cons, bind_eq_error] at h
    rcases h with h | ⟨b, -, h⟩
    · exact ⟨a, List.mem_cons_self, h⟩
    · obtain h | ⟨bs, -, h⟩ := bind_eq_error.mp h
      · obtain ⟨x, hx, he⟩ := ih h
        exact ⟨x, List.mem_cons_of_mem _ hx, he⟩
      · cases h

/-- What is done with every result can be done at the end. -/
theorem mapM_map {ε α β γ : Type} (f : α → Except ε β) (g : β → γ) (as : List α) :
    as.mapM (fun a => g <$> f a) = List.map g <$> as.mapM f := by
  induction as with
  | nil => rfl
  | cons a rest ih => simp only [List.mapM_cons, ih, bind_map_left, map_bind, map_pure, List.map_cons]

/-! ## Steps that change a state, also where they fail -/

theorem run_bind {σ ε α β : Type} (m : ExceptT ε (StateM σ) α) (f : α → ExceptT ε (StateM σ) β) (s : σ) :
    (m >>= f).run.run s =
      match m.run.run s with
      | (.ok a, s') => (f a).run.run s'
      | (.error e, s') => (.error e, s') := by
  rw [ExceptT.run_bind, StateT.run_bind]
  rcases m.run.run s with ⟨_ | a, s'⟩ <;> rfl

theorem run_get {σ ε α : Type} (f : σ → ExceptT ε (StateM σ) α) (s : σ) :
    (get >>= f).run.run s = (f s).run.run s := rfl

/-- A chain ends where its first step fails, or where the second ends after it. -/
theorem run_bind_eq {σ ε α β : Type} {m : ExceptT ε (StateM σ) α} {f : α → ExceptT ε (StateM σ) β} {s t : σ}
    {r : Except ε β} :
    (m >>= f).run.run s = (r, t) ↔
      (∃ e, m.run.run s = (.error e, t) ∧ r = .error e) ∨
        ∃ a s', m.run.run s = (.ok a, s') ∧ (f a).run.run s' = (r, t) := by
  rw [run_bind]
  rcases m.run.run s with ⟨e | a, s'⟩
  · constructor
    · intro h
      cases h
      exact .inl ⟨e, rfl, rfl⟩
    · rintro (⟨e', h, rfl⟩ | ⟨a, s'', h, -⟩)
      · cases h
        rfl
      · cases h
  · constructor
    · intro h
      exact .inr ⟨a, s', rfl, h⟩
    · rintro (⟨e', h, -⟩ | ⟨a', s'', h, hf⟩)
      · cases h
      · cases h
        exact hf

theorem forM_flatMap {m : Type → Type} [Monad m] [LawfulMonad m] {α β : Type} (f : α → List β) (g : β → m Unit)
    (xs : List α) : forM (xs.flatMap f) g = forM xs fun a => forM (f a) g := by
  induction xs with
  | nil => rfl
  | cons a rest ih => rw [List.flatMap_cons, List.forM_append, List.forM_cons, ih]

/-! ## Lists that match item by item -/

theorem forall₂_map_eq {α β γ : Type} {R : α → β → Prop} {f : α → γ} {g : β → γ} {as : List α} {bs : List β}
    (h : List.Forall₂ R as bs) (hfg : ∀ a b, R a b → g b = f a) : bs.map g = as.map f := by
  induction h with
  | nil => rfl
  | cons hab _ ih => rw [List.map_cons, List.map_cons, hfg _ _ hab, ih]

theorem forall₂_flatMap {α β γ : Type} {R : β → γ → Prop} {f : α → List β} {g : α → List γ} {xs : List α}
    (h : ∀ a ∈ xs, List.Forall₂ R (f a) (g a)) : List.Forall₂ R (xs.flatMap f) (xs.flatMap g) := by
  induction xs with
  | nil => exact .nil
  | cons a rest ih =>
    rw [List.flatMap_cons, List.flatMap_cons]
    exact List.rel_append (h a (by simp)) (ih fun b hb => h b (by simp [hb]))

theorem forall₂_mem_right {α β : Type} {R : α → β → Prop} {as : List α} {bs : List β} (h : List.Forall₂ R as bs)
    {b : β} (hb : b ∈ bs) : ∃ a ∈ as, R a b := by
  induction h with
  | nil => cases hb
  | cons hab _ ih =>
    rcases List.mem_cons.mp hb with rfl | hb
    · exact ⟨_, by simp, hab⟩
    · obtain ⟨a, ha, hr⟩ := ih hb
      exact ⟨a, by simp [ha], hr⟩

theorem forall₂_mem_left {α β : Type} {R : α → β → Prop} {as : List α} {bs : List β} (h : List.Forall₂ R as bs)
    {a : α} (ha : a ∈ as) : ∃ b ∈ bs, R a b :=
  forall₂_mem_right h.flip ha

theorem forall₂_forall_iff {α β : Type} {R : α → β → Prop} {as : List α} {bs : List β} (h : List.Forall₂ R as bs)
    {P : α → Prop} {Q : β → Prop} (hPQ : ∀ a ∈ as, ∀ b, R a b → (Q b ↔ P a)) : (∀ b ∈ bs, Q b) ↔ ∀ a ∈ as, P a := by
  constructor
  · intro hall a ha
    obtain ⟨b, hb, hab⟩ := forall₂_mem_left h ha
    exact (hPQ a ha b hab).mp (hall b hb)
  · intro hall b hb
    obtain ⟨a, ha, hab⟩ := forall₂_mem_right h hb
    exact (hPQ a ha b hab).mpr (hall a ha)

theorem forall₂_getElem? {α β : Type} {R : α → β → Prop} {as : List α} {bs : List β} (h : List.Forall₂ R as bs)
    {i : Nat} {a : α} (ha : as[i]? = some a) : ∃ b, bs[i]? = some b ∧ R a b := by
  induction h generalizing i with
  | nil => cases ha
  | @cons a' b as bs hab _ ih =>
    cases i with
    | zero =>
      obtain rfl : a' = a := Option.some.inj ha
      exact ⟨b, rfl, hab⟩
    | succ i => exact ih ha

theorem forall₂_of_sublist {α β : Type} {R : α → β → Prop} {as bs : List α} {cs : List β} (hs : as.Sublist bs)
    (h : List.Forall₂ R bs cs) : ∃ ds, ds.Sublist cs ∧ List.Forall₂ R as ds := by
  induction hs generalizing cs with
  | slnil => exact ⟨[], List.nil_sublist cs, .nil⟩
  | cons b _ ih =>
    cases h with
    | cons hb hrest =>
      obtain ⟨ds, hsub, hmatch⟩ := ih hrest
      exact ⟨ds, hsub.cons _, hmatch⟩
  | cons_cons b _ ih =>
    cases h with
    | cons hb hrest =>
      obtain ⟨ds, hsub, hmatch⟩ := ih hrest
      exact ⟨_ :: ds, hsub.cons_cons _, .cons hb hmatch⟩

theorem mem_of_lookup {κ α : Type} [BEq κ] [LawfulBEq κ] {entries : List (κ × α)} {name : κ} {a : α}
    (h : entries.lookup name = some a) : (name, a) ∈ entries := by
  obtain ⟨before, after, rfl, -⟩ := List.lookup_eq_some_iff.mp h
  exact List.mem_append_right _ List.mem_cons_self

theorem lookup_eq_some {κ α : Type} [BEq κ] [LawfulBEq κ] {entries : List (κ × α)} (h : (entries.map (·.1)).Nodup)
    {name : κ} {a : α} (hmem : (name, a) ∈ entries) : entries.lookup name = some a := by
  induction entries with
  | nil => cases hmem
  | cons e rest ih =>
    obtain ⟨hfresh, hrest⟩ := List.nodup_cons.mp h
    rcases List.mem_cons.mp hmem with rfl | hmem
    · simp
    · have hne : name ≠ e.1 := by
        rintro rfl
        exact hfresh (List.mem_map.mpr ⟨_, hmem, rfl⟩)
      rw [List.lookup_cons, beq_false_of_ne hne]
      exact ih hrest hmem

end StatusFrames
