/-
What readers return. A reader may fail and counts the aliases it follows; neither matters for the shape of its result,
so a property of results passes through every way in which readers are put together.
-/
import StatusFrames.Yaml.Binding
import StatusFrames.Proofs.Steps

namespace StatusFrames.Yaml

variable {α β σ : Type} {P : α → Prop} {Q : β → Prop}

/-- Whatever the reader returns has the property. -/
def Ensures (reader : Reader α) (P : α → Prop) : Prop :=
  ∀ followed result, reader followed = .ok result → P result.1

theorem ensures_pure {a : α} (h : P a) : Ensures (pure a) P := by
  rintro followed result heq
  cases heq
  exact h

theorem ensures_fault (f : Fault) : Ensures (fault f : Reader α) P := by
  rintro followed result heq
  cases heq

theorem ensures_true (reader : Reader α) : Ensures reader fun _ => True := fun _ _ _ => trivial

theorem ensures_bind {reader : Reader α} {next : α → Reader β} (h : Ensures reader P)
    (hnext : ∀ a, P a → Ensures (next a) Q) : Ensures (reader >>= next) Q := by
  intro followed result heq
  obtain ⟨⟨a, later⟩, ha, hb⟩ := bind_eq_ok.mp heq
  exact hnext a (h followed _ ha) later result hb

/-- The first reader only leads to the second. -/
theorem ensures_after {reader : Reader α} {next : α → Reader β} (hnext : ∀ a, Ensures (next a) Q) :
    Ensures (reader >>= next) Q :=
  ensures_bind (ensures_true reader) fun a _ => hnext a

theorem ensures_map {reader : Reader α} {f : α → β} (h : Ensures reader P) (hf : ∀ a, P a → Q (f a)) :
    Ensures (f <$> reader) Q := by
  rw [map_eq_pure_bind]
  exact ensures_bind h fun a ha => ensures_pure (hf a ha)

theorem ensures_located {ctx : Context} {reader : Reader α} (h : Ensures reader P) :
    Ensures (located ctx reader) P := by
  intro followed result heq
  unfold located at heq
  cases hr : reader followed with
  | error e => simp [hr] at heq
  | ok r =>
    have same : r = result := by simpa [hr] using heq
    exact same ▸ h followed r hr

/-! ## Collections -/

section

variable {read : Context → Node → Reader α} (h : ∀ ctx node, Ensures (read ctx node) P)

include h

theorem ensures_readOptional (ctx : Context) (node : Node) :
    Ensures (readOptional read ctx node) fun result => ∀ a ∈ result, P a := by
  have present : ∀ ctx node, Ensures (some <$> read ctx node) fun result => ∀ a ∈ result, P a := fun ctx node =>
    ensures_map (h ctx node) fun a ha b hb => Option.mem_some.mp hb ▸ ha
  have absent : Ensures (pure none : Reader (Option α)) fun result => ∀ a ∈ result, P a :=
    ensures_pure (by simp)
  unfold readOptional
  refine ensures_after fun (ctx, node) => ?_
  dsimp only
  split
  · split
    · exact absent
    · exact present _ _
  · split
    · exact present _ _
    · split
      · exact absent
      · exact ensures_fault _
  · exact ensures_fault _
  · exact present _ _

theorem ensures_readItems (ctx : Context) (index : Nat) (items : List Node) :
    Ensures (readItems read ctx index items) fun result => ∀ a ∈ result, P a := by
  induction items generalizing index with
  | nil => exact ensures_pure (by simp)
  | cons node rest ih =>
    exact ensures_bind (h _ node) fun a ha => ensures_bind (ih (index + 1)) fun as has =>
      ensures_pure (List.forall_mem_cons.mpr ⟨ha, has⟩)

theorem ensures_readList (ctx : Context) (node : Node) :
    Ensures (readList read ctx node) fun result => ∀ a ∈ result, P a := by
  unfold readList
  refine ensures_after fun (ctx, node) => ensures_located ?_
  split
  · exact ensures_after fun ctx => ensures_readItems h ctx 0 _
  · split
    · exact ensures_pure (by simp)
    · exact ensures_fault _
  · exact ensures_fault _

end

/-! ## Records -/

section

variable {keys : List Key} {set : σ → String → Context → Node → Reader σ} {I : σ → Prop}
  (hset : ∀ draft key ctx node, I draft → Ensures (set draft key ctx node) I)

include hset

/-- An invariant of drafts holds once all entries are read. -/
theorem ensures_readEntriesInto (ctx : Context) (entries : List (Node × Node)) (seen : List String) {draft : σ}
    (hdraft : I draft) : Ensures (readEntriesInto keys set ctx entries seen draft) I := by
  induction entries generalizing seen draft with
  | nil => exact ensures_pure hdraft
  | cons entry rest ih =>
    obtain ⟨keyNode, value⟩ := entry
    unfold readEntriesInto
    refine ensures_after fun (name, step) => ?_
    dsimp only
    split
    · exact ensures_fault _
    · split
      · exact ensures_fault _
      · exact ensures_bind (hset _ _ _ _ hdraft) fun draft hdraft => ih _ hdraft

theorem ensures_readRecord (expected : String) {start : σ} {finish : σ → Except Fault α} (hstart : I start)
    (hfinish : ∀ draft a, I draft → finish draft = .ok a → P a) (ctx : Context) (node : Node) :
    Ensures (readRecord expected keys start set finish ctx node) P := by
  unfold readRecord
  refine ensures_after fun (ctx, node) => ensures_located ?_
  dsimp only
  split
  case' h_1 => refine ensures_after fun ctx => ensures_bind (ensures_readEntriesInto hset ctx _ [] hstart) ?_
  case' h_2 =>
    split
    case' isTrue => refine ensures_bind (ensures_pure hstart) ?_
    case' isFalse => refine ensures_bind (P := I) (ensures_fault _) ?_
  case' h_3 => refine ensures_bind (P := I) (ensures_fault _) ?_
  -- however the draft came about, the last step is the same
  all_goals
    intro draft hdraft
    cases hf : finish draft with
    | ok a => exact ensures_pure (hfinish draft a hdraft hf)
    | error f => exact ensures_fault f

end

theorem ensures_readDocument {read : Context → Node → Reader α} (h : ∀ ctx node, Ensures (read ctx node) P)
    {text : String} {a : α} (hread : readDocument read text = .ok a) : P a := by
  unfold readDocument at hread
  dsimp only at hread
  split at hread
  · cases hread
  next result followed hrun =>
    split at hread
    · cases hread
      exact h _ _ _ _ hrun
    · cases hread

end StatusFrames.Yaml
