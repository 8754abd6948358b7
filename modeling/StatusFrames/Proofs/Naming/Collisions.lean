/-
The collision that is reported. Symbols are registered one by one, so the table always holds what stands in front of the
symbol at hand, and the first symbol that is there already is the one an error names, with its owner in the table and its
owner in the list.
-/
import StatusFrames.Proofs.Outline.SymbolList

namespace StatusFrames

namespace SymbolTable

variable {t u : SymbolTable} {symbol : String} {owner : Owner} {symbols : List (String × Owner)}

/-! ## The first collision of a list -/

/-- The symbol at a place occurs before it. -/
def Repeats (symbols : List (String × Owner)) (j : Nat) : Prop :=
  ∃ s, symbols[j]? = some s ∧ s.1 ∈ (symbols.take j).map (·.1)

/-- The symbol at the least place where one repeats, with the owner that it has before that place and the one there. -/
def FirstCollision (symbols : List (String × Owner)) (symbol : String) (first second : Owner) : Prop :=
  ∃ j, symbols[j]? = some (symbol, second) ∧ (symbol, first) ∈ symbols.take j ∧ ∀ k < j, ¬Repeats symbols k

/-- In front of the first place where a symbol repeats, and only there, all symbols differ. -/
theorem nodup_take_iff (j : Nat) : ((symbols.take j).map (·.1)).Nodup ↔ ∀ k < j, ¬Repeats symbols k := by
  induction j with
  | zero => simp
  | succ j ih =>
    have split : (∀ k < j + 1, ¬Repeats symbols k) ↔ (∀ k < j, ¬Repeats symbols k) ∧ ¬Repeats symbols j :=
      Nat.forall_lt_succ_right
    rw [split, ← ih, List.take_add_one, List.map_append, List.nodup_append]
    cases hj : symbols[j]? with
    | none => simp [Repeats, hj]
    | some s =>
      simp only [Repeats, hj, Option.toList_some, List.map_singleton, List.nodup_singleton, List.mem_singleton, true_and,
        Option.some.injEq, exists_eq_left', forall_eq]
      exact and_congr_right fun _ => ⟨fun h hmem => h _ hmem rfl, fun h a ha he => h (he ▸ ha)⟩

theorem nodup_iff : (symbols.map (·.1)).Nodup ↔ ∀ j, ¬Repeats symbols j := by
  rw [← List.take_length (l := symbols), nodup_take_iff, List.take_length]
  refine ⟨fun h j => ?_, fun h j _ => h j⟩
  rintro ⟨s, hs, hmem⟩
  exact h j (List.getElem?_eq_some_iff.mp hs).1 ⟨s, hs, hmem⟩

theorem FirstCollision.repeats {first second : Owner} (h : FirstCollision symbols symbol first second) :
    ∃ j, Repeats symbols j := by
  obtain ⟨j, hsecond, hfirst, -⟩ := h
  exact ⟨j, _, hsecond, List.mem_map.mpr ⟨_, hfirst, rfl⟩⟩

/-- A list has at most one first collision. -/
theorem FirstCollision.unique {other : String} {first second first' second' : Owner}
    (h : FirstCollision symbols symbol first second) (h' : FirstCollision symbols other first' second') :
    symbol = other ∧ first = first' ∧ second = second' := by
  obtain ⟨j, hsecond, hfirst, hleast⟩ := h
  obtain ⟨j', hsecond', hfirst', hleast'⟩ := h'
  have place : j = j' := by
    refine Nat.le_antisymm (Nat.not_lt.mp fun hlt => ?_) (Nat.not_lt.mp fun hlt => ?_)
    · exact hleast j' hlt ⟨_, hsecond', List.mem_map.mpr ⟨_, hfirst', rfl⟩⟩
    · exact hleast' j hlt ⟨_, hsecond, List.mem_map.mpr ⟨_, hfirst, rfl⟩⟩
  subst place
  obtain ⟨rfl, rfl⟩ := Prod.mk.inj (Option.some.inj (hsecond.symm.trans hsecond'))
  -- the symbols in front differ, so the earlier owner is the one that a look-up finds
  have front := (nodup_take_iff j).mpr hleast
  exact ⟨rfl, Option.some.inj ((lookup_eq_some front hfirst).symm.trans (lookup_eq_some front hfirst')), rfl⟩

/-! ## What the table says -/

theorem mem_of_owner? (h : t.owner? symbol = some owner) : (symbol, owner) ∈ t.entries := mem_of_lookup h

theorem owner?_of_mem (hdistinct : t.names.Nodup) (h : (symbol, owner) ∈ t.entries) : t.owner? symbol = some owner :=
  lookup_eq_some hdistinct h

/-- Behind symbols that were registered, the error is about the first collision of the whole list. -/
theorem firstCollision_of_registerAll (front : List (String × Owner)) {rest : List (String × Owner)} {e : CompileError}
    (hfront : (front.map (·.1)).Nodup) (h : (⟨front.reverse⟩ : SymbolTable).registerAll rest = .error e) :
    ∃ symbol first second, FirstCollision (front ++ rest) symbol first second ∧
      e = .nameCollision symbol first second := by
  induction rest generalizing front with
  | nil => cases h
  | cons s rest ih =>
    obtain ⟨symbol, second⟩ := s
    rw [registerAll_cons] at h
    rcases bind_eq_error.mp h with h | ⟨u, hu, h⟩
    · obtain ⟨first, howner, rfl⟩ := register_eq_error.mp h
      refine ⟨symbol, first, second, ⟨front.length, by simp, ?_, ?_⟩, rfl⟩
      · rw [List.take_left]
        exact List.mem_reverse.mp (mem_of_owner? howner)
      · rw [← nodup_take_iff, List.take_left]
        exact hfront
    · obtain ⟨hnew, rfl⟩ := register_eq_ok.mp hu
      rw [names, List.map_reverse, List.mem_reverse] at hnew
      have longer : ((front ++ [(symbol, second)]).map (·.1)).Nodup := by
        rw [List.map_append, List.nodup_append]
        refine ⟨hfront, List.nodup_singleton _, fun a ha b hb hab => ?_⟩
        rw [hab, List.mem_singleton.mp hb] at ha
        exact hnew ha
      have result := ih _ longer (by rwa [List.reverse_append, List.reverse_singleton, List.singleton_append])
      rwa [List.append_assoc, List.singleton_append] at result

/-- Registering fails for the first collision, if there is one, and for nothing else. -/
theorem registerAll_eq_error_iff {e : CompileError} :
    ({} : SymbolTable).registerAll symbols = .error e ↔
      ∃ symbol first second, FirstCollision symbols symbol first second ∧ e = .nameCollision symbol first second := by
  constructor
  · exact fun h => firstCollision_of_registerAll [] List.nodup_nil h
  · rintro ⟨symbol, first, second, hfirst, rfl⟩
    cases h : ({} : SymbolTable).registerAll symbols with
    | ok t =>
      obtain ⟨j, hj⟩ := hfirst.repeats
      exact absurd hj (nodup_iff.mp (registerAll_eq_ok.mp h).1 j)
    | error e =>
      obtain ⟨other, first', second', hother, rfl⟩ := firstCollision_of_registerAll [] List.nodup_nil h
      obtain ⟨rfl, rfl, rfl⟩ := hfirst.unique hother
      rfl

/-! ## Calls on one table -/

/-- The table behind a call, whether or not the call succeeds. -/
def afterCall (t : SymbolTable) (call : String × Owner) : SymbolTable := ((SymbolM.register call.1 call.2).run.run t).2

/-- The table behind calls, each on the table that the one before it left. -/
def afterCalls (t : SymbolTable) (calls : List (String × Owner)) : SymbolTable := calls.foldl afterCall t

theorem afterCalls_concat (t : SymbolTable) (calls : List (String × Owner)) (call : String × Owner) :
    t.afterCalls (calls ++ [call]) = (t.afterCalls calls).afterCall call :=
  List.foldl_concat ..

/-- A call that fails leaves the table as it is. -/
theorem eq_of_run_register_error {e : CompileError}
    (h : (SymbolM.register symbol owner).run.run t = (.error e, u)) : u = t := by
  cases howner : t.owner? symbol with
  | none =>
    rw [run_register_new howner] at h
    cases h
  | some first =>
    rw [run_register_taken howner] at h
    exact (Prod.mk.inj h).2.symm

/-- A call stores an owner for its symbol if there is none, and changes nothing else. -/
theorem owner?_afterCall (t : SymbolTable) (call : String × Owner) (symbol : String) :
    (t.afterCall call).owner? symbol = (t.owner? symbol).or ([call].lookup symbol) := by
  obtain ⟨name, owner⟩ := call
  rw [afterCall]
  cases howner : t.owner? name with
  | some first =>
    rw [run_register_taken howner]
    by_cases hs : symbol = name
    · rw [hs, howner, Option.some_or]
    · rw [List.lookup_cons, beq_false_of_ne hs, List.lookup_nil, Option.or_none]
  | none =>
    rw [run_register_new howner]
    show ((name, owner) :: t.entries).lookup symbol = _
    by_cases hs : symbol = name
    · rw [hs, howner, Option.none_or, List.lookup_cons_self, List.lookup_cons_self]
    · rw [List.lookup_cons, List.lookup_cons, beq_false_of_ne hs, List.lookup_nil, Option.or_none]
      rfl

/-- Every symbol has the owner that was stored first, in the table to begin with or by the first call for it. -/
theorem owner?_afterCalls (t : SymbolTable) (calls : List (String × Owner)) (symbol : String) :
    (t.afterCalls calls).owner? symbol = (t.owner? symbol).or (calls.lookup symbol) := by
  induction calls generalizing t with
  | nil => exact (Option.or_none).symm
  | cons call rest ih =>
    have next := ih (t.afterCall call)
    rw [owner?_afterCall, Option.or_assoc, ← List.lookup_append, List.singleton_append] at next
    exact next

end SymbolTable

open SymbolTable in
/-- The table of an outline knows every symbol of it by its owner, and no others. -/
theorem Outline.owner?_of_symbolTable {o : Outline} {t : SymbolTable} {symbol : String} {owner : Owner}
    (h : o.symbolTable = .ok t) :
    t.owner? symbol = some owner ↔ (symbol, owner) ∈ o.symbols := by
  obtain ⟨hdistinct, rfl⟩ := Outline.symbolTable_eq_ok.mp h
  constructor
  · exact fun howner => List.mem_reverse.mp (mem_of_owner? howner)
  · refine fun hmem => owner?_of_mem ?_ (List.mem_reverse.mpr hmem)
    rw [names, List.map_reverse]
    exact List.nodup_reverse.mpr hdistinct

open SymbolTable in
/-- The symbols of an outline are registered in the order of a list. They get a table exactly when they all differ. It has
one entry for each of them and knows each by its owner. Otherwise the error is about the symbol at the least place where
one repeats; it names the owner that asked for the symbol before and the one that asks for it there. On whatever table and
after whatever calls, a call that fails leaves the table as it is, and no call puts another owner in the place of one that
is stored. -/
theorem Outline.first_collision_reported (o : Outline) :
    o.registerSymbols = SymbolM.registerAll o.symbols ∧
    ((∃ t, o.symbolTable = .ok t) ↔ (o.symbols.map (·.1)).Nodup) ∧
    (∀ t, o.symbolTable = .ok t →
      t.size = o.symbols.length ∧ ∀ symbol owner, t.owner? symbol = some owner ↔ (symbol, owner) ∈ o.symbols) ∧
    (∀ e, o.symbolTable = .error e ↔
      ∃ symbol first second, FirstCollision o.symbols symbol first second ∧ e = .nameCollision symbol first second ∧
        e.message = "symbol '" ++ symbol ++ "' is produced by both " ++ first.text ++ " and " ++ second.text) ∧
    ∀ (t : SymbolTable) (calls : List (String × Owner)) (symbol : String),
      (∀ owner result u, (SymbolM.register symbol owner).run.run (t.afterCalls calls) = (result, u) →
        t.afterCalls (calls ++ [(symbol, owner)]) = u) ∧
      (∀ owner e u, (SymbolM.register symbol owner).run.run (t.afterCalls calls) = (.error e, u) →
        u = t.afterCalls calls) ∧
      (∀ owner, t.owner? symbol = some owner → (t.afterCalls calls).owner? symbol = some owner) ∧
      (t.owner? symbol = none → (t.afterCalls calls).owner? symbol = calls.lookup symbol) := by
  refine ⟨o.registerSymbols_eq, ⟨?_, ?_⟩, ?_, ?_, ?_⟩
  · rintro ⟨t, h⟩
    exact (symbolTable_eq_ok.mp h).1
  · exact fun h => ⟨_, symbolTable_eq_ok.mpr ⟨h, rfl⟩⟩
  · intro t h
    refine ⟨?_, fun symbol owner => owner?_of_symbolTable h⟩
    obtain ⟨-, rfl⟩ := symbolTable_eq_ok.mp h
    exact List.length_reverse
  · intro e
    rw [symbolTable_eq, registerAll_eq_error_iff]
    constructor
    · rintro ⟨symbol, first, second, h, rfl⟩
      exact ⟨symbol, first, second, h, rfl, rfl⟩
    · rintro ⟨symbol, first, second, h, he, -⟩
      exact ⟨symbol, first, second, h, he⟩
  · intro t calls symbol
    rw [owner?_afterCalls]
    refine ⟨fun owner result u h => ?_, fun owner e u h => eq_of_run_register_error h, fun owner h => ?_, fun h => ?_⟩
    · rw [afterCalls_concat, afterCall, h]
    · rw [h, Option.some_or]
    · rw [h, Option.none_or]

end StatusFrames
