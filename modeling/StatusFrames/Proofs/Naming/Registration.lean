/-
Registering symbols: a table takes a list of symbols exactly when none of them is there yet and no two are equal, and
then it has grown by all of them.
-/
import StatusFrames.Naming.SymbolTable
import StatusFrames.Proofs.Steps
import Mathlib.Data.List.Nodup

namespace StatusFrames

/-- Adds symbols in order, up to the first that is there already. -/
def SymbolM.registerAll (symbols : List (String × Owner)) : SymbolM Unit := forM symbols fun s => register s.1 s.2

namespace SymbolTable

variable {t u : SymbolTable}

/-- The symbols of a table, newest first. -/
def names (t : SymbolTable) : List String := t.entries.map (·.1)

theorem owner?_eq_none {symbol : String} : t.owner? symbol = none ↔ symbol ∉ t.names := by
  simp only [owner?, names, List.lookup_eq_none_iff, bne_iff_ne, List.mem_map, not_exists, not_and]
  exact ⟨fun h p hp he => h p hp he.symm, fun h p hp he => h p hp he.symm⟩

/-! ## One symbol -/

/-- A call for a symbol that is there fails and leaves the table as it is. -/
theorem run_register_taken {symbol : String} {first : Owner} (h : t.owner? symbol = some first) (owner : Owner) :
    (SymbolM.register symbol owner).run.run t = (.error (.nameCollision symbol first owner), t) := by
  rw [SymbolM.register, run_get, h]
  rfl

theorem run_register_new {symbol : String} (h : t.owner? symbol = none) (owner : Owner) :
    (SymbolM.register symbol owner).run.run t = (.ok (), ⟨(symbol, owner) :: t.entries⟩) := by
  rw [SymbolM.register, run_get, h]
  rfl

theorem register_taken {symbol : String} {first : Owner} (h : t.owner? symbol = some first) (owner : Owner) :
    t.register symbol owner = .error (.nameCollision symbol first owner) := by
  rw [register, after, run_register_taken h]
  rfl

theorem register_new {symbol : String} (h : t.owner? symbol = none) (owner : Owner) :
    t.register symbol owner = .ok ⟨(symbol, owner) :: t.entries⟩ := by
  rw [register, after, run_register_new h]
  rfl

theorem register_eq_ok {symbol : String} {owner : Owner} :
    t.register symbol owner = .ok u ↔ symbol ∉ t.names ∧ ⟨(symbol, owner) :: t.entries⟩ = u := by
  rw [← owner?_eq_none]
  cases h : t.owner? symbol with
  | some first => simp [register_taken h]
  | none => simp [register_new h]

theorem register_eq_error {symbol : String} {owner : Owner} {e : CompileError} :
    t.register symbol owner = .error e ↔
      ∃ first, t.owner? symbol = some first ∧ e = .nameCollision symbol first owner := by
  cases h : t.owner? symbol with
  | none => simp [register_new h]
  | some first => simp [register_taken h, eq_comm]

/-! ## Lists of symbols -/

/-- The table behind one operation is the one that the next starts from. -/
theorem after_bind (t : SymbolTable) (x y : SymbolM Unit) : t.after (x >>= fun _ => y) = t.after x >>= (·.after y) := by
  rw [after, after, run_bind]
  rcases x.run.run t with ⟨e | ⟨⟩, u⟩ <;> rfl

/-- The table with symbols added in order, up to the first that is there already. -/
def registerAll (t : SymbolTable) (symbols : List (String × Owner)) : Except CompileError SymbolTable :=
  t.after (SymbolM.registerAll symbols)

theorem registerAll_nil (t : SymbolTable) : t.registerAll [] = .ok t := rfl

theorem registerAll_cons {symbol : String} {owner : Owner} {rest : List (String × Owner)} :
    t.registerAll ((symbol, owner) :: rest) = t.register symbol owner >>= (·.registerAll rest) := by
  rw [registerAll, SymbolM.registerAll, List.forM_cons, after_bind]
  rfl

theorem registerAll_eq_ok {symbols : List (String × Owner)} :
    t.registerAll symbols = .ok u ↔
      (symbols.map (·.1)).Nodup ∧ (∀ s ∈ symbols, s.1 ∉ t.names) ∧ ⟨symbols.reverse ++ t.entries⟩ = u := by
  induction symbols generalizing t with
  | nil => simp [registerAll_nil]
  | cons s rest ih =>
    obtain ⟨symbol, owner⟩ := s
    rw [registerAll_cons, bind_eq_ok]
    simp only [register_eq_ok, List.map_cons, List.nodup_cons, List.forall_mem_cons, List.reverse_cons,
      List.append_assoc, List.singleton_append]
    constructor
    · rintro ⟨_, ⟨hnew, rfl⟩, hrest⟩
      obtain ⟨hnodup, hfresh, rfl⟩ := ih.mp hrest
      simp only [names, List.map_cons, List.mem_cons, not_or] at hfresh
      refine ⟨⟨fun hmem => ?_, hnodup⟩, ⟨hnew, fun s hs => (hfresh s hs).2⟩, rfl⟩
      obtain ⟨s, hs, he⟩ := List.mem_map.mp hmem
      exact (hfresh s hs).1 he
    · rintro ⟨⟨hother, hnodup⟩, ⟨hnew, hfresh⟩, rfl⟩
      refine ⟨_, ⟨hnew, rfl⟩, ih.mpr ⟨hnodup, fun s hs => ?_, rfl⟩⟩
      simp only [names, List.map_cons, List.mem_cons, not_or]
      exact ⟨fun he => hother (List.mem_map.mpr ⟨s, hs, he⟩), hfresh s hs⟩

end SymbolTable

end StatusFrames
