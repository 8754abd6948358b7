/-
Names that differ in the leading word only, and runs that differ only in such names. Registering symbols compares them
and does nothing else with them, so under another leading word the same symbols collide.
-/
import StatusFrames.Naming
import StatusFrames.Proofs.Naming.Registration
import Mathlib.Data.List.Forall2

namespace StatusFrames

def CompileError.isCollision : CompileError → Bool
  | .nameCollision .. => true
  | _ => false

namespace Naming

/-- `b` is `a` with another leading word. -/
def Renamed (old new a b : String) : Prop := ∃ rest, a = old ++ "_" ++ rest ∧ b = new ++ "_" ++ rest

/-- The first components are renamed and the second are the same. -/
def RenamedKey {α : Type} (old new : String) (a b : String × α) : Prop := Renamed old new a.1 b.1 ∧ a.2 = b.2

/-- How two runs end that differ in the leading word of names: both have a result, both find the same two owners of one
name, or both fail for the same other reason. -/
inductive SameOutcome (old new : String) {α : Type} (R : α → α → Prop) :
    Except CompileError α → Except CompileError α → Prop
  | ok {a b : α} (h : R a b) : SameOutcome old new R (.ok a) (.ok b)
  | collision {a b : String} (h : Renamed old new a b) (first second : Owner) :
    SameOutcome old new R (.error (.nameCollision a first second)) (.error (.nameCollision b first second))
  | failure {e : CompileError} (h : e.isCollision = false) : SameOutcome old new R (.error e) (.error e)

variable {old new : String}

theorem renamed_symbol (n m : Naming) (parts : List String) : Renamed n.lead m.lead (n.symbol parts) (m.symbol parts) :=
  ⟨_, rfl, rfl⟩

theorem Renamed.append {a b : String} (h : Renamed old new a b) (s : String) : Renamed old new (a ++ s) (b ++ s) := by
  obtain ⟨rest, rfl, rfl⟩ := h
  exact ⟨rest ++ s, String.append_assoc, String.append_assoc⟩

/-- Renaming keeps names apart and makes no two names equal. -/
theorem Renamed.eq_iff {a b c d : String} (h : Renamed old new a b) (h' : Renamed old new c d) : a = c ↔ b = d := by
  obtain ⟨rest, rfl, rfl⟩ := h
  obtain ⟨rest', rfl, rfl⟩ := h'
  simp only [String.append_right_inj]

namespace SameOutcome

variable {α β : Type} {R : α → α → Prop} {S : β → β → Prop}

theorem bind {x y : Except CompileError α} (h : SameOutcome old new R x y) {f g : α → Except CompileError β}
    (hfg : ∀ a b, R a b → SameOutcome old new S (f a) (g b)) : SameOutcome old new S (x >>= f) (y >>= g) := by
  cases h with
  | ok h => exact hfg _ _ h
  | collision h first second => exact .collision h first second
  | failure h => exact .failure h

theorem imp {S : α → α → Prop} {x y : Except CompileError α} (h : SameOutcome old new R x y)
    (hRS : ∀ a b, R a b → S a b) : SameOutcome old new S x y := by
  cases h with
  | ok h => exact .ok (hRS _ _ h)
  | collision h first second => exact .collision h first second
  | failure h => exact .failure h

theorem mapM {γ : Type} {f g : γ → Except CompileError α} {xs : List γ}
    (h : ∀ x ∈ xs, SameOutcome old new R (f x) (g x)) :
    SameOutcome old new (List.Forall₂ R) (xs.mapM f) (xs.mapM g) := by
  induction xs with
  | nil => exact .ok .nil
  | cons x rest ih =>
    obtain ⟨hx, hrest⟩ := List.forall_mem_cons.mp h
    rw [List.mapM_cons, List.mapM_cons]
    exact hx.bind fun a b hab => (ih hrest).bind fun as bs habs => .ok (.cons hab habs)

end SameOutcome

end Naming

namespace SymbolTable

open Naming

variable {old new : String}

theorem lookup_renamed {α : Type} {entries others : List (String × α)}
    (h : List.Forall₂ (RenamedKey old new) entries others) {a b : String} (hab : Renamed old new a b) :
    entries.lookup a = others.lookup b := by
  induction h with
  | nil => rfl
  | @cons entry other _ _ hentry _ ih =>
    obtain ⟨hname, hvalue⟩ := hentry
    have same : (a == entry.1) = (b == other.1) := by
      rw [Bool.eq_iff_iff, beq_iff_eq, beq_iff_eq]
      exact hab.eq_iff hname
    rw [List.lookup_cons, List.lookup_cons, same, hvalue, ih]

theorem register_renamed {t u : SymbolTable} (h : List.Forall₂ (RenamedKey old new) t.entries u.entries) {a b : String}
    (hab : Renamed old new a b) (owner : Owner) :
    SameOutcome old new (fun t u => List.Forall₂ (RenamedKey old new) t.entries u.entries) (t.register a owner)
      (u.register b owner) := by
  have same : t.owner? a = u.owner? b := lookup_renamed h hab
  cases howner : u.owner? b with
  | some first =>
    rw [register_taken (same.trans howner), register_taken howner]
    exact .collision hab first owner
  | none =>
    rw [register_new (same.trans howner), register_new howner]
    exact .ok (.cons ⟨hab, rfl⟩ h)

theorem registerAll_renamed {symbols others : List (String × Owner)}
    (hsymbols : List.Forall₂ (RenamedKey old new) symbols others) {t u : SymbolTable}
    (h : List.Forall₂ (RenamedKey old new) t.entries u.entries) :
    SameOutcome old new (fun t u => List.Forall₂ (RenamedKey old new) t.entries u.entries) (t.registerAll symbols)
      (u.registerAll others) := by
  induction hsymbols generalizing t u with
  | nil => exact .ok h
  | @cons symbol other _ _ hsymbol _ ih =>
    obtain ⟨a, owner⟩ := symbol
    obtain ⟨b, owner'⟩ := other
    obtain ⟨hab, rfl : owner = owner'⟩ := hsymbol
    rw [registerAll_cons, registerAll_cons]
    exact (register_renamed h hab owner).bind fun t u htu => ih htu

end SymbolTable

end StatusFrames
