/-
Which names a C declaration uses, and which it may use: words of C's own, and names that were declared before it, be it
in the same header or in one that it includes by way of others.
-/
import StatusFrames.Proofs.C.Pieces
import StatusFrames.Proofs.C.Types
import StatusFrames.Proofs.Declaration.Parts
import Mathlib.Logic.Relation

namespace StatusFrames

/-- The words of C and its standard headers that stand in types and expressions. -/
def C.ownWords : List String :=
  ["void", "const", "bool", "true", "false", "size_t", "sizeof"] ++ C.numberTypes.map (·.name)

namespace Declaration

/-- The names in the types and expressions of a declaration. The last name in a parameter is the parameter itself. -/
def uses : Declaration → List String
  | .define _ value => C.names value
  | .record _ _ members => members.flatMap fun m => C.names m.cType
  | .staticAssert condition _ => C.names condition
  | .prototype returnType _ params => C.names returnType ++ params.flatMap fun param => (C.names param).dropLast
  | .comment _ | .group .. | .inclusion .. | .enumeration .. | .guard .. => []

theorem uses_define (name value : String) : (define name value).uses = C.names value := rfl

theorem uses_staticAssert (condition message : String) :
    (staticAssert condition message).uses = C.names condition := rfl

/-! ## Headers that include each other -/

section

variable (headers : List (String × Declaration)) (root : String)

/-- The header at `path` includes what is at `other` below the root. -/
def Includes (path other : String) : Prop :=
  ∃ tree, (path, tree) ∈ headers ∧ .inclusion (root ++ "/" ++ other) false ∈ tree.parts

/-- What can be used behind a declaration: the names that it declares, or all names of the headers that are reached from
the one that it includes. -/
def Provides (d : Declaration) (name : String) : Prop :=
  name ∈ d.ownNames ∨ ∃ path reached tree, d = .inclusion (root ++ "/" ++ path) false ∧
    Relation.ReflTransGen (Includes headers root) path reached ∧ (reached, tree) ∈ headers ∧ name ∈ tree.names

variable {headers root}

theorem provides_inclusion {path name : String} {tree : Declaration} (h : (path, tree) ∈ headers)
    (hname : name ∈ tree.names) : Provides headers root (.inclusion (root ++ "/" ++ path) false) name :=
  .inr ⟨path, path, tree, rfl, .refl, h, hname⟩

end

/-- A relation that goes down some measure has no cycles. -/
theorem not_transGen_self {r : String → String → Prop} (rank : String → Nat) (h : ∀ a b, r a b → rank b < rank a)
    (path : String) : ¬Relation.TransGen r path path := by
  have down : ∀ a b, Relation.TransGen r a b → rank b < rank a := by
    intro a b hab
    induction hab with
    | single hab => exact h _ _ hab
    | tail _ hbc ih => exact (h _ _ hbc).trans ih
  exact fun hself => Nat.lt_irrefl _ (down path path hself)

/-! ## Scopes -/

section

variable {provides : Declaration → String → Prop} {known : String → Prop}

/-- Every declaration uses names that are known or provided before it. -/
def Scoped (provides : Declaration → String → Prop) (known : String → Prop) : List Declaration → Prop
  | [] => True
  | d :: rest => (∀ name ∈ d.uses, known name) ∧ Scoped provides (fun name => known name ∨ provides d name) rest

theorem Scoped.mono {ds : List Declaration} {more : String → Prop} (h : Scoped provides known ds)
    (hmore : ∀ name, known name → more name) : Scoped provides more ds := by
  induction ds generalizing known more with
  | nil => trivial
  | cons d rest ih => exact ⟨fun name hname => hmore name (h.1 name hname), ih h.2 fun name => Or.imp_left (hmore name)⟩

theorem scoped_append {a b : List Declaration} :
    Scoped provides known (a ++ b) ↔
      Scoped provides known a ∧ Scoped provides (fun name => known name ∨ ∃ d ∈ a, provides d name) b := by
  induction a generalizing known with
  | nil => simp [Scoped]
  | cons d rest ih =>
    simp only [List.cons_append, Scoped, ih, and_assoc, List.exists_mem_cons_iff, or_assoc]

/-- Declarations that need nothing of each other. -/
theorem scoped_of_forall {ds : List Declaration} (h : ∀ d ∈ ds, ∀ name ∈ d.uses, known name) :
    Scoped provides known ds := by
  induction ds generalizing known with
  | nil => trivial
  | cons d rest ih =>
    obtain ⟨hd, hrest⟩ := List.forall_mem_cons.mp h
    exact ⟨hd, ih fun e he name hname => .inl (hrest e he name hname)⟩

theorem scoped_flatMap {α : Type} {f : α → List Declaration} {as : List α}
    (h : ∀ a ∈ as, Scoped provides known (f a)) : Scoped provides known (as.flatMap f) := by
  induction as generalizing known with
  | nil => trivial
  | cons a rest ih =>
    obtain ⟨ha, hrest⟩ := List.forall_mem_cons.mp h
    rw [List.flatMap_cons, scoped_append]
    exact ⟨ha, ih fun b hb => (hrest b hb).mono fun _ => .inl⟩

/-- What a declaration uses is known from the start or provided by one before it. -/
theorem Scoped.provided {ds : List Declaration} (h : Scoped provides known ds) {before after : List Declaration}
    {part : Declaration} (hparts : ds = before ++ part :: after) :
    ∀ name ∈ part.uses, known name ∨ ∃ d ∈ before, provides d name := by
  rw [hparts, scoped_append] at h
  exact h.2.1

end

end Declaration

/-! ## Names in types and parameters -/

namespace C

section

variable {type : String} (h : Text.isIdentifier type = true)

include h

/-- A parameter of a type, with one name behind it. -/
theorem names_parameter {rest : String} (hrest : Apart rest) (hone : (names rest).length = 1) :
    (names (type ++ rest)).dropLast = [type] := by
  obtain ⟨name, hname⟩ := List.length_eq_one_iff.mp hone
  rw [names_identifier h hrest, hname]
  rfl

theorem names_constParameter {rest : String} (hrest : Apart rest) (hone : (names rest).length = 1) :
    (names ("const " ++ type ++ rest)).dropLast = ["const", type] := by
  have front : names "const " = ["const"] := by decide
  obtain ⟨name, hname⟩ := List.length_eq_one_iff.mp hone
  rw [String.append_assoc, names_append (by decide), names_identifier h hrest, hname, front]
  rfl

end

theorem names_sizeAssert {type size : String} (htype : Text.isIdentifier type = true)
    (hsize : Text.isIdentifier size = true) :
    names ("sizeof(" ++ type ++ ") == " ++ size) = ["sizeof", type, size] := by
  have front : names "sizeof(" = ["sizeof"] := by decide
  have middle : names ") == " = [] := by decide
  simp only [String.append_assoc]
  rw [names_append (by decide), names_identifier htype (Apart.append (by decide) (by decide) _),
    names_append (by decide), names_eq_singleton hsize, front, middle]
  rfl

theorem names_packed {high low : String} (hhigh : Text.isIdentifier high = true) (hlow : Text.isIdentifier low = true) :
    names ("((uint16_t)((" ++ high ++ " << 8) | " ++ low ++ "))") = ["uint16_t", high, low] := by
  have front : names "((uint16_t)((" = ["uint16_t"] := by decide
  have middle : names " << 8) | " = [] := by decide
  have back : names "))" = [] := by decide
  simp only [String.append_assoc]
  rw [names_append (by decide), names_identifier hhigh (Apart.append (by decide) (by decide) _),
    names_append (by decide), names_identifier hlow (by decide), front, middle, back]
  rfl

end C

end StatusFrames
