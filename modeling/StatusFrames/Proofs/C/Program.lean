/-
What a name stands for among C declarations. Enumerators are numbered as C does it: one without a value follows the one
before it, and the first is zero. A macro of the same name would hide an enumerator.
-/
import StatusFrames.Proofs.Declaration.Parts
import StatusFrames.Proofs.Steps
import Mathlib.Data.List.Nodup
import Mathlib.Data.List.Pairwise

namespace StatusFrames.C

open Declaration (ownNames)

/-- The numbers of enumerators; `next` is the number of one without a value. -/
def numbered : Nat → List (String × Option Nat) → List (String × Nat)
  | _, [] => []
  | next, (name, value?) :: rest =>
    let value := value?.getD next
    (name, value) :: numbered (value + 1) rest

/-- All enumerators with their numbers. -/
def enumerators (declarations : List Declaration) : List (String × Nat) :=
  declarations.flatMap fun d =>
    match d with
    | .enumeration _ enumerators => numbered 0 enumerators
    | _ => []

def macroNames (declarations : List Declaration) : List String :=
  declarations.flatMap fun d =>
    match d with
    | .define name _ => [name]
    | .guard name _ => [name]
    | _ => []

/-- The value of a name that is an enumerator and no macro. -/
def enumerator? (declarations : List Declaration) (name : String) : Option Int :=
  if name ∈ macroNames declarations then none
  else ((enumerators declarations).lookup name).map fun (n : Nat) => (n : Int)

theorem map_fst_numbered (next : Nat) (es : List (String × Option Nat)) :
    (numbered next es).map (·.1) = es.map (·.1) := by
  induction es generalizing next with
  | nil => rfl
  | cons e rest ih => simp [numbered, ih]

section

variable {declarations : List Declaration} (hnodup : (declarations.flatMap ownNames).Nodup)

include hnodup

/-- Where names are declared once, a name belongs to one declaration. -/
theorem eq_of_common_name {a b : Declaration} (ha : a ∈ declarations) (hb : b ∈ declarations) {name : String}
    (hna : name ∈ ownNames a) (hnb : name ∈ ownNames b) : a = b := by
  by_contra hne
  have apart := (List.nodup_flatMap.mp hnodup).2
  have : Std.Symm (Function.onFun List.Disjoint ownNames) := ⟨fun _ _ h _ hx hy => h hy hx⟩
  exact apart.forall ha hb hne hna hnb

theorem nodup_enumerators : ((enumerators declarations).map (·.1)).Nodup := by
  refine List.Nodup.sublist ?_ hnodup
  clear hnodup
  induction declarations with
  | nil => exact .slnil
  | cons d rest ih =>
    rw [List.flatMap_cons, enumerators, List.flatMap_cons, List.map_append]
    refine List.Sublist.append ?_ ih
    cases d with
    | enumeration typeName es =>
      rw [map_fst_numbered]
      exact List.sublist_cons_self _ _
    | comment | group | inclusion | define | record | staticAssert | prototype | guard => exact List.nil_sublist _

/-- An enumerator has the number that its own enumeration gives it. -/
theorem enumerator?_eq_some {typeName name : String} {es : List (String × Option Nat)} {n : Nat}
    (hes : .enumeration typeName es ∈ declarations) (hn : (name, n) ∈ numbered 0 es) :
    enumerator? declarations name = some (n : Int) := by
  have hname : name ∈ ownNames (.enumeration typeName es) := by
    refine List.mem_cons_of_mem _ ?_
    rw [← map_fst_numbered 0]
    exact List.mem_map.mpr ⟨_, hn, rfl⟩
  have hmacro : name ∉ macroNames declarations := by
    intro hm
    obtain ⟨d, hd, hm⟩ := List.mem_flatMap.mp hm
    cases d with
    | define other text =>
      obtain rfl := List.mem_singleton.mp hm
      cases eq_of_common_name hnodup hd hes (List.mem_singleton_self _) hname
    | guard other body =>
      obtain rfl := List.mem_singleton.mp hm
      cases eq_of_common_name hnodup hd hes (List.mem_singleton_self _) hname
    | comment | group | inclusion | enumeration | record | staticAssert | prototype => cases hm
  have hmem : (name, n) ∈ enumerators declarations := List.mem_flatMap.mpr ⟨_, hes, hn⟩
  rw [enumerator?, if_neg hmacro, lookup_eq_some (nodup_enumerators hnodup) hmem]
  rfl

end

end StatusFrames.C
