/-
The constants of a field. Every literal that a document gives for a field was admitted by the field's domain, and stands
in a constant of its own.
-/
import StatusFrames.Outline.Drafting
import StatusFrames.Proofs.Document.Literals
import StatusFrames.Proofs.Layout.Admission

namespace StatusFrames

namespace Document

/-- The literals of a health check with the names of their constants. -/
def HealthCheck.constants (base : String) (c : HealthCheck) : List (String × Literal) :=
  c.value.toList.map (base, ·) ++ c.min.toList.map (base ++ "_MIN", ·) ++ c.max.toList.map (base ++ "_MAX", ·)

/-- The constants of health checks of a field, the first of which is at `position`. -/
def checkConstants (naming : Naming) (subsystem frame field : String) :
    Nat → List HealthCheck → List (String × Literal)
  | _, [] => []
  | position, c :: rest =>
    c.constants (naming.healthCheck subsystem frame field c.result position) ++
      checkConstants naming subsystem frame field (position + 1) rest

/-- All literals of a field with the names of their constants. -/
def Field.constants (naming : Naming) (subsystem frame : String) (f : Field) : List (String × Literal) :=
  f.initial.toList.map (naming.initialValue subsystem frame f.name, ·) ++
    checkConstants naming subsystem frame f.name 1 f.healthChecks

theorem map_snd_checkConstants {naming : Naming} {subsystem frame field : String} (position : Nat)
    (checks : List HealthCheck) :
    (checkConstants naming subsystem frame field position checks).map (·.2) = checks.flatMap (·.literals) := by
  induction checks generalizing position with
  | nil => rfl
  | cons c rest ih =>
    simp [checkConstants, ih, HealthCheck.constants, HealthCheck.literals, Function.comp_def]

theorem Field.map_snd_constants (naming : Naming) (subsystem frame : String) (f : Field) :
    (f.constants naming subsystem frame).map (·.2) = f.literals := by
  simp [Field.constants, Field.literals, map_snd_checkConstants, Function.comp_def]

theorem Accepted.canonical_of_constant {d : Document} (h : d.Accepted) {frame : Frame}
    (hframe : frame ∈ d.protocol.frames) {field : Field} (hfield : field ∈ frame.fields) {naming : Naming}
    {subsystem frameName name : String} {literal : Literal}
    (hl : (name, literal) ∈ field.constants naming subsystem frameName) : literal.Canonical := by
  refine h.canonical literal ?_
  refine List.mem_flatMap.mpr ⟨frame, hframe, List.mem_flatMap.mpr ⟨field, hfield, ?_⟩⟩
  rw [← field.map_snd_constants naming subsystem frameName]
  exact List.mem_map.mpr ⟨_, hl, rfl⟩

end Document

namespace Outline

open Layout

section

variable {p : Place} {d : Domain} {name : String} {literal : Literal}

theorem checkConstant_of_mem {position : Nat} {check : Document.HealthCheck} {placed : HealthCheck}
    (h : healthCheck d check = .ok placed)
    (hmem : (name, literal) ∈
      check.constants (p.naming.healthCheck p.subsystem p.frame p.field check.result position)) :
    (∃ role, ⟨name, p.literal literal, role⟩ ∈ p.checkConstants position placed) ∧ d.check literal = .ok () := by
  obtain ⟨condition, hcondition, rfl⟩ := healthCheck_eq_ok.mp h
  rcases Domain.condition_eq_ok.mp hcondition with
    ⟨value, -, hvalue, hmin, hmax, hcheck, rfl⟩ | ⟨low, high, -, hvalue, hmin, hmax, hlow, hhigh, -, rfl⟩
  · simp only [Document.HealthCheck.constants, hvalue, hmin, hmax, Option.toList, List.map_cons, List.map_nil,
      List.append_nil, List.mem_singleton, Prod.mk.injEq] at hmem
    obtain ⟨rfl, rfl⟩ := hmem
    exact ⟨⟨"health check #" ++ toString position, by simp [Place.checkConstants]⟩, hcheck⟩
  · simp only [Document.HealthCheck.constants, hvalue, hmin, hmax, Option.toList, List.map_cons, List.map_nil,
      List.nil_append, List.cons_append, List.mem_cons, List.not_mem_nil, or_false, Prod.mk.injEq] at hmem
    rcases hmem with ⟨rfl, rfl⟩ | ⟨rfl, rfl⟩
    · exact ⟨⟨"health check #" ++ toString position, by simp [Place.checkConstants]⟩, hlow⟩
    · exact ⟨⟨"health check #" ++ toString position, by simp [Place.checkConstants]⟩, hhigh⟩

theorem checkConstants_of_mem {position : Nat} {checks : List Document.HealthCheck} {placed : List HealthCheck}
    (h : List.Forall₂ (fun check placed => healthCheck d check = .ok placed) checks placed)
    (hmem : (name, literal) ∈ Document.checkConstants p.naming p.subsystem p.frame p.field position checks) :
    (∃ role, ⟨name, p.literal literal, role⟩ ∈ p.allCheckConstants position placed) ∧ d.check literal = .ok () := by
  induction h generalizing position with
  | nil => cases hmem
  | cons hcheck _ ih =>
    simp only [Place.allCheckConstants, List.mem_append]
    rcases List.mem_append.mp hmem with hmem | hmem
    · obtain ⟨⟨role, hc⟩, hadmitted⟩ := checkConstant_of_mem hcheck hmem
      exact ⟨⟨role, .inl hc⟩, hadmitted⟩
    · obtain ⟨⟨role, hc⟩, hadmitted⟩ := ih hmem
      exact ⟨⟨role, .inr hc⟩, hadmitted⟩

end

/-- Every literal of a declared field stands in a constant of the placed one, and was admitted. -/
theorem constant_of_mem {scope : Scope} {entry : TypeEntry} {declared : Document.Field} {f : Layout.Field}
    {name : String} {literal : Literal} (h : f.Placed scope entry declared)
    (hmem : (name, literal) ∈ declared.constants scope.naming scope.subsystem scope.frame) :
    (∃ role, ⟨name, Place.literal ⟨scope.naming, scope.subsystem, scope.frame, f.name⟩ literal, role⟩ ∈
      (ofField scope.naming scope.subsystem scope.frame f).constants) ∧ (f.domain entry).check literal = .ok () := by
  simp only [ofField, Place.constants, List.mem_append]
  rw [Document.Field.constants, ← h.name] at hmem
  rcases List.mem_append.mp hmem with hmem | hmem
  · simp only [List.mem_map, Option.mem_toList, Prod.mk.injEq] at hmem
    obtain ⟨l, hl, rfl, rfl⟩ := hmem
    refine ⟨⟨"default value", .inl ?_⟩, h.admitted l hl⟩
    rw [h.initial, hl]
    exact List.mem_singleton.mpr rfl
  · obtain ⟨⟨role, hc⟩, hadmitted⟩ :=
      checkConstants_of_mem (p := ⟨scope.naming, scope.subsystem, scope.frame, f.name⟩) h.healthChecks hmem
    exact ⟨⟨role, .inr hc⟩, hadmitted⟩

end Outline

end StatusFrames
