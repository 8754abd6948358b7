/-
Which names of the output the support library has taken. All start with the same word as those of the library. Most kinds
end, or go on, in a way that no name of the library does. Three kinds do not: type ids of frames, types of enum fields and
labels. How often a name has an underscore leaves a few names of the library for each of them.
-/
import StatusFrames.Proofs.C.Support
import StatusFrames.Proofs.Naming.Symbols

namespace StatusFrames.Naming

open C

theorem underscores_intercalate {parts : List String} (h : parts ≠ []) :
    ("_".intercalate parts).toList.count '_' + 1 = parts.length + (parts.flatMap (·.toList)).count '_' := by
  induction parts with
  | nil => exact absurd rfl h
  | cons part rest ih =>
    cases rest with
    | nil =>
      simp only [String.intercalate_singleton, List.flatMap_singleton, List.length_singleton]
      omega
    | cons next more =>
      have := ih (List.cons_ne_nil _ _)
      simp only [String.intercalate_cons_cons, String.toList_append, List.count_append, List.flatMap_cons,
        List.length_cons] at this ⊢
      have one : "_".toList.count '_' = 1 := by decide
      omega

theorem underscores_camel {name : String} (h : Text.isIdentifier name = true) : (camel name).toList.count '_' = 0 :=
  List.count_eq_zero.mpr (underscore_not_mem_camel h)

/-! ## The names of the library -/

/-- Last words of names that the library does not use. -/
def freeEnds : List String :=
  ["H_", "SUBSYSTEM_ID", "FrameID", "Instance", "FRAME_ID", "FRAME_SIZE", "FieldID", "FIELD_ID", "DEFAULT",
    "Instance_Init", "Instance_UpdateFrame", "Instance_UpdateTime", "Instance_GetTimeSinceLastUpdate"]

/-- First words of names that the library does not use. -/
def freeStarts : List String := ["FrameSize", "IsTypeIDOf", "Get", "Set"]

/-- What subsystem and frame have to be called together for the type id of the frame to be taken. -/
def typeIdStems : List String := ["GET_SUBSYSTEM_ID_FROM", "GET_FRAME_ID_FROM"]

/-- What subsystem, frame and field have to be called together for the type of the field to be taken. -/
def enumTypeStems : List String := ["MAKE_TYPE_ID", "ILLEGAL_TYPE_ID"]

/-- What subsystem, frame, field and label have to be called together for the label to be taken. -/
def labelStems : List String :=
  ["STATUS_INVALID_DATA_SIZE", "STATUS_INVALID_FRAME_TYPE", "STATUS_INVALID_FIELD_TYPE",
    "GET_SUBSYSTEM_ID_FROM_TYPE_ID", "GET_FRAME_ID_FROM_TYPE_ID"]

/-- All that is needed of the names of the library, which is looked up name by name. -/
theorem supportNames_look : ∀ name ∈ Support.names, "KSRP_".toList <+: name.toList →
    (∀ word ∈ freeEnds, ¬("_" ++ word).toList <:+ name.toList) ∧
    (∀ word ∈ freeStarts, ¬("KSRP_" ++ word ++ "_").toList <+: name.toList) ∧
    ¬"_HEALTH_CHECK_".toList <:+: name.toList ∧
    (3 ≤ name.toList.count '_' → ¬"_Frame".toList <:+ name.toList) ∧
    (4 ≤ name.toList.count '_' → "_TYPE_ID".toList <:+ name.toList →
      name ∈ typeIdStems.map fun stem => "KSRP_" ++ stem ++ "_TYPE_ID") ∧
    (name.toList.count '_' = 3 → name ∈ enumTypeStems.map fun stem => "KSRP_" ++ stem) ∧
    (4 ≤ name.toList.count '_' → name ∈ labelStems.map fun stem => "KSRP_" ++ stem) := by
  decide +kernel

theorem stems_taken :
    (∀ stem ∈ typeIdStems, "KSRP_" ++ stem ++ "_TYPE_ID" ∈ Support.names) ∧
      ∀ stem ∈ enumTypeStems ++ labelStems, "KSRP_" ++ stem ∈ Support.names := by
  decide +kernel

/-! ## Names from parts -/

theorem symbol_last (n : Naming) (parts : List String) (h : parts ≠ []) (last : String) :
    n.symbol (parts ++ [last]) = n.lead ++ "_" ++ "_".intercalate parts ++ ("_" ++ last) := by
  rw [symbol, String.intercalate_append_of_ne_nil h (List.cons_ne_nil _ _), String.intercalate_singleton]
  simp only [String.append_assoc]

theorem symbol_last_suffix (n : Naming) (parts : List String) (h : parts ≠ []) (last : String) :
    ("_" ++ last).toList <:+ (n.symbol (parts ++ [last])).toList := by
  rw [symbol_last n parts h, String.toList_append (s := n.lead ++ "_" ++ _)]
  exact List.suffix_append _ _

section

variable {n : Naming} (hlead : n.lead = "KSRP") {parts : List String}

include hlead

theorem symbol_eq (parts : List String) : n.symbol parts = "KSRP_" ++ "_".intercalate parts := by
  rw [symbol, hlead]
  rfl

theorem symbol_start (parts : List String) : "KSRP_".toList <+: (n.symbol parts).toList := by
  rw [symbol_eq hlead, String.toList_append]
  exact List.prefix_append _ _

/-- One underscore for each part, and those in the parts. -/
theorem underscores_symbol (h : parts ≠ []) :
    (n.symbol parts).toList.count '_' = parts.length + (parts.flatMap (·.toList)).count '_' := by
  have := underscores_intercalate h
  have one : "KSRP_".toList.count '_' = 1 := by decide
  rw [symbol_eq hlead, String.toList_append, List.count_append, one]
  omega

/-! ## Kinds of names that are free -/

theorem free_of_end (parts : List String) {last : String} (hlast : last ∈ freeEnds) (h : parts ≠ []) :
    n.symbol (parts ++ [last]) ∉ Support.names := by
  intro hname
  obtain ⟨hends, -⟩ := supportNames_look _ hname (symbol_start hlead _)
  exact hends last hlast (symbol_last_suffix n parts h last)

theorem free_of_start {first : String} (hfirst : first ∈ freeStarts) (h : parts ≠ []) :
    n.symbol (first :: parts) ∉ Support.names := by
  intro hname
  obtain ⟨-, hstarts, -⟩ := supportNames_look _ hname (symbol_start hlead _)
  refine hstarts first hfirst ⟨("_".intercalate parts).toList, ?_⟩
  rw [symbol_eq hlead, String.intercalate_cons_of_ne_nil h]
  simp only [String.toList_append, List.append_assoc]

theorem instanceFunction_free {operation : String} (h : "Instance_" ++ operation ∈ freeEnds) (subsystem : String) :
    n.instanceFunction subsystem operation ∉ Support.names := by
  have joined : n.instanceFunction subsystem operation = n.symbol ([camel subsystem] ++ ["Instance_" ++ operation]) := by
    simp only [instanceFunction, symbol, List.cons_append, List.nil_append, String.intercalate_cons_cons,
      String.intercalate_singleton, String.append_assoc]
    rfl
  rw [joined]
  exact free_of_end hlead [camel subsystem] h (List.cons_ne_nil _ _)

/-- The constants of health checks, whatever stands behind the name of the check. -/
theorem healthCheck_free (subsystem frame field : String) (result : Option String) (position : Nat) (rest : String) :
    n.healthCheck subsystem frame field result position ++ rest ∉ Support.names := by
  obtain ⟨label, hlabel⟩ : ∃ label, n.healthCheck subsystem frame field result position =
      n.symbol ([upper subsystem, upper frame, upper field] ++ ["HEALTH_CHECK", label]) := ⟨_, rfl⟩
  intro hname
  have hstart : "KSRP_".toList <+: (n.healthCheck subsystem frame field result position ++ rest).toList := by
    rw [String.toList_append]
    exact (symbol_start hlead _).trans (List.prefix_append _ _)
  obtain ⟨-, -, hchecks, -⟩ := supportNames_look _ hname hstart
  refine hchecks ⟨("KSRP_" ++ "_".intercalate [upper subsystem, upper frame, upper field]).toList,
    (label ++ rest).toList, ?_⟩
  rw [hlabel, symbol_eq hlead, String.intercalate_append_of_ne_nil (List.cons_ne_nil _ _) (List.cons_ne_nil _ _)]
  simp

theorem frameType_free (subsystem frame : String) : n.frameType subsystem frame ∉ Support.names := by
  intro hname
  obtain ⟨-, -, -, hframes, -⟩ := supportNames_look _ hname (symbol_start hlead _)
  refine hframes ?_ (symbol_last_suffix n [camel subsystem, camel frame] (List.cons_ne_nil _ _) "Frame")
  rw [frameType, underscores_symbol hlead (List.cons_ne_nil _ _)]
  exact Nat.le_add_right 3 _

/-! ## Kinds of names that can be taken -/

theorem typeId_taken_iff (subsystem frame : String) :
    n.typeId subsystem frame ∈ Support.names ↔ "_".intercalate [upper subsystem, upper frame] ∈ typeIdStems := by
  have hsplit : n.typeId subsystem frame = "KSRP_" ++ "_".intercalate [upper subsystem, upper frame] ++ "_TYPE_ID" := by
    have hlast := symbol_last n [upper subsystem, upper frame] (List.cons_ne_nil _ _) "TYPE_ID"
    rwa [hlead] at hlast
  constructor
  · intro hname
    obtain ⟨-, -, -, -, htypeIds, -⟩ := supportNames_look _ hname (symbol_start hlead _)
    have many : 4 ≤ (n.typeId subsystem frame).toList.count '_' := by
      have inner : "TYPE_ID".toList.count '_' = 1 := by decide
      rw [typeId, underscores_symbol hlead (List.cons_ne_nil _ _)]
      simp only [List.length_cons, List.length_nil, List.flatMap_cons, List.flatMap_nil, List.count_append, inner]
      omega
    have hlast := symbol_last_suffix n [upper subsystem, upper frame] (List.cons_ne_nil _ _) "TYPE_ID"
    obtain ⟨stem, hstem, hsame⟩ := List.mem_map.mp (htypeIds many hlast)
    rw [hsplit] at hsame
    have hinner := (String.append_left_inj _).mp hsame
    rwa [← (String.append_right_inj _).mp hinner]
  · intro hstem
    rw [hsplit]
    exact stems_taken.1 _ hstem

/-- Capitalized names have no underscores, so there are just those between them. -/
theorem enumType_taken_iff {subsystem frame field : String} (hsubsystem : Text.isIdentifier subsystem = true)
    (hframe : Text.isIdentifier frame = true) (hfield : Text.isIdentifier field = true) :
    n.enumType subsystem frame field ∈ Support.names ↔
      "_".intercalate [camel subsystem, camel frame, camel field] ∈ enumTypeStems := by
  rw [enumType, symbol_eq hlead]
  constructor
  · intro hname
    obtain ⟨-, -, -, -, -, htypes, -⟩ := supportNames_look _ hname (symbol_eq hlead _ ▸ symbol_start hlead _)
    have three : ("KSRP_" ++ "_".intercalate [camel subsystem, camel frame, camel field]).toList.count '_' = 3 := by
      rw [← symbol_eq hlead, underscores_symbol hlead (List.cons_ne_nil _ _)]
      simp [underscores_camel, hsubsystem, hframe, hfield]
    obtain ⟨stem, hstem, hsame⟩ := List.mem_map.mp (htypes three)
    rwa [← (String.append_right_inj _).mp hsame]
  · intro hstem
    exact stems_taken.2 _ (List.mem_append_left _ hstem)

theorem enumLabel_taken_iff (subsystem frame field label : String) :
    n.enumLabel subsystem frame field label ∈ Support.names ↔
      "_".intercalate [upper subsystem, upper frame, upper field, upper label] ∈ labelStems := by
  rw [enumLabel, symbol_eq hlead]
  constructor
  · intro hname
    obtain ⟨-, -, -, -, -, -, hlabels⟩ := supportNames_look _ hname (symbol_eq hlead _ ▸ symbol_start hlead _)
    have many : 4 ≤ ("KSRP_" ++ "_".intercalate [upper subsystem, upper frame, upper field, upper label]).toList.count
        '_' := by
      rw [← symbol_eq hlead, underscores_symbol hlead (List.cons_ne_nil _ _)]
      exact Nat.le_add_right 4 _
    obtain ⟨stem, hstem, hsame⟩ := List.mem_map.mp (hlabels many)
    rwa [← (String.append_right_inj _).mp hsame]
  · intro hstem
    exact stems_taken.2 _ (List.mem_append_right _ hstem)

end

end StatusFrames.Naming
