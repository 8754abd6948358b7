/-
The paths of the headers. Subsystem names are identifiers and differ from each other, so no two headers go to the same
place.
-/
import StatusFrames.Emission.Tree
import StatusFrames.Outline.Drafting
import StatusFrames.Proofs.Files.Components
import StatusFrames.Proofs.Naming.Letters
import Mathlib.Data.List.Nodup

namespace StatusFrames.Outline

open Files (Component)
open Files.Path (Plain)

/-- A file name that starts with an identifier and has more behind it. -/
theorem plain_fileName {subsystem suffix : String} (h : Text.isIdentifier subsystem = true)
    (hslash : '/' ∉ suffix.toList) (hlong : 2 < suffix.toList.length) : Plain (subsystem ++ suffix).toList := by
  have hchars := Text.isNameChar_of_isIdentifier h
  rw [String.toList_append]
  refine ⟨?_, ?_, ?_, ?_⟩
  · intro hnil
    have := congrArg List.length hnil
    simp only [List.length_append, List.length_nil] at this
    omega
  · rw [List.mem_append, not_or]
    exact ⟨fun hmem => absurd (hchars '/' hmem) (by decide), hslash⟩
  · intro heq
    have := congrArg List.length heq
    simp only [List.length_append, List.length_cons, List.length_nil] at this
    omega
  · intro heq
    have := congrArg List.length heq
    simp only [List.length_append, List.length_cons, List.length_nil] at this
    omega

theorem components_protocolPath {subsystem : String} (h : Text.isIdentifier subsystem = true) :
    (Files.Path.mk (protocolPath subsystem)).components =
      [.name "protocols", .name "subsystems", .name (subsystem ++ "_protocol.h")] := by
  have spelled : protocolPath subsystem = "/".intercalate ["protocols", "subsystems", subsystem ++ "_protocol.h"] := by
    show "protocols/subsystems/" ++ subsystem ++ "_protocol.h" = _
    rw [show "protocols/subsystems/" = "protocols" ++ ("/" ++ ("subsystems" ++ "/")) from rfl]
    simp only [String.intercalate_cons_cons, String.intercalate_singleton, String.append_assoc]
  rw [spelled, Files.Path.components_intercalate ?_ (by simp)]
  · rfl
  · simp only [List.mem_cons, List.not_mem_nil, or_false, forall_eq_or_imp, forall_eq]
    exact ⟨⟨by decide, by decide, by decide, by decide⟩, ⟨by decide, by decide, by decide, by decide⟩,
      plain_fileName h (by decide) (by decide)⟩

theorem components_instancePath {subsystem : String} (h : Text.isIdentifier subsystem = true) :
    (Files.Path.mk (instancePath subsystem)).components = [.name "instances", .name (subsystem ++ "_instance.h")] := by
  have spelled : instancePath subsystem = "/".intercalate ["instances", subsystem ++ "_instance.h"] := by
    show "instances/" ++ subsystem ++ "_instance.h" = _
    rw [show "instances/" = "instances" ++ "/" from rfl]
    simp only [String.intercalate_cons_cons, String.intercalate_singleton, String.append_assoc]
  rw [spelled, Files.Path.components_intercalate ?_ (by simp)]
  · rfl
  · simp only [List.mem_cons, List.not_mem_nil, or_false, forall_eq_or_imp, forall_eq]
    exact ⟨⟨by decide, by decide, by decide, by decide⟩, plain_fileName h (by decide) (by decide)⟩

theorem components_commonPath :
    (Files.Path.mk commonPath).components = [.name "protocols", .name "protocol_common.h"] := by decide

theorem components_utilsPath :
    (Files.Path.mk utilsPath).components = [.name "protocols", .name "protocol_utils.h"] := by decide

/-- The places of all headers, in the order in which they are written. -/
theorem components_headerTrees {s : Setting} {protocols : List Layout.Protocol}
    (h : ∀ p ∈ protocols, Text.isIdentifier p.subsystem = true) :
    (Emission.headerTrees (ofLayouts s protocols)).map (fun tree => (Files.Path.mk tree.1).components) =
      protocols.flatMap (fun p =>
        [[.name "protocols", .name "subsystems", .name (p.subsystem ++ "_protocol.h")],
         [.name "instances", .name (p.subsystem ++ "_instance.h")]]) ++
      [[.name "protocols", .name "protocol_common.h"], [.name "protocols", .name "protocol_utils.h"]] := by
  rw [Emission.headerTrees, List.map_append, List.map_flatMap,
    show (ofLayouts s protocols).protocols = protocols.map (ofProtocol s) from rfl, List.flatMap_map]
  congr 1
  · rw [List.flatMap_def, List.flatMap_def, List.map_congr_left]
    intro p hp
    show [(Files.Path.mk (protocolPath p.subsystem)).components,
      (Files.Path.mk (instancePath p.subsystem)).components] = _
    rw [components_protocolPath (h p hp), components_instancePath (h p hp)]
  · show [(Files.Path.mk commonPath).components, (Files.Path.mk utilsPath).components] = _
    rw [components_commonPath, components_utilsPath]

theorem headerTrees_distinct {s : Setting} {protocols : List Layout.Protocol}
    (h : ∀ p ∈ protocols, Text.isIdentifier p.subsystem = true) (hn : (protocols.map (·.subsystem)).Nodup) :
    ((Emission.headerTrees (ofLayouts s protocols)).map fun tree => (Files.Path.mk tree.1).components).Nodup := by
  rw [components_headerTrees h, List.nodup_append, List.nodup_flatMap]
  refine ⟨⟨by simp, ?_⟩, by decide, ?_⟩
  · refine (List.pairwise_map.mp hn).imp fun {p q} hpq => ?_
    simp [Function.onFun, String.append_left_inj, Ne.symm hpq]
  · intro a ha b hb
    obtain ⟨p, -, ha⟩ := List.mem_flatMap.mp ha
    simp only [List.mem_cons, List.not_mem_nil, or_false] at ha hb
    rcases ha with rfl | rfl <;> rcases hb with rfl | rfl <;> simp

end StatusFrames.Outline
