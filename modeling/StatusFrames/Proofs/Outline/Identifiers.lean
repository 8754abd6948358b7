/-
Every name of an outline is an identifier: names are made of a leading word, the names that documents give, and fixed
words, and nothing else stands in them.
-/
import StatusFrames.Proofs.Outline.Uses

namespace StatusFrames

theorem Text.isIdentifier_append {a b : String} (ha : isIdentifier a = true) (hb : b.toList.all isNameChar = true) :
    isIdentifier (a ++ b) = true := by
  obtain ⟨first, rest, hs, hfirst⟩ := cons_of_isIdentifier ha
  have hrest : rest.all isNameChar = true :=
    List.all_eq_true.mpr fun c hc => isNameChar_of_isIdentifier ha c (hs ▸ List.mem_cons_of_mem _ hc)
  simp only [isIdentifier, String.toList_append, hs, List.cons_append, List.all_append, hfirst, hrest, hb, Bool.and_self]

theorem Naming.part_toString (n : Nat) : Part (toString n) :=
  .fixed (List.all_eq_true.mpr fun c hc => by
    simp [Text.isNameChar, Char.isAlphanum, C.isDigit_of_mem_toDigits c (Nat.toList_repr ▸ hc)])

namespace Outline

open Text (isIdentifier)
open Naming (Part)

/-! ## Constants of health checks -/

/-- What a constant of a health check may have behind the name of the check. -/
def checkSuffixes : List String := ["", "_MIN", "_MAX", "_DESCRIPTION", "_TROUBLESHOOT"]

theorem suffix_of_mem_checkConstants {p : Place} {position : Nat} {check : Layout.HealthCheck} {c : Constant}
    (h : c ∈ p.checkConstants position check) :
    c.role = "health check #" ++ toString position ∧ ∃ suffix ∈ checkSuffixes,
      c.name = p.naming.healthCheck p.subsystem p.frame p.field check.result position ++ suffix := by
  simp only [Place.checkConstants, List.mem_append, Option.mem_toList, Option.map_eq_some_iff] at h
  rcases h with (h | ⟨text, -, rfl⟩) | ⟨text, -, rfl⟩
  · split at h
    · obtain rfl := List.mem_singleton.mp h
      exact ⟨rfl, "", by decide, String.append_empty.symm⟩
    · simp only [List.mem_cons, List.not_mem_nil, or_false] at h
      rcases h with rfl | rfl
      · exact ⟨rfl, "_MIN", by decide, rfl⟩
      · exact ⟨rfl, "_MAX", by decide, rfl⟩
  · exact ⟨rfl, "_DESCRIPTION", by decide, rfl⟩
  · exact ⟨rfl, "_TROUBLESHOOT", by decide, rfl⟩

theorem mem_allCheckConstants {p : Place} {first : Nat} {checks : List Layout.HealthCheck} {c : Constant} :
    c ∈ p.allCheckConstants first checks ↔
      ∃ i check, checks[i]? = some check ∧ c ∈ p.checkConstants (first + i) check := by
  induction checks generalizing first with
  | nil => simp [Place.allCheckConstants]
  | cons check rest ih =>
    have shift : ∀ i, first + 1 + i = first + (i + 1) := by omega
    rw [Place.allCheckConstants, List.mem_append, ih]
    constructor
    · rintro (h | ⟨i, found, hi, h⟩)
      · exact ⟨0, check, rfl, h⟩
      · exact ⟨i + 1, found, hi, shift i ▸ h⟩
    · rintro ⟨i, found, hi, h⟩
      cases i with
      | zero =>
        obtain rfl := Option.some.inj hi
        exact .inl h
      | succ i => exact .inr ⟨i, found, hi, (shift i).symm ▸ h⟩

/-! ## Fields -/

section

variable {naming : Naming} {subsystem frame : String} (hlead : isIdentifier naming.lead = true)
  (hsubsystem : isIdentifier subsystem = true) (hframe : isIdentifier frame = true)

include hlead

theorem isIdentifier_of_parts {parts : List String} (h : ∀ part ∈ parts, Part part) :
    isIdentifier (naming.symbol parts) = true :=
  Naming.symbol_isIdentifier hlead fun part hpart => (h part hpart).isNameChar

include hsubsystem hframe

theorem isIdentifier_healthCheck {field : String} (hfield : isIdentifier field = true) {result : Option String}
    (hresult : ∀ r, result = some r → isIdentifier r = true) (position : Nat) :
    isIdentifier (naming.healthCheck subsystem frame field result position) = true := by
  have labelled : ∀ label, Naming.Part label → isIdentifier (naming.symbol
      [Naming.upper subsystem, Naming.upper frame, Naming.upper field, "HEALTH_CHECK", label]) = true := by
    intro label hlabel
    refine isIdentifier_of_parts hlead ?_
    exact List.forall_mem_cons.mpr ⟨.upper hsubsystem, List.forall_mem_cons.mpr ⟨.upper hframe,
      List.forall_mem_cons.mpr ⟨.upper hfield, List.forall_mem_cons.mpr ⟨.fixed (by decide),
        List.forall_mem_singleton.mpr hlabel⟩⟩⟩⟩
  cases result with
  | none => exact labelled _ (Naming.part_toString position)
  | some r => exact labelled _ (.upper (hresult r rfl))

section

variable {multiDevice : Bool} {entry : TypeEntry} {declared : Document.Field} {f : Layout.Field}
  (hwf : declared.WellFormed multiDevice) (hplaced : f.Placed ⟨naming, subsystem, frame⟩ entry declared)

include hwf hplaced

theorem constants_isIdentifier :
    ∀ c ∈ (ofField naming subsystem frame f).constants, isIdentifier c.name = true := by
  have hname : isIdentifier f.name = true := hplaced.name ▸ hwf.name
  refine List.forall_mem_append.mpr ⟨fun c hc => ?_, fun c hc => ?_⟩
  · obtain ⟨literal, -, rfl⟩ := Option.mem_map.mp (Option.mem_toList.mp hc)
    refine isIdentifier_of_parts hlead ?_
    exact List.forall_mem_cons.mpr ⟨.upper hsubsystem, List.forall_mem_cons.mpr ⟨.upper hframe,
      List.forall_mem_cons.mpr ⟨.upper hname, List.forall_mem_singleton.mpr (.fixed (by decide))⟩⟩⟩
  · obtain ⟨i, check, hcheck, hc⟩ := mem_allCheckConstants.mp hc
    obtain ⟨written, hwritten, hof⟩ := forall₂_mem_right hplaced.healthChecks (List.mem_of_getElem? hcheck)
    obtain ⟨condition, -, rfl⟩ := Layout.healthCheck_eq_ok.mp hof
    obtain ⟨-, suffix, hsuffix, hc⟩ := suffix_of_mem_checkConstants hc
    have hletters : ∀ suffix ∈ checkSuffixes, suffix.toList.all Text.isNameChar = true := by decide
    rw [hc]
    exact Text.isIdentifier_append
      (isIdentifier_healthCheck hlead hsubsystem hframe hname (hwf.results written hwritten) _) (hletters suffix hsuffix)

theorem enumeration_isIdentifier : ∀ e ∈ (ofField naming subsystem frame f).enumType,
    ∀ name ∈ e.names, isIdentifier name = true := by
  intro e he
  cases hkind : f.kind with
  | enumCast typeName values =>
    rw [enumType_ofField naming subsystem frame hkind] at he
    obtain rfl := Option.mem_some.mp he
    refine List.forall_mem_cons.mpr ⟨enumType_isIdentifier_of_placed hlead hsubsystem hframe hwf hplaced hkind, ?_⟩
    simp only [Place.enumeration, List.map_map, List.forall_mem_map]
    exact fun v hv => enumLabel_isIdentifier_of_placed hlead hsubsystem hframe hwf hplaced hv
  | native | boolCast | deviceId => simp [ofField, Layout.Field.enumType?, hkind] at he

end

/-- The names of a field whose own name, enumeration and constants have good ones. -/
theorem field_isIdentifier {f : Layout.Field} (hname : isIdentifier f.name = true)
    (henum : ∀ e ∈ (ofField naming subsystem frame f).enumType, ∀ name ∈ e.names, isIdentifier name = true)
    (hconstants : ∀ c ∈ (ofField naming subsystem frame f).constants, isIdentifier c.name = true) :
    ∀ name ∈ (ofField naming subsystem frame f).names, isIdentifier name = true := by
  have accessor : ∀ word : String, word.toList.all Text.isNameChar = true → isIdentifier (naming.symbol
      [word, Naming.camel subsystem, Naming.camel frame, Naming.camel f.name]) = true := by
    intro word hword
    refine isIdentifier_of_parts hlead ?_
    exact List.forall_mem_cons.mpr ⟨.fixed hword, List.forall_mem_cons.mpr ⟨.camel hsubsystem,
      List.forall_mem_cons.mpr ⟨.camel hframe, List.forall_mem_singleton.mpr (.camel hname)⟩⟩⟩
  refine List.forall_mem_append.mpr ⟨List.forall_mem_append.mpr ⟨?_, ?_⟩, List.forall_mem_map.mpr hconstants⟩
  · exact List.forall_mem_cons.mpr ⟨accessor "Get" (by decide), List.forall_mem_singleton.mpr (accessor "Set" (by decide))⟩
  · exact List.forall_mem_flatMap.mpr fun e he => henum e (Option.mem_toList.mp he)

theorem fieldIds_isIdentifier (first : Nat) {fields : List Layout.Field} (h : ∀ x ∈ fields, isIdentifier x.name = true) :
    ∀ v ∈ fieldIds naming subsystem frame first fields, isIdentifier v.name = true := by
  induction fields generalizing first with
  | nil => nofun
  | cons x rest ih =>
    obtain ⟨hx, hrest⟩ := List.forall_mem_cons.mp h
    refine List.forall_mem_cons.mpr ⟨isIdentifier_of_parts hlead ?_, ih (first + 1) hrest⟩
    exact List.forall_mem_cons.mpr ⟨.upper hsubsystem, List.forall_mem_cons.mpr ⟨.upper hframe,
      List.forall_mem_cons.mpr ⟨.upper hx, List.forall_mem_singleton.mpr (.fixed (by decide))⟩⟩⟩

end

/-! ## Frames and protocols -/

section

variable {naming : Naming} {protocol : Document.Protocol} {declared : Document.Frame} {f : Layout.Frame}
  (hlead : isIdentifier naming.lead = true) (hsubsystem : isIdentifier protocol.subsystem = true)
  (hwf : declared.WellFormed protocol.multiDevice) (hplaced : f.Placed naming protocol declared)

include hwf hplaced

theorem fieldName_isIdentifier : ∀ x ∈ f.fields, isIdentifier x.name = true :=
  hplaced.forall_fields (by decide) fun d hd _ _ hx => hx.name ▸ (hwf.fields d hd).name

include hlead hsubsystem

theorem frame_isIdentifier :
    ∀ name ∈ (ofFrame naming protocol.subsystem f).names, isIdentifier name = true := by
  have hname : isIdentifier f.name = true := hplaced.name ▸ hwf.name
  have hfields : ∀ x ∈ f.fields, ∀ name ∈ (ofField naming protocol.subsystem f.name x).names,
      isIdentifier name = true := by
    rw [hplaced.name]
    refine hplaced.forall_fields ?_ fun d hd entry x hx => ?_
    · exact field_isIdentifier hlead hsubsystem hwf.name (by decide) nofun nofun
    · have hwell := hwf.fields d hd
      exact field_isIdentifier hlead hsubsystem hwf.name (hx.name ▸ hwell.name)
        (enumeration_isIdentifier hlead hsubsystem hwf.name hwell hx)
        (constants_isIdentifier hlead hsubsystem hwf.name hwell hx)
  have own : ∀ name ∈ [naming.frameType protocol.subsystem f.name, naming.frameSize protocol.subsystem f.name,
      naming.typeId protocol.subsystem f.name, naming.fieldIdType protocol.subsystem f.name],
      isIdentifier name = true := by
    refine List.forall_mem_cons.mpr ⟨Naming.frameType_isIdentifier hlead hsubsystem hname, List.forall_mem_cons.mpr
      ⟨Naming.frameSize_isIdentifier hlead hsubsystem hname, List.forall_mem_cons.mpr ⟨?_,
        List.forall_mem_singleton.mpr ?_⟩⟩⟩
    · exact Naming.triple_isIdentifier hlead (.upper hsubsystem) (.upper hname) (.fixed (by decide))
    · exact Naming.triple_isIdentifier hlead (.camel hsubsystem) (.camel hname) (.fixed (by decide))
  have ids := fieldIds_isIdentifier hlead hsubsystem hname 0 (fieldName_isIdentifier hwf hplaced)
  refine List.forall_mem_append.mpr ⟨List.forall_mem_append.mpr ⟨own, List.forall_mem_map.mpr ids⟩, ?_⟩
  exact List.forall_mem_flatMap.mpr (List.forall_mem_map.mpr hfields)

end

/-- The names of a protocol whose document was accepted. -/
theorem protocol_isIdentifier {s : Setting} {d : Document} {p : Layout.Protocol}
    (hlead : isIdentifier s.naming.lead = true) (hd : d.Accepted) (hplaced : p.Placed s.naming d) :
    ∀ name ∈ (ofProtocol s p).names, isIdentifier name = true := by
  have hwf := hd.wellFormed
  have hsubsystem : isIdentifier p.subsystem = true := hplaced.subsystem ▸ hwf.subsystem
  have guard : ∀ stem : String, stem.toList.all Text.isNameChar = true →
      isIdentifier (s.naming.headerGuard (p.subsystem ++ stem)) = true := fun stem hstem =>
    Naming.pair_isIdentifier hlead (.upper (Text.isIdentifier_append hsubsystem hstem)) (.fixed (by decide))
  have own : ∀ name ∈ [s.naming.headerGuard (p.subsystem ++ "_protocol"), s.naming.headerGuard (p.subsystem ++ "_instance"),
      s.naming.frameIdType p.subsystem, s.naming.instanceType p.subsystem], isIdentifier name = true :=
    List.forall_mem_cons.mpr ⟨guard _ (by decide), List.forall_mem_cons.mpr ⟨guard _ (by decide),
      List.forall_mem_cons.mpr ⟨Naming.frameIdType_isIdentifier hlead hsubsystem,
        List.forall_mem_singleton.mpr (Naming.instanceType_isIdentifier hlead hsubsystem)⟩⟩⟩
  have functions : ∀ name ∈ ((ofProtocol s p).dispatch ++ (ofProtocol s p).instanceOutline.prototypes).map (·.name),
      isIdentifier name = true := by
    have lookup : ∀ word : String, word.toList.all Text.isNameChar = true →
        isIdentifier (s.naming.symbol [word, Naming.camel p.subsystem]) = true := fun word hword =>
      Naming.pair_isIdentifier hlead (.fixed hword) (.camel hsubsystem)
    have operation : ∀ word : String, word.toList.all Text.isNameChar = true →
        isIdentifier (s.naming.instanceFunction p.subsystem word) = true := fun word hword =>
      Naming.triple_isIdentifier hlead (.camel hsubsystem) (.fixed (by decide)) (.fixed hword)
    exact List.forall_mem_cons.mpr ⟨lookup "FrameSize" (by decide), List.forall_mem_cons.mpr
      ⟨lookup "IsTypeIDOf" (by decide), List.forall_mem_cons.mpr ⟨operation "Init" (by decide), List.forall_mem_cons.mpr
        ⟨operation "UpdateFrame" (by decide), List.forall_mem_cons.mpr ⟨operation "UpdateTime" (by decide),
          List.forall_mem_singleton.mpr (operation "GetTimeSinceLastUpdate" (by decide))⟩⟩⟩⟩⟩
  have frames : ∀ f ∈ p.frames, isIdentifier (s.naming.frameId p.subsystem f.name) = true ∧
      ∀ name ∈ (ofFrame s.naming p.subsystem f).names, isIdentifier name = true := by
    intro f hf
    obtain ⟨declared, hdeclared, hframe⟩ := forall₂_mem_right hplaced.frames hf
    have hwell := hwf.frames declared hdeclared
    refine ⟨Naming.frameId_isIdentifier hlead hsubsystem (hframe.name ▸ hwell.name), ?_⟩
    rw [hplaced.subsystem]
    exact frame_isIdentifier hlead hwf.subsystem hwell hframe
  refine List.forall_mem_append.mpr ⟨List.forall_mem_append.mpr ⟨List.forall_mem_append.mpr ⟨own, functions⟩, ?_⟩, ?_⟩
  · exact List.forall_mem_map.mpr (List.forall_mem_map.mpr fun f hf => (frames f hf).1)
  · exact List.forall_mem_flatMap.mpr (List.forall_mem_map.mpr fun f hf => (frames f hf).2)

end Outline

/-- All names of an outline that was made for accepted documents are identifiers. -/
theorem Outline.names_isIdentifier {s : Setting} {protocols : List Layout.Protocol}
    (hlead : Text.isIdentifier s.naming.lead = true)
    (h : ∀ p ∈ protocols, ∃ d : Document, d.Accepted ∧ p.Placed s.naming d) :
    ∀ name ∈ (ofLayouts s protocols).names, Text.isIdentifier name = true := by
  have fixed : ∀ parts : List String, (∀ part ∈ parts, part.toList.all Text.isNameChar = true) →
      Text.isIdentifier (s.naming.symbol parts) = true := fun parts hparts =>
    isIdentifier_of_parts hlead fun part hpart => .fixed (hparts part hpart)
  have guard : ∀ stem : String, Text.isIdentifier stem = true → Text.isIdentifier (s.naming.headerGuard stem) = true :=
    fun stem hstem => Naming.pair_isIdentifier hlead (.upper hstem) (.fixed (by decide))
  refine List.forall_mem_append.mpr ⟨List.forall_mem_append.mpr ⟨?_, ?_⟩, ?_⟩
  · exact List.forall_mem_cons.mpr ⟨guard _ (by decide), List.forall_mem_cons.mpr ⟨guard _ (by decide),
      List.forall_mem_cons.mpr ⟨fixed ["SubsystemID"] (by decide),
        List.forall_mem_singleton.mpr (fixed ["SUBSYSTEM_COUNT"] (by decide))⟩⟩⟩
  · refine List.forall_mem_map.mpr (List.forall_mem_map.mpr (List.forall_mem_map.mpr fun p hp => ?_))
    obtain ⟨d, hd, hplaced⟩ := h p hp
    have hsubsystem : Text.isIdentifier p.subsystem = true := hplaced.subsystem ▸ hd.wellFormed.subsystem
    exact Naming.subsystemId_isIdentifier hlead hsubsystem
  · refine List.forall_mem_flatMap.mpr (List.forall_mem_map.mpr fun p hp => ?_)
    obtain ⟨d, hd, hplaced⟩ := h p hp
    exact protocol_isIdentifier hlead hd hplaced

end StatusFrames
