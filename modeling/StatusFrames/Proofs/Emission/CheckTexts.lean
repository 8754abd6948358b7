/-
Texts of health checks as C string literals. Main statement: a literal spells the text that it was made of, so the
constants for descriptions and hints hold what the document says, in plain form, each on one line of the header.
-/
import StatusFrames.Proofs.Compiler.Modular
import StatusFrames.Proofs.Emission.Blocks
import StatusFrames.Proofs.Emission.Constants
import StatusFrames.Proofs.Emission.Members
import StatusFrames.Proofs.Naming.Collisions
import StatusFrames.Proofs.Outline.Owners

namespace StatusFrames

/-- The texts that a health check may come with. -/
inductive CheckText
  | description
  | troubleshoot

namespace CheckText

/-- The text as the document has it. -/
def given : CheckText → Document.HealthCheck → Option String
  | .description => (·.description)
  | .troubleshoot => (·.troubleshoot)

/-- The text as the layout has it. -/
def kept : CheckText → Layout.HealthCheck → Option String
  | .description => (·.description)
  | .troubleshoot => (·.troubleshoot)

def suffix : CheckText → String
  | .description => "_DESCRIPTION"
  | .troubleshoot => "_TROUBLESHOOT"

/-- The name of the constant for the text. -/
def name (kind : CheckText) (p : Outline.Place) (result : Option String) (position : Nat) : String :=
  p.naming.healthCheck p.subsystem p.frame p.field result position ++ kind.suffix

theorem plainText_eq_some {given : Option String} {text : String} :
    Layout.plainText given = some text ↔ ∃ source, given = some source ∧ Text.normalize source = text ∧ text ≠ "" := by
  cases given with
  | none => simp [Layout.plainText]
  | some source => simp [Layout.plainText, Option.filter_eq_some_iff]

/-- A layout keeps the plain form of a text, unless that is blank. -/
theorem kept_eq_some {d : Layout.Domain} {check : Document.HealthCheck} {placed : Layout.HealthCheck}
    (h : Layout.healthCheck d check = .ok placed) (kind : CheckText) {text : String} :
    kind.kept placed = some text ↔
      ∃ source, kind.given check = some source ∧ Text.normalize source = text ∧ text ≠ "" := by
  obtain ⟨condition, -, rfl⟩ := Layout.healthCheck_eq_ok.mp h
  rw [← plainText_eq_some]
  cases kind <;> rfl

/-- Of the constants of a check, the name tells which one is for the text. -/
theorem mem_checkConstants (kind : CheckText) (p : Outline.Place) (position : Nat) (check : Layout.HealthCheck)
    (c : Outline.Constant) :
    c ∈ p.checkConstants position check ∧ c.name = kind.name p check.result position ↔
      ∃ text, kind.kept check = some text ∧
        c = ⟨kind.name p check.result position, Text.quoted text, Outline.checkRole position⟩ := by
  simp only [Outline.Place.checkConstants, List.mem_append, Option.mem_toList, Option.map_eq_some_iff, name]
  generalize p.naming.healthCheck p.subsystem p.frame p.field check.result position = base
  have other : ∀ {suffix : String}, suffix ≠ kind.suffix → base ++ suffix ≠ base ++ kind.suffix :=
    fun hne h => hne ((String.append_right_inj base).mp h)
  constructor
  · rintro ⟨(hc | ⟨text, htext, rfl⟩) | ⟨text, htext, rfl⟩, hname⟩
    · have bound : ∀ suffix ∈ ["", "_MIN", "_MAX"], suffix ≠ kind.suffix := by cases kind <;> decide
      split at hc
      · obtain rfl := List.mem_singleton.mp hc
        exact absurd (String.append_empty.trans hname) (other (bound "" (by decide)))
      · simp only [List.mem_cons, List.not_mem_nil, or_false] at hc
        rcases hc with rfl | rfl
        · exact absurd hname (other (bound "_MIN" (by decide)))
        · exact absurd hname (other (bound "_MAX" (by decide)))
    · cases kind with
      | description => exact ⟨text, htext, rfl⟩
      | troubleshoot => exact absurd hname (other (by decide))
    · cases kind with
      | description => exact absurd hname (other (by decide))
      | troubleshoot => exact ⟨text, htext, rfl⟩
  · rintro ⟨text, htext, rfl⟩
    cases kind with
    | description => exact ⟨.inl (.inr ⟨text, htext, rfl⟩), rfl⟩
    | troubleshoot => exact ⟨.inr ⟨text, htext, rfl⟩, rfl⟩

end CheckText

namespace Emission

/-- A header defines a name for its owner. The owner counts, since checks of a field may share a name as long as no two of
them define it. -/
def DefinesFor (table : SymbolTable) (header : Declaration) (owner : Owner) (name value : String) : Prop :=
  .define name value ∈ header.parts ∧ table.owner? name = some owner

/-- How a header holds a text that its document may give: as a literal for the plain form, on one line with its name. -/
structure TextHeld (table : SymbolTable) (header : Declaration) (owner : Owner) (name : String)
    (given : Option String) : Prop where
  emitted : (∃ value, DefinesFor table header owner name value) ↔
    ∃ text, given = some text ∧ Text.normalize text ≠ ""
  value : ∀ value, DefinesFor table header owner name value → ∃ text, given = some text ∧
    C.string? value = some (Text.normalize text) ∧ (∀ c ∈ value.toList, c ≠ '\n' ∧ c ≠ '\r') ∧
    ("#define " ++ name ++ " " ++ value).toList ∈ Text.lines header.text.toList

/-- A definition has a line of its own, if its value keeps to one. -/
theorem define_mem_lines {header : Declaration} {name value : String} (hname : Text.isIdentifier name = true)
    (hvalue : ∀ c ∈ value.toList, c ≠ '\n' ∧ c ≠ '\r') (h : .define name value ∈ header.parts) :
    ("#define " ++ name ++ " " ++ value).toList ∈ Text.lines header.text.toList := by
  have hletters : ∀ c ∈ name.toList, c ≠ '\n' ∧ c ≠ '\r' := by
    intro c hc
    have hletter := Text.isNameChar_of_isIdentifier hname c hc
    refine ⟨?_, ?_⟩ <;> (rintro rfl; exact absurd hletter (by decide))
  have single : ∀ c ∈ ("#define " ++ name ++ " " ++ value).toList, c ≠ '\n' ∧ c ≠ '\r' := by
    simp only [String.toList_append, List.forall_mem_append]
    exact ⟨⟨⟨by simp, hletters⟩, by simp⟩, hvalue⟩
  have stands := Declaration.standsIn_of_mem_parts h
  rw [Declaration.text_define] at stands
  exact stands.mem_lines (by simp) (fun hmem => (single _ hmem).1 rfl) fun hmem => (single _ hmem).2 rfl

section

variable {s : Outline.Setting} {protocols : List Layout.Protocol} {table : SymbolTable}
  (htable : (Outline.ofLayouts s protocols).symbolTable = .ok table) {p : Layout.Protocol} (hp : p ∈ protocols)
  (hprotocols : (protocols.map (·.subsystem)).Nodup) {f : Layout.Frame} (hf : f ∈ p.frames)
  (hframes : (p.frames.map (·.name)).Nodup) {x : Layout.Field} (hx : x ∈ f.fields)
  (hfields : (f.fields.map (·.name)).Nodup) {i : Nat} {placed : Layout.HealthCheck}
  (hcheck : x.healthChecks[i]? = some placed) (kind : CheckText)

include hcheck

theorem constant_mem_of_kept {text : String} (htext : kind.kept placed = some text) :
    ⟨kind.name ⟨s.naming, p.subsystem, f.name, x.name⟩ placed.result (i + 1), Text.quoted text,
        Outline.checkRole (i + 1)⟩ ∈ (Outline.ofField s.naming p.subsystem f.name x).constants := by
  obtain ⟨hmem, -⟩ := (kind.mem_checkConstants _ _ placed _).mpr ⟨text, htext, rfl⟩
  exact (Outline.mem_constants_check.mpr ⟨placed, hcheck, hmem⟩).1

include htable hp hprotocols hf hframes hx hfields

/-- A check owns the name for a text exactly when it has the text. -/
theorem owner?_text :
    table.owner? (kind.name ⟨s.naming, p.subsystem, f.name, x.name⟩ placed.result (i + 1)) =
        some (.ofElement p.source [p.subsystem, f.name, x.name] (Outline.checkRole (i + 1))) ↔
      ∃ text, kind.kept placed = some text := by
  rw [Outline.owner?_of_symbolTable htable, Outline.mem_symbols_check hp hprotocols hf hframes hx hfields]
  constructor
  · rintro ⟨check, hsome, c, hc, hname⟩
    obtain rfl := Option.some.inj (hcheck.symm.trans hsome)
    obtain ⟨text, htext, -⟩ := (kind.mem_checkConstants _ _ placed c).mp ⟨hc, hname⟩
    exact ⟨text, htext⟩
  · rintro ⟨text, htext⟩
    obtain ⟨hc, hname⟩ := (kind.mem_checkConstants _ _ placed _).mpr ⟨text, htext, rfl⟩
    exact ⟨placed, hcheck, _, hc, hname⟩

theorem textHeld_of_placed {domain : Layout.Domain} {check : Document.HealthCheck}
    (hof : Layout.healthCheck domain check = .ok placed)
    (hnames : ∀ c ∈ (Outline.ofField s.naming p.subsystem f.name x).constants, Text.isIdentifier c.name = true) :
    TextHeld table (protocolHeader (Outline.ofProtocol s p))
      (.ofElement p.source [p.subsystem, f.name, x.name] (Outline.checkRole (i + 1)))
      (kind.name ⟨s.naming, p.subsystem, f.name, x.name⟩ check.result (i + 1)) (kind.given check) := by
  have owner := owner?_text htable hp hprotocols hf hframes hx hfields hcheck kind
  have hresult : placed.result = check.result := by
    obtain ⟨condition, -, rfl⟩ := Layout.healthCheck_eq_ok.mp hof
    rfl
  rw [← hresult]
  refine ⟨⟨?_, ?_⟩, ?_⟩
  · rintro ⟨value, -, howner⟩
    obtain ⟨text, htext⟩ := owner.mp howner
    obtain ⟨source, hgiven, rfl, hne⟩ := (kind.kept_eq_some hof).mp htext
    exact ⟨source, hgiven, hne⟩
  · rintro ⟨source, hgiven, hne⟩
    have htext := (kind.kept_eq_some hof).mpr ⟨source, hgiven, rfl, hne⟩
    have hconstant := constant_mem_of_kept (s := s) (p := p) (f := f) hcheck kind htext
    exact ⟨_, constant_mem hf hx hconstant, owner.mpr ⟨_, htext⟩⟩
  · rintro value ⟨hdefine, howner⟩
    obtain ⟨text, htext⟩ := owner.mp howner
    obtain ⟨source, hgiven, rfl, -⟩ := (kind.kept_eq_some hof).mp htext
    have hconstant := constant_mem_of_kept (s := s) (p := p) (f := f) hcheck kind htext
    obtain rfl := eq_of_define htable (mem_declarations hp hdefine)
      (mem_declarations hp (constant_mem hf hx hconstant))
    have literal := (Text.stringLiteral_quoted (Text.normalize source)).single_line
    exact ⟨source, hgiven, Text.string?_quoted _, literal, define_mem_lines (hnames _ hconstant) literal hdefine⟩

end

/-- Texts survive as C string literals. A literal spells its text and no other, and every text that a document gives to a
health check, unless its plain form is empty, is in the header of its protocol: the constant of the check that is named
for it spells the plain form. Either emitter writes that header (only templates of the user's own may write anything
else). -/
theorem texts_survive :
    (∀ text, C.StringLiteral (Text.quoted text) text ∧ C.string? (Text.quoted text) = some text) ∧
      Function.Injective Text.quoted ∧
      ∀ {options : CompilerOptions} {c : Compiler} {disk : Files.Disk} {documents : List Document}
        {compilation : Compilation}, Compiler.ofOptions options = .ok c → (∀ d ∈ documents, d.Accepted) →
        c.compile disk documents = .ok compilation →
        ∃ table, (c.outline compilation.protocols).symbolTable = .ok table ∧ ∀ d ∈ documents, ∃ header,
          (Outline.protocolPath d.subsystem, header) ∈ headerTrees (c.outline compilation.protocols) ∧
            (c.options.emitter = .construct ∨ c.options.templates = none →
              compilation.artifacts.text? ⟨Outline.protocolPath d.subsystem⟩ = some header.text) ∧
            ∀ frame ∈ d.protocol.frames, ∀ field ∈ frame.fields, ∀ i check, field.healthChecks[i]? = some check →
              ∀ kind : CheckText, TextHeld table header
                (.ofElement d.path [d.subsystem, frame.name, field.name] ("health check #" ++ toString (i + 1)))
                (kind.name ⟨c.naming, d.subsystem, frame.name, field.name⟩ check.result (i + 1))
                (kind.given check) := by
  refine ⟨fun text => ⟨Text.stringLiteral_quoted text, Text.string?_quoted text⟩, Text.quoted_injective, ?_⟩
  intro options c disk documents compilation hc hd h
  obtain ⟨hlead, -, -⟩ := Compiler.ofOptions_eq_ok hc
  obtain ⟨hbuild, -, table, htable, -⟩ := Compiler.compile_eq_ok h
  have built := Compiler.built_of_build hbuild
  refine ⟨table, htable, fun d hmem => ?_⟩
  have wellFormed := (hd d hmem).wellFormed
  obtain ⟨p, hp, hprotocol⟩ := built.layout hmem
  have hheader := protocolHeader_mem (s := ⟨c.naming, c.options.includeRoot⟩) hp
  refine ⟨_, hprotocol.subsystem ▸ hheader, fun hw => ?_, fun frame hframe field hfield i check hcheck kind => ?_⟩
  · rw [← hprotocol.subsystem]
    exact (Compiler.text?_of_compile hc hw hd h hp).1
  have hframeWf := wellFormed.frames frame hframe
  obtain ⟨f, hf, hframePlaced⟩ := forall₂_mem_left hprotocol.frames hframe
  obtain ⟨x, hx, entry, hplaced⟩ := hframePlaced.field hfield
  obtain ⟨placed, hcheckPlaced, hof⟩ := forall₂_getElem? hplaced.healthChecks hcheck
  have hframes : (p.frames.map (·.name)).Nodup := by
    rw [forall₂_map_eq hprotocol.frames fun _ _ hf => hf.name]
    exact wellFormed.distinctFrames
  have hfields : (f.fields.map (·.name)).Nodup := by
    rw [hframePlaced.map_name]
    exact hframeWf.memberNames.nodup
  have hnames := Outline.constants_isIdentifier hlead wellFormed.subsystem hframeWf.name (hframeWf.fields field hfield)
    hplaced
  have held := textHeld_of_placed (s := ⟨c.naming, c.options.includeRoot⟩) htable hp built.distinctSubsystems hf hframes
    hx hfields hcheckPlaced kind hof
  rw [hprotocol.source, hprotocol.subsystem, hframePlaced.name, hplaced.name] at held
  exact held hnames

/-- A description that breaks its line and opens a struct there, and a hint that is not given. -/
theorem texts_survive_valve : ∃ compilation table header value,
    Compiler.ofTrees.compile ⟨.folder [], []⟩ [Document.valve] = .ok compilation ∧
      (Compiler.ofTrees.outline compilation.protocols).symbolTable = .ok table ∧
      compilation.artifacts.text? ⟨"protocols/subsystems/valve_protocol.h"⟩ = some header.text ∧
      ("#define " ++ "KSRP_VALVE_STATE_OPEN_HEALTH_CHECK_1_DESCRIPTION" ++ " " ++ value).toList ∈
        Text.lines header.text.toList ∧
      C.string? value = some "stuck\ntypedef struct" ∧
      ¬∃ hint, DefinesFor table header (.ofElement ⟨"valve.yaml"⟩ ["valve", "state", "open"] "health check #1")
        "KSRP_VALVE_STATE_OPEN_HEALTH_CHECK_1_TROUBLESHOOT" hint := by
  have haccepted : ∀ d ∈ [Document.valve], d.Accepted := by simpa using Document.valve_accepted
  obtain ⟨compilation, h⟩ := compiles_of_checked ⟨.folder [], []⟩ haccepted Compiler.valve_checked
  obtain ⟨table, htable, held⟩ := texts_survive.2.2 Compiler.ofOptions_ofTrees haccepted h
  obtain ⟨header, -, hwritten, held⟩ := held Document.valve (List.mem_singleton_self _)
  have htext := hwritten (.inl rfl)
  have check := held _ (List.mem_singleton_self _) _ (List.mem_singleton_self _) 0 _ rfl
  dsimp only [Document.valve, Document.subsystem, Compiler.ofTrees, Nat.zero_add] at check
  have hpath : Outline.protocolPath Document.valve.subsystem = "protocols/subsystems/valve_protocol.h" := by
    decide +kernel
  have hrole : "health check #" ++ toString 1 = "health check #1" := by decide +kernel
  have hdescription : CheckText.description.name ⟨{}, "valve", "state", "open"⟩ none 1 =
      "KSRP_VALVE_STATE_OPEN_HEALTH_CHECK_1_DESCRIPTION" := by decide +kernel
  have hhint : CheckText.troubleshoot.name ⟨{}, "valve", "state", "open"⟩ none 1 =
      "KSRP_VALVE_STATE_OPEN_HEALTH_CHECK_1_TROUBLESHOOT" := by decide +kernel
  have hplain : Text.normalize "stuck\ntypedef struct" = "stuck\ntypedef struct" := by decide +kernel
  have description := check .description
  have hint := check .troubleshoot
  rw [hrole, hdescription] at description
  rw [hrole, hhint] at hint
  obtain ⟨value, hvalue⟩ := description.emitted.mpr ⟨_, rfl, by rw [hplain]; decide⟩
  obtain ⟨text, hgiven, hstring, -, hline⟩ := description.value value hvalue
  obtain rfl := Option.some.inj hgiven
  rw [hplain] at hstring
  rw [hpath] at htext
  refine ⟨compilation, table, header, value, h, htable, htext, hline, hstring, fun hdefined => ?_⟩
  obtain ⟨text, hnone, -⟩ := hint.emitted.mp hdefined
  cases hnone

end Emission

end StatusFrames
