/-
Headers can be read back. Line by line, the header of a protocol holds one struct for each of its frames, with the fields
of the frame as members, and no text of a document can look like one.
-/
import StatusFrames.Proofs.C.Blocks
import StatusFrames.Proofs.Compiler.Modular
import StatusFrames.Proofs.Outline.Lines

namespace StatusFrames

namespace Emission

open C Declaration Outline
open Text (OneLine)

/-! ## Declarations on plain lines -/

theorem plain_constant {c : Constant} (h : c.OnLine) : (constant c).Plain := plain_define h.name h.value

theorem plain_function {p : Prototype} (h : p.OnLine) : (prototype p).Plain :=
  plain_prototype h.returnType h.notTypedef h.name h.params

theorem plain_functions {ps : List Prototype} (h : ∀ p ∈ ps, p.OnLine) : (lines (ps.map prototype)).Plain :=
  plain_lines (List.forall_mem_map.mpr fun p hp => plain_function (h p hp))

theorem plain_enum {e : Enumeration} (h : e.OnLines) : (enumeration e).Plain :=
  plain_enumeration h.typeName (List.forall_mem_map.mpr h.enumerators)

theorem plain_ids {e : Enumeration} (h : e.OnLines) {title : String} (htitle : OneLine title) :
    (titled title [enumeration e]).Plain :=
  plain_titled (List.forall_mem_singleton.mpr (plain_enum h)) htitle

theorem plain_systemInclusions {paths : List String} (h : ∀ path ∈ paths, OneLine path) :
    (lines (paths.map (inclusion · true))).Plain :=
  plain_lines (List.forall_mem_map.mpr fun path hpath => plain_systemInclusion (h path hpath))

/-- The member of a struct for a field. -/
def memberOf (f : Field) : Member := .placed f.storageType f.name f.offset f.width

theorem onLine_memberOf {f : Field} (h : f.OnLines) : OnLine (memberOf f) := by
  have bytes : OneLine (byteCount f.width) := by
    unfold byteCount
    split
    · decide
    · simp +decide
  refine ⟨h.storageType, h.name, ?_⟩
  rintro _ ⟨⟩
  simp +decide [bytes]

theorem onLine_members {f : Frame} (h : f.OnLines) : ∀ m ∈ f.fields.map memberOf, OnLine m :=
  List.forall_mem_map.mpr fun x hx => onLine_memberOf (h.fields x hx)

/-- All that stands around the struct of a frame is plain. -/
theorem plain_frameBlocks {f : Frame} (h : f.OnLines) : ∃ front back,
    frameBlocks f = front ++ [.record f.typeName true (f.fields.map memberOf)] ++ back ∧
      (∀ d ∈ front, d.Plain) ∧ ∀ d ∈ back, d.Plain := by
  have id : OneLine (toString f.id) := Text.oneLine_repr f.id.toNat
  have title : (comment ("Frame '" ++ f.name ++ "' (id " ++ toString f.id ++ ")")).Plain :=
    plain_comment (by simp +decide [h.name, id])
  have enums : ∀ d ∈ (f.fields.filterMap (·.enumType)).map enumeration, d.Plain := by
    refine List.forall_mem_map.mpr fun e he => plain_enum ?_
    obtain ⟨x, hx, hxe⟩ := List.mem_filterMap.mp he
    exact (h.fields x hx).enumType e hxe
  have constants : (lines ((f.fields.flatMap (·.constants)).map constant)).Plain := by
    refine plain_lines (List.forall_mem_map.mpr fun c hc => plain_constant ?_)
    obtain ⟨x, hx, hc⟩ := List.mem_flatMap.mp hc
    exact (h.fields x hx).constants c hc
  have assertion : (staticAssert ("sizeof(" ++ f.typeName ++ ") == " ++ f.sizeConstant.name) f.sizeAssert).Plain :=
    plain_staticAssert (by simp +decide [h.typeName, h.sizeConstant.name]) _
  have size : (lines [constant f.sizeConstant, staticAssert ("sizeof(" ++ f.typeName ++ ") == " ++ f.sizeConstant.name)
      f.sizeAssert, constant f.typeId]).Plain :=
    plain_lines (List.forall_mem_cons.mpr ⟨plain_constant h.sizeConstant, List.forall_mem_cons.mpr ⟨assertion,
      List.forall_mem_singleton.mpr (plain_constant h.typeId)⟩⟩)
  have getters : (lines (f.fields.map fun x => prototype x.getter)).Plain :=
    plain_lines (List.forall_mem_map.mpr fun x hx => plain_function (h.fields x hx).getter)
  have setters : (lines (f.fields.map fun x => prototype x.setter)).Plain :=
    plain_lines (List.forall_mem_map.mpr fun x hx => plain_function (h.fields x hx).setter)
  have front := List.forall_mem_append.mpr
    ⟨List.forall_mem_cons.mpr ⟨title, enums⟩, List.forall_mem_singleton.mpr constants⟩
  have back := List.forall_mem_cons.mpr ⟨size, List.forall_mem_cons.mpr ⟨plain_enum h.fieldIds,
    List.forall_mem_cons.mpr ⟨getters, List.forall_mem_singleton.mpr setters⟩⟩⟩
  refine ⟨_, _, ?_, front, back⟩
  simp only [frameBlocks, List.append_assoc, List.cons_append, List.nil_append]
  rfl

/-! ## Structs -/

theorem adds_frameBlocks {f : Frame} (h : f.OnLines) :
    Adds (paragraphs (frameBlocks f)) [structBlock f.typeName (f.fields.map memberOf)] := by
  obtain ⟨front, back, hsplit, hfront, hback⟩ := plain_frameBlocks h
  have struct : Adds (paragraphs [.record f.typeName true (f.fields.map memberOf)])
      [structBlock f.typeName (f.fields.map memberOf)] :=
    adds_paragraph rfl (adds_record h.typeName true (onLine_members h))
  rw [hsplit]
  exact adds_append (adds_append (adds_plain hfront) struct) (adds_plain hback)

/-- The header of a protocol, whatever is found in its include lines. -/
theorem adds_protocolHeader {p : Protocol} (h : p.OnLines) (hsource : OneLine p.source)
    (hsystem : ∀ path ∈ p.header.systemIncludes, OneLine path) {found : List String}
    (includes : Adds (paragraphs [.lines (p.header.includes.map (.inclusion · false))]) found) :
    Adds (protocolHeader p).text
      (found ++ p.frames.map fun f => structBlock f.typeName (f.fields.map memberOf)) := by
  have hbanner : OneLine (banner (some p.source)) := by
    unfold banner
    simp +decide [hsource]
  have first : ∀ d ∈ [comment (banner (some p.source)), .lines (p.header.systemIncludes.map (.inclusion · true))],
      d.Plain :=
    List.forall_mem_cons.mpr ⟨plain_comment hbanner, List.forall_mem_singleton.mpr (plain_systemInclusions hsystem)⟩
  have htitle : OneLine ("Frame ids of subsystem '" ++ p.subsystem ++ "'") := by simp +decide [h.subsystem]
  have ids := plain_ids h.frameIds htitle
  have frames : Adds (paragraphs (p.frames.flatMap frameBlocks))
      (p.frames.map fun f => structBlock f.typeName (f.fields.map memberOf)) := by
    have all := Adds.join fun f hf => adds_frameBlocks (h.frames f hf)
    rwa [← paragraphs_flatMap, ← List.map_eq_flatMap] at all
  have body := adds_append (adds_append (adds_plain first) includes)
    (adds_append (adds_plain (List.forall_mem_singleton.mpr ids)) frames)
  exact adds_guard h.guard body

/-- The struct of a frame as it stands in the header, line by line. -/
def frameBlock (typeName : String) (frame : Layout.Frame) : String :=
  String.join (frame.fields.map fun f =>
    f.storageType ++ " " ++ f.name ++ "; /* offset " ++ toString f.offset ++ ", " ++ byteCount f.width ++ " */\n") ++
    "\x7d " ++ typeName ++ ";"

theorem structBlock_ofFrame (naming : Naming) (subsystem : String) (frame : Layout.Frame) :
    structBlock (ofFrame naming subsystem frame).typeName ((ofFrame naming subsystem frame).fields.map memberOf) =
      frameBlock (naming.frameType subsystem frame.name) frame := by
  have line : ∀ f : Layout.Field, memberLine (memberOf (ofField naming subsystem frame.name f)) ++ "\n" =
      f.storageType ++ " " ++ f.name ++ "; /* offset " ++ toString f.offset ++ ", " ++ byteCount f.width ++ " */\n" := by
    intro f
    show f.storageType ++ " " ++ f.name ++ ";" ++
      (" /* " ++ ("offset " ++ toString f.offset ++ ", " ++ byteCount f.width) ++ " */") ++ "\n" = _
    rw [show "; /* offset " = ";" ++ (" /* " ++ "offset ") from rfl, show " */\n" = " */" ++ "\n" from rfl]
    simp only [String.append_assoc]
  rw [structBlock, frameBlock, ofFrame, List.map_map, List.map_map]
  congr 4
  exact List.map_congr_left fun f _ => line f

section

variable {options : CompilerOptions} {c : Compiler} {disk : Files.Disk} {documents : List Document}
  {compilation : Compilation} (hc : Compiler.ofOptions options = .ok c) (he : c.options.emitter = .construct)
  (hd : ∀ d ∈ documents, d.Accepted) (h : c.compile disk documents = .ok compilation)

include hc he hd h

theorem structBlocks_of_compile {p : Layout.Protocol} (hp : p ∈ compilation.protocols)
    (hsource : OneLine (p.source.fileName?.getD p.source.text)) (found : String → List String)
    (hincludes : ∀ file ∈ supportHeaders ++ [commonPath],
      Adds ((inclusion (c.options.includeRoot ++ "/" ++ file) false).text ++ "\n") (found file)) :
    ∃ text, compilation.artifacts.text? ⟨protocolPath p.subsystem⟩ = some text ∧
      structBlocks text = (supportHeaders ++ [commonPath]).flatMap found ++
        p.frames.map fun frame => frameBlock (c.naming.frameType p.subsystem frame.name) frame := by
  obtain ⟨hlead, -, -⟩ := Compiler.ofOptions_eq_ok hc
  obtain ⟨d, hmem, hplaced⟩ := (Compiler.built_of_build (Compiler.compile_eq_ok h).1).origin hp
  have onLines := onLines_ofProtocol (s := ⟨c.naming, c.options.includeRoot⟩) hlead (hd d hmem) hplaced
  have system : ∀ path ∈ ["stdint.h", "stdbool.h"], OneLine path := by decide
  have frames : (ofProtocol ⟨c.naming, c.options.includeRoot⟩ p).frames.map
        (fun f => structBlock f.typeName (f.fields.map memberOf)) =
      p.frames.map fun frame => frameBlock (c.naming.frameType p.subsystem frame.name) frame := by
    rw [ofProtocol, List.map_map]
    exact List.map_congr_left fun frame _ => structBlock_ofFrame c.naming p.subsystem frame
  have includes := adds_lines (fun _ => rfl) hincludes
  refine ⟨_, (Compiler.text?_of_compile hc (.inl he) hd h hp).1, ?_⟩
  rw [structBlocks_eq (adds_protocolHeader onLines hsource system (by rwa [ofProtocol, List.map_map])), frames]

end

end Emission

/-! ## Headers at other include roots -/

theorem Outline.symbolTable_root (naming : Naming) (root other : String) (protocols : List Layout.Protocol) :
    (ofLayouts ⟨naming, root⟩ protocols).symbolTable = (ofLayouts ⟨naming, other⟩ protocols).symbolTable := by
  rw [symbolTable_eq, symbolTable_eq, symbols_ofLayouts ⟨naming, root⟩, symbols_ofLayouts ⟨naming, other⟩]
  rfl

/-- The compiler for an include root, writing declaration trees. -/
def Compiler.atRoot (root : String) : Compiler := ⟨{}, { includeRoot := root, emitter := .construct }⟩

theorem compiles_atRoot (root : String) (disk : Files.Disk) {documents : List Document}
    (hd : ∀ d ∈ documents, d.Accepted)
    (h : ∃ protocols outline symbols, Compiler.ofDefaults.build documents = .ok protocols ∧
      Compiler.ofDefaults.checkedOutline protocols = .ok (outline, symbols)) :
    ∃ compilation, (Compiler.atRoot root).compile disk documents = .ok compilation := by
  obtain ⟨protocols, outline, symbols, hb, hs⟩ := h
  obtain ⟨rfl, htable⟩ := Compiler.checkedOutline_eq_ok.mp hs
  obtain ⟨artifacts, ha⟩ := Emission.fromTrees_ok (Compiler.built_of_build hb) hd root
  have hroot : ((Compiler.atRoot root).outline protocols).symbolTable = .ok symbols :=
    (Outline.symbolTable_root ..).trans htable
  exact ⟨_, Compiler.compile_of_stages (c := Compiler.atRoot root) hb hroot ha⟩

namespace Document

open Yaml

/-- A document with a text that breaks its line in front of the start of a struct. -/
def valveText : String :=
"protocol:
  subsystem: valve
  subsystem_id: 6
  frames:
  - name: state
    frame_id: 4
    fields:
    - name: open
      type: bool
      health_checks:
      - type: exact
        value: true
        description: \"stuck\\ntypedef struct\"
"

def valve : Document :=
  { path := ⟨"valve.yaml"⟩
    protocol :=
      ⟨"valve", 6, false,
        [⟨"state", 4,
          [⟨"open", "bool", none, [],
            [⟨.exact, some (.bool true), none, none, none, none, some "stuck\ntypedef struct"⟩]⟩]⟩]⟩ }

def valveTokens : List Token :=
  [.blockMapping, .key, word "protocol", .value,
    .blockMapping, .key, word "subsystem", .value, word "valve", .key, word "subsystem_id", .value, word "6",
    .key, word "frames", .value,
    .dash, .blockMapping, .key, word "name", .value, word "state", .key, word "frame_id", .value, word "4",
    .key, word "fields", .value,
    .dash, .blockMapping, .key, word "name", .value, word "open", .key, word "type", .value, word "bool",
    .key, word "health_checks", .value,
    .dash, .blockMapping, .key, word "type", .value, word "exact", .key, word "value", .value, word "true",
    .key, word "description", .value, .scalar "stuck\ntypedef struct" .doubleQuoted, .blockEnd,
    .blockEnd, .blockEnd, .blockEnd, .blockEnd, .streamEnd]

def valveRoot : Node :=
  .mapping none [(leaf "protocol", .mapping none
    [(leaf "subsystem", leaf "valve"), (leaf "subsystem_id", leaf "6"),
     (leaf "frames", .sequence none [.mapping none
       [(leaf "name", leaf "state"), (leaf "frame_id", leaf "4"),
        (leaf "fields", .sequence none [.mapping none
          [(leaf "name", leaf "open"), (leaf "type", leaf "bool"),
           (leaf "health_checks", .sequence none
             [.mapping none [(leaf "type", leaf "exact"), (leaf "value", leaf "true"),
               (leaf "description", .scalar none .doubleQuoted "stuck\ntypedef struct")]])]])]])])]

set_option maxRecDepth 4000 in
theorem valve_accepted : valve.Accepted := by
  have lexed : ∃ cs, valveText.toList = cs ∧ readableWindows cs.length cs = (cs, true) ∧ unifyBreaks cs = cs ∧
      tokens cs true = valveTokens := by
    refine ⟨_, String.toList_ofList, ?_, ?_, ?_⟩ <;> decide +kernel
  have parsed : Yaml.Document.ofTokens valveTokens = ⟨valveRoot, [], true⟩ := by cbv
  obtain ⟨cs, hcs, hreadable, hbreaks, htokens⟩ := lexed
  exact ⟨_, valveText, ofText_eq_ok hcs hreadable hbreaks htokens parsed rfl rfl⟩

end Document

theorem Compiler.valve_laidOut {root : String} {protocols : List Layout.Protocol}
    (h : (atRoot root).build [Document.valve] = .ok protocols) :
    ∃ p ∈ protocols, p.subsystem = "valve" ∧ p.source = ⟨"valve.yaml"⟩ ∧
      (p.frames.map fun frame => Emission.frameBlock (({} : Naming).frameType p.subsystem frame.name) frame) =
        ["uint8_t open; /* offset 0, 1 byte */\n\x7d KSRP_Valve_State_Frame;"] := by
  rw [build_singleton] at h
  obtain ⟨p, hp, hprotocols⟩ := bind_eq_ok.mp h
  obtain rfl := pure_eq_ok.mp hprotocols
  have laid : (Layout.ofDocument {} Document.valve).toOption.map (fun p => (p.subsystem, p.source,
      p.frames.map fun frame => Emission.frameBlock (({} : Naming).frameType p.subsystem frame.name) frame)) =
      some ("valve", ⟨"valve.yaml"⟩, ["uint8_t open; /* offset 0, 1 byte */\n\x7d KSRP_Valve_State_Frame;"]) := by
    decide +kernel
  rw [show Layout.ofDocument {} Document.valve = .ok p from hp] at laid
  obtain ⟨hname, hrest⟩ := Prod.mk.inj (Option.some.inj laid)
  exact ⟨p, List.mem_singleton_self p, hname, Prod.mk.inj hrest⟩

theorem Compiler.valve_checked : ∃ protocols outline symbols, ofDefaults.build [Document.valve] = .ok protocols ∧
    ofDefaults.checkedOutline protocols = .ok (outline, symbols) := by
  refine checked_of_isOk ?_
  rw [build_singleton]
  decide +kernel

namespace Emission

open C Declaration Outline
open Text (OneLine)

/-- Line by line, the header of a protocol holds the structs of its frames in their order, and nothing else that looks
like one. The include root is the only text that must not open a struct itself, and the name of the document the only one
that must not break its line. -/
theorem structs_read_back {options : CompilerOptions} {c : Compiler} {disk : Files.Disk} {documents : List Document}
    {compilation : Compilation} (hc : Compiler.ofOptions options = .ok c) (he : c.options.emitter = .construct)
    (hroot : ¬"\ntypedef struct".toList <:+: c.options.includeRoot.toList) (hd : ∀ d ∈ documents, d.Accepted)
    (h : c.compile disk documents = .ok compilation) :
    ∀ p ∈ compilation.protocols, '\n' ∉ (p.source.fileName?.getD p.source.text).toList →
      ∃ text, compilation.artifacts.text? ⟨protocolPath p.subsystem⟩ = some text ∧
        structBlocks text = p.frames.map fun frame => frameBlock (c.naming.frameType p.subsystem frame.name) frame := by
  intro p hp hsource
  have files : ∀ file ∈ supportHeaders ++ [commonPath], OneLine file := by decide
  have none := structBlocks_of_compile hc he hd h hp hsource (fun _ => []) fun file hfile =>
    adds_inclusion hroot (files file hfile)
  rwa [List.flatMap_eq_nil_iff.mpr fun _ _ => rfl] at none

/-- A description that breaks its line in front of the start of a struct, at an include root that breaks its own. -/
theorem structs_read_back_valve : ∃ compilation text,
    (Compiler.atRoot "a\nb").compile ⟨.folder [], []⟩ [Document.valve] = .ok compilation ∧
      compilation.artifacts.text? ⟨"protocols/subsystems/valve_protocol.h"⟩ = some text ∧
      structBlocks text = ["uint8_t open; /* offset 0, 1 byte */\n\x7d KSRP_Valve_State_Frame;"] := by
  have haccepted : ∀ d ∈ [Document.valve], d.Accepted := by simpa using Document.valve_accepted
  obtain ⟨compilation, h⟩ := compiles_atRoot "a\nb" ⟨.folder [], []⟩ haccepted Compiler.valve_checked
  obtain ⟨p, hp, hpath, hsource, hblocks⟩ := Compiler.valve_laidOut (Compiler.compile_eq_ok h).1
  have hoptions : Compiler.ofOptions { includeRoot := "a\nb", emitter := .construct } = .ok (Compiler.atRoot "a\nb") := rfl
  obtain ⟨text, htext, hread⟩ := structs_read_back hoptions rfl (by decide) haccepted h p hp (hsource ▸ by decide)
  rw [hpath] at htext
  exact ⟨compilation, text, h, htext, hread.trans hblocks⟩

/-- An include root that opens a struct and closes it. -/
def structRoot : String := "a\ntypedef struct\n\x7d"

theorem adds_inclusion_structRoot {file : String} (hfile : OneLine file) :
    Adds ((inclusion (structRoot ++ "/" ++ file) false).text ++ "\n") ["\x7d/" ++ file ++ "\""] := by
  have split : ((inclusion (structRoot ++ "/" ++ file) false).text ++ "\n").toList =
      "#include \"a".toList ++ '\n' :: ("typedef struct".toList ++ '\n' ::
        (("\x7d/" ++ file ++ "\"").toList ++ ['\n'])) := by
    rw [text_inclusion, if_neg (by decide), structRoot]
    simp
  have last : OneLine ("\x7d/" ++ file ++ "\"") := by simp +decide [hfile]
  have kept : Text.dropReturn ("\x7d/" ++ file ++ "\"").toList = ("\x7d/" ++ file ++ "\"").toList := by
    exact Text.dropReturn_append (b := "\"") (c := '"') (by decide) (by decide)
  intro closed rest
  have opened : Blocks.next (Blocks.next ⟨closed, none⟩ (Text.dropReturn "#include \"a".toList))
      (Text.dropReturn "typedef struct".toList) = ⟨closed, some ""⟩ := rfl
  have closes : Blocks.next ⟨closed, some ""⟩ ("\x7d/" ++ file ++ "\"").toList =
      ⟨closed ++ ["\x7d/" ++ file ++ "\""], none⟩ := by
    have start : ¬opening <+: ("\x7d/" ++ file ++ "\"").toList := by
      rw [String.append_assoc, String.toList_append]
      exact not_prefix_of_start (by decide) _
    have first : ("\x7d/" ++ file ++ "\"").toList.head? = some '\x7d' := by simp
    rw [Blocks.next, if_neg start, if_pos first]
    show Blocks.mk (closed ++ ["" ++ String.ofList _]) none = _
    rw [String.ofList_toList, String.empty_append]
  rw [split]
  simp only [List.append_assoc, List.cons_append, List.nil_append]
  rw [Blocks.scan_break _ (by decide), Blocks.scan_break _ (by decide), opened, Blocks.scan_break _ last, kept, closes]

/-- Each include line of the header adds a struct here. -/
theorem include_root_opens_structs : ∃ compilation, ∃ p ∈ compilation.protocols, ∃ text,
    Compiler.ofOptions { includeRoot := structRoot, emitter := .construct } = .ok (Compiler.atRoot structRoot) ∧
      Document.valve.Accepted ∧
      (Compiler.atRoot structRoot).compile ⟨.folder [], []⟩ [Document.valve] = .ok compilation ∧
      '\n' ∉ (p.source.fileName?.getD p.source.text).toList ∧
      compilation.artifacts.text? ⟨protocolPath p.subsystem⟩ = some text ∧
      structBlocks text ≠
        p.frames.map fun frame => frameBlock (({} : Naming).frameType p.subsystem frame.name) frame := by
  have haccepted : ∀ d ∈ [Document.valve], d.Accepted := by simpa using Document.valve_accepted
  obtain ⟨compilation, h⟩ := compiles_atRoot structRoot ⟨.folder [], []⟩ haccepted Compiler.valve_checked
  obtain ⟨p, hp, -, hsource, -⟩ := Compiler.valve_laidOut (Compiler.compile_eq_ok h).1
  have files : ∀ file ∈ supportHeaders ++ [commonPath], OneLine file := by decide
  have hoptions : Compiler.ofOptions { includeRoot := structRoot, emitter := .construct } =
    .ok (Compiler.atRoot structRoot) := rfl
  have hbreak : '\n' ∉ (p.source.fileName?.getD p.source.text).toList := hsource ▸ by decide
  obtain ⟨text, htext, hread⟩ := structBlocks_of_compile hoptions rfl haccepted h hp hbreak _ fun file hfile =>
    adds_inclusion_structRoot (files file hfile)
  refine ⟨compilation, p, hp, text, hoptions, Document.valve_accepted, h, hbreak, htext, fun hsame => ?_⟩
  have lengths := congrArg List.length (hread.symm.trans hsame)
  rw [List.length_append, List.length_map, List.length_map] at lengths
  have three : ((supportHeaders ++ [commonPath]).flatMap fun file => ["\x7d/" ++ file ++ "\""]).length = 3 := rfl
  omega

end Emission

end StatusFrames
