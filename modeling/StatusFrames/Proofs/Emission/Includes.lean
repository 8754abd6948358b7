/-
What headers include. Every header has its own list of files below the include root. Its include lines name them in order
and with nothing behind them exactly if the root has no quote and no line feed, which is not checked.
-/
import StatusFrames.Proofs.C.Includes
import StatusFrames.Proofs.Emission.Blocks

namespace StatusFrames

open Text (OneLine)

namespace Emission

open C Declaration Outline

/-! ## Headers -/

theorem includes_frameBlocks {f : Frame} (h : f.OnLines) : Includes (paragraphs (frameBlocks f)) [] := by
  obtain ⟨front, back, hsplit, hfront, hback⟩ := plain_frameBlocks h
  have struct : Includes (paragraphs [record f.typeName true (f.fields.map memberOf)]) [] :=
    includes_record h.typeName true (onLine_members h)
  rw [hsplit, paragraphs_append, paragraphs_append]
  exact ((includes_plain hfront).prepend struct).prepend (includes_plain hback)

/-- The comment and the include lines at the top of a header. -/
theorem includes_opening {header : Header} (h : header.OnLines) (title : String) :
    Includes (paragraphs ([.comment title] ++ inclusions header))
      (includedNames ((comment title).text ++ "\n") ++ header.includes.map includedName) := by
  have first : Includes (paragraphs [.comment title]) (includedNames ((comment title).text ++ "\n")) := by
    rw [paragraphs_singleton rfl]
    exact (Includes.of_plain .blank).prepend (Includes.of_break _)
  have system : Includes (paragraphs [lines (header.systemIncludes.map (inclusion · true))]) [] :=
    includes_plain (List.forall_mem_singleton.mpr (plain_systemInclusions h.systemIncludes))
  have all : Includes (paragraphs (inclusions header)) (header.includes.map includedName) := by
    rw [inclusions, paragraphs_cons]
    exact system.prepend (includes_inclusions h.includes)
  rw [paragraphs_append]
  exact first.append all

/-- A header includes what its own list holds, if the rest of it includes nothing. -/
theorem includedNames_header {header : Header} (h : header.OnLines) (title : String) {rest : List Declaration}
    (hrest : Includes (paragraphs rest) []) :
    includedNames (guard header.guard ([.comment title] ++ inclusions header ++ rest)).text =
      includedNames ((comment title).text ++ "\n") ++ header.includes.map includedName := by
  have body : Includes (paragraphs ([.comment title] ++ inclusions header ++ rest) ++ "\n")
      (includedNames ((comment title).text ++ "\n") ++ header.includes.map includedName) := by
    have all := (includes_opening h title).append (hrest.prepend (Includes.of_plain .blank))
    rwa [← String.append_assoc, ← paragraphs_append, List.append_nil] at all
  have text : (guard header.guard ([.comment title] ++ inclusions header ++ rest)).text =
      guarded header.guard (paragraphs ([.comment title] ++ inclusions header ++ rest)) :=
    text_guard header.guard title (inclusions header ++ rest)
  rw [text, includedNames_guarded h.guard, includedNames_eq body]

/-- What looks like an include line in the comment of a header, whose document may have line breaks in its name. -/
def commented (source : String) : List (Option (String × String)) :=
  includedNames ((comment (banner (some source))).text ++ "\n")

theorem includedNames_comment {title : String} (h : OneLine title) :
    includedNames ((comment title).text ++ "\n") = [] :=
  includedNames_eq (Includes.of_plain (plain_comment h))

theorem commented_eq_nil {source : String} (h : OneLine source) : commented source = [] := by
  refine includedNames_comment ?_
  unfold banner
  simp +decide [h]

theorem includedNames_protocolHeader {p : Protocol} (h : p.OnLines) (hheader : p.header.OnLines) :
    includedNames (protocolHeader p).text = commented p.source ++ p.header.includes.map includedName := by
  have htitle : OneLine ("Frame ids of subsystem '" ++ p.subsystem ++ "'") := by simp +decide [h.subsystem]
  have ids := plain_ids h.frameIds htitle
  have frames : Includes (paragraphs (p.frames.flatMap frameBlocks)) [] := by
    have all := Includes.join fun f hf => includes_frameBlocks (h.frames f hf)
    rwa [← paragraphs_flatMap, List.flatMap_eq_nil_iff.mpr fun _ _ => rfl] at all
  rw [protocolHeader, List.append_assoc (_ ++ inclusions p.header), includedNames_header hheader]
  · rfl
  · rw [paragraphs_append]
    exact (includes_plain (List.forall_mem_singleton.mpr ids)).prepend frames

theorem includedNames_plainHeader {header : Header} (h : header.OnLines) {rest : List Declaration}
    (hrest : Includes (paragraphs rest) []) :
    includedNames (guard header.guard ([.comment (banner none)] ++ inclusions header ++ rest)).text =
      header.includes.map includedName := by
  rw [includedNames_header h _ hrest, includedNames_comment (by decide), List.nil_append]

theorem includedNames_instanceHeader {i : Instance} (h : i.OnLines) (hheader : i.header.OnLines) :
    includedNames (instanceHeader i).text = i.header.includes.map includedName := by
  have uncommented : ∀ cType name, ∀ comment ∈ (Member.plain cType name).comment, OneLine comment :=
    fun _ _ comment hcomment => absurd hcomment (Option.not_mem_none comment)
  have frames : ∀ m ∈ i.members.map fun m => Member.plain m.frameType m.frameMember, OnLine m :=
    List.forall_mem_map.mpr fun m hm => ⟨h.frameTypes m hm, (h.memberNames m hm).1, uncommented _ _⟩
  have clocks : ∀ m ∈ i.members.map fun m => Member.plain i.clockType m.clockMember, OnLine m :=
    List.forall_mem_map.mpr fun m hm => ⟨h.clockType, (h.memberNames m hm).2, uncommented _ _⟩
  have struct := includes_record h.typeName false (List.forall_mem_append.mpr ⟨frames, clocks⟩)
  rw [instanceHeader]
  refine includedNames_plainHeader hheader ?_
  rw [paragraphs_cons]
  exact struct.prepend (includes_plain (List.forall_mem_singleton.mpr (plain_functions h.prototypes)))

theorem plain_noSubsystemIds {typeName : String} (h : OneLine typeName) :
    PlainText (noSubsystemIds typeName ++ "\n") := by
  have split : noSubsystemIds typeName ++ "\n" = "\n" ++ ((comment "Subsystem ids").text ++ "\n" ++
      ("typedef enum" ++ " \x7b" ++ "\n" ++ ("\x7d " ++ (typeName ++ ";") ++ "\n" ++ "\n"))) := by
    unfold noSubsystemIds
    rw [show "\n/* Subsystem ids */\n" = "\n" ++ ((comment "Subsystem ids").text ++ "\n") from rfl,
      show "typedef enum \x7b\n\x7d " = "typedef enum" ++ " \x7b" ++ "\n" ++ "\x7d " from rfl]
    simp only [String.append_assoc]
  have title : (comment "Subsystem ids").Plain := plain_comment (by decide)
  have first : PlainText ("typedef enum" ++ " \x7b" ++ "\n") := PlainText.start (by decide) (by decide)
  have last : PlainText ("\x7d " ++ (typeName ++ ";") ++ "\n") := PlainText.start (by decide) (by simp +decide [h])
  rw [split]
  exact PlainText.blank.append (title.append (first.append (last.append .blank)))

section

variable {o : Outline} (h : o.OnLines)

include h

theorem includedNames_commonHeader (hheader : o.common.OnLines) :
    includedNames (commonHeader o).text = o.common.includes.map includedName := by
  rw [commonHeader]
  exact includedNames_plainHeader hheader
    (includes_plain (List.forall_mem_singleton.mpr (plain_ids h.subsystemIds (by decide))))

theorem includedNames_bareCommonHeader (hheader : o.common.OnLines) :
    includedNames (bareCommonHeader o) = o.common.includes.map includedName := by
  have ids := Includes.of_plain (plain_noSubsystemIds h.subsystemIds.typeName)
  rw [bareCommonHeader, includedNames_guarded hheader.guard, String.append_assoc,
    includedNames_eq ((includes_opening hheader _).append ids), includedNames_comment (by decide), List.nil_append,
    List.append_nil]

theorem includedNames_utilsHeader (hheader : o.utils.OnLines) :
    includedNames (utilsHeader o).text = o.utils.includes.map includedName := by
  have dispatch : ∀ d ∈ o.protocols.map fun p => lines (p.dispatch.map prototype), d.Plain :=
    List.forall_mem_map.mpr fun p hp => plain_functions (h.dispatch p hp)
  rw [utilsHeader, List.append_assoc (_ ++ inclusions o.utils)]
  exact includedNames_plainHeader hheader
    (includes_plain (List.forall_mem_cons.mpr ⟨plain_constant h.subsystemCount, dispatch⟩))

end

/-! ## Compilations -/

section

variable {options : CompilerOptions} {c : Compiler} {disk : Files.Disk} {documents : List Document}
  {compilation : Compilation}

theorem length_headerTrees (s : Setting) (protocols : List Layout.Protocol) :
    (headerTrees (ofLayouts s protocols)).length = 2 * protocols.length + 2 := by
  simp [headerTrees, ofLayouts, List.length_flatMap, Function.comp_def, Nat.mul_comm]

theorem onLines_common {o : Outline} (h : o.OnLines) (hcommon : o.common.systemIncludes = ["stdint.h"])
    (hincludes : o.common.includes = []) : o.common.OnLines :=
  ⟨h.commonGuard, by rw [hcommon]; decide, by simp [hincludes]⟩

/-- Without documents, templates write the two headers that do not belong to a subsystem. -/
theorem headers_of_bare {s : Setting} {artifacts : Artifacts} (h : (ofLayouts s []).OnLines)
    (hwritten : fromTemplates disk none (ofLayouts s []) = .ok artifacts) :
    artifacts.length = 2 ∧ ∀ header ∈ headerTrees (ofLayouts s []), ∃ text,
      artifacts.text? ⟨header.1⟩ = some text ∧ includedNames text = includedNames header.2.text := by
  have hcommon := onLines_common h rfl rfl
  have distinct : ([commonPath, utilsPath].map fun path => (Files.Path.mk path).components).Nodup := by decide
  rw [fromTemplates_bare disk (by simp [ofLayouts]) (by simp [ofLayouts]) rfl rfl] at hwritten
  have found : ∀ {path text : String}, (path, text) ∈ _ → artifacts.text? ⟨path⟩ = some text := fun hmem =>
    Artifacts.text?_of_insertAll hwritten distinct hmem
  refine ⟨(Artifacts.insertAll_perm hwritten).length_eq, List.forall_mem_cons.mpr ⟨?_, List.forall_mem_singleton.mpr ?_⟩⟩
  · refine ⟨_, found List.mem_cons_self, ?_⟩
    rw [includedNames_bareCommonHeader h hcommon, includedNames_commonHeader h hcommon]
  · exact ⟨_, found (List.mem_cons_of_mem _ List.mem_cons_self), rfl⟩

/-- A compilation holds a text for every header, which includes what the tree of the header does. -/
theorem headers_of_compile (hc : Compiler.ofOptions options = .ok c)
    (hw : c.options.emitter = .construct ∨ c.options.templates = none) (hd : ∀ d ∈ documents, d.Accepted)
    (h : c.compile disk documents = .ok compilation) :
    compilation.artifacts.length = 2 * compilation.protocols.length + 2 ∧
      ∀ header ∈ headerTrees (c.outline compilation.protocols), ∃ text,
        compilation.artifacts.text? ⟨header.1⟩ = some text ∧ includedNames text = includedNames header.2.text := by
  obtain ⟨hlead, -, -⟩ := Compiler.ofOptions_eq_ok hc
  obtain ⟨hbuild, hemit, -⟩ := Compiler.compile_eq_ok h
  have built := Compiler.built_of_build hbuild
  by_cases htrees : c.options.emitter = .construct ∨ c.options.templates = none ∧ documents ≠ []
  · rw [emit_eq_fromTrees disk hc htrees hd built] at hemit
    refine ⟨?_, fun header hmem => ⟨_, text?_of_fromTrees built hd hemit hmem, rfl⟩⟩
    rw [(fromTrees_perm hemit).length_eq, List.length_map]
    exact length_headerTrees _ _
  · have hemitter : c.options.emitter = .template := by
      cases he : c.options.emitter with
      | template => rfl
      | construct => exact absurd (.inl he) htrees
    have hnone := hw.resolve_left (by simp [hemitter])
    have hprotocols : compilation.protocols = [] := by
      refine List.eq_nil_iff_forall_not_mem.mpr fun p hp => ?_
      obtain ⟨d, hmem, -⟩ := built.origin hp
      exact htrees (.inr ⟨hnone, List.ne_nil_of_mem hmem⟩)
    simp only [Compiler.emit, hemitter, hnone] at hemit
    rw [hprotocols] at hemit ⊢
    exact headers_of_bare (onLines_ofLayouts hlead fun p hp => absurd hp List.not_mem_nil) hemit

/-! ## What is included -/

/-- The headers of a compilation include their files, each of them named in the way given. -/
structure IncludesAs (name : String → Option (String × String)) (protocols : List Layout.Protocol)
    (artifacts : Artifacts) : Prop where
  protocolHeaders : ∀ p ∈ protocols, ∃ text, artifacts.text? ⟨protocolPath p.subsystem⟩ = some text ∧
    includedNames text = commented (p.source.fileName?.getD p.source.text) ++ (supportHeaders ++ [commonPath]).map name
  instanceHeaders : ∀ p ∈ protocols, ∃ text, artifacts.text? ⟨instancePath p.subsystem⟩ = some text ∧
    includedNames text = (supportHeaders ++ [protocolPath p.subsystem]).map name
  commonHeader : ∃ text, artifacts.text? ⟨commonPath⟩ = some text ∧ includedNames text = []
  utilsHeader : ∃ text, artifacts.text? ⟨utilsPath⟩ = some text ∧
    includedNames text = (commonPath :: protocols.map fun p => protocolPath p.subsystem).map name

theorem oneLine_protocolPath {subsystem : String} (h : Text.isIdentifier subsystem = true) :
    OneLine (protocolPath subsystem) := by
  unfold protocolPath
  simp +decide [Text.oneLine_of_isIdentifier h]

theorem onLines_header {s : Setting} (hroot : OneLine s.includeRoot) {header : Header} {files : List String}
    (hguard : OneLine header.guard) (hsystem : header.systemIncludes ⊆ ["stdint.h", "stdbool.h", "stddef.h"])
    (hincludes : header.includes = files.map s.includePath) (hfiles : ∀ file ∈ files, OneLine file) :
    header.OnLines := by
  have system : ∀ path ∈ ["stdint.h", "stdbool.h", "stddef.h"], OneLine path := by decide
  refine ⟨hguard, fun path hpath => system path (hsystem hpath), ?_⟩
  rw [hincludes]
  refine List.forall_mem_map.mpr fun file hfile => ?_
  unfold Setting.includePath
  simp +decide [hroot, hfiles file hfile]

/-- Include lines for a root that has no line break, whatever else it has. -/
theorem includesAs_of_compile (hc : Compiler.ofOptions options = .ok c)
    (hw : c.options.emitter = .construct ∨ c.options.templates = none) (hroot : OneLine c.options.includeRoot)
    (hd : ∀ d ∈ documents, d.Accepted) (h : c.compile disk documents = .ok compilation) :
    IncludesAs (fun file => includedName (c.options.includeRoot ++ "/" ++ file)) compilation.protocols
      compilation.artifacts := by
  obtain ⟨hlead, -, -⟩ := Compiler.ofOptions_eq_ok hc
  have built := Compiler.built_of_build (Compiler.compile_eq_ok h).1
  have origin : ∀ p ∈ compilation.protocols, ∃ d : Document, d.Accepted ∧ p.Placed c.naming d := by
    intro p hp
    obtain ⟨d, hmem, hplaced⟩ := built.origin hp
    exact ⟨d, hd d hmem, hplaced⟩
  obtain ⟨-, headers⟩ := headers_of_compile hc hw hd h
  have outlined := onLines_ofLayouts (s := ⟨c.naming, c.options.includeRoot⟩) hlead origin
  have support : ∀ file ∈ supportHeaders ++ [commonPath], OneLine file := by decide
  have paths : ∀ p ∈ compilation.protocols, OneLine (protocolPath p.subsystem) := fun p hp =>
    oneLine_protocolPath (built.subsystem_isIdentifier hd p hp)
  refine ⟨fun p hp => ?_, fun p hp => ?_, ?_, ?_⟩
  · obtain ⟨text, htext, hsame⟩ := headers _ (protocolHeader_mem hp)
    obtain ⟨d, haccepted, hplaced⟩ := origin p hp
    have lines := onLines_ofProtocol (s := ⟨c.naming, c.options.includeRoot⟩) hlead haccepted hplaced
    have header := onLines_header hroot lines.guard (by simp [ofProtocol]) rfl support
    refine ⟨text, htext, hsame.trans ((includedNames_protocolHeader lines header).trans ?_)⟩
    rw [ofProtocol, List.map_map]
    rfl
  · obtain ⟨text, htext, hsame⟩ := headers _ (instanceHeader_mem hp)
    obtain ⟨d, haccepted, hplaced⟩ := origin p hp
    have lines := onLines_ofInstance (s := ⟨c.naming, c.options.includeRoot⟩) hlead haccepted hplaced
    have header := onLines_header hroot lines.guard (by simp [ofInstance]) rfl
      (List.forall_mem_append.mpr ⟨(List.forall_mem_append.mp support).1, List.forall_mem_singleton.mpr (paths p hp)⟩)
    refine ⟨text, htext, hsame.trans ((includedNames_instanceHeader lines header).trans ?_)⟩
    rw [ofInstance, List.map_map]
    rfl
  · obtain ⟨text, htext, hsame⟩ := headers _ (List.mem_append_right _ List.mem_cons_self)
    exact ⟨text, htext, hsame.trans (includedNames_commonHeader outlined (onLines_common outlined rfl rfl))⟩
  · obtain ⟨text, htext, hsame⟩ := headers _ (List.mem_append_right _ (List.mem_cons_of_mem _ List.mem_cons_self))
    have header := onLines_header hroot outlined.utilsGuard (by simp [ofLayouts]) rfl
      (List.forall_mem_cons.mpr ⟨by decide, List.forall_mem_map.mpr (List.forall_mem_map.mpr paths)⟩)
    refine ⟨text, htext, hsame.trans ((includedNames_utilsHeader outlined header).trans ?_)⟩
    simp only [ofLayouts, List.map_cons, List.map_map]
    rfl

/-- The files that headers include. -/
def includedFiles (protocols : List Layout.Protocol) : List String :=
  supportHeaders ++ [commonPath] ++ protocols.map fun p => protocolPath p.subsystem

theorem IncludesAs.congr {f g : String → Option (String × String)} {protocols : List Layout.Protocol}
    {artifacts : Artifacts} (h : IncludesAs f protocols artifacts)
    (hfg : ∀ file ∈ includedFiles protocols, f file = g file) : IncludesAs g protocols artifacts := by
  have same : ∀ {files : List String}, files ⊆ includedFiles protocols → files.map f = files.map g := fun hsub =>
    List.map_congr_left fun file hfile => hfg file (hsub hfile)
  obtain ⟨ofProtocols, ofInstances, ofCommon, ofUtils⟩ := h
  refine ⟨fun p hp => ?_, fun p hp => ?_, ofCommon, ?_⟩
  · rw [← same (by simp [includedFiles])]
    exact ofProtocols p hp
  · have own : protocolPath p.subsystem ∈ includedFiles protocols :=
      List.mem_append_right _ (List.mem_map.mpr ⟨p, hp, rfl⟩)
    have files : supportHeaders ++ [protocolPath p.subsystem] ⊆ includedFiles protocols :=
      List.append_subset.mpr ⟨by simp [includedFiles], by simpa using own⟩
    rw [← same files]
    exact ofInstances p hp
  · rw [← same (by simp [includedFiles])]
    exact ofUtils

theorem quote_not_mem_includedFiles {protocols : List Layout.Protocol}
    (h : ∀ p ∈ protocols, Text.isIdentifier p.subsystem = true) :
    ∀ file ∈ includedFiles protocols, '"' ∉ file.toList := by
  refine List.forall_mem_append.mpr ⟨by decide, List.forall_mem_map.mpr fun p hp => ?_⟩
  have name : '"' ∉ p.subsystem.toList := fun hmem =>
    absurd (Text.isNameChar_of_isIdentifier (h p hp) _ hmem) (by decide)
  unfold protocolPath
  simp [name]

/-- A file below a root, with nothing behind it. -/
def named (root file : String) : Option (String × String) := some (root ++ "/" ++ file, "")

/-- The include lines of all headers name their files below the include root, with nothing behind them, if and only if the
root has no quote and no line feed. Only line feeds end a line here; a return in the root stays part of the name. -/
theorem includes_named_iff (hc : Compiler.ofOptions options = .ok c)
    (hw : c.options.emitter = .construct ∨ c.options.templates = none) (hd : ∀ d ∈ documents, d.Accepted)
    (h : c.compile disk documents = .ok compilation) :
    compilation.artifacts.length = 2 * compilation.protocols.length + 2 ∧
      (IncludesAs (named c.options.includeRoot) compilation.protocols compilation.artifacts ↔
        '"' ∉ c.options.includeRoot.toList ∧ '\n' ∉ c.options.includeRoot.toList) := by
  refine ⟨(headers_of_compile hc hw hd h).1, fun included => ?_, fun hroot => ?_⟩
  · obtain ⟨text, -, hnames⟩ := included.utilsHeader
    have first : named c.options.includeRoot commonPath ∈ includedNames text := hnames ▸ List.mem_cons_self
    obtain ⟨hquote, hbreak⟩ := plain_of_mem_includedNames first
    exact ⟨fun hmem => hquote (by simp [hmem]), fun hmem => hbreak (by simp [hmem])⟩
  · obtain ⟨hquote, hbreak⟩ := hroot
    have built := Compiler.built_of_build (Compiler.compile_eq_ok h).1
    refine (includesAs_of_compile hc hw hbreak hd h).congr fun file hfile => includedName_eq ?_
    have plain := quote_not_mem_includedFiles (built.subsystem_isIdentifier hd) file hfile
    simp [hquote, plain]

end

/-- Slashes that are doubled or stand at the end of the root are kept. -/
theorem includes_named_doubled_slashes : ∃ compilation,
    (Compiler.atRoot "a//b/").compile ⟨.folder [], []⟩ [Document.valve] = .ok compilation ∧
      compilation.artifacts.length = 2 * compilation.protocols.length + 2 ∧
      IncludesAs (named "a//b/") compilation.protocols compilation.artifacts := by
  have haccepted : ∀ d ∈ [Document.valve], d.Accepted := by simpa using Document.valve_accepted
  obtain ⟨compilation, h⟩ := compiles_atRoot "a//b/" ⟨.folder [], []⟩ haccepted Compiler.valve_checked
  have hoptions : Compiler.ofOptions { includeRoot := "a//b/", emitter := .construct } = .ok (Compiler.atRoot "a//b/") :=
    rfl
  obtain ⟨hlength, hnamed⟩ := includes_named_iff hoptions (.inl rfl) haccepted h
  exact ⟨compilation, h, hlength, hnamed.mpr (by decide)⟩

/-- An include root with a quote. -/
def quotedRoot : String := "a\"b"

theorem includedName_quotedRoot (file : String) :
    includedName (quotedRoot ++ "/" ++ file) = some ("a", "b/" ++ file ++ "\"") := by
  have split : quotedRoot ++ "/" ++ file = "a" ++ "\"" ++ ("b/" ++ file) := by
    rw [← String.append_assoc]
    rfl
  rw [split, includedName_cut (by decide)]

/-- The names in the include lines end at the quote of the root, and the rest of them stands behind. -/
theorem quoted_root_cuts_names : ∃ compilation text,
    Compiler.ofOptions { includeRoot := quotedRoot, emitter := .construct } = .ok (Compiler.atRoot quotedRoot) ∧
      Document.valve.Accepted ∧
      (Compiler.atRoot quotedRoot).compile ⟨.folder [], []⟩ [Document.valve] = .ok compilation ∧
      compilation.artifacts.text? ⟨"protocols/subsystems/valve_protocol.h"⟩ = some text ∧
      includedNames text =
        [some ("a", "b/frames.h\""), some ("a", "b/common.h\""), some ("a", "b/protocols/protocol_common.h\"")] := by
  have haccepted : ∀ d ∈ [Document.valve], d.Accepted := by simpa using Document.valve_accepted
  obtain ⟨compilation, h⟩ := compiles_atRoot quotedRoot ⟨.folder [], []⟩ haccepted Compiler.valve_checked
  obtain ⟨p, hp, hpath, hsource, -⟩ := Compiler.valve_laidOut (Compiler.compile_eq_ok h).1
  have hoptions : Compiler.ofOptions { includeRoot := quotedRoot, emitter := .construct } =
    .ok (Compiler.atRoot quotedRoot) := rfl
  have included := includesAs_of_compile hoptions (.inl rfl) (by decide) haccepted h
  obtain ⟨text, htext, hnames⟩ := included.protocolHeaders p hp
  rw [hpath] at htext
  rw [commented_eq_nil (hsource ▸ by decide)] at hnames
  refine ⟨compilation, text, hoptions, Document.valve_accepted, h, htext, hnames.trans ?_⟩
  show (supportHeaders ++ [commonPath]).map (fun file => includedName (quotedRoot ++ "/" ++ file)) = _
  simp only [includedName_quotedRoot]
  decide

end Emission

end StatusFrames
