/-
The four kinds of headers. What a template prints for a header is the text of the header's declaration tree.
-/
import StatusFrames.Emission.Templates
import StatusFrames.Proofs.Emission.FrameTexts

namespace StatusFrames.Outline

/-- What both ways to write the headers of a protocol take for granted. -/
structure Protocol.Regular (p : Protocol) : Prop where
  systemIncludes : p.header.systemIncludes ≠ []
  frameIds : p.frameIds.enumerators ≠ []
  frames : ∀ f ∈ p.frames, f.Regular
  dispatched : p.dispatch ≠ []
  dispatch : ∀ f ∈ p.dispatch, f.Regular
  instanceIncludes : p.instanceOutline.header.systemIncludes ≠ []
  instantiated : p.instanceOutline.prototypes ≠ []
  prototypes : ∀ f ∈ p.instanceOutline.prototypes, f.Regular

end StatusFrames.Outline

namespace StatusFrames

/-- What both ways to write the headers of an outline take for granted. -/
structure Outline.Regular (o : Outline) : Prop where
  commonIncludes : o.common.systemIncludes ≠ []
  utilsIncludes : o.utils.systemIncludes ≠ []
  subsystemIds : o.subsystemIds.enumerators ≠ []
  protocols : ∀ p ∈ o.protocols, p.Regular

end StatusFrames

namespace StatusFrames.Emission

open Template

/-! ## The frame of a header -/

/-- What a template knows about its own header. -/
structure Knows (m : Machine) (h : Outline.Header) : Prop where
  guard : m.lookup "guard" = .data (.text h.guard)
  systemIncludes : m.lookup "clibraries" = .data (Outline.texts h.systemIncludes)
  includes : m.lookup "libraries" = .data (Outline.texts h.includes)

section
variable {s : Surroundings} {m : Machine} {h : Outline.Header}

theorem paragraphs_comment (text : String) : Declaration.paragraphs [.comment text] = "\n/* " ++ (text ++ " */\n") := by
  rw [Declaration.paragraphs_singleton rfl, Declaration.text_comment, show "\n/* " = "\n" ++ "/* " from rfl,
    show " */\n" = " */" ++ "\n" from rfl]
  simp only [String.append_assoc]

/-- The lines that include headers of one kind. -/
theorem runStatement_inclusions {x left right : String} {paths : List String} {system : Bool}
    (hdepth : m.depth ≤ Machine.maxDepth) (hx : m.lookup x = .data (Outline.texts paths))
    (htext : ∀ path, (Declaration.inclusion path system).text ++ "\n" = left ++ (path ++ right)) :
    runStatement s m (loop "header" (dotted x []) [.text left, shown "header" [], .text right]) =
      .ok (String.join (paths.map fun path => (Declaration.inclusion path system).text ++ "\n"), m) := by
  refine runStatement_each_join hdepth (evalExpr_dotted hx rfl) fun path _ state => ?_
  rw [htext]
  have run : Prints s (m.inLoop "header" (.text path) state) [.text left, shown "header" [], .text right] _ :=
    .text <| .shown Machine.lookup_inLoop_self rfl <| .text .nil
  simpa only [dataText_text, String.append_empty] using run

/-- The system headers come first, and the others are a paragraph of their own if there are any. -/
theorem prints_inclusionProgram (hdepth : m.depth ≤ Machine.maxDepth) (hm : Knows m h) :
    Prints s m inclusionProgram
      (String.join (h.systemIncludes.map fun path => (Declaration.inclusion path true).text ++ "\n") ++
        Declaration.paragraphs [.lines (h.includes.map (.inclusion · false))]) := by
  have system (path : String) : (Declaration.inclusion path true).text ++ "\n" = "#include <" ++ (path ++ ">\n") := by
    rw [Declaration.text_inclusion, if_pos rfl, show ">\n" = ">" ++ "\n" from rfl]
    simp only [String.append_assoc]
  have other (path : String) : (Declaration.inclusion path false).text ++ "\n" = "#include \"" ++ (path ++ "\"\n") := by
    rw [Declaration.text_inclusion, if_neg (by decide), show "\"\n" = "\"" ++ "\n" from rfl]
    simp only [String.append_assoc]
  have given : (Value.data (Outline.texts h.includes)).isTrue = .ok !h.includes.isEmpty := by
    rw [← List.isEmpty_map]
    rfl
  refine .cons (runStatement_inclusions hdepth hm.systemIncludes system) (.single ?_)
  rw [runStatement, evalExpr_dotted hm.includes rfl, ok_bind, given, ok_bind, Declaration.paragraphs_lines fun _ => rfl]
  cases h.includes.isEmpty with
  | true => rfl
  | false => exact Prints.text (.single (runStatement_inclusions hdepth hm.includes other))

theorem paragraphs_inclusions (hsystem : h.systemIncludes ≠ []) :
    Declaration.paragraphs (inclusions h) =
      "\n" ++ (String.join (h.systemIncludes.map fun path => (Declaration.inclusion path true).text ++ "\n") ++
        Declaration.paragraphs [.lines (h.includes.map (.inclusion · false))]) := by
  have occupied : h.systemIncludes.isEmpty = false := by simpa using hsystem
  rw [inclusions, Declaration.paragraphs_cons, Declaration.paragraphs_lines fun _ => rfl, occupied]
  simp only [Bool.false_eq_true, if_false, String.append_assoc]

/-- A header is written from its first comment and what stands behind the include lines. -/
theorem prints_guarded {banner body : List Statement} {comment text : String} (hdepth : m.depth ≤ Machine.maxDepth)
    (hm : Knows m h) (hsystem : h.systemIncludes ≠ []) (hbanner : Prints s m banner ("\n\n/* " ++ (comment ++ " */\n\n")))
    (hbody : Prints s m body (text ++ "\n#endif /* ")) :
    Prints s m (headerProgram banner body)
      (Declaration.guarded h.guard (Declaration.paragraphs ([.comment comment] ++ inclusions h) ++ text)) := by
  have opening : Prints s m openingProgram _ :=
    .text <| .shown hm.guard rfl <| .text <| .shown hm.guard rfl .nil
  have closing : Prints s m closingProgram _ := .shown hm.guard rfl <| .text .nil
  have run := (((opening.append hbanner).append (prints_inclusionProgram hdepth hm)).append hbody).append closing
  rw [show "\n\n/* " = "\n" ++ "\n/* " from rfl, show " */\n\n" = " */\n" ++ "\n" from rfl] at run
  rw [Declaration.guarded, Declaration.paragraphs_append, paragraphs_comment, paragraphs_inclusions hsystem]
  simpa only [headerProgram, dataText_text, String.append_assoc, String.append_empty] using run

/-- A header is written alike if its first comment and its declarations are. -/
theorem prints_headerProgram {banner body : List Statement} {comment : String} {ds : List Declaration}
    (hdepth : m.depth ≤ Machine.maxDepth) (hm : Knows m h) (hsystem : h.systemIncludes ≠ [])
    (hbanner : Prints s m banner ("\n\n/* " ++ (comment ++ " */\n\n")))
    (hbody : Prints s m body (Declaration.paragraphs ds ++ "\n#endif /* ")) :
    Prints s m (headerProgram banner body)
      (Declaration.guard h.guard ([.comment comment] ++ inclusions h ++ ds)).text := by
  have run := prints_guarded hdepth hm hsystem hbanner hbody
  rwa [← Declaration.paragraphs_append, List.append_assoc, List.singleton_append, ← Declaration.text_guard] at run

end

/-! ## What stands in the headers -/

section
variable {library : Library} {level : Nat} {m : Machine}

/-- An enumeration under a title. -/
theorem paragraphs_titled (title : String) (e : Outline.Enumeration) :
    Declaration.paragraphs [.titled title [enumeration e]] =
      "\n/* " ++ (title ++ (" */\n" ++ ((enumeration e).text ++ "\n"))) := by
  have items : Declaration.texts [enumeration e] = [(enumeration e).text] := rfl
  rw [Declaration.paragraphs_singleton rfl, Declaration.text_titled, items, String.intercalate_singleton,
    Declaration.commentText, show "\n/* " = "\n" ++ "/* " from rfl, show " */\n" = " */" ++ "\n" from rfl]
  simp only [String.append_assoc]

/-- A list of prototypes on lines of their own. -/
theorem runStatement_prototypes {x : String} {attributes : List String} {d : Data} {prototypes : List Outline.Prototype}
    (hm : Ready 7 m) (hx : m.lookup x = .data d)
    (hd : readPath d attributes = some (.ofList Outline.Prototype.toData prototypes))
    (hregular : ∀ p ∈ prototypes, p.Regular) :
    runStatement (surroundings library (level + 1)) m
        (loop "p" (dotted x attributes) [callOf "prototype" (dotted "p" []), .text "\n"]) =
      .ok (String.join (prototypes.map fun p => (prototype p).text ++ "\n"), m) := by
  refine runStatement_each_join hm.depth_le (evalExpr_dotted hx hd) fun p hp state => ?_
  have ready : Ready 6 (m.inLoop "p" p.toData state) := hm.inLoop (by decide)
  exact .cons (runStatement_prototype ready (hregular p hp) (evalExpr_dotted Machine.lookup_inLoop_self rfl)) <|
    .text .nil

theorem prints_framesProgram {p : Outline.Protocol} (hm : Ready 8 m) (hp : m.lookup "protocol" = .data p.toData)
    (h : p.Regular) :
    Prints (surroundings library (level + 1)) m framesProgram
      (Declaration.paragraphs
        ([.titled ("Frame ids of subsystem '" ++ p.subsystem ++ "'") [enumeration p.frameIds]] ++
          p.frames.flatMap frameBlocks) ++ "\n#endif /* ") := by
  have frames : runStatement (surroundings library (level + 1)) m
      (loop "frame" (dotted "protocol" ["frames"]) frameProgram) =
      .ok (String.join (p.frames.map fun f => Declaration.paragraphs (frameBlocks f)), m) :=
    runStatement_each_join hm.depth_le (evalExpr_dotted hp rfl) fun f hf _ =>
      prints_frameProgram (hm.inLoop (by decide)) Machine.lookup_inLoop_self (h.frames f hf)
  have run : Prints (surroundings library (level + 1)) m framesProgram _ :=
    .text <| .shown hp rfl <| .text <|
      .cons (runStatement_enumeration (hm.mono (by decide)) h.frameIds (evalExpr_dotted hp rfl)) <|
      .text <| .cons frames <| .text .nil
  rw [Declaration.paragraphs_append, Declaration.paragraphs_flatMap, paragraphs_titled]
  rw [show "\n/* Frame ids of subsystem '" = "\n/* " ++ "Frame ids of subsystem '" from rfl,
    show "' */\n" = "'" ++ " */\n" from rfl] at run
  simpa only [dataText_text, String.append_assoc, String.append_empty] using run

/-- A member whose type and name stand somewhere in the data. -/
theorem prints_plain {s : Surroundings} {x y cType name : String} {as bs : List String} {d e : Data}
    (hx : m.lookup x = .data d) (hd : readPath d as = some (.text cType)) (hy : m.lookup y = .data e)
    (he : readPath e bs = some (.text name)) :
    Prints s m [.text "  ", shown x as, .text " ", shown y bs, .text ";\n"] (Member.plain cType name).text := by
  have run : Prints s m [.text "  ", shown x as, .text " ", shown y bs, .text ";\n"] _ :=
    .text <| .shown hx hd <| .text <| .shown hy he <| .text .nil
  rw [show ";\n" = ";" ++ "\n" from rfl] at run ⊢
  simpa only [Member.plain, Member.text, dataText_text, String.append_assoc, String.append_empty] using run

theorem paragraphs_unpacked (name : String) (members : List Member) :
    Declaration.paragraphs [.record name false members] =
      "\ntypedef struct \x7b\n" ++ (String.join (members.map Member.text) ++ ("\x7d " ++ (name ++ ";\n"))) := by
  rw [Declaration.paragraphs_singleton rfl, Declaration.text_record, if_neg (by decide),
    show "\ntypedef struct \x7b\n" = "\n" ++ ("typedef struct" ++ " \x7b\n") from rfl,
    show ";\n" = ";" ++ "\n" from rfl]
  simp only [String.append_assoc, String.append_empty]

theorem prints_membersProgram {i : Outline.Instance} (hm : Ready 7 m) (hi : m.lookup "instance" = .data i.toData)
    (hinstantiated : i.prototypes ≠ []) (hprototypes : ∀ p ∈ i.prototypes, p.Regular) :
    Prints (surroundings library (level + 1)) m membersProgram
      (Declaration.paragraphs
        [.record i.typeName false
          (i.members.map (fun m => .plain m.frameType m.frameMember) ++
            i.members.map fun m => .plain i.clockType m.clockMember),
         .lines (i.prototypes.map prototype)] ++ "\n#endif /* ") := by
  have frames : runStatement (surroundings library (level + 1)) m
      (loop "member" (dotted "instance" ["members"])
        [.text "  ", shown "member" ["frame_type"], .text " ", shown "member" ["frame_member"], .text ";\n"]) =
      .ok (String.join (i.members.map fun x => (Member.plain x.frameType x.frameMember).text), m) :=
    runStatement_each_join hm.depth_le (evalExpr_dotted hi rfl) fun _ _ _ =>
      prints_plain Machine.lookup_inLoop_self rfl Machine.lookup_inLoop_self rfl
  have clocks : runStatement (surroundings library (level + 1)) m
      (loop "member" (dotted "instance" ["members"])
        [.text "  ", shown "instance" ["clock_type"], .text " ", shown "member" ["clock_member"], .text ";\n"]) =
      .ok (String.join (i.members.map fun x => (Member.plain i.clockType x.clockMember).text), m) := by
    refine runStatement_each_join hm.depth_le (evalExpr_dotted hi rfl) fun x _ state => ?_
    have outer : (m.inLoop "member" x.toData state).lookup "instance" = .data i.toData := by
      rw [Machine.lookup_inLoop_other (by decide) (by decide), hi]
    exact prints_plain outer rfl Machine.lookup_inLoop_self rfl
  have run : Prints (surroundings library (level + 1)) m membersProgram _ :=
    .text <| .cons frames <| .cons clocks <| .text <| .shown hi rfl <| .text <|
      .cons (runStatement_prototypes hm hi rfl hprototypes) <| .text .nil
  rw [Declaration.paragraphs_cons, paragraphs_unpacked, paragraphs_prototypes (fun p => p) hinstantiated]
  rw [show ";\n\n" = ";\n" ++ "\n" from rfl] at run
  simpa only [dataText_text, String.append_assoc, String.append_empty, List.map_append, List.map_map,
    Function.comp_def, String.join_append] using run

theorem prints_subsystemIdsProgram {e : Outline.Enumeration} (hm : Ready 6 m)
    (he : m.lookup "subsystem_ids" = .data e.toData) (h : e.enumerators ≠ []) :
    Prints (surroundings library (level + 1)) m subsystemIdsProgram
      (Declaration.paragraphs [.titled "Subsystem ids" [enumeration e]] ++ "\n#endif /* ") := by
  have run : Prints (surroundings library (level + 1)) m subsystemIdsProgram _ :=
    .text <| .cons (runStatement_enumeration hm h (evalExpr_dotted he rfl)) <| .text .nil
  rw [show "\n/* Subsystem ids */\n" = "\n/* " ++ ("Subsystem ids" ++ " */\n") from rfl,
    show "\n\n#endif /* " = "\n" ++ "\n#endif /* " from rfl] at run
  rw [paragraphs_titled]
  simpa only [String.append_assoc, String.append_empty] using run

theorem prints_dispatchProgram {count : Outline.Constant} {protocols : List Outline.Protocol} (hm : Ready 8 m)
    (hcount : m.lookup "subsystem_count" = .data count.toData)
    (hprotocols : m.lookup "protocols" = .data (.ofList Outline.Protocol.toData protocols))
    (h : ∀ p ∈ protocols, p.Regular) :
    Prints (surroundings library (level + 1)) m dispatchProgram
      (Declaration.paragraphs ([constant count] ++ protocols.map fun p => .lines (p.dispatch.map prototype)) ++
        "\n#endif /* ") := by
  have lines (p : Outline.Protocol) (hp : p.Regular) (state : LoopState) :
      Prints (surroundings library (level + 1)) (m.inLoop "protocol" p.toData state)
        [.text "\n", loop "p" (dotted "protocol" ["dispatch"]) [callOf "prototype" (dotted "p" []), .text "\n"]]
        (Declaration.paragraphs [.lines (p.dispatch.map prototype)]) := by
    rw [paragraphs_prototypes (fun p => p) hp.dispatched]
    exact .text <| .single <| runStatement_prototypes (hm.inLoop (by decide)) Machine.lookup_inLoop_self rfl hp.dispatch
  have tables : runStatement (surroundings library (level + 1)) m
      (loop "protocol" (dotted "protocols" [])
        [.text "\n", loop "p" (dotted "protocol" ["dispatch"]) [callOf "prototype" (dotted "p" []), .text "\n"]]) =
      .ok (String.join (protocols.map fun p => Declaration.paragraphs [.lines (p.dispatch.map prototype)]), m) :=
    runStatement_each_join hm.depth_le (evalExpr_dotted hprotocols rfl) fun p hp state =>
      lines p (h p hp) state
  have run : Prints (surroundings library (level + 1)) m dispatchProgram _ :=
    .text <| .shown hcount rfl <| .text <| .shown hcount rfl <| .text <| .cons tables <| .text .nil
  rw [List.map_eq_flatMap, Declaration.paragraphs_append, Declaration.paragraphs_flatMap,
    Declaration.paragraphs_singleton rfl, constant, Declaration.text_define]
  rw [show "\n#define " = "\n" ++ "#define " from rfl] at run
  simpa only [dataText_text, String.append_assoc, String.append_empty] using run

/-! ## Whole headers -/

/-- Headers without a document of their own start with the same comment. -/
theorem prints_bannerText {s : Surroundings} :
    Prints s m [bannerText] ("\n\n/* " ++ (banner none ++ " */\n\n")) := rfl

theorem prints_sourceProgram {s : Surroundings} {p : Outline.Protocol} (hp : m.lookup "protocol" = .data p.toData) :
    Prints s m sourceProgram ("\n\n/* " ++ (banner (some p.source) ++ " */\n\n")) := by
  have run : Prints s m sourceProgram _ := .text <| .shown hp rfl <| .text .nil
  have text : banner (some p.source) = "Generated by ksrp from " ++ p.source ++ ". Do not edit." := rfl
  rw [show "\n\n/* Generated by ksrp from " = "\n\n/* " ++ "Generated by ksrp from " from rfl,
    show ". Do not edit. */\n\n" = ". Do not edit." ++ " */\n\n" from rfl] at run
  simpa only [text, dataText_text, String.append_assoc, String.append_empty] using run

theorem prints_protocolHeader {p : Outline.Protocol} (hm : Ready 8 m) (hk : Knows m p.header)
    (hp : m.lookup "protocol" = .data p.toData) (h : p.Regular) :
    Prints (surroundings library (level + 1)) m (headerProgram sourceProgram framesProgram)
      (protocolHeader p).text := by
  rw [protocolHeader, List.append_assoc (_ ++ inclusions p.header)]
  exact prints_headerProgram hm.depth_le hk h.systemIncludes (prints_sourceProgram hp)
    (prints_framesProgram hm hp h)

theorem prints_instanceHeader {i : Outline.Instance} (hm : Ready 7 m) (hk : Knows m i.header)
    (hi : m.lookup "instance" = .data i.toData) (hincludes : i.header.systemIncludes ≠ [])
    (hinstantiated : i.prototypes ≠ []) (hprototypes : ∀ p ∈ i.prototypes, p.Regular) :
    Prints (surroundings library (level + 1)) m (headerProgram [bannerText] membersProgram)
      (instanceHeader i).text := by
  rw [instanceHeader]
  exact prints_headerProgram hm.depth_le hk hincludes prints_bannerText
    (prints_membersProgram hm hi hinstantiated hprototypes)

theorem prints_commonHeader {o : Outline} (hm : Ready 6 m) (hk : Knows m o.common)
    (he : m.lookup "subsystem_ids" = .data o.subsystemIds.toData) (h : o.Regular) :
    Prints (surroundings library (level + 1)) m (headerProgram [bannerText] subsystemIdsProgram)
      (commonHeader o).text := by
  rw [commonHeader]
  exact prints_headerProgram hm.depth_le hk h.commonIncludes prints_bannerText
    (prints_subsystemIdsProgram hm he h.subsystemIds)

theorem prints_utilsHeader {o : Outline} (hm : Ready 8 m) (hk : Knows m o.utils)
    (hcount : m.lookup "subsystem_count" = .data o.subsystemCount.toData)
    (hprotocols : m.lookup "protocols" = .data (.ofList Outline.Protocol.toData o.protocols))
    (hincludes : o.utils.systemIncludes ≠ []) (h : ∀ p ∈ o.protocols, p.Regular) :
    Prints (surroundings library (level + 1)) m (headerProgram [bannerText] dispatchProgram)
      (utilsHeader o).text := by
  rw [utilsHeader, List.append_assoc (_ ++ inclusions o.utils)]
  exact prints_headerProgram hm.depth_le hk hincludes prints_bannerText
    (prints_dispatchProgram hm hcount hprotocols h)

end

end StatusFrames.Emission
