/-
Rendering the built-in templates for a whole outline. Every job of the template emitter gives the text of the tree at
the same place, so the two emitters put the same texts at the same paths.
-/
import StatusFrames.Proofs.Emission.HeaderTexts

namespace StatusFrames.Template

/-! ## The built-in library -/

/-- The programs of the built-in templates. -/
def builtInLibrary : Library :=
  [("macros", macrosProgram), ("protocol", protocolProgram), ("instance", instanceProgram), ("common", commonProgram),
   ("utils", utilsProgram)]

/-- The machine of a header that has loaded the definitions. -/
def entry (fields : List (String × Data)) : Machine :=
  (Machine.start (fields.map fun (x, d) => (x, .data d))).bind "m" macros

theorem lookup_entry {fields : List (String × Data)} {x : String} (hx : x ≠ "m") :
    (entry fields).lookup x = .ofData? (fields.lookup x) := by
  rw [entry, Machine.lookup_bind (by simp [Machine.start]), if_neg hx, Machine.lookup_start]

theorem ready_entry (fields : List (String × Data)) : Ready 8 (entry fields) := by
  refine ⟨?_, ?_⟩
  · rw [entry, Machine.lookup_bind (by simp [Machine.start]), if_pos rfl]
  · rw [entry, Machine.depth_bind, Machine.depth_start]
    decide

/-- A template that loads the definitions first is rendered by running the rest of it. -/
theorem render_builtIn {name : String} {fields : List (String × Data)} {rest : List Statement} {text : String}
    {m : Machine} (hname : builtInLibrary.lookup name = some (loadMacros :: rest))
    (hrest : runStatements (surroundings builtInLibrary (499 + 1)) (entry fields) rest = .ok (text, m)) :
    render builtInLibrary name fields = .ok text := by
  have program : firstProgram builtInLibrary [.text name] = .ok (loadMacros :: rest) := by
    rw [firstProgram, findProgram, hname]
    rfl
  have load : runStatement (surroundings builtInLibrary (499 + 1)) (.start (fields.map fun (x, d) => (x, .data d)))
      loadMacros = .ok ("", entry fields) :=
    runStatement_loadMacros rfl (by rw [Machine.depth_start]; decide)
  rw [render, program]
  show (runStatements (surroundings builtInLibrary (499 + 1)) _ (loadMacros :: rest) >>= _) = _
  rw [runStatements_silent load, hrest]
  rfl

end StatusFrames.Template

namespace StatusFrames.Emission

open Files (Disk)
open Template

theorem library_builtIn (disk : Disk) : library disk none = .ok builtInLibrary := by
  have read (t : BuiltIn) {p : List Statement} (h : parse t.text = some p) :
      (do
        let text ← templateText disk none t
        let program ← program t text
        return (t.name, program)) = (.ok (t.name, p) : Except CompileError _) := by
    rw [templateText, ok_bind, program, h]
    rfl
  refine mapM_eq_ok.mpr ?_
  exact .cons (read _ parse_macrosText) <| .cons (read _ parse_protocolText) <| .cons (read _ parse_instanceText) <|
    .cons (read _ parse_commonText) <| .cons (read _ parse_utilsText) .nil

/-! ## Jobs and trees -/

/-- A job and a tree that go to the same path with the same text. -/
def Agrees (o : Outline) (job : Job) (tree : String × Declaration) : Prop :=
  job.header.path = tree.1 ∧ job.render builtInLibrary o = .ok tree.2.text

theorem agrees_of_render {o : Outline} {job : Job} {tree : Declaration}
    (h : render builtInLibrary job.template (job.fields ++ headerFields o job.header) = .ok tree.text) :
    Agrees o job (job.header.path, tree) := by
  refine ⟨rfl, ?_⟩
  rw [Job.render, h]

section
variable {o : Outline} {p : Outline.Protocol} {fields : List (String × Data)}

theorem knows_entry {h : Outline.Header} (hguard : fields.lookup "guard" = none)
    (hsystem : fields.lookup "clibraries" = none) (hincludes : fields.lookup "libraries" = none) :
    Knows (entry (fields ++ headerFields o h)) h := by
  refine ⟨?_, ?_, ?_⟩
  · rw [lookup_entry (by decide), List.lookup_append, hguard]
    rfl
  · rw [lookup_entry (by decide), List.lookup_append, hsystem]
    rfl
  · rw [lookup_entry (by decide), List.lookup_append, hincludes]
    rfl

theorem Knows.bind {m : Machine} {h : Outline.Header} {x : String} {v : Value} (hm : Knows m h)
    (hframes : m.frames ≠ []) (hx : x ∉ ["guard", "clibraries", "libraries"]) : Knows (m.bind x v) h := by
  simp only [List.mem_cons, List.not_mem_nil, or_false, not_or] at hx
  obtain ⟨h1, h2, h3⟩ := hx
  refine ⟨?_, ?_, ?_⟩
  · rw [Machine.lookup_bind hframes, if_neg (Ne.symm h1), hm.guard]
  · rw [Machine.lookup_bind hframes, if_neg (Ne.symm h2), hm.systemIncludes]
  · rw [Machine.lookup_bind hframes, if_neg (Ne.symm h3), hm.includes]

theorem agrees_protocol (h : p.Regular) :
    Agrees o
      ⟨"protocol", p.header, [("protocol", p.toData), ("protocols", .ofList Outline.Protocol.toData o.protocols)]⟩
      (p.header.path, protocolHeader p) :=
  agrees_of_render (render_builtIn rfl
    (prints_protocolHeader (ready_entry _) (knows_entry rfl rfl rfl) (lookup_entry (by decide)) h))

theorem agrees_instance (h : p.Regular) :
    Agrees o ⟨"instance", p.instanceOutline.header, [("protocol", p.toData)]⟩
      (p.instanceOutline.header.path, instanceHeader p.instanceOutline) := by
  let m := entry ([("protocol", p.toData)] ++ headerFields o p.instanceOutline.header)
  let inner := m.bind "instance" (.data p.instanceOutline.toData)
  have frames : m.frames ≠ [] := by simp [m, entry, Machine.start, Machine.bind, Machine.modifyTop]
  have protocol : m.lookup "protocol" = .data p.toData := lookup_entry (by decide)
  have assigned : runStatement (surroundings builtInLibrary (499 + 1)) m
      (.assign (.name "instance") (dotted "protocol" ["instance"])) = .ok ("", inner) := by
    rw [runStatement, evalExpr_dotted protocol rfl]
    rfl
  have ready : Ready 7 inner := ((ready_entry _).mono (by decide)).bind frames (by decide)
  have known : Knows inner p.instanceOutline.header := (knows_entry rfl rfl rfl).bind frames (by decide)
  have bound : inner.lookup "instance" = .data p.instanceOutline.toData := by
    rw [Machine.lookup_bind frames, if_pos rfl]
  have run : Prints (surroundings builtInLibrary (499 + 1)) inner (headerProgram [bannerText] membersProgram) _ :=
    prints_instanceHeader ready known bound h.instanceIncludes h.instantiated h.prototypes
  exact agrees_of_render (render_builtIn rfl ((runStatements_silent assigned).trans run))

theorem agrees_common (h : o.Regular) :
    Agrees o ⟨"common", o.common, [("protocols", .ofList Outline.Protocol.toData o.protocols),
      ("subsystem_ids", o.subsystemIds.toData)]⟩ (o.common.path, commonHeader o) :=
  agrees_of_render (render_builtIn rfl
    (prints_commonHeader ((ready_entry _).mono (by decide)) (knows_entry rfl rfl rfl) (lookup_entry (by decide)) h))

theorem agrees_utils (hincludes : o.utils.systemIncludes ≠ []) (h : ∀ p ∈ o.protocols, p.Regular) :
    Agrees o ⟨"utils", o.utils, [("protocols", .ofList Outline.Protocol.toData o.protocols),
      ("subsystem_count", o.subsystemCount.toData)]⟩ (o.utils.path, utilsHeader o) :=
  agrees_of_render (render_builtIn rfl
    (prints_utilsHeader (ready_entry _) (knows_entry rfl rfl rfl) (lookup_entry (by decide)) (lookup_entry (by decide))
      hincludes h))

end

/-! ## The whole output -/

theorem agrees_jobs {o : Outline} (h : o.Regular) : List.Forall₂ (Agrees o) (jobs o) (headerTrees o) := by
  have protocols : List.Forall₂ (Agrees o) _ _ := forall₂_flatMap fun p hp =>
    .cons (agrees_protocol (h.protocols p hp)) (.cons (agrees_instance (h.protocols p hp)) .nil)
  exact List.rel_append protocols (.cons (agrees_common h) (.cons (agrees_utils h.utilsIncludes h.protocols) .nil))

theorem renderAll_eq_insertAll {o : Outline} {jobs : List Job} {trees : List (String × Declaration)}
    (h : List.Forall₂ (Agrees o) jobs trees) (a : Artifacts) :
    renderAll builtInLibrary o a jobs = a.insertAll (trees.map fun (path, tree) => (path, tree.text)) := by
  induction h generalizing a with
  | nil => rfl
  | @cons job tree jobs trees hjob _ ih =>
    obtain ⟨hpath, htext⟩ := hjob
    rw [renderAll, htext, ok_bind, hpath]
    cases hinsert : a.insert tree.1 tree.2.text with
    | error e => simp [Artifacts.insertAll, hinsert]
    | ok b =>
      rw [ok_bind, ih b]
      simp [Artifacts.insertAll, hinsert]

theorem fromTemplates_eq_fromTrees (disk : Disk) {o : Outline} (h : o.Regular) :
    fromTemplates disk none o = fromTrees o := by
  rw [fromTemplates, library_builtIn, ok_bind, renderAll_eq_insertAll (agrees_jobs h)]
  rfl

/-! ## The output for no documents -/

/-- The ids of no subsystems. Trees have a blank line between the braces. -/
def noSubsystemIds (typeName : String) : String :=
  "\n/* Subsystem ids */\n" ++ ("typedef enum \x7b\n\x7d " ++ (typeName ++ ";") ++ "\n")

def bareCommonHeader (o : Outline) : String :=
  Declaration.guarded o.common.guard
    (Declaration.paragraphs ([.comment (banner none)] ++ inclusions o.common) ++ noSubsystemIds o.subsystemIds.typeName)

theorem prints_noSubsystemIds {library : Library} {level : Nat} {m : Machine} {e : Outline.Enumeration} (hm : Ready 6 m)
    (he : m.lookup "subsystem_ids" = .data e.toData) (h : e.enumerators = []) :
    Prints (surroundings library (level + 1)) m subsystemIdsProgram (noSubsystemIds e.typeName ++ "\n#endif /* ") := by
  have run : Prints (surroundings library (level + 1)) m subsystemIdsProgram _ :=
    .text <| .cons (runStatement_noEnumerators hm h (evalExpr_dotted he rfl)) <| .text .nil
  rw [show "\n\n#endif /* " = "\n" ++ "\n#endif /* " from rfl] at run
  unfold noSubsystemIds
  simpa only [String.append_assoc, String.append_empty] using run

theorem render_bareCommon {o : Outline} (hincludes : o.common.systemIncludes ≠ [])
    (h : o.subsystemIds.enumerators = []) :
    render builtInLibrary "common" ([("protocols", .ofList Outline.Protocol.toData o.protocols),
      ("subsystem_ids", o.subsystemIds.toData)] ++ headerFields o o.common) = .ok (bareCommonHeader o) :=
  render_builtIn rfl (prints_guarded (ready_entry _).depth_le (knows_entry rfl rfl rfl) hincludes prints_bannerText
    (prints_noSubsystemIds ((ready_entry _).mono (by decide)) (lookup_entry (by decide)) h))

/-- Without documents the two ways to write headers differ, in the header of the subsystem ids. -/
theorem fromTemplates_bare (disk : Disk) {o : Outline} (hcommon : o.common.systemIncludes ≠ [])
    (hutils : o.utils.systemIncludes ≠ []) (hprotocols : o.protocols = []) (hids : o.subsystemIds.enumerators = []) :
    fromTemplates disk none o =
      Artifacts.insertAll [] [(o.common.path, bareCommonHeader o), (o.utils.path, (utilsHeader o).text)] := by
  obtain ⟨-, utils⟩ := agrees_utils hutils (o := o) (by simp [hprotocols])
  have common : Job.render ⟨"common", o.common, [("protocols", .ofList Outline.Protocol.toData o.protocols),
      ("subsystem_ids", o.subsystemIds.toData)]⟩ builtInLibrary o = .ok (bareCommonHeader o) := by
    rw [Job.render, render_bareCommon hcommon hids]
  rw [fromTemplates, library_builtIn, ok_bind, jobs, hprotocols, List.flatMap_nil, List.nil_append, ← hprotocols,
    renderAll, common, ok_bind]
  simp only [renderAll, utils, ok_bind]
  rfl

end StatusFrames.Emission
