/-
One frame of a protocol header. The program that the template runs for a frame prints the paragraphs of the frame's
declarations.
-/
import StatusFrames.Proofs.Emission.Macros

namespace StatusFrames.Outline

/-- A prototype whose parameters are joined as they stand: the first is not empty. -/
def Prototype.Regular (p : Prototype) : Prop := p.params.head? ≠ some ""

structure Field.Regular (f : Field) : Prop where
  enumType : ∀ e, f.enumType = some e → e.enumerators ≠ []
  getter : f.getter.Regular
  setter : f.setter.Regular

/-- What both ways to write a frame take for granted. -/
structure Frame.Regular (f : Frame) : Prop where
  occupied : f.fields ≠ []
  fields : ∀ x ∈ f.fields, x.Regular
  fieldIds : f.fieldIds.enumerators ≠ []
  /-- Nothing in the message of the size assertion must be escaped. -/
  sizeAssert : Text.quoted f.sizeAssert = "\"" ++ (f.sizeAssert ++ "\"")

end StatusFrames.Outline

namespace StatusFrames.Emission

open Template

section
variable {library : Library} {level : Nat} {m : Machine}

theorem prints_memberProgram {f : Outline.Field} (hm : Ready 6 m) (hf : m.lookup "field" = .data f.toData) :
    Prints (surroundings library (level + 1)) m memberProgram
      (Member.placed f.storageType f.name f.offset f.width).text := by
  have run : Prints (surroundings library (level + 1)) m memberProgram _ :=
    .text <| .shown hf rfl <| .text <| .shown hf rfl <| .text <| .shown hf rfl <| .text <|
      .cons (runStatement_bytes hm (evalExpr_dotted hf rfl)) <| .text .nil
  have comment (t : String) : ";" ++ (" /* " ++ ("offset " ++ t)) = "; /* offset " ++ t := by
    rw [Declaration.glue rfl, Declaration.glue rfl]
    rfl
  have lineEnd : " */" ++ "\n" = " */\n" := rfl
  simpa only [Member.placed, Member.text, dataText_text, dataText_nat, String.append_assoc, String.append_empty,
    comment, lineEnd] using run

theorem runStatement_members {frame : Outline.Frame} (hm : Ready 7 m) (hf : m.lookup "frame" = .data frame.toData) :
    runStatement (surroundings library (level + 1)) m (loop "field" (dotted "frame" ["fields"]) memberProgram) =
      .ok (String.join (frame.fields.map fun f => (Member.placed f.storageType f.name f.offset f.width).text), m) :=
  runStatement_each_join hm.depth_le (evalExpr_dotted hf rfl) fun _ _ _ =>
    prints_memberProgram (hm.inLoop (by decide)) Machine.lookup_inLoop

/-- The lines for the getters of a frame, and those for its setters. -/
theorem runStatement_accessors {frame : Outline.Frame} {name : String} {accessor : Outline.Field → Outline.Prototype}
    (hm : Ready 7 m) (hf : m.lookup "frame" = .data frame.toData)
    (hread : ∀ f : Outline.Field, readPath f.toData [name] = some (accessor f).toData)
    (hregular : ∀ f ∈ frame.fields, (accessor f).Regular) :
    runStatement (surroundings library (level + 1)) m
        (loop "field" (dotted "frame" ["fields"]) [callOf "prototype" (dotted "field" [name]), .text "\n"]) =
      .ok (String.join (frame.fields.map fun f => (prototype (accessor f)).text ++ "\n"), m) := by
  refine runStatement_each_join hm.depth_le (evalExpr_dotted hf rfl) fun f hmem state => ?_
  have ready : Ready 6 (m.inLoop "field" f.toData state) := hm.inLoop (by decide)
  exact .cons (runStatement_prototype ready (hregular f hmem) (evalExpr_dotted Machine.lookup_inLoop (hread f))) <|
    .text .nil

/-- The enumerations of those fields that have one. -/
theorem runStatement_enumTypes {frame : Outline.Frame} (hm : Ready 7 m) (hf : m.lookup "frame" = .data frame.toData)
    (hregular : ∀ f ∈ frame.fields, f.Regular) :
    runStatement (surroundings library (level + 1)) m
        (.each (.name "field") (dotted "frame" ["fields"]) (some (dotted "field" ["enum_type"]))
          [.text "\n", callOf "enumeration" (dotted "field" ["enum_type"]), .text "\n"] []) =
      .ok (Declaration.paragraphs ((frame.fields.filterMap (·.enumType)).map enumeration), m) := by
  let text (f : Outline.Field) : String :=
    f.enumType.elim "" fun e => "\n" ++ ((enumeration e).text ++ "\n")
  have texts : Declaration.paragraphs ((frame.fields.filterMap (·.enumType)).map enumeration) =
      String.join ((frame.fields.filter (·.enumType.isSome)).map text) := by
    rw [Declaration.paragraphs_map fun _ => rfl]
    induction frame.fields with
    | nil => rfl
    | cons f rest ih => cases he : f.enumType <;> simp [he, ih, text]
  rw [texts]
  refine runStatement_each_selected hm.depth_le (evalExpr_dotted hf rfl) ?_ ?_
  · intro f _
    rw [evalExpr_dotted (Machine.lookup_inSelection.trans (if_pos rfl)) rfl]
    cases he : f.enumType <;> rfl
  · intro f hmem hsome state
    obtain ⟨e, he⟩ := Option.isSome_iff_exists.mp hsome
    have ready : Ready 6 (m.inLoop "field" f.toData state) := hm.inLoop (by decide)
    have data : readPath f.toData ["enum_type"] = some e.toData := by
      show some (Data.ofOption Outline.Enumeration.toData f.enumType) = _
      rw [he]
      rfl
    have run : Prints (surroundings library (level + 1)) (m.inLoop "field" f.toData state)
        [.text "\n", callOf "enumeration" (dotted "field" ["enum_type"]), .text "\n"] _ :=
      .text <| .cons (runStatement_enumeration ready ((hregular f hmem).enumType e he)
        (evalExpr_dotted Machine.lookup_inLoop_self data)) <| .text .nil
    simpa only [text, he, Option.elim_some, String.append_empty] using run

theorem join_flatMap {α β : Type} (f : α → List β) (g : β → String) (xs : List α) :
    String.join ((xs.flatMap f).map g) = String.join (xs.map fun a => String.join ((f a).map g)) := by
  induction xs with
  | nil => rfl
  | cons a rest ih => simp [ih]

theorem prints_constant {s : Surroundings} {c : Outline.Constant} (hc : m.lookup "constant" = .data c.toData) :
    Prints s m [.text "#define ", shown "constant" ["name"], .text " ", shown "constant" ["value"], .text "\n"]
      ((constant c).text ++ "\n") := by
  have run : Prints s m
      [.text "#define ", shown "constant" ["name"], .text " ", shown "constant" ["value"], .text "\n"] _ :=
    .text <| .shown hc rfl <| .text <| .shown hc rfl <| .text .nil
  rw [constant, Declaration.text_define]
  simpa only [dataText_text, String.append_assoc, String.append_empty] using run

theorem prints_constantsProgram {s : Surroundings} {frame : Outline.Frame} (hm : Ready 7 m)
    (hf : m.lookup "frame" = .data frame.toData) :
    Prints s m constantsProgram
      ("\n" ++ String.join ((frame.fields.flatMap (·.constants)).map fun c => (constant c).text ++ "\n")) := by
  rw [join_flatMap]
  refine .text (.single (runStatement_each_join hm.depth_le (evalExpr_dotted hf rfl) fun f _ state => ?_))
  have deeper : (m.inLoop "field" f.toData state).depth ≤ Machine.maxDepth := by
    have := hm.shallow
    rw [Machine.depth_inLoop]
    omega
  exact .single (runStatement_each_join deeper (evalExpr_dotted Machine.lookup_inLoop_self rfl) fun c _ _ =>
    prints_constant Machine.lookup_inLoop_self)

/-- The fields that have constants. -/
theorem evalExpr_withConstants {s : Surroundings} {frame : Outline.Frame} (hf : m.lookup "frame" = .data frame.toData) :
    evalExpr s m (.filter (.filter (dotted "frame" ["fields"]) "selectattr" [.text "constants"] []) "list" [] []) =
      .ok (.data (.ofList Outline.Field.toData (frame.fields.filter fun f => !f.constants.isEmpty))) := by
  have fields : evalExpr s m (dotted "frame" ["fields"]) = .ok (.data (.ofList Outline.Field.toData frame.fields)) :=
    evalExpr_dotted hf rfl
  have selected : Filter.selectWhere (.data (.ofList Outline.Field.toData frame.fields)) "constants"
      Filter.countsAsTrue =
      .ok (.data (.ofList Outline.Field.toData (frame.fields.filter fun f => !f.constants.isEmpty))) := by
    have counts (f : Outline.Field) :
        (Filter.follow (Filter.pathParts "constants") (.data f.toData) >>= Filter.countsAsTrue) =
          .ok !f.constants.isEmpty := by
      show Except.ok (!(f.constants.map Outline.Constant.toData).isEmpty) = _
      rw [List.isEmpty_map]
    have chosen : (frame.fields.map Outline.Field.toData).filterM
        (fun item => Filter.follow (Filter.pathParts "constants") (.data item) >>= Filter.countsAsTrue) = _ :=
      filterM_map_eq_ok fun f _ => counts f
    show ((frame.fields.map Outline.Field.toData).filterM
      (fun item => Filter.follow (Filter.pathParts "constants") (.data item) >>= Filter.countsAsTrue) >>= _) = _
    rw [chosen]
    rfl
  have inner : evalExpr s m (.filter (dotted "frame" ["fields"]) "selectattr" [.text "constants"] []) =
      .ok (.data (.ofList Outline.Field.toData (frame.fields.filter fun f => !f.constants.isEmpty))) := by
    rw [evalExpr, fields]
    exact selected
  rw [evalExpr, inner]
  rfl

/-- The constants of all fields, which make a paragraph if there are any. -/
theorem runStatement_constants {frame : Outline.Frame} (hm : Ready 7 m)
    (hf : m.lookup "frame" = .data frame.toData) :
    runStatement (surroundings library (level + 1)) m
        (.branch (.filter (.filter (dotted "frame" ["fields"]) "selectattr" [.text "constants"] []) "list" [] [])
          constantsProgram []) =
      .ok (Declaration.paragraphs [.lines ((frame.fields.flatMap (·.constants)).map constant)], m) := by
  have any : (frame.fields.filter fun f => !f.constants.isEmpty).isEmpty =
      (frame.fields.flatMap (·.constants)).isEmpty := by
    induction frame.fields with
    | nil => rfl
    | cons f rest ih => cases hc : f.constants <;> simp [hc, ih]
  have holds : (Value.data (.ofList Outline.Field.toData (frame.fields.filter fun f => !f.constants.isEmpty))).isTrue =
      .ok !(frame.fields.flatMap (·.constants)).isEmpty := by
    rw [← any, ← List.isEmpty_map]
    rfl
  rw [Declaration.paragraphs_lines fun _ => rfl, runStatement, evalExpr_withConstants hf, ok_bind, holds, ok_bind]
  cases (frame.fields.flatMap (·.constants)).isEmpty with
  | true => rfl
  | false => exact prints_constantsProgram hm hf

theorem paragraphs_frameTitle (frame : Outline.Frame) :
    Declaration.paragraphs [.comment ("Frame '" ++ frame.name ++ "' (id " ++ toString frame.id ++ ")")] =
      "\n/* Frame '" ++ (frame.name ++ ("' (id " ++ (toString frame.id ++ ") */\n"))) := by
  rw [Declaration.paragraphs_singleton rfl, Declaration.text_comment,
    show "\n/* Frame '" = "\n" ++ ("/* " ++ "Frame '") from rfl, show ") */\n" = ")" ++ (" */" ++ "\n") from rfl]
  simp only [String.append_assoc]

theorem paragraphs_packed (name : String) (members : List Member) :
    Declaration.paragraphs [.record name true members] =
      "\ntypedef struct __attribute__((packed)) \x7b\n" ++ (String.join (members.map Member.text) ++
        ("\x7d " ++ (name ++ ";\n"))) := by
  rw [Declaration.paragraphs_singleton rfl, Declaration.text_record, if_pos rfl,
    show "\ntypedef struct __attribute__((packed)) \x7b\n" =
      "\n" ++ ("typedef struct" ++ (" __attribute__((packed))" ++ " \x7b\n")) from rfl,
    show ";\n" = ";" ++ "\n" from rfl]
  simp only [String.append_assoc]

/-- The size, its assertion and the type id of a frame. -/
theorem paragraphs_numbers {frame : Outline.Frame} (h : frame.Regular) :
    Declaration.paragraphs
        [.lines
          [constant frame.sizeConstant,
           .staticAssert ("sizeof(" ++ frame.typeName ++ ") == " ++ frame.sizeConstant.name) frame.sizeAssert,
           constant frame.typeId]] =
      "\n#define " ++ (frame.sizeConstant.name ++ (" " ++ (frame.sizeConstant.value ++ ("\n_Static_assert(sizeof(" ++
        (frame.typeName ++ (") == " ++ (frame.sizeConstant.name ++ (", \"" ++ (frame.sizeAssert ++ ("\");\n#define " ++
          (frame.typeId.name ++ (" " ++ (frame.typeId.value ++ "\n"))))))))))))) := by
  have lines (a b c : Declaration) (ha : a.isEmpty = false) (hb : b.isEmpty = false) (hc : c.isEmpty = false) :
      Declaration.paragraphs [.lines [a, b, c]] =
        "\n" ++ (a.text ++ ("\n" ++ (b.text ++ ("\n" ++ (c.text ++ "\n"))))) := by
    have hlines : (Declaration.lines [a, b, c]).isEmpty = false := by
      show (a.isEmpty && _) = false
      rw [ha, Bool.false_and]
    rw [Declaration.paragraphs_singleton hlines, Declaration.text_lines]
    simp [ha, hb, hc, Declaration.texts, String.append_assoc]
  rw [lines _ _ _ rfl rfl rfl, constant, constant, Declaration.text_define, Declaration.text_define,
    Declaration.text_staticAssert, h.sizeAssert, show "\n#define " = "\n" ++ "#define " from rfl,
    show "\n_Static_assert(sizeof(" = "\n" ++ ("_Static_assert(" ++ "sizeof(") from rfl,
    show ", \"" = ", " ++ "\"" from rfl, show "\");\n#define " = "\"" ++ (");" ++ ("\n" ++ "#define ")) from rfl]
  simp only [String.append_assoc]

theorem paragraphs_enumeration (e : Outline.Enumeration) :
    Declaration.paragraphs [enumeration e] = "\n" ++ ((enumeration e).text ++ "\n") :=
  Declaration.paragraphs_singleton rfl

theorem paragraphs_prototypes {α : Type} (accessor : α → Outline.Prototype) {xs : List α} (h : xs ≠ []) :
    Declaration.paragraphs [.lines (xs.map fun a => prototype (accessor a))] =
      "\n" ++ String.join (xs.map fun a => (prototype (accessor a)).text ++ "\n") := by
  rw [Declaration.paragraphs_lines fun _ => rfl, if_neg (by simpa using h)]

theorem prints_frameProgram {frame : Outline.Frame} (hm : Ready 7 m) (hf : m.lookup "frame" = .data frame.toData)
    (h : frame.Regular) :
    Prints (surroundings library (level + 1)) m frameProgram (Declaration.paragraphs (frameBlocks frame)) := by
  have run : Prints (surroundings library (level + 1)) m frameProgram _ :=
    .text <| .shown hf rfl <| .text <| .shown hf rfl <| .text <|
    .cons (runStatement_enumTypes hm hf h.fields) <| .cons (runStatement_constants hm hf) <|
    .text <| .cons (runStatement_members hm hf) <| .text <| .shown hf rfl <|
    .text <| .shown hf rfl <| .text <| .shown hf rfl <|
    .text <| .shown hf rfl <| .text <| .shown hf rfl <| .text <| .shown hf rfl <|
    .text <| .shown hf rfl <| .text <| .shown hf rfl <|
    .text <| .cons (runStatement_enumeration (hm.mono (by decide)) h.fieldIds (evalExpr_dotted hf rfl)) <|
    .text <| .cons (runStatement_accessors hm hf (fun _ => rfl) fun f hmem => (h.fields f hmem).getter) <|
    .text <| .single (runStatement_accessors hm hf (fun _ => rfl) fun f hmem => (h.fields f hmem).setter)
  have id : toString frame.id.toNat = toString frame.id := rfl
  rw [show ";\n\n#define " = ";\n" ++ "\n#define " from rfl, show "\n\n" = "\n" ++ "\n" from rfl] at run
  rw [frameBlocks, Declaration.paragraphs_append, Declaration.paragraphs_append, paragraphs_frameTitle]
  simp only [Declaration.paragraphs_cons _ (_ :: _)]
  rw [paragraphs_packed, paragraphs_numbers h, paragraphs_enumeration,
    paragraphs_prototypes Outline.Field.getter h.occupied, paragraphs_prototypes Outline.Field.setter h.occupied]
  simpa only [dataText_text, dataText_nat, String.append_assoc, List.map_map, Function.comp_def, id] using run

end

end StatusFrames.Emission
