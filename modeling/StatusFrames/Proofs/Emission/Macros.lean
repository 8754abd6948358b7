/-
The definitions that the built-in headers load. What they print for an enumeration, a prototype and a byte count is the
text of the declaration tree for it.
-/
import StatusFrames.Emission.Tree
import StatusFrames.Outline.Data
import StatusFrames.Proofs.Declaration.Paragraphs
import StatusFrames.Proofs.Template.Programs
import StatusFrames.Proofs.Template.Rules

namespace StatusFrames.Template

open Outline (Enumeration Enumerator Prototype)

/-! ## Bodies -/

/-- Items with a separator behind each but the last, on lines of their own. -/
theorem loopText_separated {α : Type} (f : α → String) (sep : String) {xs : List α} (h : xs ≠ []) :
    loopText (fun last a => f a ++ ((if last then "" else sep) ++ "\n")) xs =
      (sep ++ "\n").intercalate (xs.map f) ++ "\n" := by
  induction xs with
  | nil => exact absurd rfl h
  | cons a rest ih =>
    cases rest with
    | nil => simp [loopText]
    | cons b more =>
      rw [loopText, ih (by simp)]
      simp [String.append_assoc]

/-- A line of an enumeration. -/
def enumeratorLine (last : Bool) (v : Enumerator) : String :=
  Declaration.enumeratorText (v.name, if v.explicit then some v.value else none) ++ ((if last then "" else ",") ++ "\n")

theorem foldl_joined {between text : String} (h : text ≠ "") (parts : List String) :
    parts.foldl (Filter.joined between) text = between.intercalate (text :: parts) := by
  induction parts generalizing text with
  | nil => simp
  | cons part rest ih =>
    have next : Filter.joined between text part = text ++ between ++ part := by simp [Filter.joined, h]
    rw [List.foldl_cons, next, ih (by simp [h]), String.intercalate_cons_cons]
    simp [String.append_assoc]

section
variable {s : Surroundings} {m : Machine}

theorem prints_enumeratorProgram {v : Enumerator} {state : LoopState} (hv : m.lookup "v" = .data v.toData)
    (hl : m.lookup "loop" = .loop state) :
    Prints s m enumeratorProgram (enumeratorLine (state.index + 1 = state.count) v) := by
  have value : evalExpr s m (.concat (.text " = ") (dotted "v" ["value"])) =
      .ok (.text (" = " ++ toString v.value)) := by
    rw [evalExpr, evalExpr_dotted hv rfl]
    rfl
  have notLast : evalExpr s m (.negation (dotted "loop" ["last"])) =
      .ok (.data (.bool !decide (state.index + 1 = state.count))) := by
    simp [dotted, evalExpr, hl, Value.member, Value.members?, LoopState.members, List.lookup_cons, Value.isTrue,
      Value.isTrueData, pure, Except.pure]
  have run : Prints s m enumeratorProgram _ :=
    .text <| .shown hv rfl <| .choice (evalExpr_dotted hv rfl) rfl (fun _ => value) (fun _ => rfl) <|
      .choice notLast rfl (fun _ => rfl) (fun _ => rfl) <| .text .nil
  cases he : v.explicit <;>
    simpa [enumeratorLine, Declaration.enumeratorText, dataText_text, Value.isTrueData, String.append_assoc, he]
      using run

theorem prints_enumerators {e : Enumeration} (hm : m.lookup "e" = .data e.toData) (hdepth : m.depth ≤ Machine.maxDepth) :
    Prints s m enumerationProgram
      ("typedef enum \x7b\n" ++ (loopText enumeratorLine e.enumerators ++ ("\x7d " ++ (e.typeName ++ ";")))) := by
  have lines : runStatement s m (loop "v" (dotted "e" ["enumerators"]) enumeratorProgram) =
      .ok (loopText enumeratorLine e.enumerators, m) :=
    runStatement_each hdepth (evalExpr_dotted hm rfl) fun v _ state =>
      prints_enumeratorProgram Machine.lookup_inLoop Machine.lookup_inLoop
  have run : Prints s m enumerationProgram _ := .text <| .cons lines <| .text <| .shown hm rfl <| .text .nil
  simpa only [dataText_text, String.append_assoc, String.append_empty] using run

theorem prints_enumerationProgram {e : Enumeration} (he : e.enumerators ≠ [])
    (hm : m.lookup "e" = .data e.toData) (hdepth : m.depth ≤ Machine.maxDepth) :
    Prints s m enumerationProgram (Emission.enumeration e).text := by
  have run := prints_enumerators hm hdepth (s := s)
  unfold enumeratorLine at run
  rw [loopText_separated _ _ he] at run
  have lineEnd (t : String) : "\n" ++ ("\x7d " ++ t) = "\n\x7d " ++ t := Declaration.glue rfl t
  rw [Emission.enumeration, Declaration.text_enumeration, List.map_map]
  simpa [String.append_assoc, Function.comp_def, lineEnd] using run

theorem prints_prototypeProgram {p : Prototype} (hp : p.params.head? ≠ some "")
    (hm : m.lookup "p" = .data p.toData) : Prints s m prototypeProgram (Emission.prototype p).text := by
  have params : evalExpr s m (dotted "p" ["params"]) = .ok (.data (Outline.texts p.params)) := evalExpr_dotted hm rfl
  have given : (Value.data (Outline.texts p.params)).isTrue = .ok (!p.params.isEmpty) := by
    simp [Value.isTrue, Value.isTrueData, Outline.texts, Data.ofList]
  have joined : evalExpr s m (.filter (dotted "p" ["params"]) "join" [.text ", "] []) =
      .ok (.text (", ".intercalate p.params)) := by
    have parts : ((p.params.map Data.text).map Value.dataText).foldl (Filter.joined ", ") "" =
        ", ".intercalate p.params := by
      rw [List.map_map, show Value.dataText ∘ Data.text = id from rfl, List.map_id]
      cases he : p.params with
      | nil => rfl
      | cons first rest =>
        have first_ne : first ≠ "" := by simpa [he] using hp
        exact foldl_joined first_ne rest
    rw [← parts, evalExpr, params]
    rfl
  have run : Prints s m prototypeProgram _ :=
    .shown hm rfl <| .text <| .shown hm rfl <| .text <|
      .choice params given (fun _ => joined) (fun _ => rfl) <| .text .nil
  rw [Emission.prototype, Declaration.text_prototype]
  cases he : p.params <;> simpa [dataText_text, String.append_assoc, he] using run

theorem prints_bytesProgram {width : Nat} (hm : m.lookup "width" = .data (.int width)) :
    Prints s m bytesProgram (byteCount width) := by
  have one : evalExpr s m (.comparison (.name "width") [(.equal, .int 1)]) =
      .ok (.data (.bool (decide (width = 1)))) := by
    have same : ((width : Int) == 1) = decide (width = 1) := by
      rw [Bool.eq_iff_iff, beq_iff_eq, decide_eq_true_eq]
      omega
    simp only [evalExpr, hm, evalLinks, compare, Value.defined, Value.same, Value.sameData, ok_bind, pure_bind]
    rw [show ((1 : Nat) : Int) = 1 from rfl, same]
    cases decide (width = 1) <;> rfl
  have many : evalExpr s m (.concat (.name "width") (.text " bytes")) = .ok (.text (toString width ++ " bytes")) := by
    simp only [evalExpr, hm, ok_bind]
    rfl
  have run : Prints s m bytesProgram _ := .choice one rfl (fun _ => rfl) (fun _ => many) .nil
  simpa [byteCount, Value.isTrueData] using run

end

/-! ## Loading -/

/-- A definition of one parameter that uses no other name. -/
def closed (name x : String) (body : List Statement) : Value := .routine ⟨name, [⟨x, none⟩], body, false, none⟩

/-- What `m` stands for in a header. -/
def macros : Value :=
  .bundle "\n\n"
    [("bytes", closed "bytes" "width" bytesProgram), ("enumeration", closed "enumeration" "e" enumerationProgram),
     ("prototype", closed "prototype" "p" prototypeProgram)]

theorem define_closed {m : Machine} {name x : String} {body : List Statement}
    (hfree : freeNamesOfDefinition [⟨x, none⟩] body = []) (hclosure : m.top.closure = none) :
    m.define name [⟨x, none⟩] body = m.bind name (closed name x body) := by
  simp [Machine.define, hfree, hclosure, closed]

theorem runStatements_macrosProgram (s : Surroundings) (m : Machine) :
    runStatements s { m with frames := {} :: m.frames } macrosProgram =
      .ok ("\n\n", { m with frames :=
        { locals := [("bytes", closed "bytes" "width" bytesProgram),
          ("prototype", closed "prototype" "p" prototypeProgram),
          ("enumeration", closed "enumeration" "e" enumerationProgram)] } :: m.frames }) := by
  have first : freeNamesOfDefinition [⟨"e", none⟩] enumerationProgram = [] := by decide
  have second : freeNamesOfDefinition [⟨"p", none⟩] prototypeProgram = [] := by decide
  have third : freeNamesOfDefinition [⟨"width", none⟩] bytesProgram = [] := by decide
  simp only [macrosProgram, runStatements, runStatement, ok_bind]
  rw [define_closed first rfl, define_closed second rfl, define_closed third rfl]
  rfl

theorem sorted_macros (a b c : Value) :
    Scope.sorted [("bytes", a), ("prototype", b), ("enumeration", c)] =
      [("bytes", a), ("enumeration", c), ("prototype", b)] := by
  simp [Scope.sorted, List.mergeSort]

theorem runStatement_loadMacros {library : Library} {level : Nat} {m : Machine}
    (hlibrary : library.lookup "macros" = some macrosProgram)
    (hdepth : m.depth + 1 + Machine.loadCost ≤ Machine.maxDepth) :
    runStatement (surroundings library (level + 1)) m loadMacros = .ok ("", m.bind "m" macros) := by
  let inner : Machine := { m with below := m.below + Machine.loadCost }
  have begun : m.beginLoad = .ok { inner with frames := {} :: inner.frames } := by
    have shallow : Machine.checkDepth { inner with frames := {} :: inner.frames } = .ok () := by
      apply Machine.checkDepth_eq_ok
      simp only [Machine.depth, List.length_cons, inner] at hdepth ⊢
      omega
    rw [Machine.beginLoad, Machine.push_eq_ok (by omega), ok_bind]
    exact congrArg (· >>= fun _ => pure _) shallow
  have chosen : chosenProgram library (.text "macros") = .ok macrosProgram := by
    show firstProgram library [.text "macros"] = _
    rw [firstProgram, findProgram, hlibrary]
    rfl
  have loaded : loadTemplate (surroundings library (level + 1)) m (.text "macros") "m" = .ok (m.bind "m" macros) := by
    simp only [loadTemplate, begun, ok_bind]
    rw [show (surroundings library (level + 1)).library = library from rfl, chosen, ok_bind]
    simp only [surroundings, bindParams, ok_bind]
    rw [runStatements_macrosProgram, ok_bind]
    simp only [Machine.endLoad, Machine.top, List.head?_cons, Option.getD_some, sorted_macros, inner, Machine.pop,
      List.tail_cons, Nat.add_sub_cancel]
    rfl
  simp only [loadMacros, runStatement, evalExpr, ok_bind, loaded]
  rfl

/-! ## Calls -/

/-- A machine that has loaded the definitions, with room for a number of further frames. -/
structure Ready (room : Nat) (m : Machine) : Prop where
  loaded : m.lookup "m" = macros
  shallow : m.depth + room ≤ Machine.maxDepth

theorem Ready.inLoop {room : Nat} {m : Machine} {x : String} {d : Data} {state : LoopState} (h : Ready (room + 1) m)
    (hx : x ≠ "m") : Ready room (m.inLoop x d state) := by
  refine ⟨?_, ?_⟩
  · rw [Machine.lookup_inLoop, if_neg hx.symm, if_neg (by decide), h.loaded]
  · rw [Machine.depth_inLoop]
    have := h.shallow
    omega

theorem Ready.bind {room : Nat} {m : Machine} {x : String} {v : Value} (h : Ready room m) (hframes : m.frames ≠ [])
    (hx : x ≠ "m") : Ready room (m.bind x v) := by
  refine ⟨?_, ?_⟩
  · rw [Machine.lookup_bind hframes, if_neg hx.symm, h.loaded]
  · rw [Machine.depth_bind]
    exact h.shallow

theorem Ready.mono {room less : Nat} {m : Machine} (h : Ready room m) (hless : less ≤ room) : Ready less m := by
  refine ⟨h.loaded, ?_⟩
  have := h.shallow
  omega

theorem Ready.depth_le {room : Nat} {m : Machine} (h : Ready room m) : m.depth ≤ Machine.maxDepth :=
  (h.mono (Nat.zero_le room)).shallow

section
variable {library : Library} {level : Nat} {m : Machine} {arg : Expr}

theorem runStatement_callOf {name x : String} {body : List Statement} {v : Value} {text : String} (hm : Ready 6 m)
    (hname : macros.member name = .ok (closed name x body))
    (harg : evalExpr (surroundings library (level + 1)) m arg = .ok v)
    (hbody : Prints (surroundings library level) (m.inCall x v) body text) :
    runStatement (surroundings library (level + 1)) m (callOf name arg) = .ok (text, m) := by
  have callee : evalExpr (surroundings library (level + 1)) m (dotted "m" [name]) = .ok (closed name x body) := by
    simp only [dotted, List.foldl, evalExpr, ok_bind, hm.loaded, hname]
  simp only [callOf, runStatement, evalExpr, callee, evalExprs, evalNamed, harg, ok_bind, pure_bind]
  rw [closed, callValue_routine hm.shallow hbody]
  rfl

theorem runStatement_enumeration {e : Enumeration} (hm : Ready 6 m) (he : e.enumerators ≠ [])
    (harg : evalExpr (surroundings library (level + 1)) m arg = .ok (.data e.toData)) :
    runStatement (surroundings library (level + 1)) m (callOf "enumeration" arg) =
      .ok ((Emission.enumeration e).text, m) :=
  runStatement_callOf hm rfl harg (prints_enumerationProgram he Machine.lookup_inCall_self hm.shallow)

/-- Without enumerators there is no line between the braces, and none that is blank. -/
theorem runStatement_noEnumerators {e : Enumeration} (hm : Ready 6 m) (he : e.enumerators = [])
    (harg : evalExpr (surroundings library (level + 1)) m arg = .ok (.data e.toData)) :
    runStatement (surroundings library (level + 1)) m (callOf "enumeration" arg) =
      .ok ("typedef enum \x7b\n\x7d " ++ (e.typeName ++ ";"), m) := by
  have run := prints_enumerators (s := surroundings library level) (e := e) Machine.lookup_inCall_self hm.shallow
  rw [he, show loopText enumeratorLine [] = "" from rfl, String.empty_append, Declaration.glue rfl] at run
  exact runStatement_callOf hm rfl harg run

theorem runStatement_prototype {p : Prototype} (hm : Ready 6 m) (hp : p.params.head? ≠ some "")
    (harg : evalExpr (surroundings library (level + 1)) m arg = .ok (.data p.toData)) :
    runStatement (surroundings library (level + 1)) m (callOf "prototype" arg) =
      .ok ((Emission.prototype p).text, m) :=
  runStatement_callOf hm rfl harg (prints_prototypeProgram hp Machine.lookup_inCall_self)

theorem runStatement_bytes {width : Nat} (hm : Ready 6 m)
    (harg : evalExpr (surroundings library (level + 1)) m arg = .ok (.data (.int width))) :
    runStatement (surroundings library (level + 1)) m (callOf "bytes" arg) = .ok (byteCount width, m) :=
  runStatement_callOf hm rfl harg (prints_bytesProgram Machine.lookup_inCall_self)

end

end StatusFrames.Template
