/-
The programs of the built-in templates. Each is given as a value, and the text of the template is read as that value:
the text is cut into the pieces in which the program is written, and those pieces are read as the program.
-/
import StatusFrames.Proofs.Template.Rules
import StatusFrames.Template.BuiltIn
import StatusFrames.Template.Parsing

namespace StatusFrames.Template

/-! ## The written form of a program -/

/-- Parts with commas between them. -/
def commas (parts : List (List Word)) : List Word := [Word.mark ","].intercalate parts

mutual

/-- The words of an expression. No parentheses are set, so an operator must bind tighter than the one around it. -/
def Expr.written : Expr → List Word
  | .none => [.name "none"]
  | .bool b => [.name (if b then "true" else "false")]
  | .int n => [.number (.int n)]
  | .float x => [.number (.float x)]
  | .text s => [.text s]
  | .name x => [.name x]
  | .attribute e x => e.written ++ [.mark ".", .name x]
  | .call callee args named =>
    callee.written ++ [.mark "("] ++ commas (writtenArgs args ++ writtenNamed named) ++ [.mark ")"]
  | .filter e x args named =>
    let parts := writtenArgs args ++ writtenNamed named
    e.written ++ [.mark "|", .name x] ++ (if parts.isEmpty then [] else [.mark "("] ++ commas parts ++ [.mark ")"])
  | .negation e => .name "not" :: e.written
  | .minus e => .mark "-" :: e.written
  | .both a b => a.written ++ .name "and" :: b.written
  | .either a b => a.written ++ .name "or" :: b.written
  | .comparison first links => first.written ++ writtenLinks links
  | .concat a b => a.written ++ .mark "~" :: b.written
  | .choice value condition other => value.written ++ .name "if" :: condition.written ++ writtenOther other

def writtenOther : Option Expr → List Word
  | none => []
  | some e => .name "else" :: e.written

def writtenArgs : List Expr → List (List Word)
  | [] => []
  | e :: rest => e.written :: writtenArgs rest

def writtenNamed : List (String × Expr) → List (List Word)
  | [] => []
  | (x, e) :: rest => (.name x :: .mark "=" :: e.written) :: writtenNamed rest

def writtenLinks : List (Relation × Expr) → List Word
  | [] => []
  | (relation, e) :: rest =>
    .mark (match relation with | .equal => "==" | .unequal => "!=") :: e.written ++ writtenLinks rest

end

mutual

def Target.written : Target → List Word
  | .name x => [.name x]
  | .parts targets => .mark "(" :: writtenTargets targets ++ [.mark ")"]

def writtenTargets : List Target → List Word
  | [] => []
  | target :: rest => target.written ++ .mark "," :: writtenTargets rest

end

def Param.written (param : Param) : List Word :=
  match param.fallback with
  | none => [.name param.name]
  | some e => .name param.name :: .mark "=" :: e.written

def endTag (word : String) : Piece := .tag [.name word]

mutual

/-- The pieces of a statement. -/
def Statement.written : Statement → List Piece
  | .text s => [.text s]
  | .output e => [.output e.written]
  | .each target items condition body otherwise =>
    let selection :=
      match condition with
      | none => []
      | some e => .name "if" :: e.written
    .tag (.name "for" :: target.written ++ .name "in" :: items.written ++ selection) :: writtenBody body ++
      writtenElse otherwise ++ [endTag "endfor"]
  | .branch condition body otherwise =>
    .tag (.name "if" :: condition.written) :: writtenBody body ++ writtenElse otherwise ++ [endTag "endif"]
  | .assign target e => [.tag (.name "set" :: target.written ++ .mark "=" :: e.written)]
  | .capture target body => .tag (.name "set" :: target.written) :: writtenBody body ++ [endTag "endset"]
  | .define x params body =>
    .tag ([.name "macro", .name x, .mark "("] ++ commas (params.map Param.written) ++ [.mark ")"]) ::
      writtenBody body ++ [endTag "endmacro"]
  | .load e x => [.tag (.name "import" :: e.written ++ [.name "as", .name x])]

def writtenBody : List Statement → List Piece
  | [] => []
  | statement :: rest => statement.written ++ writtenBody rest

/-- The part of a loop or condition for the other case, which is left out if it does nothing. -/
def writtenElse : List Statement → List Piece
  | [] => []
  | statement :: rest => endTag "else" :: statement.written ++ writtenBody rest

end

/-! ## The programs -/

/-- A call of a definition that was loaded as `m`. -/
def callOf (name : String) (arg : Expr) : Statement := .output (.call (dotted "m" [name]) [arg] [])

/-- A loop over a list, for all items. -/
def loop (x : String) (items : Expr) (body : List Statement) : Statement := .each (.name x) items none body []

/-- One line of an enumeration. -/
def enumeratorProgram : List Statement :=
  [.text "  ", shown "v" ["name"],
   .output (.choice (.concat (.text " = ") (dotted "v" ["value"])) (dotted "v" ["explicit"]) (some (.text ""))),
   .output (.choice (.text ",") (.negation (dotted "loop" ["last"])) (some (.text ""))), .text "\n"]

def enumerationProgram : List Statement :=
  [.text "typedef enum \x7b\n", loop "v" (dotted "e" ["enumerators"]) enumeratorProgram,
   .text "\x7d ", shown "e" ["type_name"], .text ";"]

def prototypeProgram : List Statement :=
  [shown "p" ["return_type"], .text " ", shown "p" ["name"], .text "(",
   .output (.choice (.filter (dotted "p" ["params"]) "join" [.text ", "] []) (dotted "p" ["params"])
     (some (.text "void"))),
   .text ");"]

def bytesProgram : List Statement :=
  [.output (.choice (.text "1 byte") (.comparison (.name "width") [(.equal, .int 1)])
    (some (.concat (.name "width") (.text " bytes"))))]

def macrosProgram : List Statement :=
  [.define "enumeration" [⟨"e", none⟩] enumerationProgram, .text "\n",
   .define "prototype" [⟨"p", none⟩] prototypeProgram, .text "\n",
   .define "bytes" [⟨"width", none⟩] bytesProgram]

def loadMacros : Statement := .load (.text "macros") "m"

/-- The lines that start a header, up to its first comment. -/
def openingProgram : List Statement := [.text "#ifndef ", shown "guard" [], .text "\n#define ", shown "guard" []]

/-- The comment of a header that has no document of its own. -/
def bannerText : Statement := .text "\n\n/* Generated by ksrp. Do not edit. */\n\n"

/-- The include lines of a header. -/
def inclusionProgram : List Statement :=
  [loop "header" (dotted "clibraries" []) [.text "#include <", shown "header" [], .text ">\n"],
   .branch (dotted "libraries" [])
     [.text "\n", loop "header" (dotted "libraries" []) [.text "#include \"", shown "header" [], .text "\"\n"]] []]

/-- What ends a header, behind the start of its last line. -/
def closingProgram : List Statement := [shown "guard" [], .text " */\n"]

/-- The constants of a frame's fields. -/
def constantsProgram : List Statement :=
  [.text "\n",
   loop "field" (dotted "frame" ["fields"])
     [loop "constant" (dotted "field" ["constants"])
       [.text "#define ", shown "constant" ["name"], .text " ", shown "constant" ["value"], .text "\n"]]]

def memberProgram : List Statement :=
  [.text "  ", shown "field" ["storage_type"], .text " ", shown "field" ["name"], .text "; /* offset ",
   shown "field" ["offset"], .text ", ", callOf "bytes" (dotted "field" ["width"]), .text " */\n"]

/-- One frame of a protocol header. -/
def frameProgram : List Statement :=
  [.text "\n/* Frame '", shown "frame" ["name"], .text "' (id ", shown "frame" ["id"], .text ") */\n",
   .each (.name "field") (dotted "frame" ["fields"]) (some (dotted "field" ["enum_type"]))
     [.text "\n", callOf "enumeration" (dotted "field" ["enum_type"]), .text "\n"] [],
   .branch (.filter (.filter (dotted "frame" ["fields"]) "selectattr" [.text "constants"] []) "list" [] [])
     constantsProgram [],
   .text "\ntypedef struct __attribute__((packed)) \x7b\n",
   loop "field" (dotted "frame" ["fields"]) memberProgram,
   .text "\x7d ", shown "frame" ["type_name"], .text ";\n\n#define ", shown "frame" ["size_constant", "name"],
   .text " ", shown "frame" ["size_constant", "value"], .text "\n_Static_assert(sizeof(",
   shown "frame" ["type_name"], .text ") == ", shown "frame" ["size_constant", "name"], .text ", \"",
   shown "frame" ["size_assert"], .text "\");\n#define ", shown "frame" ["type_id", "name"], .text " ",
   shown "frame" ["type_id", "value"], .text "\n\n", callOf "enumeration" (dotted "frame" ["field_ids"]),
   .text "\n\n",
   loop "field" (dotted "frame" ["fields"]) [callOf "prototype" (dotted "field" ["getter"]), .text "\n"],
   .text "\n",
   loop "field" (dotted "frame" ["fields"]) [callOf "prototype" (dotted "field" ["setter"]), .text "\n"]]

/-- A header from its first comment and what stands behind the include lines. -/
def headerProgram (banner body : List Statement) : List Statement :=
  openingProgram ++ banner ++ inclusionProgram ++ body ++ closingProgram

/-- The comment of a header that has one. -/
def sourceProgram : List Statement :=
  [.text "\n\n/* Generated by ksrp from ", shown "protocol" ["source"], .text ". Do not edit. */\n\n"]

def framesProgram : List Statement :=
  [.text "\n/* Frame ids of subsystem '", shown "protocol" ["subsystem"], .text "' */\n",
   callOf "enumeration" (dotted "protocol" ["frame_ids"]), .text "\n",
   loop "frame" (dotted "protocol" ["frames"]) frameProgram, .text "\n#endif /* "]

def protocolProgram : List Statement :=
  loadMacros :: headerProgram sourceProgram framesProgram

def membersProgram : List Statement :=
  [.text "\ntypedef struct \x7b\n",
   loop "member" (dotted "instance" ["members"])
     [.text "  ", shown "member" ["frame_type"], .text " ", shown "member" ["frame_member"], .text ";\n"],
   loop "member" (dotted "instance" ["members"])
     [.text "  ", shown "instance" ["clock_type"], .text " ", shown "member" ["clock_member"], .text ";\n"],
   .text "\x7d ", shown "instance" ["type_name"], .text ";\n\n",
   loop "p" (dotted "instance" ["prototypes"]) [callOf "prototype" (dotted "p" []), .text "\n"],
   .text "\n#endif /* "]

def instanceProgram : List Statement :=
  loadMacros :: .assign (.name "instance") (dotted "protocol" ["instance"]) :: headerProgram [bannerText] membersProgram

def subsystemIdsProgram : List Statement :=
  [.text "\n/* Subsystem ids */\n", callOf "enumeration" (dotted "subsystem_ids" []), .text "\n\n#endif /* "]

def commonProgram : List Statement := loadMacros :: headerProgram [bannerText] subsystemIdsProgram

def dispatchProgram : List Statement :=
  [.text "\n#define ", shown "subsystem_count" ["name"], .text " ", shown "subsystem_count" ["value"], .text "\n",
   loop "protocol" (dotted "protocols" [])
     [.text "\n",
      loop "p" (dotted "protocol" ["dispatch"]) [callOf "prototype" (dotted "p" []), .text "\n"]],
   .text "\n#endif /* "]

def utilsProgram : List Statement := loadMacros :: headerProgram [bannerText] dispatchProgram

/-! ## Reading the texts -/

set_option maxRecDepth 100000

theorem linesText_toList (lines : List String) :
    (linesText lines).toList = lines.flatMap fun line => line.toList ++ ['\n'] := by
  induction lines with
  | nil => rfl
  | cons line rest ih =>
    rw [linesText] at ih ⊢
    simp only [List.map_cons, String.join_cons, String.toList_append, ih, List.flatMap_cons]
    rfl

theorem pieces_macrosText : pieces macrosText = some (writtenBody macrosProgram) := by
  rw [pieces, macrosText, linesText_toList]
  simp only [List.flatMap_cons, List.flatMap_nil]
  repeat rw [String.toList_ofList]
  rfl

theorem parse_macrosText : parse macrosText = some macrosProgram := by
  rw [parse, pieces_macrosText]
  rfl

theorem pieces_protocolText : pieces protocolText = some (writtenBody protocolProgram) := by
  rw [pieces, protocolText, linesText_toList]
  simp only [List.flatMap_cons, List.flatMap_nil]
  repeat rw [String.toList_ofList]
  rfl

theorem parse_protocolText : parse protocolText = some protocolProgram := by
  rw [parse, pieces_protocolText]
  rfl

theorem pieces_instanceText : pieces instanceText = some (writtenBody instanceProgram) := by
  rw [pieces, instanceText, linesText_toList]
  simp only [List.flatMap_cons, List.flatMap_nil]
  repeat rw [String.toList_ofList]
  rfl

theorem parse_instanceText : parse instanceText = some instanceProgram := by
  rw [parse, pieces_instanceText]
  rfl

theorem pieces_commonText : pieces commonText = some (writtenBody commonProgram) := by
  rw [pieces, commonText, linesText_toList]
  simp only [List.flatMap_cons, List.flatMap_nil]
  repeat rw [String.toList_ofList]
  rfl

theorem parse_commonText : parse commonText = some commonProgram := by
  rw [parse, pieces_commonText]
  rfl

theorem pieces_utilsText : pieces utilsText = some (writtenBody utilsProgram) := by
  rw [pieces, utilsText, linesText_toList]
  simp only [List.flatMap_cons, List.flatMap_nil]
  repeat rw [String.toList_ofList]
  rfl

theorem parse_utilsText : parse utilsText = some utilsProgram := by
  rw [parse, pieces_utilsText]
  rfl

end StatusFrames.Template
