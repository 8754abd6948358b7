/-
Reading the program of a template from its pieces. Operators bind, from loose to tight: inline `if`, `or`, `and`,
`not`, comparison, `~`, filters, attributes and calls, `-`. Statements, expressions and what they consist of may nest to
a fixed depth, and every reader is given how much of it is left.
-/
import StatusFrames.Template.Piece
import StatusFrames.Template.Program

namespace StatusFrames.Template

/-- How deep a template may nest. -/
def maxNesting : Nat := 151

/-- A constant or a variable. -/
def constantOrName : String → Expr
  | "true" | "True" => .bool true
  | "false" | "False" => .bool false
  | "none" | "None" => .none
  | name => .name name

def Number.toExpr : Number → Expr
  | .int n => .int n
  | .float x => .float x

/-- Text constants at the start of the words, joined into one. -/
def spanTexts : List Word → String × List Word
  | .text s :: rest =>
    let (more, rest) := spanTexts rest
    (s ++ more, rest)
  | words => ("", words)

def relation? : Word → Option Relation
  | .mark "==" => some .equal
  | .mark "!=" => some .unequal
  | _ => none

mutual

/-- A full expression, with inline `if`. -/
def expr? : Nat → Nat → List Word → Option (Expr × List Word)
  | fuel + 1, depth + 1, words => choice? fuel depth words
  | _, _, _ => none
termination_by structural fuel => fuel

/-- An expression without inline `if` of its own. -/
def plainExpr? : Nat → Nat → List Word → Option (Expr × List Word)
  | fuel + 1, depth + 1, words => disjunction? fuel depth words
  | _, _, _ => none
termination_by structural fuel => fuel

def choice? : Nat → Nat → List Word → Option (Expr × List Word)
  | 0, _, _ => none
  | fuel + 1, depth, words =>
    match disjunction? fuel depth words with
    | none => none
    | some (e, rest) => choices? fuel depth e rest
termination_by structural fuel => fuel

/-- The `if` and `else` parts behind an expression. -/
def choices? : Nat → Nat → Expr → List Word → Option (Expr × List Word)
  | 0, _, _, _ => none
  | fuel + 1, depth, e, .name "if" :: rest =>
    match disjunction? fuel depth rest with
    | none => none
    | some (condition, .name "else" :: rest) =>
      match choice? fuel depth rest with
      | none => none
      | some (other, rest) => choices? fuel depth (.choice e condition (some other)) rest
    | some (condition, rest) => choices? fuel depth (.choice e condition none) rest
  | _, _, e, rest => some (e, rest)
termination_by structural fuel => fuel

def disjunction? : Nat → Nat → List Word → Option (Expr × List Word)
  | 0, _, _ => none
  | fuel + 1, depth, words =>
    match conjunction? fuel depth words with
    | none => none
    | some (a, rest) => moreDisjuncts? fuel depth a rest
termination_by structural fuel => fuel

def moreDisjuncts? : Nat → Nat → Expr → List Word → Option (Expr × List Word)
  | 0, _, _, _ => none
  | fuel + 1, depth, a, .name "or" :: rest =>
    match conjunction? fuel depth rest with
    | none => none
    | some (b, rest) => moreDisjuncts? fuel depth (.either a b) rest
  | _, _, a, rest => some (a, rest)
termination_by structural fuel => fuel

def conjunction? : Nat → Nat → List Word → Option (Expr × List Word)
  | 0, _, _ => none
  | fuel + 1, depth, words =>
    match negation? fuel depth words with
    | none => none
    | some (a, rest) => moreConjuncts? fuel depth a rest
termination_by structural fuel => fuel

def moreConjuncts? : Nat → Nat → Expr → List Word → Option (Expr × List Word)
  | 0, _, _, _ => none
  | fuel + 1, depth, a, .name "and" :: rest =>
    match negation? fuel depth rest with
    | none => none
    | some (b, rest) => moreConjuncts? fuel depth (.both a b) rest
  | _, _, a, rest => some (a, rest)
termination_by structural fuel => fuel

def negation? : Nat → Nat → List Word → Option (Expr × List Word)
  | 0, _, _ => none
  | fuel + 1, depth, .name "not" :: rest =>
    (negation? fuel depth rest).map fun (e, rest) => (.negation e, rest)
  | fuel + 1, depth, words =>
    match concatenation? fuel depth words with
    | none => none
    | some (first, rest) =>
      match links? fuel depth rest with
      | none => none
      | some ([], rest) => some (first, rest)
      | some (links, rest) => some (.comparison first links, rest)
termination_by structural fuel => fuel

/-- The comparisons behind an expression. -/
def links? : Nat → Nat → List Word → Option (List (Relation × Expr) × List Word)
  | 0, _, _ => none
  | _, _, [] => some ([], [])
  | fuel + 1, depth, word :: rest =>
    match relation? word with
    | none => some ([], word :: rest)
    | some relation =>
      match concatenation? fuel depth rest with
      | none => none
      | some (e, rest) => (links? fuel depth rest).map fun (links, rest) => ((relation, e) :: links, rest)
termination_by structural fuel => fuel

def concatenation? : Nat → Nat → List Word → Option (Expr × List Word)
  | 0, _, _ => none
  | fuel + 1, depth, words =>
    match filtered? fuel depth words with
    | none => none
    | some (a, rest) => moreParts? fuel depth a rest
termination_by structural fuel => fuel

def moreParts? : Nat → Nat → Expr → List Word → Option (Expr × List Word)
  | 0, _, _, _ => none
  | fuel + 1, depth, a, .mark "~" :: rest =>
    match filtered? fuel depth rest with
    | none => none
    | some (b, rest) => moreParts? fuel depth (.concat a b) rest
  | _, _, a, rest => some (a, rest)
termination_by structural fuel => fuel

/-- A signed expression with the attributes, calls and filters behind it. -/
def filtered? : Nat → Nat → List Word → Option (Expr × List Word)
  | 0, _, _ => none
  | fuel + 1, depth, words =>
    match signed? fuel depth words with
    | none => none
    | some (e, rest) =>
      match accesses? fuel depth e rest with
      | none => none
      | some (e, rest) => filters? fuel depth e rest
termination_by structural fuel => fuel

def signed? : Nat → Nat → List Word → Option (Expr × List Word)
  | 0, _, _ => none
  | fuel + 1, depth, .mark "-" :: rest => (signed? fuel depth rest).map fun (e, rest) => (.minus e, rest)
  | fuel + 1, depth, words => simple? fuel depth words
termination_by structural fuel => fuel

/-- A constant, a variable or an expression in parentheses. -/
def simple? : Nat → Nat → List Word → Option (Expr × List Word)
  | _ + 1, _ + 1, .name s :: rest => some (constantOrName s, rest)
  | _ + 1, _ + 1, .number n :: rest => some (n.toExpr, rest)
  | _ + 1, _ + 1, .text s :: rest =>
    let (more, rest) := spanTexts rest
    some (.text (s ++ more), rest)
  | fuel + 1, depth + 1, .mark "(" :: rest =>
    match expr? fuel depth rest with
    | some (e, .mark ")" :: rest) => some (e, rest)
    | _ => none
  | _, _, _ => none
termination_by structural fuel => fuel

def accesses? : Nat → Nat → Expr → List Word → Option (Expr × List Word)
  | 0, _, _, _ => none
  | fuel + 1, depth, e, .mark "." :: .name name :: rest => accesses? fuel depth (.attribute e name) rest
  | _, _, _, .mark "." :: _ => none
  | fuel + 1, depth, e, .mark "(" :: rest =>
    match args? fuel depth rest with
    | none => none
    | some (args, named, rest) => accesses? fuel depth (.call e args named) rest
  | _, _, e, rest => some (e, rest)
termination_by structural fuel => fuel

def filters? : Nat → Nat → Expr → List Word → Option (Expr × List Word)
  | 0, _, _, _ => none
  | fuel + 1, depth, e, .mark "|" :: .name name :: .mark "(" :: rest =>
    match args? fuel depth rest with
    | none => none
    | some (args, named, rest) => filters? fuel depth (.filter e name args named) rest
  | fuel + 1, depth, e, .mark "|" :: .name name :: rest => filters? fuel depth (.filter e name [] []) rest
  | _, _, _, .mark "|" :: _ => none
  | _, _, e, rest => some (e, rest)
termination_by structural fuel => fuel

/-- Arguments up to the closing parenthesis, first those by position. -/
def args? : Nat → Nat → List Word → Option (List Expr × List (String × Expr) × List Word)
  | 0, _, _ => none
  | _, _, .mark ")" :: rest => some ([], [], rest)
  | fuel + 1, depth, words =>
    match expr? fuel depth words with
    | some (.name x, .mark "=" :: rest) =>
      (namedArgs? fuel depth x rest).map fun (named, rest) => ([], named, rest)
    | some (e, .mark "," :: rest) => (args? fuel depth rest).map fun (args, found) => (e :: args, found)
    | some (e, .mark ")" :: rest) => some ([e], [], rest)
    | _ => none
termination_by structural fuel => fuel

/-- Arguments by name, from the value of the first one on. -/
def namedArgs? : Nat → Nat → String → List Word → Option (List (String × Expr) × List Word)
  | 0, _, _, _ => none
  | fuel + 1, depth, x, words =>
    match plainExpr? fuel depth words with
    | some (e, .mark ")" :: rest) => some ([(x, e)], rest)
    | some (e, .mark "," :: .mark ")" :: rest) => some ([(x, e)], rest)
    | some (e, .mark "," :: .name y :: .mark "=" :: rest) =>
      (namedArgs? fuel depth y rest).map fun (named, rest) => ((x, e) :: named, rest)
    | _ => none
termination_by structural fuel => fuel

end

/-- Enough steps for any expression of these words. -/
def exprFuel (words : List Word) : Nat := 16 * words.length + 16

/-- An expression that takes all the words. -/
def wholeExpr? (depth : Nat) (words : List Word) : Option Expr :=
  match expr? (exprFuel words) depth words with
  | some (e, []) => some e
  | _ => none

/-- Names that cannot be bound. -/
def reservedNames : List String := ["true", "True", "false", "False", "none", "None", "loop", "self"]

mutual

/-- Targets between commas, up to a closing parenthesis or the word `in`. A comma makes a target with parts. -/
def target? : Nat → List Word → Option (Target × List Word)
  | 0, _ => none
  | fuel + 1, words =>
    match targets? fuel words with
    | some ([target], false, rest) => some (target, rest)
    | some (targets, _, rest) => some (.parts targets, rest)
    | none => none

/-- The targets, whether there was a comma, and what stands behind them. -/
def targets? : Nat → List Word → Option (List Target × Bool × List Word)
  | 0, _ => none
  | _, [] => some ([], false, [])
  | _, .mark ")" :: rest => some ([], false, .mark ")" :: rest)
  | _, .name "in" :: rest => some ([], false, .name "in" :: rest)
  | fuel + 1, words =>
    match oneTarget? fuel words with
    | none => none
    | some (target, .mark "," :: rest) =>
      (targets? fuel rest).map fun (targets, _, rest) => (target :: targets, true, rest)
    | some (target, rest) => some ([target], false, rest)

def oneTarget? : Nat → List Word → Option (Target × List Word)
  | 0, _ => none
  | _, .name x :: rest => if reservedNames.contains x then none else some (.name x, rest)
  | fuel + 1, .mark "(" :: rest =>
    match target? fuel rest with
    | some (target, .mark ")" :: rest) => some (target, rest)
    | _ => none
  | _, _ => none

end

def targetFuel (words : List Word) : Nat := 3 * words.length + 3

/-- Parameters between commas, up to the closing parenthesis at the end. Behind one with a value of its own all have
one. -/
def params? : Nat → Nat → Bool → List Word → Option (List Param)
  | 0, _, _, _ => none
  | _, _, _, [.mark ")"] => some []
  | fuel + 1, depth, valued, .name x :: rest =>
    if reservedNames.contains x then none
    else
      let param? : Option (Param × Bool × List Word) :=
        match rest with
        | .mark "=" :: rest => (expr? (exprFuel rest) depth rest).map fun (e, rest) => (⟨x, some e⟩, true, rest)
        | rest => if valued then none else some (⟨x, none⟩, false, rest)
      match param? with
      | some (param, _, [.mark ")"]) => some [param]
      | some (param, valued, .mark "," :: rest) => (params? fuel depth valued rest).map (param :: ·)
      | _ => none
  | _, _, _, _ => none

/-- A tag that ends the body of another one. -/
def isEnding : List Word → Bool
  | .name name :: _ => name ∈ ["endfor", "endif", "endmacro", "endset", "else", "elif"]
  | _ => false

/-- The head of a loop: its target, the items and a condition. -/
def loopHead? (depth : Nat) (words : List Word) : Option (Target × Expr × Option Expr) :=
  match target? (targetFuel words) words with
  | some (target, .name "in" :: words) =>
    match plainExpr? (exprFuel words) depth words with
    | some (items, []) => some (target, items, none)
    | some (items, .name "if" :: words) =>
      (wholeExpr? depth words).map fun condition => (target, items, some condition)
    | _ => none
  | _ => none

/-- The head of an assignment: its target, and its value unless that is the text of a body. -/
def assignmentHead? (depth : Nat) (words : List Word) : Option (Target × Option Expr) :=
  match words with
  | .mark "(" :: words =>
    match target? (targetFuel words) words with
    | some (target, .mark ")" :: .mark "=" :: words) => (wholeExpr? depth words).map (target, some ·)
    | _ => none
  | words =>
    match target? (targetFuel words) words with
    | some (target, []) => some (target, none)
    | some (target, .mark "=" :: words) => (wholeExpr? depth words).map (target, some ·)
    | _ => none

mutual

/-- The statements up to the end of the pieces or to a tag that ends a body. -/
def statements? : Nat → Nat → List Piece → Option (List Statement × List Piece)
  | 0, _, _ => none
  | _, _, [] => some ([], [])
  | fuel + 1, depth, .text s :: rest => (statements? fuel depth rest).map fun (body, rest) => (.text s :: body, rest)
  | fuel + 1, depth, .output words :: rest =>
    match wholeExpr? depth words with
    | none => none
    | some e => (statements? fuel depth rest).map fun (body, rest) => (.output e :: body, rest)
  | fuel + 1, depth, .tag words :: rest =>
    if isEnding words then some ([], .tag words :: rest)
    else
      match tag? fuel depth words rest with
      | none => none
      | some (statement, rest) =>
        (statements? fuel depth rest).map fun (body, rest) => (statement :: body, rest)
termination_by structural fuel => fuel

/-- The statement that a tag starts. -/
def tag? : Nat → Nat → List Word → List Piece → Option (Statement × List Piece)
  | fuel + 1, depth + 1, .name "for" :: words, rest =>
    match loopHead? depth words with
    | none => none
    | some (target, items, condition) => each? fuel depth target items condition rest
  | fuel + 1, depth + 1, .name "if" :: words, rest => branch? fuel depth words rest
  | fuel + 1, depth + 1, .name "set" :: words, rest =>
    match assignmentHead? depth words with
    | none => none
    | some (target, some value) => some (.assign target value, rest)
    | some (target, none) =>
      match statements? fuel depth rest with
      | some (body, .tag [.name "endset"] :: rest) => some (.capture target body, rest)
      | _ => none
  | fuel + 1, depth + 1, .name "macro" :: .name x :: .mark "(" :: words, rest =>
    match params? (words.length + 1) depth false words, statements? fuel depth rest with
    | some params, some (body, .tag [.name "endmacro"] :: rest) => some (.define x params body, rest)
    | _, _ => none
  | _, depth + 1, .name "import" :: words, rest =>
    match expr? (exprFuel words) depth words with
    | some (e, [.name "as", .name x]) => if reservedNames.contains x then none else some (.load e x, rest)
    | _ => none
  | _, _, _, _ => none
termination_by structural fuel => fuel

/-- A loop, from its body on. -/
def each? : Nat → Nat → Target → Expr → Option Expr → List Piece → Option (Statement × List Piece)
  | 0, _, _, _, _, _ => none
  | fuel + 1, depth, target, items, condition, rest =>
    match statements? fuel depth rest with
    | some (body, .tag [.name "endfor"] :: rest) => some (.each target items condition body [], rest)
    | some (body, .tag [.name "else"] :: rest) =>
      match statements? fuel depth rest with
      | some (otherwise, .tag [.name "endfor"] :: rest) => some (.each target items condition body otherwise, rest)
      | _ => none
    | _ => none
termination_by structural fuel => fuel

/-- A condition with its body and everything up to `endif`. -/
def branch? : Nat → Nat → List Word → List Piece → Option (Statement × List Piece)
  | 0, _, _, _ => none
  | fuel + 1, depth, words, rest =>
    match wholeExpr? depth words, statements? fuel depth rest with
    | some condition, some (body, .tag [.name "endif"] :: rest) => some (.branch condition body [], rest)
    | some condition, some (body, .tag [.name "else"] :: rest) =>
      match statements? fuel depth rest with
      | some (otherwise, .tag [.name "endif"] :: rest) => some (.branch condition body otherwise, rest)
      | _ => none
    | some condition, some (body, .tag (.name "elif" :: words) :: rest) =>
      (branch? fuel depth words rest).map fun (otherwise, rest) => (.branch condition body [otherwise], rest)
    | _, _ => none
termination_by structural fuel => fuel

end

/-- The program of a template text, unless it is malformed. -/
def parse (text : String) : Option (List Statement) :=
  match pieces text with
  | none => none
  | some pieces =>
    match statements? (3 * pieces.length + 3) maxNesting pieces with
    | some (program, []) => some program
    | _ => none

end StatusFrames.Template
