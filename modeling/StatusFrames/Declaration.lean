/-
C declarations as a tree, and their text. A group without anything in it prints nothing and leaves no gap.
-/
import StatusFrames.Text.Quoted

namespace StatusFrames

structure Member where
  cType : String
  name : String
  comment : Option String
deriving DecidableEq, Repr

def byteCount (width : Nat) : String := if width = 1 then "1 byte" else toString width ++ " bytes"

namespace Member

/-- A member with its byte range in a comment. -/
def placed (cType name : String) (offset width : Nat) : Member :=
  ⟨cType, name, some ("offset " ++ toString offset ++ ", " ++ byteCount width)⟩

def plain (cType name : String) : Member := ⟨cType, name, none⟩

def text (m : Member) : String :=
  "  " ++ m.cType ++ " " ++ m.name ++ ";" ++
    (match m.comment with
      | some comment => " /* " ++ comment ++ " */"
      | none => "") ++ "\n"

end Member

inductive Declaration
  | comment (text : String)
  /-- Declarations on consecutive lines, under an optional title. -/
  | group (title : Option String) (items : List Declaration)
  | inclusion (path : String) (system : Bool)
  | define (name value : String)
  /-- An enumerator has a value only where it must be written. -/
  | enumeration (name : String) (enumerators : List (String × Option Nat))
  | record (name : String) (packed : Bool) (members : List Member)
  | staticAssert (condition message : String)
  | prototype (returnType name : String) (params : List String)
  /-- An include guard around blocks with blank lines between them. -/
  | guard (name : String) (body : List Declaration)
deriving Repr

namespace Declaration

/-- Declarations on consecutive lines. -/
def lines (items : List Declaration) : Declaration := .group none items

/-- Declarations under a title. -/
def titled (title : String) (items : List Declaration) : Declaration := .group (some title) items

mutual

/-- A group of which nothing would be printed. -/
def isEmpty : Declaration → Bool
  | .group _ items => allEmpty items
  | _ => false

def allEmpty : List Declaration → Bool
  | [] => true
  | item :: rest => item.isEmpty && allEmpty rest

end

def enumeratorText : String × Option Nat → String
  | (name, some value) => "  " ++ name ++ " = " ++ toString value
  | (name, none) => "  " ++ name

def commentText (text : String) : String := "/* " ++ text ++ " */"

mutual

def text : Declaration → String
  | .comment s => commentText s
  | .group title items =>
    (match title with
      | some title => commentText title ++ "\n"
      | none => "") ++ "\n".intercalate (texts items)
  | .inclusion path system => if system then "#include <" ++ path ++ ">" else "#include \"" ++ path ++ "\""
  | .define name value => "#define " ++ name ++ " " ++ value
  | .enumeration name enumerators =>
    "typedef enum \x7b\n" ++ ",\n".intercalate (enumerators.map enumeratorText) ++ "\n\x7d " ++ name ++ ";"
  | .record name packed members =>
    "typedef struct" ++ (if packed then " __attribute__((packed))" else "") ++ " \x7b\n" ++
      String.join (members.map Member.text) ++ "\x7d " ++ name ++ ";"
  | .staticAssert condition message => "_Static_assert(" ++ condition ++ ", " ++ Text.quoted message ++ ");"
  | .prototype returnType name params =>
    returnType ++ " " ++ name ++ "(" ++ (if params.isEmpty then "void" else ", ".intercalate params) ++ ");"
  | .guard name body =>
    let inner := "\n\n".intercalate (texts body)
    "#ifndef " ++ name ++ "\n#define " ++ name ++ "\n\n" ++ (if inner.isEmpty then "" else inner ++ "\n\n") ++
      "#endif /* " ++ name ++ " */\n"

/-- The texts of the declarations that are not empty. -/
def texts : List Declaration → List String
  | [] => []
  | item :: rest => if item.isEmpty then texts rest else item.text :: texts rest

end

end Declaration

end StatusFrames
