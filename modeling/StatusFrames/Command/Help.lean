/-
The help texts: what a command is for, how it is called, and its flags. Flags stand in two columns; full help on a
command whose flags have more to say puts each flag in a paragraph of its own.
-/
import StatusFrames.Command.Arguments

namespace StatusFrames.Command

/-- A flag with what help says about it. -/
structure FlagHelp where
  flag : Flag
  /-- What stands for its value. -/
  value : Option String := none
  about : String
  /-- The values that it may have, with what each of them means. -/
  choices : List (String × String) := []

def FlagHelp.head (h : FlagHelp) : String :=
  (match h.flag.short with
    | some c => "-" ++ String.singleton c ++ ", "
    | none => "    ") ++
    "--" ++ h.flag.long ++
    match h.value with
    | some value => " <" ++ value ++ ">"
    | none => ""

def spaces (count : Nat) : String := String.ofList (List.replicate count ' ')

/-- A text with blanks behind it up to a width. -/
def padded (width : Nat) (text : String) : String := text ++ spaces (width - text.length)

def widest (texts : List String) : Nat := texts.foldr (fun text width => max text.length width) 0

/-- A line for a flag, with the heads of all flags `width` characters wide. -/
def FlagHelp.line (width : Nat) (h : FlagHelp) : String :=
  let choices :=
    if h.choices.isEmpty then ""
    else " [possible values: " ++ ", ".intercalate (h.choices.map (·.1)) ++ "]"
  "  " ++ padded width h.head ++ "  " ++ h.about ++ choices ++ "\n"

/-- The choices of a flag in full help, one on each line. -/
def choiceLines (choices : List (String × String)) : String :=
  let width := widest (choices.map (·.1))
  "\n" ++ spaces 10 ++ "Possible values:\n" ++
    String.join (choices.map fun (name, about) =>
      spaces 10 ++ "- " ++ name ++ ": " ++ spaces (width - name.length) ++ about ++ "\n")

def FlagHelp.paragraph (h : FlagHelp) : String :=
  "  " ++ h.head ++ "\n" ++ spaces 10 ++ h.about ++ "\n" ++
    if h.choices.isEmpty then "" else choiceLines h.choices

namespace Topic

def about : Topic → String
  | .program => "Kalman status report protocol compiler - packed C headers from YAML protocol documents"
  | .generate => "Generate C headers from a directory of protocol documents"
  | .analyze => "Compute and print frame layouts without writing anything"
  | .help => "Print this message or the help of the given subcommand(s)"

def usage : Topic → String
  | .program => "ksrp [OPTIONS] <COMMAND>"
  | .generate => "ksrp codegen [OPTIONS]"
  | .analyze => "ksrp analyze [OPTIONS]"
  | .help => "ksrp help [COMMAND]..."

/-- What help says about a flag, the flag for help itself apart. -/
def describe (flag : Flag) : FlagHelp :=
  match flag.long with
  | "source" => ⟨flag, some "DIR", "Directory containing the protocol YAML documents", []⟩
  | "output" => ⟨flag, some "DIR", "Output directory for the generated library", []⟩
  | "templates" => ⟨flag, some "DIR", "Directory with template overrides", []⟩
  | "emitter" =>
    ⟨flag, some "EMITTER", "Emitter used to render the headers",
      [("template", "Render through the minijinja templates"), ("construct", "Assemble headers from C constructs")]⟩
  | "library" => ⟨flag, some "DIR", "Static library skeleton copied into the output root", []⟩
  | "no-library" => ⟨flag, none, "Do not copy the library skeleton", []⟩
  | "print-ir" => ⟨flag, none, "Print the layout IR as JSON", []⟩
  | "config" => ⟨flag, some "FILE", "Configuration file (defaults to ./ksrp.yaml when present)", []⟩
  | "verbose" => ⟨flag, none, "Enable verbose output and debug logging", []⟩
  | "version" => ⟨flag, none, "Print version", []⟩
  | _ => ⟨flag, none, "Print help", []⟩

/-- Whether full help says more than short help does. -/
def hasMore (topic : Topic) : Bool := topic.flags.any fun flag => !(describe flag).choices.isEmpty

/-- The flags of a topic as help shows them. The flag for help points at the other form where there are two. -/
def flagHelps (topic : Topic) (full : Bool) : List FlagHelp :=
  topic.flags.map fun flag =>
    let h := describe flag
    if flag.kind = .help && topic.hasMore then
      { h with about := h.about ++ if full then " (see a summary with '-h')" else " (see more with '--help')" }
    else h

/-- The commands, or the words that a command takes. -/
def parts : Topic → String
  | .program =>
    "Commands:\n" ++
    String.join ([("codegen", Topic.generate), ("analyze", .analyze), ("help", .help)].map fun (name, topic) =>
      "  " ++ name ++ spaces (9 - name.length) ++ topic.about ++ "\n") ++ "\n"
  | .help => "Arguments:\n  [COMMAND]...  Print help for the subcommand(s)\n"
  | _ => ""

def options (topic : Topic) (full : Bool) : String :=
  let helps := topic.flagHelps full
  if helps.isEmpty then ""
  else
    "Options:\n" ++
      if full && topic.hasMore then "\n".intercalate (helps.map (·.paragraph))
      else String.join (helps.map (·.line (widest (helps.map (·.head)))))

/-- The help on a topic, in full or not. -/
def text (topic : Topic) (full : Bool) : String :=
  topic.about ++ "\n\nUsage: " ++ topic.usage ++ "\n\n" ++ topic.parts ++ topic.options full

end Topic

end StatusFrames.Command
