/-
The command that prints the layouts of all frames.
-/
import StatusFrames.Command
import StatusFrames.Data.Printing
import StatusFrames.Layout.Data

namespace StatusFrames.Command

open CommandM

def padRight (width : Nat) (text : String) : String :=
  text ++ String.ofList (List.replicate (width - text.length) ' ')

def padLeft (width : Nat) (text : String) : String :=
  String.ofList (List.replicate (width - text.length) ' ') ++ text

/-- A line of the table of a frame. -/
def tableRow (name declared storage offset width : String) : String :=
  "    " ++ padRight 24 name ++ " " ++ padRight 10 declared ++ " " ++ padRight 10 storage ++ " " ++ padLeft 6 offset ++
    " " ++ padLeft 6 width ++ "\n"

def fieldRow (field : Layout.Field) : String :=
  tableRow field.name field.declaredType field.storageType (toString field.offset) (toString field.width)

def frameTable (frame : Layout.Frame) : String :=
  "  Frame '" ++ frame.name ++ "' (id " ++ toString frame.id ++ ", " ++ toString frame.size ++ " bytes)\n" ++
    tableRow "field" "declared" "storage" "offset" "width" ++ String.join (frame.fields.map fieldRow)

/-- A subsystem with a table for each of its frames. -/
def protocolTable (protocol : Layout.Protocol) : String :=
  "Subsystem '" ++ protocol.subsystem ++ "' (id " ++ toString protocol.subsystemId ++
    (if protocol.multiDevice then ", multi-device" else "") ++ ")\n" ++
    String.join (protocol.frames.map frameTable) ++ "\n"

def runAnalysis (settings : Settings) (printLayouts : Bool) : CommandM Unit := do
  printLine "KSRP Compiler - Layout Analysis Tool"
  printLine "====================================\n"
  let compiler ← attempt .options (Compiler.ofOptions settings.options)
  printLine ("[~] Loading protocol documents from " ++ settings.source.text ++ "...")
  let documents ← attempt (.load settings.source) (Document.ofFolder (← disk) settings.source)
  let protocols ← attempt .layout (compiler.build documents)
  let _ ← attempt .symbols (compiler.checkedOutline protocols)
  printLine ("[~] Built " ++ toString protocols.length ++ " protocol(s)\n")
  print (String.join (protocols.map protocolTable))
  if printLayouts then
    printLine "[~] Layout IR:"
    printLine (Data.list (protocols.map (·.toData))).print
  printLine "[✓] Analysis complete"

end StatusFrames.Command
