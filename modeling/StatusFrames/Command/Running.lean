/-
Running a command line on a disk.
-/
import StatusFrames.Command.Analysis
import StatusFrames.Command.Generation
import StatusFrames.Command.Help

namespace StatusFrames.Command

open CommandM
open Files (Disk)

def perform (invocation : Invocation) : CommandM Unit := do
  match invocation.command with
  | .generate overrides settingsFile =>
    let settings ← settled (Settings.resolve (← disk) settingsFile overrides)
    runGeneration settings invocation.verbose
  | .analyze source printLayouts settingsFile =>
    let settings ← settled (Settings.resolve (← disk) settingsFile { source })
    runAnalysis settings printLayouts

def versionText : String := "ksrp 0.1.0\n"

/-- Exit code 1 is a command that failed, exit code 2 a command line that was not accepted. -/
def run (disk : Disk) (words : List String) : Outcome :=
  match parse words with
  | .error .rejected => ⟨2, "", Topic.program.text false, disk⟩
  | .error (.help topic full) => ⟨0, topic.text full, "", disk⟩
  | .error .version => ⟨0, versionText, "", disk⟩
  | .ok invocation =>
    match (perform invocation).run.run { disk } with
    | (.ok (), session) => ⟨0, session.printed, "", session.disk⟩
    | (.error e, session) => ⟨1, session.printed, e.report, session.disk⟩

end StatusFrames.Command
