/-
Two ways to write a name of underscored words. Words are what stands between underscores, of which one with a mark on
it is none; digits stay with their word, and empty words vanish.
-/
import StatusFrames.Text.Casing
import StatusFrames.Text.Cluster

namespace StatusFrames.Naming

/-- The non-empty words between underscores, each as its clusters. -/
def words (name : String) : List (List (List Char)) :=
  ((Text.clusters name.toList).splitOn ['_']).filter (!·.isEmpty)

/-- First cluster in upper case, the rest in lower case. -/
def capitalize : List (List Char) → List Char
  | [] => []
  | first :: rest => Text.uppercase first ++ Text.lowercase rest.flatten

/-- Capitalized words without anything between them: `fast_idle` becomes `FastIdle`. -/
def camel (name : String) : String :=
  String.ofList ((words name).flatMap capitalize)

/-- Words in upper case with single underscores between them: `fast_idle` becomes `FAST_IDLE`. -/
def upper (name : String) : String :=
  String.ofList (['_'].intercalate ((words name).map fun word => Text.uppercase word.flatten))

end StatusFrames.Naming
