/-
Numbers for enum labels. As in C, a label without a value follows the label before it, and the first is zero; all
numbers must fit one byte and differ.
-/
import StatusFrames.Error
import StatusFrames.Layout

namespace StatusFrames.Layout

/-- Numbers the labels behind those in `taken`; `next` is the number of a label without a value. -/
def numberFrom : List EnumValue → Int → List Document.EnumValue → Except Problem (List EnumValue)
  | _, _, [] => .ok []
  | taken, next, entry :: rest => do
    let value := entry.value.getD next
    if value < 0 ∨ 256 ≤ value then .error (.valueTooWide entry.name value)
    let byte := value.toNat.toUInt8
    match taken.find? (·.value == byte) with
    | some previous => .error (.valueRepeated entry.name byte previous.label)
    | none => .ok ()
    let numbered : EnumValue := ⟨entry.name, byte, entry.value.isSome⟩
    let others ← numberFrom (numbered :: taken) (value + 1) rest
    return numbered :: others

def numberLabels (entries : List Document.EnumValue) : Except Problem (List EnumValue) :=
  if entries.length > maxEnumLabels then .error (.tooManyLabels entries.length) else numberFrom [] 0 entries

end StatusFrames.Layout
