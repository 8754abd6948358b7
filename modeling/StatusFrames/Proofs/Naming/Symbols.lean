/-
Names of the output that stand in types and expressions are identifiers, whatever identifiers they are made from.
-/
import StatusFrames.Proofs.Naming.Letters

namespace StatusFrames.Naming

open Text

/-- What a name is made of besides its leading word. -/
inductive Part : String → Prop
  | camel {name : String} (h : isIdentifier name = true) : Part (Naming.camel name)
  | upper {name : String} (h : isIdentifier name = true) : Part (Naming.upper name)
  | fixed {word : String} (h : word.toList.all isNameChar = true) : Part word

theorem Part.isNameChar {part : String} (h : Part part) : ∀ c ∈ part.toList, Text.isNameChar c = true := by
  cases h with
  | camel h => exact fun c hc => isNameChar_of_isAlphanum (camel_isAlphanum h c hc)
  | upper h => exact upper_isNameChar h
  | fixed h => exact List.all_eq_true.mp h

section

variable {n : Naming} (hlead : isIdentifier n.lead = true)

include hlead

theorem pair_isIdentifier {a b : String} (ha : Part a) (hb : Part b) : isIdentifier (n.symbol [a, b]) = true :=
  symbol_isIdentifier hlead (by simpa using ⟨ha.isNameChar, hb.isNameChar⟩)

theorem triple_isIdentifier {a b c : String} (ha : Part a) (hb : Part b) (hc : Part c) :
    isIdentifier (n.symbol [a, b, c]) = true :=
  symbol_isIdentifier hlead (by simpa using ⟨ha.isNameChar, hb.isNameChar, hc.isNameChar⟩)

variable {subsystem frame field label : String} (hsubsystem : isIdentifier subsystem = true)
  (hframe : isIdentifier frame = true) (hfield : isIdentifier field = true) (hlabel : isIdentifier label = true)

include hsubsystem

theorem subsystemId_isIdentifier : isIdentifier (n.subsystemId subsystem) = true :=
  pair_isIdentifier hlead (.upper hsubsystem) (.fixed (by decide))

theorem frameIdType_isIdentifier : isIdentifier (n.frameIdType subsystem) = true :=
  pair_isIdentifier hlead (.camel hsubsystem) (.fixed (by decide))

theorem instanceType_isIdentifier : isIdentifier (n.instanceType subsystem) = true :=
  pair_isIdentifier hlead (.camel hsubsystem) (.fixed (by decide))

include hframe

theorem frameType_isIdentifier : isIdentifier (n.frameType subsystem frame) = true :=
  triple_isIdentifier hlead (.camel hsubsystem) (.camel hframe) (.fixed (by decide))

theorem frameId_isIdentifier : isIdentifier (n.frameId subsystem frame) = true :=
  triple_isIdentifier hlead (.upper hsubsystem) (.upper hframe) (.fixed (by decide))

theorem frameSize_isIdentifier : isIdentifier (n.frameSize subsystem frame) = true :=
  triple_isIdentifier hlead (.upper hsubsystem) (.upper hframe) (.fixed (by decide))

include hfield

theorem enumType_isIdentifier : isIdentifier (n.enumType subsystem frame field) = true :=
  triple_isIdentifier hlead (.camel hsubsystem) (.camel hframe) (.camel hfield)

include hlabel

theorem enumLabel_isIdentifier : isIdentifier (n.enumLabel subsystem frame field label) = true :=
  symbol_isIdentifier hlead (by
    simpa using ⟨upper_isNameChar hsubsystem, upper_isNameChar hframe, upper_isNameChar hfield,
      upper_isNameChar hlabel⟩)

end

end StatusFrames.Naming
