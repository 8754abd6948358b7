/-
Documents with one frame and one byte in it. They differ in their names and ids alone, and all have the same tokens
around these.
-/
import StatusFrames.Proofs.Document.Literals

namespace StatusFrames.Document

open Yaml

/-- The names and ids of a document with one frame and one field. -/
structure Single where
  subsystem : String
  subsystemId : UInt8
  frame : String
  frameId : UInt8
  field : String

namespace Single

variable (s : Single)

def text : String :=
  "protocol:\n  subsystem: " ++ s.subsystem ++ "\n  subsystem_id: " ++ toString s.subsystemId.toNat ++
    "\n  frames:\n  - name: " ++ s.frame ++ "\n    frame_id: " ++ toString s.frameId.toNat ++
    "\n    fields:\n    - name: " ++ s.field ++ "\n      type: uint8_t\n"

def document : Document :=
  { path := ⟨s.subsystem ++ ".yaml"⟩
    protocol := ⟨s.subsystem, s.subsystemId, false, [⟨s.frame, s.frameId, [⟨s.field, "uint8_t", none, [], []⟩]⟩]⟩ }

def tokens : List Token :=
  [.blockMapping, .key, word "protocol", .value,
    .blockMapping, .key, word "subsystem", .value, word s.subsystem,
    .key, word "subsystem_id", .value, word (toString s.subsystemId.toNat), .key, word "frames", .value,
    .dash, .blockMapping, .key, word "name", .value, word s.frame,
    .key, word "frame_id", .value, word (toString s.frameId.toNat), .key, word "fields", .value,
    .dash, .blockMapping, .key, word "name", .value, word s.field, .key, word "type", .value, word "uint8_t", .blockEnd,
    .blockEnd, .blockEnd, .blockEnd, .streamEnd]

def root : Node :=
  .mapping none [(leaf "protocol", .mapping none
    [(leaf "subsystem", leaf s.subsystem), (leaf "subsystem_id", leaf (toString s.subsystemId.toNat)),
     (leaf "frames", .sequence none [.mapping none
       [(leaf "name", leaf s.frame), (leaf "frame_id", leaf (toString s.frameId.toNat)),
        (leaf "fields", .sequence none [.mapping none
          [(leaf "name", leaf s.field), (leaf "type", leaf "uint8_t")]])]])])]

theorem ofTokens_tokens : Yaml.Document.ofTokens s.tokens = ⟨s.root, [], true⟩ := by cbv

/-- The text is read whole, as these tokens. -/
def Lexed : Prop :=
  readableWindows s.text.toList.length s.text.toList = (s.text.toList, true) ∧
    unifyBreaks s.text.toList = s.text.toList ∧ Yaml.tokens s.text.toList true = s.tokens

instance : Decidable s.Lexed := inferInstanceAs (Decidable (_ ∧ _ ∧ _))

variable {s}

/-- The document is accepted if its text has the tokens above and its values pass the checks. -/
theorem accepted {followed : Nat} (hlexed : s.Lexed)
    (hread : readFile { anchors := [], aliasLimit := 100 * s.root.steps } s.root 0 = .ok (s.document.protocol, followed))
    (hcheck : s.document.protocol.check { document := s.document.path } = .ok ()) : s.document.Accepted := by
  obtain ⟨hreadable, hbreaks, htokens⟩ := hlexed
  exact ⟨s.document.path, s.text, ofText_eq_ok rfl hreadable hbreaks htokens s.ofTokens_tokens hread hcheck⟩

end Single

end StatusFrames.Document
