/-
The literals of a document. Integers have two forms, one below 2 ^ 63 and one above, and the reader never uses the
wrong one; what is written for a literal depends on that.
-/
import StatusFrames.Proofs.Document.WellFormed
import StatusFrames.Proofs.Yaml.Ensures
import Mathlib

namespace StatusFrames

/-- Integers are in the form for their size. -/
def Literal.Canonical : Literal → Prop
  | .integer i => i < 0x8000000000000000
  | .unsigned n => 0x8000000000000000 ≤ n
  | _ => True

theorem Literal.canonical_of_ofValue? {value : Yaml.Value} {literal : Literal} (h : ofValue? value = some literal) :
    literal.Canonical := by
  cases value with
  | integer i =>
    simp only [ofValue?, Option.some.injEq] at h
    subst h
    split
    next small => exact small
    next large =>
      show 0x8000000000000000 ≤ i.toNat
      omega
  | bool b => cases h; trivial
  | float x => cases h; trivial
  | text s => cases h; trivial
  | null | list _ | map _ => cases h

namespace Document

open Yaml

def HealthCheck.literals (c : HealthCheck) : List Literal := c.value.toList ++ c.min.toList ++ c.max.toList

def Field.literals (f : Field) : List Literal := f.initial.toList ++ f.healthChecks.flatMap (·.literals)

def Protocol.literals (p : Protocol) : List Literal := p.frames.flatMap fun frame => frame.fields.flatMap (·.literals)

theorem ensures_readLiteral (ctx : Context) (node : Node) : Ensures (readLiteral ctx node) Literal.Canonical := by
  unfold readLiteral
  refine ensures_after fun value => ?_
  unfold literalOfValue
  cases h : Literal.ofValue? value with
  | some literal => exact ensures_pure (Literal.canonical_of_ofValue? h)
  | none => exact ensures_fault _

/-- The part of an invariant of drafts that is about one optional literal. -/
theorem ensures_setLiteral {σ : Type} {I : σ → Prop} {set : Option Literal → σ} (ctx : Context) (node : Node)
    (h : ∀ literal, (∀ l ∈ literal, l.Canonical) → I (set literal)) :
    Ensures (do pure (set (← readOptional readLiteral ctx node))) I :=
  ensures_bind (ensures_readOptional ensures_readLiteral ctx node) fun literal hl => ensures_pure (h literal hl)

theorem ensures_readHealthCheck (ctx : Context) (node : Node) :
    Ensures (readHealthCheck ctx node) fun c => ∀ l ∈ c.literals, l.Canonical := by
  let I (d : CheckDraft) : Prop :=
    (∀ l ∈ d.value, l.Canonical) ∧ (∀ l ∈ d.min, l.Canonical) ∧ ∀ l ∈ d.max, l.Canonical
  refine ensures_readRecord (I := I) ?_ _ (by simp [I]) ?_ ctx node
  · intro draft key ctx node ⟨hvalue, hmin, hmax⟩
    split
    · exact ensures_after fun _ => ensures_pure ⟨hvalue, hmin, hmax⟩
    · exact ensures_setLiteral ctx node fun _ hl => ⟨hl, hmin, hmax⟩
    · exact ensures_setLiteral ctx node fun _ hl => ⟨hvalue, hl, hmax⟩
    · exact ensures_setLiteral ctx node fun _ hl => ⟨hvalue, hmin, hl⟩
    all_goals exact ensures_after fun _ => ensures_pure ⟨hvalue, hmin, hmax⟩
  · intro draft check ⟨hvalue, hmin, hmax⟩ hf
    simp only [bind_eq_ok, pure_eq_ok] at hf
    obtain ⟨_, -, rfl⟩ := hf
    simp only [HealthCheck.literals, List.mem_append, Option.mem_toList]
    rintro l ((hl | hl) | hl)
    · exact hvalue l hl
    · exact hmin l hl
    · exact hmax l hl

theorem ensures_readField (ctx : Context) (node : Node) :
    Ensures (readField ctx node) fun f => ∀ l ∈ f.literals, l.Canonical := by
  let I (d : FieldDraft) : Prop :=
    (∀ l ∈ d.initial, l.Canonical) ∧ ∀ c ∈ d.healthChecks, ∀ l ∈ c.literals, l.Canonical
  refine ensures_readRecord (I := I) ?_ _ (by simp [I]) ?_ ctx node
  · intro draft key ctx node ⟨hinitial, hchecks⟩
    split
    · exact ensures_after fun _ => ensures_pure ⟨hinitial, hchecks⟩
    · exact ensures_after fun _ => ensures_pure ⟨hinitial, hchecks⟩
    · exact ensures_setLiteral ctx node fun _ hl => ⟨hl, hchecks⟩
    · exact ensures_after fun _ => ensures_pure ⟨hinitial, hchecks⟩
    · exact ensures_bind (ensures_readList ensures_readHealthCheck ctx node) fun _ hc => ensures_pure ⟨hinitial, hc⟩
  · intro draft field ⟨hinitial, hchecks⟩ hf
    simp only [bind_eq_ok, pure_eq_ok] at hf
    obtain ⟨_, -, _, -, rfl⟩ := hf
    simp only [Field.literals, List.mem_append, Option.mem_toList, List.mem_flatMap]
    rintro l (hl | ⟨c, hc, hl⟩)
    · exact hinitial l hl
    · exact hchecks c hc l hl

theorem ensures_readFrame (ctx : Context) (node : Node) :
    Ensures (readFrame ctx node) fun f => ∀ field ∈ f.fields, ∀ l ∈ field.literals, l.Canonical := by
  let I (d : FrameDraft) : Prop := ∀ field ∈ d.fields, ∀ l ∈ field.literals, l.Canonical
  refine ensures_readRecord (I := I) ?_ _ (by simp [I]) ?_ ctx node
  · intro draft key ctx node hfields
    split
    · exact ensures_after fun _ => ensures_pure hfields
    · exact ensures_after fun _ => ensures_pure hfields
    · exact ensures_bind (ensures_readList ensures_readField ctx node) fun _ hf => ensures_pure hf
  · intro draft frame hfields hf
    simp only [bind_eq_ok, pure_eq_ok] at hf
    obtain ⟨_, -, _, -, rfl⟩ := hf
    exact hfields

theorem ensures_readProtocol (ctx : Context) (node : Node) :
    Ensures (readProtocol ctx node) fun p => ∀ l ∈ p.literals, l.Canonical := by
  let I (d : ProtocolDraft) : Prop := ∀ frame ∈ d.frames, ∀ field ∈ frame.fields, ∀ l ∈ field.literals, l.Canonical
  refine ensures_readRecord (I := I) ?_ _ (by simp [I]) ?_ ctx node
  · intro draft key ctx node hframes
    split
    · exact ensures_after fun _ => ensures_pure hframes
    · exact ensures_after fun _ => ensures_pure hframes
    · exact ensures_after fun _ => ensures_pure hframes
    · exact ensures_bind (ensures_readList ensures_readFrame ctx node) fun _ hf => ensures_pure hf
  · intro draft protocol hframes hf
    simp only [bind_eq_ok, pure_eq_ok] at hf
    obtain ⟨_, -, _, -, rfl⟩ := hf
    simp only [Protocol.literals, List.mem_flatMap]
    rintro l ⟨frame, hframe, field, hfield, hl⟩
    exact hframes frame hframe field hfield l hl

theorem ensures_readFile (ctx : Context) (node : Node) :
    Ensures (readFile ctx node) fun p => ∀ l ∈ p.literals, l.Canonical := by
  let I (d : Option Protocol) : Prop := ∀ p ∈ d, ∀ l ∈ p.literals, l.Canonical
  refine ensures_readRecord (I := I) ?_ _ (by simp [I]) ?_ ctx node
  · intro draft key ctx node _
    exact ensures_bind (ensures_readProtocol ctx node) fun p hp => ensures_pure fun q hq => Option.mem_some.mp hq ▸ hp
  · intro draft protocol hp hf
    cases draft with
    | none => cases hf
    | some p =>
      cases hf
      exact hp _ rfl

theorem Accepted.canonical {d : Document} (h : d.Accepted) : ∀ l ∈ d.protocol.literals, l.Canonical := by
  obtain ⟨path, text, h⟩ := h
  unfold ofText at h
  cases hr : Yaml.readDocument readFile text with
  | error e => simp [hr] at h
  | ok protocol =>
    simp only [hr, then_eq_ok, pure_eq_ok] at h
    obtain ⟨-, rfl⟩ := h
    exact ensures_readDocument ensures_readFile hr

/-! ## A document that is accepted -/

theorem ofText_eq_ok {path : Files.Path} {text : String} {cs : List Char} {ts : List Token} {root : Node}
    {anchors : List (Nat × Node)} {protocol : Protocol} {followed : Nat} (hcs : text.toList = cs)
    (hreadable : readableWindows cs.length cs = (cs, true)) (hbreaks : unifyBreaks cs = cs)
    (htokens : tokens cs true = ts) (hroot : Yaml.Document.ofTokens ts = ⟨root, anchors, true⟩)
    (hread : readFile { anchors := anchors, aliasLimit := 100 * root.steps } root 0 = .ok (protocol, followed))
    (hcheck : protocol.check { document := path } = .ok ()) : ofText path text = .ok ⟨path, protocol⟩ := by
  have whole : readablePart text = (cs, true) := by
    unfold readablePart
    dsimp only
    rw [hcs, hreadable, hbreaks]
  have read : readDocument readFile text = .ok protocol := by
    unfold readDocument Yaml.Document.ofText
    rw [whole]
    dsimp only [StateT.run]
    rw [htokens, hroot]
    dsimp only
    rw [hread]
    rfl
  unfold ofText
  rw [read]
  dsimp only
  rw [hcheck]
  rfl

/-- A protocol for several devices, with an enum field and an integer field in its only frame. -/
def sampleText : String :=
"protocol:
  subsystem: psu
  subsystem_id: 7
  multi_device: true
  frames:
  - name: limits
    frame_id: 1
    fields:
    - name: mode
      type: enum
      values: [idle, run]
      default: run
    - name: level
      type: int16_t
      default: -5
"

def sample : Document :=
  { path := ⟨"psu.yaml"⟩
    protocol :=
      ⟨"psu", 7, true,
        [⟨"limits", 1,
          [⟨"mode", "enum", some (.label "run"), [⟨"idle", none⟩, ⟨"run", none⟩], []⟩,
           ⟨"level", "int16_t", some (.integer (-5)), [], []⟩]⟩]⟩ }

/-- A plain word among the tokens. -/
def word (s : String) : Token := .scalar s .plain

def leaf (s : String) : Node := .scalar none .plain s

def sampleTokens : List Token :=
  [.blockMapping, .key, word "protocol", .value,
    .blockMapping, .key, word "subsystem", .value, word "psu", .key, word "subsystem_id", .value, word "7",
    .key, word "multi_device", .value, word "true", .key, word "frames", .value,
    .dash, .blockMapping, .key, word "name", .value, word "limits", .key, word "frame_id", .value, word "1",
    .key, word "fields", .value,
    .dash, .blockMapping, .key, word "name", .value, word "mode", .key, word "type", .value, word "enum",
    .key, word "values", .value, .openBracket, word "idle", .comma, word "run", .closeBracket,
    .key, word "default", .value, word "run", .blockEnd,
    .dash, .blockMapping, .key, word "name", .value, word "level", .key, word "type", .value, word "int16_t",
    .key, word "default", .value, word "-5", .blockEnd,
    .blockEnd, .blockEnd, .blockEnd, .streamEnd]

def sampleRoot : Node :=
  .mapping none [(leaf "protocol", .mapping none
    [(leaf "subsystem", leaf "psu"), (leaf "subsystem_id", leaf "7"), (leaf "multi_device", leaf "true"),
     (leaf "frames", .sequence none [.mapping none
       [(leaf "name", leaf "limits"), (leaf "frame_id", leaf "1"),
        (leaf "fields", .sequence none
          [.mapping none
            [(leaf "name", leaf "mode"), (leaf "type", leaf "enum"),
             (leaf "values", .sequence none [leaf "idle", leaf "run"]), (leaf "default", leaf "run")],
           .mapping none
            [(leaf "name", leaf "level"), (leaf "type", leaf "int16_t"), (leaf "default", leaf "-5")]])]])])]

set_option maxRecDepth 4000 in
theorem sample_accepted : sample.Accepted := by
  have lexed : ∃ cs, sampleText.toList = cs ∧ readableWindows cs.length cs = (cs, true) ∧ unifyBreaks cs = cs ∧
      tokens cs true = sampleTokens := by
    refine ⟨_, String.toList_ofList, ?_, ?_, ?_⟩ <;> decide +kernel
  have parsed : Yaml.Document.ofTokens sampleTokens = ⟨sampleRoot, [], true⟩ := by cbv
  obtain ⟨cs, hcs, hreadable, hbreaks, htokens⟩ := lexed
  exact ⟨_, sampleText, ofText_eq_ok hcs hreadable hbreaks htokens parsed rfl rfl⟩

/-- A protocol for one device, with an enum field of which some labels have values and the values do not ascend. -/
def fanText : String :=
"protocol:
  subsystem: fan
  subsystem_id: 3
  frames:
  - name: state
    frame_id: 200
    fields:
    - name: phase
      type: enum
      values:
      - name: stall
        value: 9
      - spin
      - name: off
        value: 0
      - idle
"

def fan : Document :=
  { path := ⟨"fan.yaml"⟩
    protocol :=
      ⟨"fan", 3, false,
        [⟨"state", 200,
          [⟨"phase", "enum", none, [⟨"stall", some 9⟩, ⟨"spin", none⟩, ⟨"off", some 0⟩, ⟨"idle", none⟩], []⟩]⟩]⟩ }

def fanTokens : List Token :=
  [.blockMapping, .key, word "protocol", .value,
    .blockMapping, .key, word "subsystem", .value, word "fan", .key, word "subsystem_id", .value, word "3",
    .key, word "frames", .value,
    .dash, .blockMapping, .key, word "name", .value, word "state", .key, word "frame_id", .value, word "200",
    .key, word "fields", .value,
    .dash, .blockMapping, .key, word "name", .value, word "phase", .key, word "type", .value, word "enum",
    .key, word "values", .value,
    .dash, .blockMapping, .key, word "name", .value, word "stall", .key, word "value", .value, word "9", .blockEnd,
    .dash, word "spin",
    .dash, .blockMapping, .key, word "name", .value, word "off", .key, word "value", .value, word "0", .blockEnd,
    .dash, word "idle",
    .blockEnd, .blockEnd, .blockEnd, .blockEnd, .streamEnd]

def fanRoot : Node :=
  .mapping none [(leaf "protocol", .mapping none
    [(leaf "subsystem", leaf "fan"), (leaf "subsystem_id", leaf "3"),
     (leaf "frames", .sequence none [.mapping none
       [(leaf "name", leaf "state"), (leaf "frame_id", leaf "200"),
        (leaf "fields", .sequence none [.mapping none
          [(leaf "name", leaf "phase"), (leaf "type", leaf "enum"),
           (leaf "values", .sequence none
             [.mapping none [(leaf "name", leaf "stall"), (leaf "value", leaf "9")], leaf "spin",
              .mapping none [(leaf "name", leaf "off"), (leaf "value", leaf "0")], leaf "idle"])]])]])])]

set_option maxRecDepth 4000 in
theorem fan_accepted : fan.Accepted := by
  have lexed : ∃ cs, fanText.toList = cs ∧ readableWindows cs.length cs = (cs, true) ∧ unifyBreaks cs = cs ∧
      tokens cs true = fanTokens := by
    refine ⟨_, String.toList_ofList, ?_, ?_, ?_⟩ <;> decide +kernel
  have parsed : Yaml.Document.ofTokens fanTokens = ⟨fanRoot, [], true⟩ := by cbv
  obtain ⟨cs, hcs, hreadable, hbreaks, htokens⟩ := lexed
  exact ⟨_, fanText, ofText_eq_ok hcs hreadable hbreaks htokens parsed rfl rfl⟩

end Document

end StatusFrames
