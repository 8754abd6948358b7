/-
How a compilation fails. Documents that were accepted leave three reasons: two of them ask for one subsystem, a field of
one of them cannot be laid out, or two symbols collide. Each error names what it is about: the file alone, the file with
a frame and a field of it, or the two owners.
-/
import StatusFrames.Proofs.Compiler.Totality
import StatusFrames.Proofs.Layout.Faults

namespace StatusFrames

namespace Document

/-- An error about a subsystem names the document that asks for it again, as a whole. -/
theorem checkUniqueAfter_eq_error {seen documents : List Document} {e : CompileError}
    (h : checkUniqueAfter seen documents = .error e) :
    ∃ d ∈ documents, ∃ problem, e = .schema { document := d.path } problem := by
  induction documents generalizing seen with
  | nil => cases h
  | cons d rest ih =>
    simp only [checkUniqueAfter] at h
    cases hname : seen.find? (·.subsystem == d.subsystem) with
    | some previous =>
      rw [hname] at h
      exact ⟨d, List.mem_cons_self, _, (Except.error.inj h).symm⟩
    | none =>
      rw [hname] at h
      cases hid : seen.find? (·.subsystemId == d.subsystemId) with
      | some previous =>
        rw [hid] at h
        exact ⟨d, List.mem_cons_self, _, (Except.error.inj h).symm⟩
      | none =>
        rw [hid] at h
        obtain ⟨other, hmem, he⟩ := ih h
        exact ⟨other, List.mem_cons_of_mem _ hmem, he⟩

end Document

theorem SymbolTable.registerAll_eq_error {t : SymbolTable} {symbols : List (String × Owner)} {e : CompileError}
    (h : t.registerAll symbols = .error e) : ∃ symbol first second, e = .nameCollision symbol first second := by
  induction symbols generalizing t with
  | nil => cases h
  | cons s rest ih =>
    obtain ⟨symbol, owner⟩ := s
    rw [registerAll_cons] at h
    rcases bind_eq_error.mp h with h | ⟨u, -, h⟩
    · obtain ⟨first, -, rfl⟩ := register_eq_error.mp h
      exact ⟨symbol, first, owner, rfl⟩
    · exact ih h

namespace Compiler

theorem build_eq_error {c : Compiler} {documents : List Document} {e : CompileError}
    (h : c.build documents = .error e) :
    Document.checkUnique (Document.sort documents) = .error e ∨
      ∃ d ∈ documents, Layout.ofDocument c.naming d = .error e := by
  rw [build] at h
  rcases bind_eq_error.mp h with h | ⟨_, -, h⟩
  · exact .inl h
  · obtain ⟨d, hd, h⟩ := exists_of_mapM_eq_error h
    exact .inr ⟨d, (Document.sort_perm documents).mem_iff.mp hd, h⟩

theorem checkedOutline_eq_error {c : Compiler} {protocols : List Layout.Protocol} {e : CompileError}
    (h : c.checkedOutline protocols = .error e) : ∃ symbol first second, e = .nameCollision symbol first second := by
  rw [checkedOutline] at h
  rcases bind_eq_error.mp h with h | ⟨table, -, h⟩
  · exact SymbolTable.registerAll_eq_error ((Outline.symbolTable_eq _).symm.trans h)
  · cases h

/-- Compiling accepted documents to declaration trees succeeds, or fails because two documents ask for one subsystem,
because a document cannot be laid out, or because symbols collide. In the first case the error names the file of one of
the documents and nothing inside it. In the second it names the file, a frame of the document and a field of that frame,
and if it is about a health check, the position of the check at fault among those of the field. -/
theorem errors_located {c : Compiler} (disk : Files.Disk) {documents : List Document}
    (he : c.options.emitter = .construct) (hd : ∀ d ∈ documents, d.Accepted) :
    ((∃ compilation, c.compile disk documents = .ok compilation) ∨
      ∃ e, c.compile disk documents = .error e ∧
        (Document.checkUnique (Document.sort documents) = .error e ∨
          (∃ d ∈ documents, Layout.ofDocument c.naming d = .error e) ∨
          ∃ symbol first second, e = .nameCollision symbol first second)) ∧
    (∀ e, Document.checkUnique (Document.sort documents) = .error e →
      ∃ d ∈ documents, ∃ problem, e = .schema ⟨d.path, none, none⟩ problem) ∧
    ∀ d ∈ documents, ∀ e, Layout.ofDocument c.naming d = .error e →
      ∃ frame ∈ d.protocol.frames, ∃ field ∈ frame.fields,
        (∃ problem, e = .schema ⟨d.path, some frame.name, some field.name⟩ problem) ∨
        ∃ index fault, e = .healthCheck ⟨d.path, some frame.name, some field.name⟩ index fault ∧
          1 ≤ index ∧ index ≤ field.healthChecks.length ∧
          ∃ domain check, field.healthChecks[index - 1]? = some check ∧
            Layout.healthCheck domain check = .error fault := by
  refine ⟨?_, fun e h => ?_, fun d hmem e h => ?_⟩
  · cases hcompile : c.compile disk documents with
    | ok compilation => exact .inl ⟨compilation, rfl⟩
    | error e =>
      refine .inr ⟨e, rfl, ?_⟩
      rcases bind_eq_error.mp ((compile_eq_error disk he hd e).mp hcompile) with hbuild | ⟨protocols, -, hchecked⟩
      · exact (build_eq_error hbuild).imp_right .inl
      · exact .inr (.inr (checkedOutline_eq_error hchecked))
  · obtain ⟨d, hsorted, problem, rfl⟩ := Document.checkUniqueAfter_eq_error h
    exact ⟨d, (Document.sort_perm documents).mem_iff.mp hsorted, problem, rfl⟩
  · obtain ⟨frame, hframe, field, hfield, hfault⟩ := Layout.ofDocument_eq_error (hd d hmem) h
    refine ⟨frame, hframe, field, hfield, ?_⟩
    cases hfault with
    | schema problem => exact .inl ⟨problem, rfl⟩
    | @check i check fault domain hcheck hrefused =>
      obtain ⟨hlt, -⟩ := List.getElem?_eq_some_iff.mp hcheck
      exact .inr ⟨i + 1, fault, rfl, by omega, by omega, domain, check, hcheck, hrefused⟩

end Compiler

/-! ## A document that cannot be laid out -/

namespace Document

open Yaml

/-- The second health check of the only field has no value. -/
def heaterText : String :=
"protocol:
  subsystem: heater
  subsystem_id: 5
  frames:
  - name: core
    frame_id: 2
    fields:
    - name: level
      type: int8_t
      health_checks:
      - type: exact
        value: -7
      - type: exact
"

def heater : Document :=
  { path := ⟨"heater.yaml"⟩
    protocol :=
      ⟨"heater", 5, false,
        [⟨"core", 2,
          [⟨"level", "int8_t", none, [],
            [⟨.exact, some (.integer (-7)), none, none, none, none, none⟩,
             ⟨.exact, none, none, none, none, none, none⟩]⟩]⟩]⟩ }

def heaterTokens : List Token :=
  [.blockMapping, .key, word "protocol", .value,
    .blockMapping, .key, word "subsystem", .value, word "heater", .key, word "subsystem_id", .value, word "5",
    .key, word "frames", .value,
    .dash, .blockMapping, .key, word "name", .value, word "core", .key, word "frame_id", .value, word "2",
    .key, word "fields", .value,
    .dash, .blockMapping, .key, word "name", .value, word "level", .key, word "type", .value, word "int8_t",
    .key, word "health_checks", .value,
    .dash, .blockMapping, .key, word "type", .value, word "exact", .key, word "value", .value, word "-7", .blockEnd,
    .dash, .blockMapping, .key, word "type", .value, word "exact", .blockEnd,
    .blockEnd, .blockEnd, .blockEnd, .blockEnd, .streamEnd]

def heaterRoot : Node :=
  .mapping none [(leaf "protocol", .mapping none
    [(leaf "subsystem", leaf "heater"), (leaf "subsystem_id", leaf "5"),
     (leaf "frames", .sequence none [.mapping none
       [(leaf "name", leaf "core"), (leaf "frame_id", leaf "2"),
        (leaf "fields", .sequence none [.mapping none
          [(leaf "name", leaf "level"), (leaf "type", leaf "int8_t"),
           (leaf "health_checks", .sequence none
             [.mapping none [(leaf "type", leaf "exact"), (leaf "value", leaf "-7")],
              .mapping none [(leaf "type", leaf "exact")]])]])]])])]

set_option maxRecDepth 4000 in
theorem heater_accepted : heater.Accepted := by
  have lexed : ∃ cs, heaterText.toList = cs ∧ readableWindows cs.length cs = (cs, true) ∧ unifyBreaks cs = cs ∧
      tokens cs true = heaterTokens := by
    refine ⟨_, String.toList_ofList, ?_, ?_, ?_⟩ <;> decide +kernel
  have parsed : Yaml.Document.ofTokens heaterTokens = ⟨heaterRoot, [], true⟩ := by cbv
  obtain ⟨cs, hcs, hreadable, hbreaks, htokens⟩ := lexed
  exact ⟨_, heaterText, ofText_eq_ok hcs hreadable hbreaks htokens parsed rfl rfl⟩

end Document

/-- The error points at a health check of the only field. -/
theorem Compiler.errors_located_heater : ∃ index fault,
    ofTrees.compile ⟨.folder [], []⟩ [Document.heater] =
        .error (.healthCheck ⟨⟨"heater.yaml"⟩, some "core", some "level"⟩ index fault) ∧
      1 ≤ index ∧ index ≤ 2 := by
  have haccepted : ∀ d ∈ [Document.heater], d.Accepted := by simpa using Document.heater_accepted
  obtain ⟨-, -, hlocated⟩ := errors_located (c := ofTrees) ⟨.folder [], []⟩ rfl haccepted
  have refused : (match Layout.ofDocument ofTrees.naming Document.heater with
    | .error (.healthCheck ..) => true
    | _ => false) = true := by decide +kernel
  split at refused
  next location position fault hlayout =>
    obtain ⟨frame, hframe, field, hfield, hfault⟩ := hlocated _ List.mem_cons_self _ hlayout
    obtain rfl := List.mem_singleton.mp hframe
    obtain rfl := List.mem_singleton.mp hfield
    rcases hfault with ⟨problem, he⟩ | ⟨index, fault, he, hpos, hle, -⟩
    · cases he
    · refine ⟨index, fault, ?_, hpos, hle⟩
      rw [compile, build_singleton, hlayout, he]
      rfl
  next => cases refused

end StatusFrames
