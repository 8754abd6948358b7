/-
What a layout that could not be made says: the error names a field of the document by its file, frame and name, and an
error about a health check counts up to the check that is at fault. That a type is unknown cannot happen here, since
every type was looked up when the document was checked.
-/
import StatusFrames.Layout.Placement
import StatusFrames.Proofs.Document.WellFormed
import StatusFrames.Proofs.Registry

namespace StatusFrames.Layout

/-- An error that a field is the reason for, reported at a location. -/
inductive Faulty (location : Location) (field : Document.Field) : CompileError → Prop
  | schema (problem : Problem) : Faulty location field (.schema location problem)
  | check {i : Nat} {check : Document.HealthCheck} {fault : CheckFault} (d : Domain)
      (hcheck : field.healthChecks[i]? = some check) (hfault : healthCheck d check = .error fault) :
      Faulty location field (.healthCheck location (i + 1) fault)

/-- Every type that the table has can be resolved. -/
theorem resolveType_ok (location : Location) {typeName : String} (h : Registry.contains typeName = true) :
    ∃ r, resolveType location typeName = .ok r := by
  obtain ⟨entry, hentry⟩ := Option.isSome_iff_exists.mp h
  obtain ⟨hmem, rfl⟩ := Registry.mem_of_get? hentry
  have table : ∀ e ∈ Registry.entries,
      (Registry.storageType? e.name).isSome = true ∧ (Registry.width? e.name).isSome = true := by decide +kernel
  obtain ⟨hstorage, hwidth⟩ := table entry hmem
  obtain ⟨storage, hstorage⟩ := Option.isSome_iff_exists.mp hstorage
  obtain ⟨width, hwidth⟩ := Option.isSome_iff_exists.mp hwidth
  exact ⟨(entry, storage, width), by rw [resolveType, hentry, hstorage, hwidth]⟩

theorem fieldKind_eq_error {scope : Scope} {location : Location} {field : Document.Field} {kind : TypeClass}
    {e : CompileError} (h : fieldKind scope location field kind = .error e) : Faulty location field e := by
  cases kind with
  | enum =>
    simp only [fieldKind] at h
    split at h
    · cases h
    next problem _ =>
      obtain rfl := Except.error.inj h
      exact .schema problem
  | bool | unsigned | signed | float => cases h

/-- Positions count on from the check that the list starts with. -/
theorem healthChecks_eq_error {location : Location} {d : Domain} {position : Nat}
    {checks : List Document.HealthCheck} {e : CompileError} (h : healthChecks location d position checks = .error e) :
    ∃ i check fault, checks[i]? = some check ∧ healthCheck d check = .error fault ∧
      e = .healthCheck location (position + i) fault := by
  induction checks generalizing position with
  | nil => cases h
  | cons check rest ih =>
    rw [healthChecks, bind_eq_error] at h
    rcases h with h | ⟨first, -, h⟩
    · obtain ⟨fault, hfault, rfl⟩ := mapError_eq_error.mp h
      exact ⟨0, check, fault, rfl, hfault, rfl⟩
    · obtain h | ⟨others, -, h⟩ := bind_eq_error.mp h
      · obtain ⟨i, other, fault, hother, hfault, rfl⟩ := ih h
        exact ⟨i + 1, other, fault, hother, hfault, by rw [Nat.add_right_comm, Nat.add_assoc]⟩
      · cases h

theorem placeField_eq_error {scope : Scope} {location : Location} {offset : Nat} {field : Document.Field}
    {e : CompileError} (hknown : Registry.contains field.typeName = true)
    (h : placeField scope location offset field = .error e) : Faulty location field e := by
  obtain ⟨⟨entry, storage, width⟩, hresolved⟩ := resolveType_ok location hknown
  simp only [placeField, hresolved, ok_bind] at h
  rcases bind_eq_error.mp h with h | ⟨kind, -, h⟩
  · exact fieldKind_eq_error h
  -- the checks come last, whether or not there is an initial value before them
  have last : ∀ {d : Domain} {f : List HealthCheck → Field},
      (do return f (← healthChecks location d 1 field.healthChecks)) = .error e → Faulty location field e := by
    intro d f h
    rcases bind_eq_error.mp h with h | ⟨checks, -, h⟩
    · obtain ⟨i, check, fault, hcheck, hfault, rfl⟩ := healthChecks_eq_error h
      rw [Nat.add_comm]
      exact .check d hcheck hfault
    · cases h
  cases hi : field.initial with
  | none =>
    rw [hi] at h
    exact last h
  | some literal =>
    rw [hi] at h
    rcases bind_eq_error.mp h with h | ⟨_, -, h⟩
    · obtain ⟨fault, -, rfl⟩ := mapError_eq_error.mp h
      exact .schema (.badInitial fault)
    · exact last h

theorem placeFields_eq_error {scope : Scope} {location : Location} {offset : Nat} {fields : List Document.Field}
    {e : CompileError} (hknown : ∀ field ∈ fields, Registry.contains field.typeName = true)
    (h : placeFields scope location offset fields = .error e) :
    ∃ field ∈ fields, Faulty (location.inField field.name) field e := by
  induction fields generalizing offset with
  | nil => cases h
  | cons field rest ih =>
    obtain ⟨hfield, hrest⟩ := List.forall_mem_cons.mp hknown
    rw [placeFields, bind_eq_error] at h
    rcases h with h | ⟨first, -, h⟩
    · exact ⟨field, List.mem_cons_self, placeField_eq_error hfield h⟩
    · obtain h | ⟨others, -, h⟩ := bind_eq_error.mp h
      · obtain ⟨other, hmem, hfault⟩ := ih hrest h
        exact ⟨other, List.mem_cons_of_mem _ hmem, hfault⟩
      · cases h

theorem placeFrame_eq_error {naming : Naming} {protocol : Document.Protocol} {location : Location}
    {frame : Document.Frame} {e : CompileError} (hwf : frame.WellFormed protocol.multiDevice)
    (h : placeFrame naming protocol location frame = .error e) :
    ∃ field ∈ frame.fields, Faulty (location.inField field.name) field e := by
  rw [placeFrame, bind_eq_error] at h
  rcases h with h | ⟨fields, -, h⟩
  · exact placeFields_eq_error (fun field hfield => (hwf.fields field hfield).known) h
  · cases h

/-- A document that was accepted can only fail for one of its fields. -/
theorem ofDocument_eq_error {naming : Naming} {document : Document} {e : CompileError} (hd : document.Accepted)
    (h : ofDocument naming document = .error e) :
    ∃ frame ∈ document.protocol.frames, ∃ field ∈ frame.fields,
      Faulty ⟨document.path, some frame.name, some field.name⟩ field e := by
  rw [ofDocument, bind_eq_error] at h
  rcases h with h | ⟨frames, -, h⟩
  · obtain ⟨frame, hframe, h⟩ := exists_of_mapM_eq_error h
    exact ⟨frame, hframe, placeFrame_eq_error (hd.wellFormed.frames frame hframe) h⟩
  · cases h

end StatusFrames.Layout
