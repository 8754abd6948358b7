/-
What a command leaves on the disk: an analysis nothing at all, a generation nothing unless it got as far as writing.
-/
import StatusFrames.Command.Analysis
import StatusFrames.Command.Generation
import StatusFrames.Proofs.Output.Failures

namespace StatusFrames

open Files (Disk)

namespace CommandM

/-- However a run from a disk ends, its result and the disk it leaves satisfy `Q`. What was printed does not matter. -/
def Ends {α : Type} (m : CommandM α) (d : Disk) (Q : Except CommandError α → Disk → Prop) : Prop :=
  ∀ s : Session, s.disk = d → Q (m.run.run s).1 (m.run.run s).2.disk

section Ends

variable {α β : Type} {d : Disk} {Q : Except CommandError β → Disk → Prop}

theorem Ends.bind {m : CommandM α} {f : α → CommandM β}
    (h : Ends m d fun r d' =>
      match r with
      | .ok a => Ends (f a) d' Q
      | .error e => Q (.error e) d') :
    Ends (m >>= f) d Q := by
  intro s hs
  have hm := h s hs
  rw [run_bind]
  rcases hrun : m.run.run s with ⟨e | a, s'⟩
  · rw [hrun] at hm
    exact hm
  · rw [hrun] at hm
    exact hm s' rfl

/-- A step that does nothing but print. -/
def Prints (m : CommandM Unit) : Prop := ∀ s, ∃ text, m.run.run s = (.ok (), { s with printed := text })

theorem prints_print (text : String) : Prints (print text) := fun _ => ⟨_, rfl⟩

theorem prints_printLine (text : String) : Prints (printLine text) := prints_print _

theorem Prints.bind {m : CommandM Unit} {f : Unit → CommandM Unit} (hm : Prints m) (hf : Prints (f ())) :
    Prints (m >>= f) := by
  intro s
  obtain ⟨text, h⟩ := hm s
  rw [run_bind, h]
  exact hf _

theorem prints_for {items : List α} {line : α → String} :
    Prints (forIn items PUnit.unit fun a _ => do printLine (line a); pure (ForInStep.yield PUnit.unit)) := by
  induction items with
  | nil => exact fun _ => ⟨_, rfl⟩
  | cons a rest ih =>
    rw [List.forIn_cons]
    intro s
    rw [run_bind]
    exact ih _

theorem Prints.ends {m : CommandM Unit} {P : Except CommandError Unit → Disk → Prop} (hm : Prints m)
    (h : P (.ok ()) d) : Ends m d P := by
  rintro s rfl
  obtain ⟨text, hrun⟩ := hm s
  rw [hrun]
  exact h

theorem Prints.then_ends {m : CommandM Unit} {f : Unit → CommandM β} (hm : Prints m) (hf : Ends (f ()) d Q) :
    Ends (m >>= f) d Q :=
  .bind (hm.ends hf)

/-- Some steps print only where more is to be said. -/
theorem ends_when {c : Prop} [Decidable c] {m : CommandM Unit} {f : Unit → CommandM β} (hm : Prints m)
    (hf : Ends (f ()) d Q) : Ends (if c then m >>= f else f ()) d Q := by
  split
  · exact hm.then_ends hf
  · exact hf

theorem ends_disk {f : Disk → CommandM β} (hf : Ends (f d) d Q) : Ends (disk >>= f) d Q := by
  refine .bind ?_
  rintro s rfl
  exact hf

/-- A step whose result is known, and that changes nothing. -/
theorem ends_result {ε : Type} {wrap : ε → CommandError} {result : Except ε α} {m : CommandM α} {f : α → CommandM β}
    (hm : ∀ s, m.run.run s = (result.mapError wrap, s)) (herror : ∀ e, result = .error e → Q (.error (wrap e)) d)
    (hok : ∀ a, result = .ok a → Ends (f a) d Q) : Ends (m >>= f) d Q := by
  refine .bind ?_
  rintro s rfl
  rw [hm]
  cases result with
  | error e => exact herror e rfl
  | ok a => exact hok a rfl

theorem run_attempt (stage : Stage) (result : Except CompileError α) (s : Session) :
    (attempt stage result).run.run s = (result.mapError (.during stage), s) := by
  cases result <;> rfl

theorem run_settled (result : Except SettingsError α) (s : Session) :
    (settled result).run.run s = (result.mapError .settings, s) := by
  cases result <;> rfl

theorem run_liftExcept (result : Except CommandError α) (s : Session) :
    (liftExcept result : CommandM α).run.run s = (result.mapError id, s) := by
  cases result <;> rfl

end Ends

end CommandM

namespace Command

open CommandM

theorem prints_settings (settings : Settings) (output : Files.Path) : Prints (printSettings settings output) := by
  unfold printSettings
  iterate 3 refine (prints_printLine _).bind ?_
  rcases settings.file with _ | file
  on_goal 2 => refine (prints_printLine _).bind ?_
  all_goals
    iterate 5 refine (prints_printLine _).bind ?_
    rcases settings.options.templates with _ | folder
    · exact prints_printLine _
    · exact (prints_printLine _).bind (prints_printLine _)

/-- An analysis leaves the disk as it is, however it ends. -/
theorem runAnalysis_ends (settings : Settings) (printLayouts : Bool) (d : Disk) :
    Ends (runAnalysis settings printLayouts) d fun _ d' => d' = d := by
  unfold runAnalysis
  refine (prints_printLine _).then_ends ((prints_printLine _).then_ends ?_)
  refine ends_result (run_attempt _ _) (fun _ _ => rfl) fun compiler _ => ?_
  refine (prints_printLine _).then_ends (ends_disk ?_)
  refine ends_result (run_attempt _ _) (fun _ _ => rfl) fun documents _ => ?_
  refine ends_result (run_attempt _ _) (fun _ _ => rfl) fun protocols _ => ?_
  refine ends_result (run_attempt _ _) (fun _ _ => rfl) fun checked _ => ?_
  refine (prints_printLine _).then_ends ((prints_print _).then_ends ?_)
  have hend : Ends (printLine "[✓] Analysis complete") d fun _ d' => d' = d := (prints_printLine _).ends rfl
  split
  · exact (prints_printLine _).then_ends ((prints_printLine _).then_ends hend)
  · exact hend

theorem ends_writeOutput {α : Type} {d : Disk} {Q : Except CommandError α → Disk → Prop} {o : Output}
    {artifacts : Artifacts} {f : OutputCounts → CommandM α}
    (herror : ∀ e d', (o.write artifacts).run.run d = (.error e, d') → Q (.error (.during (.write o.folder) e)) d')
    (hok : ∀ counts d', (o.write artifacts).run.run d = (.ok counts, d') → Ends (f counts) d' Q) :
    Ends (writeOutput o artifacts >>= f) d Q := by
  refine .bind ?_
  unfold writeOutput
  refine ends_disk ?_
  rcases hrun : (o.write artifacts).run.run d with ⟨e | counts, d'⟩
  · intro s _
    exact herror e d' hrun
  · intro s _
    exact hok counts d' hrun

/-- How a generation that started from a disk failed, and the disk it left. -/
inductive Stopped (settings : Settings) (d : Disk) : CommandError → Disk → Prop
  /-- It did not get as far as writing. -/
  | before {e : CommandError} (hstage : ∀ folder cause, e ≠ .during (.write folder) cause) : Stopped settings d e d
  /-- All that comes before writing had succeeded, and the failure is one of a file. -/
  | writing {folder : Files.Path} {compiler : Compiler} {documents : List Document} {compilation : Compilation}
      {library : Option Files.Path} {path : Files.Path} {failure : Files.Failure} {d' : Disk}
      (houtput : settings.requiredOutput = .ok folder)
      (hcompiler : Compiler.ofOptions settings.options = .ok compiler)
      (hdocuments : Document.ofFolder d settings.source = .ok documents)
      (hcompilation : compiler.compile d documents = .ok compilation)
      (hlibrary : chooseLibrary d settings.library = .ok library)
      (hwrite : (Output.write ⟨folder, settings.options.includeRoot, library⟩ compilation.artifacts).run.run d =
        (.error (.files path failure), d')) :
      Stopped settings d (.during (.write folder) (.files path failure)) d'

theorem Stopped.disk_eq {settings : Settings} {d d' : Disk} {e : CommandError} (h : Stopped settings d e d')
    (he : ∀ folder path failure, e ≠ .during (.write folder) (.files path failure)) : d' = d := by
  cases h with
  | before => rfl
  | writing => exact absurd rfl (he _ _ _)

theorem chooseLibrary_ne_write {d : Disk} {library : Library} {e : CommandError}
    (h : chooseLibrary d library = .error e) (folder : Files.Path) (cause : CompileError) :
    e ≠ .during (.write folder) cause := by
  unfold chooseLibrary at h
  split at h
  · split at h <;> cases h
    simp
  · cases h
  · cases h

theorem runGeneration_ends (settings : Settings) (verbose : Bool) (d : Disk) :
    Ends (runGeneration settings verbose) d fun r d' => ∀ e, r = .error e → Stopped settings d e d' := by
  have stopped (e : CommandError) (he : ∀ folder cause, e ≠ .during (.write folder) cause) :
      ∀ e', (.error e : Except CommandError Unit) = .error e' → Stopped settings d e' d := by
    rintro _ ⟨⟩
    exact .before he
  unfold runGeneration
  refine ends_result (run_settled _) (fun _ _ => stopped _ (by simp)) fun folder hfolder => ?_
  refine ends_when (prints_settings _ _) ?_
  refine ends_result (run_attempt _ _) (fun _ _ => stopped _ (by simp)) fun compiler hcompiler => ?_
  refine (prints_printLine _).then_ends (ends_disk ?_)
  refine ends_result (run_attempt _ _) (fun _ _ => stopped _ (by simp)) fun documents hdocuments => ?_
  refine ends_when prints_for (ends_disk ?_)
  refine ends_result (run_attempt _ _) (fun _ _ => stopped _ (by simp)) fun compilation hcompilation => ?_
  refine (prints_printLine _).then_ends (ends_disk ?_)
  refine ends_result (run_liftExcept _) (fun _ hchoose => stopped _ (chooseLibrary_ne_write hchoose))
    fun library hlibrary => ?_
  refine ends_writeOutput ?_ fun counts d' hwrite => ?_
  · rintro e d' hwrite _ ⟨⟩
    obtain ⟨path, failure, rfl⟩ := Output.write_failsOnFiles _ _ _ _ _ hwrite
    exact .writing hfolder hcompiler hdocuments hcompilation hlibrary hwrite
  -- Nothing after writing can fail.
  refine ends_when prints_for (ends_when (prints_printLine _) ?_)
  exact (prints_printLine _).ends (by simp)

/-- A generation that fails before it writes leaves the disk as it is. One that fails in writing had compiled, and fails
on a file. An analysis never changes the disk. -/
theorem disk_kept_before_writing (settings : Settings) (session : Session) :
    (∀ verbose e after, (runGeneration settings verbose).run.run session = (.error e, after) →
      Stopped settings session.disk e after.disk ∧
        ((∀ folder path failure, e ≠ .during (.write folder) (.files path failure)) →
          after.disk = session.disk)) ∧
      ∀ printLayouts, ((runAnalysis settings printLayouts).run.run session).2.disk = session.disk := by
  refine ⟨fun verbose e after hrun => ?_, fun printLayouts => ?_⟩
  · have hends := runGeneration_ends settings verbose session.disk session rfl
    rw [hrun] at hends
    have hstopped : Stopped settings session.disk e after.disk := hends e rfl
    exact ⟨hstopped, hstopped.disk_eq⟩
  · exact runAnalysis_ends settings printLayouts session.disk session rfl

/-- A folder with a document that is not a text. -/
def unreadableDisk : Disk := ⟨.folder [("in", .folder [("a.yml", .file ⟨#[255]⟩)])], []⟩

def unreadableSettings : Settings :=
  { file := none, source := ⟨"in"⟩, output := some ⟨"out"⟩, library := .disabled, options := {} }

/-- The failure is one of a file, but not in writing. -/
theorem disk_kept_before_writing_unreadable : ∃ after,
    (runGeneration unreadableSettings false).run.run ⟨unreadableDisk, ""⟩ =
        (.error (.during (.load ⟨"in"⟩) (.files ⟨"in/a.yml"⟩ .notText)), after) ∧
      after.disk = unreadableDisk := by
  obtain ⟨after, hrun⟩ : ∃ after, (runGeneration unreadableSettings false).run.run ⟨unreadableDisk, ""⟩ =
      (.error (.during (.load ⟨"in"⟩) (.files ⟨"in/a.yml"⟩ .notText)), after) := ⟨_, rfl⟩
  have hkept := (disk_kept_before_writing unreadableSettings ⟨unreadableDisk, ""⟩).1 false _ after hrun
  exact ⟨after, hrun, hkept.2 (by simp)⟩

end Command

end StatusFrames
