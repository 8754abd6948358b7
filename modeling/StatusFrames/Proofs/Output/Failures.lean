/-
How writing can fail: only in the files it reads and writes.
-/
import StatusFrames.Output
import StatusFrames.Proofs.Steps

namespace StatusFrames

/-- All failures of an operation are failures of files. -/
def DiskM.FailsOnFiles {α : Type} (m : DiskM α) : Prop :=
  ∀ d e d', m.run.run d = (.error e, d') → ∃ path failure, e = .files path failure

namespace DiskM.FailsOnFiles

theorem pure {α : Type} (a : α) : FailsOnFiles (Pure.pure a : DiskM α) := by
  intro d e d' h
  cases h

theorem bind {α β : Type} {m : DiskM α} {f : α → DiskM β} (hm : FailsOnFiles m) (hf : ∀ a, FailsOnFiles (f a)) :
    FailsOnFiles (m >>= f) := by
  intro d e d' h
  rcases run_bind_eq.mp h with ⟨e', hfail, he⟩ | ⟨a, d₁, -, hrest⟩
  · cases he
    exact hm d e d' hfail
  · exact hf a d₁ e d' hrest

theorem get : FailsOnFiles (MonadState.get : DiskM Files.Disk) := by
  intro d e d' h
  cases h

theorem set (disk : Files.Disk) : FailsOnFiles (MonadStateOf.set disk : DiskM PUnit) := by
  intro d e d' h
  cases h

theorem throw {α : Type} (path : Files.Path) (failure : Files.Failure) :
    FailsOnFiles (MonadExcept.throw (CompileError.files path failure) : DiskM α) := by
  intro d e d' h
  cases h
  exact ⟨path, failure, rfl⟩

theorem foldlM {α β : Type} {step : β → α → DiskM β} {items : List α} {start : β}
    (h : ∀ b a, FailsOnFiles (step b a)) : FailsOnFiles (items.foldlM step start) := by
  induction items generalizing start with
  | nil => exact pure start
  | cons a rest ih =>
    rw [List.foldlM_cons]
    exact bind (h start a) fun b => ih

theorem makeFolders (p : Files.Path) : FailsOnFiles (DiskM.makeFolders p) := by
  unfold DiskM.makeFolders
  refine bind get fun d => ?_
  rcases d.makeFolders p with ⟨e | _, disk⟩
  · exact bind (set disk) fun _ => throw p e
  · exact bind (set disk) fun _ => pure ()

theorem makeParent (p : Files.Path) : FailsOnFiles (DiskM.makeParent p) := by
  unfold DiskM.makeParent
  cases p.parent? with
  | none => exact pure ()
  | some folder => exact makeFolders folder

theorem update (p : Files.Path) (change : Files.Disk → Except Files.Failure Files.Disk) :
    FailsOnFiles (DiskM.update p change) := by
  refine bind get fun d => ?_
  cases change d with
  | ok disk => exact set disk
  | error e => exact throw p e

end DiskM.FailsOnFiles

namespace Output

open DiskM (FailsOnFiles)

theorem copyEntry_failsOnFiles (o : Output) (library : Files.Path) (fuel : Nat) (names : List String) :
    FailsOnFiles (o.copyEntry library fuel names) := by
  induction fuel generalizing names with
  | zero => exact .pure 0
  | succ fuel ih =>
    refine .bind .get fun d => ?_
    rcases d.get (if names.isEmpty then library else library.join (relative names)) with e | bytes | entries
    · exact .throw _ _
    · exact .bind (.bind (.makeParent _) fun _ => .update _ _) fun _ => .pure 1
    · exact .foldlM fun count entry => .bind (ih _) fun _ => .pure _

theorem writeArtifacts_failsOnFiles (o : Output) (artifacts : Artifacts) :
    FailsOnFiles (o.writeArtifacts artifacts) := by
  induction artifacts with
  | nil => exact .pure ()
  | cons artifact rest ih => exact .bind (.bind (.makeParent _) fun _ => .update _ _) fun _ => ih

theorem write_failsOnFiles (o : Output) (artifacts : Artifacts) : FailsOnFiles (o.write artifacts) := by
  refine .bind (.makeFolders o.folder) fun _ => ?_
  have hrest : ∀ count, FailsOnFiles (do o.writeArtifacts artifacts; return OutputCounts.mk count artifacts.length) :=
    fun count => .bind (o.writeArtifacts_failsOnFiles artifacts) fun _ => .pure _
  cases o.library with
  | none => exact hrest 0
  | some library => exact .bind (.bind .get fun d => o.copyEntry_failsOnFiles library _ []) hrest

end Output

end StatusFrames
