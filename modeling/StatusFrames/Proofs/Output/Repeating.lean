/-
Operations that can be repeated. An operation that succeeded has written some files below the output folder; done once more
on a disk that has all its folders and files, it writes the same files and nothing else. This goes through from single files
to the whole library and all headers.
-/
import StatusFrames.Output
import StatusFrames.Proofs.Files.Changes

namespace StatusFrames

open Files (Apart Disk Entry Place Writes)

/-- Files with the paths that they are written at. -/
abbrev PathWrites := List (Files.Path × ByteArray)

/-- The places of the files. -/
def PathWrites.placed (here : Place) (w : PathWrites) : Writes := w.map fun x => (x.1.place here, x.2)

theorem PathWrites.placed_append (here : Place) (w v : PathWrites) :
    PathWrites.placed here (w ++ v) = w.placed here ++ v.placed here := List.map_append

namespace DiskM

/-- An operation has a result and writes some files, and does so again wherever they are there. -/
structure Performs {α : Type} (base : Place) (m : DiskM α) (a : α) (w : PathWrites) (d d' : Disk) : Prop where
  changes : d.Changes base (w.placed d.here) d'
  located : ∀ x ∈ w, d'.locate x.1 = .ok (x.1.place d.here)
  again : ∀ e : Disk, e.Like base d' → m.run.run e = (.ok a, e.overlay (w.placed d.here))

variable {α β : Type} {base : Place} {d d' d₁ d₂ : Disk}

theorem Performs.pure (base : Place) (a : α) (d : Disk) : Performs base (pure a) a [] d d :=
  ⟨.refl, nofun, fun _ _ => rfl⟩

theorem Performs.bind {m : DiskM α} {f : α → DiskM β} {a : α} {b : β} {w v : PathWrites} (h : Performs base m a w d d₁)
    (hf : Performs base (f a) b v d₁ d₂) : Performs base (m >>= f) b (w ++ v) d d₂ := by
  have here := h.changes.here
  have placed : PathWrites.placed d.here (w ++ v) = w.placed d.here ++ v.placed d₁.here := by
    rw [PathWrites.placed_append, here]
  refine ⟨placed ▸ h.changes.trans hf.changes, fun x hx => ?_, fun e he => ?_⟩
  · rcases List.mem_append.mp hx with hx | hx
    · exact hf.changes.covers.locate (h.located x hx)
    · exact here ▸ hf.located x hx
  · have before : e.Like base d₁ := he.trans hf.changes.like
    have between : (e.overlay (w.placed d.here)).Like base d₂ := (h.changes.replay before.toCovers).1.like.trans he
    rw [run_bind, h.again e before, placed, Disk.overlay_append]
    exact hf.again _ between

theorem Performs.congr {m m' : DiskM α} {a : α} {w : PathWrites} (h : Performs base m a w d d')
    (hm : ∀ e : Disk, e.Like base d' → m'.run.run e = m.run.run e) : Performs base m' a w d d' :=
  ⟨h.changes, h.located, fun e he => (hm e he).trans (h.again e he)⟩

/-- A chain that succeeded is two steps that did. -/
theorem run_bind_ok {m : DiskM α} {f : α → DiskM β} {b : β} :
    (m >>= f).run.run d = (.ok b, d') ↔ ∃ a d₁, m.run.run d = (.ok a, d₁) ∧ (f a).run.run d₁ = (.ok b, d') := by
  rw [run_bind_eq]
  constructor
  · rintro (⟨e, -, h⟩ | h)
    · cases h
    · exact h
  · exact .inr

theorem run_makeFolders {p : Files.Path} :
    (makeFolders p).run.run d = (.ok (), d') ↔ d.makeFolders p = (.ok (), d') := by
  unfold makeFolders
  rw [run_get]
  rcases d.makeFolders p with ⟨e | _, disk⟩
  · exact ⟨nofun, nofun⟩
  · constructor <;> intro h <;> cases h <;> rfl

theorem run_update {p : Files.Path} {change : Disk → Except Files.Failure Disk} :
    (update p change).run.run d = (.ok (), d') ↔ change d = .ok d' := by
  unfold update
  rw [run_get]
  cases change d with
  | error e => exact ⟨nofun, nofun⟩
  | ok disk => constructor <;> intro h <;> cases h <;> rfl

section

variable {folder p : Files.Path} (hd : d.Ready folder base) (hp : p.From folder)

include hd hp

theorem makeParent_performs (h : (makeParent p).run.run d = (.ok (), d')) : Performs base (makeParent p) () [] d d' := by
  unfold makeParent at h ⊢
  split at h
  · next parent hparent =>
    rw [run_makeFolders] at h
    refine ⟨Disk.makeFolders_changes hd hp (Files.Path.onWay_parent hparent) h, nofun, fun e he => ?_⟩
    exact run_makeFolders.mpr (Disk.makeFolders_of_isFolder ((Disk.makeFolders_eq_ok h).imp_right he.isFolder))
  · cases h
    exact .pure base () d

theorem stores_performs {m : DiskM Unit} {bytes : ByteArray} (h : d.Stores p bytes d')
    (hagain : ∀ e new, e.Like base d' → e.Stores p bytes new → m.run.run e = (.ok (), new)) :
    Performs base m () [(p, bytes)] d d' where
  changes := h.changes (hd.place ▸ hp.place d.here)
  located := List.forall_mem_singleton.mpr h.locate
  again e he := hagain e _ he (h.again he.toCovers)

theorem writeText_performs {text : String} (h : (writeText p text).run.run d = (.ok (), d')) :
    Performs base (writeText p text) () [(p, text.toUTF8)] d d' := by
  obtain ⟨_, d₁, hparent, hwrite⟩ := run_bind_ok.mp h
  have parent := makeParent_performs hd hp hparent
  refine parent.bind (stores_performs (parent.changes.covers.ready hd) hp ?_ fun e new he hnew => ?_)
  · exact Disk.write_eq_ok.mp (run_update.mp hwrite)
  · exact run_update.mpr (Disk.write_eq_ok.mpr hnew)

/-- A file from beside the output folder is copied. -/
theorem copyFile_performs {source : Files.Path} {bytes : ByteArray} (hsource : Apart (source.place d.here) base)
    (hbytes : d.root.at? (source.place d.here) = some (.file bytes))
    (h : (copyFile source p).run.run d = (.ok (), d')) : Performs base (copyFile source p) () [(p, bytes)] d d' := by
  obtain ⟨_, d₁, hparent, hcopy⟩ := run_bind_ok.mp h
  have parent := makeParent_performs hd hp hparent
  have ready := parent.changes.covers.ready hd
  have here := parent.changes.here
  have other : ∀ e : Disk, e.here = d.here → p.place e.here ≠ source.place e.here := fun e he heq => by
    rw [he] at heq
    exact hsource.2 (heq ▸ hd.place ▸ hp.place d.here)
  obtain ⟨found, hfound, hstores⟩ := (Disk.copy_eq_ok (other d₁ here)).mp (run_update.mp hcopy)
  have hget := Disk.readBytes_eq_ok.mp hfound
  obtain rfl : found = bytes := by
    have hat := (Disk.get_eq_ok.mp hget).2
    rw [here, parent.changes.apart hsource, hbytes] at hat
    exact (Entry.file.inj (Option.some.inj hat)).symm
  refine parent.bind (stores_performs ready hp hstores fun e new he hnew => ?_)
  have before : e.Like base d₁ := he.trans (hstores.changes (ready.place ▸ hp.place d₁.here)).like
  have hgetAgain := before.get (here ▸ hsource) hget
  refine run_update.mpr ((Disk.copy_eq_ok (other e (before.here.trans here))).mpr ⟨found, ?_, hnew⟩)
  exact Disk.readBytes_eq_ok.mpr hgetAgain

end

end DiskM

namespace Output

open DiskM (Performs run_bind_ok)
open Files.Path (Plain)

variable {o : Output} {library : Files.Path} {base top names : Place} {fuel n : Nat} {d d' : Disk}

/-- The files of the library with the paths of their copies. -/
def copies (o : Output) (files : List (Place × ByteArray)) : PathWrites :=
  files.map fun x => (o.folder.join (relative x.1), x.2)

/-- The path of an entry of the library. -/
def entryPath (library : Files.Path) (names : Place) : Files.Path :=
  if names.isEmpty then library else library.join (relative names)

theorem entryPath_place (hnames : ∀ name ∈ names, Plain name.toList) (here : Place) :
    (entryPath library names).place here = library.place here ++ names := by
  cases names with
  | nil => simp [entryPath]
  | cons first rest =>
    show (library.join (relative (first :: rest))).place here = _
    rw [relative, (Files.Path.inward_intercalate hnames).place_join, Files.Path.names_intercalate hnames]

theorem run_copyEntry (o : Output) (library : Files.Path) (fuel : Nat) (names : Place) (d : Disk) :
    (copyEntry o library (fuel + 1) names).run.run d =
      (match d.get (entryPath library names) with
      | .error e => throw (.files (entryPath library names) (.walk (entryPath library names).text e))
      | .ok (.file _) => do
        DiskM.copyFile (entryPath library names) (o.folder.join (relative names))
        return 1
      | .ok (.folder entries) =>
        entries.foldlM (fun count entry => return count + (← copyEntry o library fuel (names ++ [entry.1]))) 0 :
        DiskM Nat).run.run d := rfl

theorem get_of_copyEntry (h : (copyEntry o library (fuel + 1) names).run.run d = (.ok n, d')) :
    ∃ entry, d.get (entryPath library names) = .ok entry := by
  rw [run_copyEntry] at h
  cases hget : d.get (entryPath library names) with
  | error e => rw [hget] at h; cases h
  | ok entry => exact ⟨entry, rfl⟩

/-- An entry of the library is copied, with every fuel that is enough. -/
structure Copied (o : Output) (library : Files.Path) (base names : Place) (entry : Entry) (n : Nat) (d d' : Disk) :
    Prop where
  count : n = (entry.files names).length
  performs : ∀ fuel, entry.size ≤ fuel →
    Performs base (copyEntry o library fuel names) n (copies o (entry.files names)) d d'

/-- The library is at a place, and the output folder is ready at another. -/
structure Laid (o : Output) (library : Files.Path) (base top : Place) (d : Disk) : Prop where
  ready : d.Ready o.folder base
  place : library.place d.here = top

theorem Laid.mono {e : Disk} (h : Laid o library base top d) (he : e.Covers d) : Laid o library base top e :=
  ⟨he.ready h.ready, he.here ▸ h.place⟩

section

variable (hapart : Apart top base)

include hapart

theorem copyEntries_performs {entries : List (String × Entry)} {count : Nat}
    (hone : ∀ x ∈ entries, ∀ {n : Nat} {d d' : Disk}, Laid o library base top d →
      d.root.at? (top ++ (names ++ [x.1])) = some x.2 →
      (copyEntry o library fuel (names ++ [x.1])).run.run d = (.ok n, d') →
      Copied o library base (names ++ [x.1]) x.2 n d d')
    (hd : Laid o library base top d) (hat : ∀ x ∈ entries, d.root.at? (top ++ (names ++ [x.1])) = some x.2)
    (h : (entries.foldlM (fun count entry => return count + (← copyEntry o library fuel (names ++ [entry.1]))) count :
      DiskM Nat).run.run d = (.ok n, d')) :
    n = count + (Entry.filesOf names entries).length ∧ ∀ fuel, (∀ x ∈ entries, x.2.size ≤ fuel) →
      Performs base
        (entries.foldlM (fun count entry => return count + (← copyEntry o library fuel (names ++ [entry.1]))) count) n
        (copies o (Entry.filesOf names entries)) d d' := by
  induction entries generalizing d count with
  | nil =>
    cases h
    exact ⟨rfl, fun _ _ => .pure base _ _⟩
  | cons x rest ih =>
    obtain ⟨hfirst, hrest⟩ := List.forall_mem_cons.mp hone
    rw [List.foldlM_cons] at h
    obtain ⟨total, d₁, hstep, hmore⟩ := run_bind_ok.mp h
    obtain ⟨k, _, hcopy, hsum⟩ := run_bind_ok.mp hstep
    cases hsum
    have first := hfirst hd (hat x List.mem_cons_self) hcopy
    have changes := (first.performs _ le_rfl).changes
    obtain ⟨htotal, hperforms⟩ := ih hrest (hd.mono changes.covers)
      (fun y hy => (changes.apart (hapart.append _)).trans (hat y (List.mem_cons_of_mem _ hy))) hmore
    refine ⟨?_, fun fuel hfuel => ?_⟩
    · rw [htotal, first.count, Entry.filesOf, List.length_append, Nat.add_assoc]
    · obtain ⟨hx, hothers⟩ := List.forall_mem_cons.mp hfuel
      have one := (first.performs fuel hx).bind (f := fun k => pure (count + k)) (Performs.pure base (count + k) d₁)
      rw [List.append_nil] at one
      rw [List.foldlM_cons, Entry.filesOf, copies, List.map_append]
      exact one.bind (hperforms fuel hothers)

theorem copyEntry_performs {entry : Entry} (hd : Laid o library base top d) (hnames : ∀ name ∈ names, Plain name.toList)
    (hentry : entry.WellFormed) (hat : d.root.at? (top ++ names) = some entry) (hfuel : entry.size ≤ fuel)
    (h : (copyEntry o library fuel names).run.run d = (.ok n, d')) : Copied o library base names entry n d d' := by
  induction fuel generalizing names entry n d d' with
  | zero => exact absurd hfuel (Nat.not_le.mpr (Entry.size_pos entry))
  | succ fuel ih =>
    have place : (entryPath library names).place d.here = top ++ names := by rw [entryPath_place hnames, hd.place]
    have apart : Apart ((entryPath library names).place d.here) base := place ▸ hapart.append names
    -- what is found is the entry, also when it is looked for again
    have found : d.get (entryPath library names) = .ok entry := by
      obtain ⟨other, hget⟩ := get_of_copyEntry h
      have hother := (Disk.get_eq_ok.mp hget).2
      rw [place, hat] at hother
      rw [hget, Option.some.inj hother]
    rw [run_copyEntry, found] at h
    cases entry with
    | file bytes =>
      obtain ⟨_, _, hcopy, hone⟩ := run_bind_ok.mp h
      cases hone
      have onward : (o.folder.join (relative names)).From o.folder := (Files.Path.inward_intercalate hnames).from_join
      have copied := DiskM.copyFile_performs hd.ready onward apart (place ▸ hat) hcopy
      have counted := copied.bind (f := fun _ => pure 1) (Performs.pure base 1 _)
      refine ⟨rfl, fun fuel hfuel => ?_⟩
      obtain ⟨fuel, rfl⟩ := Nat.exists_eq_succ_of_ne_zero ((Entry.size_pos _).trans_le hfuel).ne'
      refine counted.congr fun e he => ?_
      rw [run_copyEntry, (he.trans copied.changes.like).get apart found]
    | folder entries =>
      cases hentry with
      | folder ordered plain inner =>
      have enough : ∀ {fuel}, (Entry.folder entries).size ≤ fuel + 1 → ∀ x ∈ entries, x.2.size ≤ fuel :=
        fun hle x hx => Nat.lt_succ_iff.mp ((Entry.size_lt_folder hx).trans_le hle)
      have child : ∀ x ∈ entries, d.root.at? (top ++ (names ++ [x.1])) = some x.2 := fun x hx => by
        rw [← List.append_assoc, Entry.at?_append, hat, Option.bind_some, Entry.at?_folder,
          Files.lookup_of_mem ordered hx]
        rfl
      obtain ⟨hcount, hperforms⟩ := copyEntries_performs hapart
        (fun x hx _ _ _ hlaid hchild hrun => ih hlaid
          (List.forall_mem_append.mpr ⟨hnames, List.forall_mem_singleton.mpr (plain x hx)⟩) (inner x hx) hchild
          (enough hfuel x hx) hrun) hd child h
      refine ⟨by rw [hcount, Nat.zero_add]; rfl, fun fuel hfuel => ?_⟩
      obtain ⟨fuel, rfl⟩ := Nat.exists_eq_succ_of_ne_zero ((Entry.size_pos _).trans_le hfuel).ne'
      have whole := hperforms fuel (enough hfuel)
      refine whole.congr fun e he => ?_
      rw [run_copyEntry, (he.trans whole.changes.like).get apart found]

theorem copyLibrary_performs (hd : Laid o library base top d) (hroot : d.root.WellFormed)
    (h : (o.copyLibrary library).run.run d = (.ok n, d')) :
    n = (d.root.filesAt top).length ∧ Performs base (o.copyLibrary library) n (copies o (d.root.filesAt top)) d d' := by
  have run : ∀ e : Disk, (o.copyLibrary library).run.run e =
    (copyEntry o library (2 * e.root.size + 1) []).run.run e := fun _ => rfl
  rw [run] at h
  obtain ⟨entry, hget⟩ := get_of_copyEntry h
  have hat : d.root.at? top = some entry := hd.place ▸ (Disk.get_eq_ok.mp hget).2
  have enough : ∀ e : Disk, e.root.at? top = some entry → entry.size ≤ 2 * e.root.size + 1 := fun e he => by
    have := Entry.size_at? he
    omega
  have files : d.root.filesAt top = entry.files [] := by rw [Entry.filesAt, hat]
  have copied := copyEntry_performs hapart hd (by simp) (hroot.entryAt hat) (by rwa [List.append_nil]) (enough d hat) h
  have first := copied.performs _ (enough d hat)
  rw [files]
  refine ⟨copied.count, first.changes, first.located, fun e he => ?_⟩
  have hatAgain : e.root.at? top = some entry := ((he.trans first.changes.like).apart hapart).trans hat
  exact (run e).trans ((copied.performs _ (enough e hatAgain)).again e he)

end

theorem writeArtifacts_performs {artifacts : Artifacts} (hd : d.Ready o.folder base)
    (hroot : (Files.Path.mk o.includeRoot).Inward) (hpaths : ∀ a ∈ artifacts, a.1.Inward)
    (h : (o.writeArtifacts artifacts).run.run d = (.ok (), d')) :
    Performs base (o.writeArtifacts artifacts) () (artifacts.map fun a => (o.root.join a.1, a.2.toUTF8)) d d' := by
  induction artifacts generalizing d with
  | nil =>
    cases h
    exact .pure base () _
  | cons a rest ih =>
    obtain ⟨ha, hrest⟩ := List.forall_mem_cons.mp hpaths
    obtain ⟨_, d₁, hwrite, hmore⟩ := run_bind_ok.mp h
    have onward : (o.root.join a.1).From o.folder := ha.from_join.trans hroot.from_join
    have first := DiskM.writeText_performs hd onward hwrite
    exact first.bind (ih (first.changes.covers.ready hd) hrest hmore)

end Output

end StatusFrames
