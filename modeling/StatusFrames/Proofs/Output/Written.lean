/-
What a write leaves on disk. Every header is there with its text, every file of the library is there unless a header took its
place, and no other file has changed. Writing the same headers once more changes nothing at all.
-/
import StatusFrames.Compiler
import StatusFrames.Proofs.Emission.Places
import StatusFrames.Proofs.Output.Repeating

namespace StatusFrames

open Files (Apart Disk Entry Place Writes)

/-! ## The last write -/

namespace Files.Writes

theorem last?_eq_none {w : Writes} {place : Place} (h : ∀ x ∈ w, x.1 ≠ place) : w.last? place = none := by
  rw [last?, List.lookup_eq_none_iff]
  exact fun x hx => bne_iff_ne.mpr (Ne.symm (h x (List.mem_reverse.mp hx)))

theorem last?_eq_some {w : Writes} {place : Place} {bytes : ByteArray} (h : (place, bytes) ∈ w)
    (hall : ∀ other, (place, other) ∈ w → other = bytes) : w.last? place = some bytes := by
  have found : ((w.reverse).lookup place).isSome = true :=
    List.lookup_isSome_iff.mpr ⟨_, List.mem_reverse.mpr h, beq_self_eq_true place⟩
  obtain ⟨other, hother⟩ := Option.isSome_iff_exists.mp found
  rw [last?, hother, hall other (List.mem_reverse.mp (mem_of_lookup hother))]

end Files.Writes

/-- The last write of a path is what is read from it. -/
theorem DiskM.Performs.readBytes {α : Type} {base : Place} {m : DiskM α} {a : α} {w : PathWrites} {d d' : Disk}
    (h : Performs base m a w d d') {p : Files.Path} {bytes : ByteArray} (hp : (p, bytes) ∈ w)
    (hlast : (w.placed d.here).last? (p.place d.here) = some bytes) : d'.readBytes p = .ok bytes := by
  have found := h.changes.bytes (p.place d.here)
  rw [hlast, Option.some_or, Entry.bytesAt?_eq_some, Entry.view_eq_file] at found
  have located := h.located (p, bytes) hp
  rw [Disk.readBytes_eq_ok, Disk.get_eq_ok, h.changes.here]
  exact ⟨located, found⟩

namespace Output

/-- The files of the library, as seen from the library. -/
def libraryFiles (o : Output) (d : Disk) : List (Place × ByteArray) :=
  match o.library with
  | some library => d.root.filesAt (library.place d.here)
  | none => []

/-- What a write leaves on disk. -/
structure Leaves (o : Output) (artifacts : Artifacts) (counts : OutputCounts) (d d' : Disk) : Prop where
  headers : ∀ a ∈ artifacts, d'.readBytes (o.root.join a.1) = .ok a.2.toUTF8
  copied : ∀ f ∈ o.libraryFiles d, (∀ a ∈ artifacts, (o.root.join a.1).place d.here ≠ o.folder.place d.here ++ f.1) →
    d'.readBytes (o.folder.join (relative f.1)) = .ok f.2
  others : ∀ place, (∀ a ∈ artifacts, (o.root.join a.1).place d.here ≠ place) →
    (∀ f ∈ o.libraryFiles d, o.folder.place d.here ++ f.1 ≠ place) → d'.root.bytesAt? place = d.root.bytesAt? place
  library : o.libraryFiles d' = o.libraryFiles d
  counted : counts = ⟨(o.libraryFiles d).length, artifacts.length⟩
  again : (o.write artifacts).run.run d' = (.ok counts, d')

/-! ## What is written -/

/-- The headers with their paths. -/
def headerWrites (o : Output) (artifacts : Artifacts) : PathWrites :=
  artifacts.map fun a => (o.root.join a.1, a.2.toUTF8)

section

variable {o : Output} {artifacts : Artifacts} {d : Disk}

theorem at_libraryFiles (o : Output) (hdisk : d.root.WellFormed) : ∃ top : Place, ∀ f ∈ o.libraryFiles d,
    d.root.at? (top ++ f.1) = some (.file f.2) ∧ ∀ name ∈ f.1, Files.Path.Plain name.toList := by
  unfold libraryFiles
  cases o.library with
  | none => exact ⟨[], nofun⟩
  | some library => exact ⟨_, fun f hf => hdisk.mem_filesAt hf⟩

theorem copy_place (hdisk : d.root.WellFormed) {f : Place × ByteArray} (hf : f ∈ o.libraryFiles d) (here : Place) :
    (o.folder.join (relative f.1)).place here = o.folder.place here ++ f.1 := by
  obtain ⟨top, htop⟩ := o.at_libraryFiles hdisk
  have plain := (htop f hf).2
  rw [relative, (Files.Path.inward_intercalate plain).place_join, Files.Path.names_intercalate plain]

theorem copies_placed (hdisk : d.root.WellFormed) (here : Place) :
    (copies o (o.libraryFiles d)).placed here = (o.libraryFiles d).map fun f => (o.folder.place here ++ f.1, f.2) := by
  rw [PathWrites.placed, copies, List.map_map]
  refine List.map_congr_left fun f hf => ?_
  rw [← copy_place hdisk hf]
  rfl

theorem headers_placed (here : Place) : (headerWrites o artifacts).placed here =
    artifacts.map fun a => ((o.root.join a.1).place here, a.2.toUTF8) := by
  rw [PathWrites.placed, headerWrites, List.map_map]
  rfl

theorem last?_header (hartifacts : artifacts.Spread) {a : Files.Path × String} (ha : a ∈ artifacts) (here : Place) :
    ((headerWrites o artifacts).placed here).last? ((o.root.join a.1).place here) = some a.2.toUTF8 := by
  rw [headers_placed]
  refine Writes.last?_eq_some (List.mem_map.mpr ⟨a, ha, rfl⟩) fun other hother => ?_
  obtain ⟨b, hb, heq⟩ := List.mem_map.mp hother
  obtain ⟨hplace, rfl⟩ := Prod.mk.inj heq
  obtain ⟨names, hnames⟩ := hartifacts.named a ha
  obtain ⟨others, hothers⟩ := hartifacts.named b hb
  obtain ⟨hinward, hspelled⟩ := Files.Path.inward_of_components hnames
  obtain ⟨hinward', hspelled'⟩ := Files.Path.inward_of_components hothers
  rw [hinward.place_join, hinward'.place_join, hspelled, hspelled'] at hplace
  obtain rfl := List.append_cancel_left hplace
  rw [List.inj_on_of_nodup_map hartifacts.distinct hb ha (hothers.trans hnames.symm)]

theorem last?_copy (hdisk : d.root.WellFormed) {f : Place × ByteArray} (hf : f ∈ o.libraryFiles d) (here : Place) :
    ((copies o (o.libraryFiles d)).placed here).last? (o.folder.place here ++ f.1) = some f.2 := by
  rw [copies_placed hdisk]
  refine Writes.last?_eq_some (List.mem_map.mpr ⟨f, hf, rfl⟩) fun other hother => ?_
  obtain ⟨g, hg, heq⟩ := List.mem_map.mp hother
  obtain ⟨hplace, rfl⟩ := Prod.mk.inj heq
  obtain ⟨top, htop⟩ := o.at_libraryFiles hdisk
  have hat := (htop g hg).1
  rw [List.append_cancel_left hplace, (htop f hf).1] at hat
  exact (Entry.file.inj (Option.some.inj hat)).symm

theorem last?_headers_none {place here : Place} (h : ∀ a ∈ artifacts, (o.root.join a.1).place here ≠ place) :
    ((headerWrites o artifacts).placed here).last? place = none := by
  rw [headers_placed]
  refine Writes.last?_eq_none (List.forall_mem_map.mpr fun a ha => ?_)
  dsimp only
  exact h a ha

theorem last?_copies_none (hdisk : d.root.WellFormed) {place here : Place}
    (h : ∀ f ∈ o.libraryFiles d, o.folder.place here ++ f.1 ≠ place) :
    ((copies o (o.libraryFiles d)).placed here).last? place = none := by
  rw [copies_placed hdisk]
  exact Writes.last?_eq_none (List.forall_mem_map.mpr h)

end

/-! ## The whole write -/

/-- The first part of a write, behind the output folder. -/
def fetchLibrary (o : Output) : DiskM Nat :=
  match o.library with
  | some library => o.copyLibrary library
  | none => pure 0

/-- What is done in the output folder. -/
def fill (o : Output) (artifacts : Artifacts) : DiskM OutputCounts := do
  let libraryFiles ← o.fetchLibrary
  o.writeArtifacts artifacts
  return ⟨libraryFiles, artifacts.length⟩

theorem write_eq (o : Output) (artifacts : Artifacts) :
    o.write artifacts = DiskM.makeFolders o.folder >>= fun _ => o.fill artifacts := by
  unfold write fill fetchLibrary
  cases o.library <;> rfl

variable {o : Output} {artifacts : Artifacts} {counts : OutputCounts} {base : Place} {d d₀ d' : Disk}

theorem libraryFiles_eq {place : Place} (h : d.Changes place [] d₀) (hdisk : d.root.WellFormed) :
    o.libraryFiles d₀ = o.libraryFiles d := by
  rw [libraryFiles, libraryFiles]
  split
  · rw [h.here, h.filesAt rfl hdisk]
  · rfl

theorem libraryFiles_apart {w : Writes} (h : d.Changes base w d')
    (hapart : ∀ library, o.library = some library → Apart (library.place d.here) base) :
    o.libraryFiles d' = o.libraryFiles d := by
  rw [libraryFiles, libraryFiles]
  split
  · next library hlibrary => rw [Entry.filesAt, h.here, h.apart (hapart library hlibrary), Entry.filesAt]
  · rfl

theorem fetchLibrary_performs {n : Nat} (hd : d.Ready o.folder base) (hroot : d.root.WellFormed)
    (hapart : ∀ library, o.library = some library → Apart (library.place d.here) base)
    (h : o.fetchLibrary.run.run d = (.ok n, d')) :
    n = (o.libraryFiles d).length ∧ DiskM.Performs base o.fetchLibrary n (copies o (o.libraryFiles d)) d d' := by
  unfold fetchLibrary libraryFiles at *
  cases hlibrary : o.library with
  | none =>
    rw [hlibrary] at h
    cases h
    exact ⟨rfl, .pure base 0 _⟩
  | some library =>
    rw [hlibrary] at h
    exact copyLibrary_performs (hapart library hlibrary) ⟨hd, rfl⟩ hroot h

theorem fill_performs (hroot : (Files.Path.mk o.includeRoot).Inward) (hartifacts : artifacts.Spread)
    (hd : d.Ready o.folder base) (hdisk : d.root.WellFormed)
    (hapart : ∀ library, o.library = some library → Apart (library.place d.here) base)
    (h : (o.fill artifacts).run.run d = (.ok counts, d')) :
    counts = ⟨(o.libraryFiles d).length, artifacts.length⟩ ∧ DiskM.Performs base (o.fill artifacts) counts
      (copies o (o.libraryFiles d) ++ headerWrites o artifacts) d d' := by
  obtain ⟨n, d₁, hfetch, h⟩ := DiskM.run_bind_ok.mp h
  obtain ⟨_, _, hwrite, hcounts⟩ := DiskM.run_bind_ok.mp h
  cases hcounts
  have inward : ∀ a ∈ artifacts, a.1.Inward := fun a ha => by
    obtain ⟨names, hnames⟩ := hartifacts.named a ha
    exact (Files.Path.inward_of_components hnames).1
  obtain ⟨hn, fetched⟩ := fetchLibrary_performs hd hdisk hapart hfetch
  have written := writeArtifacts_performs (fetched.changes.covers.ready hd) hroot inward hwrite
  have counted := written.bind (f := fun _ => pure (OutputCounts.mk n artifacts.length)) (.pure base _ _)
  rw [List.append_nil] at counted
  exact ⟨by rw [hn], fetched.bind counted⟩

theorem leaves_of_write (hroot : (Files.Path.mk o.includeRoot).Inward) (hartifacts : artifacts.Spread)
    (hdisk : d.root.WellFormed)
    (hapart : ∀ library, o.library = some library → Apart (library.place d.here) (o.folder.place d.here))
    (h : (o.write artifacts).run.run d = (.ok counts, d')) : o.Leaves artifacts counts d d' := by
  rw [write_eq] at h
  obtain ⟨_, d₀, hfolder, hfill⟩ := DiskM.run_bind_ok.mp h
  have made := DiskM.run_makeFolders.mp hfolder
  -- making the output folder may make folders anywhere, even in the library, but it touches no file
  have folders : d.Changes [] [] d₀ := Disk.makeFolderChain_changes (fun _ _ => .inr (.inl List.nil_prefix)) made
  have ready : d₀.Ready o.folder (o.folder.place d.here) :=
    ⟨Disk.reached_of_isFolder (Disk.makeFolders_eq_ok made), by rw [folders.here]⟩
  have hdisk₀ := folders.wellFormed hdisk
  have files : o.libraryFiles d₀ = o.libraryFiles d := libraryFiles_eq folders hdisk
  obtain ⟨hcounts, performs⟩ := fill_performs hroot hartifacts ready hdisk₀
    (fun library hlibrary => folders.here ▸ hapart library hlibrary) hfill
  have last : ∀ place, ((copies o (o.libraryFiles d₀) ++ headerWrites o artifacts).placed d₀.here).last? place =
      (((headerWrites o artifacts).placed d.here).last? place).or
        (((copies o (o.libraryFiles d)).placed d.here).last? place) := fun place => by
    rw [PathWrites.placed_append, Writes.last?_append, files, folders.here]
  refine ⟨fun a ha => ?_, fun f hf hfree => ?_, fun place hheaders hcopies => ?_, ?_, by rw [hcounts, files], ?_⟩
  · refine performs.readBytes (List.mem_append_right _ (List.mem_map.mpr ⟨a, ha, rfl⟩)) ?_
    rw [last, folders.here, last?_header hartifacts ha, Option.some_or]
  · refine performs.readBytes (List.mem_append_left _ (List.mem_map.mpr ⟨f, files ▸ hf, rfl⟩)) ?_
    rw [last, folders.here, copy_place hdisk hf, last?_headers_none hfree, last?_copy hdisk hf, Option.none_or]
  · rw [performs.changes.bytes, last, last?_headers_none hheaders, last?_copies_none hdisk hcopies, folders.bytes]
    rfl
  · rw [libraryFiles_apart performs.changes fun library hlibrary => folders.here ▸ hapart library hlibrary, files]
  · have folderAgain := Disk.makeFolders_of_isFolder
      ((Disk.makeFolders_eq_ok made).imp_right performs.changes.covers.isFolder)
    have fillAgain := performs.again d' (.refl _ d')
    rw [performs.changes.overlay_eq hdisk₀] at fillAgain
    rw [write_eq]
    exact DiskM.run_bind_ok.mpr ⟨(), d', DiskM.run_makeFolders.mpr folderAgain, fillAgain⟩

/-- An include root that a compiler accepts leads further in. -/
theorem inward_of_checkIncludeRoot {root : String} (h : checkIncludeRoot root = .ok ()) : (Files.Path.mk root).Inward := by
  have named : (Files.Path.mk root).Named := by
    unfold checkIncludeRoot at h
    have all := (refuse_eq_ok.mp h).1
    simp only [Bool.or_eq_true, Bool.not_eq_true', not_or, Bool.not_eq_false] at all
    replace all := all.1.2
    rw [Files.Path.Named]
    generalize (Files.Path.mk root).components = parts at all
    induction parts with
    | nil => exact ⟨[], rfl⟩
    | cons part rest ih =>
      rw [List.all_cons, Bool.and_eq_true] at all
      obtain ⟨names, hnames⟩ := ih all.2
      cases part with
      | name s => exact ⟨s :: names, by rw [hnames]; rfl⟩
      | _ => cases all.1
  obtain ⟨names, hnames⟩ := named
  exact (Files.Path.inward_of_components hnames).1

/-- What a write of a compilation leaves on disk, if the library and the output folder lie beside each other. The include
root is one that a compiler accepts, so that headers stay below the output folder. No file of the disk has a second name:
a copy over one name of such a file would change what is found under the other. -/
theorem write_leaves {c : Compiler} {disk : Disk} {documents : List Document} {compilation : Compilation}
    (hroot : checkIncludeRoot o.includeRoot = .ok ()) (hd : ∀ d ∈ documents, d.Accepted)
    (hc : c.compile disk documents = .ok compilation) (hdisk : d.root.WellFormed)
    (hapart : ∀ library, o.library = some library → Apart (library.place d.here) (o.folder.place d.here))
    (h : (o.write compilation.artifacts).run.run d = (.ok counts, d')) : o.Leaves compilation.artifacts counts d d' :=
  leaves_of_write (inward_of_checkIncludeRoot hroot) (Compiler.artifacts_spread hd hc) hdisk hapart h

/-- A folder with one entry. -/
theorem wellFormed_single {name : String} {entry : Entry} (hname : Files.Path.Plain name.toList)
    (hentry : entry.WellFormed) : (Entry.folder [(name, entry)]).WellFormed :=
  .folder (List.pairwise_singleton _ _) (List.forall_mem_singleton.mpr hname) (List.forall_mem_singleton.mpr hentry)

/-- A disk with a library of two files, one of them where a header goes. -/
def stockedDisk : Disk :=
  ⟨.folder [("lib", .folder [("src", .folder [("protocols", .folder
    [("notes", .file ⟨#[1]⟩), ("protocol_common.h", .file ⟨#[2]⟩)])])])], []⟩

theorem stockedDisk_wellFormed : stockedDisk.root.WellFormed := by
  have plain : ∀ name ∈ ["lib", "src", "protocols", "notes", "protocol_common.h"], Files.Path.Plain name.toList := by
    simp only [List.forall_mem_cons]
    refine ⟨?_, ?_, ?_, ?_, ?_, nofun⟩ <;> exact ⟨by decide, by decide, by decide, by decide⟩
  refine wellFormed_single (plain _ (by simp)) (wellFormed_single (plain _ (by simp)) (wellFormed_single
    (plain _ (by simp)) (.folder (by decide) ?_ ?_)))
  · exact List.forall_mem_cons.mpr ⟨plain _ (by simp), List.forall_mem_singleton.mpr (plain _ (by simp))⟩
  · exact List.forall_mem_cons.mpr ⟨.file _, List.forall_mem_singleton.mpr (.file _)⟩

/-- The output folder is spelled through the library but lies beside it. -/
def stockedOutput : Output := ⟨⟨"lib/../out"⟩, "src//", some ⟨"lib"⟩⟩

/-- One write of what is compiled, as far as it succeeds. -/
def compileAndWrite (c : Compiler) (o : Output) (documents : List Document) (d : Disk) :
    Option (Compilation × OutputCounts × Disk) :=
  match c.compile d documents with
  | .ok compilation =>
    match (o.write compilation.artifacts).run.run d with
    | (.ok counts, d') => some (compilation, counts, d')
    | (.error _, _) => none
  | .error _ => none

theorem compileAndWrite_eq_some {c : Compiler} {documents : List Document} {compilation : Compilation}
    (h : compileAndWrite c o documents d = some (compilation, counts, d')) :
    c.compile d documents = .ok compilation ∧ (o.write compilation.artifacts).run.run d = (.ok counts, d') := by
  unfold compileAndWrite at h
  split at h
  · next hc =>
    split at h
    · next hw =>
      cases h
      exact ⟨hc, hw⟩
    · cases h
  · cases h

theorem write_leaves_stocked : ∃ compilation d',
    Compiler.ofTrees.compile stockedDisk [Document.sample] = .ok compilation ∧
      (stockedOutput.write compilation.artifacts).run.run stockedDisk = (.ok ⟨2, 4⟩, d') ∧
      stockedOutput.Leaves compilation.artifacts ⟨2, 4⟩ stockedDisk d' := by
  have check : (compileAndWrite .ofTrees stockedOutput [Document.sample] stockedDisk).map (·.2.1) = some ⟨2, 4⟩ := by
    rw [compileAndWrite, Compiler.compile, Compiler.build_singleton]
    decide +kernel
  obtain ⟨⟨compilation, _, d'⟩, hwritten, rfl⟩ := Option.map_eq_some_iff.mp check
  obtain ⟨hc, hw⟩ := compileAndWrite_eq_some hwritten
  have haccepted : ∀ d ∈ [Document.sample], d.Accepted := by simpa using Document.sample_accepted
  have hapart : ∀ library, stockedOutput.library = some library →
      Apart (library.place stockedDisk.here) (stockedOutput.folder.place stockedDisk.here) := by
    rintro library ⟨⟩
    exact ⟨by decide, by decide⟩
  exact ⟨compilation, d', hc, hw, write_leaves rfl haccepted hc stockedDisk_wellFormed hapart hw⟩

/-- Two writes of the same headers, of which the second finds more files in the library. -/
def Grows (o : Output) (documents : List Document) (d : Disk) : Prop :=
  ∃ compilation counts d' more d'', Compiler.ofTrees.compile d documents = .ok compilation ∧
    (o.write compilation.artifacts).run.run d = (.ok counts, d') ∧
      (o.write compilation.artifacts).run.run d' = (.ok more, d'') ∧ counts.libraryFiles < more.libraryFiles

theorem grows_of_counts {documents : List Document} {first second : Nat} (hlt : first < second)
    (h : (compileAndWrite .ofTrees o documents d).map (fun w => (w.2.1.libraryFiles,
      ((o.write w.1.artifacts).run.run w.2.2).1.toOption.map (·.libraryFiles))) = some (first, some second)) :
    o.Grows documents d := by
  obtain ⟨⟨compilation, counts, d'⟩, hwritten, heq⟩ := Option.map_eq_some_iff.mp h
  obtain ⟨hc, hw⟩ := compileAndWrite_eq_some hwritten
  obtain ⟨rfl, hmore⟩ := Prod.mk.inj heq
  rcases hagain : (o.write compilation.artifacts).run.run d' with ⟨_ | more, d''⟩
  · simp [hagain, Except.toOption] at hmore
  · obtain rfl : more.libraryFiles = second := by simpa [hagain, Except.toOption] using hmore
    exact ⟨compilation, counts, d', more, d'', hc, hw, hagain, hlt⟩

def strayDisk : Disk := ⟨.folder [("lib", .folder [("frames.h", .file ⟨#[1]⟩)])], []⟩

theorem strayDisk_wellFormed : strayDisk.root.WellFormed := by
  refine wellFormed_single ?_ (wellFormed_single ?_ (.file _)) <;> exact ⟨by decide, by decide, by decide, by decide⟩

/-- An output whose include root leads out of the output folder and into the library. -/
def strayOutput : Output := ⟨⟨"out"⟩, "../lib", some ⟨"lib"⟩⟩

/-- A document that no check has seen. Its subsystem leads out of the output folder as well. -/
def strayDocument : Document := ⟨⟨"x.yaml"⟩, ⟨"../../../lib/x", 1, false, []⟩⟩

/-- Headers that go into the library are copied by the next write. -/
theorem stray_writes_grow : strayDisk.root.WellFormed ∧
    Apart ((Files.Path.mk "lib").place strayDisk.here) ((Files.Path.mk "out").place strayDisk.here) ∧
      strayOutput.Grows [] strayDisk ∧ Output.Grows ⟨⟨"out"⟩, "src", some ⟨"lib"⟩⟩ [strayDocument] strayDisk := by
  refine ⟨strayDisk_wellFormed, ⟨by decide, by decide⟩, ?_, ?_⟩
  · exact grows_of_counts (by decide : 1 < 3) (by decide +kernel)
  · exact grows_of_counts (by decide : 1 < 2) (by decide +kernel)

end Output

end StatusFrames
