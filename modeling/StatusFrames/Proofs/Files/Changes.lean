/-
How a disk changes. A folder is made where nothing is, or a file is written where no folder is; all that operations do comes
down to such steps, and what holds of the disk afterwards follows from the files that were written. Writing them once more
gives the same disk.
-/
import StatusFrames.Proofs.Files.Walking

namespace StatusFrames.Files

open Files.Path (Plain)

/-- Neither of two places is below the other. -/
def Apart (p q : Place) : Prop := ¬p <+: q ∧ ¬q <+: p

theorem Apart.below {p base q : Place} (h : Apart p base) (hq : base <+: q) : Apart p q :=
  ⟨fun hp => (List.prefix_or_prefix_of_prefix hp hq).elim h.1 h.2, fun hp => h.2 (hq.trans hp)⟩

theorem Apart.symm {p q : Place} (h : Apart p q) : Apart q p := ⟨h.2, h.1⟩

theorem Apart.append {p base : Place} (h : Apart p base) (rest : Place) : Apart (p ++ rest) base :=
  (h.symm.below (List.prefix_append p rest)).symm

/-- Files that were written, the latest at the end. -/
abbrev Writes := List (Place × ByteArray)

/-- The bytes that were written last. -/
def Writes.last? (w : Writes) (place : Place) : Option ByteArray := w.reverse.lookup place

theorem Writes.last?_append (w more : Writes) (place : Place) :
    Writes.last? (w ++ more) place = (Writes.last? more place).or (Writes.last? w place) := by
  rw [last?, List.reverse_append, List.lookup_append]
  rfl

theorem Writes.last?_concat (w : Writes) (written : Place) (bytes : ByteArray) (place : Place) :
    Writes.last? (w ++ [(written, bytes)]) place = if place = written then some bytes else w.last? place := by
  rw [last?_append]
  by_cases h : place = written
  · rw [if_pos h, h]
    simp [last?]
  · rw [if_neg h]
    simp [last?, List.lookup_cons, beq_eq_false_iff_ne.mpr h]

/-- The bytes of the file at a place. -/
def Entry.bytesAt? (t : Entry) (place : Place) : Option ByteArray := (t.view place).join

theorem Entry.bytesAt?_eq_some {t : Entry} {place : Place} {bytes : ByteArray} :
    t.bytesAt? place = some bytes ↔ t.view place = some (some bytes) := by
  rw [bytesAt?]
  rcases t.view place with _ | _ | _ <;> simp

theorem Entry.view_congr {t u : Entry} {place : Place} (hbytes : t.bytesAt? place = u.bytesAt? place)
    (hfolder : t.view place = some none ↔ u.view place = some none) : t.view place = u.view place := by
  rw [bytesAt?, bytesAt?] at hbytes
  rcases ht : t.view place with _ | _ | _ <;> rcases hu : u.view place with _ | _ | _ <;> simp_all

namespace Disk

/-- The changes of a disk below a place, and the files that were written. -/
inductive Changes (base : Place) (d : Disk) : Writes → Disk → Prop
  | refl : Changes base d [] d
  | folder {w : Writes} {d' : Disk} {place : Place} {name : String} (before : Changes base d w d')
      (below : base <+: place ++ [name]) (parent : d'.root.view place = some none) (plain : Plain name.toList)
      (free : d'.root.view (place ++ [name]) = none) : Changes base d w (d'.put (place ++ [name]) (.folder []))
  | file {w : Writes} {d' : Disk} {place : Place} {name : String} (before : Changes base d w d')
      (below : base <+: place ++ [name]) (parent : d'.root.view place = some none) (plain : Plain name.toList)
      (noFolder : d'.root.view (place ++ [name]) ≠ some none) (bytes : ByteArray) :
      Changes base d (w ++ [(place ++ [name], bytes)]) (d'.put (place ++ [name]) (.file bytes))

section

variable {d : Disk} {place : Place} {name : String}

theorem view_put_folder (parent : d.root.view place = some none) (free : d.root.view (place ++ [name]) = none)
    (q : Place) : (d.put (place ++ [name]) (.folder [])).root.view q =
      if q = place ++ [name] then some none else d.root.view q := by
  refine Entry.view_put parent (by simp [free]) (fun rest hrest => ?_) q
  cases rest with
  | nil => exact absurd rfl hrest
  | cons first more => rfl

theorem view_put_file (parent : d.root.view place = some none) (noFolder : d.root.view (place ++ [name]) ≠ some none)
    (bytes : ByteArray) (q : Place) : (d.put (place ++ [name]) (.file bytes)).root.view q =
      if q = place ++ [name] then some (some bytes) else d.root.view q := by
  refine Entry.view_put parent noFolder (fun rest hrest => ?_) q
  cases rest with
  | nil => exact absurd rfl hrest
  | cons first more => rfl

end

namespace Changes

variable {base : Place} {w : Writes} {d d' e : Disk}

theorem here (h : Changes base d w d') : d'.here = d.here := by
  induction h with
  | refl => rfl
  | folder _ _ _ _ _ ih => exact ih
  | file _ _ _ _ _ _ ih => exact ih

theorem wellFormed (h : Changes base d w d') (hd : d.root.WellFormed) : d'.root.WellFormed := by
  induction h with
  | refl => exact hd
  | folder _ _ parent plain _ ih => exact ih.put parent plain (.folder .nil nofun nofun)
  | file _ _ parent plain _ bytes ih => exact ih.put parent plain (.file bytes)

/-- What lies beside the base stays as it is. -/
theorem apart (h : Changes base d w d') {q : Place} (hq : Apart q base) : d'.root.at? q = d.root.at? q := by
  induction h with
  | refl => rfl
  | folder _ below _ _ _ ih => exact (Entry.at?_put_apart (hq.below below).2 (hq.below below).1).trans ih
  | file _ below _ _ _ _ ih => exact (Entry.at?_put_apart (hq.below below).2 (hq.below below).1).trans ih

theorem folders (h : Changes base d w d') {q : Place} (hq : d.root.view q = some none) : d'.root.view q = some none := by
  induction h with
  | refl => exact hq
  | folder _ _ parent _ free ih =>
    rw [view_put_folder parent free]
    split
    · rfl
    · exact ih
  | file _ _ parent _ noFolder bytes ih =>
    rw [view_put_file parent noFolder, if_neg]
    · exact ih
    · rintro rfl
      exact noFolder ih

/-- A file has the bytes that were written last, or those that it had. -/
theorem bytes (h : Changes base d w d') (q : Place) :
    d'.root.bytesAt? q = (w.last? q).or (d.root.bytesAt? q) := by
  induction h with
  | refl => rfl
  | folder _ _ parent _ free ih =>
    rw [← ih, Entry.bytesAt?, view_put_folder parent free, Entry.bytesAt?]
    split
    · next heq => rw [heq, free]; rfl
    · rfl
  | file _ _ parent _ noFolder bytes ih =>
    rw [Entry.bytesAt?, view_put_file parent noFolder, Writes.last?_concat]
    split
    · rfl
    · exact ih

theorem covers (h : Changes base d w d') : d'.Covers d where
  here := h.here
  folders _ hq := h.folders hq
  files q bytes hq := by
    have written := h.bytes q
    rw [Entry.bytesAt?_eq_some.mpr hq] at written
    cases hlast : w.last? q with
    | none => exact ⟨bytes, Entry.bytesAt?_eq_some.mp (by rw [written, hlast]; rfl)⟩
    | some new => exact ⟨new, Entry.bytesAt?_eq_some.mp (by rw [written, hlast]; rfl)⟩

theorem trans {d₁ d₂ : Disk} {v : Writes} (h : Changes base d w d₁) (h' : Changes base d₁ v d₂) :
    Changes base d (w ++ v) d₂ := by
  induction h' with
  | refl => rwa [List.append_nil]
  | folder _ below parent plain free ih => exact .folder ih below parent plain free
  | file _ below parent plain noFolder bytes ih =>
    rw [← List.append_assoc]
    exact .file ih below parent plain noFolder bytes

/-- Without a file that is written, the files are the same, wherever one looks. -/
theorem filesAt (h : Changes base d w d') (hw : w = []) (hd : d.root.WellFormed) (q : Place) :
    d'.root.filesAt q = d.root.filesAt q := by
  induction h with
  | refl => rfl
  | folder before _ parent _ free ih =>
    exact ((before.wellFormed hd).filesAt_put_folder parent free q).trans (ih hw)
  | file => exact absurd hw (by simp)

end Changes

/-- The files are written once more. -/
def overlay (d : Disk) (w : Writes) : Disk := w.foldl (fun d x => d.put x.1 (.file x.2)) d

theorem overlay_append (d : Disk) (w v : Writes) : d.overlay (w ++ v) = (d.overlay w).overlay v := List.foldl_append

theorem overlay_concat (d : Disk) (w : Writes) (place : Place) (bytes : ByteArray) :
    d.overlay (w ++ [(place, bytes)]) = (d.overlay w).put place (.file bytes) := overlay_append d w _

namespace Changes

variable {base : Place} {w : Writes} {d d' e : Disk}

/-- Where all files and folders are there, only the files change. -/
theorem replay (h : Changes base d w d') (he : e.Covers d') :
    Changes base e w (e.overlay w) ∧ ∀ q, (e.overlay w).root.view q = some none → e.root.view q = some none := by
  induction h with
  | refl => exact ⟨.refl, fun _ hq => hq⟩
  | folder before below parent plain free ih =>
    exact ih (he.trans (Changes.folder .refl below parent plain free).covers)
  | file before below parent plain noFolder bytes ih =>
    rename_i v d₁ place name
    have step : Changes base d₁ [(place ++ [name], bytes)] _ := Changes.file .refl below parent plain noFolder bytes
    obtain ⟨hagain, hfolders⟩ := ih (he.trans step.covers)
    have parentAgain : (e.overlay v).root.view place = some none :=
      hagain.folders (he.folders _ (step.folders parent))
    have written : (d₁.put (place ++ [name]) (.file bytes)).root.view (place ++ [name]) = some (some bytes) := by
      rw [view_put_file parent noFolder, if_pos rfl]
    obtain ⟨old, hold⟩ := (hagain.covers.trans he).files _ _ written
    have noFolderAgain : (e.overlay v).root.view (place ++ [name]) ≠ some none := by
      rw [hold]
      simp
    rw [overlay_concat]
    refine ⟨.file hagain below parentAgain plain noFolderAgain bytes, fun q hq => hfolders q ?_⟩
    rw [view_put_file parentAgain noFolderAgain] at hq
    split at hq
    · cases hq
    · exact hq

/-- What was written last is there already. -/
theorem overlay_eq (h : Changes base d w d') (hd : d.root.WellFormed) : d'.overlay w = d' := by
  obtain ⟨hagain, hfolders⟩ := h.replay (.refl d')
  have bytes : ∀ q, (d'.overlay w).root.bytesAt? q = d'.root.bytesAt? q := fun q => by
    rw [hagain.bytes, h.bytes, ← Option.or_assoc, Option.or_self]
  have root : (d'.overlay w).root = d'.root := by
    refine Entry.WellFormed.ext (hagain.wellFormed (h.wellFormed hd)) (h.wellFormed hd) fun q => ?_
    exact Entry.view_congr (bytes q) ⟨hfolders q, hagain.folders⟩
  calc d'.overlay w
    _ = ⟨(d'.overlay w).root, (d'.overlay w).here⟩ := rfl
    _ = d' := by rw [root, hagain.here]

end Changes

/-! ## The operations of a disk -/

variable {d d' e : Disk} {p : Path} {base : Place}

theorem makeFolder_eq_ok : d.makeFolder p = .ok d' ↔ ∃ folder name, d.Slot p folder name ∧
    d.root.view (folder ++ [name]) = none ∧ d' = d.put (folder ++ [name]) (.folder []) := by
  rw [makeFolder, bind_eq_ok]
  constructor
  · rintro ⟨place, hplace, h⟩
    cases place with
    | none => cases h
    | some q =>
      obtain ⟨folder, name, hslot, rfl⟩ := newPlace_eq_some.mp hplace
      cases hat : d.root.at? (folder ++ [name]) with
      | none => exact ⟨folder, name, hslot, by rw [Entry.view, hat]; rfl, by simpa [hat, eq_comm] using h⟩
      | some entry => simp [hat] at h
  · rintro ⟨folder, name, hslot, hfree, rfl⟩
    refine ⟨_, newPlace_eq_some.mpr ⟨folder, name, hslot, rfl⟩, ?_⟩
    rw [Entry.view, Option.map_eq_none_iff] at hfree
    simp [hfree]

theorem filePlace_eq_ok {q : Place} : d.filePlace p = .ok q ↔ ∃ folder name, d.Slot p folder name ∧
    p.endsInSlash = false ∧ d.root.view (folder ++ [name]) ≠ some none ∧ q = folder ++ [name] := by
  rw [filePlace, bind_eq_ok]
  constructor
  · rintro ⟨place, hplace, h⟩
    cases place with
    | none => cases h
    | some place =>
      obtain ⟨folder, name, hslot, rfl⟩ := newPlace_eq_some.mp hplace
      obtain ⟨hslash, h⟩ := refuse_eq_ok.mp h
      refine ⟨folder, name, hslot, by simpa using hslash, ?_⟩
      rw [Ne, Entry.view_eq_folder]
      rcases hat : d.root.at? (folder ++ [name]) with _ | bytes | entries <;> simp [hat, eq_comm] at h ⊢ <;> exact h
  · rintro ⟨folder, name, hslot, hslash, hview, rfl⟩
    refine ⟨_, newPlace_eq_some.mpr ⟨folder, name, hslot, rfl⟩, ?_⟩
    rw [Ne, Entry.view_eq_folder] at hview
    rcases hat : d.root.at? (folder ++ [name]) with _ | bytes | entries
    · simp [hslash, hat]
    · simp [hslash, hat]
    · exact absurd ⟨entries, hat⟩ hview

/-- A folder at this path is there already or would be below the base. -/
def Inside (d : Disk) (base : Place) (p : Path) : Prop :=
  p.moves = [] ∨ base <+: p.place d.here ∨ d.root.view (p.place d.here) = some none

theorem Covers.inside (h : e.Covers d) (hd : d.Inside base p) : e.Inside base p := by
  rw [Inside, h.here]
  exact hd.imp_right (Or.imp_right (h.folders _))

theorem makeFolder_changes (hp : d.Inside base p) (h : d.makeFolder p = .ok d') : d.Changes base [] d' := by
  obtain ⟨folder, name, hslot, hfree, rfl⟩ := makeFolder_eq_ok.mp h
  obtain ⟨front, hmoves, -⟩ := hslot.reached
  refine .folder .refl ?_ hslot.view_folder hslot.plain hfree
  rw [Inside, hslot.place_eq, hfree] at hp
  rcases hp with hp | hp | hp
  · exact absurd (hmoves ▸ hp) (by simp)
  · exact hp
  · cases hp

theorem makeFolderChain_changes {paths : List Path} (hpaths : ∀ p ∈ paths, d.Inside base p)
    (h : d.makeFolderChain paths = (.ok (), d')) : d.Changes base [] d' := by
  induction paths generalizing d d' with
  | nil =>
    cases h
    exact .refl
  | cons p outer ih =>
    obtain ⟨hp, houter⟩ := List.forall_mem_cons.mp hpaths
    rw [makeFolderChain] at h
    split at h
    · cases h
      exact .refl
    split at h
    · next made hmade =>
      cases h
      exact makeFolder_changes hp hmade
    · -- the folder of this one is made first
      split at h
      · cases h
      next between hbetween =>
      have changed := ih houter hbetween
      split at h
      · next made hmade =>
        cases h
        exact changed.trans (makeFolder_changes (changed.covers.inside hp) hmade)
      · obtain ⟨-, rfl⟩ := Prod.mk.inj h
        exact changed
    · obtain ⟨-, rfl⟩ := Prod.mk.inj h
      exact .refl

/-- A folder that was made is there. -/
theorem isFolder_of_makeFolder (h : d.makeFolder p = .ok d') : d'.isFolder p = true := by
  obtain ⟨folder, name, hslot, hfree, rfl⟩ := makeFolder_eq_ok.mp h
  have made : d.Changes [] [] (d.put (folder ++ [name]) (.folder [])) :=
    .folder .refl List.nil_prefix hslot.view_folder hslot.plain hfree
  have view : (d.put (folder ++ [name]) (.folder [])).root.view (folder ++ [name]) = some none := by
    rw [view_put_folder hslot.view_folder hfree, if_pos rfl]
  rw [isFolder_iff, made.here, hslot.place_eq]
  exact ⟨(made.covers.slot hslot).locate (by rw [view]; simp) fun _ => view, view⟩

theorem makeFolders_eq_ok (h : d.makeFolders p = (.ok (), d')) : p.components = [] ∨ d'.isFolder p = true := by
  obtain ⟨outer, houter⟩ := p.ancestors_eq_cons
  rw [makeFolders, houter, makeFolderChain] at h
  split at h
  · next hempty => exact .inl (by simpa using hempty)
  right
  split at h
  · next hmade =>
    cases h
    exact isFolder_of_makeFolder hmade
  · split at h
    · cases h
    split at h
    · next hmade =>
      cases h
      exact isFolder_of_makeFolder hmade
    · obtain ⟨hsettled, rfl⟩ := Prod.mk.inj h
      simpa using hsettled
  · obtain ⟨hsettled, rfl⟩ := Prod.mk.inj h
    simpa using hsettled

theorem makeFolder_of_isFolder (h : d.isFolder p = true) : d.makeFolder p = .error .alreadyThere := by
  obtain ⟨hlocate, hview⟩ := isFolder_iff.mp h
  obtain ⟨entries, hat⟩ := Entry.view_eq_folder.mp hview
  rcases newPlace_of_locate hlocate with hnew | hnew
  · rw [makeFolder, hnew, ok_bind]
    simp [hat]
  · rw [makeFolder, hnew]
    rfl

/-- A folder that is there is not made. -/
theorem makeFolders_of_isFolder (h : p.components = [] ∨ d.isFolder p = true) : d.makeFolders p = (.ok (), d) := by
  obtain ⟨outer, houter⟩ := p.ancestors_eq_cons
  rw [makeFolders, houter, makeFolderChain]
  rcases h with h | h
  · rw [if_pos (by simp [h])]
  · rw [makeFolder_of_isFolder h]
    simp [h]

/-- The folders on the way of a path are there. -/
def Reached (d : Disk) (p : Path) : Prop :=
  ∀ moves, moves <+: p.moves → moves ≠ [] → d.root.view (moves.foldl Move.apply (d.start p)) = some none

theorem reached_of_isFolder (h : p.components = [] ∨ d.isFolder p = true) : d.Reached p := by
  rintro moves ⟨rest, hrest⟩ hne
  rcases h with h | h
  · have empty : p.moves = [] := by rw [Path.moves, Path.text_of_components h]; rfl
    exact absurd (List.append_eq_nil_iff.mp (hrest.trans empty)).1 hne
  · obtain ⟨hlocate, hview⟩ := isFolder_iff.mp h
    have hwalk := (locate_eq_ok.mp hlocate).2
    rw [← hrest, List.append_assoc] at hwalk
    by_cases hlast : rest = []
    · rw [hlast, List.append_nil] at hrest
      rwa [hrest]
    · exact view_of_walkFrom hwalk (by simp [hlast])

/-- All that is missing on the way to a path from a folder that is reached is below that folder. -/
theorem Reached.inside {q r : Path} (h : d.Reached p) (hq : q.From p) (hr : r.OnWay q) :
    d.Inside (p.place d.here) r := by
  obtain ⟨more, hmore, hup⟩ := hq.moves
  have hmoves := hr.moves
  rw [hmore] at hmoves
  rcases hr.start with hstart | hstart
  · exact .inl hstart
  rcases List.prefix_or_prefix_of_prefix hmoves (List.prefix_append p.moves more) with hbefore | ⟨rest, hrest⟩
  · by_cases hne : r.moves = []
    · exact .inl hne
    · right; right
      rw [Path.place, hstart, hq.start]
      exact h r.moves hbefore hne
  · have inward : .up ∉ rest := fun hrestUp => by
      rw [← hrest, List.prefix_append_right_inj] at hmoves
      exact hup (hmoves.subset hrestUp)
    have onward : r.From p := ⟨hstart.trans hq.start, rest, hrest.symm, inward⟩
    exact .inr (.inl (onward.place d.here))

/-- A folder that files can be written in is at a place. -/
structure Ready (d : Disk) (folder : Path) (base : Place) : Prop where
  reached : d.Reached folder
  place : folder.place d.here = base

theorem Covers.ready {folder : Path} (h : e.Covers d) (hd : d.Ready folder base) : e.Ready folder base where
  reached moves hmoves hne := h.start folder ▸ h.folders _ (hd.reached moves hmoves hne)
  place := h.here ▸ hd.place

theorem makeFolders_changes {folder q : Path} (hd : d.Ready folder base) (hq : q.From folder) (hp : p.OnWay q)
    (h : d.makeFolders p = (.ok (), d')) : d.Changes base [] d' :=
  makeFolderChain_changes (fun _ hr => hd.place ▸ hd.reached.inside hq ((Path.onWay_ancestors hr).trans hp)) h

/-! ## Files that are written -/

/-- A file is written at a path. -/
def Stores (d : Disk) (p : Path) (bytes : ByteArray) (d' : Disk) : Prop :=
  ∃ folder name, d.Slot p folder name ∧ p.endsInSlash = false ∧ d.root.view (folder ++ [name]) ≠ some none ∧
    d' = d.put (folder ++ [name]) (.file bytes)

variable {bytes : ByteArray}

theorem write_eq_ok : d.write p bytes = .ok d' ↔ d.Stores p bytes d' := by
  simp only [write, bind_eq_ok, filePlace_eq_ok, pure_eq_ok, Stores]
  constructor
  · rintro ⟨_, ⟨folder, name, hslot, hslash, hview, rfl⟩, rfl⟩
    exact ⟨folder, name, hslot, hslash, hview, rfl⟩
  · rintro ⟨folder, name, hslot, hslash, hview, rfl⟩
    exact ⟨_, ⟨folder, name, hslot, hslash, hview, rfl⟩, rfl⟩

theorem copy_eq_ok {source : Path} (hne : p.place d.here ≠ source.place d.here) :
    d.copy source p = .ok d' ↔ ∃ bytes, d.readBytes source = .ok bytes ∧ d.Stores p bytes d' := by
  simp only [copy, bind_eq_ok, filePlace_eq_ok, pure_eq_ok, Stores]
  constructor
  · rintro ⟨bytes, hbytes, origin, horigin, _, ⟨folder, name, hslot, hslash, hview, rfl⟩, rfl⟩
    rw [hslot.place_eq, ← locate_eq horigin] at hne
    exact ⟨bytes, hbytes, folder, name, hslot, hslash, hview, by rw [if_neg hne]⟩
  · rintro ⟨bytes, hbytes, folder, name, hslot, hslash, hview, rfl⟩
    have horigin := (get_eq_ok.mp (readBytes_eq_ok.mp hbytes)).1
    rw [hslot.place_eq] at hne
    exact ⟨bytes, hbytes, _, horigin, _, ⟨folder, name, hslot, hslash, hview, rfl⟩, by rw [if_neg hne]⟩

theorem Stores.changes (h : d.Stores p bytes d') (hp : base <+: p.place d.here) :
    d.Changes base [(p.place d.here, bytes)] d' := by
  obtain ⟨folder, name, hslot, -, hview, rfl⟩ := h
  rw [hslot.place_eq] at hp ⊢
  exact .file .refl hp hslot.view_folder hslot.plain hview bytes

theorem Stores.locate (h : d.Stores p bytes d') : d'.locate p = .ok (p.place d.here) := by
  have covers := (h.changes List.nil_prefix).covers
  obtain ⟨folder, name, hslot, hslash, hview, rfl⟩ := h
  rw [hslot.place_eq]
  refine (covers.slot hslot).locate ?_ (by simp [hslash])
  rw [view_put_file hslot.view_folder hview, if_pos rfl]
  simp

/-- The file can be written again. -/
theorem Stores.again (h : d.Stores p bytes d') (he : e.Covers d') :
    e.Stores p bytes (e.put (p.place d.here) (.file bytes)) := by
  have covers := he.trans (h.changes List.nil_prefix).covers
  obtain ⟨folder, name, hslot, hslash, hview, rfl⟩ := h
  rw [hslot.place_eq]
  refine ⟨folder, name, covers.slot hslot, hslash, ?_, rfl⟩
  have written : (d.put (folder ++ [name]) (.file bytes)).root.view (folder ++ [name]) = some (some bytes) := by
    rw [view_put_file hslot.view_folder hview, if_pos rfl]
  obtain ⟨old, hold⟩ := he.files _ _ written
  rw [hold]
  simp

/-- A disk with the folders and files of another, and the same beside a place. -/
structure Like (base : Place) (e d : Disk) : Prop extends e.Covers d where
  apart : ∀ {q : Place}, Apart q base → e.root.at? q = d.root.at? q

theorem Like.refl (base : Place) (d : Disk) : Like base d d := ⟨.refl d, fun _ => rfl⟩

theorem Like.trans {a b c : Disk} (hab : Like base a b) (hbc : Like base b c) : Like base a c :=
  ⟨hab.toCovers.trans hbc.toCovers, fun hq => (hab.apart hq).trans (hbc.apart hq)⟩

theorem Changes.like {w : Writes} (h : Changes base d w d') : Like base d' d := ⟨h.covers, h.apart⟩

theorem Like.get {entry : Entry} (h : Like base e d) (hp : Apart (p.place d.here) base) (hd : d.get p = .ok entry) :
    e.get p = .ok entry := by
  obtain ⟨hlocate, hat⟩ := get_eq_ok.mp hd
  rw [get_eq_ok, h.here, h.apart hp]
  exact ⟨h.locate hlocate, hat⟩

end Disk

end StatusFrames.Files
