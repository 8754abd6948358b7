/-
Trees of folders. What a tree holds is seen place by place: nothing, a folder, or a file with its bytes. Putting an entry
that has none of its own changes what is seen at one place only, and well-formed trees that look the same are equal.
-/
import StatusFrames.Files.Disk
import StatusFrames.Proofs.Files.Components
import StatusFrames.Proofs.Steps
import Mathlib.Data.List.Sort
import Mathlib.Data.String.Basic

namespace StatusFrames.Files

/-! ## The entries of one folder -/

section

variable {name : String} {entry : Entry} {entries : List (String × Entry)}

theorem lookup_putEntry_self : (putEntry name entry entries).lookup name = some entry := by
  induction entries with
  | nil => simp [putEntry]
  | cons first rest ih =>
    rw [putEntry]
    split
    · exact List.lookup_cons_self
    · split
      · exact List.lookup_cons_self
      · next hne _ =>
        rw [List.lookup_cons, beq_eq_false_iff_ne.mpr (Ne.symm hne)]
        exact ih

theorem lookup_putEntry_ne {other : String} (h : other ≠ name) :
    (putEntry name entry entries).lookup other = entries.lookup other := by
  have skip : ∀ rest : List (String × Entry), ((name, entry) :: rest).lookup other = rest.lookup other := fun rest => by
    rw [List.lookup_cons, beq_eq_false_iff_ne.mpr h]
  induction entries with
  | nil => exact skip []
  | cons first rest ih =>
    rw [putEntry]
    split
    · next heq => rw [skip, List.lookup_cons, heq, beq_eq_false_iff_ne.mpr h]
    · split
      · exact skip _
      · rw [List.lookup_cons, List.lookup_cons, ih]

theorem lookup_of_mem (hordered : entries.Pairwise (·.1 < ·.1)) (h : (name, entry) ∈ entries) :
    entries.lookup name = some entry :=
  lookup_eq_some (List.pairwise_map.mpr (hordered.imp ne_of_lt)) h

theorem mem_putEntry {x : String × Entry} (h : x ∈ putEntry name entry entries) : x = (name, entry) ∨ x ∈ entries := by
  induction entries with
  | nil => exact .inl (List.mem_singleton.mp h)
  | cons first rest ih =>
    rw [putEntry] at h
    split at h
    · exact (List.mem_cons.mp h).imp_right (List.mem_cons_of_mem _)
    · split at h
      · exact List.mem_cons.mp h
      · rcases List.mem_cons.mp h with rfl | h
        · exact .inr List.mem_cons_self
        · exact (ih h).imp_right (List.mem_cons_of_mem _)

theorem putEntry_ordered (h : entries.Pairwise (·.1 < ·.1)) : (putEntry name entry entries).Pairwise (·.1 < ·.1) := by
  induction entries with
  | nil => exact List.pairwise_singleton _ _
  | cons first rest ih =>
    obtain ⟨hfirst, hrest⟩ := List.pairwise_cons.mp h
    rw [putEntry]
    split
    · next heq => exact List.pairwise_cons.mpr ⟨heq ▸ hfirst, hrest⟩
    · split
      · next hlt =>
        refine List.pairwise_cons.mpr ⟨fun x hx => ?_, h⟩
        rcases List.mem_cons.mp hx with rfl | hx
        · exact hlt
        · exact lt_trans hlt (hfirst x hx)
      · next hne hge =>
        refine List.pairwise_cons.mpr ⟨fun x hx => ?_, ih hrest⟩
        rcases mem_putEntry hx with rfl | hx
        · exact lt_of_le_of_ne (le_of_not_gt hge) hne
        · exact hfirst x hx

end

namespace Entry

/-- The names in a folder are plain and in order, all the way down. -/
inductive WellFormed : Entry → Prop
  | file (bytes : ByteArray) : WellFormed (.file bytes)
  | folder {entries : List (String × Entry)} (ordered : entries.Pairwise (·.1 < ·.1))
      (plain : ∀ x ∈ entries, Path.Plain x.1.toList) (inner : ∀ x ∈ entries, WellFormed x.2) :
      WellFormed (.folder entries)

/-- The bytes of a file. -/
def bytes? : Entry → Option ByteArray
  | .file bytes => some bytes
  | .folder _ => none

/-- What is seen at a place: nothing, a file with its bytes, or a folder. -/
def view (t : Entry) (place : Place) : Option (Option ByteArray) := (t.at? place).map bytes?

theorem at?_folder (entries : List (String × Entry)) (name : String) (rest : Place) :
    (folder entries).at? (name :: rest) = (entries.lookup name).bind (·.at? rest) := by
  rw [at?]
  split <;> next h => rw [h]; rfl

theorem at?_append (t : Entry) (p q : Place) : t.at? (p ++ q) = (t.at? p).bind (·.at? q) := by
  induction p generalizing t with
  | nil => rfl
  | cons name rest ih =>
    cases t with
    | file bytes => rfl
    | folder entries =>
      rw [List.cons_append, at?_folder, at?_folder]
      cases entries.lookup name with
      | none => rfl
      | some e => exact ih e

theorem view_folder (entries : List (String × Entry)) (name : String) (rest : Place) :
    (folder entries).view (name :: rest) = (entries.lookup name).bind (·.view rest) := by
  rw [view, at?_folder]
  cases entries.lookup name <;> rfl

theorem view_eq_folder {t : Entry} {place : Place} :
    t.view place = some none ↔ ∃ entries, t.at? place = some (.folder entries) := by
  rw [view]
  rcases t.at? place with _ | _ | entries <;> simp [bytes?]

theorem view_eq_file {t : Entry} {place : Place} {bytes : ByteArray} :
    t.view place = some (some bytes) ↔ t.at? place = some (.file bytes) := by
  rw [view]
  rcases t.at? place with _ | _ | entries <;> simp [bytes?]

theorem eq_folder_of_view_nil {t : Entry} (h : t.view [] = some none) : ∃ entries, t = .folder entries := by
  obtain ⟨entries, ht⟩ := view_eq_folder.mp h
  exact ⟨entries, Option.some.inj ht⟩

theorem view_concat {t : Entry} {place : Place} {entries : List (String × Entry)}
    (h : t.at? place = some (.folder entries)) (name : String) :
    t.view (place ++ [name]) = (entries.lookup name).map bytes? := by
  rw [view, at?_append, h, Option.bind_some, at?_folder]
  cases entries.lookup name <;> rfl

/-! ## Putting an entry in a folder -/

theorem put_singleton (entries : List (String × Entry)) (name : String) (new : Entry) :
    (folder entries).put [name] new = .folder (putEntry name new entries) := by
  cases h : entries.lookup name <;> simp [put, h]

theorem put_cons {entries : List (String × Entry)} {name : String} {e : Entry} (h : entries.lookup name = some e)
    (rest : Place) (new : Entry) :
    (folder entries).put (name :: rest) new = .folder (putEntry name (e.put rest new) entries) := by
  simp [put, h]

theorem put_missing {entries : List (String × Entry)} {name second : String} (h : entries.lookup name = none)
    (rest : Place) (new : Entry) : (folder entries).put (name :: second :: rest) new = .folder entries := by
  simp [put, h]

/-- Along the way to a folder every name is found. -/
theorem lookup_of_view {entries : List (String × Entry)} {name : String} {rest : Place} {kind : Option ByteArray}
    (h : (folder entries).view (name :: rest) = some kind) :
    ∃ e, entries.lookup name = some e ∧ e.view rest = some kind := by
  rw [view_folder] at h
  exact Option.bind_eq_some_iff.mp h

theorem lookup_of_unseen {entries : List (String × Entry)} {name : String} (h : (folder entries).view [name] = none) :
    entries.lookup name = none := by
  rw [view_folder] at h
  cases he : entries.lookup name with
  | none => rfl
  | some e => cases he ▸ h

theorem view_put {t new : Entry} {place : Place} {name : String} (hplace : t.view place = some none)
    (hold : t.view (place ++ [name]) ≠ some none) (hnew : ∀ rest, rest ≠ [] → new.at? rest = none) (q : Place) :
    (t.put (place ++ [name]) new).view q = if q = place ++ [name] then some new.bytes? else t.view q := by
  induction place generalizing t q with
  | nil =>
    obtain ⟨entries, rfl⟩ := eq_folder_of_view_nil hplace
    rw [List.nil_append, put_singleton]
    cases q with
    | nil => rfl
    | cons first rest =>
      rw [view_folder, view_folder]
      by_cases hname : first = name
      · subst hname
        rw [lookup_putEntry_self]
        cases rest with
        | nil => rw [if_pos rfl]; rfl
        | cons second more =>
          -- there was nothing below the name, nor is there anything now
          rw [if_neg (by simp), Option.bind_some, view, hnew _ (List.cons_ne_nil _ _)]
          rw [List.nil_append, view_folder] at hold
          rcases hold' : entries.lookup first with _ | _ | inner
          · rfl
          · rfl
          · exact absurd (by rw [hold']; rfl) hold
      · rw [lookup_putEntry_ne hname, if_neg (by simp [hname])]
  | cons first more ih =>
    obtain ⟨entries, rfl⟩ := eq_folder_of_view_nil (t := t) (by cases t with | file _ => cases hplace | folder _ => rfl)
    obtain ⟨e, he, hmore⟩ := lookup_of_view hplace
    rw [List.cons_append, put_cons he]
    cases q with
    | nil => rfl
    | cons head rest =>
      rw [view_folder, view_folder]
      by_cases hname : head = first
      · subst hname
        have inner : e.view (more ++ [name]) ≠ some none := by
          rw [List.cons_append, view_folder, he] at hold
          exact hold
        rw [lookup_putEntry_self, Option.bind_some, ih hmore inner, he, Option.bind_some]
        simp
      · rw [lookup_putEntry_ne hname, if_neg (by simp [hname])]

theorem at?_put_apart {t new : Entry} {p q : Place} (hp : ¬p <+: q) (hq : ¬q <+: p) : (t.put p new).at? q = t.at? q := by
  induction p generalizing t q with
  | nil => exact absurd List.nil_prefix hp
  | cons name rest ih =>
    cases q with
    | nil => exact absurd List.nil_prefix hq
    | cons first more =>
      cases t with
      | file bytes => rfl
      | folder entries =>
        by_cases hname : first = name
        · subst hname
          have hp' : ¬rest <+: more := fun h => hp (List.cons_prefix_cons.mpr ⟨rfl, h⟩)
          have hq' : ¬more <+: rest := fun h => hq (List.cons_prefix_cons.mpr ⟨rfl, h⟩)
          cases he : entries.lookup first with
          | some e => rw [put_cons he, at?_folder, at?_folder, lookup_putEntry_self, he, Option.bind_some, ih hp' hq',
              Option.bind_some]
          | none =>
            cases rest with
            | nil => exact absurd List.nil_prefix hp'
            | cons second others => rw [put_missing he]
        · cases he : entries.lookup name with
          | some e => rw [put_cons he, at?_folder, at?_folder, lookup_putEntry_ne hname]
          | none =>
            cases rest with
            | nil => rw [put_singleton, at?_folder, at?_folder, lookup_putEntry_ne hname]
            | cons second others => rw [put_missing he]

theorem WellFormed.put {t new : Entry} {place : Place} {name : String} (h : t.WellFormed)
    (hplace : t.view place = some none) (hname : Path.Plain name.toList) (hnew : new.WellFormed) :
    (t.put (place ++ [name]) new).WellFormed := by
  induction place generalizing t with
  | nil =>
    obtain ⟨entries, rfl⟩ := eq_folder_of_view_nil hplace
    cases h with
    | folder ordered plain inner =>
      rw [List.nil_append, put_singleton]
      refine .folder (putEntry_ordered ordered) (fun x hx => ?_) fun x hx => ?_
      · rcases mem_putEntry hx with rfl | hx
        · exact hname
        · exact plain x hx
      · rcases mem_putEntry hx with rfl | hx
        · exact hnew
        · exact inner x hx
  | cons first more ih =>
    cases h with
    | file bytes => cases hplace
    | folder ordered plain inner =>
      obtain ⟨e, he, hmore⟩ := lookup_of_view hplace
      have found := mem_of_lookup he
      rw [List.cons_append, put_cons he]
      refine .folder (putEntry_ordered ordered) (fun x hx => ?_) fun x hx => ?_
      · rcases mem_putEntry hx with rfl | hx
        · exact plain (first, e) found
        · exact plain x hx
      · rcases mem_putEntry hx with rfl | hx
        · exact ih (inner _ found) hmore
        · exact inner x hx

theorem WellFormed.entryAt {t e : Entry} {place : Place} (h : t.WellFormed) (he : t.at? place = some e) :
    e.WellFormed := by
  induction place generalizing t with
  | nil => exact Option.some.inj he ▸ h
  | cons name rest ih =>
    cases h with
    | file bytes => cases he
    | folder ordered plain inner =>
      rw [at?_folder] at he
      obtain ⟨child, hchild, hrest⟩ := Option.bind_eq_some_iff.mp he
      exact ih (inner _ (mem_of_lookup hchild)) hrest

/-- A folder is known by what is seen in it. -/
theorem WellFormed.ext {t u : Entry} (ht : t.WellFormed) (hu : u.WellFormed) (h : ∀ place, t.view place = u.view place) :
    t = u := by
  induction ht generalizing u with
  | file bytes => exact (Option.some.inj (view_eq_file.mp (h []).symm)).symm
  | folder ordered plain inner ih =>
    cases hu with
    | file bytes => cases h []
    | folder ordered' plain' inner' =>
      rename_i entries others
      have lookups : ∀ name, (∃ e, entries.lookup name = some e) ↔ ∃ e, others.lookup name = some e := fun name => by
        have here := congrArg Option.isSome (h [name])
        rw [view, view, Option.isSome_map, Option.isSome_map, at?_folder, at?_folder] at here
        rw [← Option.isSome_iff_exists, ← Option.isSome_iff_exists]
        cases he : entries.lookup name <;> cases he' : others.lookup name <;> simp [he, he', at?] at here ⊢
      have same : ∀ name e e', entries.lookup name = some e → others.lookup name = some e' → e = e' := by
        intro name e e' he he'
        refine ih _ (mem_of_lookup he) (inner' _ (mem_of_lookup he')) fun place => ?_
        have below := h (name :: place)
        rwa [view_folder, view_folder, he, he'] at below
      have members : ∀ x, x ∈ entries ↔ x ∈ others := by
        rintro ⟨name, e⟩
        constructor
        · intro hx
          have he := lookup_of_mem ordered hx
          obtain ⟨e', he'⟩ := (lookups name).mp ⟨e, he⟩
          exact same name e e' he he' ▸ mem_of_lookup he'
        · intro hx
          have he' := lookup_of_mem ordered' hx
          obtain ⟨e', he⟩ := (lookups name).mpr ⟨e, he'⟩
          exact same name e' e he he' ▸ mem_of_lookup he
      have nodup : ∀ {xs : List (String × Entry)}, xs.Pairwise (·.1 < ·.1) → xs.Nodup := fun hxs =>
        List.Pairwise.imp (fun {a b} hlt (heq : a = b) => absurd hlt (heq ▸ lt_irrefl a.1)) hxs
      have perm := (List.perm_ext_iff_of_nodup (nodup ordered) (nodup ordered')).mpr members
      have antisymmetric : ∀ a b : String × Entry, a ∈ entries → b ∈ others → a.1 < b.1 → b.1 < a.1 → a = b :=
        fun _ _ _ _ hab hba => absurd hab (lt_asymm hba)
      rw [perm.eq_of_pairwise antisymmetric ordered ordered']

/-! ## The files of a tree -/

theorem size_pos (t : Entry) : 0 < t.size := by
  cases t <;> simp [size]

theorem size_le_sizeOfAll {entries : List (String × Entry)} {x : String × Entry} (h : x ∈ entries) :
    x.2.size ≤ sizeOfAll entries := by
  induction entries with
  | nil => cases h
  | cons first rest ih =>
    rw [sizeOfAll]
    rcases List.mem_cons.mp h with rfl | h
    · exact Nat.le_add_right _ _
    · exact (ih h).trans (Nat.le_add_left _ _)

theorem size_lt_folder {entries : List (String × Entry)} {x : String × Entry} (h : x ∈ entries) :
    x.2.size < (folder entries).size := by
  have inner := size_le_sizeOfAll h
  rw [size]
  omega

theorem size_at? {t e : Entry} {place : Place} (h : t.at? place = some e) : e.size ≤ t.size := by
  induction place generalizing t with
  | nil => exact (congrArg size (Option.some.inj h)).ge
  | cons name rest ih =>
    cases t with
    | file bytes => cases h
    | folder entries =>
      rw [at?_folder] at h
      obtain ⟨inner, hinner, hrest⟩ := Option.bind_eq_some_iff.mp h
      exact (ih hrest).trans (size_lt_folder (mem_of_lookup hinner)).le

theorem mem_filesOf {entries : List (String × Entry)} {place : Place} {y : Place × ByteArray} :
    y ∈ filesOf place entries ↔ ∃ x ∈ entries, y ∈ x.2.files (place ++ [x.1]) := by
  induction entries with
  | nil => simp [filesOf]
  | cons first rest ih => simp [filesOf, ih]

theorem WellFormed.mem_files {t : Entry} (h : t.WellFormed) {place : Place} {y : Place × ByteArray}
    (hy : y ∈ t.files place) :
    ∃ rel, y.1 = place ++ rel ∧ t.at? rel = some (.file y.2) ∧ ∀ name ∈ rel, Path.Plain name.toList := by
  induction h generalizing place with
  | file bytes =>
    obtain rfl := List.mem_singleton.mp hy
    exact ⟨[], (List.append_nil _).symm, rfl, nofun⟩
  | folder ordered plain inner ih =>
    obtain ⟨⟨name, e⟩, hx, hy⟩ := mem_filesOf.mp hy
    obtain ⟨rel, hrel, hat, hplain⟩ := ih _ hx hy
    refine ⟨name :: rel, by rw [hrel, List.append_assoc]; rfl, ?_, List.forall_mem_cons.mpr ⟨plain _ hx, hplain⟩⟩
    rw [at?_folder, lookup_of_mem ordered hx]
    exact hat

/-- The files below a place, seen from there. -/
def filesAt (t : Entry) (place : Place) : List (Place × ByteArray) :=
  match t.at? place with
  | some e => e.files []
  | none => []

theorem WellFormed.mem_filesAt {t : Entry} (h : t.WellFormed) {place : Place} {y : Place × ByteArray}
    (hy : y ∈ t.filesAt place) : t.at? (place ++ y.1) = some (.file y.2) ∧ ∀ name ∈ y.1, Path.Plain name.toList := by
  rw [filesAt] at hy
  split at hy
  · next e he =>
    obtain ⟨rel, hrel, hat, hplain⟩ := (h.entryAt he).mem_files hy
    rw [List.nil_append] at hrel
    rw [hrel, at?_append, he]
    exact ⟨hat, hplain⟩
  · cases hy

theorem filesAt_folder (entries : List (String × Entry)) (name : String) (rest : Place) :
    (folder entries).filesAt (name :: rest) = ((entries.lookup name).map (·.filesAt rest)).getD [] := by
  rw [filesAt, at?_folder]
  cases entries.lookup name <;> rfl

/-- A new folder brings no files. -/
theorem filesOf_putEntry_new {entries : List (String × Entry)} {name : String} (h : entries.lookup name = none)
    (place : Place) : filesOf place (putEntry name (.folder []) entries) = filesOf place entries := by
  induction entries with
  | nil => rfl
  | cons first rest ih =>
    obtain ⟨hfirst, hrest⟩ := List.forall_mem_cons.mp (List.lookup_eq_none_iff.mp h)
    rw [putEntry, if_neg (Ne.symm (bne_iff_ne.mp hfirst))]
    split
    · rfl
    · rw [filesOf, filesOf, ih (List.lookup_eq_none_iff.mpr hrest)]

theorem filesOf_putEntry {entries : List (String × Entry)} {name : String} {e new : Entry}
    (hordered : entries.Pairwise (·.1 < ·.1)) (h : entries.lookup name = some e) {place : Place}
    (hfiles : new.files (place ++ [name]) = e.files (place ++ [name])) :
    filesOf place (putEntry name new entries) = filesOf place entries := by
  induction entries with
  | nil => cases h
  | cons first rest ih =>
    obtain ⟨hfirst, hrest⟩ := List.pairwise_cons.mp hordered
    by_cases hname : first.1 = name
    · subst hname
      rw [List.lookup_cons_self] at h
      obtain rfl := Option.some.inj h
      rw [putEntry, if_pos rfl, filesOf, filesOf, hfiles]
    · rw [List.lookup_cons, beq_eq_false_iff_ne.mpr (Ne.symm hname)] at h
      have behind : ¬name < first.1 := lt_asymm (hfirst _ (mem_of_lookup h))
      rw [putEntry, if_neg hname, if_neg behind, filesOf, filesOf, ih hrest h]

theorem WellFormed.files_put_folder {t : Entry} {place : Place} {name : String} (h : t.WellFormed)
    (hplace : t.view place = some none) (hnew : t.view (place ++ [name]) = none) (q : Place) :
    (t.put (place ++ [name]) (.folder [])).files q = t.files q := by
  induction place generalizing t q with
  | nil =>
    obtain ⟨entries, rfl⟩ := eq_folder_of_view_nil hplace
    rw [List.nil_append, put_singleton, files, files, filesOf_putEntry_new (lookup_of_unseen hnew)]
  | cons first more ih =>
    cases h with
    | file bytes => cases hplace
    | folder ordered plain inner =>
      obtain ⟨e, he, hmore⟩ := lookup_of_view hplace
      rw [List.cons_append, view_folder, he] at hnew
      rw [List.cons_append, put_cons he, files, files]
      exact filesOf_putEntry ordered he (ih (inner _ (mem_of_lookup he)) hmore hnew _)

theorem WellFormed.filesAt_put_folder {t : Entry} {place : Place} {name : String} (h : t.WellFormed)
    (hplace : t.view place = some none) (hnew : t.view (place ++ [name]) = none) (q : Place) :
    (t.put (place ++ [name]) (.folder [])).filesAt q = t.filesAt q := by
  induction q generalizing t place with
  | nil => exact h.files_put_folder hplace hnew []
  | cons first rest ih =>
    cases h with
    | file bytes => cases place <;> cases hplace
    | folder ordered plain inner =>
      cases place with
      | nil =>
        rw [List.nil_append, put_singleton, filesAt_folder, filesAt_folder]
        by_cases hname : first = name
        · subst hname
          rw [lookup_putEntry_self, lookup_of_unseen hnew]
          cases rest <;> rfl
        · rw [lookup_putEntry_ne hname]
      | cons second more =>
        obtain ⟨e, he, hmore⟩ := lookup_of_view hplace
        rw [List.cons_append, view_folder, he] at hnew
        rw [List.cons_append, put_cons he, filesAt_folder, filesAt_folder]
        by_cases hname : first = second
        · subst hname
          rw [lookup_putEntry_self, he, Option.map_some, Option.map_some, ih (inner _ (mem_of_lookup he)) hmore hnew]
        · rw [lookup_putEntry_ne hname]

end Entry

end StatusFrames.Files
