/-
Where paths lead. The place that a path leads to follows from its steps, whatever is on the disk; whether it can be
reached depends on the folders on the way, so what is reached on one disk is reached on every disk that has at least these
folders and files.
-/
import StatusFrames.Proofs.Files.Tree

namespace StatusFrames.Files

namespace Move

/-- The place after a step. -/
def apply (place : Place) : Move → Place
  | .stay => place
  | .up => place.dropLast
  | .down name => place ++ [name]

def name? : Move → Option String
  | .down name => some name
  | _ => none

/-- Steps that never go up lead further in. -/
theorem foldl_apply {moves : List Move} (h : .up ∉ moves) (place : Place) :
    moves.foldl apply place = place ++ moves.filterMap name? := by
  induction moves generalizing place with
  | nil => simp
  | cons move rest ih =>
    obtain ⟨hmove, hrest⟩ := List.forall_mem_cons.mp (List.forall_mem_ne'.mpr h)
    rw [List.foldl_cons, ih (List.forall_mem_ne'.mp hrest)]
    cases move with
    | stay => rfl
    | up => exact absurd rfl hmove
    | down name => simp [apply, name?]

end Move

namespace Path

/-! ## The steps of a path -/

theorem mem_pieces {cs piece : List Char} {offset : Nat} {x : List Char × Nat} (h : x ∈ pieces cs piece offset)
    (hpiece : '/' ∉ piece) : '/' ∉ x.1 ∧ ∃ front back, cs = front ++ back ∧ x.2 = offset + front.length ∧
      (back = [] ∨ ∃ rest, back = '/' :: rest) := by
  induction cs generalizing piece offset with
  | nil =>
    obtain rfl := List.mem_singleton.mp h
    exact ⟨by simpa using hpiece, [], [], rfl, rfl, .inl rfl⟩
  | cons c rest ih =>
    rw [pieces] at h
    split at h
    next hc =>
      rcases List.mem_cons.mp h with rfl | h
      · exact ⟨by simpa using hpiece, [], c :: rest, rfl, rfl, .inr ⟨rest, hc ▸ rfl⟩⟩
      · obtain ⟨hslash, front, back, hcs, hoffset, hback⟩ := ih h (List.not_mem_nil)
        exact ⟨hslash, c :: front, back, hcs ▸ rfl, by rw [hoffset, List.length_cons]; omega, hback⟩
    next hc =>
      obtain ⟨hslash, front, back, hcs, hoffset, hback⟩ := ih h (by simpa [Ne.symm hc] using hpiece)
      exact ⟨hslash, c :: front, back, hcs ▸ rfl, by rw [hoffset, List.length_cons]; omega, hback⟩

/-- The steps that are spelled by some characters. -/
def movesOf (cs : List Char) : List Move := ((cs.splitOn '/').filter (· ≠ [])).map Move.ofPiece

theorem moves_eq (p : Path) : p.moves = movesOf p.text.toList := by
  have same : (pieces p.text.toList [] 0).map (·.1) = p.text.toList.splitOn '/' := by
    rw [pieces_eq_splitOn]
    cases p.text.toList.splitOn '/' <;> rfl
  rw [moves, same, movesOf]

theorem movesOf_slash (front back : List Char) : movesOf (front ++ '/' :: back) = movesOf front ++ movesOf back := by
  have split : (front ++ '/' :: back).splitOn '/' = front.splitOn '/' ++ back.splitOn '/' :=
    List.splitOnP_append_cons front back (beq_self_eq_true '/')
  rw [movesOf, split, List.filter_append, List.map_append]
  rfl

/-- A step down is to a plain name. -/
theorem plain_of_down {p : Path} {name : String} (h : .down name ∈ p.moves) : Plain name.toList := by
  obtain ⟨piece, hpiece, hname⟩ := List.mem_map.mp h
  obtain ⟨hmem, hne⟩ := List.mem_filter.mp hpiece
  obtain ⟨x, hx, rfl⟩ := List.mem_map.mp hmem
  have hslash := (mem_pieces hx List.not_mem_nil).1
  unfold Move.ofPiece at hname
  split at hname
  · cases hname
  · cases hname
  · next hhere hup =>
    obtain rfl := Move.down.inj hname
    rw [String.toList_ofList]
    exact ⟨by simpa using hne, hslash, hhere, hup⟩

theorem moves_intercalate {names : List String} (h : ∀ name ∈ names, Plain name.toList) :
    (Path.mk ("/".intercalate names)).moves = names.map .down := by
  cases names with
  | nil => rfl
  | cons first rest =>
    have pieces : ("/".intercalate (first :: rest)).toList.splitOn '/' = (first :: rest).map String.toList := by
      rw [String.toList_intercalate]
      refine List.splitOn_intercalate '/' ?_ (by simp)
      simpa using ⟨(h first (by simp)).noSlash, fun name hname => (h name (by simp [hname])).noSlash⟩
    have down : ∀ name ∈ first :: rest, Move.ofPiece name.toList = .down name := fun name hname => by
      unfold Move.ofPiece
      split
      · next heq => exact absurd heq (h name hname).notHere
      · next heq => exact absurd heq (h name hname).notUp
      · rw [String.ofList_toList]
    have kept : ∀ piece ∈ (first :: rest).map String.toList, decide (piece ≠ []) = true := by
      refine List.forall_mem_map.mpr fun name hname => ?_
      simpa using (h name hname).occupied
    rw [moves_eq, movesOf, pieces, List.filter_eq_self.mpr kept, List.map_map]
    exact List.map_congr_left down

theorem isAbsolute_intercalate {names : List String} (h : ∀ name ∈ names, Plain name.toList) :
    (Path.mk ("/".intercalate names)).isAbsolute = false := by
  cases names with
  | nil => rfl
  | cons first rest =>
    have hfirst := h first List.mem_cons_self
    obtain ⟨c, more, hc⟩ := List.exists_cons_of_ne_nil hfirst.occupied
    have hne : c ≠ '/' := fun heq => hfirst.noSlash (by simp [hc, heq])
    have head : ("/".intercalate (first :: rest)).toList.head? = some c := by
      cases rest <;> simp [String.intercalate_cons_cons, hc]
    rw [isAbsolute, head]
    simpa using hne

theorem moves_join {p q : Path} (h : q.isAbsolute = false) : (p.join q).moves = p.moves ++ q.moves := by
  rw [join, h, if_neg Bool.false_ne_true, moves_eq p, moves_eq q]
  split
  · next hnone =>
    rw [List.getLast?_eq_none_iff.mp hnone, moves_eq]
    rfl
  · next hslash =>
    obtain ⟨front, hfront⟩ := List.getLast?_eq_some_iff.mp hslash
    rw [moves_eq, String.toList_append, hfront, List.append_assoc, List.singleton_append, movesOf_slash, movesOf_slash]
    exact congrArg (· ++ _) (List.append_nil _).symm
  · rw [moves_eq, String.toList_append, String.toList_append, List.append_assoc]
    exact movesOf_slash _ _

theorem isAbsolute_join {p q : Path} (h : q.isAbsolute = false) : (p.join q).isAbsolute = p.isAbsolute := by
  rw [join, h, if_neg Bool.false_ne_true]
  split
  · next hnone =>
    rw [h, isAbsolute, List.getLast?_eq_none_iff.mp hnone]
    rfl
  all_goals
    next hsome =>
    rw [isAbsolute, isAbsolute]
    cases hp : p.text.toList with
    | nil => rw [hp] at hsome; cases hsome
    | cons c rest => simp [hp]

/-- The place that a path leads to. -/
def place (p : Path) (here : Place) : Place := p.moves.foldl Move.apply (if p.isAbsolute then [] else here)

theorem place_join {p q : Path} (h : q.isAbsolute = false) (here : Place) :
    (p.join q).place here = q.moves.foldl Move.apply (p.place here) := by
  rw [place, moves_join h, isAbsolute_join h, List.foldl_append]
  rfl

/-- A relative path that never goes up. -/
structure Inward (p : Path) : Prop where
  relative : p.isAbsolute = false
  noUp : .up ∉ p.moves

/-- The names that an inward path goes down. -/
def names (p : Path) : Place := p.moves.filterMap Move.name?

theorem Inward.place_join {p q : Path} (h : q.Inward) (here : Place) :
    (p.join q).place here = p.place here ++ q.names := by
  rw [Path.place_join h.relative, Move.foldl_apply h.noUp]
  rfl

theorem Inward.join {p q : Path} (hp : p.Inward) (hq : q.Inward) : (p.join q).Inward where
  relative := by rw [isAbsolute_join hq.relative, hp.relative]
  noUp := by
    rw [moves_join hq.relative, List.mem_append, not_or]
    exact ⟨hp.noUp, hq.noUp⟩

theorem inward_intercalate {names : List String} (h : ∀ name ∈ names, Plain name.toList) :
    (Path.mk ("/".intercalate names)).Inward where
  relative := isAbsolute_intercalate h
  noUp := by rw [moves_intercalate h]; simp

theorem names_intercalate {names : List String} (h : ∀ name ∈ names, Plain name.toList) :
    (Path.mk ("/".intercalate names)).names = names := by
  rw [Path.names, moves_intercalate h, List.filterMap_map]
  exact List.filterMap_some

/-- Where all components are names, the steps are those down these names, with some that stay. -/
theorem moves_of_components {parts : List (List Char)} {names : List String}
    (h : (parts.filter fun piece => piece ≠ [] ∧ piece ≠ ['.']).map componentOf = names.map .name) :
    .up ∉ (parts.filter (· ≠ [])).map Move.ofPiece ∧
      ((parts.filter (· ≠ [])).map Move.ofPiece).filterMap Move.name? = names := by
  induction parts generalizing names with
  | nil => simpa using h
  | cons piece rest ih =>
    by_cases hempty : piece = []
    · subst hempty
      exact ih h
    by_cases hhere : piece = ['.']
    · subst hhere
      obtain ⟨hup, hnames⟩ := ih h
      exact ⟨by simpa [Move.ofPiece] using hup, hnames⟩
    rw [List.filter_cons_of_pos (by simpa using ⟨hempty, hhere⟩), List.map_cons] at h
    rw [List.filter_cons_of_pos (by simpa using hempty), List.map_cons, List.mem_cons, not_or]
    cases names with
    | nil => cases h
    | cons name others =>
      obtain ⟨hname, hrest⟩ := List.cons.inj h
      obtain ⟨hup, hnames⟩ := ih hrest
      have down : Move.ofPiece piece = .down name := by
        unfold componentOf at hname
        unfold Move.ofPiece
        split at hname
        · cases hname
        · next hne =>
          split
          · exact absurd rfl hhere
          · exact absurd rfl hne
          · rw [Component.name.inj hname]
      rw [down]
      exact ⟨⟨nofun, hup⟩, by rw [List.filterMap_cons, hnames]; rfl⟩

/-- A path of which all components are names is inward, and goes down these names. -/
theorem inward_of_components {p : Path} {names : List String} (h : p.components = names.map .name) :
    p.Inward ∧ p.names = names := by
  have others : ∀ c ∈ p.components, c ≠ .root ∧ c ≠ .here := by
    rw [h]
    exact List.forall_mem_map.mpr fun _ _ => ⟨nofun, nofun⟩
  have parts : p.isAbsolute = false ∧ p.components =
      (((pieces p.text.toList [] 0).map (·.1)).filter fun piece => piece ≠ [] ∧ piece ≠ ['.']).map componentOf := by
    rw [components, spans] at others
    rw [components, spans]
    split at others
    · exact absurd rfl (others .root (by simp)).1
    · exact absurd rfl (others .here (by simp)).2
    · next hslash _ =>
      refine ⟨?_, by rw [List.nil_append, List.map_map, List.filter_map, List.map_map]; rfl⟩
      rw [isAbsolute]
      cases hcs : p.text.toList with
      | nil => rfl
      | cons c rest => simpa using fun hc : c = '/' => hslash rest (hc ▸ hcs)
  rw [h] at parts
  obtain ⟨hup, hnames⟩ := moves_of_components parts.2.symm
  exact ⟨⟨parts.1, hup⟩, hnames⟩

theorem pieces_eq_cons (cs piece : List Char) (offset : Nat) :
    ∃ more last rest, pieces cs piece offset = (piece.reverse ++ more, last) :: rest := by
  induction cs generalizing piece offset with
  | nil => exact ⟨[], offset, [], by simp [pieces]⟩
  | cons c tail ih =>
    rw [pieces]
    split
    · exact ⟨[], offset, pieces tail [] (offset + 1), by simp⟩
    · obtain ⟨more, last, rest, h⟩ := ih (c :: piece) (offset + 1)
      exact ⟨c :: more, last, rest, by simp [h]⟩

/-- Only the empty path has no components. -/
theorem text_of_components {p : Path} (h : p.components = []) : p.text = "" := by
  cases hcs : p.text.toList with
  | nil => exact String.toList_inj.mp hcs
  | cons c rest =>
    by_cases hc : c = '/'
    · simp [components, spans, hcs, hc] at h
    · obtain ⟨more, last, others, hpieces⟩ := pieces_eq_cons rest [c] 1
      have first : pieces (c :: rest) [] 0 = (c :: more, last) :: others := by rw [pieces, if_neg hc, hpieces]; rfl
      by_cases hdot : c :: more = ['.']
      · obtain ⟨rfl, rfl⟩ := List.cons.inj hdot
        simp [components, spans, hcs, first] at h
      · simp [components, spans, hcs, first, hdot] at h

/-! ## Paths that are cut off -/

/-- A path is cut at its front slash or at the end of a piece. -/
theorem offset_of_mem_spans {p : Path} {c : Component} {offset : Nat} (h : (c, offset) ∈ p.spans) :
    (p.isAbsolute = true ∧ offset = 1) ∨ ∃ piece, (piece, offset) ∈ pieces p.text.toList [] 0 := by
  rw [spans] at h
  rcases List.mem_append.mp h with h | h
  · split at h
    · next hcs =>
      obtain ⟨-, rfl⟩ := Prod.mk.inj (List.mem_singleton.mp h)
      exact .inl ⟨by rw [isAbsolute, hcs]; rfl, rfl⟩
    · next hall _ =>
      obtain ⟨-, rfl⟩ := Prod.mk.inj (List.mem_singleton.mp h)
      exact .inr ⟨_, hall ▸ List.mem_cons_self⟩
    · cases h
  · obtain ⟨y, hy, heq⟩ := List.mem_map.mp h
    obtain ⟨-, rfl⟩ := Prod.mk.inj heq
    exact .inr ⟨y.1, (List.mem_filter.mp hy).1⟩

theorem moves_take {p : Path} {c : Component} {offset : Nat} (h : (c, offset) ∈ p.spans) :
    (Path.mk (String.ofList (p.text.toList.take offset))).moves <+: p.moves := by
  rw [moves_eq, moves_eq, String.toList_ofList]
  rcases offset_of_mem_spans h with ⟨habsolute, rfl⟩ | ⟨piece, hpiece⟩
  · cases hcs : p.text.toList with
    | nil => exact List.prefix_refl _
    | cons first rest =>
      rw [isAbsolute, hcs] at habsolute
      obtain rfl : first = '/' := by simpa using habsolute
      exact List.nil_prefix
  · obtain ⟨-, front, back, hcs, hoffset, hback⟩ := mem_pieces hpiece List.not_mem_nil
    obtain rfl : offset = front.length := by simpa using hoffset
    rw [hcs, List.take_left]
    rcases hback with rfl | ⟨rest, rfl⟩
    · simp
    · rw [movesOf_slash]
      exact List.prefix_append _ _

theorem isAbsolute_take (p : Path) (offset : Nat) :
    (Path.mk (String.ofList (p.text.toList.take offset))).moves = [] ∨
      (Path.mk (String.ofList (p.text.toList.take offset))).isAbsolute = p.isAbsolute := by
  cases offset with
  | zero => exact .inl rfl
  | succ n =>
    right
    rw [isAbsolute, isAbsolute, String.toList_ofList]
    cases p.text.toList <;> rfl

/-- A path that goes on inward from another. -/
structure From (q p : Path) : Prop where
  start : q.isAbsolute = p.isAbsolute
  moves : ∃ rest, q.moves = p.moves ++ rest ∧ .up ∉ rest

theorem Inward.from_join {p q : Path} (h : q.Inward) : (p.join q).From p :=
  ⟨isAbsolute_join h.relative, q.moves, moves_join h.relative, h.noUp⟩

theorem From.trans {r q p : Path} (hr : r.From q) (hq : q.From p) : r.From p where
  start := hr.start.trans hq.start
  moves := by
    obtain ⟨last, hlast, hlastUp⟩ := hr.moves
    obtain ⟨first, hfirst, hfirstUp⟩ := hq.moves
    refine ⟨first ++ last, by rw [hlast, hfirst, List.append_assoc], ?_⟩
    rw [List.mem_append, not_or]
    exact ⟨hfirstUp, hlastUp⟩

theorem From.place {q p : Path} (h : q.From p) (here : Place) : p.place here <+: q.place here := by
  obtain ⟨rest, hrest, hup⟩ := h.moves
  rw [Path.place, Path.place, hrest, h.start, List.foldl_append, Move.foldl_apply hup]
  exact List.prefix_append _ _

/-- A path on the way to another. -/
structure OnWay (q p : Path) : Prop where
  moves : q.moves <+: p.moves
  start : q.moves = [] ∨ q.isAbsolute = p.isAbsolute

theorem OnWay.refl (p : Path) : p.OnWay p := ⟨List.prefix_refl _, .inr rfl⟩

theorem onWay_empty (p : Path) : (Path.mk "").OnWay p := ⟨List.nil_prefix, .inl rfl⟩

theorem onWay_take {p : Path} {c : Component} {offset : Nat} (h : (c, offset) ∈ p.spans) :
    (Path.mk (String.ofList (p.text.toList.take offset))).OnWay p :=
  ⟨moves_take h, isAbsolute_take p offset⟩

theorem OnWay.trans {r q p : Path} (hr : r.OnWay q) (hq : q.OnWay p) : r.OnWay p where
  moves := hr.moves.trans hq.moves
  start := by
    rcases hr.start with hr' | hr'
    · exact .inl hr'
    · rcases hq.start with hq' | hq'
      · exact .inl (List.prefix_nil.mp (hq' ▸ hr.moves))
      · exact .inr (hr'.trans hq')

theorem ancestors_eq_cons (p : Path) : ∃ outer, p.ancestors = p :: outer := by
  rw [ancestors]
  split
  · exact ⟨_, rfl⟩
  · split <;> exact ⟨_, rfl⟩

theorem onWay_ancestors {p q : Path} (h : q ∈ p.ancestors) : q.OnWay p := by
  have inner : ∀ q ∈ (p.spans.reverse.drop 1).map fun x => Path.mk (String.ofList (p.text.toList.take x.2)),
      q.OnWay p := by
    refine List.forall_mem_map.mpr fun ⟨c, offset⟩ hx => onWay_take (c := c) ?_
    exact List.mem_reverse.mp (List.mem_of_mem_drop hx)
  rw [ancestors] at h
  split at h
  · exact List.mem_singleton.mp h ▸ .refl p
  · split at h
    · exact List.forall_mem_cons.mpr ⟨.refl p, inner⟩ q h
    · rcases List.mem_append.mp h with h | h
      · exact List.forall_mem_cons.mpr ⟨.refl p, inner⟩ q h
      · exact List.mem_singleton.mp h ▸ onWay_empty p

theorem onWay_parent {p q : Path} (h : p.parent? = some q) : q.OnWay p := by
  rw [parent?] at h
  split at h
  · cases h
  · cases h
  · exact Option.some.inj h ▸ onWay_empty p
  · next c offset _ heq =>
    obtain rfl := Option.some.inj h
    refine onWay_take (c := c) (List.mem_reverse.mp ?_)
    rw [heq]
    exact List.mem_cons_of_mem _ List.mem_cons_self

end Path

/-! ## Walking -/

/-- A disk with the folders and files of another. The files may have other bytes. -/
structure Disk.Covers (e d : Disk) : Prop where
  here : e.here = d.here
  folders : ∀ place, d.root.view place = some none → e.root.view place = some none
  files : ∀ place bytes, d.root.view place = some (some bytes) → ∃ new, e.root.view place = some (some new)

theorem Disk.Covers.refl (d : Disk) : d.Covers d := ⟨rfl, fun _ h => h, fun _ bytes h => ⟨bytes, h⟩⟩

theorem Disk.Covers.trans {a b c : Disk} (hab : a.Covers b) (hbc : b.Covers c) : a.Covers c where
  here := hab.here.trans hbc.here
  folders place h := hab.folders place (hbc.folders place h)
  files place bytes h := by
    obtain ⟨new, hnew⟩ := hbc.files place bytes h
    exact hab.files place new hnew

theorem Disk.Covers.occupied {e d : Disk} (h : e.Covers d) {place : Place} (hd : d.root.view place ≠ none) :
    e.root.view place ≠ none := by
  rcases hview : d.root.view place with _ | _ | bytes
  · exact absurd hview hd
  · rw [h.folders place hview]
    exact Option.some_ne_none _
  · obtain ⟨new, hnew⟩ := h.files place bytes hview
    rw [hnew]
    exact Option.some_ne_none _

namespace Disk

variable {d e : Disk} {p : Path} {place q : Place}

/-- A step can be taken in a folder, down to an entry of it. -/
theorem walkFrom_cons_eq_ok {move : Move} {rest : List Move} :
    d.walkFrom place (move :: rest) = .ok q ↔ d.root.view place = some none ∧
      (∀ name, move = .down name → isLongName name = false ∧ d.root.view (place ++ [name]) ≠ none) ∧
      d.walkFrom (move.apply place) rest = .ok q := by
  rw [walkFrom]
  rcases hat : d.root.at? place with _ | bytes | entries
  · simp [Entry.view, hat]
  · simp [Entry.view, hat, Entry.bytes?]
  · have child : ∀ name, d.root.view (place ++ [name]) ≠ none ↔ (entries.lookup name).isSome = true := fun name => by
      rw [Entry.view_concat hat, Option.isSome_iff_ne_none, Ne, Option.map_eq_none_iff]
    have folder : d.root.view place = some none := Entry.view_eq_folder.mpr ⟨entries, hat⟩
    cases move with
    | stay => simp [folder, Move.apply]
    | up => simp [folder, Move.apply]
    | down name =>
      simp only [folder, Move.down.injEq, forall_eq', child, Move.apply, true_and]
      split
      · simp [*]
      · split <;> simp [*]

theorem walkFrom_stay (h : d.root.view place = some none) : d.walkFrom place [.stay] = .ok place :=
  walkFrom_cons_eq_ok.mpr ⟨h, nofun, rfl⟩

theorem walkFrom_eq {moves : List Move} (h : d.walkFrom place moves = .ok q) : q = moves.foldl Move.apply place := by
  induction moves generalizing place with
  | nil => exact (Except.ok.inj h).symm
  | cons move rest ih => exact ih (walkFrom_cons_eq_ok.mp h).2.2

theorem Covers.walkFrom (h : e.Covers d) {moves : List Move} (hd : d.walkFrom place moves = .ok q) :
    e.walkFrom place moves = .ok q := by
  induction moves generalizing place with
  | nil => exact hd
  | cons move rest ih =>
    obtain ⟨hfolder, hdown, hrest⟩ := walkFrom_cons_eq_ok.mp hd
    refine walkFrom_cons_eq_ok.mpr ⟨h.folders place hfolder, fun name hname => ?_, ih hrest⟩
    exact ⟨(hdown name hname).1, h.occupied (hdown name hname).2⟩

theorem walkFrom_append {front back : List Move} :
    d.walkFrom place (front ++ back) = .ok q ↔
      d.walkFrom place front = .ok (front.foldl Move.apply place) ∧
        d.walkFrom (front.foldl Move.apply place) back = .ok q := by
  induction front generalizing place with
  | nil => simp [walkFrom]
  | cons move rest ih =>
    rw [List.cons_append, walkFrom_cons_eq_ok, walkFrom_cons_eq_ok, ih, List.foldl_cons]
    tauto

/-- All that is passed through is folders. -/
theorem view_of_walkFrom {front back : List Move} (h : d.walkFrom place (front ++ back) = .ok q) (hback : back ≠ []) :
    d.root.view (front.foldl Move.apply place) = some none := by
  obtain ⟨move, rest, rfl⟩ := List.exists_cons_of_ne_nil hback
  exact (walkFrom_cons_eq_ok.mp (walkFrom_append.mp h).2).1

theorem locate_eq_ok : d.locate p = .ok q ↔
    p.check = .ok () ∧ d.walkFrom (d.start p) (p.moves ++ if p.endsInSlash then [.stay] else []) = .ok q := by
  rw [locate, then_eq_ok]

theorem locate_eq (h : d.locate p = .ok q) : q = p.place d.here := by
  rw [walkFrom_eq (locate_eq_ok.mp h).2, List.foldl_append]
  split <;> rfl

theorem Covers.start (h : e.Covers d) (p : Path) : e.start p = d.start p := by rw [Disk.start, h.here, Disk.start]

theorem Covers.locate (h : e.Covers d) (hd : d.locate p = .ok q) : e.locate p = .ok q := by
  obtain ⟨hcheck, hwalk⟩ := locate_eq_ok.mp hd
  exact locate_eq_ok.mpr ⟨hcheck, h.start p ▸ h.walkFrom hwalk⟩

theorem get_eq_ok {entry : Entry} :
    d.get p = .ok entry ↔ d.locate p = .ok (p.place d.here) ∧ d.root.at? (p.place d.here) = some entry := by
  rw [get, bind_eq_ok]
  constructor
  · rintro ⟨q, hq, hentry⟩
    obtain rfl := locate_eq hq
    refine ⟨hq, ?_⟩
    split at hentry
    · next hat => rw [hat, Except.ok.inj hentry]
    · cases hentry
  · rintro ⟨hq, hat⟩
    exact ⟨_, hq, by rw [hat]⟩

theorem isFolder_iff :
    d.isFolder p = true ↔ d.locate p = .ok (p.place d.here) ∧ d.root.view (p.place d.here) = some none := by
  rw [isFolder, Entry.view_eq_folder]
  constructor
  · intro h
    split at h
    · next hget => exact ⟨(get_eq_ok.mp hget).1, _, (get_eq_ok.mp hget).2⟩
    · cases h
  · rintro ⟨hlocate, entries, hat⟩
    rw [get_eq_ok.mpr ⟨hlocate, hat⟩]

theorem readBytes_eq_ok {bytes : ByteArray} :
    d.readBytes p = .ok bytes ↔ d.get p = .ok (.file bytes) := by
  rw [readBytes, bind_eq_ok]
  constructor
  · rintro ⟨entry, hget, hentry⟩
    cases entry with
    | file bytes => rw [hget, Except.ok.inj hentry]
    | folder entries => cases hentry
  · exact fun hget => ⟨_, hget, rfl⟩

theorem Covers.isFolder (h : e.Covers d) (hd : d.isFolder p = true) : e.isFolder p = true := by
  obtain ⟨hlocate, hview⟩ := isFolder_iff.mp hd
  rw [isFolder_iff, h.here]
  exact ⟨h.locate hlocate, h.folders _ hview⟩

/-- A path leads to a name in a folder that is there. -/
structure Slot (d : Disk) (p : Path) (folder : Place) (name : String) : Prop where
  check : p.check = .ok ()
  short : isLongName name = false
  reached : ∃ front, p.moves = front ++ [.down name] ∧ d.walkFrom (d.start p) (front ++ [.stay]) = .ok folder

variable {folder : Place} {name : String}

theorem Slot.front (h : d.Slot p folder name) : ∃ front, p.moves = front ++ [.down name] ∧
    folder = front.foldl Move.apply (d.start p) ∧ d.walkFrom (d.start p) (front ++ [.stay]) = .ok folder := by
  obtain ⟨front, hmoves, hwalk⟩ := h.reached
  refine ⟨front, hmoves, ?_, hwalk⟩
  rw [walkFrom_eq hwalk, List.foldl_append]
  rfl

theorem Slot.place_eq (h : d.Slot p folder name) : p.place d.here = folder ++ [name] := by
  obtain ⟨front, hmoves, hfolder, -⟩ := h.front
  rw [Path.place, hmoves, List.foldl_append, hfolder]
  rfl

theorem Slot.view_folder (h : d.Slot p folder name) : d.root.view folder = some none := by
  obtain ⟨front, -, hfolder, hwalk⟩ := h.front
  rw [hfolder]
  exact view_of_walkFrom hwalk (List.cons_ne_nil _ _)

theorem Slot.plain (h : d.Slot p folder name) : Path.Plain name.toList := by
  obtain ⟨front, hmoves, -⟩ := h.reached
  refine Path.plain_of_down (p := p) ?_
  rw [hmoves]
  exact List.mem_append_right _ List.mem_cons_self

theorem Covers.slot (h : e.Covers d) (hd : d.Slot p folder name) : e.Slot p folder name := by
  obtain ⟨front, hmoves, hwalk⟩ := hd.reached
  exact ⟨hd.check, hd.short, front, hmoves, h.start p ▸ h.walkFrom hwalk⟩

theorem newPlace_eq_some :
    d.newPlace p = .ok (some q) ↔ ∃ folder name, d.Slot p folder name ∧ q = folder ++ [name] := by
  rw [newPlace, then_eq_ok]
  constructor
  · rintro ⟨hcheck, h⟩
    split at h
    · next name front hmoves =>
      obtain ⟨folder, hwalk, h⟩ := bind_eq_ok.mp h
      split at h
      · cases h
      · next hlong =>
        have spelled : p.moves = front.reverse ++ [.down name] := by
          rw [← List.reverse_reverse p.moves, hmoves, List.reverse_cons]
        refine ⟨folder, name, ⟨hcheck, by simpa using hlong, front.reverse, spelled, hwalk⟩, ?_⟩
        exact (Option.some.inj (Except.ok.inj h)).symm
    · obtain ⟨_, -, h⟩ := bind_eq_ok.mp h
      cases h
  · rintro ⟨folder, name, hslot, rfl⟩
    obtain ⟨front, hmoves, hwalk⟩ := hslot.reached
    refine ⟨hslot.check, ?_⟩
    rw [hmoves, List.reverse_append, List.reverse_singleton, List.singleton_append]
    simp only [List.reverse_reverse, hwalk, ok_bind, hslot.short]
    rfl

/-- What is in the slot is found by its path. -/
theorem Slot.locate (h : d.Slot p folder name) (hview : d.root.view (folder ++ [name]) ≠ none)
    (hslash : p.endsInSlash = true → d.root.view (folder ++ [name]) = some none) :
    d.locate p = .ok (folder ++ [name]) := by
  obtain ⟨front, hmoves, hfolder, hwalk⟩ := h.front
  have last : d.walkFrom folder (.down name :: if p.endsInSlash then [.stay] else []) = .ok (folder ++ [name]) := by
    refine walkFrom_cons_eq_ok.mpr ⟨h.view_folder, ?_, ?_⟩
    · rintro _ ⟨⟩
      exact ⟨h.short, hview⟩
    · split
      · next hends => exact walkFrom_stay (hslash hends)
      · rfl
  refine locate_eq_ok.mpr ⟨h.check, ?_⟩
  rw [hmoves, List.append_assoc, List.singleton_append]
  exact walkFrom_append.mpr ⟨(walkFrom_append.mp hwalk).1, hfolder ▸ last⟩

/-- A path to something that is there leads to its slot, or names no entry. -/
theorem newPlace_of_locate (h : d.locate p = .ok q) : d.newPlace p = .ok (some q) ∨ d.newPlace p = .ok none := by
  obtain ⟨hcheck, hwalk⟩ := locate_eq_ok.mp h
  by_cases hdown : ∃ front name, p.moves = front ++ [.down name]
  · obtain ⟨front, name, hmoves⟩ := hdown
    rw [hmoves, List.append_assoc, List.singleton_append] at hwalk
    obtain ⟨hfront, hrest⟩ := walkFrom_append.mp hwalk
    obtain ⟨hfolder, hshort, -⟩ := walkFrom_cons_eq_ok.mp hrest
    have hstay := walkFrom_append.mpr ⟨hfront, walkFrom_stay hfolder⟩
    have slot : d.Slot p (front.foldl Move.apply (d.start p)) name :=
      ⟨hcheck, (hshort name rfl).1, front, hmoves, hstay⟩
    exact .inl (newPlace_eq_some.mpr ⟨_, _, slot, by rw [locate_eq h, slot.place_eq]⟩)
  · right
    rw [newPlace, hcheck, ok_bind]
    split
    · next name front hmoves =>
      refine absurd ⟨front.reverse, name, ?_⟩ hdown
      rw [← List.reverse_reverse p.moves, hmoves, List.reverse_cons]
    · rw [h]
      rfl

end Disk

end StatusFrames.Files
