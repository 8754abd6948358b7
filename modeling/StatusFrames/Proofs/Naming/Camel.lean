/-
What the two ways to write a name keep of it. A capitalized name has no underscore, so a symbol falls apart at its
underscores into the capitalized names and fixed words that it is made of. A name in upper case still has its words, so
it says at least as much as the capitalized one.
-/
import StatusFrames.Proofs.Naming.Case
import Mathlib.Data.List.Basic

namespace StatusFrames.Naming

open Text

/-! ## Words of a name in upper case -/

/-- Words that were put together with underscores are found again. -/
theorem wordsOf_intercalate {words : List (List Char)} (h : ∀ word ∈ words, word ≠ [] ∧ '_' ∉ word) :
    wordsOf (['_'].intercalate words) = words := by
  cases words with
  | nil => rfl
  | cons word rest =>
    rw [wordsOf, List.splitOn_intercalate '_' (fun w hw => (h w hw).2) (List.cons_ne_nil _ _)]
    exact List.filter_eq_self.mpr fun w hw => by simpa using (h w hw).1

theorem wordsOf_upper {name : String} (h : isIdentifier name = true) :
    wordsOf (upper name).toList = (wordsOf name.toList).map (·.map Char.toUpper) := by
  have hname := isNameChar_of_isIdentifier h
  rw [upper_toList hname, wordsOf_intercalate]
  intro raised hraised
  obtain ⟨word, hword, rfl⟩ := List.mem_map.mp hraised
  obtain ⟨hne, hchars⟩ := mem_wordsOf hword
  refine ⟨by simpa using hne, fun hmem => ?_⟩
  obtain ⟨c, hc, hupper⟩ := List.mem_map.mp hmem
  exact (hchars c hc).2 ((toUpper_eq_underscore (hname c (hchars c hc).1)).mp hupper)

theorem capitalized_upper {word : List Char} (h : ∀ c ∈ word, isNameChar c = true) :
    capitalized (word.map Char.toUpper) = capitalized word := by
  cases word with
  | nil => rfl
  | cons c rest =>
    obtain ⟨hc, hrest⟩ := List.forall_mem_cons.mp h
    rw [List.map_cons, capitalized, capitalized, toUpper_toUpper hc, List.map_map]
    congr 1
    exact List.map_congr_left fun d hd => toLower_toUpper (hrest d hd)

/-- Upper case takes nothing from a name that its capitalized form shows. -/
theorem camel_upper {name : String} (h : isIdentifier name = true) : camel (upper name) = camel name := by
  have hname := isNameChar_of_isIdentifier h
  rw [← String.toList_inj, camel_toList (upper_isNameChar h), camel_toList hname, wordsOf_upper h, List.flatMap_map]
  exact List.flatMap_congr fun word hword => capitalized_upper fun c hc => hname c ((mem_wordsOf hword).2 c hc).1

theorem upper_upper {name : String} (h : isIdentifier name = true) : upper (upper name) = upper name := by
  have hname := isNameChar_of_isIdentifier h
  rw [← String.toList_inj, upper_toList (upper_isNameChar h), wordsOf_upper h, upper_toList hname, List.map_map]
  congr 1
  refine List.map_congr_left fun word hword => ?_
  rw [Function.comp_apply, List.map_map]
  exact List.map_congr_left fun c hc => toUpper_toUpper (hname c ((mem_wordsOf hword).2 c hc).1)

/-! ## Symbols that fall apart -/

/-- A symbol of parts without underscores determines them. -/
theorem symbol_inj (n : Naming) {parts others : List String} (hparts : ∀ part ∈ parts, '_' ∉ part.toList)
    (hothers : ∀ part ∈ others, '_' ∉ part.toList) (hne : parts ≠ []) (hne' : others ≠ []) :
    n.symbol parts = n.symbol others ↔ parts = others := by
  refine ⟨fun h => ?_, congrArg n.symbol⟩
  have apart : ∀ {ps : List String}, (∀ part ∈ ps, '_' ∉ part.toList) → ps ≠ [] →
      ("_".intercalate ps).toList.splitOn '_' = ps.map (·.toList) := by
    intro ps hps hps'
    rw [String.toList_intercalate]
    exact List.splitOn_intercalate '_' (List.forall_mem_map.mpr hps) (by simpa using hps')
  have joined : "_".intercalate parts = "_".intercalate others := (String.append_right_inj _).mp h
  have same : parts.map (·.toList) = others.map (·.toList) := by
    rw [← apart hparts hne, ← apart hothers hne', joined]
  exact List.map_injective_iff.mpr (fun _ _ => String.toList_inj.mp) same

/-- With the same fixed words before and behind, symbols of capitalized names are as different as these names. -/
theorem symbol_camel_inj (n : Naming) (front back : List String) (hfixed : ∀ word ∈ front ++ back, '_' ∉ word.toList)
    {names others : List String} (hnames : ∀ name ∈ names, isIdentifier name = true)
    (hothers : ∀ name ∈ others, isIdentifier name = true) (hne : names ≠ []) (hne' : others ≠ []) :
    n.symbol (front ++ names.map camel ++ back) = n.symbol (front ++ others.map camel ++ back) ↔
      names.map camel = others.map camel := by
  obtain ⟨hfront, hback⟩ := List.forall_mem_append.mp hfixed
  have parts : ∀ {ns : List String}, (∀ name ∈ ns, isIdentifier name = true) →
      ∀ part ∈ front ++ ns.map camel ++ back, '_' ∉ part.toList := fun hns =>
    List.forall_mem_append.mpr ⟨List.forall_mem_append.mpr
      ⟨hfront, List.forall_mem_map.mpr fun name hname => underscore_not_mem_camel (hns name hname)⟩, hback⟩
  rw [symbol_inj n (parts hnames) (parts hothers) (by simp [hne]) (by simp [hne']), List.append_left_inj,
    List.append_right_inj]

section

variable (n : Naming) {subsystem frame field subsystem' frame' field' : String}

/-- Symbols of fields, with fixed words before the names. -/
theorem field_symbol_inj (front : List String) (hfixed : ∀ word ∈ front, '_' ∉ word.toList)
    (hnames : ∀ name ∈ [subsystem, frame, field], isIdentifier name = true)
    (hothers : ∀ name ∈ [subsystem', frame', field'], isIdentifier name = true) :
    n.symbol (front ++ [camel subsystem, camel frame, camel field]) =
        n.symbol (front ++ [camel subsystem', camel frame', camel field']) ↔
      camel subsystem = camel subsystem' ∧ camel frame = camel frame' ∧ camel field = camel field' := by
  have names := n.symbol_camel_inj front [] (by simpa using hfixed) hnames hothers (List.cons_ne_nil _ _)
    (List.cons_ne_nil _ _)
  simpa using names

/-- Symbols of frames, with a fixed word behind the names. -/
theorem frame_symbol_inj (last : String) (hlast : '_' ∉ last.toList)
    (hnames : ∀ name ∈ [subsystem, frame], isIdentifier name = true)
    (hothers : ∀ name ∈ [subsystem', frame'], isIdentifier name = true) :
    n.symbol [camel subsystem, camel frame, last] = n.symbol [camel subsystem', camel frame', last] ↔
      camel subsystem = camel subsystem' ∧ camel frame = camel frame' := by
  have names := n.symbol_camel_inj [] [last] (by simpa using hlast) hnames hothers (List.cons_ne_nil _ _)
    (List.cons_ne_nil _ _)
  simpa using names

/-- Symbols of subsystems, with fixed words on either side. -/
theorem subsystem_symbol_inj (front back : List String) (hfixed : ∀ word ∈ front ++ back, '_' ∉ word.toList)
    (hname : isIdentifier subsystem = true) (hother : isIdentifier subsystem' = true) :
    n.symbol (front ++ [camel subsystem] ++ back) = n.symbol (front ++ [camel subsystem'] ++ back) ↔
      camel subsystem = camel subsystem' := by
  have names := n.symbol_camel_inj front back hfixed (List.forall_mem_singleton.mpr hname)
    (List.forall_mem_singleton.mpr hother) (List.cons_ne_nil _ _) (List.cons_ne_nil _ _)
  simpa using names

end

end StatusFrames.Naming
