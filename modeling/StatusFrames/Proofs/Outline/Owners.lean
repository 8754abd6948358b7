/-
Owners of symbols. An owner names its subsystem, frame and field, so a symbol that a field owns stands among the symbols
of that field; what it is, its role says. Main statement: what a health check owns are its constants.
-/
import StatusFrames.Proofs.Outline.Identifiers
import StatusFrames.Proofs.Outline.Registered

namespace StatusFrames.Outline

/-- The symbols that a protocol brings in, its id included. -/
def symbolsOf (s : Setting) (p : Layout.Protocol) : List (String × Owner) :=
  (ofProtocol s p).symbols ⟨s.naming.subsystemId p.subsystem, p.subsystemId.toNat, true, "subsystem id"⟩

theorem symbols_ofLayouts (s : Setting) (protocols : List Layout.Protocol) :
    (ofLayouts s protocols).symbols = (ofLayouts s []).symbols ++ protocols.flatMap (symbolsOf s) := by
  simp only [symbols, ofLayouts, List.map_map, List.zip_map', List.map_nil, List.zip_nil_left, List.flatMap_nil,
    List.append_nil, List.flatMap_map]
  rfl

/-! ## Symbols of fields -/

section

variable {name : String} {owner : Owner}

/-- A field owns all of its symbols, each in its role. -/
theorem Field.owner_of_mem_symbols {f : Field} {id : Enumerator} {document : Files.Path} {element : List String}
    (h : (name, owner) ∈ f.symbols id (Owner.ofElement document element)) :
    owner = .ofElement document element owner.role := by
  simp only [symbols, List.mem_append, List.mem_cons, List.not_mem_nil, or_false, List.mem_flatMap, List.mem_map,
    Prod.mk.injEq] at h
  rcases h with ((⟨-, rfl⟩ | ⟨-, rfl⟩ | ⟨-, rfl⟩) | ⟨_, -, ⟨-, rfl⟩ | ⟨_, -, -, rfl⟩⟩) | ⟨_, -, -, rfl⟩ <;> rfl

theorem Frame.field_of_mem_symbols {f : Frame} {id : Enumerator} {document : Files.Path} {subsystem : String}
    (h : (name, owner) ∈ f.symbols id document subsystem) (hlength : owner.element.length = 3) :
    ∃ x ∈ f.fields, ∃ id, (name, owner) ∈ x.symbols id (.ofElement document [subsystem, f.name, x.name]) := by
  simp only [symbols] at h
  rcases List.mem_append.mp h with h | h
  · simp only [List.mem_cons, List.not_mem_nil, or_false, Prod.mk.injEq] at h
    rcases h with ⟨-, rfl⟩ | ⟨-, rfl⟩ | ⟨-, rfl⟩ | ⟨-, rfl⟩ | ⟨-, rfl⟩ <;> cases hlength
  · obtain ⟨pair, hpair, hsymbol⟩ := List.mem_flatMap.mp h
    exact ⟨pair.1, (List.of_mem_zip hpair).1, pair.2, hsymbol⟩

theorem Protocol.field_of_mem_symbols {p : Protocol} {id : Enumerator} (h : (name, owner) ∈ p.symbols id)
    (hlength : owner.element.length = 3) :
    ∃ f ∈ p.frames, ∃ x ∈ f.fields, ∃ id,
      (name, owner) ∈ x.symbols id (.ofElement p.document [p.subsystem, f.name, x.name]) := by
  simp only [symbols] at h
  rcases List.mem_append.mp h with h | h
  · simp only [List.mem_append, List.mem_cons, List.not_mem_nil, or_false, Prod.mk.injEq, List.mem_map] at h
    rcases h with (⟨-, rfl⟩ | ⟨-, rfl⟩ | ⟨-, rfl⟩ | ⟨-, rfl⟩ | ⟨-, rfl⟩) | ⟨_, -, -, rfl⟩ <;> cases hlength
  · obtain ⟨pair, hpair, hsymbol⟩ := List.mem_flatMap.mp h
    exact ⟨pair.1, (List.of_mem_zip hpair).1, Frame.field_of_mem_symbols hsymbol hlength⟩

variable {s : Setting} {protocols : List Layout.Protocol}

/-- A symbol whose owner is a field is one of that field. -/
theorem field_of_mem_symbols (h : (name, owner) ∈ (ofLayouts s protocols).symbols)
    (hlength : owner.element.length = 3) :
    ∃ p ∈ protocols, ∃ f ∈ p.frames, ∃ x ∈ f.fields, ∃ id, (name, owner) ∈
      (ofField s.naming p.subsystem f.name x).symbols id (.ofElement p.source [p.subsystem, f.name, x.name]) := by
  rw [symbols_ofLayouts] at h
  rcases List.mem_append.mp h with h | h
  · simp only [symbols, ofLayouts, List.map_nil, List.zip_nil_left, List.flatMap_nil, List.append_nil, List.mem_cons,
      List.not_mem_nil, or_false, Prod.mk.injEq] at h
    rcases h with ⟨-, rfl⟩ | ⟨-, rfl⟩ | ⟨-, rfl⟩ | ⟨-, rfl⟩ <;> cases hlength
  · obtain ⟨p, hp, hsymbol⟩ := List.mem_flatMap.mp h
    obtain ⟨frame, hframe, field, hfield, id, hsymbol⟩ := Protocol.field_of_mem_symbols hsymbol hlength
    obtain ⟨f, hf, rfl⟩ := List.mem_map.mp hframe
    obtain ⟨x, hx, rfl⟩ := List.mem_map.mp hfield
    exact ⟨p, hp, f, hf, x, hx, id, hsymbol⟩

end

theorem exists_mem_zip {α β : Type} {as : List α} {bs : List β} (h : as.length = bs.length) {a : α} (ha : a ∈ as) :
    ∃ b, (a, b) ∈ as.zip bs := by
  rw [← List.map_fst_zip (Nat.le_of_eq h)] at ha
  obtain ⟨pair, hpair, rfl⟩ := List.mem_map.mp ha
  exact ⟨pair.2, hpair⟩

/-- The constants of a field are among its symbols. -/
theorem constant_mem_symbols {s : Setting} {protocols : List Layout.Protocol} {p : Layout.Protocol}
    (hp : p ∈ protocols) {f : Layout.Frame} (hf : f ∈ p.frames) {x : Layout.Field} (hx : x ∈ f.fields) {c : Constant}
    (hc : c ∈ (ofField s.naming p.subsystem f.name x).constants) :
    (c.name, .ofElement p.source [p.subsystem, f.name, x.name] c.role) ∈ (ofLayouts s protocols).symbols := by
  have aligned := aligned_ofProtocol s p
  have hframe : ofFrame s.naming p.subsystem f ∈ (ofProtocol s p).frames := List.mem_map.mpr ⟨f, hf, rfl⟩
  have hfield : ofField s.naming p.subsystem f.name x ∈ (ofFrame s.naming p.subsystem f).fields :=
    List.mem_map.mpr ⟨x, hx, rfl⟩
  obtain ⟨frameId, hframe⟩ := exists_mem_zip aligned.frameIds hframe
  obtain ⟨fieldId, hfield⟩ := exists_mem_zip (aligned_ofFrame s.naming p.subsystem f) hfield
  rw [symbols_ofLayouts]
  refine List.mem_append_right _ (List.mem_flatMap.mpr ⟨p, hp, ?_⟩)
  refine List.mem_append_right _ (List.mem_flatMap.mpr ⟨_, hframe, ?_⟩)
  refine List.mem_append_right _ (List.mem_flatMap.mpr ⟨_, hfield, ?_⟩)
  exact List.mem_append_right _ (List.mem_map.mpr ⟨c, hc, rfl⟩)

/-! ## Symbols of health checks -/

/-- What the constants of a health check are to their field. -/
def checkRole (position : Nat) : String := "health check #" ++ toString position

theorem checkRole_inj {m n : Nat} : checkRole m = checkRole n ↔ m = n :=
  (String.append_right_inj _).trans Nat.repr_inj

theorem head?_checkRole (position : Nat) : (checkRole position).toList.head? = some 'h' := by simp [checkRole]

/-- No other symbol of a field has a role that starts like that of a check. -/
theorem Field.constant_of_mem_symbols {naming : Naming} {subsystem frame name : String} {x : Layout.Field}
    {id : Enumerator} {document : Files.Path} {element : List String} {position : Nat}
    (h : (name, .ofElement document element (checkRole position)) ∈
      (ofField naming subsystem frame x).symbols id (.ofElement document element)) :
    ∃ c ∈ (ofField naming subsystem frame x).constants, c.name = name ∧ c.role = checkRole position := by
  have other : ∀ {role : String}, role.toList.head? ≠ some 'h' →
      Owner.ofElement document element (checkRole position) ≠ .ofElement document element role := by
    intro role hrole heq
    have same : checkRole position = role := congrArg Owner.role heq
    exact hrole (same ▸ head?_checkRole position)
  simp only [symbols, List.mem_append, List.mem_cons, List.not_mem_nil, or_false, List.mem_flatMap, List.mem_map,
    Prod.mk.injEq, Option.mem_toList] at h
  rcases h with ((⟨-, h⟩ | ⟨-, h⟩ | ⟨-, h⟩) | ⟨e, he, ⟨-, h⟩ | ⟨v, hv, -, h⟩⟩) | ⟨c, hc, hname, h⟩
  · exact absurd h (other (by decide))
  · exact absurd h (other (show "getter".toList.head? ≠ some 'h' by decide))
  · exact absurd h (other (show "setter".toList.head? ≠ some 'h' by decide))
  · exact absurd h (other (by decide))
  · obtain ⟨typeName, -, rfl⟩ := Option.map_eq_some_iff.mp he
    obtain ⟨value, -, rfl⟩ := List.mem_map.mp hv
    exact absurd h.symm (other (by simp))
  · exact ⟨c, hc, hname, congrArg Owner.role h⟩

/-- The constants of a field in the role of a check are those of the check. -/
theorem mem_constants_check {p : Place} {x : Layout.Field} {c : Constant} {i : Nat} :
    c ∈ p.constants x ∧ c.role = checkRole (i + 1) ↔
      ∃ check, x.healthChecks[i]? = some check ∧ c ∈ p.checkConstants (i + 1) check := by
  constructor
  · rintro ⟨hc, hrole⟩
    rcases List.mem_append.mp hc with hc | hc
    · simp only [Option.mem_toList, Option.map_eq_some_iff] at hc
      obtain ⟨literal, -, rfl⟩ := hc
      have hhead := head?_checkRole (i + 1)
      rw [← hrole] at hhead
      exact absurd hhead (show "default value".toList.head? ≠ some 'h' by decide)
    · obtain ⟨j, check, hcheck, hc⟩ := mem_allCheckConstants.mp hc
      have position : 1 + j = i + 1 := checkRole_inj.mp ((suffix_of_mem_checkConstants hc).1.symm.trans hrole)
      obtain rfl : j = i := by omega
      exact ⟨check, hcheck, position ▸ hc⟩
  · rintro ⟨check, hcheck, hc⟩
    have hmem : c ∈ p.allCheckConstants 1 x.healthChecks :=
      mem_allCheckConstants.mpr ⟨i, check, hcheck, Nat.add_comm 1 i ▸ hc⟩
    exact ⟨List.mem_append_right _ hmem, (suffix_of_mem_checkConstants hc).1⟩

section

variable {s : Setting} {protocols : List Layout.Protocol} {p : Layout.Protocol} (hp : p ∈ protocols)
  (hprotocols : (protocols.map (·.subsystem)).Nodup) {f : Layout.Frame} (hf : f ∈ p.frames)
  (hframes : (p.frames.map (·.name)).Nodup) {x : Layout.Field} (hx : x ∈ f.fields)
  (hfields : (f.fields.map (·.name)).Nodup)

include hp hprotocols hf hframes hx hfields

/-- A health check owns the names of its constants, and no other symbols. -/
theorem mem_symbols_check {name : String} {i : Nat} :
    (name, .ofElement p.source [p.subsystem, f.name, x.name] (checkRole (i + 1))) ∈ (ofLayouts s protocols).symbols ↔
      ∃ check, x.healthChecks[i]? = some check ∧
        ∃ c ∈ Place.checkConstants ⟨s.naming, p.subsystem, f.name, x.name⟩ (i + 1) check, c.name = name := by
  constructor
  · intro h
    obtain ⟨q, hq, g, hg, y, hy, id, hsymbol⟩ := field_of_mem_symbols h rfl
    -- The owner names subsystem, frame and field, and the names tell these apart.
    obtain ⟨-, helement, -⟩ := Owner.mk.inj (Field.owner_of_mem_symbols hsymbol)
    simp only [List.cons.injEq, and_true] at helement
    obtain ⟨hsubsystem, hframe, hfield⟩ := helement
    obtain rfl := List.inj_on_of_nodup_map hprotocols hp hq hsubsystem
    obtain rfl := List.inj_on_of_nodup_map hframes hf hg hframe
    obtain rfl := List.inj_on_of_nodup_map hfields hx hy hfield
    obtain ⟨c, hc, hname, hrole⟩ := Field.constant_of_mem_symbols hsymbol
    obtain ⟨check, hcheck, hc⟩ := mem_constants_check.mp ⟨hc, hrole⟩
    exact ⟨check, hcheck, c, hc, hname⟩
  · rintro ⟨check, hcheck, c, hc, rfl⟩
    obtain ⟨hmem, hrole⟩ := mem_constants_check.mpr ⟨check, hcheck, hc⟩
    exact hrole ▸ constant_mem_symbols hp hf hx hmem

end

end StatusFrames.Outline
