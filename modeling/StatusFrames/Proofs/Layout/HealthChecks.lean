/-
Which health checks a field accepts: those in the shape of their kind, with literals that the field takes and the bounds
of a range in order. Two integers are compared as they are, and anything else as binary64 numbers; where the document
means integers, both give their order.
-/
import StatusFrames.Proofs.Decimal.Whole
import StatusFrames.Proofs.Outline.Meaning

namespace StatusFrames

/-- A health check that a field should accept. -/
inductive Document.HealthCheck.Fits (f : Document.Field) (check : Document.HealthCheck) : Prop
  | exact {value : Literal} (hkind : check.kind = .exact) (hvalue : check.value = some value) (hmin : check.min = none)
    (hmax : check.max = none) (htakes : f.Takes value) : Fits f check
  | range {min max : Literal} {low high : Int} (hkind : check.kind = .range) (hvalue : check.value = none)
    (hmin : check.min = some min) (hmax : check.max = some max) (htakesMin : f.Takes min) (htakesMax : f.Takes max)
    (hlow : f.valueOf? min = some low) (hhigh : f.valueOf? max = some high) (hordered : low ≤ high) : Fits f check

theorem Literal.nearestFloat_natCast (n : Nat) : nearestFloat n = n.toUInt64.toFloat := by
  rw [nearestFloat, if_neg (by omega), Int.natAbs_natCast]

theorem Document.Field.valueOf?_integer (f : Document.Field) {literal : Literal} {i : Int}
    (h : literal.integerValue? = some i) : f.valueOf? literal = some i := by
  rcases Literal.integerValue?_eq_some.mp h with rfl | ⟨n, rfl, rfl⟩ <;> rfl

namespace Layout.Domain

variable {declared : Document.Field} {entry : TypeEntry} {d : Domain} {literal min max : Literal}

/-! ## The two comparisons -/

theorem isInverted_of_integers {low high : Int} (hlow : min.integerValue? = some low)
    (hhigh : max.integerValue? = some high) : d.isInverted min max = decide (high < low) := by
  simp only [isInverted, hlow, hhigh]

theorem isInverted_of_numbers {low high : Float} (hmixed : min.integerValue? = none ∨ max.integerValue? = none)
    (hlow : d.numeric? min = some low) (hhigh : d.numeric? max = some high) :
    d.isInverted min max = decide (high < low) := by
  rcases hmixed with h | h
  · simp only [isInverted, h, hlow, hhigh]
  · cases hmin : min.integerValue? <;> simp only [isInverted, h, hmin, hlow, hhigh]

section

variable (h : d.Of declared entry)

include h

/-- Only booleans and labels are no integers. -/
theorem Of.kind_of_takes (htakes : declared.Takes literal) (hnone : literal.integerValue? = none) :
    entry.kind = .bool ∨ entry.kind = .enum := by
  cases htakes with
  | number hvalue | real hvalue => simp [hnone] at hvalue
  | bool htype => exact .inl ((Registry.kind_bool_iff h.type).mpr htype)
  | label htype => exact .inr ((Registry.kind_enum_iff h.type).mpr htype)
  | bit | labelNumber => simp [Literal.integerValue?] at hnone

/-- Where the values of a field are bytes, the binary64 number of a literal is its byte. -/
theorem Of.numeric_of_takes (hdistinct : (declared.values.map (·.name)).Nodup)
    (hkind : entry.kind = .bool ∨ entry.kind = .enum) (htakes : declared.Takes literal) :
    ∃ n < 256, declared.valueOf? literal = some (n : Nat) ∧ d.numeric? literal = some n.toUInt64.toFloat := by
  cases htakes with
  | number _ hholds =>
    have hnumber := Registry.kind_of_holds h.type hholds
    rcases hkind with hk | hk <;> simp [hk] at hnumber
  | real _ htype =>
    have hfloat := (Registry.kind_float_iff h.type).mpr htype
    rcases hkind with hk | hk <;> simp [hk] at hfloat
  | bool _ b =>
    exact ⟨if b then 1 else 0, by cases b <;> decide, by cases b <;> rfl, congrArg some (Decimal.toFloat_bool b)⟩
  | bit _ hi =>
    rcases hi with rfl | rfl
    · exact ⟨0, by decide, rfl, congrArg some (Literal.nearestFloat_natCast 0)⟩
    · exact ⟨1, by decide, rfl, congrArg some (Literal.nearestFloat_natCast 1)⟩
  | label htype hlabel =>
    have numbered := h.labels ((Registry.kind_enum_iff h.type).mpr htype)
    obtain ⟨v, hv, rfl, -⟩ := numbered.mem_labelNumbers.mp hlabel
    obtain ⟨w, hw⟩ : ∃ w, d.enumValues.find? (·.label == v.label) = some w :=
      Option.isSome_iff_exists.mp (List.find?_isSome.mpr ⟨v, hv, beq_self_eq_true _⟩)
    have hsame : w.label = v.label := by simpa using List.find?_some hw
    have hnumber := numbered.mem_labelNumbers.mpr ⟨w, List.mem_of_find?_eq_some hw, hsame, rfl⟩
    refine ⟨w.value.toNat, w.value.toNat_lt, Document.Field.valueOf?_label hdistinct hnumber, ?_⟩
    rw [numeric?, hw, Option.map_some]
  | labelNumber htype hlabel =>
    have numbered := h.labels ((Registry.kind_enum_iff h.type).mpr htype)
    obtain ⟨v, -, -, rfl⟩ := numbered.mem_labelNumbers.mp hlabel
    exact ⟨v.value.toNat, v.value.toNat_lt, rfl, congrArg some (Literal.nearestFloat_natCast _)⟩

/-- Either comparison puts the bounds in the order of the integers that the document means. -/
theorem Of.isInverted_iff (hdistinct : (declared.values.map (·.name)).Nodup) (hmin : declared.Takes min)
    (hmax : declared.Takes max) :
    ∃ low high, declared.valueOf? min = some low ∧ declared.valueOf? max = some high ∧
      (d.isInverted min max = false ↔ low ≤ high) := by
  by_cases hmixed : min.integerValue? = none ∨ max.integerValue? = none
  · have hkind : entry.kind = .bool ∨ entry.kind = .enum := by
      rcases hmixed with hnone | hnone
      · exact h.kind_of_takes hmin hnone
      · exact h.kind_of_takes hmax hnone
    obtain ⟨low, hlow, hlowValue, hlowNumber⟩ := h.numeric_of_takes hdistinct hkind hmin
    obtain ⟨high, hhigh, hhighValue, hhighNumber⟩ := h.numeric_of_takes hdistinct hkind hmax
    refine ⟨low, high, hlowValue, hhighValue, ?_⟩
    rw [isInverted_of_numbers hmixed hlowNumber hhighNumber, decide_eq_false_iff_not,
      Decimal.toFloat_lt_iff (by omega) (by omega)]
    omega
  · simp only [not_or, ← Option.isSome_iff_ne_none, Option.isSome_iff_exists] at hmixed
    obtain ⟨⟨low, hlow⟩, high, hhigh⟩ := hmixed
    refine ⟨low, high, declared.valueOf?_integer hlow, declared.valueOf?_integer hhigh, ?_⟩
    rw [isInverted_of_integers hlow hhigh, decide_eq_false_iff_not, Int.not_lt]

/-! ## Whole checks -/

theorem Of.healthCheck_ok_iff (hdistinct : (declared.values.map (·.name)).Nodup) {check : Document.HealthCheck}
    (hfloat : ∀ literal ∈ check.literals, ∀ x, literal ≠ .float x) :
    (∃ placed, healthCheck d check = .ok placed) ↔ check.Fits declared := by
  simp only [healthCheck_eq_ok, condition_eq_ok]
  constructor
  · rintro ⟨-, -, ⟨value, hkind, hvalue, hmin, hmax, hcheck, -⟩ |
      ⟨min, max, hkind, hvalue, hmin, hmax, hcheckMin, hcheckMax, hordered, -⟩, -⟩
    · have htakes := h.takes hcheck fun _ => hfloat value (by simp [Document.HealthCheck.literals, hvalue])
      exact .exact hkind hvalue hmin hmax htakes
    · have htakesMin := h.takes hcheckMin fun _ => hfloat min (by simp [Document.HealthCheck.literals, hmin])
      have htakesMax := h.takes hcheckMax fun _ => hfloat max (by simp [Document.HealthCheck.literals, hmax])
      obtain ⟨low, high, hlow, hhigh, horder⟩ := h.isInverted_iff hdistinct htakesMin htakesMax
      exact .range hkind hvalue hmin hmax htakesMin htakesMax hlow hhigh (horder.mp hordered)
  · intro hfits
    cases hfits with
    | exact hkind hvalue hmin hmax htakes =>
      exact ⟨_, _, .inl ⟨_, hkind, hvalue, hmin, hmax, h.check_of_takes htakes, rfl⟩, rfl⟩
    | range hkind hvalue hmin hmax htakesMin htakesMax hlow hhigh hordered =>
      obtain ⟨low, high, hlow', hhigh', horder⟩ := h.isInverted_iff hdistinct htakesMin htakesMax
      obtain rfl := Option.some.inj (hlow.symm.trans hlow')
      obtain rfl := Option.some.inj (hhigh.symm.trans hhigh')
      exact ⟨_, _, .inr ⟨_, _, hkind, hvalue, hmin, hmax, h.check_of_takes htakesMin, h.check_of_takes htakesMax,
        horder.mpr hordered, rfl⟩, rfl⟩

end

end Layout.Domain

namespace Layout

/-- The domain that placing a field checks its literals against. -/
theorem Domain.of_resolved {scope : Scope} {location : Location} {field : Document.Field} {entry : TypeEntry}
    {storage : String} {width : Nat} {kind : FieldKind}
    (htype : resolveType location field.typeName = .ok (entry, storage, width))
    (hkind : fieldKind scope location field entry.kind = .ok kind) :
    Domain.Of field entry ⟨entry.kind, width, kind.enumValues⟩ := by
  obtain ⟨hentry, -, hwidth⟩ := resolveType_eq_ok htype
  refine ⟨hentry, rfl, hwidth, fun henum => ?_⟩
  have hof := fieldKind_eq_ok hkind
  rw [henum] at hof
  obtain ⟨values, hvalues, rfl⟩ := hof
  exact numbered_of_numberLabels hvalues

/-- A field of a document that passes the checks accepts a health check, floating-point literals left out, exactly when
the check has the literals of its kind and no others, the field takes each of them, and the integer that the lower bound
of a range stands for is at most that of the upper one. -/
theorem health_check_accepted_iff_fits {protocol : Document.Protocol} {location here : Location}
    (hcheck : protocol.check location = .ok ()) {frame : Document.Frame} (hframe : frame ∈ protocol.frames)
    {field : Document.Field} (hfield : field ∈ frame.fields) {scope : Scope} {entry : TypeEntry} {storage : String}
    {width : Nat} {kind : FieldKind} (htype : resolveType here field.typeName = .ok (entry, storage, width))
    (hkind : fieldKind scope here field entry.kind = .ok kind) {check : Document.HealthCheck}
    (hfloat : ∀ literal ∈ check.literals, ∀ x, literal ≠ .float x) :
    (∃ placed, healthCheck ⟨entry.kind, width, kind.enumValues⟩ check = .ok placed) ↔ check.Fits field := by
  have wellFormed := ((Document.Protocol.check_eq_ok.mp hcheck).frames frame hframe).fields field hfield
  exact (Domain.of_resolved htype hkind).healthCheck_ok_iff wellFormed.distinctLabels hfloat

/-- A field whose labels are not in the order of their numbers. -/
def hoistState : Document.Field :=
  ⟨"state", "enum", none, [⟨"stall", some 5⟩, ⟨"off", some 0⟩, ⟨"spin", none⟩], []⟩

def hoist : Document.Protocol := ⟨"hoist", 3, false, [⟨"cable", 1, [hoistState]⟩]⟩

def hoistDomain : Domain := ⟨.enum, 1, [⟨"stall", 5, true⟩, ⟨"off", 0, true⟩, ⟨"spin", 1, false⟩]⟩

/-- The bounds of the first check are in order as numbers though not as labels, those of the second the other way. -/
theorem health_check_accepted_iff_fits_hoist :
    hoist.check { document := ⟨"hoist.yaml"⟩ } = .ok () ∧ hoistState ∈ hoist.frames.flatMap (·.fields) ∧
    resolveType { document := ⟨"hoist.yaml"⟩ } hoistState.typeName =
      .ok (⟨"enum", .cast "uint8_t", .enum⟩, "uint8_t", hoistDomain.width) ∧
    fieldKind ⟨{}, "hoist", "cable"⟩ { document := ⟨"hoist.yaml"⟩ } hoistState hoistDomain.kind =
      .ok (.enumCast (Naming.enumType {} "hoist" "cable" "state") hoistDomain.enumValues) ∧
    (∃ placed, healthCheck hoistDomain ⟨.range, none, some (.label "spin"), some (.integer 5), none, none, none⟩ =
      .ok placed) ∧
    ¬∃ placed, healthCheck hoistDomain ⟨.range, none, some (.label "stall"), some (.label "spin"), none, none, none⟩ =
      .ok placed := by
  have hcheck : hoist.check { document := ⟨"hoist.yaml"⟩ } = .ok () := rfl
  have htype : resolveType { document := ⟨"hoist.yaml"⟩ } hoistState.typeName =
      .ok (⟨"enum", .cast "uint8_t", .enum⟩, "uint8_t", hoistDomain.width) := rfl
  have hkind : fieldKind ⟨{}, "hoist", "cable"⟩ { document := ⟨"hoist.yaml"⟩ } hoistState hoistDomain.kind =
      .ok (.enumCast (Naming.enumType {} "hoist" "cable" "state") hoistDomain.enumValues) := rfl
  have accepted {check : Document.HealthCheck} (hfloat : ∀ literal ∈ check.literals, ∀ x, literal ≠ .float x) :
      (∃ placed, healthCheck hoistDomain check = .ok placed) ↔ check.Fits hoistState :=
    health_check_accepted_iff_fits hcheck List.mem_cons_self List.mem_cons_self htype hkind hfloat
  refine ⟨hcheck, List.mem_cons_self, htype, hkind, ?_, ?_⟩
  · rw [accepted (by simp [Document.HealthCheck.literals])]
    have spin : ("spin", 1) ∈ Document.labelNumbers 0 hoistState.values := by decide
    have stall : ("stall", 5) ∈ Document.labelNumbers 0 hoistState.values := by decide
    exact .range rfl rfl rfl rfl (.label rfl spin) (.labelNumber rfl stall) rfl rfl (by decide)
  · rw [accepted (by simp [Document.HealthCheck.literals])]
    intro hfits
    cases hfits with
    | exact hkind => cases hkind
    | range _ _ hmin hmax _ _ hlow hhigh hordered =>
      obtain rfl := Option.some.inj hmin
      obtain rfl := Option.some.inj hmax
      obtain rfl : 5 = _ := Option.some.inj hlow
      obtain rfl : 1 = _ := Option.some.inj hhigh
      exact absurd hordered (by decide)

end Layout

end StatusFrames
