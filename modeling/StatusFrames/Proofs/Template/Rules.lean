/-
Rules for running template programs that print and leave the machine as they found it: how the text of a sequence, a
loop or a call comes from the texts of its parts. The machine inside a loop or a call is spelled out once here, and
everything else only asks what a name means in it.
-/
import StatusFrames.Proofs.Steps
import StatusFrames.Template.Rendering

namespace StatusFrames.Template

/-! ## Sequences -/

/-- The program prints a text and leaves the machine as it was. -/
def Prints (s : Surroundings) (m : Machine) (program : List Statement) (text : String) : Prop :=
  runStatements s m program = .ok (text, m)

theorem runStatements_append (s : Surroundings) (m : Machine) (p q : List Statement) :
    runStatements s m (p ++ q) = do
      let (a, m) ← runStatements s m p
      let (b, m) ← runStatements s m q
      return (a ++ b, m) := by
  induction p generalizing m with
  | nil =>
    cases h : runStatements s m q with
    | error e => simp [runStatements, h]
    | ok r => simp [runStatements, h, pure, Except.pure]
  | cons statement rest ih =>
    simp only [List.cons_append, runStatements, ih, bind_assoc]
    cases runStatement s m statement with
    | error e => rfl
    | ok r =>
      simp only [ok_bind]
      cases runStatements s r.2 rest with
      | error e => rfl
      | ok r' =>
        simp only [ok_bind, pure_bind]
        cases runStatements s r'.2 q with
        | error e => rfl
        | ok r'' => simp [String.append_assoc]

section
variable {s : Surroundings} {m : Machine}

theorem Prints.append {p q : List Statement} {a b : String} (hp : Prints s m p a) (hq : Prints s m q b) :
    Prints s m (p ++ q) (a ++ b) := by
  unfold Prints at hp hq ⊢
  simp [runStatements_append, hp, hq, pure, Except.pure]

/-- A statement that prints nothing sets the machine for the rest. -/
theorem runStatements_silent {statement : Statement} {rest : List Statement} {m' : Machine}
    (h : runStatement s m statement = .ok ("", m')) :
    runStatements s m (statement :: rest) = runStatements s m' rest := by
  simp only [runStatements, h, ok_bind, String.empty_append]
  cases runStatements s m' rest <;> rfl

theorem Prints.nil : Prints s m [] "" := rfl

theorem Prints.cons {statement : Statement} {rest : List Statement} {a b : String}
    (h : runStatement s m statement = .ok (a, m)) (hr : Prints s m rest b) :
    Prints s m (statement :: rest) (a ++ b) := by
  unfold Prints at hr ⊢
  simp [runStatements, h, hr, pure, Except.pure]

theorem Prints.single {statement : Statement} {a : String} (h : runStatement s m statement = .ok (a, m)) :
    Prints s m [statement] a := by
  simpa only [String.append_empty] using Prints.cons h .nil

theorem Prints.text {t b : String} {rest : List Statement} (hr : Prints s m rest b) :
    Prints s m (.text t :: rest) (t ++ b) :=
  .cons rfl hr

theorem Prints.output {e : Expr} {v : Value} {a b : String} {rest : List Statement} (he : evalExpr s m e = .ok v)
    (hv : v.print = .ok a) (hr : Prints s m rest b) : Prints s m (.output e :: rest) (a ++ b) := by
  refine .cons ?_ hr
  rw [runStatement, he, ok_bind, hv]
  rfl

end

/-! ## Expressions -/

/-- What stands in a record under a path of names. -/
def readPath (d : Data) : List String → Option Data
  | [] => some d
  | x :: rest =>
    match d with
    | .record fields => (fields.lookup x).bind (readPath · rest)
    | _ => none

/-- A name with attributes behind it. -/
def dotted (x : String) (attributes : List String) : Expr := attributes.foldl .attribute (.name x)

/-- The text of an attribute. -/
def shown (x : String) (attributes : List String) : Statement := .output (dotted x attributes)

theorem lookup_map_data (fields : List (String × Data)) (x : String) :
    (fields.map fun (x, d) => (x, Value.data d)).lookup x = (fields.lookup x).map .data := by
  induction fields with
  | nil => rfl
  | cons field rest ih =>
    obtain ⟨name, d⟩ := field
    cases h : x == name <;> simp [List.lookup_cons, h, ih]

theorem member_record (fields : List (String × Data)) (name : String) :
    (Value.data (.record fields)).member name = .ok (.ofData? (fields.lookup name)) := by
  simp only [Value.member, Value.members?, Option.bind_some, lookup_map_data]
  cases fields.lookup name <;> rfl

theorem dataText_text (t : String) : Value.dataText (.text t) = t := rfl

theorem dataText_nat (n : Nat) : Value.dataText (.int n) = toString n := rfl

section
variable {s : Surroundings} {m : Machine}

theorem evalExpr_attributes {e : Expr} {d d' : Data} {attributes : List String}
    (he : evalExpr s m e = .ok (.data d)) (hd : readPath d attributes = some d') :
    evalExpr s m (attributes.foldl .attribute e) = .ok (.data d') := by
  induction attributes generalizing e d with
  | nil =>
    obtain rfl : d = d' := by simpa [readPath] using hd
    exact he
  | cons x rest ih =>
    cases d with
    | record fields =>
      obtain ⟨next, hnext, hd⟩ := Option.bind_eq_some_iff.mp hd
      have step : evalExpr s m (.attribute e x) = .ok (.data next) := by
        rw [evalExpr, he, ok_bind, member_record, hnext]
        rfl
      exact ih step hd
    | _ => simp [readPath] at hd

theorem evalExpr_dotted {x : String} {d d' : Data} {attributes : List String} (hx : m.lookup x = .data d)
    (hd : readPath d attributes = some d') : evalExpr s m (dotted x attributes) = .ok (.data d') :=
  evalExpr_attributes (congrArg Except.ok hx) hd

theorem Prints.shown {x : String} {d d' : Data} {attributes : List String} {rest : List Statement} {b : String}
    (hx : m.lookup x = .data d) (hd : readPath d attributes = some d') (hr : Prints s m rest b) :
    Prints s m (shown x attributes :: rest) (Value.dataText d' ++ b) :=
  .output (evalExpr_dotted hx hd) rfl hr

/-- A choice between texts, of which only the one that is chosen must have a value. -/
theorem Prints.choice {value condition other : Expr} {c : Value} {b : Bool} {t u r : String} {rest : List Statement}
    (hc : evalExpr s m condition = .ok c) (hb : c.isTrue = .ok b)
    (ht : b = true → evalExpr s m value = .ok (.text t)) (hu : b = false → evalExpr s m other = .ok (.text u))
    (hr : Prints s m rest r) :
    Prints s m (.output (.choice value condition (some other)) :: rest) ((if b then t else u) ++ r) := by
  have chosen : evalExpr s m (.choice value condition (some other)) = .ok (.text (if b then t else u)) := by
    simp only [evalExpr, hc, ok_bind, hb, evalOther]
    cases b with
    | false => exact hu rfl
    | true => exact ht rfl
  exact .output chosen rfl hr

end

/-! ## Machines -/

namespace Machine

/-- The machine in the body of a loop. -/
def inLoop (m : Machine) (x : String) (d : Data) (state : LoopState) : Machine :=
  { m with frames := { locals := [(x, .data d)], loop := some state } :: m.frames }

/-- The machine in which the condition of a loop is looked at. -/
def inSelection (m : Machine) (x : String) (d : Data) : Machine :=
  { m with frames := { locals := [(x, .data d)] } :: m.frames }

/-- What the outermost frame was given. -/
def given (m : Machine) : Scope := (m.frames.getLast?.map (·.given)).getD []

/-- The machine in the body of a definition of one parameter that sees nothing else. -/
def inCall (m : Machine) (x : String) (v : Value) : Machine :=
  { m with frames := [{ locals := [(x, v)] }, { given := m.given }], below := m.depth + callCost }

section
variable {m : Machine} {x y : String} {d : Data} {v : Value} {state : LoopState}

theorem depth_inLoop : (m.inLoop x d state).depth = m.depth + 1 := by
  simp only [inLoop, depth, List.length_cons]
  omega

theorem lookup_inLoop :
    (m.inLoop x d state).lookup y =
      if y = x then .data d else if y = "loop" then .loop state else m.lookup y := by
  simp only [inLoop, lookup, List.findSome?_cons, Frame.lookup?, List.lookup_cons, List.lookup_nil]
  by_cases hx : y = x
  · simp [hx]
  · have hbeq : (y == x) = false := beq_false_of_ne hx
    simp only [hbeq, hx, if_false]
    by_cases hl : y = "loop" <;> simp [hl]

theorem lookup_inLoop_self : (m.inLoop x d state).lookup x = .data d := by
  rw [lookup_inLoop, if_pos rfl]

theorem lookup_inLoop_other (hx : y ≠ x) (hl : y ≠ "loop") : (m.inLoop x d state).lookup y = m.lookup y := by
  rw [lookup_inLoop, if_neg hx, if_neg hl]

theorem lookup_inSelection : (m.inSelection x d).lookup y = if y = x then .data d else m.lookup y := by
  simp only [inSelection, lookup, List.findSome?_cons, Frame.lookup?, List.lookup_cons, List.lookup_nil]
  by_cases hx : y = x
  · simp [hx]
  · have hbeq : (y == x) = false := beq_false_of_ne hx
    simp [hbeq, hx]

theorem lookup_start (fields : List (String × Data)) :
    (start (fields.map fun (x, d) => (x, .data d))).lookup x = .ofData? (fields.lookup x) := by
  have outside : (if x = "loop" then (none : Option LoopState) else none) = none := ite_self none
  simp only [start, lookup, List.findSome?_cons, List.findSome?_nil, Frame.lookup?, List.lookup_nil, outside,
    lookup_map_data]
  cases fields.lookup x <;> rfl

theorem depth_start {given : Scope} : (start given).depth = 1 := rfl

theorem lookup_put {scope : Scope} : (scope.put x v).lookup y = if y = x then some v else scope.lookup y := by
  by_cases hx : y = x
  · simp [Scope.put, hx]
  · have hbeq : (y == x) = false := beq_false_of_ne hx
    simp only [Scope.put, List.lookup_cons, hbeq, hx, if_false]
    induction scope with
    | nil => rfl
    | cons binding rest ih =>
      obtain ⟨z, w⟩ := binding
      by_cases hz : z = x
      · rw [List.filter_cons_of_neg (by simp [hz]), ih, List.lookup_cons, hz, hbeq]
      · rw [List.filter_cons_of_pos (by simp [hz]), List.lookup_cons, List.lookup_cons, ih]

theorem lookup_bind (hm : m.frames ≠ []) : (m.bind x v).lookup y = if y = x then v else m.lookup y := by
  cases hf : m.frames with
  | nil => exact absurd hf hm
  | cons top outer =>
    simp only [Machine.bind, modifyTop, hf, lookup, List.findSome?_cons, Frame.lookup?, lookup_put]
    by_cases hx : y = x <;> simp [hx]

theorem depth_bind : (m.bind x v).depth = m.depth := by
  cases hf : m.frames <;> simp [Machine.bind, modifyTop, hf, depth]

theorem lookup_inCall_self : (m.inCall x v).lookup x = v := by
  simp [inCall, lookup, Frame.lookup?]

theorem checkDepth_eq_ok (h : m.depth ≤ maxDepth) : m.checkDepth = .ok () :=
  if_neg (Nat.not_lt.mpr h)

theorem push_eq_ok {f : Frame} (h : m.depth ≤ maxDepth) : m.push f = .ok { m with frames := f :: m.frames } := by
  rw [push, checkDepth_eq_ok h]
  rfl

end

end Machine

/-! ## Loops -/

/-- The texts of the items of a loop one behind the other, where the last item may have a text of its own. -/
def loopText {α : Type} (text : Bool → α → String) : List α → String
  | [] => ""
  | a :: rest => text rest.isEmpty a ++ loopText text rest

theorem loopText_eq_join {α : Type} (text : α → String) (xs : List α) :
    loopText (fun _ => text) xs = String.join (xs.map text) := by
  induction xs with
  | nil => rfl
  | cons a rest ih => simp [loopText, ih, String.join_cons]

section
variable {α : Type} {s : Surroundings} {m : Machine} {x : String} {items : Expr} {body : List Statement}
variable {g : α → Data} {xs : List α} {text : Bool → α → String}

/-- The first item is bound in a new frame, every other one in the frame of the item before it. -/
theorem runItems_eq {count : Nat} (index : Nat) (previous : Option Data) {frame : Frame}
    (hframe : frame = {} ∨ ∃ v state, frame = { locals := [(x, v)], loop := some state })
    (hcount : index + xs.length = count)
    (hbody : ∀ a ∈ xs, ∀ state : LoopState,
      Prints s (m.inLoop x (g a) state) body (text (state.index + 1 = state.count) a)) :
    ∃ m', runItems (fun m => runStatements s m body) (.name x) count index previous (xs.map g)
        { m with frames := frame :: m.frames } = .ok (loopText text xs, m') ∧ m'.pop = m := by
  induction xs generalizing index previous frame with
  | nil => exact ⟨_, rfl, rfl⟩
  | cons a rest ih =>
    let state : LoopState := ⟨index, count, previous, (rest.map g).head?⟩
    have bound : Machine.bindTarget (Machine.modifyTop { m with frames := frame :: m.frames }
        fun f => { f with loop := some state }) (.name x) (.data (g a)) = .ok (m.inLoop x (g a) state) := by
      rcases hframe with rfl | ⟨v, st, rfl⟩ <;>
        simp [Machine.bindTarget, Machine.bind, Machine.modifyTop, Machine.top, Machine.inLoop, Scope.put]
    have last : decide (index + 1 = count) = rest.isEmpty := by
      rw [← hcount]
      cases rest <;> simp
    have first : runStatements s (m.inLoop x (g a) state) body =
        .ok (text rest.isEmpty a, m.inLoop x (g a) state) := last ▸ hbody a (by simp) state
    obtain ⟨m', hrun, hpop⟩ := ih (index + 1) (some (g a)) (.inr ⟨_, state, rfl⟩) (by simp at hcount; omega)
      fun b hb => hbody b (by simp [hb])
    refine ⟨m', ?_, hpop⟩
    simp only [List.map_cons, runItems]
    rw [bound, ok_bind, first, ok_bind, Machine.inLoop, hrun]
    rfl

theorem runStatement_each_of_chosen {condition : Option Expr} {v : Value} {all : List Data}
    (hdepth : m.depth ≤ Machine.maxDepth) (hv : evalExpr s m items = .ok v) (hall : v.items = .ok all)
    (hchosen : selectItems s m (.name x) condition all = .ok (xs.map g))
    (hbody : ∀ a ∈ xs, ∀ state : LoopState,
      Prints s (m.inLoop x (g a) state) body (text (state.index + 1 = state.count) a)) :
    runStatement s m (.each (.name x) items condition body []) = .ok (loopText text xs, m) := by
  obtain ⟨m', hrun, hpop⟩ := runItems_eq 0 none (.inl rfl) (Nat.zero_add _) hbody
  simp only [runStatement, hv, hall, hchosen, Machine.push_eq_ok hdepth, ok_bind]
  cases xs with
  | nil => rfl
  | cons a rest =>
    rw [if_neg (by simp), List.length_map, hrun, ok_bind, hpop]
    rfl

theorem runStatement_each (hdepth : m.depth ≤ Machine.maxDepth)
    (hitems : evalExpr s m items = .ok (.data (.ofList g xs)))
    (hbody : ∀ a ∈ xs, ∀ state : LoopState,
      Prints s (m.inLoop x (g a) state) body (text (state.index + 1 = state.count) a)) :
    runStatement s m (.each (.name x) items none body []) = .ok (loopText text xs, m) :=
  runStatement_each_of_chosen hdepth hitems rfl rfl hbody

/-- A loop whose body prints the same for the last item as for any other. -/
theorem runStatement_each_join {text : α → String} (hdepth : m.depth ≤ Machine.maxDepth)
    (hitems : evalExpr s m items = .ok (.data (.ofList g xs)))
    (hbody : ∀ a ∈ xs, ∀ state, Prints s (m.inLoop x (g a) state) body (text a)) :
    runStatement s m (.each (.name x) items none body []) = .ok (String.join (xs.map text), m) := by
  rw [← loopText_eq_join]
  exact runStatement_each hdepth hitems hbody

theorem filterM_map_eq_ok {ε : Type} {f : Data → Except ε Bool} {p : α → Bool} (h : ∀ a ∈ xs, f (g a) = .ok (p a)) :
    (xs.map g).filterM f = .ok ((xs.filter p).map g) := by
  have after (before : List Data) :
      List.filterAuxM f (xs.map g) before = .ok (((xs.filter p).map g).reverse ++ before) := by
    induction xs generalizing before with
    | nil => rfl
    | cons a rest ih =>
      simp only [List.map_cons, List.filterAuxM, h a (by simp), ok_bind, ih fun b hb => h b (by simp [hb])]
      cases hp : p a <;> simp [hp]
  simp only [List.filterM, after, ok_bind, List.append_nil, List.reverse_reverse]
  rfl

/-- A loop over those items for which a condition holds. -/
theorem runStatement_each_selected {condition : Expr} {p : α → Bool} {text : α → String}
    (hdepth : m.depth ≤ Machine.maxDepth)
    (hitems : evalExpr s m items = .ok (.data (.ofList g xs)))
    (hp : ∀ a ∈ xs, (evalExpr s (m.inSelection x (g a)) condition >>= Value.isTrue) = .ok (p a))
    (hbody : ∀ a ∈ xs, p a = true → ∀ state, Prints s (m.inLoop x (g a) state) body (text a)) :
    runStatement s m (.each (.name x) items (some condition) body []) =
      .ok (String.join ((xs.filter p).map text), m) := by
  have chosen : selectItems s m (.name x) (some condition) (xs.map g) = .ok ((xs.filter p).map g) := by
    simp only [selectItems, Machine.push_eq_ok hdepth, ok_bind]
    exact filterM_map_eq_ok hp
  rw [← loopText_eq_join]
  exact runStatement_each_of_chosen hdepth hitems rfl chosen fun a ha =>
    hbody a (List.mem_of_mem_filter ha) (List.mem_filter.mp ha).2

end

/-! ## Calls -/

/-- A call of a definition of one parameter whose body uses no other name. -/
theorem callValue_routine {library : Library} {level : Nat} {m : Machine} {name x : String} {body : List Statement}
    {v : Value} {text : String} (hdepth : m.depth + Machine.callCost + 2 ≤ Machine.maxDepth)
    (hbody : Prints (surroundings library level) (m.inCall x v) body text) :
    callValue (surroundings library (level + 1)) m (.routine ⟨name, [⟨x, none⟩], body, false, none⟩) [v] [] =
      .ok (.text text) := by
  let inner : Machine := { m with frames := [{}, { given := m.given }], below := m.depth + Machine.callCost }
  have entered : m.enter ⟨name, [⟨x, none⟩], body, false, none⟩ = .ok inner := by
    have shallow : inner.checkDepth = .ok () := Machine.checkDepth_eq_ok hdepth
    simp only [Machine.enter]
    exact congrArg (· >>= fun _ => pure inner) shallow
  have bound : bindParams (surroundings library level) [(⟨x, none⟩, v)] inner = .ok (m.inCall x v) := by
    cases v <;> rfl
  simp only [callValue, bindArgs, argumentFor, List.head?_cons, List.lookup_nil, List.tail_cons, ok_bind, entered,
    surroundings, List.any_nil, Bool.false_eq_true, if_false, pure_bind]
  rw [bound, ok_bind, hbody]
  rfl

end StatusFrames.Template
