import Mathlib.Logic.Relation
import MonkeyLang.Proofs.Evaluation.Erasure
import MonkeyLang.Proofs.Evaluation.ErrorFree
import MonkeyLang.Proofs.Evaluation.Stages

/-!
# What evaluation visits

The evaluation of a program visits its statements, their parts, and the statements in the bodies of
the functions that it calls.  A visit (`Visit`) is the evaluation of some code in a frame, from a
state; it leads to the parts of the code that have their turn, and if the code is a call, to the
statements of the body that have theirs (`Visit.Leads`).

Visits do not depend on spans (`Visits.alike`).
-/

namespace MonkeyLang

/-! ## Entering a function -/

/-- Makes the frame that a call of the function runs in, and binds the parameters. -/
def Closure.enter (f : Closure) (args : List Value) : Eval FrameId := do
  Eval.note .functionCall
  let scope ← Eval.enter f.scope
  bindParameters scope f.parameters args
  return scope

lemma apply_function (table : BuiltinTable) (depth : Nat) (f : Closure) (args : List Value) :
    apply table (depth + 1) (.function f) args = Eval.catchReturn (do
      let scope ← f.enter args
      evalBlock table (apply table depth) f.body scope) := by
  rw [apply, Closure.enter]
  simp only [bind_assoc, pure_bind]

lemma bindParameters_eq_value (scope : FrameId) (parameters : List Ident) (args : List Value)
    (s : State) : ∃ t, bindParameters scope parameters args s = .value () t := by
  induction parameters generalizing args s with
  | nil => exact ⟨s, rfl⟩
  | cons p ps ih =>
    cases args with
    | nil => exact ⟨s, rfl⟩
    | cons v vs => exact ih vs _

/-- A function is always entered, in the next frame. -/
lemma Closure.enter_eq_value (f : Closure) (args : List Value) (s : State) :
    ∃ t, f.enter args s = .value s.frames.size t := by
  let u : State := s.note .functionCall
  have hsize : u.frames.size = s.frames.size := by rw [State.frames_note]
  obtain ⟨t, ht⟩ := bindParameters_eq_value u.frames.size f.parameters args
    { u with frames := (u.frames.child f.scope).2 }
  refine ⟨t, ?_⟩
  rw [← hsize]
  calc f.enter args s
      = (do bindParameters u.frames.size f.parameters args; return u.frames.size)
          { u with frames := (u.frames.child f.scope).2 } := rfl
    _ = .value u.frames.size t := by
      rw [Eval.bind_apply, ht]
      rfl

/-! ## Visits -/

/-- An evaluation of code in a frame, from a state, where calls may be nested up to a depth. -/
structure Visit where
  depth : Nat
  code : Code
  scope : FrameId
  state : State

section

variable (table : BuiltinTable)

/-- Code among the stages has its turn: the stages before have values, which may decide what
stages there are. -/
inductive Turn (depth : Nat) (scope : FrameId) (stages : List Value → List Stage) (s : State) :
    Visit → Prop where
  | intro {before after : List Stage} {c : Code} {vs : List Value} {t : State}
      (place : stages vs = before ++ .part c :: after)
      (passes : Passes table (apply table depth) scope before .null s vs t) :
      Turn depth scope stages s ⟨depth, c, scope, t⟩

/-- The first visit leads to the second one directly. -/
inductive Visit.Leads : Visit → Visit → Prop where
  | part {depth : Nat} {c : Code} {scope : FrameId} {s : State} {v : Visit}
      (turn : Turn table depth scope c.stages s v) : Visit.Leads ⟨depth, c, scope, s⟩ v
  | body {depth : Nat} {token : Token} {callee : Expr} {arguments : List Expr}
      {scope frame : FrameId} {s t u : State} {f : Closure} {args : List Value} {v : Visit}
      (passes : Passes table (apply table (depth + 1)) scope
        ((callee :: arguments).map .expression) .null s (.function f :: args) t)
      (enters : f.enter args t = .value frame u)
      (turn : Turn table depth frame (fun _ => f.body.statements.map .statement) u v) :
      Visit.Leads ⟨depth + 1, .expression (.call token callee arguments), scope, s⟩ v

/-- The evaluation of the statements in the frame, from the state, visits some code. -/
def Visits (depth : Nat) (scope : FrameId) (ss : List Stmt) (s : State) (v : Visit) : Prop :=
  ∃ v₀, Turn table depth scope (fun _ => ss.map .statement) s v₀ ∧
    Relation.ReflTransGen (Visit.Leads table) v₀ v

end

/-! ## Stages with other tokens -/

/-- The code with other tokens. -/
def Code.mapTokens (f : Token → Token) : Code → Code
  | .expression e => .expression (e.mapTokens f)
  | .statement s => .statement (s.mapTokens f)

/-- The stage with other tokens. -/
def Stage.mapTokens (f : Token → Token) : Stage → Stage
  | .part c => .part (c.mapTokens f)
  | .keyCheck => .keyCheck

lemma Code.opening_mapTokens (f : Token → Token) (c : Code) :
    (c.mapTokens f).opening = c.opening.map (Stage.mapTokens f) := by
  match c with
  | .expression (.call _ _ _) | .expression (.array _ _) =>
    simp only [mapTokens, Expr.mapTokens, opening, mapTokensExprs_eq_map, ← List.map_cons,
      List.map_map]
    rfl
  | .expression (.hash _ pairs) =>
    simp only [mapTokens, Expr.mapTokens, opening, mapTokensPairs_eq_map, List.flatMap_map,
      List.map_flatMap]
    rfl
  | .expression (.ident _) | .expression (.boolean _ _) | .expression (.integer _ _)
  | .expression (.string _ _) | .expression (.function _ _ _) | .expression (.unary _ _ _)
  | .expression (.binary _ _ _ _) | .expression (.index _ _ _)
  | .expression (.conditional _ _ _ _) | .statement (.letStmt _ _ _)
  | .statement (.returnStmt _ _) | .statement (.exprStmt _ _) => rfl

lemma Block.stages_mapTokens (f : Token → Token) (b : Block) :
    (b.mapTokens f).statements.map Stage.statement =
      (b.statements.map Stage.statement).map (Stage.mapTokens f) := by
  rw [statements_mapTokens, List.map_map, List.map_map]
  rfl

/-- A conditional goes on alike with other tokens and other values that are as true. -/
lemma Code.chosen_mapTokens (f : Token → Token) (c : Code) {vs ws : List Value}
    (h : ws.map Value.isTruthy = vs.map Value.isTruthy) :
    (c.mapTokens f).chosen ws = (c.chosen vs).map (Stage.mapTokens f) := by
  match c with
  | .expression (.conditional _ _ consequence alternative) =>
    match vs, ws, h with
    | [], [], _ => rfl
    | v :: _, w :: _, h =>
      have hw : w.isTruthy = v.isTruthy := (List.cons.inj h).1
      simp only [mapTokens, Expr.mapTokens, chosen, hw]
      split
      · exact consequence.stages_mapTokens f
      · cases alternative with
        | none => rfl
        | some block => exact block.stages_mapTokens f
  | .expression (.ident _) | .expression (.boolean _ _) | .expression (.integer _ _)
  | .expression (.string _ _) | .expression (.function _ _ _) | .expression (.unary _ _ _)
  | .expression (.binary _ _ _ _) | .expression (.index _ _ _) | .expression (.call _ _ _)
  | .expression (.array _ _) | .expression (.hash _ _) | .statement (.letStmt _ _ _)
  | .statement (.returnStmt _ _) | .statement (.exprStmt _ _) => rfl

lemma Code.stages_mapTokens (f : Token → Token) (c : Code) {vs ws : List Value}
    (h : ws.map Value.isTruthy = vs.map Value.isTruthy) :
    (c.mapTokens f).stages ws = (c.stages vs).map (Stage.mapTokens f) := by
  rw [stages, stages, List.map_append, c.opening_mapTokens, c.chosen_mapTokens f h]

lemma Code.mapTokens_id (c : Code) : c.mapTokens id = c := by
  cases c with
  | expression e => rw [mapTokens, e.mapTokens_id]
  | statement s => rw [mapTokens, s.mapTokens_id]

lemma Stage.mapTokens_id : Stage.mapTokens id = id := by
  funext stage
  cases stage with
  | part c => rw [mapTokens, c.mapTokens_id, id]
  | keyCheck => rfl

/-- Values that are as true decide on the same stages. -/
lemma Code.stages_congr (c : Code) {vs ws : List Value}
    (h : ws.map Value.isTruthy = vs.map Value.isTruthy) : c.stages ws = c.stages vs := by
  have hstages := c.stages_mapTokens id h
  rwa [c.mapTokens_id, Stage.mapTokens_id, List.map_id] at hstages

/-! ## Stages that agree -/

/-- The code does no more than allowed in its frame. -/
def Code.Within (a : Allowance) : Code → Prop
  | .expression e => e.Within a
  | .statement s => s.Within a

/-- The stage does no more than allowed in its frame. -/
def Stage.Within (a : Allowance) : Stage → Prop
  | .part c => c.Within a
  | .keyCheck => True

lemma Code.within_all (c : Code) : c.Within .all := by
  cases c with
  | expression e => exact e.within_all
  | statement s => exact s.within_all

lemma Stage.within_all (stage : Stage) : stage.Within .all := by
  cases stage with
  | part c => exact c.within_all
  | keyCheck => trivial

namespace Correspondence

variable {W : Type} [Preorder W] {C : Correspondence W} {w : W} {table : BuiltinTable}
  {call call' : Value → List Value → Eval Value} {rename : Token → Token} {a : Allowance}
  {i i' : FrameId}

lemma agree_eval (table : BuiltinTable) (hcall : C.CallsAgree call call') (c : Code)
    (ha : c.Within a) (hosts : C.Hosts rename a w i i') :
    C.Agree w C.values (c.eval table call i) ((c.mapTokens rename).eval table call' i') := by
  cases c with
  | expression e => exact evalExpr_agree hcall e ha hosts
  | statement s => exact evalStmt_agree hcall s ha hosts

lemma agree_stage (hcall : C.CallsAgree call call') (stage : Stage) (ha : stage.Within a)
    (hosts : C.Hosts rename a w i i') {last last' : Value} (hlast : C.values w last last') :
    C.Agree w C.values (stage.eval table call i last)
      ((stage.mapTokens rename).eval table call' i' last') := by
  cases stage with
  | part c => exact agree_eval table hcall c ha hosts
  | keyCheck =>
    rw [Stage.mapTokens, Stage.eval, Stage.eval, hlast.requireHashKey_eq]
    refine (Agree.ofExcept (ExceptRelated.refl_eq _) fun _ _ h _ _ => h).bind fun w₁ hw₁ _ _ _ => ?_
    exact Agree.pure fun w₂ hw₂ => C.values_mono (le_trans hw₁ hw₂) hlast

/-- Stages agree with themselves, with other tokens and in another frame. -/
lemma agree_stages (table : BuiltinTable) (hcall : C.CallsAgree call call') (stages : List Stage)
    (ha : ∀ stage ∈ stages, stage.Within a) (hosts : C.Hosts rename a w i i')
    {last last' : Value} (hlast : C.values w last last') :
    C.Agree w C.lists (evalStages table call i stages last)
      (evalStages table call' i' (stages.map (Stage.mapTokens rename)) last') := by
  induction stages generalizing w last last' with
  | nil => exact Agree.pure fun _ _ => .nil
  | cons stage stages ih =>
    rw [List.forall_mem_cons] at ha
    rw [List.map_cons, evalStages, evalStages]
    refine (agree_stage hcall stage ha.1 hosts hlast).bind fun w₁ hw₁ v v' hv => ?_
    refine (ih ha.2 (hosts.mono hw₁) hv).bind fun w₂ hw₂ vs vs' hvs => ?_
    exact Agree.pure fun w₃ hw₃ =>
      .cons (C.values_mono (le_trans hw₂ hw₃) hv) (C.lists_mono hw₃ hvs)

/-- Related functions are entered alike. -/
lemma agree_enter (henter : C.Enterable rename) {f f' : Closure}
    (closures : (C.leaves w).closures f f') {args args' : List Value}
    (hargs : C.lists w args args') :
    C.Agree w (fun w' j j' => ∃ a, f.body.Within a ∧ C.Hosts rename a w' j j')
      (f.enter args) (f'.enter args') := by
  obtain ⟨hparameters, -, a, hwithin, hbinds, hentered⟩ := henter w f f' closures
  rw [Closure.enter, Closure.enter, hparameters]
  refine (Agree.note _).bind fun w₁ hw₁ _ _ _ => ?_
  refine (hentered.mono hw₁).bind fun w₂ hw₂ j j' hosts => ?_
  have hargs₂ := C.lists_mono (le_trans hw₁ hw₂) hargs
  refine (bindParameters_agree _ hbinds hosts hargs₂).bind fun w₃ hw₃ _ _ _ => ?_
  exact Agree.pure fun w₄ hw₄ => ⟨a, hwithin, hosts.mono (le_trans hw₃ hw₄)⟩

end Correspondence

/-! ## Visits that are alike -/

/-- The visit without spans. -/
def Visit.eraseSpans (v : Visit) : Visit :=
  { v with code := v.code.mapTokens .eraseSpan, state := v.state.eraseSpans }

/-- The stage without spans. -/
abbrev Stage.eraseSpans : Stage → Stage := Stage.mapTokens Token.eraseSpan

section

variable {table : BuiltinTable} {depth : Nat} {scope : FrameId} {s s' t : State}

lemma isTruthy_of_alike {vs vs' : List Value}
    (h : vs'.map Value.eraseSpans = vs.map Value.eraseSpans) :
    vs'.map Value.isTruthy = vs.map Value.isTruthy := by
  have htruthy : Value.isTruthy ∘ Value.eraseSpans = Value.isTruthy :=
    funext fun v => v.isTruthy_mapClosures _
  rw [← htruthy, ← List.map_map, h, List.map_map]

/-- What agrees with one and the same evaluation without spans ends alike. -/
lemma erasing.value_of_alike {α β : Type} {Q Q' : Nat → α → β → Prop} {m m' : Eval α}
    {n : Eval β} (h : erasing.Agree 0 Q m n) (h' : erasing.Agree 0 Q' m' n)
    (hs : s'.eraseSpans = s.eraseSpans) {a : α} (ha : m s = .value a t) :
    ∃ a' t' b w w', m' s' = .value a' t' ∧ t'.eraseSpans = t.eraseSpans ∧
      Q w a b ∧ Q' w' a' b := by
  have houtcomes := h 0 (le_refl _) s _ rfl
  have houtcomes' := h' 0 (le_refl _) s' _ rfl
  rw [hs] at houtcomes'
  rw [ha] at houtcomes
  generalize n s.eraseSpans = o at houtcomes houtcomes'
  generalize m' s' = o' at houtcomes' ⊢
  cases houtcomes with
  | value _ states related =>
    cases houtcomes' with
    | value _ states' related' =>
      exact ⟨_, _, _, _, _, rfl, states'.symm.trans states, related, related'⟩

lemma erasing.callsAgree (table : BuiltinTable) (depth : Nat) :
    erasing.CallsAgree (apply table depth) (apply table depth) :=
  Correspondence.apply_agree erasing.enterable depth

lemma erasing.lists_iff {w : Nat} {vs vs' : List Value} :
    erasing.lists w vs vs' ↔ vs' = vs.map Value.eraseSpans := by
  rw [← mapClosuresElements_eq_map]
  constructor
  · exact fun h => h.eq_mapClosures fun _ _ hf => hf
  · rintro rfl
    exact relatedElements_mapClosures (fun _ => rfl) (fun _ => trivial) vs

/-- Stages that are equal up to spans have values that are. -/
lemma Passes.alike {stages stages' : List Stage} {last last' : Value} {vs : List Value}
    (hstages : stages'.map Stage.eraseSpans = stages.map Stage.eraseSpans)
    (hlast : last'.eraseSpans = last.eraseSpans) (hs : s'.eraseSpans = s.eraseSpans)
    (h : Passes table (apply table depth) scope stages last s vs t) :
    ∃ vs' t', Passes table (apply table depth) scope stages' last' s' vs' t' ∧
      vs'.map Value.eraseSpans = vs.map Value.eraseSpans ∧ t'.eraseSpans = t.eraseSpans := by
  have hcalls := erasing.callsAgree table depth
  have hagree := Correspondence.agree_stages table hcalls stages
    (fun stage _ => stage.within_all) (erasing.hosts (w := 0) scope)
    (erasing.values_eraseSpans last)
  have hagree' := Correspondence.agree_stages table hcalls stages'
    (fun stage _ => stage.within_all) (erasing.hosts (w := 0) scope)
    (erasing.values_eraseSpans last')
  rw [hstages, hlast] at hagree'
  obtain ⟨vs', t', us, _, _, hvs', ht, hlists, hlists'⟩ :=
    erasing.value_of_alike hagree hagree' hs (evalStages_eq_value_iff.2 h)
  refine ⟨vs', t', evalStages_eq_value_iff.1 hvs', ?_, ht⟩
  rw [← erasing.lists_iff.1 hlists', erasing.lists_iff.1 hlists]

/-- Functions that are equal up to spans are entered alike. -/
lemma Closure.enter_alike {f f' : Closure} {args args' : List Value} {frame : FrameId}
    (hf : f'.eraseSpans = f.eraseSpans)
    (hargs : args'.map Value.eraseSpans = args.map Value.eraseSpans)
    (hs : s'.eraseSpans = s.eraseSpans) (h : f.enter args s = .value frame t) :
    ∃ t', f'.enter args' s' = .value frame t' ∧ t'.eraseSpans = t.eraseSpans := by
  have hagree := Correspondence.agree_enter (C := erasing) (w := 0) erasing.enterable
    (f := f) rfl (erasing.lists_iff.2 rfl : erasing.lists 0 args _)
  have hagree' := Correspondence.agree_enter (C := erasing) (w := 0) erasing.enterable
    (f := f') rfl (erasing.lists_iff.2 rfl : erasing.lists 0 args' _)
  rw [hf, hargs] at hagree'
  obtain ⟨frame', t', _, _, _, ht', ht, -, -⟩ := erasing.value_of_alike hagree hagree' hs h
  obtain ⟨_, henter⟩ := f.enter_eq_value args s
  obtain ⟨_, henter'⟩ := f'.enter_eq_value args' s'
  have hsize : s'.frames.size = s.frames.size := by
    rw [← Frames.size_mapClosures (h := Closure.eraseSpans) s'.frames,
      ← Frames.size_mapClosures (h := Closure.eraseSpans) s.frames]
    exact congrArg (fun u : State => u.frames.size) hs
  have hframe : frame' = frame := by
    rw [h] at henter
    rw [ht'] at henter'
    injection henter with hframe
    injection henter' with hframe'
    rw [hframe, hframe', hsize]
  exact ⟨t', hframe ▸ ht', ht⟩

/-- Code that has its turn has it among stages that are equal up to spans, too. -/
lemma Turn.alike {stages stages' : List Value → List Stage} {v : Visit}
    (hstages : ∀ vs, (stages' vs).map Stage.eraseSpans = (stages vs).map Stage.eraseSpans)
    (hstable : ∀ vs vs', vs'.map Value.isTruthy = vs.map Value.isTruthy → stages' vs' = stages' vs)
    (hs : s'.eraseSpans = s.eraseSpans) (h : Turn table depth scope stages s v) :
    ∃ v', Turn table depth scope stages' s' v' ∧ v'.eraseSpans = v.eraseSpans := by
  obtain ⟨place, passes⟩ := h
  rename_i before after c vs t
  have hplace := hstages vs
  rw [place, List.map_append, List.map_cons] at hplace
  obtain ⟨before', rest', hrest, hbefore, hmap⟩ := List.map_eq_append_iff.1 hplace
  obtain ⟨stage', after', rfl, hstage, -⟩ := List.map_eq_cons_iff.1 hmap
  cases stage' with
  | keyCheck => cases hstage
  | part c' =>
    obtain ⟨vs', t', hpasses, hvs, ht⟩ := passes.alike hbefore rfl hs
    have hplace' : stages' vs' = before' ++ .part c' :: after' := by
      rw [hstable vs vs' (isTruthy_of_alike hvs), hrest]
    refine ⟨⟨depth, c', scope, t'⟩, .intro hplace' hpasses, ?_⟩
    rw [Visit.eraseSpans, Visit.eraseSpans, ht, Stage.part.inj hstage]

lemma Code.stages_alike {c c' : Code}
    (h : c'.mapTokens Token.eraseSpan = c.mapTokens Token.eraseSpan) (vs : List Value) :
    (c'.stages vs).map Stage.eraseSpans = (c.stages vs).map Stage.eraseSpans := by
  rw [← c'.stages_mapTokens _ rfl, ← c.stages_mapTokens _ rfl, h]

lemma stages_alike_of_statements {ss ss' : List Stmt}
    (h : ss'.map (Stmt.mapTokens .eraseSpan) = ss.map (Stmt.mapTokens .eraseSpan)) :
    (ss'.map Stage.statement).map Stage.eraseSpans =
      (ss.map Stage.statement).map Stage.eraseSpans := by
  have hstage : Stage.eraseSpans ∘ Stage.statement = Stage.statement ∘ Stmt.mapTokens .eraseSpan :=
    rfl
  rw [List.map_map, List.map_map, hstage, ← List.map_map, h, List.map_map]

lemma Closure.stages_alike {f f' : Closure} (h : f'.eraseSpans = f.eraseSpans) :
    (f'.body.statements.map Stage.statement).map Stage.eraseSpans =
      (f.body.statements.map Stage.statement).map Stage.eraseSpans := by
  have hbody : f'.body.mapTokens .eraseSpan = f.body.mapTokens .eraseSpan := congrArg body h
  refine stages_alike_of_statements ?_
  rw [← Block.statements_mapTokens, ← Block.statements_mapTokens, hbody]

/-- Code that is equal to a call up to spans is a call of equal parts. -/
lemma Code.call_of_alike {c : Code} {token : Token} {callee : Expr} {arguments : List Expr}
    (h : c.mapTokens .eraseSpan =
      (Code.expression (.call token callee arguments)).mapTokens .eraseSpan) :
    ∃ token' callee' arguments', c = .expression (.call token' callee' arguments') ∧
      ((callee' :: arguments').map Stage.expression).map Stage.eraseSpans =
        ((callee :: arguments).map Stage.expression).map Stage.eraseSpans := by
  cases c with
  | statement => cases h
  | expression e =>
    cases e with
    | call token' callee' arguments' =>
      refine ⟨token', callee', arguments', rfl, ?_⟩
      exact (opening_mapTokens _ _).symm.trans ((congrArg opening h).trans (opening_mapTokens _ _))
    | _ => cases h

lemma function_of_alike {vs : List Value} {f : Closure} {args : List Value}
    (h : vs.map Value.eraseSpans = (Value.function f :: args).map Value.eraseSpans) :
    ∃ f' args', vs = .function f' :: args' ∧ f'.eraseSpans = f.eraseSpans ∧
      args'.map Value.eraseSpans = args.map Value.eraseSpans := by
  obtain ⟨v, args', rfl, hv, hargs⟩ := List.map_eq_cons_iff.1 h
  cases v with
  | function f' => exact ⟨f', args', rfl, Value.function.inj hv, hargs⟩
  | _ => cases hv

/-- Visits that are equal up to spans lead to visits that are. -/
lemma Visit.Leads.alike {v v' u : Visit} (hv : v'.eraseSpans = v.eraseSpans)
    (h : Leads table v u) : ∃ u', Leads table v' u' ∧ u'.eraseSpans = u.eraseSpans := by
  obtain ⟨depth', c', scope', s'⟩ := v'
  cases h with
  | @part depth c scope s _ turn =>
    simp only [eraseSpans, Visit.mk.injEq] at hv
    obtain ⟨rfl, hc, rfl, hs⟩ := hv
    obtain ⟨u', hturn, hu⟩ := turn.alike (Code.stages_alike hc)
      (fun vs vs' hvs => c'.stages_congr hvs) hs
    exact ⟨u', .part hturn, hu⟩
  | @body depth token callee arguments scope frame s t w f args _ passes enters turn =>
    simp only [eraseSpans, Visit.mk.injEq] at hv
    obtain ⟨rfl, hc, rfl, hs⟩ := hv
    obtain ⟨token', callee', arguments', rfl, hparts⟩ := Code.call_of_alike hc
    obtain ⟨vs', t', hpasses, hvs, ht⟩ := passes.alike hparts rfl hs
    obtain ⟨f', args', rfl, hf, hargs⟩ := function_of_alike hvs
    obtain ⟨w', henters, hw⟩ := Closure.enter_alike hf hargs ht enters
    obtain ⟨u', hturn, hu⟩ := turn.alike (fun _ => Closure.stages_alike hf) (fun _ _ _ => rfl) hw
    exact ⟨u', .body hpasses henters hturn, hu⟩

/-- What statements visit is visited, up to spans, by statements that are equal up to spans. -/
theorem Visits.alike {ss ss' : List Stmt} {v : Visit}
    (hss : ss'.map (Stmt.mapTokens .eraseSpan) = ss.map (Stmt.mapTokens .eraseSpan))
    (hs : s'.eraseSpans = s.eraseSpans) (h : Visits table depth scope ss s v) :
    ∃ v', Visits table depth scope ss' s' v' ∧ v'.eraseSpans = v.eraseSpans := by
  obtain ⟨v₀, turn, leads⟩ := h
  obtain ⟨v₀', turn', hv₀⟩ := turn.alike (fun _ => stages_alike_of_statements hss)
    (fun _ _ _ => rfl) hs
  induction leads with
  | refl => exact ⟨v₀', ⟨v₀', turn', .refl⟩, hv₀⟩
  | tail _ last ih =>
    obtain ⟨u', ⟨v₁', turn₁, leads'⟩, hu⟩ := ih
    obtain ⟨w', last', hw⟩ := last.alike hu
    exact ⟨w', ⟨v₁', turn₁, leads'.tail last'⟩, hw⟩

end

end MonkeyLang
