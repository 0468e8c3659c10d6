import Mathlib.Data.List.Basic
import MonkeyLang.Proofs.Evaluation.HashLiterals
import MonkeyLang.Proofs.Evaluation.Locality

/-!
# Stages of evaluation

Expressions and statements, `Code`, are evaluated in stages.  The parts of the code have their turn
from left to right; a hash literal checks that the value of a key can be a key before it goes on to
the value; and a conditional goes on with the statements of the block that its condition chooses.
Behind all stages stands what the code itself does with their values (`Code.conclude`).

Which stages there are depends on values only in a conditional, so `Code.stages` lists them as far
as the values of the first ones are known.  A stage that signals is the last one: nothing behind it
is evaluated.
-/

namespace MonkeyLang

/-! ## Code and its stages -/

/-- An expression or a statement. -/
inductive Code where
  | expression (e : Expr)
  | statement (s : Stmt)

/-- What has its turn in the evaluation of code. -/
inductive Stage where
  | part (c : Code)
  /-- The check that the value of the stage before can be a key. -/
  | keyCheck

namespace Stage

/-- The evaluation of a part that is an expression. -/
abbrev expression (e : Expr) : Stage := .part (.expression e)

/-- The evaluation of a part that is a statement. -/
abbrev statement (s : Stmt) : Stage := .part (.statement s)

/-- The stages of a pair of a hash literal. -/
def ofPair (pair : Expr × Expr) : List Stage :=
  [expression pair.1, keyCheck, expression pair.2]

end Stage

namespace Code

/-- The stages that do not depend on values. -/
def opening : Code → List Stage
  | .expression (.unary _ _ operand) => [.expression operand]
  | .expression (.binary _ left _ right) => [.expression left, .expression right]
  | .expression (.conditional _ condition _ _) => [.expression condition]
  | .expression (.call _ callee arguments) => (callee :: arguments).map .expression
  | .expression (.array _ elements) => elements.map .expression
  | .expression (.index _ base position) => [.expression base, .expression position]
  | .expression (.hash _ pairs) => pairs.flatMap Stage.ofPair
  | .expression (.ident _) | .expression (.boolean _ _) | .expression (.integer _ _)
  | .expression (.string _ _) | .expression (.function _ _ _) => []
  | .statement s => [.expression s.value]

/-- The statements of the block that a conditional goes on with, once its condition has a value. -/
def chosen : Code → List Value → List Stage
  | .expression (.conditional _ _ consequence alternative), v :: _ =>
    (if v.isTruthy then consequence.statements
      else (alternative.map Block.statements).getD []).map .statement
  | _, _ => []

/-- The stages of code in their order, as far as they are known when the first ones have the given
values. -/
def stages (c : Code) (vs : List Value) : List Stage := c.opening ++ c.chosen vs

end Code

/-- The keys and values of a hash literal, among the values of its stages. -/
def pairsOfStages : List Value → List (Value × Value)
  | _ :: key :: value :: vs => (key, value) :: pairsOfStages vs
  | _ => []

/-! ## Evaluation of stages -/

section

variable (table : BuiltinTable) (call : Value → List Value → Eval Value) (scope : FrameId)

/-- The value of an expression or a statement. -/
def Code.eval : Code → Eval Value
  | .expression e => evalExpr table call e scope
  | .statement s => evalStmt table call s scope

/-- The value of a stage behind one with a given value.  A key that passes the check is the value
again. -/
def Stage.eval : Stage → Value → Eval Value
  | .part c, _ => c.eval table call scope
  | .keyCheck, key => do
    let _ ← Eval.ofExcept key.requireHashKey
    return key

/-- The values of stages, one behind the other. -/
def evalStages : List Stage → Value → Eval (List Value)
  | [], _ => return []
  | stage :: stages, last => do
    let v ← stage.eval table call scope last
    let vs ← evalStages stages v
    return v :: vs

/-- What code does with the values of its stages, of which there is one for each stage. -/
def Code.conclude : Code → List Value → Eval Value
  | .expression (.ident id), _ => evalName table id.name scope
  | .expression (.boolean _ b), _ => return .boolean b
  | .expression (.integer _ n), _ => return .integer n
  | .expression (.string _ s), _ => return .string s
  | .expression (.function _ parameters body), _ => Eval.makeFunction parameters body scope
  | .expression (.unary _ op _), v :: _ => Eval.ofExcept (op.apply v)
  | .expression (.binary _ _ op _), l :: r :: _ => Eval.ofExcept (op.apply l r)
  | .expression (.conditional _ _ _ _), _ :: vs => return vs.getLast?.getD .null
  | .expression (.call _ _ _), f :: args => call f args
  | .expression (.array _ _), vs => return .array vs
  | .expression (.index _ _ _), b :: i :: _ => Eval.ofExcept (b.index i)
  | .expression (.hash _ _), vs => return .hash (HashTable.filePairs (pairsOfStages vs) [])
  | .statement (.letStmt _ name _), v :: _ => do
    Eval.assign scope name.name v
    return v
  | .statement (.returnStmt _ _), v :: _ => Eval.raise (.returned v)
  | .statement (.exprStmt _ _), v :: _ => return v
  | _, _ => Eval.exhausted

/-- The stages have values, one behind the other, and lead from one state to another. -/
inductive Passes : List Stage → Value → State → List Value → State → Prop
  | nil {last : Value} {s : State} : Passes [] last s [] s
  | cons {stage : Stage} {stages : List Stage} {last v : Value} {vs : List Value} {s s₁ t : State}
      (first : stage.eval table call scope last s = .value v s₁)
      (others : Passes stages v s₁ vs t) : Passes (stage :: stages) last s (v :: vs) t

end

section

variable {table : BuiltinTable} {call : Value → List Value → Eval Value} {scope : FrameId}

/-! ## Lists of stages -/

lemma evalExprs_eq_evalStages (es : List Expr) (last : Value) :
    evalExprs table call es scope =
      evalStages table call scope (es.map Stage.expression) last := by
  induction es generalizing last with
  | nil => rfl
  | cons e es ih =>
    rw [evalExprs, List.map_cons, evalStages]
    refine bind_congr fun v => ?_
    rw [ih v]

lemma evalStmts_eq_evalStages (ss : List Stmt) (o : Option Value) (last : Value) :
    evalStmts table call ss scope o = (do
      let vs ← evalStages table call scope (ss.map Stage.statement) last
      return vs.getLast?.or o) := by
  induction ss generalizing o last with
  | nil => rfl
  | cons s ss ih =>
    rw [evalStmts, List.map_cons, evalStages, bind_assoc]
    refine bind_congr fun v => ?_
    rw [ih (some v) v, bind_assoc]
    refine bind_congr fun vs => ?_
    rw [pure_bind, List.getLast?_cons]
    cases vs.getLast? <;> rfl

/-- The pairs of a hash literal are filed when all their stages have values. -/
lemma evalPairs_eq_evalStages (pairs : List (Expr × Expr)) (filed : HashTable Value)
    (last : Value) :
    evalPairs table call pairs scope filed = (do
      let vs ← evalStages table call scope (pairs.flatMap Stage.ofPair) last
      return HashTable.filePairs (pairsOfStages vs) filed) := by
  induction pairs generalizing filed last with
  | nil => rfl
  | cons pair pairs ih =>
    obtain ⟨key, value⟩ := pair
    rw [evalPairs, List.flatMap_cons, Stage.ofPair]
    simp only [List.cons_append, List.nil_append, evalStages, bind_assoc, pure_bind]
    refine bind_congr fun k => ?_
    rw [Stage.eval, Value.requireHashKey]
    cases hkey : k.hashKey? with
    | none => rfl
    | some hashKey =>
      simp only [Eval.ofExcept, pure_bind]
      refine bind_congr fun v => ?_
      rw [ih _ v]
      refine bind_congr fun vs => ?_
      rw [pairsOfStages, HashTable.filePairs, hkey]

/-- The value of a block is that of its last statement. -/
lemma evalBlock_eq_evalStages (b : Block) (last : Value) :
    evalBlock table call b scope = (do
      let vs ← evalStages table call scope (b.statements.map Stage.statement) last
      return vs.getLast?.getD .null) := by
  obtain ⟨_, ss⟩ := b
  rw [evalBlock, evalStmts_eq_evalStages ss none last, bind_assoc]
  refine bind_congr fun vs => ?_
  rw [pure_bind, Option.or_none]

lemma evalAlternative_eq_evalStages (alternative : Option Block) (last : Value) :
    evalAlternative table call alternative scope = (do
      let vs ← evalStages table call scope
        (((alternative.map Block.statements).getD []).map Stage.statement) last
      return vs.getLast?.getD .null) := by
  cases alternative with
  | none => rfl
  | some b => exact evalBlock_eq_evalStages b last

/-- Code is evaluated in its stages, and then concludes. -/
lemma Code.eval_eq (c : Code) : c.eval table call scope = (do
    let vs ← evalStages table call scope c.opening .null
    let ws ← evalStages table call scope (c.chosen vs) (vs.getLastD .null)
    c.conclude table call scope (vs ++ ws)) := by
  match c with
  | .expression (.ident _) | .expression (.boolean _ _) | .expression (.integer _ _)
  | .expression (.string _ _) | .expression (.function _ _ _) => rfl
  | .expression (.unary _ _ _) | .expression (.binary _ _ _ _) | .expression (.index _ _ _)
  | .statement (.letStmt _ _ _) | .statement (.returnStmt _ _) =>
    simp only [opening, Stmt.value, evalStages, bind_assoc, pure_bind]
    rfl
  | .statement (.exprStmt _ value) =>
    simp only [opening, Stmt.value, evalStages, bind_assoc, pure_bind]
    exact (bind_pure (evalExpr table call value scope)).symm
  | .expression (.conditional _ condition consequence alternative) =>
    simp only [opening, evalStages, bind_assoc, pure_bind, eval, evalExpr]
    refine bind_congr fun v => ?_
    rw [chosen, evalBlock_eq_evalStages consequence v, evalAlternative_eq_evalStages alternative v]
    cases v.isTruthy <;> rfl
  | .expression (.call _ callee arguments) =>
    simp only [opening, List.map_cons, evalStages, bind_assoc, pure_bind, eval, evalExpr]
    refine bind_congr fun f => ?_
    rw [evalExprs_eq_evalStages arguments f]
    refine bind_congr fun args => ?_
    simp only [chosen, evalStages, pure_bind, List.append_nil, conclude]
  | .expression (.array _ elements) =>
    rw [opening, eval, evalExpr, evalExprs_eq_evalStages elements .null]
    refine bind_congr fun vs => ?_
    simp only [chosen, evalStages, pure_bind, List.append_nil, conclude]
  | .expression (.hash _ pairs) =>
    rw [opening, eval, evalExpr, evalPairs_eq_evalStages pairs [] .null, bind_assoc]
    refine bind_congr fun vs => ?_
    simp only [chosen, evalStages, pure_bind, List.append_nil, conclude]

/-! ## Stages that pass -/

variable {c : Code} {stage : Stage} {stages before after : List Stage} {last : Value}
  {vs : List Value} {s t u : State} {sig : Signal}

lemma evalStages_eq_value_iff :
    evalStages table call scope stages last s = .value vs t ↔
      Passes table call scope stages last s vs t := by
  constructor
  · intro h
    induction stages generalizing last s vs with
    | nil =>
      injection h with hvs ht
      subst hvs ht
      exact .nil
    | cons stage stages ih =>
      rw [evalStages] at h
      obtain ⟨v, s₁, hfirst, h⟩ := Eval.bind_eq_value_iff.1 h
      obtain ⟨ws, t', hothers, h⟩ := Eval.bind_eq_value_iff.1 h
      injection h with hvs ht
      subst hvs ht
      exact .cons hfirst (ih hothers)
  · intro h
    induction h with
    | nil => rfl
    | cons first _ ih =>
      rw [evalStages, Eval.bind_apply, first]
      simp only [Eval.bind_apply, ih]
      rfl

lemma passes_append : Passes table call scope (before ++ after) last s vs t ↔
    ∃ xs ys s₁, vs = xs ++ ys ∧ Passes table call scope before last s xs s₁ ∧
      Passes table call scope after (xs.getLastD last) s₁ ys t := by
  induction before generalizing last s vs with
  | nil =>
    constructor
    · exact fun h => ⟨[], vs, s, rfl, .nil, h⟩
    · rintro ⟨_, ys, _, rfl, hbefore, hafter⟩
      cases hbefore
      exact hafter
  | cons stage before ih =>
    constructor
    · rintro (_ | ⟨first, others⟩)
      obtain ⟨xs, ys, s₁, rfl, hbefore, hafter⟩ := ih.1 others
      exact ⟨_ :: xs, ys, s₁, rfl, .cons first hbefore, by rwa [List.getLastD_cons]⟩
    · rintro ⟨_, ys, s₁, rfl, hbefore, hafter⟩
      cases hbefore with
      | cons first others =>
        rw [List.getLastD_cons] at hafter
        exact .cons first (ih.2 ⟨_, ys, s₁, rfl, others, hafter⟩)

/-- The values of the opening stages decide which other stages there are. -/
lemma chosen_append (h : Passes table call scope c.opening .null s vs t) (ws : List Value) :
    c.chosen (vs ++ ws) = c.chosen vs := by
  match c with
  | .expression (.conditional _ _ _ _) =>
    cases h with
    | cons => rfl
  | .expression (.ident _) | .expression (.boolean _ _) | .expression (.integer _ _)
  | .expression (.string _ _) | .expression (.function _ _ _) | .expression (.unary _ _ _)
  | .expression (.binary _ _ _ _) | .expression (.index _ _ _) | .expression (.call _ _ _)
  | .expression (.array _ _) | .expression (.hash _ _) | .statement _ => rfl

/-- Code whose stages have values concludes with them. -/
lemma Passes.eval_eq (h : Passes table call scope (c.stages vs) .null s vs t) :
    c.eval table call scope s = c.conclude table call scope vs t := by
  obtain ⟨xs, ys, s₁, rfl, hopening, hchosen⟩ := passes_append.1 h
  rw [chosen_append hopening] at hchosen
  rw [c.eval_eq, Eval.bind_apply, evalStages_eq_value_iff.2 hopening]
  simp only [Eval.bind_apply, evalStages_eq_value_iff.2 hchosen]

/-! ## Stages that signal -/

/-- The first stage that signals ends the evaluation of stages. -/
lemma Passes.evalStages_eq_signal (h : Passes table call scope before last s vs t)
    (signals : stage.eval table call scope (vs.getLastD last) t = .signal sig u)
    (after : List Stage) :
    evalStages table call scope (before ++ stage :: after) last s = .signal sig u := by
  induction h with
  | nil =>
    rw [List.nil_append, evalStages, Eval.bind_apply]
    rw [List.getLastD_nil] at signals
    rw [signals]
  | cons first _ ih =>
    rw [List.getLastD_cons] at signals
    rw [List.cons_append, evalStages, Eval.bind_apply, first]
    simp only [Eval.bind_apply, ih signals]

/-- Evaluation ends with the first stage that signals: with the same signal, and in the state that
the stages up to this one lead to.  So nothing behind it is evaluated, called or bound.  Code whose
stages all have values concludes with these values in the state that the stages lead to. -/
theorem Code.stops_at_first_signal (table : BuiltinTable)
    (call : Value → List Value → Eval Value) (scope : FrameId) (c : Code) :
    (∀ before stage after vs s t sig u, c.stages vs = before ++ stage :: after →
      Passes table call scope before .null s vs t →
      stage.eval table call scope (vs.getLastD .null) t = .signal sig u →
      c.eval table call scope s = .signal sig u) ∧
    ∀ vs s t, Passes table call scope (c.stages vs) .null s vs t →
      c.eval table call scope s = c.conclude table call scope vs t := by
  refine ⟨fun before stage after vs s t sig u hstages hbefore signals => ?_,
    fun vs s t hpasses => hpasses.eval_eq⟩
  have hplace : (∃ rest, c.opening = before ++ stage :: rest) ∨
      ∃ others, before = c.opening ++ others ∧ c.chosen vs = others ++ stage :: after := by
    rcases List.append_eq_append_iff.1 hstages with h | ⟨_ | ⟨first, rest⟩, hopening, hchosen⟩
    · exact .inr h
    · exact .inr ⟨[], by rw [hopening, List.append_nil, List.append_nil], hchosen.symm⟩
    · rw [List.cons_append, List.cons.injEq] at hchosen
      exact .inl ⟨rest, hchosen.1 ▸ hopening⟩
  rw [c.eval_eq, Eval.bind_apply]
  rcases hplace with ⟨rest, hopening⟩ | ⟨others, rfl, hchosen⟩
  · rw [hopening, hbefore.evalStages_eq_signal signals rest]
  · -- The stage stands in the block that a conditional has chosen.
    obtain ⟨xs, ys, s₁, rfl, hopening, hothers⟩ := passes_append.1 hbefore
    rw [chosen_append hopening] at hchosen
    rw [List.getLastD_eq_getLast?, List.getLast?_append, Option.getD_or,
      ← List.getLastD_eq_getLast?, ← List.getLastD_eq_getLast?] at signals
    rw [evalStages_eq_value_iff.2 hopening]
    simp only [Eval.bind_apply, hchosen, hothers.evalStages_eq_signal signals after]

/-- An argument that returns, between one that prints and one that would print. -/
theorem Code.stops_at_first_signal_return :
    let name (n : String) : Expr := .ident ⟨default, n⟩
    let print (text : String) : Expr := .call default (name "puts") [.string default text]
    let leave : Expr := .conditional default (.boolean default true)
      (.mk default [.returnStmt default (.integer default 7)]) none
    let sum : Expr := .call default (name "push") [print "a", leave, print "b"]
    let rebind : Stmt := .letStmt default ⟨default, "x"⟩ sum
    let s : State := ⟨#[⟨[("x", .integer 0)], none⟩], 0, "", []⟩
    ∃ t, evalStmt .standard (apply .standard 0) rebind globalFrame s =
        .signal (.returned (.integer 7)) t ∧
      t.printed = "a\n" ∧ t.frames.lookup globalFrame "x" = some (.integer 0) := by
  intro name print leave sum rebind s
  let found : State := { s with events := [.builtinLookup] }
  let printed : State := { s with printed := "a\n", events := [.builtinCall, .builtinLookup] }
  have hpush : Stage.eval .standard (apply .standard 0) globalFrame (.expression (name "push"))
      .null s = .value (.builtin ⟨"push", .push⟩) found := rfl
  have hprint : Stage.eval .standard (apply .standard 0) globalFrame (.expression (print "a"))
      (.builtin ⟨"push", .push⟩) found = .value .null printed := rfl
  have hleave : Stage.eval .standard (apply .standard 0) globalFrame (.expression leave)
      .null printed = .signal (.returned (.integer 7)) printed := rfl
  have hsum := (stops_at_first_signal .standard (apply .standard 0) globalFrame
    (.expression sum)).1 _ _ [.expression (print "b")] _ s printed _ printed rfl
    (.cons hpush (.cons hprint .nil)) hleave
  have hrebind := (stops_at_first_signal .standard (apply .standard 0) globalFrame
    (.statement rebind)).1 [] _ [] [] s s _ printed rfl .nil hsum
  exact ⟨printed, hrebind, rfl, rfl⟩

end

end MonkeyLang
