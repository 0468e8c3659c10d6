import Mathlib.Order.Nat
import MonkeyLang.Proofs.Evaluation.Parts
import MonkeyLang.Proofs.Evaluation.Repetition
import MonkeyLang.Proofs.Session.Reset

/-!
# Failures are not stored

A runtime error is a value only as the result of a program.  While a program is evaluated errors are
signals, so from frames without errors come values without errors (`Value.ErrorFree`) and frames
without errors, and the frames of a session never hold one.  So the result of a program is an error
exactly if the evaluation has signalled it (`Interpreter.result_eq_error_iff`).

The statement about one run follows from the agreement of two: both are one run, in frames without
errors, and no error may stand in related values.
-/

namespace MonkeyLang

/-! ## Values and frames without errors -/

/-- No part of the value is an error. -/
def Value.ErrorFree (v : Value) : Prop := ∀ e, ¬ (Value.error e).PartOf v

/-- No frame binds a value with an error in it. -/
def Frames.ErrorFree (frames : Frames) : Prop :=
  ∀ i name v, frames.local? name i = some v → v.ErrorFree

/-- The evaluation ends in frames without errors, and what it gives or returns is without errors. -/
inductive Outcome.ErrorFree {α : Type} (P : α → Prop) : Outcome α → Prop where
  | value {a : α} {s : State} (result : P a) (frames : s.frames.ErrorFree) :
      Outcome.ErrorFree P (.value a s)
  | returned {v : Value} {s : State} (result : v.ErrorFree) (frames : s.frames.ErrorFree) :
      Outcome.ErrorFree P (.signal (.returned v) s)
  | failed {e : RuntimeError} {s : State} (frames : s.frames.ErrorFree) :
      Outcome.ErrorFree P (.signal (.failed e) s)
  | exhausted : Outcome.ErrorFree P .exhausted

namespace Frames

variable {frames : Frames} {i : FrameId} {name : String} {v : Value}

lemma errorFree_empty : Frames.ErrorFree #[emptyFrame] := by
  intro i name v hv
  obtain _ | i := i <;> cases hv

lemma ErrorFree.lookup (h : frames.ErrorFree) (hv : frames.lookup i name = some v) :
    v.ErrorFree := by
  obtain ⟨j, -, hlocal⟩ := List.exists_of_findSome?_eq_some hv
  exact h j name v hlocal

lemma ErrorFree.set (h : frames.ErrorFree) (i : FrameId) (name : String) (hv : v.ErrorFree) :
    (frames.set i name v).ErrorFree := by
  intro j other u hu
  rw [local?_set_eq] at hu
  split at hu
  · exact Option.some.inj hu ▸ hv
  · exact h j other u hu

lemma ErrorFree.child (h : frames.ErrorFree) (i : FrameId) : (frames.child i).2.ErrorFree := by
  intro j name v hv
  rw [local?_child] at hv
  exact h j name v hv

lemma ErrorFree.clear (h : frames.ErrorFree) (i : FrameId) : (frames.clear i).ErrorFree := by
  intro j name v hv
  rw [local?, Frames.clear, Array.getElem?_modify] at hv
  by_cases hij : i = j
  · rw [if_pos hij] at hv
    cases hf : frames[j]? with
    | none =>
      rw [hf] at hv
      cases hv
    | some f =>
      rw [hf] at hv
      cases hv
  · rw [if_neg hij] at hv
    exact h j name v hv

end Frames

lemma State.frames_note (e : Log.Event) (s : State) : (s.note e).frames = s.frames := by
  unfold note
  split <;> rfl

/-! ## One run -/

/-- Two runs are one run, in frames without errors. -/
def errorless : Correspondence Nat where
  leaves _ := ⟨Eq, fun _ => False⟩
  state _ s s' := s = s' ∧ s.frames.ErrorFree
  closures_mono _ h := h
  errors_mono _ h := h
  display_eq h := congrArg Closure.display h
  note e h := by
    obtain ⟨rfl, hfree⟩ := h
    exact ⟨rfl, (State.frames_note e _).symm ▸ hfree⟩
  print _ h := by
    obtain ⟨rfl, hfree⟩ := h
    exact ⟨rfl, hfree⟩

namespace errorless

variable {w : Nat}

lemma values_iff {v v' : Value} : errorless.values w v v' ↔ v = v' ∧ v.ErrorFree := by
  have hclosures : ∀ f g, (errorless.leaves w).closures f g ↔ f = g ∧ True :=
    fun _ _ => (and_iff_left trivial).symm
  exact (Value.related_iff_parts hclosures).trans (by simp [Value.ErrorFree, errorless])

lemma lists_of_forall {vs : List Value} (h : ∀ v ∈ vs, v.ErrorFree) : errorless.lists w vs vs :=
  (relatedElements_iff_forall fun _ _ => values_iff).2 ⟨rfl, h⟩

/-- Code may run in every frame. -/
lemma hosts (i : FrameId) : errorless.Hosts id .all w i i where
  lookup name _ := by
    rintro _ _ s _ ⟨rfl, hfree⟩
    refine .value (le_refl _) ⟨rfl, hfree⟩ ?_
    cases hv : s.frames.lookup i name with
    | none => exact .none
    | some v => exact .some (values_iff.2 ⟨rfl, hfree.lookup hv⟩)
  assign name _ := by
    rintro _ _ v v' hv _ _ s _ ⟨rfl, hfree⟩
    obtain ⟨rfl, hvfree⟩ := values_iff.1 hv
    exact .value (le_refl _) ⟨rfl, hfree.set i name hvfree⟩ trivial
  make parameters body _ := by
    rintro _ _ s _ ⟨rfl, hfree⟩
    rw [Ident.mapTokens_id, List.map_id, Block.mapTokens_id]
    exact .value (le_refl _) ⟨rfl, hfree⟩ (.function rfl)

lemma enterable : errorless.Enterable id := by
  rintro _ f _ rfl
  refine ⟨?_, ?_, .all, f.body.within_all, fun _ _ => trivial, ?_⟩
  · rw [Ident.mapTokens_id, List.map_id]
  · rw [Block.mapTokens_id]
  · rintro _ _ s _ ⟨rfl, hfree⟩
    exact .value (le_refl _) ⟨rfl, hfree.child f.scope⟩ (hosts _)

/-- What agrees with itself ends without errors in values. -/
lemma errorFree_of_agree {α : Type} {Q : Nat → α → α → Prop} {P : α → Prop} {m : Eval α}
    {s : State} (h : errorless.Agree 0 Q m m) (hQ : ∀ w a b, Q w a b → P a)
    (hs : s.frames.ErrorFree) : (m s).ErrorFree P := by
  have houtcomes := h 0 (le_refl _) s s ⟨rfl, hs⟩
  generalize ho : m s = o at houtcomes
  cases o with
  | value a t =>
    cases houtcomes with
    | value _ states related => exact .value (hQ _ _ _ related) states.2
  | signal sig t =>
    cases houtcomes with
    | signal _ states related =>
      cases related with
      | returned related => exact .returned (values_iff.1 related).2 states.2
      | failed => exact .failed states.2
  | exhausted => exact .exhausted

end errorless

/-! ## Evaluation -/

section

variable {table : BuiltinTable} {depth : Nat} {scope : FrameId} {s t : State}

lemma callsAgree_errorless (table : BuiltinTable) (depth : Nat) :
    errorless.CallsAgree (apply table depth) (apply table depth) :=
  Correspondence.apply_agree errorless.enterable depth

lemma errorFree_evalExpr (table : BuiltinTable) (depth : Nat) (e : Expr) (scope : FrameId)
    (hs : s.frames.ErrorFree) :
    (evalExpr table (apply table depth) e scope s).ErrorFree Value.ErrorFree := by
  have hagree : errorless.Agree 0 errorless.values _
      (evalExpr table (apply table depth) (e.mapTokens id) scope) :=
    Correspondence.evalExpr_agree (callsAgree_errorless table depth) e e.within_all
      (errorless.hosts scope)
  rw [Expr.mapTokens_id] at hagree
  exact errorless.errorFree_of_agree hagree (fun _ _ _ h => (errorless.values_iff.1 h).2) hs

lemma errorFree_evalBlock (table : BuiltinTable) (depth : Nat) (b : Block) (scope : FrameId)
    (hs : s.frames.ErrorFree) :
    (evalBlock table (apply table depth) b scope s).ErrorFree Value.ErrorFree := by
  have hagree : errorless.Agree 0 errorless.values _
      (evalBlock table (apply table depth) (b.mapTokens id) scope) :=
    Correspondence.evalBlock_agree (callsAgree_errorless table depth) b b.within_all
      (errorless.hosts scope)
  rw [Block.mapTokens_id] at hagree
  exact errorless.errorFree_of_agree hagree (fun _ _ _ h => (errorless.values_iff.1 h).2) hs

/-- Whatever is called: a value with errors in it can be called with an error only. -/
lemma errorFree_apply (table : BuiltinTable) (depth : Nat) (f : Value) {args : List Value}
    (hargs : ∀ v ∈ args, v.ErrorFree) (hs : s.frames.ErrorFree) :
    (apply table depth f args s).ErrorFree Value.ErrorFree := by
  by_cases hf : f.ErrorFree
  · have hagree := callsAgree_errorless table depth 0 f f args args
      (errorless.values_iff.2 ⟨rfl, hf⟩) (errorless.lists_of_forall hargs)
    exact errorless.errorFree_of_agree hagree (fun _ _ _ h => (errorless.values_iff.1 h).2) hs
  · cases f with
    | array | hash | error =>
      rw [apply]
      · exact .failed hs
      all_goals simp
    | _ =>
      refine absurd (fun e he => ?_) hf
      cases he

/-- Statements have a value without errors, or none. -/
lemma errorFree_evalStmts (table : BuiltinTable) (depth : Nat) (ss : List Stmt) (scope : FrameId)
    (hs : s.frames.ErrorFree) :
    (evalStmts table (apply table depth) ss scope none s).ErrorFree
      fun o => ∀ v, o = some v → v.ErrorFree := by
  have hagree : errorless.Agree 0 (fun w => OptionRelated (errorless.values w)) _
      (evalStmts table (apply table depth) (mapTokensStmts id ss) scope none) :=
    Correspondence.evalStmts_agree (callsAgree_errorless table depth) ss (withinStmts_all ss)
      (errorless.hosts scope) .none
  rw [mapTokensStmts_id] at hagree
  refine errorless.errorFree_of_agree hagree (fun _ o _ h v hv => ?_) hs
  subst hv
  cases h with
  | some related => exact (errorless.values_iff.1 related).2

end

/-! ## Programs -/

namespace Interpreter

variable {i : Interpreter} {depth : Nat} {p : Program} {e : RuntimeError}

/-- The state that a program starts from, which has printed and logged nothing. -/
def start (i : Interpreter) : State := { i.state with printed := "", events := [] }

/-- The evaluation of the program's statements signals the error. -/
def Signals (i : Interpreter) (depth : Nat) (p : Program) (e : RuntimeError) : Prop :=
  ∃ t, evalStmts i.builtins (MonkeyLang.apply i.builtins depth) p.statements globalFrame none
    i.start = .signal (.failed e) t

/-- A run leaves what the evaluation of the program's statements does. -/
lemma run_eq (i : Interpreter) (depth : Nat) (p : Program) : i.run depth p =
    match evalStmts i.builtins (MonkeyLang.apply i.builtins depth) p.statements globalFrame none
      i.start with
    | .value o s => some ⟨o, s.printed, s.events, { i with state := s }⟩
    | .signal (.returned v) s => some ⟨some v, s.printed, s.events, { i with state := s }⟩
    | .signal (.failed e) s =>
      let t := s.note .runtimeError
      some ⟨some (.error e), t.printed, t.events, { i with state := t }⟩
    | .exhausted => none := by
  unfold run perform evalProgram settle start
  generalize evalStmts i.builtins (MonkeyLang.apply i.builtins depth) p.statements globalFrame none
    { i.state with printed := "", events := [] } = o
  cases o with
  | value | exhausted => rfl
  | signal sig s => cases sig <;> rfl

/-- The result of a program is an error if and only if the evaluation has signalled it. -/
theorem result_eq_error_iff (hfree : i.state.frames.ErrorFree) :
    (∃ r, i.run depth p = some r ∧ r.result = some (.error e)) ↔ i.Signals depth p e := by
  have hstatements := errorFree_evalStmts i.builtins depth p.statements globalFrame
    (s := i.start) hfree
  rw [run_eq, Signals]
  generalize evalStmts i.builtins (MonkeyLang.apply i.builtins depth) p.statements globalFrame none
    i.start = o at hstatements ⊢
  constructor
  · rintro ⟨r, hr, he⟩
    cases hstatements with
    | value result =>
      obtain rfl := Option.some.inj hr
      exact absurd .self (result (.error e) he e)
    | returned result =>
      obtain rfl := Option.some.inj hr
      obtain rfl := Option.some.inj he
      exact absurd .self (result e)
    | failed =>
      obtain rfl := Option.some.inj hr
      obtain rfl := Value.error.inj (Option.some.inj he)
      exact ⟨_, rfl⟩
    | exhausted => cases hr
  · rintro ⟨t, rfl⟩
    exact ⟨_, rfl, rfl⟩

/-- A program leaves frames without errors. -/
lemma errorFree_run (hfree : i.state.frames.ErrorFree) {r : Run (Option Value)}
    (hr : i.run depth p = some r) : r.next.state.frames.ErrorFree := by
  have hstatements := errorFree_evalStmts i.builtins depth p.statements globalFrame
    (s := i.start) hfree
  rw [run_eq] at hr
  generalize evalStmts i.builtins (MonkeyLang.apply i.builtins depth) p.statements globalFrame none
    i.start = o at hstatements hr
  cases hstatements with
  | value _ frames | returned _ frames =>
    obtain rfl := Option.some.inj hr
    exact frames
  | failed frames =>
    obtain rfl := Option.some.inj hr
    exact (State.frames_note _ _).symm ▸ frames
  | exhausted => cases hr

end Interpreter

/-! ## Sessions -/

namespace Session

variable {s : Session} {depth : Nat} {text : String} {x : Exchange}

lemma errorFree_eval (hfree : s.interpreter.state.frames.ErrorFree)
    (ends : s.eval depth text = some x) : x.next.interpreter.state.frames.ErrorFree := by
  unfold Session.eval at ends
  split at ends
  · obtain rfl := Option.some.inj ends
    exact hfree
  · obtain ⟨r, hr, rfl⟩ := Option.map_eq_some_iff.1 ends
    exact Interpreter.errorFree_run hfree hr

/-- No frame of a reachable session binds a value with an error in it. -/
lemma Reachable.errorFree (h : Reachable s) : s.interpreter.state.frames.ErrorFree := by
  induction h with
  | start => exact Frames.errorFree_empty
  | answer depth text x _ ends ih => exact errorFree_eval ih ends
  | reset _ ih => exact ih.clear globalFrame

end Session

end MonkeyLang
