import MonkeyLang.Proofs.Evaluation.Visits

/-!
# Returns at the end of a body

A `return` at the end of the body of a function is redundant, and what stands behind a `return` is
dead.  `Block.trim` removes both: it cuts a block behind its first `return`, leaves the value of a
`return` that is now the last statement as the value of the block, and goes on in the branches of a
conditional that is the last statement.  A `return` anywhere else stays.

Where a `return` was removed, a value comes back through the blocks that had been on its way to the
call as a signal.  A call does not tell the two apart, and all that is shown of trimmed code is that
it does the same inside `Eval.catchReturn`.
-/

namespace MonkeyLang

/-! ## Trimmed code -/

/-- The statement is a `return`. -/
def Stmt.returns : Stmt → Bool
  | .returnStmt _ _ => true
  | .letStmt _ _ _ | .exprStmt _ _ => false

mutual

/-- The expression, a conditional with trimmed branches. -/
def Expr.trim (deep : Bool) : Expr → Expr
  | .conditional t condition consequence alternative =>
    .conditional t condition (consequence.trim deep) (trimAlternative deep alternative)
  | e => e

def trimAlternative (deep : Bool) : Option Block → Option Block
  | none => none
  | some block => some (block.trim deep)

/-- The last statement of a trimmed block: a `return` has become its value.  Whether this is trimmed
in turn, `deep` says. -/
def Stmt.trim (deep : Bool) : Stmt → Stmt
  | .letStmt t name value => .letStmt t name value
  | .returnStmt t value => .exprStmt t (if deep then value.trim deep else value)
  | .exprStmt t value => .exprStmt t (value.trim deep)

/-- The block without what lies behind its first `return`, and with its last statement trimmed. -/
def Block.trim (deep : Bool) : Block → Block
  | .mk t statements => .mk t (trimStmts deep statements)

def trimStmts (deep : Bool) : List Stmt → List Stmt
  | [] => []
  | s :: ss => if s.returns || ss.isEmpty then [s.trim deep] else s :: trimStmts deep ss

end

/-- A trimmed statement is no `return`. -/
lemma Stmt.returns_trim (deep : Bool) (s : Stmt) : (s.trim deep).returns = false := by
  cases s <;> rfl

/-- No statement of a trimmed block is a `return`. -/
lemma returns_of_mem_trimStmts {deep : Bool} {ss : List Stmt} :
    ∀ s ∈ trimStmts deep ss, s.returns = false := by
  induction ss with
  | nil => nofun
  | cons s ss ih =>
    rw [trimStmts]
    split
    · exact List.forall_mem_singleton.2 (s.returns_trim deep)
    · next hkept =>
      rw [Bool.not_eq_true, Bool.or_eq_false_iff] at hkept
      exact List.forall_mem_cons.2 ⟨hkept.1, ih⟩

/-! ## Calls do not tell returns from values -/

namespace Eval

variable {α : Type}

lemma catchReturn_bind_congr {m : Eval α} {f g : α → Eval Value}
    (h : ∀ a, (f a).catchReturn = (g a).catchReturn) :
    (m >>= f).catchReturn = (m >>= g).catchReturn := by
  funext s
  rw [catchReturn, catchReturn, bind_apply, bind_apply]
  cases m s with
  | value a s₁ => exact congrFun (h a) s₁
  | signal | exhausted => rfl

/-- To return the value of an evaluation is to have it. -/
lemma catchReturn_bind_returned (m : Eval Value) :
    (m >>= fun v => raise (.returned v)).catchReturn = m.catchReturn := by
  funext s
  rw [catchReturn, catchReturn, bind_apply]
  cases m s <;> rfl

/-- Nothing goes on behind a signal. -/
lemma raise_bind {β : Type} (sig : Signal) (f : α → Eval β) : raise sig >>= f = raise sig := rfl

end Eval

/-! ## Evaluation of trimmed code -/

section

variable {table : BuiltinTable} {call : Value → List Value → Eval Value} {scope : FrameId}

/-- What statements behind a `return` do does not matter, as they do not have their turn. -/
lemma evalStmts_of_returns {s : Stmt} (h : s.returns = true) (ss : List Stmt)
    (last : Option Value) :
    evalStmts table call (s :: ss) scope last = evalStmts table call [s] scope last := by
  cases s with
  | letStmt | exprStmt => cases h
  | returnStmt t value => simp only [evalStmts, evalStmt, bind_assoc, Eval.raise_bind]

/-- A single statement gives a block its value. -/
lemma evalStmts_single (s : Stmt) (last : Option Value) :
    (do return (← evalStmts table call [s] scope last).getD .null) =
      evalStmt table call s scope := by
  simp only [evalStmts, bind_assoc, pure_bind, Option.getD_some, bind_pure]

mutual

lemma Expr.catchReturn_trim (deep : Bool) (e : Expr) :
    (evalExpr table call (e.trim deep) scope).catchReturn =
      (evalExpr table call e scope).catchReturn := by
  match e with
  | .conditional _ condition consequence alternative =>
    rw [Expr.trim, evalExpr, evalExpr]
    refine Eval.catchReturn_bind_congr fun v => ?_
    split
    · exact consequence.catchReturn_trim deep
    · exact catchReturn_trimAlternative deep alternative
  | .ident _ | .boolean _ _ | .integer _ _ | .string _ _ | .unary _ _ _ | .binary _ _ _ _
  | .function _ _ _ | .call _ _ _ | .array _ _ | .index _ _ _ | .hash _ _ => rfl

lemma catchReturn_trimAlternative (deep : Bool) (alternative : Option Block) :
    (evalAlternative table call (trimAlternative deep alternative) scope).catchReturn =
      (evalAlternative table call alternative scope).catchReturn := by
  match alternative with
  | none => rfl
  | some block => exact block.catchReturn_trim deep

lemma Stmt.catchReturn_trim (deep : Bool) (s : Stmt) :
    (evalStmt table call (s.trim deep) scope).catchReturn =
      (evalStmt table call s scope).catchReturn := by
  match s with
  | .letStmt _ _ _ => rfl
  | .exprStmt _ value => exact value.catchReturn_trim deep
  | .returnStmt _ value =>
    rw [Stmt.trim, evalStmt, evalStmt, Eval.catchReturn_bind_returned]
    split
    · exact value.catchReturn_trim deep
    · rfl

lemma Block.catchReturn_trim (deep : Bool) (b : Block) :
    (evalBlock table call (b.trim deep) scope).catchReturn =
      (evalBlock table call b scope).catchReturn := by
  match b with
  | .mk _ statements =>
    rw [Block.trim, evalBlock, evalBlock]
    exact catchReturn_trimStmts deep statements none

lemma catchReturn_trimStmts (deep : Bool) (ss : List Stmt) (last : Option Value) :
    Eval.catchReturn (do
      return (← evalStmts table call (trimStmts deep ss) scope last).getD .null) =
    Eval.catchReturn (do return (← evalStmts table call ss scope last).getD .null) := by
  match ss with
  | [] => rfl
  | s :: ss =>
    rw [trimStmts]
    split
    · -- The statement is the last one: a `return`, or there is none behind it.
      next hlast =>
      have hsingle : evalStmts table call (s :: ss) scope last =
          evalStmts table call [s] scope last := by
        rcases Bool.or_eq_true_iff.1 hlast with hreturns | hempty
        · exact evalStmts_of_returns hreturns ss last
        · rw [List.isEmpty_iff.1 hempty]
      rw [hsingle, evalStmts_single, evalStmts_single]
      exact s.catchReturn_trim deep
    · rw [evalStmts, evalStmts, bind_assoc, bind_assoc]
      exact Eval.catchReturn_bind_congr fun v => catchReturn_trimStmts deep ss (some v)

end

end

/-! ## Calls of trimmed functions -/

/-- A call of a function does the same with the trimmed body. -/
lemma apply_trim_body (table : BuiltinTable) (deep : Bool) (depth : Nat) (f : Closure)
    (identity : Nat) (args : List Value) :
    apply table depth (.function { f with identity, body := f.body.trim deep }) args =
      apply table depth (.function f) args := by
  cases depth with
  | zero => rfl
  | succ depth =>
    rw [apply_function, apply_function]
    exact Eval.catchReturn_bind_congr fun scope => f.body.catchReturn_trim deep

/-- A function and the function with the trimmed body, in whatever state they are called and
whatever number tells them apart: within any bound on nested calls both calls end or neither does,
and then with the same value or error, the same output and the same frames.  No statement of the
trimmed body is a `return`. -/
theorem Interpreter.apply_trimmed (deep : Bool) (parameters : List Ident) (body : Block)
    (scope : FrameId) :
    (∀ s ∈ (body.trim deep).statements, s.returns = false) ∧
    ∀ (identity identity' depth : Nat) (args : List Value) (i : Interpreter),
      i.apply depth (.function ⟨identity', parameters, body.trim deep, scope⟩) args =
        i.apply depth (.function ⟨identity, parameters, body, scope⟩) args := by
  constructor
  · obtain ⟨_, statements⟩ := body
    exact returns_of_mem_trimStmts
  · intro identity identity' depth args i
    rw [Interpreter.apply, Interpreter.apply]
    rw [apply_trim_body i.builtins deep depth ⟨identity, parameters, body, scope⟩ identity' args]

end MonkeyLang
