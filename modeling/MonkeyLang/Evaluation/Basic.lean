import MonkeyLang.Evaluation.Builtin
import MonkeyLang.Evaluation.Operation

/-!
# Evaluation

Expressions are evaluated from left to right by recursion on the syntax tree; blocks share the
frame of what surrounds them.  Only a call leaves the tree: `apply` evaluates the body of the
called function in a new frame, with a bound on how deeply calls may be nested.
-/

namespace MonkeyLang

/-! ## Expressions and statements

The definitions of this section take `call`, the meaning of calling a value. -/

section

variable (table : BuiltinTable) (call : Value → List Value → Eval Value)

/-- The value of a name: of a variable, or else of a standard function. -/
def evalName (name : String) (scope : FrameId) : Eval Value := do
  match ← Eval.lookup scope name with
  | some v => return v
  | none =>
    match table.find? name with
    | some b => do
      Eval.note .builtinLookup
      return .builtin b
    | none => Eval.raise (.failed (.identifierNotFound name))

mutual

/-- The value of an expression in a frame. -/
def evalExpr : Expr → FrameId → Eval Value
  | .integer _ n, _ => return .integer n
  | .boolean _ b, _ => return .boolean b
  | .string _ s, _ => return .string s
  | .ident id, scope => evalName table id.name scope
  | .unary _ op operand, scope => do
    let v ← evalExpr operand scope
    Eval.ofExcept (op.apply v)
  | .binary _ left op right, scope => do
    let l ← evalExpr left scope
    let r ← evalExpr right scope
    Eval.ofExcept (op.apply l r)
  | .conditional _ condition consequence alternative, scope => do
    let v ← evalExpr condition scope
    if v.isTruthy then evalBlock consequence scope else evalAlternative alternative scope
  | .function _ parameters body, scope => Eval.makeFunction parameters body scope
  | .call _ callee arguments, scope => do
    let f ← evalExpr callee scope
    let args ← evalExprs arguments scope
    call f args
  | .array _ elements, scope => do
    let vs ← evalExprs elements scope
    return .array vs
  | .index _ base position, scope => do
    let b ← evalExpr base scope
    let i ← evalExpr position scope
    Eval.ofExcept (b.index i)
  | .hash _ pairs, scope => do
    let entries ← evalPairs pairs scope []
    return .hash entries

/-- The value of an `else` branch; `null` if there is none. -/
def evalAlternative : Option Block → FrameId → Eval Value
  | none, _ => return .null
  | some block, scope => evalBlock block scope

/-- The values of expressions, from left to right. -/
def evalExprs : List Expr → FrameId → Eval (List Value)
  | [], _ => return []
  | e :: es, scope => do
    let v ← evalExpr e scope
    let vs ← evalExprs es scope
    return v :: vs

/-- Files the pairs of a hash literal in a table, from left to right. -/
def evalPairs : List (Expr × Expr) → FrameId → HashTable Value → Eval (HashTable Value)
  | [], _, entries => return entries
  | (key, value) :: pairs, scope, entries => do
    let k ← evalExpr key scope
    let hashKey ← Eval.ofExcept k.requireHashKey
    let v ← evalExpr value scope
    evalPairs pairs scope (entries.insert ⟨hashKey, k, v⟩)

/-- The value of a statement.  A `let` binds its name in the frame that it stands in. -/
def evalStmt : Stmt → FrameId → Eval Value
  | .letStmt _ name value, scope => do
    let v ← evalExpr value scope
    Eval.assign scope name.name v
    return v
  | .returnStmt _ value, scope => do
    let v ← evalExpr value scope
    Eval.raise (.returned v)
  | .exprStmt _ value, scope => evalExpr value scope

/-- The value of a block; `null` if it is empty. -/
def evalBlock : Block → FrameId → Eval Value
  | .mk _ statements, scope => do
    let v ← evalStmts statements scope none
    return v.getD .null

/-- The value of the last of the statements, or the given one if there are none. -/
def evalStmts : List Stmt → FrameId → Option Value → Eval (Option Value)
  | [], _, last => return last
  | s :: ss, scope, _ => do
    let v ← evalStmt s scope
    evalStmts ss scope (some v)

end

end

/-! ## Calls -/

/-- Binds parameters to arguments in a frame, as far as both go. -/
def bindParameters (scope : FrameId) : List Ident → List Value → Eval Unit
  | p :: ps, v :: vs => do
    Eval.assign scope p.name v
    bindParameters scope ps vs
  | _, _ => return ()

/-- The value of calling a value, where calls of functions are nested no more deeply than
`depth`. -/
def apply (table : BuiltinTable) : (depth : Nat) → Value → List Value → Eval Value
  | 0, .function _, _ => Eval.exhausted
  | depth + 1, .function f, args => Eval.catchReturn do
    Eval.note .functionCall
    let scope ← Eval.enter f.scope
    bindParameters scope f.parameters args
    evalBlock table (apply table depth) f.body scope
  | _, .builtin b, args => do
    Eval.note .builtinCall
    b.primitive.call args
  | _, v, _ => Eval.raise (.failed (.notAFunction v.type))

/-! ## Programs -/

/-- The frame that programs are evaluated in. -/
def globalFrame : FrameId := 0

/-- A signal that has reached the program becomes its result. -/
def settle (m : Eval (Option Value)) : Eval (Option Value) := fun s =>
  match m s with
  | .signal (.returned v) s' => .value (some v) s'
  | .signal (.failed e) s' => .value (some (.error e)) (s'.note .runtimeError)
  | o => o

/-- The value of a program, which is none if the program is empty. -/
def evalProgram (table : BuiltinTable) (depth : Nat) (p : Program) : Eval (Option Value) :=
  settle (evalStmts table (apply table depth) p.statements globalFrame none)

end MonkeyLang
