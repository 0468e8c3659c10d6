import Mathlib.Tactic.Lemma
import MonkeyLang.Syntax.Parsing

/-!
# Reading through a window

A reader that sees two tokens at a time, the current one and the upcoming one, and goes on by one
token.  It records every error in one list and then refuses what it was reading; a refusal by itself
records nothing.  A statement that was refused is left out, and the reader goes on behind the token
that was then current, so what was recorded is never taken back.

This reader keeps books that the parsers of `Syntax/Parsing` do not keep: it counts the statements
that were refused, and the steps of its recursion and of its loops.  That both read the same is
proved in `Proofs/Syntax/WindowSimulation`.

The main definitions are `Window.expression`, `Window.statement` and `Window.program`.
-/

namespace MonkeyLang

/-- What the reader works on. -/
structure Window where
  /-- The tokens from the current one on. -/
  stream : TokenStream
  /-- All errors so far. -/
  errors : List ParseError
  /-- The number of statements that were refused so far. -/
  refusals : Nat
  /-- The number of expressions that were begun and of rounds of loops so far. -/
  steps : Nat

namespace Window

/-- The window at the beginning of a source text. -/
def ofText (source : String) : Window := ⟨.ofText source, [], 0, 0⟩

/-- The window one token further on. -/
def ahead (w : Window) : Window := { w with stream := w.stream.next }

/-- The window with one more step counted. -/
def stepped (w : Window) : Window := { w with steps := w.steps + 1 }

@[simp] lemma stream_ahead (w : Window) : w.ahead.stream = w.stream.next := rfl

@[simp] lemma stream_stepped (w : Window) : w.stepped.stream = w.stream := rfl

/-! ## Actions -/

/-- How an action ends. -/
inductive Result (α : Type) where
  | read (value : α) (window : Window)
  /-- No value.  Whatever there is to report has been recorded. -/
  | refused (window : Window)
  /-- The depth bound was reached. -/
  | exhausted

/-- Actions that read values of a type. -/
abbrev Action (α : Type) := Window → Result α

variable {α β : Type}

instance : Monad Action where
  pure a := fun w => .read a w
  bind m f := fun w =>
    match m w with
    | .read a w' => f a w'
    | .refused w' => .refused w'
    | .exhausted => .exhausted

lemma bind_apply (m : Action α) (f : α → Action β) (w : Window) :
    (m >>= f) w = match m w with
      | .read a w' => f a w'
      | .refused w' => .refused w'
      | .exhausted => .exhausted := rfl

instance : LawfulMonad Action := .mk' _
  (fun m => by
    funext w
    change (m >>= pure) w = m w
    rw [bind_apply]
    cases m w <;> rfl)
  (fun _ _ => rfl)
  (fun m f g => by
    funext w
    simp only [bind_apply]
    cases m w <;> rfl)

/-- The action whose depth bound is used up. -/
def exhausted : Action α := fun _ => .exhausted

/-- The current token. -/
def current : Action Token := fun w => .read w.stream.current w

/-- The token behind the current one. -/
def upcoming : Action Token := fun w => .read w.stream.next.current w

/-- The upcoming token becomes the current one. -/
def advance : Action Unit := fun w => .read () w.ahead

/-- Counts a step. -/
def step : Action Unit := fun w => .read () w.stepped

/-- Records an error at a token, and refuses. -/
def refuse (fault : ParseFault) (t : Token) : Action α := fun w =>
  .refused { w with errors := w.errors ++ [⟨fault, t.span⟩] }

/-- The given value; without one, refuses and records nothing. -/
def require : Option α → Action α
  | some a => pure a
  | none => fun w => .refused w

lemma current_bind (f : Token → Action β) (w : Window) :
    (current >>= f) w = f w.stream.current w := rfl

lemma upcoming_bind (f : Token → Action β) (w : Window) :
    (upcoming >>= f) w = f w.stream.next.current w := rfl

lemma advance_bind (f : Unit → Action β) (w : Window) : (advance >>= f) w = f () w.ahead := rfl

lemma step_bind (f : Unit → Action β) (w : Window) : (step >>= f) w = f () w.stepped := rfl

lemma require_bind {a : α} {o : Option α} (h : o = some a) (f : α → Action β) (w : Window) :
    (require o >>= f) w = f a w := by
  rw [h]
  rfl

/-- Makes the upcoming token the current one if it is of the given kind, and refuses any other. -/
def expectNext (kind : TokenKind) : Action Unit := do
  let t ← upcoming
  if t.kind = kind then advance else refuse (.unexpectedToken kind t.kind) t

lemma expectNext_bind_of_eq {f : Unit → Action β} {w : Window} {k : TokenKind}
    (h : w.stream.next.current.kind = k) : (expectNext k >>= f) w = f () w.ahead := by
  rw [expectNext, bind_assoc, upcoming_bind, if_pos h, advance_bind]

lemma expectNext_bind_of_ne {f : Unit → Action β} {w : Window} {k : TokenKind}
    (h : w.stream.next.current.kind ≠ k) : (expectNext k >>= f) w =
      refuse (.unexpectedToken k w.stream.next.current.kind) w.stream.next.current w := by
  rw [expectNext, bind_assoc, upcoming_bind, if_neg h]
  rfl

/-- Makes the upcoming token the current one if it is of the given kind. -/
def skipNext (kind : TokenKind) : Action Unit := do
  if (← upcoming).kind = kind then advance

/-- Reads a statement; one that is refused is counted and left out. -/
def attempt (m : Action α) : Action (Option α) := fun w =>
  match m w with
  | .read a w' => .read (some a) w'
  | .refused w' => .read none { w' with refusals := w'.refusals + 1 }
  | .exhausted => .exhausted

/-! ## Lists

Every item begins at the current token, and ends at the token that is then current. -/

/-- The items that follow commas, and the closing token. -/
def moreItems (item : Action α) (close : TokenKind) : Nat → Action (List α)
  | 0 => exhausted
  | depth + 1 => do
    if (← upcoming).kind = .comma then
      step
      advance
      advance
      let x ← item
      return x :: (← moreItems item close depth)
    else
      expectNext close
      return []

/-- Items with commas between them, from the opening token to the closing one. -/
def delimited (item : Action α) (close : TokenKind) (depth : Nat) : Action (List α) := do
  if (← upcoming).kind = close then
    advance
    return []
  else
    advance
    let first ← item
    return first :: (← moreItems item close depth)

/-- The pairs of a hash, and the closing brace. -/
def pairs (expression : Action Expr) : Nat → Action (List (Expr × Expr))
  | 0 => exhausted
  | depth + 1 => do
    if (← upcoming).kind = .rbrace then
      expectNext .rbrace
      return []
    else
      step
      advance
      let key ← expression
      expectNext .colon
      advance
      let value ← expression
      if (← upcoming).kind ≠ .rbrace then
        expectNext .comma
      return (key, value) :: (← pairs expression depth)

/-- Statements from the current token up to one that closes them, or to the end of the text. -/
def statementLoop (statement : Action Stmt) (closes : TokenKind → Bool) :
    Nat → Action (List Stmt)
  | 0 => exhausted
  | depth + 1 => do
    let kind := (← current).kind
    if kind = .eof || closes kind then return []
    else
      step
      let first ← attempt statement
      advance
      return first.toList ++ (← statementLoop statement closes depth)

/-! ## Statements -/

/-- A statement, given how expressions are read.  A semicolon may close it. -/
def statement (expression : Precedence → Action Expr) : Action Stmt := do
  let t ← current
  match t.kind with
  | .letWord =>
    expectNext .ident
    let name ← current
    expectNext .assign
    advance
    let value ← expression .lowest
    skipNext .semicolon
    return .letStmt t (.ofToken name) value
  | .returnWord =>
    advance
    let value ← expression .lowest
    skipNext .semicolon
    return .returnStmt t value
  | _ =>
    let value ← expression .lowest
    skipNext .semicolon
    return .exprStmt t value

/-- A block whose opening brace is the upcoming token. -/
def bracedBlock (expression : Precedence → Action Expr) (depth : Nat) : Action Block := do
  expectNext .lbrace
  let t ← current
  advance
  let statements ← statementLoop (statement expression) (· = .rbrace) depth
  return .mk t statements

/-! ## Expressions -/

/-- A parameter of a function. -/
def parameter : Action Ident := do
  let t ← current
  if t.kind = .ident then return .ofToken t
  else refuse (.unexpectedToken .ident t.kind) t

/-- The `else` branch of a conditional, if there is one. -/
def alternative (expression : Precedence → Action Expr) (depth : Nat) : Action (Option Block) := do
  if (← upcoming).kind = .elseWord then
    advance
    return some (← bracedBlock expression depth)
  else return none

/-- An operator before its operand. -/
def unary (expression : Precedence → Action Expr) : Action Expr := do
  let t ← current
  let op ← require (UnaryOp.ofKind? t.kind)
  advance
  return .unary t op (← expression .unary)

/-- An operator behind its first operand. -/
def binary (expression : Precedence → Action Expr) (left : Expr) : Action Expr := do
  let t ← current
  let op ← require (BinaryOp.ofKind? t.kind)
  advance
  return .binary t left op (← expression (Precedence.ofKind t.kind))

/-- An operand: a literal, a name, an operator with its operand, or a form in brackets. -/
def operand (expression : Precedence → Action Expr) (depth : Nat) : Action Expr := do
  let t ← current
  match t.kind with
  | .ident => return .ident (.ofToken t)
  | .int =>
    match Parser.integerOfLiteral? t.literal with
    | some n => return .integer t n
    | none => refuse (.invalidInteger t.literal) t
  | .string => return .string t t.literal
  | .trueWord | .falseWord => return .boolean t (t.kind = .trueWord)
  | .bang | .minus => unary expression
  | .lparen =>
    advance
    let e ← expression .lowest
    expectNext .rparen
    return e
  | .ifWord =>
    expectNext .lparen
    advance
    let condition ← expression .lowest
    expectNext .rparen
    let consequence ← bracedBlock expression depth
    return .conditional t condition consequence (← alternative expression depth)
  | .function =>
    expectNext .lparen
    let parameters ← delimited parameter .rparen depth
    return .function t parameters (← bracedBlock expression depth)
  | .lbracket => return .array t (← delimited (expression .lowest) .rbracket depth)
  | .lbrace => return .hash t (← pairs (expression .lowest) depth)
  | kind => refuse (.noOperand kind) t

/-- What follows an operand; the current token begins it. -/
def continued (expression : Precedence → Action Expr) (depth : Nat) (left : Expr) :
    Action Expr := do
  let t ← current
  match t.kind with
  | .lparen => return .call t left (← delimited (expression .lowest) .rparen depth)
  | .lbracket =>
    advance
    let position ← expression .lowest
    expectNext .rbracket
    return .index t left position
  | _ => binary expression left

/-- Goes on as long as the upcoming token binds more strongly than `floor`. -/
def climb (expression : Precedence → Action Expr) (floor : Precedence) :
    Nat → Expr → Action Expr
  | 0, _ => exhausted
  | depth + 1, left => do
    let kind := (← upcoming).kind
    if kind ≠ .semicolon ∧ floor < Precedence.ofKind kind then
      step
      advance
      climb expression floor depth (← continued expression depth left)
    else return left

/-- An expression whose continuations bind more strongly than a given strength. -/
def expression : Nat → Precedence → Action Expr
  | 0, _ => exhausted
  | depth + 1, floor => do
    step
    climb (expression depth) floor depth (← operand (expression depth) depth)

/-- All statements up to the end of the text. -/
def program (depth : Nat) : Action (List Stmt) :=
  statementLoop (statement (expression depth)) (fun _ => false) depth

end Window

end MonkeyLang
