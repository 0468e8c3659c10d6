import MonkeyLang.Syntax.Parser
import MonkeyLang.Syntax.Tree
import MonkeyLang.Token.Scan

/-!
# Reading programs

Expressions are read by binding strength: an operand, then every continuation that binds more
strongly than what stands before the operand.  A statement that cannot be read is dropped with its
errors, and reading goes on behind it, so one text can have several errors.

The nesting depth of expressions is bounded by a number that every nested call lowers by one.
`Program.read` starts it at one more than the number of tokens, which no text can use up because
every nested call has a token less to read.
-/

namespace MonkeyLang

namespace Parser

/-! ## Lists -/

variable {α : Type}

/-- Items with commas between them, and the closing token.  At least one item must come. -/
def itemsUpTo (item : Parser α) (close : TokenKind) : Nat → Parser (List α)
  | 0 => exhausted
  | depth + 1 => do
    let x ← item
    if (← peek).kind = .comma then
      let _ ← take
      return x :: (← itemsUpTo item close depth)
    else
      let _ ← expect close
      return [x]

/-- A list of items with commas between them, up to and including the closing token. -/
def delimited (item : Parser α) (close : TokenKind) (depth : Nat) : Parser (List α) := do
  if (← peek).kind = close then
    let _ ← take
    return []
  else itemsUpTo item close depth

/-- The pairs of a hash and the closing brace; a comma may stand before the brace. -/
def pairsUpTo (expression : Parser Expr) : Nat → Parser (List (Expr × Expr))
  | 0 => exhausted
  | depth + 1 => do
    if (← peek).kind = .rbrace then
      let _ ← take
      return []
    else
      let key ← expression
      let _ ← expect .colon
      let value ← expression
      if (← peek).kind ≠ .rbrace then
        let _ ← expect .comma
      return (key, value) :: (← pairsUpTo expression depth)

/-- Statements up to the token that closes them, or the end of the text.  A statement that is
rejected is left out. -/
def statementsUpTo (statement : Parser Stmt) (closes : TokenKind → Bool) :
    Nat → Parser (List Stmt)
  | 0 => exhausted
  | depth + 1 => do
    let kind := (← peek).kind
    if kind = .eof || closes kind then return []
    else
      let first ← attempt statement
      return first.toList ++ (← statementsUpTo statement closes depth)

/-! ## Statements -/

/-- A statement, given how expressions are read.  A semicolon may close it. -/
def statement (expression : Precedence → Parser Expr) : Parser Stmt := do
  let t ← peek
  match t.kind with
  | .letWord =>
    let _ ← take
    let name ← expect .ident
    let _ ← expect .assign
    let value ← expression .lowest
    skip .semicolon
    return .letStmt t (.ofToken name) value
  | .returnWord =>
    let _ ← take
    let value ← expression .lowest
    skip .semicolon
    return .returnStmt t value
  | _ =>
    let value ← expression .lowest
    skip .semicolon
    return .exprStmt t value

/-- A block from its opening brace to its closing brace, or to the end of the text. -/
def block (expression : Precedence → Parser Expr) (depth : Nat) : Parser Block := do
  let t ← take
  let statements ← statementsUpTo (statement expression) (· = .rbrace) depth
  let _ ← take
  return .mk t statements

/-! ## Expressions -/

/-- The integer that a literal stands for, if it is in range. -/
def integerOfLiteral? (literal : String) : Option Int64 :=
  let n := Text.ofDigits literal.toList
  if n < Nat.pow 2 63 then some (.ofNat n) else none

/-- A parameter of a function. -/
def parameter : Parser Ident := do
  let t ← peek
  if t.kind = .ident then return .ofToken (← take)
  else rejectPast (.unexpectedToken .ident t.kind)

/-- A block in braces, behind a token that asks for one. -/
def bracedBlock (expression : Precedence → Parser Expr) (depth : Nat) : Parser Block := do
  if (← peek).kind = .lbrace then block expression depth
  else reject (.unexpectedToken .lbrace (← peek).kind)

/-- The `else` branch of a conditional, if there is one. -/
def alternative (expression : Precedence → Parser Expr) (depth : Nat) : Parser (Option Block) := do
  if (← peek).kind = .elseWord then
    let _ ← take
    return some (← bracedBlock expression depth)
  else return none

/-- An operand: a literal, a name, an operator with its operand, or a form in brackets. -/
def operand (expression : Precedence → Parser Expr) (depth : Nat) : Parser Expr := do
  let t ← peek
  match t.kind with
  | .ident => return .ident (.ofToken (← take))
  | .int =>
    match integerOfLiteral? t.literal with
    | some n =>
      let _ ← take
      return .integer t n
    | none => rejectPast (.invalidInteger t.literal)
  | .string =>
    let _ ← take
    return .string t t.literal
  | .trueWord =>
    let _ ← take
    return .boolean t true
  | .falseWord =>
    let _ ← take
    return .boolean t false
  | .bang =>
    let _ ← take
    return .unary t .bang (← expression .unary)
  | .minus =>
    let _ ← take
    return .unary t .minus (← expression .unary)
  | .lparen =>
    let _ ← take
    let e ← expression .lowest
    let _ ← expect .rparen
    return e
  | .ifWord =>
    let _ ← take
    let _ ← expect .lparen
    let condition ← expression .lowest
    let _ ← expect .rparen
    let consequence ← bracedBlock expression depth
    return .conditional t condition consequence (← alternative expression depth)
  | .function =>
    let _ ← take
    let _ ← expect .lparen
    let parameters ← delimited parameter .rparen depth
    return .function t parameters (← bracedBlock expression depth)
  | .lbracket =>
    let _ ← take
    return .array t (← delimited (expression .lowest) .rbracket depth)
  | .lbrace =>
    let _ ← take
    return .hash t (← pairsUpTo (expression .lowest) depth)
  | kind => rejectPast (.noOperand kind)

/-- An expression that continues an operand; the current token begins the continuation. -/
def continued (expression : Precedence → Parser Expr) (depth : Nat) (left : Expr) :
    Continuation → Parser Expr
  | .call => do
    let t ← take
    return .call t left (← delimited (expression .lowest) .rparen depth)
  | .index => do
    let t ← take
    let position ← expression .lowest
    let _ ← expect .rbracket
    return .index t left position
  | .binary op => do
    let t ← take
    return .binary t left op (← expression op.precedence)

/-- Every continuation of an operand that binds more strongly than `floor`. -/
def climb (expression : Precedence → Parser Expr) (floor : Precedence) :
    Nat → Expr → Parser Expr
  | 0, _ => exhausted
  | depth + 1, left => do
    match Continuation.ofKind? (← peek).kind with
    | none => return left
    | some c =>
      if floor < c.precedence then
        climb expression floor depth (← continued expression depth left c)
      else return left

/-- An expression whose continuations bind more strongly than a given strength. -/
def expression : Nat → Precedence → Parser Expr
  | 0, _ => exhausted
  | depth + 1, floor => do
    climb (expression depth) floor depth (← operand (expression depth) depth)

end Parser

/-! ## Programs -/

/-- What reading a text gives: the statements that could be read, and what went wrong. -/
structure Reading where
  program : Program
  found : Findings

/-- The errors of a reading. -/
def Reading.errors (r : Reading) : List ParseError := r.found.errors

namespace TokenStream

/-- The stream of a source text. -/
def ofText (source : String) : TokenStream := ⟨Token.scan source, source.utf8ByteSize⟩

/-- A depth that suffices to read the whole stream. -/
def depthBound (s : TokenStream) : Nat := s.tokens.length + 1

end TokenStream

namespace Parser

/-- All statements of a stream. -/
def statements (depth : Nat) : Parser (List Stmt) :=
  statementsUpTo (statement (expression depth)) (fun _ => false) depth

end Parser

namespace Program

/-- Reads a source text, keeping every statement that can be read. -/
def read (source : String) : Reading :=
  let s := TokenStream.ofText source
  match Parser.statements s.depthBound s with
  | .parsed statements _ found => ⟨⟨statements⟩, found⟩
  | .rejected _ found error => ⟨⟨[]⟩, found.drop error⟩
  | .exhausted => ⟨⟨[]⟩, .nothing⟩

/-- The program of a source text, or the errors if there are any. -/
def parse (source : String) : Except (List ParseError) Program :=
  let r := read source
  if r.errors.isEmpty then .ok r.program else .error r.errors

end Program

end MonkeyLang
