import MonkeyLang.Syntax.Operator

/-!
# Syntax trees

Every node keeps the token that it started from, or, for a form that continues an operand, the
token that began the continuation.
-/

namespace MonkeyLang

/-- A name where it is used, bound or declared as a parameter. -/
structure Ident where
  token : Token
  name : String
deriving DecidableEq, Inhabited

namespace Ident

/-- The name that a token spells. -/
def ofToken (t : Token) : Ident := ⟨t, t.literal⟩

end Ident

mutual

/-- Expressions. -/
inductive Expr where
  | ident (id : Ident)
  | boolean (token : Token) (value : Bool)
  | integer (token : Token) (value : Int64)
  | string (token : Token) (value : String)
  | unary (token : Token) (op : UnaryOp) (operand : Expr)
  | binary (token : Token) (left : Expr) (op : BinaryOp) (right : Expr)
  | conditional (token : Token) (condition : Expr) (consequence : Block)
      (alternative : Option Block)
  | function (token : Token) (parameters : List Ident) (body : Block)
  | call (token : Token) (callee : Expr) (arguments : List Expr)
  | array (token : Token) (elements : List Expr)
  | index (token : Token) (base : Expr) (position : Expr)
  | hash (token : Token) (pairs : List (Expr × Expr))

/-- Statements. -/
inductive Stmt where
  | letStmt (token : Token) (name : Ident) (value : Expr)
  | returnStmt (token : Token) (value : Expr)
  | exprStmt (token : Token) (value : Expr)

/-- Statements between braces. -/
inductive Block where
  | mk (token : Token) (statements : List Stmt)

end

namespace Expr

/-- The token that a node keeps. -/
def token : Expr → Token
  | .ident id => id.token
  | .boolean t _ | .integer t _ | .string t _ | .unary t _ _ | .binary t _ _ _
  | .conditional t _ _ _ | .function t _ _ | .call t _ _ | .array t _ | .index t _ _
  | .hash t _ => t

end Expr

namespace Stmt

/-- The first token of a statement. -/
def token : Stmt → Token
  | .letStmt t _ _ | .returnStmt t _ | .exprStmt t _ => t

/-- The expression whose value a statement computes. -/
def value : Stmt → Expr
  | .letStmt _ _ e | .returnStmt _ e | .exprStmt _ e => e

end Stmt

namespace Block

/-- The opening brace of a block. -/
def token : Block → Token
  | .mk t _ => t

def statements : Block → List Stmt
  | .mk _ ss => ss

end Block

/-- The statements of a whole source text. -/
structure Program where
  statements : List Stmt

namespace Program

/-- The literal of a program's first token, empty for an empty program. -/
def tokenLiteral (p : Program) : String :=
  (p.statements.head?.map fun s => s.token.literal).getD ""

end Program

end MonkeyLang
