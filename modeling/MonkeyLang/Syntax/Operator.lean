import MonkeyLang.Token

/-!
# Operators and binding strength

The operators of expressions, their symbols, the tokens that spell them, and how strongly the
forms that can follow an operand bind.
-/

namespace MonkeyLang

/-! ## Operators -/

/-- The operators that stand before their operand. -/
inductive UnaryOp where
  | bang
  | minus
deriving DecidableEq, Inhabited

namespace UnaryOp

def symbol : UnaryOp → String
  | bang => "!"
  | minus => "-"

/-- The name of an operator in syntax tree dumps. -/
def name : UnaryOp → String
  | bang => "Bang"
  | minus => "Minus"

/-- The operator that a token before an operand stands for. -/
def ofKind? : TokenKind → Option UnaryOp
  | .bang => some bang
  | .minus => some minus
  | _ => none

end UnaryOp

/-- The operators that stand between their operands. -/
inductive BinaryOp where
  | plus | minus | times | divide
  | lt | gt | eq | notEq
deriving DecidableEq, Inhabited

namespace BinaryOp

def symbol : BinaryOp → String
  | plus => "+"
  | minus => "-"
  | times => "*"
  | divide => "/"
  | lt => "<"
  | gt => ">"
  | eq => "=="
  | notEq => "!="

/-- The name of an operator in syntax tree dumps. -/
def name : BinaryOp → String
  | plus => "Plus"
  | minus => "Minus"
  | times => "Asterisk"
  | divide => "Slash"
  | lt => "Lt"
  | gt => "Gt"
  | eq => "Eq"
  | notEq => "NotEq"

/-- The operator that a token after an operand stands for. -/
def ofKind? : TokenKind → Option BinaryOp
  | .plus => some plus
  | .minus => some minus
  | .asterisk => some times
  | .slash => some divide
  | .lt => some lt
  | .gt => some gt
  | .eq => some eq
  | .notEq => some notEq
  | _ => none

end BinaryOp

/-! ## Binding strength -/

/-- Binding strengths, the weakest first. -/
inductive Precedence where
  | lowest | equality | comparison | sum | product | unary | call | index
deriving DecidableEq, Inhabited

namespace Precedence

/-- The position of a strength in the order. -/
def rank : Precedence → Nat
  | lowest => 0
  | equality => 1
  | comparison => 2
  | sum => 3
  | product => 4
  | unary => 5
  | call => 6
  | index => 7

instance : LT Precedence := ⟨fun p q => p.rank < q.rank⟩

instance (p q : Precedence) : Decidable (p < q) := inferInstanceAs (Decidable (p.rank < q.rank))

end Precedence

namespace BinaryOp

/-- How strongly a binary operator binds. -/
def precedence : BinaryOp → Precedence
  | plus | minus => .sum
  | times | divide => .product
  | lt | gt => .comparison
  | eq | notEq => .equality

end BinaryOp

/-- The forms that continue an expression after an operand. -/
inductive Continuation where
  | call
  | index
  | binary (op : BinaryOp)
deriving DecidableEq

namespace Continuation

/-- The form that a token after an operand begins. -/
def ofKind? : TokenKind → Option Continuation
  | .lparen => some call
  | .lbracket => some index
  | kind => (BinaryOp.ofKind? kind).map binary

def precedence : Continuation → Precedence
  | call => .call
  | index => .index
  | binary op => op.precedence

end Continuation

namespace Precedence

/-- How strongly a token binds to the operand before it; the lowest strength if it binds to none. -/
def ofKind (kind : TokenKind) : Precedence :=
  ((Continuation.ofKind? kind).map Continuation.precedence).getD lowest

end Precedence

end MonkeyLang
