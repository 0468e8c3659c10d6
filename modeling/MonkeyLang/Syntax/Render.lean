import MonkeyLang.Syntax.Tree

/-!
# Canonical rendering

A tree is written on one line with every operator expression in parentheses.  Blocks and programs
are written as their statements without anything between them, strings without quotes.
-/

namespace MonkeyLang

mutual

/-- The canonical form of an expression. -/
def Expr.render : Expr → String
  | .ident id => id.name
  | .boolean t _ => t.literal
  | .integer t _ => t.literal
  | .string _ value => value
  | .unary _ op operand => "(" ++ op.symbol ++ operand.render ++ ")"
  | .binary _ left op right =>
    "(" ++ left.render ++ " " ++ op.symbol ++ " " ++ right.render ++ ")"
  | .conditional _ condition consequence alternative =>
    "if " ++ condition.render ++ " " ++ consequence.render ++ renderAlternative alternative
  | .function t parameters body =>
    t.literal ++ "(" ++ ", ".intercalate (parameters.map (·.name)) ++ ") " ++ body.render
  | .call _ callee arguments =>
    callee.render ++ "(" ++ ", ".intercalate (renderExprs arguments) ++ ")"
  | .array _ elements => "[" ++ ", ".intercalate (renderExprs elements) ++ "]"
  | .index _ base position => "(" ++ base.render ++ "[" ++ position.render ++ "])"
  | .hash _ pairs => "\x7b" ++ ", ".intercalate (renderPairs pairs) ++ "\x7d"

/-- The canonical form of an `else` branch, empty if there is none. -/
def renderAlternative : Option Block → String
  | none => ""
  | some block => " else " ++ block.render

/-- The canonical forms of a list of expressions. -/
def renderExprs : List Expr → List String
  | [] => []
  | e :: es => e.render :: renderExprs es

/-- The canonical forms of the pairs of a hash. -/
def renderPairs : List (Expr × Expr) → List String
  | [] => []
  | (key, value) :: pairs => (key.render ++ ":" ++ value.render) :: renderPairs pairs

/-- The canonical form of a statement. -/
def Stmt.render : Stmt → String
  | .letStmt t name value => t.literal ++ " " ++ name.name ++ " = " ++ value.render ++ ";"
  | .returnStmt t value => t.literal ++ " " ++ value.render ++ ";"
  | .exprStmt _ value => value.render

/-- The canonical form of a block, without its braces. -/
def Block.render : Block → String
  | .mk _ statements => renderStmts statements

/-- The canonical form of statements in a row. -/
def renderStmts : List Stmt → String
  | [] => ""
  | s :: ss => s.render ++ renderStmts ss

end

/-- The canonical form of a program. -/
def Program.render (p : Program) : String := renderStmts p.statements

end MonkeyLang
