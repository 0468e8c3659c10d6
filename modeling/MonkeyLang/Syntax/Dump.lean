import MonkeyLang.Syntax.Tree
import MonkeyLang.Text.Json

/-!
# Syntax trees as JSON

Every node is an object with one field, named for the form, that holds the parts of the node in
order.  Nothing of the tree is left out.
-/

namespace MonkeyLang

def Span.toJson (s : Span) : Json :=
  .object [("start", .integer s.start), ("end", .integer s.stop)]

def Token.toJson (t : Token) : Json :=
  .object [("kind", .string t.kind.name), ("literal", .string t.literal), ("span", t.span.toJson)]

def Ident.toJson (id : Ident) : Json :=
  .object [("token", id.token.toJson), ("value", .string id.name)]

/-- A node: the name of its form and its parts. -/
def Json.node (form : String) (parts : List (String × Json)) : Json :=
  .object [(form, .object parts)]

mutual

/-- The document of an expression. -/
def Expr.toJson : Expr → Json
  | .ident id => .object [("Identifier", id.toJson)]
  | .boolean t value => .node "Boolean" [("token", t.toJson), ("value", .boolean value)]
  | .integer t value => .node "Integer" [("token", t.toJson), ("value", .integer value.toInt)]
  | .string t value => .node "String" [("token", t.toJson), ("value", .string value)]
  | .unary t op operand =>
    .node "Prefix"
      [("token", t.toJson), ("operator", .string op.name), ("right", operand.toJson)]
  | .binary t left op right =>
    .node "Infix"
      [("token", t.toJson), ("left", left.toJson), ("operator", .string op.name),
        ("right", right.toJson)]
  | .conditional t condition consequence alternative =>
    .node "If"
      [("token", t.toJson), ("condition", condition.toJson),
        ("consequence", consequence.toJson), ("alternative", alternativeToJson alternative)]
  | .function t parameters body =>
    .node "Function"
      [("token", t.toJson), ("parameters", .array (parameters.map Ident.toJson)),
        ("body", body.toJson)]
  | .call t callee arguments =>
    .node "Call"
      [("token", t.toJson), ("function", callee.toJson),
        ("arguments", .array (exprsToJson arguments))]
  | .array t elements =>
    .node "Array" [("token", t.toJson), ("elements", .array (exprsToJson elements))]
  | .index t base position =>
    .node "Index" [("token", t.toJson), ("left", base.toJson), ("index", position.toJson)]
  | .hash t pairs => .node "Hash" [("token", t.toJson), ("pairs", .array (pairsToJson pairs))]

/-- The document of an `else` branch, null if there is none. -/
def alternativeToJson : Option Block → Json
  | none => .null
  | some block => block.toJson

/-- The documents of a list of expressions. -/
def exprsToJson : List Expr → List Json
  | [] => []
  | e :: es => e.toJson :: exprsToJson es

/-- The documents of the pairs of a hash, each an array of two. -/
def pairsToJson : List (Expr × Expr) → List Json
  | [] => []
  | (key, value) :: pairs => .array [key.toJson, value.toJson] :: pairsToJson pairs

/-- The document of a statement. -/
def Stmt.toJson : Stmt → Json
  | .letStmt t name value =>
    .node "Let" [("token", t.toJson), ("name", name.toJson), ("value", value.toJson)]
  | .returnStmt t value => .node "Return" [("token", t.toJson), ("value", value.toJson)]
  | .exprStmt t value =>
    .node "Expression" [("token", t.toJson), ("expression", value.toJson)]

/-- The document of a block. -/
def Block.toJson : Block → Json
  | .mk t statements =>
    .object [("token", t.toJson), ("statements", .array (stmtsToJson statements))]

/-- The documents of statements in a row. -/
def stmtsToJson : List Stmt → List Json
  | [] => []
  | s :: ss => s.toJson :: stmtsToJson ss

end

/-- The document of a program. -/
def Program.toJson (p : Program) : Json :=
  .object [("statements", .array (stmtsToJson p.statements))]

end MonkeyLang
