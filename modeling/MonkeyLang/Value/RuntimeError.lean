import MonkeyLang.Syntax.Operator
import MonkeyLang.Text.Decimal
import MonkeyLang.Value.Kind

/-!
# Runtime errors

What can go wrong while a program runs, and the sentence that says so.
-/

namespace MonkeyLang

/-- The causes of runtime errors. -/
inductive RuntimeError where
  /-- The operands have different types. -/
  | typeMismatch (left : ValueType) (op : BinaryOp) (right : ValueType)
  /-- The operator is not defined on the type of its operands. -/
  | unknownBinary (left : ValueType) (op : BinaryOp) (right : ValueType)
  /-- The operator is not defined on the type of its operand. -/
  | unknownUnary (op : UnaryOp) (operand : ValueType)
  | identifierNotFound (name : String)
  | notAFunction (found : ValueType)
  | indexNotSupported (base : ValueType)
  | unusableHashKey (key : ValueType)
  | wrongArgumentCount (got want : Nat)
  /-- A standard function takes no argument of this type. -/
  | argumentNotSupported (function : Primitive) (found : ValueType)
  /-- A standard function takes arrays only. -/
  | argumentNotArray (function : Primitive) (found : ValueType)
  | divisionByZero
deriving DecidableEq

namespace RuntimeError

/-- The sentence that reports an error. -/
def message : RuntimeError → String
  | typeMismatch left op right =>
    "type mismatch: " ++ left.label ++ " " ++ op.symbol ++ " " ++ right.label
  | unknownBinary left op right =>
    "unknown operator: " ++ left.label ++ " " ++ op.symbol ++ " " ++ right.label
  | unknownUnary op operand => "unknown operator: " ++ op.symbol ++ operand.label
  | identifierNotFound name => "identifier not found: " ++ name
  | notAFunction found => "not a function: " ++ found.label
  | indexNotSupported base => "index operator not supported: " ++ base.label
  | unusableHashKey key => "unusable as hash key: " ++ key.label
  | wrongArgumentCount got want =>
    "wrong number of arguments. got=" ++ Text.decimal got ++ ", want=" ++ Text.decimal want
  | argumentNotSupported function found =>
    "argument to `" ++ function.name ++ "` not supported, got " ++ found.label
  | argumentNotArray function found =>
    "argument to `" ++ function.name ++ "` must be ARRAY, got " ++ found.label
  | divisionByZero => "division by zero"

end RuntimeError

end MonkeyLang
