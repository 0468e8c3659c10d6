import MonkeyLang.Value.Basic

/-!
# Operations on values

The effect-free steps of evaluation: operators, indexing and adding an entry to a hash.  Integers
are 64 bits wide and arithmetic on them wraps around.
-/

namespace MonkeyLang

namespace UnaryOp

/-- The value of an operator before an operand. -/
def apply : UnaryOp → Value → Except RuntimeError Value
  | bang, v => .ok (.boolean !v.isTruthy)
  | minus, .integer n => .ok (.integer (-n))
  | minus, v => .error (.unknownUnary minus v.type)

end UnaryOp

namespace BinaryOp

/-- The value of an operator between integers.  Division truncates toward zero. -/
def applyIntegers (op : BinaryOp) (l r : Int64) : Except RuntimeError Value :=
  match op with
  | plus => .ok (.integer (l + r))
  | minus => .ok (.integer (l - r))
  | times => .ok (.integer (l * r))
  | divide => if r = 0 then .error .divisionByZero else .ok (.integer (l / r))
  | lt => .ok (.boolean (l < r))
  | gt => .ok (.boolean (r < l))
  | eq => .ok (.boolean (l = r))
  | notEq => .ok (.boolean (l ≠ r))

/-- The error of an operator between values that it is not defined on. -/
def refuse (op : BinaryOp) (l r : Value) : RuntimeError :=
  if l.type = r.type then .unknownBinary l.type op r.type else .typeMismatch l.type op r.type

/-- The value of an operator between two operands. -/
def apply (op : BinaryOp) (l r : Value) : Except RuntimeError Value :=
  match op, l, r with
  | op, .integer m, .integer n => op.applyIntegers m n
  | plus, .string s, .string t => .ok (.string (s ++ t))
  | eq, .boolean a, .boolean b => .ok (.boolean (a = b))
  | notEq, .boolean a, .boolean b => .ok (.boolean (a ≠ b))
  | op, l, r => .error (op.refuse l r)

end BinaryOp

namespace Value

/-- The hash key of a value, or the error of a value that cannot be a key. -/
def requireHashKey (v : Value) : Except RuntimeError HashKey :=
  match v.hashKey? with
  | some k => .ok k
  | none => .error (.unusableHashKey v.type)

/-- The element of an array at a position; `null` outside the array. -/
def elementAt (elements : List Value) (i : Int64) : Value :=
  if i < 0 then null else elements.getD i.toInt.toNat null

/-- The part of a value that an index selects. -/
def index : Value → Value → Except RuntimeError Value
  | array elements, integer i => .ok (elementAt elements i)
  | hash table, key => do
    let k ← key.requireHashKey
    return ((HashTable.find? table k).map (·.value)).getD null
  | base, _ => .error (.indexNotSupported base.type)

end Value

end MonkeyLang
