import MonkeyLang.Syntax.Tree
import MonkeyLang.Text.Fingerprint
import MonkeyLang.Value.HashTable
import MonkeyLang.Value.RuntimeError

/-!
# Values

The values that programs compute with.
-/

namespace MonkeyLang

/-- The number of a frame of variable bindings. -/
abbrev FrameId := Nat

/-- A function that a program made: its parameters and body, the frame it was made in, and a
number that tells it from every other function of the run. -/
structure Closure where
  identity : Nat
  parameters : List Ident
  body : Block
  scope : FrameId

/-- A standard function under the name that it was registered with. -/
structure Builtin where
  name : String
  primitive : Primitive
deriving DecidableEq

/-- Values of programs. -/
inductive Value where
  | integer (n : Int64)
  | boolean (b : Bool)
  | string (s : String)
  | null
  | array (elements : List Value)
  | hash (table : List (Entry Value))
  | function (closure : Closure)
  | builtin (b : Builtin)
  /-- A runtime error that has become the result of a program. -/
  | error (e : RuntimeError)

namespace Value

/-- The type of a value. -/
def type : Value → ValueType
  | integer _ => .integer
  | boolean _ => .boolean
  | string _ => .string
  | null => .null
  | array _ => .array
  | hash _ => .hash
  | function _ => .function
  | builtin _ => .builtin
  | error _ => .error

/-- Whether a value counts as true: all values but `null` and `false` do. -/
def isTruthy : Value → Bool
  | null | boolean false => false
  | _ => true

/-- The hash key of a value, if it can be a key. -/
def hashKey? : Value → Option HashKey
  | integer n => some (.integer n)
  | boolean b => some (.boolean b)
  | string s => some (.string (Text.Fingerprint.ofString s).toInt64)
  | _ => none

end Value

end MonkeyLang
