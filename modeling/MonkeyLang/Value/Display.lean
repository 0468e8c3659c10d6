import MonkeyLang.Syntax.Render
import MonkeyLang.Value.Basic

/-!
# Printed forms of values

Strings are printed as they are, arrays and hashes as their literals, functions with the canonical
form of their body.
-/

namespace MonkeyLang

namespace Closure

/-- The names of the parameters of a function. -/
def parameterNames (f : Closure) : List String := f.parameters.map (·.name)

/-- The printed form of a function. -/
def display (f : Closure) : String :=
  "fn(" ++ ", ".intercalate f.parameterNames ++ ") \x7b\n" ++ f.body.render ++ "\n\x7d"

end Closure

namespace Value

mutual

/-- The printed form of a value. -/
def display : Value → String
  | .integer n => Text.signedDecimal n.toInt
  | .boolean b => if b then "true" else "false"
  | .string s => s
  | .null => "null"
  | .array elements => "[" ++ ", ".intercalate (displayElements elements) ++ "]"
  | .hash table => "\x7b" ++ ", ".intercalate (displayEntries table) ++ "\x7d"
  | .function f => f.display
  | .builtin _ => "builtin function"
  | .error e => "ERROR: " ++ e.message

/-- The printed forms of the elements of an array. -/
def displayElements : List Value → List String
  | [] => []
  | v :: vs => v.display :: displayElements vs

/-- The printed forms of the entries of a hash. -/
def displayEntries : List (Entry Value) → List String
  | [] => []
  | ⟨_, key, value⟩ :: es => (key.display ++ ": " ++ value.display) :: displayEntries es

end

theorem displayElements_eq_map (vs : List Value) : displayElements vs = vs.map display := by
  induction vs with
  | nil => rfl
  | cons v vs ih => rw [displayElements, List.map_cons, ih]

end Value

end MonkeyLang
