import MonkeyLang.Evaluation.Outcome
import MonkeyLang.Text.Grapheme
import MonkeyLang.Text.Lines
import MonkeyLang.Value.Display

/-!
# Standard functions

What the standard functions do, and tables of the names that they are called by.  None of them
changes a value: `push` and `rest` make new arrays.
-/

namespace MonkeyLang

namespace Primitive

/-- The only argument of a call. -/
def oneArgument : List Value → Except RuntimeError Value
  | [v] => .ok v
  | vs => .error (.wrongArgumentCount vs.length 1)

/-- The elements of an argument that has to be an array. -/
def requireArray (p : Primitive) : Value → Except RuntimeError (List Value)
  | .array elements => .ok elements
  | v => .error (.argumentNotArray p v.type)

/-- The number of elements of an array or of characters, as a reader perceives them, of a
string. -/
def length : Value → Except RuntimeError Value
  | .array elements => .ok (.integer (.ofNat elements.length))
  | .string s => .ok (.integer (.ofNat (Text.graphemeCount s)))
  | .null => .ok (.integer 0)
  | v => .error (.argumentNotSupported .len v.type)

/-- The elements after the first; `null` if there are none. -/
def tail : List Value → Value
  | _ :: v :: vs => .array (v :: vs)
  | _ => .null

/-- The lines that `puts` prints. -/
def lines (vs : List Value) : String := Text.unlines (vs.map Value.display)

/-- Calls a standard function. -/
def call : Primitive → List Value → Eval Value
  | len, args => .ofExcept (do length (← oneArgument args))
  | puts, args => do
    Eval.print (lines args)
    return .null
  | first, args => .ofExcept do
    let elements ← requireArray first (← oneArgument args)
    return elements.head?.getD .null
  | last, args => .ofExcept do
    let elements ← requireArray last (← oneArgument args)
    return elements.getLast?.getD .null
  | rest, args => .ofExcept do
    let elements ← requireArray rest (← oneArgument args)
    return tail elements
  | push, [v, x] => .ofExcept do
    let elements ← requireArray push v
    return .array (elements ++ [x])
  | push, args => .ofExcept (.error (.wrongArgumentCount args.length 2))

end Primitive

/-! ## Tables -/

/-- The standard functions that a program can call, the latest entry first. -/
abbrev BuiltinTable := List Builtin

namespace BuiltinTable

/-- A table that also has a function under a name, in place of any that it had there. -/
def register (name : String) (p : Primitive) (table : BuiltinTable) : BuiltinTable :=
  ⟨name, p⟩ :: table

/-- The table of all standard functions under their own names. -/
def standard : BuiltinTable := Primitive.all.map fun p => ⟨p.name, p⟩

/-- The function under a name. -/
def find? (table : BuiltinTable) (name : String) : Option Builtin :=
  List.find? (fun b => b.name = name) table

end BuiltinTable

end MonkeyLang
