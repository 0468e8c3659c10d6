import MonkeyLang.Syntax.Equality
import MonkeyLang.Value.Basic

/-!
# Equality of values

Arrays and hashes are equal when their parts are, the kept keys of hashes included.  A function is
equal to itself alone, which its identity decides.  Standard functions are equal when they are
registered under one name.
-/

namespace MonkeyLang

instance : DecidableEq Closure := fun f g =>
  if h : f.identity = g.identity ∧ f.parameters = g.parameters ∧ f.body = g.body
      ∧ f.scope = g.scope then
    isTrue (by cases f; cases g; simp_all)
  else isFalse (by rintro rfl; simp at h)

namespace Value

mutual

/-- Whether two values are equal. -/
def equal : Value → Value → Bool
  | .integer m, .integer n => m = n
  | .boolean a, .boolean b => a = b
  | .string s, .string t => s = t
  | .null, .null => true
  | .array xs, .array ys => equalElements xs ys
  | .hash xs, .hash ys => equalEntries xs ys
  | .function f, .function g => f = g
  | .builtin a, .builtin b => a.name = b.name
  | .error d, .error e => d = e
  | _, _ => false

/-- Whether two lists of values are equal, element by element. -/
def equalElements : List Value → List Value → Bool
  | [], [] => true
  | x :: xs, y :: ys => x.equal y && equalElements xs ys
  | _, _ => false

/-- Whether two tables are equal, entry by entry. -/
def equalEntries : List (Entry Value) → List (Entry Value) → Bool
  | [], [] => true
  | ⟨h, k, v⟩ :: xs, ⟨h', k', v'⟩ :: ys =>
    h = h' && k.equal k' && v.equal v' && equalEntries xs ys
  | _, _ => false

end

mutual

/-- Every value is equal to itself. -/
theorem equal_self : ∀ v : Value, v.equal v = true
  | .integer _ | .boolean _ | .string _ | .function _ | .builtin _ | .error _ => by simp [equal]
  | .null => by rw [equal]
  | .array vs => by rw [equal, equalElements_self vs]
  | .hash es => by rw [equal, equalEntries_self es]

theorem equalElements_self : ∀ vs : List Value, equalElements vs vs = true
  | [] => by rw [equalElements]
  | v :: vs => by rw [equalElements, equal_self v, equalElements_self vs, Bool.and_self]

theorem equalEntries_self : ∀ es : List (Entry Value), equalEntries es es = true
  | [] => by rw [equalEntries]
  | ⟨_, k, v⟩ :: es => by
    simp only [equalEntries, equal_self k, equal_self v, equalEntries_self es, decide_true,
      Bool.and_self]

end

end Value

end MonkeyLang
