/-!
# Ranges of code points

A Unicode property is given by the code points that have it, as a list of inclusive ranges in
ascending order.
-/

namespace MonkeyLang.Unicode

/-- Inclusive ranges of code points. -/
abbrev Ranges := List (Nat × Nat)

namespace Ranges

/-- Whether the code point of a character lies in one of the ranges. -/
def has (ranges : Ranges) (c : Char) : Bool :=
  ranges.any fun r => r.1 ≤ c.toNat && c.toNat ≤ r.2

end Ranges

end MonkeyLang.Unicode
