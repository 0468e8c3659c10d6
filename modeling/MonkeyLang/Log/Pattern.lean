/-!
# Well-formed patterns

A filter may compare a field with a regular expression.  No field holds a text, so no expression is
ever matched, and all that counts is whether it is well formed.  Classes that need a table of
characters, such as `\d`, boundaries of words, look-around, case folding and counted repetition are
not at hand and refused.

The main definition is `Pattern.isWellFormed`.
-/

namespace MonkeyLang.Log.Pattern

/-! ## What can come next -/

/-- Where a character stands that is written as an escape. -/
inductive Place where
  | plain
  | inClass
  /-- At the upper end of a range that begins with a code point. -/
  | rangeEnd (low : Nat)

/-- What has been read last, and so what can come next. -/
inductive Mode where
  /-- The end of an item, which may be repeated or not. -/
  | item (repeatable : Bool)
  | escape (place : Place)
  /-- An escape that has so many hexadecimal digits to come. -/
  | hex (place : Place) (missing : Nat) (value : Nat)
  /-- An opening parenthesis. -/
  | group
  /-- An opening parenthesis and a question mark. -/
  | marked
  /-- The letter before the angle bracket of a group's name. -/
  | naming
  /-- The beginning of the name of a group. -/
  | nameStart
  | name
  /-- Flags of a group, whether a sign of negation came, and whether it came last. -/
  | flags (seen : List Char) (negated dangling : Bool)
  /-- The beginning of a class, where a caret or a closing bracket may have special meaning. -/
  | classStart (caret bracket : Bool)
  /-- The end of an item of a class, with the code point that a range could begin with. -/
  | classItem (low : Option Nat)
  /-- A hyphen that begins no range unless another follows. -/
  | classHyphen
  /-- A hyphen behind the code point that a range begins with. -/
  | range (low : Nat)

/-- The groups and classes that are open, and what can come next. -/
structure Reader where
  groups : Nat
  classes : Nat
  mode : Mode

/-! ## Characters -/

/-- The mode behind a character that stands for itself. -/
def behindLiteral (code : Nat) : Place → Option Mode
  | .plain => some (.item true)
  | .inClass => some (.classItem (some code))
  | .rangeEnd low => if low ≤ code then some (.classItem none) else none

/-- Whether a number is a code point that is not half of a pair. -/
def isScalar (code : Nat) : Bool := code < 0xD800 || (0xE000 ≤ code && code < 0x110000)

/-- The value of a hexadecimal digit. -/
def hexValue? (c : Char) : Option Nat :=
  if c.isDigit then some (c.toNat - 48)
  else if 'a' ≤ c && c ≤ 'f' then some (c.toNat - 87)
  else if 'A' ≤ c && c ≤ 'F' then some (c.toNat - 55)
  else none

/-- The code point of a letter behind a backslash, if it stands for a control. -/
def control? : Char → Option Nat
  | 'a' => some 7
  | 'f' => some 12
  | 't' => some 9
  | 'n' => some 10
  | 'r' => some 13
  | 'v' => some 11
  | _ => none

/-- The mode behind a backslash and one more character. -/
def behindEscape (c : Char) (place : Place) : Option Mode :=
  match control? c with
  | some code => behindLiteral code place
  | none =>
    match c, place with
    | 'x', _ => some (.hex place 2 0)
    | 'u', _ => some (.hex place 4 0)
    | 'U', _ => some (.hex place 8 0)
    | 'A', .plain | 'z', .plain => some (.item true)
    | _, _ =>
      if c.toNat < 0x80 && !c.isAlphanum && c ≠ '<' && c ≠ '>' then behindLiteral c.toNat place
      else none

/-- The mode behind one more hexadecimal digit. -/
def behindHex (c : Char) (place : Place) (missing value : Nat) : Option Mode := do
  let digit ← hexValue? c
  let value := 16 * value + digit
  if missing ≤ 1 then
    if isScalar value then behindLiteral value place else none
  else return .hex place (missing - 1) value

/-! ## Steps -/

namespace Reader

/-- The reader in another mode. -/
def goTo (r : Reader) (mode : Mode) : Reader := { r with mode }

/-- One character outside of classes. -/
def item (r : Reader) (repeatable : Bool) (c : Char) : Option Reader :=
  match c with
  | '\\' => some (r.goTo (.escape .plain))
  | '(' => some (r.goTo .group)
  | ')' => if r.groups = 0 then none else some { r with groups := r.groups - 1, mode := .item true }
  | '|' => some (r.goTo (.item false))
  | '*' | '+' | '?' => if repeatable then some (r.goTo (.item true)) else none
  | '\x7b' => none
  | '[' => some { r with classes := 1, mode := .classStart true true }
  | _ => some (r.goTo (.item true))

/-- The reader in a group that has been opened. -/
def enterGroup (r : Reader) : Reader := { r with groups := r.groups + 1, mode := .item false }

/-- One character of the flags of a group. -/
def flag (r : Reader) (seen : List Char) (negated dangling : Bool) (c : Char) : Option Reader :=
  if c = ':' then if dangling then none else some r.enterGroup
  else if c = ')' then if dangling || seen = [] then none else some (r.goTo (.item false))
  else if c = '-' then if negated then none else some (r.goTo (.flags seen true true))
  else if c ∈ ['m', 's', 'U', 'u', 'x', 'R'] && c ∉ seen then
    some (r.goTo (.flags (c :: seen) negated false))
  else none

/-- One character behind the opening of a group and a question mark. -/
def mark (r : Reader) (c : Char) : Option Reader :=
  match c with
  | 'P' => some (r.goTo .naming)
  | '<' => some (r.goTo .nameStart)
  | _ => r.flag [] false false c

/-- One character of a class. -/
def classItem (r : Reader) (c : Char) : Option Reader :=
  match c with
  | '\\' => some (r.goTo (.escape .inClass))
  | '[' => some { r with classes := r.classes + 1, mode := .classStart true true }
  | ']' =>
    if r.classes ≤ 1 then some { r with classes := 0, mode := .item true }
    else some { r with classes := r.classes - 1, mode := .classItem none }
  | '-' => some (r.goTo .classHyphen)
  | _ => some (r.goTo (.classItem (some c.toNat)))

/-- One character at the upper end of a range, unless the hyphen before it makes none. -/
def range (r : Reader) (low : Nat) (c : Char) : Option Reader :=
  match c with
  | ']' => r.classItem c
  | '-' => some (r.goTo (.classItem none))
  | '\\' => some (r.goTo (.escape (.rangeEnd low)))
  | _ => (behindLiteral c.toNat (.rangeEnd low)).map r.goTo

/-- One more character; none if no pattern goes on with it. -/
def step (r : Reader) (c : Char) : Option Reader :=
  match r.mode with
  | .item repeatable => r.item repeatable c
  | .escape place => (behindEscape c place).map r.goTo
  | .hex place missing value => (behindHex c place missing value).map r.goTo
  | .group => if c = '?' then some (r.goTo .marked) else r.enterGroup.item false c
  | .marked => r.mark c
  | .naming => if c = '<' then some (r.goTo .nameStart) else none
  | .nameStart => if c.isAlpha || c = '_' then some (r.goTo .name) else none
  | .name =>
    if c = '>' then some r.enterGroup
    else if c.isAlphanum || c ∈ ['_', '.', '[', ']'] then some r
    else none
  | .flags seen negated dangling => r.flag seen negated dangling c
  | .classStart caret bracket =>
    if c = '^' && caret then some (r.goTo (.classStart false true))
    else if c = ']' && bracket then some (r.goTo (.classItem none))
    else if c = '-' then some (r.goTo (.classStart false false))
    else r.classItem c
  | .classItem (some low) => if c = '-' then some (r.goTo (.range low)) else r.classItem c
  | .classItem none => r.classItem c
  | .classHyphen => if c = '-' then some (r.goTo (.classItem none)) else r.classItem c
  | .range low => r.range low c

/-- Whether the pattern may end here. -/
def isComplete (r : Reader) : Bool :=
  match r.mode with
  | .item _ => r.groups = 0
  | _ => false

end Reader

/-- Whether a text is a regular expression that can be used. -/
def isWellFormed (cs : List Char) : Bool :=
  ((cs.foldlM Reader.step ⟨0, 0, .item false⟩).map Reader.isComplete).getD false

end MonkeyLang.Log.Pattern
