import MonkeyLang.Log.Level
import MonkeyLang.Log.Pattern
import MonkeyLang.Text.Utf8
import MonkeyLang.Unicode.Alphanumeric
import MonkeyLang.Unicode.Whitespace

/-!
# Directives of a log filter

A directive is written `target[activity{field=value}]=level`, where every part may be missing, or
as a level alone.  It sets the most detailed level that is logged, for all records or for those
that its other parts describe.

The main definition is `Directive.ofChars?`.
-/

namespace MonkeyLang.Log

/-! ## Fields -/

/-- A value that a field is compared with. -/
inductive FieldValue where
  | number (n : Nat)
  /-- A value of another type, or a pattern.  No field has such a value. -/
  | other (text : List Char)
deriving DecidableEq

namespace FieldValue

/-- Whether a text is a number with a fraction or an exponent, or one of the words for infinity
and for what is no number. -/
def isDecimalFraction (cs : List Char) : Bool :=
  let unsigned := match cs with
    | '+' :: ds | '-' :: ds => ds
    | ds => ds
  let whole := unsigned.takeWhile Char.isDigit
  let behindWhole := unsigned.dropWhile Char.isDigit
  let (fraction, behind) := match behindWhole with
    | '.' :: ds => (ds.takeWhile Char.isDigit, ds.dropWhile Char.isDigit)
    | ds => ([], ds)
  let exponentFits := match behind with
    | [] => true
    | e :: '+' :: ds | e :: '-' :: ds | e :: ds => (e = 'e' || e = 'E') && ds ≠ [] && ds.all Char.isDigit
  let word := String.ofList (unsigned.map Char.toLower)
  word = "inf" || word = "infinity" || word = "nan" || (whole ++ fraction ≠ [] && exponentFits)

/-- The value that a text spells: a number, or something else that is well formed. -/
def ofChars? (cs : List Char) : Option FieldValue :=
  match Level.number? cs with
  | some n => some (.number n)
  | none =>
    if isDecimalFraction cs || Pattern.isWellFormed cs then some (.other cs) else none

end FieldValue

/-- A field that has to be there, and the value that it has to have, if any. -/
structure FieldTest where
  name : String
  value : Option FieldValue
deriving DecidableEq

namespace FieldTest

/-- The test that the text between braces spells: a name, and a value behind an equals sign.  What
stands behind a second equals sign does not count. -/
def ofChars? (cs : List Char) : Option FieldTest :=
  let name := String.ofList (cs.takeWhile (· ≠ '='))
  match cs.dropWhile (· ≠ '=') with
  | [] => if cs = [] then none else some ⟨name, none⟩
  | _ :: value => (FieldValue.ofChars? (value.takeWhile (· ≠ '='))).map fun v => ⟨name, some v⟩

end FieldTest

/-! ## Directives -/

/-- A directive of a filter. -/
structure Directive where
  /-- How the names of the parts of the program begin that the directive is about. -/
  target : Option String
  /-- The name of the activity that the directive is about. -/
  activity : Option String
  field : Option FieldTest
  level : Level
deriving DecidableEq

namespace Directive

/-- How far a directive has been read.  The numbers are the byte offsets at which the part under
way began. -/
inductive Stage where
  | start
  /-- In the word that the directive begins with, a target or a level. -/
  | word
  | activity (start : Nat)
  | field (start : Nat)
  /-- Behind the braces. -/
  | fieldEnd
  /-- Behind the brackets. -/
  | bracketEnd
  | level (start : Nat)

/-- A directive for everything, which the parts that are read restrict. -/
def unrestricted : Directive := ⟨none, none, none, .trace⟩

/-- Whether a directive can begin with a character, brackets apart. -/
def canBegin (c : Char) : Bool :=
  c = '-' || c = ':' || c = '_' || Unicode.isAlphanumeric c

/-- One more character of a directive, at a byte offset.  The parts are cut out of `text` at the
offsets of the characters that end them. -/
def step (text : List Char) (d : Directive) (stage : Stage) (offset : Nat) (c : Char) :
    Option (Directive × Stage) :=
  let cut (start : Nat) : List Char := Text.cut start offset text
  match stage, c with
  | .start, '[' => some (d, .activity (offset + 1))
  | .start, c => if canBegin c then some (d, .word) else none
  | .word, '=' => some ({ d with target := some (.ofList (cut 0)) }, .level (offset + 1))
  | .word, '[' => some ({ d with target := some (.ofList (cut 0)) }, .activity (offset + 1))
  | .activity start, ']' => some ({ d with activity := some (.ofList (cut start)) }, .bracketEnd)
  | .activity start, '\x7b' =>
    let name := cut start
    some ({ d with activity := if name = [] then none else some (.ofList name) },
      .field (offset + 1))
  | .field start, '\x7d' =>
    (FieldTest.ofChars? (cut start)).map fun f => ({ d with field := some f }, .fieldEnd)
  | .fieldEnd, ']' => some (d, .bracketEnd)
  | .fieldEnd, _ => none
  | .bracketEnd, '=' => some (d, .level (offset + 1))
  | .bracketEnd, _ => none
  | stage, _ => some (d, stage)

/-- The directive at the end of its text. -/
def finish (text : List Char) (d : Directive) : Stage → Option Directive
  | .word =>
    match Level.ofChars? text with
    | some level => some { d with level }
    | none => some { d with target := some (.ofList text) }
  | .bracketEnd => some d
  | .level start =>
    match Text.cut start (Text.byteLength text) text with
    | [] => some d
    | rest => (Level.ofChars? rest).map fun level => { d with level }
  | _ => none

/-- Reads characters from a byte offset on. -/
def readFrom (text : List Char) (d : Directive) (stage : Stage) (offset : Nat) :
    List Char → Option Directive
  | [] => finish text d stage
  | c :: cs =>
    match step text d stage offset c with
    | none => none
    | some (d, stage) => readFrom text d stage (offset + c.utf8Size) cs

/-- The directive that a text spells, if it is one.  White space at its ends is passed over, but the
parts are cut out of the whole text, so that white space before a directive displaces them.  A word
that is no level is a target, for which everything is logged. -/
def ofChars? (text : List Char) : Option Directive :=
  readFrom text unrestricted .start 0 (Unicode.trim text)

end Directive

end MonkeyLang.Log
