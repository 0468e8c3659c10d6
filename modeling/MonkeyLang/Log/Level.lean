import MonkeyLang.Text.Decimal

/-!
# Levels of log records
-/

namespace MonkeyLang.Log

/-- How detailed a record is, or which records are logged; `off` logs none. -/
inductive Level where
  | off | error | warn | info | debug | trace
deriving DecidableEq

namespace Level

/-- The position of a level in the order, which is also the number that it goes by. -/
def rank : Level → Nat
  | off => 0
  | error => 1
  | warn => 2
  | info => 3
  | debug => 4
  | trace => 5

def label : Level → String
  | off => "OFF"
  | error => "ERROR"
  | warn => "WARN"
  | info => "INFO"
  | debug => "DEBUG"
  | trace => "TRACE"

def all : List Level := [off, error, warn, info, debug, trace]

/-- Whether records of one level are logged where the most detailed level logged is another. -/
def within (level limit : Level) : Bool := level.rank ≤ limit.rank

/-- The number that digits stand for, behind a plus sign or not. -/
def number? (cs : List Char) : Option Nat :=
  let digits := match cs with
    | '+' :: ds => ds
    | ds => ds
  if digits ≠ [] && digits.all Char.isDigit then some (Text.ofDigits digits) else none

/-- The level that a text names, by number or by word in any case. -/
def ofChars? (cs : List Char) : Option Level :=
  match number? cs with
  | some n => all.find? fun l => l.rank = n
  | none =>
    if cs = [] then some error
    else all.find? fun l => l.label.toList = cs.map Char.toUpper

end Level

end MonkeyLang.Log
