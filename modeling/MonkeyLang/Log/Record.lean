import MonkeyLang.Log.Level

/-!
# Log records

What the program can log: kinds of steps, each reported by one part of the program at one level
with named fields.  A record may be written in the course of an activity, which has a name and
fields of its own.
-/

namespace MonkeyLang.Log

/-- The parts of the program that write records. -/
inductive Part where
  | scanner
  | parser
  | evaluator
  | lineReader
deriving DecidableEq

namespace Part

/-- The name of a part, which filters can refer to. -/
def name : Part → String
  | scanner => "monkey::lexer"
  | parser => "monkey::parser"
  | evaluator => "monkey::interp::eval"
  | lineReader => "rustyline"

end Part

/-- The kinds of steps that are reported. -/
inductive Event where
  | token
  | statement
  | expression
  | builtinLookup
  | functionCall
  | builtinCall
  | runtimeError
  /-- The console asks for a line although there is no terminal. -/
  | lineRequest
deriving DecidableEq

namespace Event

def part : Event → Part
  | token => .scanner
  | statement | expression => .parser
  | builtinLookup | functionCall | builtinCall | runtimeError => .evaluator
  | lineRequest => .lineReader

def level : Event → Level
  | token | statement | expression | builtinLookup => .trace
  | functionCall | builtinCall | runtimeError | lineRequest => .debug

/-- The names of the fields of a record. -/
def fields : Event → List String
  | token => ["message", "kind", "literal", "span"]
  | statement => ["message", "token"]
  | expression => ["message", "precedence", "token"]
  | builtinLookup => ["message", "name"]
  | functionCall => ["message", "params", "args"]
  | builtinCall => ["message", "name", "args"]
  | runtimeError => ["message", "kind"]
  | lineRequest => ["message", "log.target", "log.module_path", "log.file", "log.line"]

/-- The message of a record. -/
def message : Event → String
  | token => "token"
  | statement => "statement"
  | expression => "expression"
  | builtinLookup => "builtin lookup"
  | functionCall => "apply function"
  | builtinCall => "apply builtin"
  | runtimeError => "runtime error"
  | lineRequest => "stdin is not a tty"

end Event

/-- The activities in whose course records are written. -/
inductive Activity where
  | parsing
  /-- The evaluation of a program of so many statements. -/
  | evaluating (statements : Nat)
deriving DecidableEq

namespace Activity

def part : Activity → Part
  | parsing => .parser
  | evaluating _ => .evaluator

/-- The name of an activity, which filters can refer to. -/
def name : Activity → String
  | parsing => "parse_program"
  | evaluating _ => "eval_program"

/-- The fields of an activity and their values. -/
def fields : Activity → List (String × Nat)
  | parsing => []
  | evaluating statements => [("statements", statements)]

end Activity

/-- The report of a kind of step, and the activity that it was made in, if any.  The steps of one
kind in one activity have one record. -/
structure Record where
  event : Event
  activity : Option Activity
deriving DecidableEq

namespace Record

/-- The line of a record in the log, without the time and the values of its fields. -/
def render (r : Record) : String :=
  r.event.level.label ++ " " ++ r.event.part.name ++ ": " ++ r.event.message

end Record

end MonkeyLang.Log
