/-!
# Kinds of values and the standard functions

The types that messages name values by, and the six functions that every program may call.
-/

namespace MonkeyLang

/-- The type of a value. -/
inductive ValueType where
  | integer | boolean | string | null | array | hash | function | builtin | error
deriving DecidableEq

namespace ValueType

/-- The spelling of a type in messages. -/
def label : ValueType → String
  | integer => "INTEGER"
  | boolean => "BOOLEAN"
  | string => "STRING"
  | null => "NULL"
  | array => "ARRAY"
  | hash => "HASH"
  | function => "FUNCTION"
  | builtin => "BUILTIN"
  | error => "ERROR"

end ValueType

/-- The standard functions. -/
inductive Primitive where
  | len | puts | first | last | rest | push
deriving DecidableEq

namespace Primitive

/-- The name that a standard function goes by. -/
def name : Primitive → String
  | len => "len"
  | puts => "puts"
  | first => "first"
  | last => "last"
  | rest => "rest"
  | push => "push"

/-- All standard functions. -/
def all : List Primitive := [len, puts, first, last, rest, push]

/-- The standard function of a name. -/
def ofName? (name : String) : Option Primitive := all.find? (·.name = name)

end Primitive

end MonkeyLang
