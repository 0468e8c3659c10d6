import MonkeyLang.Token

/-!
# Errors of the parser

Why a token cannot stand where it stands, and the sentence that says so.
-/

namespace MonkeyLang

/-- Why a token was refused. -/
inductive ParseFault where
  /-- A token of one kind had to follow, and another did. -/
  | unexpectedToken (expected found : TokenKind)
  /-- An expression had to begin with a token that begins none. -/
  | noOperand (found : TokenKind)
  /-- The digits stand for a number beyond the range of integers. -/
  | invalidInteger (literal : String)
deriving DecidableEq

/-- A fault and the bytes of the token that it was found at. -/
structure ParseError where
  fault : ParseFault
  span : Span
deriving DecidableEq

namespace ParseFault

/-- The sentence that reports a fault. -/
def message : ParseFault → String
  | unexpectedToken expected found =>
    "expected next token to be " ++ expected.label ++ ", got " ++ found.label ++ " instead"
  | noOperand found => "no prefix parse function for " ++ found.label ++ " found"
  | invalidInteger literal => "could not parse " ++ literal ++ " as integer"

end ParseFault

namespace ParseError

def message (e : ParseError) : String := e.fault.message

/-- The number of errors of a parse that failed. -/
def summary (errors : List ParseError) : String :=
  Text.decimal errors.length ++ " parse error(s)"

end ParseError

end MonkeyLang
