import MonkeyLang.Interpreter
import MonkeyLang.Syntax.Parsing

/-!
# Sessions

A session evaluates one source text after the other in one interpreter.
-/

namespace MonkeyLang

/-- What a session answers to an input. -/
inductive Response where
  /-- The input could not be parsed, and nothing was evaluated. -/
  | parseErrors (errors : List ParseError)
  /-- The value of the last statement, if there was a statement. -/
  | evaluated (value : Option Value)

namespace Response

/-- The printed form of an answer: every parse error on a line, or the value. -/
def display : Response → String
  | parseErrors errors =>
    "\n".intercalate (errors.map fun e => "parser error: " ++ e.message)
  | evaluated (some v) => v.display
  | evaluated none => ""

end Response

/-- The interpreter that successive inputs share. -/
structure Session where
  interpreter : Interpreter

/-- The answer to an input, what it printed, the log records of its evaluation, and the session
behind it. -/
structure Exchange where
  response : Response
  printed : String
  records : List Log.Record
  next : Session

namespace Session

/-- A session without inputs. -/
def new : Session := ⟨.standard⟩

/-- Parses and evaluates an input; none if calls were nested more deeply than `depth`. -/
def eval (depth : Nat) (input : String) (s : Session) : Option Exchange :=
  match Program.parse input with
  | .error errors => some ⟨.parseErrors errors, "", [], s⟩
  | .ok p =>
    (s.interpreter.run depth p).map fun r =>
      ⟨.evaluated r.result, r.printed, Interpreter.records p r, ⟨r.next⟩⟩

/-- Removes every binding made so far. -/
def reset (s : Session) : Session := ⟨s.interpreter.reset⟩

end Session

end MonkeyLang
