import MonkeyLang.Syntax.Render
import MonkeyLang.Text.Quoted
import MonkeyLang.Value.Basic

/-!
# Descriptions of functions

A description of a function names all its parts, the parameters with their tokens, except the
frame that it was made in, which may hold the function itself.
-/

namespace MonkeyLang

def Span.describe (s : Span) : String :=
  "Span \x7b start: " ++ Text.decimal s.start ++ ", end: " ++ Text.decimal s.stop ++ " \x7d"

def Token.describe (t : Token) : String :=
  "Token \x7b kind: " ++ t.kind.name ++ ", literal: " ++ Text.quote t.literal ++ ", span: "
    ++ t.span.describe ++ " \x7d"

def Ident.describe (id : Ident) : String :=
  "Identifier \x7b token: " ++ id.token.describe ++ ", value: " ++ Text.quote id.name ++ " \x7d"

/-- The description of a function on one line. -/
def Closure.describe (f : Closure) : String :=
  "Function \x7b parameters: [" ++ ", ".intercalate (f.parameters.map Ident.describe)
    ++ "], body: " ++ Text.quote f.body.render ++ ", .. \x7d"

end MonkeyLang
