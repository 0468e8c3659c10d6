import MonkeyLang.Text.Quoted
import MonkeyLang.Token

/-!
# Printed forms of tokens
-/

namespace MonkeyLang

namespace Token

/-- A token as its kind and its quoted literal. -/
def render (t : Token) : String := t.kind.label ++ " " ++ Text.quote t.literal

/-- A text followed by spaces up to a width; a longer text is kept whole. -/
def padTo (width : Nat) (s : String) : String :=
  s ++ .ofList (List.replicate (width - s.length) ' ')

/-- A line of a token listing: span and kind in columns of eight, then the quoted literal. -/
def listing (t : Token) : String :=
  padTo 8 t.span.render ++ " " ++ padTo 8 t.kind.label ++ " " ++ Text.quote t.literal

end Token

end MonkeyLang
