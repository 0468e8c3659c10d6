import MonkeyLang.Log.Record
import MonkeyLang.Token.Scan

/-!
# The log of reading a text

Reading a text as a program has the same records whether it succeeds or not, and they can be told
from the kinds of its tokens.
-/

namespace MonkeyLang.Log

/-- Whether reading the tokens of a text comes to an expression.  It does unless the text consists
of `let` statements that break off before their values. -/
def reachesExpression : List TokenKind → Bool
  | [] => false
  | .letWord :: .ident :: .assign :: _ => true
  | .letWord :: .ident :: kinds => reachesExpression kinds
  | .letWord :: kinds => reachesExpression kinds
  | _ => true

/-- The records of scanning tokens before parsing begins, or without parsing. -/
def ofKinds (kinds : List TokenKind) : List Record :=
  if kinds = [] then [] else [⟨.token, none⟩]

/-- The records of reading a text.  Two tokens are scanned ahead, before parsing begins. -/
def ofSource (source : String) : List Record :=
  let kinds := (Token.scan source).map (·.kind)
  let parsing (e : Event) (happens : Bool) : List Record :=
    if happens then [⟨e, some .parsing⟩] else []
  ofKinds kinds
    ++ parsing .token (2 < kinds.length)
    ++ parsing .statement (kinds ≠ [])
    ++ parsing .expression (reachesExpression kinds)

end MonkeyLang.Log
