import MonkeyLang.Text.Decimal

/-!
# Tokens

The closed set of token kinds, the spelling each kind is reported under, the keywords, and tokens
themselves: a kind, the literal text, and the bytes of the source text that the token covers.
-/

namespace MonkeyLang

/-! ## Spans -/

/-- A range of UTF-8 bytes of a source text, `stop` excluded. -/
structure Span where
  start : Nat
  stop : Nat
deriving DecidableEq, Inhabited

namespace Span

/-- The empty span at an offset. -/
def point (offset : Nat) : Span := ⟨offset, offset⟩

/-- The span moved to the right by a number of bytes. -/
def shift (offset : Nat) (s : Span) : Span := ⟨s.start + offset, s.stop + offset⟩

/-- A span is written `start..stop`. -/
def render (s : Span) : String := Text.decimal s.start ++ ".." ++ Text.decimal s.stop

end Span

/-! ## Kinds -/

/-- The kinds of token. -/
inductive TokenKind where
  | illegal | eof
  | ident | int | string
  | assign | plus | minus | bang | asterisk | slash | lt | gt | eq | notEq
  | comma | semicolon | colon | lparen | rparen | lbrace | rbrace | lbracket | rbracket
  | function | letWord | trueWord | falseWord | ifWord | elseWord | returnWord
deriving DecidableEq, Inhabited

namespace TokenKind

/-- The spelling of a kind in messages and listings. -/
def label : TokenKind → String
  | illegal => "ILLEGAL"
  | eof => "EOF"
  | ident => "IDENT"
  | int => "INT"
  | string => "STRING"
  | assign => "="
  | plus => "+"
  | minus => "-"
  | bang => "!"
  | asterisk => "*"
  | slash => "/"
  | lt => "<"
  | gt => ">"
  | eq => "=="
  | notEq => "!="
  | comma => ","
  | semicolon => ";"
  | colon => ":"
  | lparen => "("
  | rparen => ")"
  | lbrace => "\x7b"
  | rbrace => "\x7d"
  | lbracket => "["
  | rbracket => "]"
  | function => "FUNCTION"
  | letWord => "LET"
  | trueWord => "TRUE"
  | falseWord => "FALSE"
  | ifWord => "IF"
  | elseWord => "ELSE"
  | returnWord => "RETURN"

/-- The name of a kind in syntax tree dumps. -/
def name : TokenKind → String
  | illegal => "Illegal"
  | eof => "Eof"
  | ident => "Ident"
  | int => "Int"
  | string => "String"
  | assign => "Assign"
  | plus => "Plus"
  | minus => "Minus"
  | bang => "Bang"
  | asterisk => "Asterisk"
  | slash => "Slash"
  | lt => "Lt"
  | gt => "Gt"
  | eq => "Eq"
  | notEq => "NotEq"
  | comma => "Comma"
  | semicolon => "Semicolon"
  | colon => "Colon"
  | lparen => "LParen"
  | rparen => "RParen"
  | lbrace => "LBrace"
  | rbrace => "RBrace"
  | lbracket => "LBracket"
  | rbracket => "RBracket"
  | function => "Function"
  | letWord => "Let"
  | trueWord => "True"
  | falseWord => "False"
  | ifWord => "If"
  | elseWord => "Else"
  | returnWord => "Return"

/-- The kind of a word: one of the seven keywords, or else an identifier. -/
def ofWord : String → TokenKind
  | "fn" => function
  | "let" => letWord
  | "true" => trueWord
  | "false" => falseWord
  | "if" => ifWord
  | "else" => elseWord
  | "return" => returnWord
  | _ => ident

end TokenKind

/-! ## Tokens -/

/-- A token: its kind, its literal text and the bytes that it covers. -/
structure Token where
  kind : TokenKind
  literal : String
  span : Span
deriving DecidableEq, Inhabited

namespace Token

/-- The token that stands for the end of a text of `size` bytes. -/
def endOfText (size : Nat) : Token := ⟨.eof, "", .point size⟩

/-- The token moved to the right by a number of bytes. -/
def shift (offset : Nat) (t : Token) : Token := { t with span := t.span.shift offset }

end Token

end MonkeyLang
