import MonkeyLang.Text.Utf8
import MonkeyLang.Token

/-!
# Reading tokens from a text

A text is read from left to right.  Blanks separate tokens and are skipped; at any other character
the longest lexeme that starts there becomes one token.  A character that starts no lexeme becomes
a token of kind `illegal` by itself, so every text has a token list.

The main definitions are `Lexeme.first`, which cuts one lexeme off a text, and `Token.scan`, the
token list of a whole text.
-/

namespace MonkeyLang

/-! ## Classes of characters -/

/-- The four characters that separate tokens. -/
def isBlank (c : Char) : Bool := c = ' ' || c = '\t' || c = '\n' || c = '\r'

/-- The characters of words: ASCII letters and the underscore. -/
def isWordChar (c : Char) : Bool := c.isAlpha || c = '_'

/-- The kind of a character that is a token by itself. -/
def TokenKind.ofPunctuation? : Char → Option TokenKind
  | '=' => some .assign
  | '+' => some .plus
  | '-' => some .minus
  | '!' => some .bang
  | '*' => some .asterisk
  | '/' => some .slash
  | '<' => some .lt
  | '>' => some .gt
  | ',' => some .comma
  | ';' => some .semicolon
  | ':' => some .colon
  | '(' => some .lparen
  | ')' => some .rparen
  | '\x7b' => some .lbrace
  | '\x7d' => some .rbrace
  | '[' => some .lbracket
  | ']' => some .rbracket
  | _ => none

/-! ## One lexeme -/

/-- A lexeme cut off a text: its kind and literal, the characters it takes up, and the text that
follows. -/
structure Lexeme where
  kind : TokenKind
  literal : List Char
  slice : List Char
  rest : List Char

namespace Lexeme

/-- A lexeme whose literal is all that it takes up. -/
def verbatim (kind : TokenKind) (slice rest : List Char) : Lexeme := ⟨kind, slice, slice, rest⟩

/-- A word: the letters and underscores up to the first other character. -/
def word (c : Char) (cs : List Char) : Lexeme :=
  let slice := c :: cs.takeWhile isWordChar
  verbatim (.ofWord (.ofList slice)) slice (cs.dropWhile isWordChar)

/-- An integer: the ASCII digits up to the first other character. -/
def digits (c : Char) (cs : List Char) : Lexeme :=
  verbatim .int (c :: cs.takeWhile Char.isDigit) (cs.dropWhile Char.isDigit)

/-- A string, given the text after its opening quote: all up to the next quote, or up to the end
of the text if there is none.  The quotes are no part of the literal, and nothing is an escape. -/
def quoted (cs : List Char) : Lexeme :=
  let body := cs.takeWhile (· ≠ '"')
  match cs.dropWhile (· ≠ '"') with
  | [] => ⟨.string, body, '"' :: body, []⟩
  | close :: rest => ⟨.string, body, '"' :: (body ++ [close]), rest⟩

/-- The lexeme at the start of the text `c :: cs`, where `c` is no blank. -/
def first (c : Char) (cs : List Char) : Lexeme :=
  if isWordChar c then word c cs
  else if c.isDigit then digits c cs
  else if c = '"' then quoted cs
  else
    match c, cs with
    | '=', '=' :: rest => verbatim .eq ['=', '='] rest
    | '!', '=' :: rest => verbatim .notEq ['!', '='] rest
    | _, _ => verbatim ((TokenKind.ofPunctuation? c).getD .illegal) [c] cs

/-- A lexeme and the text after it make up the text it was cut off. -/
theorem slice_append_rest_first (c : Char) (cs : List Char) :
    (first c cs).slice ++ (first c cs).rest = c :: cs := by
  unfold first
  split
  · simp [word, verbatim]
  · split
    · simp [digits, verbatim]
    · split
      · rename_i h
        have hcut := List.takeWhile_append_dropWhile (p := (· ≠ '"')) (l := cs)
        unfold quoted
        split <;> rename_i hrest <;> simp only [hrest] at hcut <;> simpa [h] using hcut
      · split <;> simp [verbatim]

/-- A lexeme takes up at least one character. -/
theorem slice_first_ne_nil (c : Char) (cs : List Char) : (first c cs).slice ≠ [] := by
  unfold first
  split
  · simp [word, verbatim]
  · split
    · simp [digits, verbatim]
    · split
      · unfold quoted
        split <;> simp
      · split <;> simp [verbatim]

/-- What follows a lexeme is shorter than the text it was cut off. -/
theorem length_rest_first_le (c : Char) (cs : List Char) :
    (first c cs).rest.length ≤ cs.length := by
  have happend := congrArg List.length (slice_append_rest_first c cs)
  have hpos := List.length_pos_iff.2 (slice_first_ne_nil c cs)
  simp only [List.length_append, List.length_cons] at happend
  omega

/-- The token of a lexeme that starts at a byte offset. -/
def toToken (offset : Nat) (l : Lexeme) : Token :=
  ⟨l.kind, .ofList l.literal, ⟨offset, offset + Text.byteLength l.slice⟩⟩

end Lexeme

/-! ## The token list of a text -/

namespace Token

/-- The tokens of a text that starts at a byte offset. -/
def scanFrom (offset : Nat) : List Char → List Token
  | [] => []
  | c :: cs =>
    if isBlank c then scanFrom (offset + c.utf8Size) cs
    else
      let l := Lexeme.first c cs
      l.toToken offset :: scanFrom (offset + Text.byteLength l.slice) l.rest
termination_by cs => cs.length
decreasing_by
  · simp
  · have := Lexeme.length_rest_first_le c cs
    simp only [List.length_cons]
    omega

/-- A text that starts further to the right has the same tokens further to the right. -/
theorem scanFrom_add (distance offset : Nat) (cs : List Char) :
    scanFrom (offset + distance) cs = (scanFrom offset cs).map (shift distance) := by
  induction offset, cs using scanFrom.induct with
  | case1 => simp [scanFrom]
  | case2 offset c cs hblank ih =>
    rw [scanFrom, scanFrom, if_pos hblank, if_pos hblank, ← ih, Nat.add_right_comm]
  | case3 offset c cs hblank l ih =>
    rw [scanFrom, scanFrom, if_neg hblank, if_neg hblank, List.map_cons, ← ih, Nat.add_right_comm]
    simp [l, Lexeme.toToken, shift, Span.shift, Nat.add_right_comm]

/-- The tokens of a text, without the one that stands for its end. -/
def scan (source : String) : List Token := scanFrom 0 source.toList

end Token

end MonkeyLang
