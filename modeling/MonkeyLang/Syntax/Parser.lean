import MonkeyLang.Syntax.ParseError

/-!
# Parsers over token streams

A parser takes tokens from the front of a stream.  It ends in one of three ways: with a value;
with a rejection, which has one error and names where reading goes on; or with its depth bound used
up, which is neither.  Statements inside blocks that were left out on the way are counted, and
their errors kept.

The stream never ends: behind the last token the current token is the end of the text for ever.
-/

namespace MonkeyLang

/-! ## Token streams -/

/-- The tokens that are still to be read, and the size in bytes of the whole text. -/
structure TokenStream where
  tokens : List Token
  size : Nat

namespace TokenStream

/-- The token at the front. -/
def current (s : TokenStream) : Token := s.tokens.headD (.endOfText s.size)

/-- The stream without the token at the front. -/
def next (s : TokenStream) : TokenStream := { s with tokens := s.tokens.tail }

end TokenStream

/-! ## Replies -/

/-- What went wrong inside something that was read: the errors in the order they were found, and
the number of statements that were left out. -/
structure Findings where
  errors : List ParseError
  dropped : Nat
deriving DecidableEq

namespace Findings

/-- Nothing went wrong. -/
def nothing : Findings := ⟨[], 0⟩

/-- What went wrong in one thing and then in another. -/
def append (a b : Findings) : Findings := ⟨a.errors ++ b.errors, a.dropped + b.dropped⟩

instance : Append Findings := ⟨append⟩

/-- The findings after a statement was left out because of an error. -/
def drop (found : Findings) (error : ParseError) : Findings :=
  ⟨found.errors ++ [error], found.dropped + 1⟩

theorem append_def (a b : Findings) :
    a ++ b = ⟨a.errors ++ b.errors, a.dropped + b.dropped⟩ := rfl

@[simp] theorem nothing_append (a : Findings) : nothing ++ a = a := by
  simp [append_def, nothing]

@[simp] theorem append_nothing (a : Findings) : a ++ nothing = a := by
  simp [append_def, nothing]

theorem append_assoc (a b c : Findings) : a ++ b ++ c = a ++ (b ++ c) := by
  simp [append_def, Nat.add_assoc]

end Findings

/-- What a parser answers. -/
inductive Reply (α : Type) where
  /-- The value that was read, the stream behind it, and what went wrong inside it. -/
  | parsed (value : α) (rest : TokenStream) (found : Findings)
  /-- No value: the stream where reading goes on, what went wrong before, and the reason. -/
  | rejected (rest : TokenStream) (found : Findings) (error : ParseError)
  /-- The depth bound was reached. -/
  | exhausted

namespace Reply

variable {α β : Type}

/-- The reply with findings from before it. -/
def after (found : Findings) : Reply α → Reply α
  | .parsed a rest more => .parsed a rest (found ++ more)
  | .rejected rest more error => .rejected rest (found ++ more) error
  | .exhausted => .exhausted

@[simp] theorem after_nothing (o : Reply α) : o.after .nothing = o := by
  cases o <;> simp [after]

/-- The reply of a parser that goes on behind the value of another. -/
def andThen (r : Reply α) (f : α → TokenStream → Reply β) : Reply β :=
  match r with
  | .parsed a rest found => (f a rest).after found
  | .rejected rest found error => .rejected rest found error
  | .exhausted => .exhausted

end Reply

/-! ## Parsers -/

/-- A parser for values of a type. -/
abbrev Parser (α : Type) := TokenStream → Reply α

namespace Parser

variable {α β : Type}

instance : Monad Parser where
  pure a := fun s => .parsed a s .nothing
  bind p f := fun s => (p s).andThen f

theorem pure_apply (a : α) (s : TokenStream) : (pure a : Parser α) s = .parsed a s .nothing := rfl

theorem bind_apply (p : Parser α) (f : α → Parser β) (s : TokenStream) :
    (p >>= f) s = (p s).andThen f := rfl

/-- The parser whose depth bound is used up. -/
def exhausted : Parser α := fun _ => .exhausted

/-- Looks at the current token. -/
def peek : Parser Token := fun s => .parsed s.current s .nothing

/-- Takes the current token. -/
def take : Parser Token := fun s => .parsed s.current s.next .nothing

/-- Rejects at the current token; reading goes on with that token. -/
def reject (fault : ParseFault) : Parser α := fun s =>
  .rejected s .nothing ⟨fault, s.current.span⟩

/-- Rejects at the current token; reading goes on behind that token. -/
def rejectPast (fault : ParseFault) : Parser α := fun s =>
  .rejected s.next .nothing ⟨fault, s.current.span⟩

/-- Takes a token of the given kind and rejects any other. -/
def expect (kind : TokenKind) : Parser Token := do
  let t ← peek
  if t.kind = kind then take else reject (.unexpectedToken kind t.kind)

/-- Takes a token of the given kind if it comes next. -/
def skip (kind : TokenKind) : Parser Unit := do
  if (← peek).kind = kind then
    let _ ← take

/-- Reads a statement; one that is rejected is left out, and reading goes on behind it. -/
def attempt (p : Parser α) : Parser (Option α) := fun s =>
  match p s with
  | .parsed a rest found => .parsed (some a) rest found
  | .rejected rest found error => .parsed none rest (found.drop error)
  | .exhausted => .exhausted

section

variable {s : TokenStream}

@[simp] theorem peek_bind_apply (f : Token → Parser β) (s : TokenStream) :
    (peek >>= f) s = f s.current s := by
  rw [bind_apply, peek, Reply.andThen, Reply.after_nothing]

@[simp] theorem take_bind_apply (f : Token → Parser β) (s : TokenStream) :
    (take >>= f) s = f s.current s.next := by
  rw [bind_apply, take, Reply.andThen, Reply.after_nothing]

theorem expect_bind_of_eq {f : Token → Parser β} {k : TokenKind} (h : s.current.kind = k) :
    (expect k >>= f) s = f s.current s.next := by
  have hexpect : expect k s = .parsed s.current s.next .nothing := by
    rw [expect, peek_bind_apply, if_pos h, take]
  rw [bind_apply, hexpect, Reply.andThen, Reply.after_nothing]

theorem expect_bind_of_ne {f : Token → Parser β} {k : TokenKind} (h : s.current.kind ≠ k) :
    (expect k >>= f) s =
      .rejected s .nothing ⟨.unexpectedToken k s.current.kind, s.current.span⟩ := by
  have hexpect : expect k s =
      .rejected s .nothing ⟨.unexpectedToken k s.current.kind, s.current.span⟩ := by
    rw [expect, peek_bind_apply, if_neg h, reject]
  rw [bind_apply, hexpect, Reply.andThen]

end

end Parser

end MonkeyLang
