import MonkeyLang.Proofs.Syntax.Termination

/-!
# Accounts of errors

What a parser reports can be checked against the tokens that it passed.  A `Trail` leads from one
stream to a later one and meets errors on the way, each at a token that it stands at.  A parser
`Accounts` for what it found if there is such a trail, if it left out one statement for every error,
and if the statements that were left out and the tokens that are left are not too many.

Every parser accounts for what it found, also where it runs out of tokens or of its bound.  The one
error that a rejection carries in addition is counted where the statement is left out
(`Accounts.attempt`), and the token that the statement then has passed pays for it.
-/

namespace MonkeyLang

/-! ## Errors on the way -/

/-- The kind or the literal that a fault names is that of a token. -/
def ParseFault.Names (t : Token) : ParseFault → Prop
  | .unexpectedToken _ found | .noOperand found => found = t.kind
  | .invalidInteger literal => literal = t.literal

/-- The error is at a token, and names what was found there. -/
structure ParseError.At (t : Token) (e : ParseError) : Prop where
  span : e.span = t.span
  names : e.fault.Names t

/-- Errors that are met on the way from one stream to another. -/
inductive Trail : TokenStream → List ParseError → TokenStream → Prop where
  | nil {s : TokenStream} : Trail s [] s
  | next {s r : TokenStream} {es : List ParseError} (rest : Trail s.next es r) : Trail s es r
  | error {s r : TokenStream} {e : ParseError} {es : List ParseError} (first : e.At s.current)
      (rest : Trail s es r) : Trail s (e :: es) r

namespace Trail

variable {s m r : TokenStream} {es es' : List ParseError}

lemma append (h : Trail s es m) (h' : Trail m es' r) : Trail s (es ++ es') r := by
  induction h with
  | nil => exact h'
  | next rest ih => exact .next (ih h')
  | error first rest ih => exact .error first (ih h')

lemma singleton {e : ParseError} (h : e.At s.current) : Trail s [e] s := .error h .nil

lemma suffix (h : Trail s es r) : r.tokens <:+ s.tokens ∧ r.size = s.size := by
  induction h with
  | nil => exact ⟨List.suffix_rfl, rfl⟩
  | next rest ih => exact ⟨ih.1.trans (List.tail_suffix _), ih.2⟩
  | error first rest ih => exact ih

end Trail

namespace Parser

open TokenStream

variable {α β : Type} {s : TokenStream} {n m : Nat}

/-- What a parser found was met on the way, with one error for every statement that was left out.
These and the tokens that are left are at most a number. -/
def Accounts (p : Parser α) (s : TokenStream) (n : Nat) : Prop :=
  match p s with
  | .parsed _ r found => Trail s found.errors r ∧ found.dropped = found.errors.length ∧
      found.dropped + r.tokens.length ≤ n
  | .rejected r found error => Trail s (found.errors ++ [error]) r ∧
      found.dropped = found.errors.length ∧ found.dropped + r.tokens.length ≤ n
  | .exhausted => True

/-! ## Combinators -/

lemma Accounts.mono {p : Parser α} (h : Accounts p s n) (hle : n ≤ m) : Accounts p s m := by
  unfold Accounts at h ⊢
  cases hp : p s with
  | parsed | rejected =>
    rw [hp] at h
    exact ⟨h.1, h.2.1, Nat.le_trans h.2.2 hle⟩
  | exhausted => exact trivial

lemma accounts_exhausted : Accounts (exhausted : Parser α) s n := trivial

lemma accounts_pure {a : α} (h : s.tokens.length ≤ n) : Accounts (pure a) s n :=
  ⟨.nil, rfl, by simpa [Findings.nothing] using h⟩

lemma accounts_reject {fault : ParseFault} (hfault : fault.Names s.current)
    (h : s.tokens.length ≤ n) : Accounts (reject fault : Parser α) s n :=
  ⟨.singleton ⟨rfl, hfault⟩, rfl, by simpa [Findings.nothing] using h⟩

lemma accounts_rejectPast {fault : ParseFault} (hfault : fault.Names s.current)
    (h : s.next.tokens.length ≤ n) : Accounts (rejectPast fault : Parser α) s n :=
  ⟨.error ⟨rfl, hfault⟩ (.next .nil), rfl, by simpa [Findings.nothing] using h⟩

/-- A sequence accounts for what it found if its first part does, and if its second part does
behind whatever the first leaves. -/
lemma Accounts.bind {p : Parser α} {f : α → Parser β} (hp : Accounts p s n)
    (hf : ∀ a r, Accounts (f a) r r.tokens.length) : Accounts (p >>= f) s n := by
  unfold Accounts at hp ⊢
  rw [bind_apply]
  cases hps : p s with
  | parsed a r found =>
    rw [hps] at hp
    obtain ⟨htrail, hdropped, hcount⟩ := hp
    have hrest := hf a r
    unfold Accounts at hrest
    rw [Reply.andThen]
    cases hfa : f a r with
    | parsed b r' more | rejected r' more error =>
      rw [hfa] at hrest
      obtain ⟨htrail', hdropped', hcount'⟩ := hrest
      refine ⟨?_, ?_, ?_⟩
      · simpa [Findings.append_def] using htrail.append htrail'
      · simp [Findings.append_def, hdropped, hdropped']
      · simp only [Findings.append_def]
        omega
    | exhausted => exact trivial
  | rejected r found error =>
    rw [hps] at hp
    exact hp
  | exhausted => exact trivial

lemma accounts_peek_bind {f : Token → Parser β} (h : Accounts (f s.current) s n) :
    Accounts (peek >>= f) s n := by
  rwa [Accounts, peek_bind_apply]

/-- Behind a token that is taken the way goes on. -/
lemma accounts_take_bind {f : Token → Parser β} (h : Accounts (f s.current) s.next n) :
    Accounts (take >>= f) s n := by
  unfold Accounts at h ⊢
  rw [take_bind_apply]
  cases hf : f s.current s.next with
  | parsed | rejected =>
    rw [hf] at h
    exact ⟨.next h.1, h.2⟩
  | exhausted => exact trivial

lemma accounts_expect_bind {k : TokenKind} {f : Token → Parser β} (hle : s.tokens.length ≤ n)
    (hf : s.current.kind = k → Accounts (f s.current) s.next n) :
    Accounts (expect k >>= f) s n := by
  by_cases h : s.current.kind = k
  · have htaken := accounts_take_bind (hf h)
    unfold Accounts at htaken ⊢
    rwa [expect_bind_of_eq h, ← take_bind_apply f s]
  · rw [Accounts, expect_bind_of_ne h]
    have hfault : (ParseFault.unexpectedToken k s.current.kind).Names s.current := rfl
    exact accounts_reject (α := β) hfault hle

/-- A statement that is left out brings its own error. -/
theorem Accounts.attempt {p : Parser α} (h : Accounts p s n) : Accounts (attempt p) s (n + 1) := by
  unfold Accounts at h ⊢
  unfold Parser.attempt
  cases hp : p s with
  | parsed a r found =>
    rw [hp] at h
    exact ⟨h.1, h.2.1, Nat.le_succ_of_le h.2.2⟩
  | rejected r found error =>
    rw [hp] at h
    obtain ⟨htrail, hdropped, hcount⟩ := h
    refine ⟨htrail, ?_, ?_⟩
    · simp [Findings.drop, hdropped]
    · simp only [Findings.drop]
      omega
  | exhausted => exact trivial

/-- The parser accounts for what it found, whatever it is used on. -/
def AccountsAll (p : Parser α) : Prop := ∀ s, Accounts p s s.tokens.length

lemma accountsAll_pure {a : α} : AccountsAll (pure a) := fun _ => accounts_pure (Nat.le_refl _)

lemma AccountsAll.bind {p : Parser α} {f : α → Parser β} (hp : AccountsAll p)
    (hf : ∀ a, AccountsAll (f a)) : AccountsAll (p >>= f) := fun s => (hp s).bind hf

lemma AccountsAll.peek_bind {f : Token → Parser β} (hf : ∀ t, AccountsAll (f t)) :
    AccountsAll (peek >>= f) := fun s => accounts_peek_bind (hf s.current s)

/-- With a token taken there is one token less to account for. -/
lemma AccountsAll.take_bind_lt {f : Token → Parser β} (hf : ∀ t, AccountsAll (f t)) :
    Accounts (take >>= f) s (s.tokens.length - 1) := by
  rw [← length_next]
  exact accounts_take_bind (hf s.current s.next)

lemma AccountsAll.take_bind {f : Token → Parser β} (hf : ∀ t, AccountsAll (f t)) :
    AccountsAll (take >>= f) := fun _ => (AccountsAll.take_bind_lt hf).mono (Nat.sub_le _ _)

lemma AccountsAll.expect_bind {k : TokenKind} {f : Token → Parser β}
    (hf : ∀ t, AccountsAll (f t)) : AccountsAll (expect k >>= f) := fun s =>
  accounts_expect_bind (Nat.le_refl _) fun _ => (hf s.current s.next).mono (by simp)

lemma accountsAll_skip {k : TokenKind} : AccountsAll (skip k) := by
  refine AccountsAll.peek_bind fun t => ?_
  by_cases h : t.kind = k
  · rw [if_pos h]
    exact AccountsAll.take_bind fun _ => accountsAll_pure
  · rw [if_neg h]
    exact accountsAll_pure

/-! ## Lists -/

section

variable {item : Parser α}

lemma accountsAll_itemsUpTo (h : AccountsAll item) (close : TokenKind) (n : Nat) :
    AccountsAll (itemsUpTo item close n) := by
  induction n with
  | zero => exact fun _ => accounts_exhausted
  | succ n ih =>
    rw [itemsUpTo]
    refine h.bind fun x => AccountsAll.peek_bind fun t => ?_
    by_cases hcomma : t.kind = .comma
    · rw [if_pos hcomma]
      exact AccountsAll.take_bind fun _ => ih.bind fun _ => accountsAll_pure
    · rw [if_neg hcomma]
      exact AccountsAll.expect_bind fun _ => accountsAll_pure

lemma accountsAll_delimited (h : AccountsAll item) (close : TokenKind) (n : Nat) :
    AccountsAll (delimited item close n) := by
  refine AccountsAll.peek_bind fun t => ?_
  by_cases hclose : t.kind = close
  · rw [if_pos hclose]
    exact AccountsAll.take_bind fun _ => accountsAll_pure
  · rw [if_neg hclose]
    exact accountsAll_itemsUpTo h close n

lemma accountsAll_pairsUpTo {p : Parser Expr} (h : AccountsAll p) (n : Nat) :
    AccountsAll (pairsUpTo p n) := by
  induction n with
  | zero => exact fun _ => accounts_exhausted
  | succ n ih =>
    rw [pairsUpTo]
    refine AccountsAll.peek_bind fun t => ?_
    by_cases hclose : t.kind = .rbrace
    · rw [if_pos hclose]
      exact AccountsAll.take_bind fun _ => accountsAll_pure
    · rw [if_neg hclose]
      refine h.bind fun key => AccountsAll.expect_bind fun _ => h.bind fun value => ?_
      have hrest : AccountsAll (do return (key, value) :: (← pairsUpTo p n)) :=
        ih.bind fun _ => accountsAll_pure
      refine AccountsAll.peek_bind fun u => ?_
      by_cases hlast : u.kind = .rbrace
      · simpa only [hlast, ne_eq, not_true_eq_false, if_false] using hrest
      · simp only [ne_eq, hlast, not_false_eq_true, if_true]
        exact AccountsAll.expect_bind fun _ => hrest

/-- A loop of statements: the token that a statement has passed pays for its own error. -/
lemma accountsAll_statementsUpTo {p : Parser Stmt} {closes : TokenKind → Bool}
    (h : ∀ s, Accounts p s (s.tokens.length - 1)) (n : Nat) :
    AccountsAll (statementsUpTo p closes n) := by
  induction n with
  | zero => exact fun _ => accounts_exhausted
  | succ n ih =>
    intro s
    rw [statementsUpTo]
    refine accounts_peek_bind ?_
    by_cases hend : s.current.kind = .eof || closes s.current.kind
    · rw [if_pos hend]
      exact accountsAll_pure s
    · rw [if_neg hend]
      have hpos : 0 < s.tokens.length :=
        length_pos_of_kind fun heof => hend (by simp [heof])
      exact ((h s).attempt.mono (by omega)).bind fun _ => ih.bind fun _ => accountsAll_pure

end

/-! ## Statements, blocks and expressions -/

section

variable {p : Precedence → Parser Expr}

/-- A parser of expressions accounts for what it found, and has passed a token. -/
def AccountsExpr (p : Precedence → Parser Expr) : Prop :=
  ∀ floor s, Accounts (p floor) s (s.tokens.length - 1)

lemma AccountsExpr.all (h : AccountsExpr p) (floor : Precedence) : AccountsAll (p floor) :=
  fun s => (h floor s).mono (Nat.sub_le _ _)

variable (h : AccountsExpr p)

include h

lemma accounts_statement (s : TokenStream) :
    Accounts (statement p) s (s.tokens.length - 1) := by
  rw [statement]
  refine accounts_peek_bind ?_
  split
  · refine AccountsAll.take_bind_lt fun _ => AccountsAll.expect_bind fun name => ?_
    refine AccountsAll.expect_bind fun _ => (h.all .lowest).bind fun value => ?_
    exact accountsAll_skip.bind fun _ => accountsAll_pure
  · refine AccountsAll.take_bind_lt fun _ => (h.all .lowest).bind fun value => ?_
    exact accountsAll_skip.bind fun _ => accountsAll_pure
  · refine (h .lowest s).bind fun value => ?_
    exact accountsAll_skip.bind fun _ => accountsAll_pure

lemma accountsAll_bracedBlock (n : Nat) : AccountsAll (bracedBlock p n) := by
  intro s
  rw [bracedBlock]
  refine accounts_peek_bind ?_
  by_cases hbrace : s.current.kind = .lbrace
  · rw [if_pos hbrace]
    refine AccountsAll.take_bind (fun t => ?_) s
    refine (accountsAll_statementsUpTo (accounts_statement h) n).bind fun statements => ?_
    exact AccountsAll.take_bind fun _ => accountsAll_pure
  · rw [if_neg hbrace]
    exact accounts_peek_bind (accounts_reject rfl (Nat.le_refl _))

lemma accountsAll_alternative (n : Nat) : AccountsAll (alternative p n) := by
  refine AccountsAll.peek_bind fun t => ?_
  by_cases helse : t.kind = .elseWord
  · rw [if_pos helse]
    refine AccountsAll.take_bind fun _ => ?_
    exact (accountsAll_bracedBlock h n).bind fun _ => accountsAll_pure
  · rw [if_neg helse]
    exact accountsAll_pure

omit h in
lemma accountsAll_parameter : AccountsAll parameter := by
  intro s
  rw [parameter]
  refine accounts_peek_bind ?_
  by_cases hident : s.current.kind = .ident
  · rw [if_pos hident]
    exact AccountsAll.take_bind (fun _ => accountsAll_pure) s
  · rw [if_neg hident]
    exact accounts_rejectPast rfl (by simp)

lemma accounts_operand (n : Nat) (s : TokenStream) :
    Accounts (operand p n) s (s.tokens.length - 1) := by
  have hpassed : s.next.tokens.length ≤ s.tokens.length - 1 := Nat.le_of_eq (length_next s)
  rw [operand]
  refine accounts_peek_bind ?_
  cases hkind : s.current.kind with
  | ident | string | trueWord | falseWord =>
    exact AccountsAll.take_bind_lt fun _ => accountsAll_pure
  | int =>
    dsimp only
    cases integerOfLiteral? s.current.literal with
    | some n => exact AccountsAll.take_bind_lt fun _ => accountsAll_pure
    | none => exact accounts_rejectPast rfl hpassed
  | bang | minus =>
    exact AccountsAll.take_bind_lt fun _ => (h.all .unary).bind fun _ => accountsAll_pure
  | lparen =>
    refine AccountsAll.take_bind_lt fun _ => (h.all .lowest).bind fun e => ?_
    exact AccountsAll.expect_bind fun _ => accountsAll_pure
  | ifWord =>
    refine AccountsAll.take_bind_lt fun _ => AccountsAll.expect_bind fun _ => ?_
    refine (h.all .lowest).bind fun condition => AccountsAll.expect_bind fun _ => ?_
    refine (accountsAll_bracedBlock h n).bind fun consequence => ?_
    exact (accountsAll_alternative h n).bind fun _ => accountsAll_pure
  | function =>
    refine AccountsAll.take_bind_lt fun _ => AccountsAll.expect_bind fun _ => ?_
    refine (accountsAll_delimited accountsAll_parameter .rparen n).bind fun parameters => ?_
    exact (accountsAll_bracedBlock h n).bind fun _ => accountsAll_pure
  | lbracket =>
    refine AccountsAll.take_bind_lt fun _ => ?_
    exact (accountsAll_delimited (h.all .lowest) .rbracket n).bind fun _ => accountsAll_pure
  | lbrace =>
    refine AccountsAll.take_bind_lt fun _ => ?_
    exact (accountsAll_pairsUpTo (h.all .lowest) n).bind fun _ => accountsAll_pure
  | _ => exact accounts_rejectPast hkind.symm hpassed

lemma accountsAll_continued (n : Nat) (left : Expr) (c : Continuation) :
    AccountsAll (continued p n left c) := by
  cases c with
  | call =>
    refine AccountsAll.take_bind fun _ => ?_
    exact (accountsAll_delimited (h.all .lowest) .rparen n).bind fun _ => accountsAll_pure
  | index =>
    refine AccountsAll.take_bind fun _ => (h.all .lowest).bind fun position => ?_
    exact AccountsAll.expect_bind fun _ => accountsAll_pure
  | binary op =>
    exact AccountsAll.take_bind fun _ => (h.all op.precedence).bind fun _ => accountsAll_pure

lemma accountsAll_climb (floor : Precedence) (n : Nat) (left : Expr) :
    AccountsAll (climb p floor n left) := by
  induction n generalizing left with
  | zero => exact fun _ => accounts_exhausted
  | succ n ih =>
    rw [climb]
    refine AccountsAll.peek_bind fun t => ?_
    cases Continuation.ofKind? t.kind with
    | none => exact accountsAll_pure
    | some c =>
      dsimp only
      by_cases hfloor : floor < c.precedence
      · rw [if_pos hfloor]
        exact (accountsAll_continued h n left c).bind ih
      · rw [if_neg hfloor]
        exact accountsAll_pure

end

lemma accountsExpr_expression (n : Nat) : AccountsExpr (expression n) := by
  induction n with
  | zero => exact fun _ _ => accounts_exhausted
  | succ n ih =>
    intro floor s
    rw [expression]
    exact (accounts_operand ih n s).bind (accountsAll_climb ih floor n)

lemma accountsAll_statements (n : Nat) : AccountsAll (statements n) :=
  accountsAll_statementsUpTo (accounts_statement (accountsExpr_expression n)) n

end Parser

end MonkeyLang
