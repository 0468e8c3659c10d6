import Mathlib.Tactic.Lemma
import MonkeyLang.Proofs.Syntax.Grammar

/-!
# The grammar is unambiguous

No two derivations of a nonterminal begin at the same token and end where the nonterminal stops,
unless they are the same derivation.  Where a nonterminal stops depends on the next token only:
`Nonterminal.Stops` excludes the tokens that could carry a derivation further.
-/

namespace MonkeyLang

namespace Grammar

/-! ## The next token -/

/-- The kind of the first token, or the end of the text. -/
def firstKind : List Token → TokenKind
  | [] => .eof
  | t :: _ => t.kind

@[simp] lemma firstKind_nil : firstKind [] = .eof := rfl

@[simp] lemma firstKind_cons (t : Token) (ts : List Token) : firstKind (t :: ts) = t.kind := rfl

/-- The strength of the operators of a tier. -/
def Tier.strength : Tier → Precedence
  | equality => .equality
  | comparison => .comparison
  | sum => .sum
  | product => .product

/-- The strength of the weakest continuations that stand outside of brackets in an expression of a
level. -/
def Level.strength : Level → Precedence
  | binary tier => tier.strength
  | unary | suffixed => .call

lemma Tier.strength_lt_operand (tier : Tier) : tier.strength < tier.operand.strength := by
  cases tier <;> decide

/-- A sign of a tier binds as strongly as the tier. -/
lemma Tier.ofKind_of_mem {tier : Tier} {k : TokenKind} {op : BinaryOp}
    (sign : BinaryOp.ofKind? k = some op) (member : op ∈ tier.operators) :
    Precedence.ofKind k = tier.strength ∧ k ≠ .elseWord := by
  cases k <;> simp [BinaryOp.ofKind?] at sign <;> subst sign <;> revert member <;>
    cases tier <;> decide

/-- Whether a derivation of a nonterminal can end before a token of a kind, because the token
carries it no further. -/
def Nonterminal.Stops : Nonterminal → TokenKind → Prop
  | statements, k => k = .eof ∨ k = .rbrace
  | statement, k => Precedence.ofKind k = .lowest ∧ k ≠ .elseWord
  | expr level, k => Precedence.ofKind k < level.strength ∧ k ≠ .elseWord
  | chain tier, k => Precedence.ofKind k < tier.strength ∧ k ≠ .elseWord
  | suffixes, k => Precedence.ofKind k < .call
  | primary, k | alternative, k => k ≠ .elseWord
  | _, _ => True

/-- A statement stops at its semicolon. -/
lemma stops_semicolon {t : Token} (h : t.kind = .semicolon) :
    Nonterminal.statement.Stops t.kind := by
  rw [h]
  exact ⟨rfl, by decide⟩

/-- The value of a statement stops where the statement does. -/
lemma stops_of_statement {k : TokenKind} (h : Nonterminal.statement.Stops k) :
    Nonterminal.expression.Stops k := by
  refine ⟨?_, h.2⟩
  rw [h.1]
  decide

/-- An expression stops at a token that closes a bracket or separates items. -/
lemma stops_closing {t : Token} {k : TokenKind} (h : t.kind = k)
    (hk : k ∈ [.rparen, .rbracket, .rbrace, .comma, .colon]) :
    Nonterminal.expression.Stops t.kind := by
  rw [h]
  revert hk
  cases k <;> simp [Nonterminal.Stops] <;> decide

lemma Bracket.close_mem (bracket : Bracket) :
    bracket.close ∈ [.rparen, .rbracket, .rbrace, .letWord, .returnWord] := by
  cases bracket <;> simp [close]

lemma Bracket.close_ne_comma (bracket : Bracket) : bracket.close ≠ .comma := by
  cases bracket <;> simp [close]

/-- The kinds of token that begin a primary expression. -/
def primaryStarts : List TokenKind :=
  [.ident, .int, .string, .trueWord, .falseWord, .lparen, .ifWord, .function, .lbracket, .lbrace]

/-- The kinds of token that a derivation can begin with. -/
def Nonterminal.Starts : Nonterminal → TokenKind → Prop
  | primary, k | expr .suffixed, k => k ∈ primaryStarts
  | expr _, k => k ∈ primaryStarts ∨ k = .bang ∨ k = .minus
  | statement, k => k ∈ primaryStarts ∨ k = .bang ∨ k = .minus ∨ k = .letWord ∨ k = .returnWord
  | _, _ => True

namespace Derivation

variable {A : Nonterminal} {tier : Tier} {s m r : List Token}

/-- A derivation begins with one of the tokens that its nonterminal can begin with. -/
lemma starts (d : Derivation A s r) : A.Starts (firstKind s) := by
  induction d with
  | letStatement word => simp [Nonterminal.Starts, word]
  | returnStatement word => simp [Nonterminal.Starts, word]
  | exprStatement value ih =>
    rcases ih with h | h | h
    · exact .inl h
    · exact .inr (.inl h)
    · exact .inr (.inr (.inl h))
  | @binary tier _ _ _ first others ih =>
    cases tier <;> exact ih
  | unary op sign operand ih =>
    rename_i t _ _
    refine .inr ?_
    revert sign
    rw [firstKind_cons]
    cases t.kind <;> simp [UnaryOp.ofKind?]
  | noUnary operand ih => exact .inl ih
  | suffixed base others ih => exact ih
  | ident word => simp [Nonterminal.Starts, primaryStarts, word]
  | int digits => simp [Nonterminal.Starts, primaryStarts, digits]
  | string quoted => simp [Nonterminal.Starts, primaryStarts, quoted]
  | trueWord word => simp [Nonterminal.Starts, primaryStarts, word]
  | falseWord word => simp [Nonterminal.Starts, primaryStarts, word]
  | grouped lparen => simp [Nonterminal.Starts, primaryStarts, lparen]
  | conditional word => simp [Nonterminal.Starts, primaryStarts, word]
  | function word => simp [Nonterminal.Starts, primaryStarts, word]
  | array lbracket => simp [Nonterminal.Starts, primaryStarts, lbracket]
  | hash brace => simp [Nonterminal.Starts, primaryStarts, brace]
  | _ => trivial

/-! ## Where the parts of a derivation stop -/

/-- What stands behind the first operand of a tier is no part of the operand. -/
lemma stops_operand (d : Derivation (.chain tier) m r)
    (h : (Nonterminal.chain tier).Stops (firstKind r)) :
    (Nonterminal.expr tier.operand).Stops (firstKind m) := by
  cases d with
  | chainEnd => exact ⟨Nat.lt_trans h.1 tier.strength_lt_operand, h.2⟩
  | chainStep op sign member =>
    obtain ⟨hstrength, helse⟩ := Tier.ofKind_of_mem sign member
    refine ⟨?_, helse⟩
    rw [firstKind_cons, hstrength]
    exact tier.strength_lt_operand

/-- What stands behind a primary expression is no part of it. -/
lemma stops_primary (d : Derivation .suffixes m r)
    (h : (Nonterminal.expr .suffixed).Stops (firstKind r)) :
    Nonterminal.primary.Stops (firstKind m) := by
  cases d with
  | suffixEnd => exact h.2
  | call lparen => simp [Nonterminal.Stops, lparen]
  | index lbracket => simp [Nonterminal.Stops, lbracket]

/-- What stands behind a statement without a semicolon is no part of it, and no semicolon. -/
lemma stops_statement (d : Derivation .statements m r)
    (h : Nonterminal.statements.Stops (firstKind r)) (separate : ¬ attaches m) :
    Nonterminal.statement.Stops (firstKind m) ∧ firstKind m ≠ .semicolon := by
  have of_starts : ∀ {n : List Token}, Derivation .statement m n →
      Nonterminal.statement.Stops (firstKind m) ∧ firstKind m ≠ .semicolon := by
    intro n first
    have hstart := first.starts
    cases m with
    | nil => simp [Nonterminal.Starts, primaryStarts] at hstart
    | cons t ts =>
      simp only [attaches, firstKind_cons] at separate hstart ⊢
      revert separate hstart
      cases t.kind <;> simp [Nonterminal.Starts, Nonterminal.Stops, primaryStarts] <;> decide
  cases d with
  | noStatement => rcases h with h | h <;> rw [h] <;> exact ⟨⟨rfl, by decide⟩, by decide⟩
  | closedStatement first => exact of_starts first
  | openStatement first => exact of_starts first

/-- An expression begins with no closing token. -/
lemma firstKind_expression_ne (d : Derivation .expression s r) {k : TokenKind}
    (h : k ∈ [.rparen, .rbracket, .rbrace, .letWord, .returnWord]) : firstKind s ≠ k := by
  have hstart := d.starts
  rintro rfl
  revert hstart h
  cases firstKind s <;> simp [Nonterminal.Starts, primaryStarts]

/-- No statement begins where statements stop. -/
lemma not_statement_of_stops (d : Derivation .statement s r)
    (h : Nonterminal.statements.Stops (firstKind s)) : False := by
  have hstart := d.starts
  rcases h with h | h <;> rw [h] at hstart <;>
    simp [Nonterminal.Starts, primaryStarts] at hstart

/-- An operator before its operand begins no suffixed expression. -/
lemma not_unary (d : Derivation (.expr .suffixed) s r) {op : UnaryOp}
    (sign : UnaryOp.ofKind? (firstKind s) = some op) : False := by
  have hstart := d.starts
  revert hstart sign
  cases firstKind s <;> simp [Nonterminal.Starts, primaryStarts, UnaryOp.ofKind?]

/-- What stands behind an item of a list is no part of it. -/
lemma stops_argument {bracket : Bracket} (d : Derivation (.moreArguments bracket) m r) :
    Nonterminal.expression.Stops (firstKind m) := by
  cases d with
  | argumentsEnd closing => exact stops_closing closing (by cases bracket <;> simp [Bracket.close])
  | nextArgument comma => exact stops_closing comma (by simp)

/-- What stands behind a pair of a hash is no part of it. -/
lemma stops_pair (d : Derivation .morePairs m r) :
    Nonterminal.expression.Stops (firstKind m) := by
  cases d with
  | pairsEnd closing => exact stops_closing closing (by simp)
  | pairsEndComma sign => exact stops_closing sign (by simp)
  | nextPair sign => exact stops_closing sign (by simp)

/-! ## Unambiguity -/

/-- Two derivations of one nonterminal from the same tokens are the same, if both end where the
nonterminal stops. -/
theorem unique (d : Derivation A s r) (h : A.Stops (firstKind r)) :
    ∀ {r' : List Token} (d' : Derivation A s r'), A.Stops (firstKind r') → r = r' ∧ HEq d d' := by
  induction d with
  | noStatement =>
    intro r' d' h'
    cases d' with
    | noStatement => exact ⟨rfl, HEq.rfl⟩
    | closedStatement first => exact (first.not_statement_of_stops h).elim
    | openStatement first => exact (first.not_statement_of_stops h).elim
  | closedStatement first semicolon others ihfirst ihothers =>
    intro r' d' h'
    cases d' with
    | noStatement => exact (first.not_statement_of_stops h').elim
    | closedStatement first' semicolon' others' =>
      obtain ⟨hm, hfirst⟩ := ihfirst (stops_semicolon semicolon) first' (stops_semicolon semicolon')
      cases hm
      cases hfirst
      obtain ⟨rfl, hothers⟩ := ihothers h others' h'
      cases hothers
      exact ⟨rfl, HEq.rfl⟩
    | openStatement first' separate' others' =>
      obtain ⟨hstop, hne⟩ := others'.stops_statement h' separate'
      obtain ⟨rfl, -⟩ := ihfirst (stops_semicolon semicolon) first' hstop
      exact (hne semicolon).elim
  | openStatement first separate others ihfirst ihothers =>
    intro r' d' h'
    obtain ⟨hstop, hne⟩ := others.stops_statement h separate
    cases d' with
    | noStatement => exact (first.not_statement_of_stops h').elim
    | closedStatement first' semicolon' others' =>
      obtain ⟨rfl, -⟩ := ihfirst hstop first' (stops_semicolon semicolon')
      exact (hne semicolon').elim
    | openStatement first' separate' others' =>
      obtain ⟨rfl, hfirst⟩ := ihfirst hstop first' (others'.stops_statement h' separate').1
      cases hfirst
      obtain ⟨rfl, hothers⟩ := ihothers h others' h'
      cases hothers
      exact ⟨rfl, HEq.rfl⟩
  | letStatement word name assign value ih =>
    intro r' d' h'
    cases d' with
    | letStatement _ _ _ value' =>
      obtain ⟨rfl, hvalue⟩ := ih (stops_of_statement h) value' (stops_of_statement h')
      cases hvalue
      exact ⟨rfl, HEq.rfl⟩
    | returnStatement word' => simp [word] at word'
    | exprStatement value' => exact (value'.firstKind_expression_ne (by simp) word).elim
  | returnStatement word value ih =>
    intro r' d' h'
    cases d' with
    | letStatement word' => simp [word] at word'
    | returnStatement _ value' =>
      obtain ⟨rfl, hvalue⟩ := ih (stops_of_statement h) value' (stops_of_statement h')
      cases hvalue
      exact ⟨rfl, HEq.rfl⟩
    | exprStatement value' => exact (value'.firstKind_expression_ne (by simp) word).elim
  | exprStatement value ih =>
    intro r' d' h'
    cases d' with
    | letStatement word' => exact (value.firstKind_expression_ne (by simp) word').elim
    | returnStatement word' => exact (value.firstKind_expression_ne (by simp) word').elim
    | exprStatement value' =>
      obtain ⟨rfl, hvalue⟩ := ih (stops_of_statement h) value' (stops_of_statement h')
      cases hvalue
      exact ⟨rfl, HEq.rfl⟩
  | closedBlock brace body rbrace ih =>
    intro r' d' h'
    cases d' with
    | closedBlock _ body' rbrace' =>
      obtain ⟨hm, hbody⟩ := ih (.inr rbrace) body' (.inr rbrace')
      cases hm
      cases hbody
      exact ⟨rfl, HEq.rfl⟩
    | openBlock _ body' => cases (ih (.inr rbrace) body' (.inl rfl)).1
  | openBlock brace body ih =>
    intro r' d' h'
    cases d' with
    | closedBlock _ body' rbrace' => cases (ih (.inl rfl) body' (.inr rbrace')).1
    | openBlock _ body' =>
      obtain ⟨-, hbody⟩ := ih (.inl rfl) body' (.inl rfl)
      cases hbody
      exact ⟨rfl, HEq.rfl⟩
  | noAlternative =>
    intro r' d' h'
    cases d' with
    | noAlternative => exact ⟨rfl, HEq.rfl⟩
    | elseBlock word => exact (h word).elim
  | elseBlock word body ih =>
    intro r' d' h'
    cases d' with
    | noAlternative => exact (h' word).elim
    | elseBlock _ body' =>
      obtain ⟨rfl, hbody⟩ := ih trivial body' trivial
      cases hbody
      exact ⟨rfl, HEq.rfl⟩
  | binary first others ihfirst ihothers =>
    intro r' d' h'
    cases d' with
    | binary first' others' =>
      obtain ⟨rfl, hfirst⟩ := ihfirst (others.stops_operand h) first' (others'.stops_operand h')
      cases hfirst
      obtain ⟨rfl, hothers⟩ := ihothers h others' h'
      cases hothers
      exact ⟨rfl, HEq.rfl⟩
  | chainEnd =>
    intro r' d' h'
    cases d' with
    | chainEnd => exact ⟨rfl, HEq.rfl⟩
    | chainStep op sign member =>
      have hlt := h.1
      rw [firstKind_cons, (Tier.ofKind_of_mem sign member).1] at hlt
      exact absurd hlt (Nat.lt_irrefl _)
  | chainStep op sign member operand others ihoperand ihothers =>
    intro r' d' h'
    cases d' with
    | chainEnd =>
      have hlt := h'.1
      rw [firstKind_cons, (Tier.ofKind_of_mem sign member).1] at hlt
      exact absurd hlt (Nat.lt_irrefl _)
    | chainStep op' sign' member' operand' others' =>
      obtain rfl : op = op' := Option.some.inj (sign.symm.trans sign')
      obtain ⟨rfl, hoperand⟩ :=
        ihoperand (others.stops_operand h) operand' (others'.stops_operand h')
      cases hoperand
      obtain ⟨rfl, hothers⟩ := ihothers h others' h'
      cases hothers
      exact ⟨rfl, HEq.rfl⟩
  | unary op sign operand ih =>
    intro r' d' h'
    cases d' with
    | unary op' sign' operand' =>
      obtain rfl : op = op' := Option.some.inj (sign.symm.trans sign')
      obtain ⟨rfl, hoperand⟩ := ih h operand' h'
      cases hoperand
      exact ⟨rfl, HEq.rfl⟩
    | noUnary operand' => exact (operand'.not_unary sign).elim
  | noUnary operand ih =>
    intro r' d' h'
    cases d' with
    | unary op' sign' operand' => exact (operand.not_unary sign').elim
    | noUnary operand' =>
      obtain ⟨rfl, hoperand⟩ := ih h operand' h'
      cases hoperand
      exact ⟨rfl, HEq.rfl⟩
  | suffixed base others ihbase ihothers =>
    intro r' d' h'
    cases d' with
    | suffixed base' others' =>
      obtain ⟨rfl, hbase⟩ := ihbase (others.stops_primary h) base' (others'.stops_primary h')
      cases hbase
      obtain ⟨rfl, hothers⟩ := ihothers h.1 others' h'.1
      cases hothers
      exact ⟨rfl, HEq.rfl⟩
  | suffixEnd =>
    intro r' d' h'
    cases d' with
    | suffixEnd => exact ⟨rfl, HEq.rfl⟩
    | call lparen =>
      rw [firstKind_cons, lparen] at h
      exact absurd h (Nat.lt_irrefl _)
    | index lbracket =>
      rw [firstKind_cons, lbracket] at h
      exact absurd h (Nat.lt_asymm (Nat.lt_succ_self _))
  | call lparen arguments others iharguments ihothers =>
    intro r' d' h'
    cases d' with
    | suffixEnd =>
      rw [firstKind_cons, lparen] at h'
      exact absurd h' (Nat.lt_irrefl _)
    | call _ arguments' others' =>
      obtain ⟨rfl, harguments⟩ := iharguments trivial arguments' trivial
      cases harguments
      obtain ⟨rfl, hothers⟩ := ihothers h others' h'
      cases hothers
      exact ⟨rfl, HEq.rfl⟩
    | index lbracket => simp [lparen] at lbracket
  | index lbracket position rbracket others ihposition ihothers =>
    intro r' d' h'
    cases d' with
    | suffixEnd =>
      rw [firstKind_cons, lbracket] at h'
      exact absurd h' (Nat.lt_asymm (Nat.lt_succ_self _))
    | call lparen => simp [lbracket] at lparen
    | index _ position' rbracket' others' =>
      obtain ⟨hm, hposition⟩ :=
        ihposition (stops_closing rbracket (by simp)) position' (stops_closing rbracket' (by simp))
      cases hm
      cases hposition
      obtain ⟨rfl, hothers⟩ := ihothers h others' h'
      cases hothers
      exact ⟨rfl, HEq.rfl⟩
  | ident word =>
    intro r' d' h'
    cases d' with
    | ident => exact ⟨rfl, HEq.rfl⟩
    | _ => grind
  | int digits range =>
    intro r' d' h'
    cases d' with
    | int => exact ⟨rfl, HEq.rfl⟩
    | _ => grind
  | string quoted =>
    intro r' d' h'
    cases d' with
    | string => exact ⟨rfl, HEq.rfl⟩
    | _ => grind
  | trueWord word =>
    intro r' d' h'
    cases d' with
    | trueWord => exact ⟨rfl, HEq.rfl⟩
    | _ => grind
  | falseWord word =>
    intro r' d' h'
    cases d' with
    | falseWord => exact ⟨rfl, HEq.rfl⟩
    | _ => grind
  | grouped lparen inner rparen ih =>
    intro r' d' h'
    cases d' with
    | grouped _ inner' rparen' =>
      obtain ⟨hm, hinner⟩ :=
        ih (stops_closing rparen (by simp)) inner' (stops_closing rparen' (by simp))
      cases hm
      cases hinner
      exact ⟨rfl, HEq.rfl⟩
    | _ => grind
  | conditional word opening condition closing consequence alternative ihcondition
      ihconsequence ihalternative =>
    intro r' d' h'
    cases d' with
    | conditional _ _ condition' closing' consequence' alternative' =>
      obtain ⟨hm, hcondition⟩ :=
        ihcondition (stops_closing closing (by simp)) condition' (stops_closing closing' (by simp))
      cases hm
      cases hcondition
      obtain ⟨rfl, hconsequence⟩ := ihconsequence trivial consequence' trivial
      cases hconsequence
      obtain ⟨rfl, halternative⟩ := ihalternative h alternative' h'
      cases halternative
      exact ⟨rfl, HEq.rfl⟩
    | _ => grind
  | function word opening parameters body ihparameters ihbody =>
    intro r' d' h'
    cases d' with
    | function _ _ parameters' body' =>
      obtain ⟨rfl, hparameters⟩ := ihparameters trivial parameters' trivial
      cases hparameters
      obtain ⟨rfl, hbody⟩ := ihbody trivial body' trivial
      cases hbody
      exact ⟨rfl, HEq.rfl⟩
    | _ => grind
  | array lbracket elements ih =>
    intro r' d' h'
    cases d' with
    | array _ elements' =>
      obtain ⟨rfl, helements⟩ := ih trivial elements' trivial
      cases helements
      exact ⟨rfl, HEq.rfl⟩
    | _ => grind
  | hash brace pairs ih =>
    intro r' d' h'
    cases d' with
    | hash _ pairs' =>
      obtain ⟨rfl, hpairs⟩ := ih trivial pairs' trivial
      cases hpairs
      exact ⟨rfl, HEq.rfl⟩
    | _ => grind
  | noArgument closing =>
    intro r' d' h'
    cases d' with
    | noArgument => exact ⟨rfl, HEq.rfl⟩
    | someArguments first =>
      exact (first.firstKind_expression_ne (Bracket.close_mem _) closing).elim
  | someArguments first others ihfirst ihothers =>
    intro r' d' h'
    cases d' with
    | noArgument closing =>
      exact (first.firstKind_expression_ne (Bracket.close_mem _) closing).elim
    | someArguments first' others' =>
      obtain ⟨rfl, hfirst⟩ := ihfirst others.stops_argument first' others'.stops_argument
      cases hfirst
      obtain ⟨rfl, hothers⟩ := ihothers trivial others' trivial
      cases hothers
      exact ⟨rfl, HEq.rfl⟩
  | argumentsEnd closing =>
    intro r' d' h'
    cases d' with
    | argumentsEnd => exact ⟨rfl, HEq.rfl⟩
    | nextArgument comma => exact (Bracket.close_ne_comma _ (closing.symm.trans comma)).elim
  | nextArgument comma next others ihnext ihothers =>
    intro r' d' h'
    cases d' with
    | argumentsEnd closing => exact (Bracket.close_ne_comma _ (closing.symm.trans comma)).elim
    | nextArgument _ next' others' =>
      obtain ⟨rfl, hnext⟩ := ihnext others.stops_argument next' others'.stops_argument
      cases hnext
      obtain ⟨rfl, hothers⟩ := ihothers trivial others' trivial
      cases hothers
      exact ⟨rfl, HEq.rfl⟩
  | noParameter closing =>
    intro r' d' h'
    cases d' with
    | noParameter => exact ⟨rfl, HEq.rfl⟩
    | someParameters first => simp [closing] at first
  | someParameters first others ih =>
    intro r' d' h'
    cases d' with
    | noParameter closing => simp [closing] at first
    | someParameters _ others' =>
      obtain ⟨rfl, hothers⟩ := ih trivial others' trivial
      cases hothers
      exact ⟨rfl, HEq.rfl⟩
  | parametersEnd closing =>
    intro r' d' h'
    cases d' with
    | parametersEnd => exact ⟨rfl, HEq.rfl⟩
    | nextParameter sign => simp [closing] at sign
  | nextParameter sign next others ih =>
    intro r' d' h'
    cases d' with
    | parametersEnd closing => simp [closing] at sign
    | nextParameter _ _ others' =>
      obtain ⟨rfl, hothers⟩ := ih trivial others' trivial
      cases hothers
      exact ⟨rfl, HEq.rfl⟩
  | noPair closing =>
    intro r' d' h'
    cases d' with
    | noPair => exact ⟨rfl, HEq.rfl⟩
    | somePairs key => exact (key.firstKind_expression_ne (by simp) closing).elim
  | somePairs key sign value others ihkey ihvalue ihothers =>
    intro r' d' h'
    cases d' with
    | noPair closing => exact (key.firstKind_expression_ne (by simp) closing).elim
    | somePairs key' sign' value' others' =>
      obtain ⟨hm, hkey⟩ := ihkey (stops_closing sign (by simp)) key' (stops_closing sign' (by simp))
      cases hm
      cases hkey
      obtain ⟨rfl, hvalue⟩ := ihvalue others.stops_pair value' others'.stops_pair
      cases hvalue
      obtain ⟨rfl, hothers⟩ := ihothers trivial others' trivial
      cases hothers
      exact ⟨rfl, HEq.rfl⟩
  | pairsEnd closing =>
    intro r' d' h'
    cases d' with
    | pairsEnd => exact ⟨rfl, HEq.rfl⟩
    | pairsEndComma sign => simp [closing] at sign
    | nextPair sign => simp [closing] at sign
  | pairsEndComma sign closing =>
    intro r' d' h'
    cases d' with
    | pairsEnd closing' => simp [closing'] at sign
    | pairsEndComma => exact ⟨rfl, HEq.rfl⟩
    | nextPair _ key => exact (key.firstKind_expression_ne (by simp) closing).elim
  | nextPair sign key between value others ihkey ihvalue ihothers =>
    intro r' d' h'
    cases d' with
    | pairsEnd closing => simp [closing] at sign
    | pairsEndComma _ closing => exact (key.firstKind_expression_ne (by simp) closing).elim
    | nextPair _ key' between' value' others' =>
      obtain ⟨hm, hkey⟩ :=
        ihkey (stops_closing between (by simp)) key' (stops_closing between' (by simp))
      cases hm
      cases hkey
      obtain ⟨rfl, hvalue⟩ := ihvalue others.stops_pair value' others'.stops_pair
      cases hvalue
      obtain ⟨rfl, hothers⟩ := ihothers trivial others' trivial
      cases hothers
      exact ⟨rfl, HEq.rfl⟩

end Derivation

end Grammar

end MonkeyLang
