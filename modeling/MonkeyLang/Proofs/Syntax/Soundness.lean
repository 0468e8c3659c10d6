import MonkeyLang.Proofs.Syntax.Completeness

/-!
# What is read can be derived

Whatever a parser reads without errors has a derivation, whose tree is the value that was read.
The parsers of forms that contain expressions are treated for any parser of expressions that is
itself sound; the depth of nesting enters only in the last theorem, by induction.

The loop over continuations extends an expression on its right.  It keeps the invariant that the
expression is derivable at some level, and that the next token can be attached to it there.
-/

namespace MonkeyLang

namespace Grammar

open MonkeyLang.Parser TokenStream

/-! ## Trees of derivations -/

/-- The tree belongs to some derivation. -/
def Derivable (A : Nonterminal) (s r : List Token) (tree : A.Tree) : Prop :=
  ∃ d : Derivation A s r, d.tree = tree

namespace Derivation

/-- A derivation ends at a tail of the tokens that it begins with. -/
lemma isSuffix {A : Nonterminal} {s r : List Token} (d : Derivation A s r) : r <:+ s := by
  induction d <;> grind [List.IsSuffix.trans, List.suffix_cons, List.suffix_refl]

/-- Operators of a tier, and more of them behind. -/
def appendChain {tier : Tier} {s m r : List Token} :
    Derivation (.chain tier) s m → Derivation (.chain tier) m r → Derivation (.chain tier) s r
  | chainEnd, d => d
  | chainStep op sign member operand others, d =>
    chainStep op sign member operand (others.appendChain d)

lemma tree_appendChain {tier : Tier} : ∀ {s m r : List Token} (c : Derivation (.chain tier) s m)
    (d : Derivation (.chain tier) m r) (left : Expr),
    (c.appendChain d).tree left = d.tree (c.tree left)
  | _, _, _, chainEnd, _, _ => by
    rw [appendChain]
    rfl
  | _, _, _, chainStep _ _ _ _ others, d, _ => by
    rw [appendChain]
    exact tree_appendChain others d _

/-- Suffixes, and more of them behind. -/
def appendSuffixes {s m r : List Token} :
    Derivation .suffixes s m → Derivation .suffixes m r → Derivation .suffixes s r
  | suffixEnd, d => d
  | call lparen arguments others, d => call lparen arguments (others.appendSuffixes d)
  | index lbracket position rbracket others, d =>
    index lbracket position rbracket (others.appendSuffixes d)

lemma tree_appendSuffixes : ∀ {s m r : List Token} (c : Derivation .suffixes s m)
    (d : Derivation .suffixes m r) (left : Expr),
    (c.appendSuffixes d).tree left = d.tree (c.tree left)
  | _, _, _, suffixEnd, _, _ => by
    rw [appendSuffixes]
    rfl
  | _, _, _, call _ _ others, d, _ => by
    rw [appendSuffixes]
    exact tree_appendSuffixes others d _
  | _, _, _, index _ _ _ others, d, _ => by
    rw [appendSuffixes]
    exact tree_appendSuffixes others d _

end Derivation

/-! ## Levels -/

/-- The strongest continuation that can be attached to an expression of a level. -/
def Level.bound : Level → Precedence
  | binary tier => tier.strength
  | unary => .unary
  | suffixed => .index

/-- The level of the expressions whose continuations all bind more strongly than a strength. -/
def Level.above : Precedence → Level
  | .lowest => .binary .equality
  | .equality => .binary .comparison
  | .comparison => .binary .sum
  | .sum => .binary .product
  | _ => .unary

section

variable {level : Level} {tier : Tier} {s r : List Token} {e : Expr}

lemma Derivable.ofOperand (h : Derivable (.expr tier.operand) s r e) :
    Derivable (.expr (.binary tier)) s r e := by
  obtain ⟨d, rfl⟩ := h
  exact ⟨.binary d .chainEnd, rfl⟩

lemma Level.bound_operand (hne : level ≠ .binary tier) (h : ¬ level.bound < tier.strength) :
    ¬ level.bound < tier.operand.bound := by
  revert hne h
  cases tier <;> rcases level with ⟨_ | _ | _ | _⟩ | _ | _ <;> decide

/-- An expression of a level is an expression of every weaker level. -/
lemma Derivable.weaken {weaker : Level} (h : Derivable (.expr level) s r e)
    (hbound : ¬ level.bound < weaker.bound) : Derivable (.expr weaker) s r e := by
  have hunary : ¬ level.bound < Level.unary.bound → Derivable (.expr .unary) s r e := by
    intro hle
    match level with
    | .suffixed =>
      obtain ⟨d, rfl⟩ := h
      exact ⟨.noUnary d, rfl⟩
    | .unary => exact h
    | .binary tier => cases tier <;> exact absurd (by decide) hle
  have hstep : ∀ tier : Tier,
      (¬ level.bound < tier.operand.bound → Derivable (.expr tier.operand) s r e) →
      ¬ level.bound < tier.strength → Derivable (.expr (.binary tier)) s r e := by
    intro tier hoperand hle
    by_cases heq : level = .binary tier
    · exact heq ▸ h
    · exact (hoperand (Level.bound_operand heq hle)).ofOperand
  have hproduct := hstep .product hunary
  have hsum := hstep .sum hproduct
  have hcomparison := hstep .comparison hsum
  match weaker with
  | .suffixed =>
    match level with
    | .suffixed => exact h
    | .unary => exact absurd (by decide) hbound
    | .binary tier => cases tier <;> exact absurd (by decide) hbound
  | .unary => exact hunary hbound
  | .binary .product => exact hproduct hbound
  | .binary .sum => exact hsum hbound
  | .binary .comparison => exact hcomparison hbound
  | .binary .equality => exact hstep .equality hcomparison hbound

end

/-! ## Streams -/

section

variable {s : TokenStream}

@[simp] lemma firstKind_tokens (s : TokenStream) : firstKind s.tokens = s.current.kind := by
  rw [← kind_current_mk s.tokens s.size]

/-- No token of the stream marks the end of the text, which the stream shows by itself. -/
def Proper (s : TokenStream) : Prop :=
  ∀ t ∈ s.tokens, t.kind ≠ .eof

lemma Proper.tokens_eq_nil (hs : Proper s) (h : s.current.kind = .eof) : s.tokens = [] := by
  obtain ⟨_ | ⟨t, ts⟩, size⟩ := s
  · rfl
  · exact absurd h (hs t List.mem_cons_self)

lemma Proper.next (hs : Proper s) : Proper s.next :=
  fun t ht => hs t (List.mem_of_mem_tail ht)

/-- What is behind a derivation is as proper as what is before it. -/
lemma Derivable.proper {A : Nonterminal} {r : TokenStream} {tree : A.Tree}
    (h : Derivable A s.tokens r.tokens tree) (hs : Proper s) : Proper r := by
  obtain ⟨d, -⟩ := h
  exact fun t ht => hs t (d.isSuffix.subset ht)

end

/-! ## Lists -/

/-- The parser reads an expression up to a token that binds no more strongly than the floor, and
what it reads can be derived. -/
def SoundExpr (p : Precedence → Parser Expr) : Prop :=
  ∀ floor s e r, Proper s → Reads (p floor) s e r →
    Derivable (.expr (.above floor)) s.tokens r.tokens e ∧
      ¬ floor < Precedence.ofKind r.current.kind

section

variable {p : Precedence → Parser Expr} {s r : TokenStream} {e : Expr}

lemma SoundExpr.expression (hp : SoundExpr p) (hs : Proper s) (h : Reads (p .lowest) s e r) :
    Derivable .expression s.tokens r.tokens e :=
  (hp .lowest s e r hs h).1

lemma derivable_itemsUpTo (hp : SoundExpr p) {bracket : Bracket} {n : Nat} {es : List Expr}
    (hs : Proper s) (h : Reads (itemsUpTo (p .lowest) bracket.close n) s es r) :
    Derivable (.arguments bracket) s.tokens r.tokens es := by
  -- Behind the first expression there is always a derivation of what may follow it.
  have hmore : ∃ first others m, es = first :: others ∧
      Derivable .expression s.tokens m first ∧
      Derivable (.moreArguments bracket) m r.tokens others := by
    induction n generalizing s es with
    | zero => simp at h
    | succ n ih =>
      obtain ⟨first, m, hfirst, h⟩ := reads_itemsUpTo_succ.1 h
      have hd := hp.expression hs hfirst
      refine ⟨first, es.tail, m.tokens, ?_, hd, ?_⟩
      · split at h
        · obtain ⟨more, -, rfl⟩ := h
          rfl
        · obtain ⟨-, rfl, -⟩ := h
          rfl
      · split at h
        · next hcomma =>
          obtain ⟨more, hitems, rfl⟩ := h
          obtain ⟨next, others, m', rfl, ⟨d, rfl⟩, ⟨d', rfl⟩⟩ := ih (hd.proper hs).next hitems
          rw [tokens_eq_of_kind hcomma (by decide)]
          exact ⟨.nextArgument hcomma d d', rfl⟩
        · obtain ⟨hclose, rfl, rfl⟩ := h
          rw [tokens_eq_of_kind hclose (by cases bracket <;> decide)]
          exact ⟨.argumentsEnd hclose, rfl⟩
  obtain ⟨first, others, m, rfl, ⟨d, rfl⟩, ⟨d', rfl⟩⟩ := hmore
  exact ⟨.someArguments d d', rfl⟩

lemma derivable_arguments (hp : SoundExpr p) {bracket : Bracket} {n : Nat} {es : List Expr}
    (hs : Proper s) (h : Reads (delimited (p .lowest) bracket.close n) s es r) :
    Derivable (.arguments bracket) s.tokens r.tokens es := by
  rw [reads_delimited] at h
  split at h
  · next hclose =>
    obtain ⟨rfl, rfl⟩ := h
    rw [tokens_eq_of_kind hclose (by cases bracket <;> decide)]
    exact ⟨.noArgument hclose, rfl⟩
  · exact derivable_itemsUpTo hp hs h

lemma reads_parameter {x : Ident} : Reads parameter s x r ↔
    s.current.kind = .ident ∧ x = .ofToken s.current ∧ r = s.next := by
  by_cases h : s.current.kind = .ident <;> simp [parameter, h]

lemma derivable_moreParameters {n : Nat} {xs : List Ident}
    (h : Reads (itemsUpTo parameter .rparen n) s xs r) :
    Derivable .parameters s.tokens r.tokens xs := by
  have hmore : s.current.kind = .ident ∧ ∃ others, xs = .ofToken s.current :: others ∧
      Derivable .moreParameters s.next.tokens r.tokens others := by
    induction n generalizing s xs with
    | zero => simp at h
    | succ n ih =>
      obtain ⟨first, m, hfirst, h⟩ := reads_itemsUpTo_succ.1 h
      obtain ⟨hkind, rfl, rfl⟩ := reads_parameter.1 hfirst
      refine ⟨hkind, ?_⟩
      split at h
      · next hcomma =>
        obtain ⟨more, hitems, rfl⟩ := h
        obtain ⟨hnext, others, rfl, ⟨d, rfl⟩⟩ := ih hitems
        refine ⟨_, rfl, ?_⟩
        rw [tokens_eq_of_kind hcomma (by decide), tokens_eq_of_kind hnext (by decide)]
        exact ⟨.nextParameter hcomma hnext d, rfl⟩
      · obtain ⟨hclose, rfl, rfl⟩ := h
        refine ⟨_, rfl, ?_⟩
        rw [tokens_eq_of_kind hclose (by decide)]
        exact ⟨.parametersEnd hclose, rfl⟩
  obtain ⟨hkind, others, rfl, ⟨d, rfl⟩⟩ := hmore
  rw [tokens_eq_of_kind hkind (by decide)]
  exact ⟨.someParameters hkind d, rfl⟩

lemma derivable_parameters {n : Nat} {xs : List Ident}
    (h : Reads (delimited parameter .rparen n) s xs r) :
    Derivable .parameters s.tokens r.tokens xs := by
  rw [reads_delimited] at h
  split at h
  · next hclose =>
    obtain ⟨rfl, rfl⟩ := h
    rw [tokens_eq_of_kind hclose (by decide)]
    exact ⟨.noParameter hclose, rfl⟩
  · exact derivable_moreParameters h

/-- No pairs may stand behind a pair, where the brace closes at once. -/
lemma Derivable.morePairs_of_close {t : Token} {ts ts' : List Token} {pairs : List (Expr × Expr)}
    (hclose : t.kind = .rbrace) (h : Derivable .pairs (t :: ts) ts' pairs) :
    Derivable .morePairs (t :: ts) ts' pairs := by
  obtain ⟨d, rfl⟩ := h
  cases d with
  | noPair closing => exact ⟨.pairsEnd closing, rfl⟩
  | somePairs first => exact (first.firstKind_expression_ne (by simp) hclose).elim

/-- Pairs may stand behind a pair and a comma. -/
lemma Derivable.morePairs_of_comma {t : Token} {ts ts' : List Token} {pairs : List (Expr × Expr)}
    (hcomma : t.kind = .comma) (h : Derivable .pairs ts ts' pairs) :
    Derivable .morePairs (t :: ts) ts' pairs := by
  obtain ⟨d, rfl⟩ := h
  cases d with
  | noPair closing => exact ⟨.pairsEndComma hcomma closing, rfl⟩
  | somePairs key sign value others => exact ⟨.nextPair hcomma key sign value others, rfl⟩

lemma derivable_pairs (hp : SoundExpr p) {n : Nat} {pairs : List (Expr × Expr)}
    (hs : Proper s) (h : Reads (pairsUpTo (p .lowest) n) s pairs r) :
    Derivable .pairs s.tokens r.tokens pairs := by
  induction n generalizing s pairs with
  | zero => simp at h
  | succ n ih =>
    rw [reads_pairsUpTo_succ] at h
    split at h
    · next hclose =>
      obtain ⟨rfl, rfl⟩ := h
      rw [tokens_eq_of_kind hclose (by decide)]
      exact ⟨.noPair hclose, rfl⟩
    · obtain ⟨key, m, hkey, hcolon, value, m', hvalue, h⟩ := h
      have hdkey := hp.expression hs hkey
      have hm := hdkey.proper hs
      have hdvalue := hp.expression hm.next hvalue
      have hm' := hdvalue.proper hm.next
      rw [tokens_eq_of_kind hcolon (by decide)] at hdkey
      have hmore : ∃ more, Derivable .morePairs m'.tokens r.tokens more ∧
          pairs = (key, value) :: more := by
        split at h
        · next hclose =>
          obtain ⟨more, hmore, rfl⟩ := h
          have hd := ih hm' hmore
          refine ⟨more, ?_, rfl⟩
          rw [tokens_eq_of_kind hclose (by decide)] at hd ⊢
          exact hd.morePairs_of_close hclose
        · obtain ⟨hcomma, more, hmore, rfl⟩ := h
          refine ⟨more, ?_, rfl⟩
          rw [tokens_eq_of_kind hcomma (by decide)]
          exact (ih hm'.next hmore).morePairs_of_comma hcomma
      obtain ⟨more, ⟨d, rfl⟩, rfl⟩ := hmore
      obtain ⟨dkey, rfl⟩ := hdkey
      obtain ⟨dvalue, rfl⟩ := hdvalue
      exact ⟨.somePairs dkey hcolon dvalue d, rfl⟩

/-! ## Statements and blocks -/

/-- An expression does not begin at the end of the text. -/
lemma Derivable.ne_eof {level : Level} {ts : List Token}
    (h : Derivable (.expr level) s.tokens ts e) : s.current.kind ≠ .eof := by
  obtain ⟨d, -⟩ := h
  have hstart := d.starts
  rw [firstKind_tokens] at hstart
  intro heof
  rw [heof] at hstart
  rcases level with _ | _ | _ <;> simp [Nonterminal.Starts, primaryStarts] at hstart

/-- What continues no expression does not attach to a statement. -/
lemma not_attaches (h : Precedence.ofKind s.current.kind = .lowest) : ¬ attaches s.tokens := by
  obtain ⟨_ | ⟨t, ts⟩, size⟩ := s
  · exact id
  · rintro (hkind | hkind | hkind) <;> simp [hkind] at h <;> revert h <;> decide

/-- A statement is read with the semicolon behind it, if there is one. -/
lemma derivable_statement (hp : SoundExpr p) {statement : Stmt} (hs : Proper s)
    (h : Reads (Parser.statement p) s statement r) :
    ∃ m : TokenStream, Derivable .statement s.tokens m.tokens statement ∧
      Precedence.ofKind m.current.kind = .lowest ∧
      r = if m.current.kind = .semicolon then m.next else m := by
  have hlowest : ∀ k, ¬ .lowest < Precedence.ofKind k → Precedence.ofKind k = .lowest := by
    intro k hk
    cases k <;> first | rfl | exact absurd (by decide) hk
  by_cases hlet : s.current.kind = .letWord
  · obtain ⟨hname, hassign, value, m, hvalue, rfl, rfl⟩ := (reads_statement_let hlet).1 h
    obtain ⟨⟨d, rfl⟩, hfloor⟩ := hp .lowest _ _ _ hs.next.next.next hvalue
    refine ⟨m, ?_, hlowest _ hfloor, rfl⟩
    rw [tokens_eq_of_kind hlet (by decide), tokens_eq_of_kind hname (by decide),
      tokens_eq_of_kind hassign (by decide)]
    exact ⟨.letStatement hlet hname hassign d, rfl⟩
  by_cases hreturn : s.current.kind = .returnWord
  · obtain ⟨value, m, hvalue, rfl, rfl⟩ := (reads_statement_return hreturn).1 h
    obtain ⟨⟨d, rfl⟩, hfloor⟩ := hp .lowest _ _ _ hs.next hvalue
    refine ⟨m, ?_, hlowest _ hfloor, rfl⟩
    rw [tokens_eq_of_kind hreturn (by decide)]
    exact ⟨.returnStatement hreturn d, rfl⟩
  · obtain ⟨value, m, hvalue, rfl, rfl⟩ := (reads_statement_of_ne hlet hreturn).1 h
    obtain ⟨hd, hfloor⟩ := hp .lowest _ _ _ hs hvalue
    refine ⟨m, ?_, hlowest _ hfloor, rfl⟩
    have hne := hd.ne_eof
    rw [tokens_eq_of_kind rfl hne] at hd ⊢
    obtain ⟨d, rfl⟩ := hd
    exact ⟨.exprStatement d, rfl⟩

/-- Statements are read up to the end of the text or the token that closes them. -/
lemma derivable_statementsUpTo (hp : SoundExpr p) {closes : TokenKind → Bool} {n : Nat}
    {statements : List Stmt} (hs : Proper s)
    (h : Reads (statementsUpTo (Parser.statement p) closes n) s statements r) :
    Derivable .statements s.tokens r.tokens statements ∧
      (r.current.kind = .eof ∨ closes r.current.kind = true) := by
  induction n generalizing s statements with
  | zero => simp at h
  | succ n ih =>
    rw [reads_statementsUpTo_succ] at h
    split at h
    · next hclose =>
      obtain ⟨rfl, rfl⟩ := h
      exact ⟨⟨.noStatement, rfl⟩, hclose⟩
    · obtain ⟨first, m', hfirst, more, hmore, rfl⟩ := h
      obtain ⟨m, hd, hstop, rfl⟩ := derivable_statement hp hs hfirst
      have hm := hd.proper hs
      split at hmore
      · next hsemicolon =>
        obtain ⟨⟨d', rfl⟩, hend⟩ := ih hm.next hmore
        rw [tokens_eq_of_kind hsemicolon (by decide)] at hd
        obtain ⟨d, rfl⟩ := hd
        exact ⟨⟨.closedStatement d hsemicolon d', rfl⟩, hend⟩
      · obtain ⟨⟨d', rfl⟩, hend⟩ := ih hm hmore
        obtain ⟨d, rfl⟩ := hd
        exact ⟨⟨.openStatement d (not_attaches hstop) d', rfl⟩, hend⟩

lemma derivable_block (hp : SoundExpr p) {depth : Nat} {b : Block} (hs : Proper s)
    (h : Reads (bracedBlock p depth) s b r) : Derivable .block s.tokens r.tokens b := by
  obtain ⟨hbrace, statements, m, hbody, rfl, rfl⟩ := reads_bracedBlock.1 h
  obtain ⟨hd, hend⟩ := derivable_statementsUpTo hp hs.next hbody
  have hm := hd.proper hs.next
  rw [tokens_eq_of_kind hbrace (by decide)]
  rcases hend with heof | hclose
  · have hnil := hm.tokens_eq_nil heof
    have hnext : m.next.tokens = [] := by
      rw [TokenStream.next, hnil]
      rfl
    rw [hnil] at hd
    obtain ⟨d, rfl⟩ := hd
    rw [hnext]
    exact ⟨.openBlock hbrace d, rfl⟩
  · have hrbrace : m.current.kind = .rbrace := by simpa using hclose
    rw [tokens_eq_of_kind hrbrace (by decide)] at hd
    obtain ⟨d, rfl⟩ := hd
    exact ⟨.closedBlock hbrace d hrbrace, rfl⟩

lemma derivable_alternative (hp : SoundExpr p) {depth : Nat} {b : Option Block} (hs : Proper s)
    (h : Reads (alternative p depth) s b r) : Derivable .alternative s.tokens r.tokens b := by
  rw [reads_alternative] at h
  split at h
  · next helse =>
    obtain ⟨body, hbody, rfl⟩ := h
    obtain ⟨d, rfl⟩ := derivable_block hp hs.next hbody
    rw [tokens_eq_of_kind helse (by decide)]
    exact ⟨.elseBlock helse d, rfl⟩
  · obtain ⟨rfl, rfl⟩ := h
    exact ⟨.noAlternative, rfl⟩

/-! ## Expressions -/

/-- An operand is a primary expression, or an operator with its operand. -/
lemma derivable_operand (hp : SoundExpr p) {depth : Nat} (hs : Proper s)
    (h : Reads (operand p depth) s e r) :
    Derivable .primary s.tokens r.tokens e ∨
      (Derivable (.expr .unary) s.tokens r.tokens e ∧
        ¬ .unary < Precedence.ofKind r.current.kind) := by
  cases reads_operand.1 h with
  | ident word =>
    rw [tokens_eq_of_kind word (by decide)]
    exact .inl ⟨.ident word, rfl⟩
  | int digits range =>
    rw [tokens_eq_of_kind digits (by decide)]
    exact .inl ⟨.int digits (Nat.le_pred_of_lt range), rfl⟩
  | string quoted =>
    rw [tokens_eq_of_kind quoted (by decide)]
    exact .inl ⟨.string quoted, rfl⟩
  | trueWord word =>
    rw [tokens_eq_of_kind word (by decide)]
    exact .inl ⟨.trueWord word, rfl⟩
  | falseWord word =>
    rw [tokens_eq_of_kind word (by decide)]
    exact .inl ⟨.falseWord word, rfl⟩
  | unary op sign operand =>
    obtain ⟨⟨d, rfl⟩, hfloor⟩ := hp .unary _ _ _ hs.next operand
    have hne : s.current.kind ≠ .eof := by
      intro heof
      rw [heof] at sign
      cases sign
    rw [tokens_eq_of_kind rfl hne]
    exact .inr ⟨⟨.unary op sign d, rfl⟩, hfloor⟩
  | grouped lparen inner rparen =>
    have hd := hp.expression hs.next inner
    rw [tokens_eq_of_kind rparen (by decide)] at hd
    obtain ⟨d, rfl⟩ := hd
    rw [tokens_eq_of_kind lparen (by decide)]
    exact .inl ⟨.grouped lparen d rparen, rfl⟩
  | conditional word opening first closing second third =>
    have hd := hp.expression hs.next.next first
    have hm := hd.proper hs.next.next
    have hd' := derivable_block hp hm.next second
    obtain ⟨d'', rfl⟩ := derivable_alternative hp (hd'.proper hm.next) third
    obtain ⟨d', rfl⟩ := hd'
    rw [tokens_eq_of_kind closing (by decide)] at hd
    obtain ⟨d, rfl⟩ := hd
    rw [tokens_eq_of_kind word (by decide), tokens_eq_of_kind opening (by decide)]
    exact .inl ⟨.conditional word opening d closing d' d'', rfl⟩
  | function word opening first second =>
    have hd := derivable_parameters first
    obtain ⟨d', rfl⟩ := derivable_block hp (hd.proper hs.next.next) second
    obtain ⟨d, rfl⟩ := hd
    rw [tokens_eq_of_kind word (by decide), tokens_eq_of_kind opening (by decide)]
    exact .inl ⟨.function word opening d d', rfl⟩
  | @array elements _ lbracket items =>
    have hd : Derivable (.arguments .square) s.next.tokens r.tokens elements :=
      derivable_arguments hp hs.next items
    obtain ⟨d, rfl⟩ := hd
    rw [tokens_eq_of_kind lbracket (by decide)]
    exact .inl ⟨.array lbracket d, rfl⟩
  | hash brace items =>
    obtain ⟨d, rfl⟩ := derivable_pairs hp hs.next items
    rw [tokens_eq_of_kind brace (by decide)]
    exact .inl ⟨.hash brace d, rfl⟩

end

section

variable {p : Precedence → Parser Expr} {base : List Token} {s r : TokenStream} {left e : Expr}

/-- The tier of an operator. -/
def tierOf : BinaryOp → Tier
  | .eq | .notEq => .equality
  | .lt | .gt => .comparison
  | .plus | .minus => .sum
  | .times | .divide => .product

lemma mem_tierOf (op : BinaryOp) :
    op ∈ (tierOf op).operators ∧ op.precedence = (tierOf op).strength := by
  cases op <;> decide

lemma above_strength (tier : Tier) : Level.above tier.strength = tier.operand := by
  cases tier <;> rfl

/-- The tokens that begin a continuation: brackets, and the signs of operators. -/
def Begins (k : TokenKind) : Continuation → Prop
  | .call => k = .lparen
  | .index => k = .lbracket
  | .binary op => BinaryOp.ofKind? k = some op

lemma begins_of_ofKind {k : TokenKind} {c : Continuation}
    (h : Continuation.ofKind? k = some c) : Begins k c := by
  revert h
  cases k <;> rintro ⟨⟩ <;> rfl

lemma eq_suffixed_of_bound {level : Level} (h : ¬ level.bound < .call) : level = .suffixed := by
  revert h
  rcases level with ⟨_ | _ | _ | _⟩ | _ | _ <;> decide

lemma Derivable.call {t : Token} {m r : List Token} {arguments : List Expr}
    (hleft : Derivable (.expr .suffixed) base (t :: m) left) (hkind : t.kind = .lparen)
    (h : Derivable (.arguments .round) m r arguments) :
    Derivable (.expr .suffixed) base r (.call t left arguments) := by
  obtain ⟨dleft, rfl⟩ := hleft
  obtain ⟨d, rfl⟩ := h
  cases dleft with
  | suffixed first others =>
    refine ⟨.suffixed first (others.appendSuffixes (.call hkind d .suffixEnd)), ?_⟩
    exact Derivation.tree_appendSuffixes others _ first.tree

lemma Derivable.index {t close : Token} {m r : List Token} {position : Expr}
    (hleft : Derivable (.expr .suffixed) base (t :: m) left) (hkind : t.kind = .lbracket)
    (h : Derivable .expression m (close :: r) position) (hclose : close.kind = .rbracket) :
    Derivable (.expr .suffixed) base r (.index t left position) := by
  obtain ⟨dleft, rfl⟩ := hleft
  obtain ⟨d, rfl⟩ := h
  cases dleft with
  | suffixed first others =>
    refine ⟨.suffixed first (others.appendSuffixes (.index hkind d hclose .suffixEnd)), ?_⟩
    exact Derivation.tree_appendSuffixes others _ first.tree

lemma Derivable.binary {tier : Tier} {t : Token} {m r : List Token} {op : BinaryOp}
    {right : Expr} (hleft : Derivable (.expr (.binary tier)) base (t :: m) left)
    (sign : BinaryOp.ofKind? t.kind = some op) (member : op ∈ tier.operators)
    (h : Derivable (.expr tier.operand) m r right) :
    Derivable (.expr (.binary tier)) base r (.binary t left op right) := by
  obtain ⟨dleft, rfl⟩ := hleft
  obtain ⟨d, rfl⟩ := h
  cases dleft with
  | binary first others =>
    refine ⟨.binary first (others.appendChain (.chainStep op sign member d .chainEnd)), ?_⟩
    exact Derivation.tree_appendChain others _ first.tree

/-- A continuation that can be attached to an expression makes a larger expression of it, to which
the next token can be attached in turn. -/
lemma derivable_continued (hp : SoundExpr p) {depth : Nat} {c : Continuation} {level : Level}
    (hs : Proper s) (hkind : Continuation.ofKind? s.current.kind = some c)
    (hlevel : ¬ level.bound < c.precedence)
    (hleft : Derivable (.expr level) base s.tokens left)
    (h : Reads (continued p depth left c) s e r) :
    ∃ level' : Level, Derivable (.expr level') base r.tokens e ∧
      ¬ level'.bound < Precedence.ofKind r.current.kind ∧ ¬ level'.bound < c.precedence ∧
      Proper r := by
  have hk := begins_of_ofKind hkind
  have hbound : ∀ k, ¬ Level.suffixed.bound < Precedence.ofKind k := by
    intro k
    cases k <;> decide
  match c with
  | .call =>
    obtain rfl := eq_suffixed_of_bound hlevel
    obtain ⟨arguments, harguments, rfl⟩ := reads_continued_call.1 h
    have hd : Derivable (.arguments .round) s.next.tokens r.tokens arguments :=
      derivable_arguments hp hs.next harguments
    rw [tokens_eq_of_kind hk (by decide)] at hleft
    exact ⟨.suffixed, hleft.call hk hd, hbound _, by decide, hd.proper hs.next⟩
  | .index =>
    obtain rfl : level = .suffixed :=
      eq_suffixed_of_bound fun hlt => hlevel (Nat.lt_trans hlt (Nat.lt_succ_self _))
    obtain ⟨position, m, hposition, hclose, rfl, rfl⟩ := reads_continued_index.1 h
    have hd := hp.expression hs.next hposition
    have hm := hd.proper hs.next
    rw [tokens_eq_of_kind hk (by decide)] at hleft
    rw [tokens_eq_of_kind hclose (by decide)] at hd
    exact ⟨.suffixed, hleft.index hk hd hclose, hbound _, by decide, hm.next⟩
  | .binary op =>
    obtain ⟨hmember, hstrength⟩ := mem_tierOf op
    obtain ⟨right, hright, rfl⟩ := reads_continued_binary.1 h
    obtain ⟨hd, hfloor⟩ := hp _ _ _ _ hs.next hright
    rw [hstrength] at hd hfloor
    rw [above_strength] at hd
    rw [Continuation.precedence, hstrength] at hlevel
    have hweak : Derivable (.expr (.binary (tierOf op))) base s.tokens left :=
      hleft.weaken hlevel
    have hne : s.current.kind ≠ .eof := by
      intro heof
      rw [Begins, heof] at hk
      cases hk
    rw [tokens_eq_of_kind rfl hne] at hweak
    refine ⟨.binary (tierOf op), hweak.binary hk hmember hd, hfloor, ?_, hd.proper hs.next⟩
    rw [Continuation.precedence, hstrength]
    exact Nat.lt_irrefl _

/-- A level that can take a continuation above a floor is strong enough for the floor. -/
lemma not_bound_lt_above {level : Level} {floor strength : Precedence} (h : floor < strength)
    (hlevel : ¬ level.bound < strength) : ¬ level.bound < (Level.above floor).bound := by
  revert h hlevel
  rcases level with ⟨_ | _ | _ | _⟩ | _ | _ <;> cases floor <;> cases strength <;> decide

/-- The loop over continuations keeps what it has read derivable, at a level that is strong enough
for the floor and that the next token can be attached to. -/
lemma derivable_climb (hp : SoundExpr p) {floor : Precedence} {n : Nat} {level : Level}
    (hs : Proper s) (hleft : Derivable (.expr level) base s.tokens left)
    (hnext : ¬ level.bound < Precedence.ofKind s.current.kind)
    (hfloor : ¬ level.bound < (Level.above floor).bound)
    (h : Reads (climb p floor n left) s e r) :
    Derivable (.expr (.above floor)) base r.tokens e ∧
      ¬ floor < Precedence.ofKind r.current.kind := by
  induction n generalizing s left level with
  | zero => exact (not_reads_exhausted h).elim
  | succ n ih =>
    simp only [climb, reads_peek_bind] at h
    cases hc : Continuation.ofKind? s.current.kind with
    | none =>
      simp only [hc, reads_pure] at h
      obtain ⟨rfl, rfl⟩ := h
      refine ⟨hleft.weaken hfloor, ?_⟩
      simp only [Precedence.ofKind, hc]
      exact Nat.not_lt_zero _
    | some c =>
      simp only [hc] at h
      simp only [Precedence.ofKind, hc, Option.map_some, Option.getD_some] at hnext
      split at h
      · next hlt =>
        obtain ⟨left', m, hcontinued, h⟩ := reads_bind.1 h
        obtain ⟨level', hleft', hnext', hle, hm⟩ :=
          derivable_continued hp hs hc hnext hleft hcontinued
        exact ih hm hleft' hnext' (not_bound_lt_above hlt hle) h
      · next hle =>
        obtain ⟨rfl, rfl⟩ := reads_pure.1 h
        refine ⟨hleft.weaken hfloor, ?_⟩
        rw [Precedence.ofKind, hc]
        exact hle

/-- Expressions are read soundly at every depth. -/
theorem soundExpr_expression (depth : Nat) : SoundExpr (expression depth) := by
  induction depth with
  | zero =>
    intro floor s e r _ h
    exact (not_reads_exhausted h).elim
  | succ depth ih =>
    intro floor s e r hs h
    obtain ⟨left, m, hoperand, hclimb⟩ := reads_bind.1 h
    rcases derivable_operand ih hs hoperand with hprimary | ⟨hunary, hfloor⟩
    · have hsuffixed : Derivable (.expr .suffixed) s.tokens m.tokens left := by
        obtain ⟨d, rfl⟩ := hprimary
        exact ⟨.suffixed d .suffixEnd, rfl⟩
      exact derivable_climb ih (hprimary.proper hs) hsuffixed
        (by cases m.current.kind <;> decide) (by cases floor <;> decide) hclimb
    · exact derivable_climb ih (hunary.proper hs) hunary hfloor
        (by cases floor <;> decide) hclimb

end

end Grammar

end MonkeyLang
