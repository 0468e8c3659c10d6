import MonkeyLang.Proofs.Syntax.Reads

/-!
# What the parsers of forms read

For each form of the language, what its parser reads in terms of what the parsers of its parts
read.  The lemmas hold for any parser of expressions.
-/

namespace MonkeyLang

namespace Parser

variable {p : Precedence → Parser Expr} {depth : Nat} {s r : TokenStream}

/-! ## Lists

Each list is read by a loop.  An equivalence says what one round of a loop reads; behind it stand
the ways in which a round can go. -/

section

variable {α : Type} {item : Parser α} {close : TokenKind} {n : Nat} {x : α} {xs : List α}
  {m m' : TokenStream}

@[simp] lemma not_reads_itemsUpTo_zero : ¬ Reads (itemsUpTo item close 0) s xs r :=
  not_reads_exhausted

lemma reads_itemsUpTo_succ : Reads (itemsUpTo item close (n + 1)) s xs r ↔
    ∃ x m, Reads item s x m ∧
      if m.current.kind = .comma then
        ∃ more, Reads (itemsUpTo item close n) m.next more r ∧ xs = x :: more
      else m.current.kind = close ∧ xs = [x] ∧ r = m.next := by
  simp [itemsUpTo]

lemma Reads.lastItem (hitem : Reads item s x m) (hclose : m.current.kind = close)
    (hcomma : close ≠ .comma) (hn : 0 < n) : Reads (itemsUpTo item close n) s [x] m.next := by
  obtain ⟨n, rfl⟩ := Nat.exists_eq_add_one_of_ne_zero (Nat.ne_of_gt hn)
  refine reads_itemsUpTo_succ.2 ⟨x, m, hitem, ?_⟩
  rw [if_neg (hclose ▸ hcomma)]
  exact ⟨hclose, rfl, rfl⟩

lemma Reads.nextItem (hitem : Reads item s x m) (hcomma : m.current.kind = .comma)
    (hmore : Reads (itemsUpTo item close (n - 1)) m.next xs r) (hn : 0 < n) :
    Reads (itemsUpTo item close n) s (x :: xs) r := by
  obtain ⟨n, rfl⟩ := Nat.exists_eq_add_one_of_ne_zero (Nat.ne_of_gt hn)
  refine reads_itemsUpTo_succ.2 ⟨x, m, hitem, ?_⟩
  rw [if_pos hcomma]
  exact ⟨xs, hmore, rfl⟩

lemma reads_delimited : Reads (delimited item close n) s xs r ↔
    if s.current.kind = close then xs = [] ∧ r = s.next
    else Reads (itemsUpTo item close n) s xs r := by
  simp [delimited]

lemma reads_delimited_nil (hclose : s.current.kind = close) :
    Reads (delimited item close n) s [] s.next := by
  rw [reads_delimited, if_pos hclose]
  exact ⟨rfl, rfl⟩

section

variable {p : Parser Expr} {pairs : List (Expr × Expr)} {key value : Expr}

@[simp] lemma not_reads_pairsUpTo_zero : ¬ Reads (pairsUpTo p 0) s pairs r :=
  not_reads_exhausted

lemma reads_pairsUpTo_succ : Reads (pairsUpTo p (n + 1)) s pairs r ↔
    if s.current.kind = .rbrace then pairs = [] ∧ r = s.next
    else ∃ key m, Reads p s key m ∧ m.current.kind = .colon ∧
      ∃ value m', Reads p m.next value m' ∧
        if m'.current.kind = .rbrace then
          ∃ more, Reads (pairsUpTo p n) m' more r ∧ pairs = (key, value) :: more
        else m'.current.kind = .comma ∧
          ∃ more, Reads (pairsUpTo p n) m'.next more r ∧ pairs = (key, value) :: more := by
  simp [pairsUpTo]

lemma reads_pairsUpTo_nil (hclose : s.current.kind = .rbrace) (hn : 0 < n) :
    Reads (pairsUpTo p n) s [] s.next := by
  obtain ⟨n, rfl⟩ := Nat.exists_eq_add_one_of_ne_zero (Nat.ne_of_gt hn)
  rw [reads_pairsUpTo_succ, if_pos hclose]
  exact ⟨rfl, rfl⟩

/-- The last pair, before the closing brace. -/
lemma reads_pairsUpTo_last (hne : s.current.kind ≠ .rbrace) (hkey : Reads p s key m)
    (hcolon : m.current.kind = .colon) (hvalue : Reads p m.next value m')
    (hclose : m'.current.kind = .rbrace) (hn : 1 < n) :
    Reads (pairsUpTo p n) s [(key, value)] m'.next := by
  obtain ⟨n, rfl⟩ := Nat.exists_eq_add_one_of_ne_zero (Nat.ne_of_gt (Nat.lt_of_succ_lt hn))
  rw [reads_pairsUpTo_succ, if_neg hne]
  refine ⟨key, m, hkey, hcolon, value, m', hvalue, ?_⟩
  rw [if_pos hclose]
  exact ⟨[], reads_pairsUpTo_nil hclose (Nat.lt_of_succ_lt_succ hn), rfl⟩

/-- A pair before a comma and what may follow it. -/
lemma reads_pairsUpTo_next (hne : s.current.kind ≠ .rbrace) (hkey : Reads p s key m)
    (hcolon : m.current.kind = .colon) (hvalue : Reads p m.next value m')
    (hcomma : m'.current.kind = .comma) (hmore : Reads (pairsUpTo p (n - 1)) m'.next pairs r)
    (hn : 0 < n) : Reads (pairsUpTo p n) s ((key, value) :: pairs) r := by
  obtain ⟨n, rfl⟩ := Nat.exists_eq_add_one_of_ne_zero (Nat.ne_of_gt hn)
  rw [reads_pairsUpTo_succ, if_neg hne]
  refine ⟨key, m, hkey, hcolon, value, m', hvalue, ?_⟩
  rw [if_neg (by rw [hcomma]; decide)]
  exact ⟨hcomma, pairs, hmore, rfl⟩

end

section

variable {p : Parser Stmt} {closes : TokenKind → Bool} {first : Stmt} {statements : List Stmt}

@[simp] lemma not_reads_statementsUpTo_zero :
    ¬ Reads (statementsUpTo p closes 0) s statements r :=
  not_reads_exhausted

lemma reads_statementsUpTo_succ : Reads (statementsUpTo p closes (n + 1)) s statements r ↔
    if s.current.kind = .eof ∨ closes s.current.kind = true then statements = [] ∧ r = s
    else ∃ first m, Reads p s first m ∧
      ∃ more, Reads (statementsUpTo p closes n) m more r ∧ statements = first :: more := by
  simp [statementsUpTo]

lemma reads_statementsUpTo_nil (hend : s.current.kind = .eof ∨ closes s.current.kind = true)
    (hn : 0 < n) : Reads (statementsUpTo p closes n) s [] s := by
  obtain ⟨n, rfl⟩ := Nat.exists_eq_add_one_of_ne_zero (Nat.ne_of_gt hn)
  rw [reads_statementsUpTo_succ, if_pos hend]
  exact ⟨rfl, rfl⟩

lemma reads_statementsUpTo_cons
    (hend : ¬ (s.current.kind = .eof ∨ closes s.current.kind = true)) (hfirst : Reads p s first m)
    (hmore : Reads (statementsUpTo p closes (n - 1)) m statements r) (hn : 0 < n) :
    Reads (statementsUpTo p closes n) s (first :: statements) r := by
  obtain ⟨n, rfl⟩ := Nat.exists_eq_add_one_of_ne_zero (Nat.ne_of_gt hn)
  rw [reads_statementsUpTo_succ, if_neg hend]
  exact ⟨first, m, hfirst, statements, hmore, rfl⟩

end

end

/-! ## Statements -/

/-- A binding is a keyword, a name, a sign and a value. -/
lemma reads_statement_let {statement : Stmt} (h : s.current.kind = .letWord) :
    Reads (Parser.statement p) s statement r ↔
      s.next.current.kind = .ident ∧ s.next.next.current.kind = .assign ∧
        ∃ value m, Reads (p .lowest) s.next.next.next value m ∧
          statement = .letStmt s.current (.ofToken s.next.current) value ∧
          r = if m.current.kind = .semicolon then m.next else m := by
  simp only [Parser.statement, reads_peek_bind, h, reads_take_bind, reads_expect_bind]
  simp

/-- A return is a keyword and a value. -/
lemma reads_statement_return {statement : Stmt} (h : s.current.kind = .returnWord) :
    Reads (Parser.statement p) s statement r ↔
      ∃ value m, Reads (p .lowest) s.next value m ∧ statement = .returnStmt s.current value ∧
        r = if m.current.kind = .semicolon then m.next else m := by
  simp only [Parser.statement, reads_peek_bind, h, reads_take_bind]
  simp

/-- A statement that begins with neither keyword is an expression. -/
lemma reads_statement_of_ne {statement : Stmt} (hlet : s.current.kind ≠ .letWord)
    (hreturn : s.current.kind ≠ .returnWord) :
    Reads (Parser.statement p) s statement r ↔ ∃ value m, Reads (p .lowest) s value m ∧
      statement = .exprStmt s.current value ∧
      r = if m.current.kind = .semicolon then m.next else m := by
  simp only [Parser.statement, reads_peek_bind]
  simp

/-! ## Blocks -/

/-- The statements of a block stand between an opening brace and whatever token comes then. -/
lemma reads_bracedBlock {b : Block} : Reads (bracedBlock p depth) s b r ↔
    s.current.kind = .lbrace ∧ ∃ statements m,
      Reads (statementsUpTo (statement p) (· = .rbrace) depth) s.next statements m ∧
        b = .mk s.current statements ∧ r = m.next := by
  by_cases h : s.current.kind = .lbrace
  · simp [bracedBlock, block, h]
  · simp [bracedBlock, h]

lemma reads_alternative {b : Option Block} : Reads (alternative p depth) s b r ↔
    if s.current.kind = .elseWord then
      ∃ body, Reads (bracedBlock p depth) s.next body r ∧ b = some body
    else b = none ∧ r = s := by
  by_cases h : s.current.kind = .elseWord
  · simp [alternative, h]
  · simp [alternative, h]

/-! ## Operands -/

/-- The forms of operands. -/
inductive OperandAt (p : Precedence → Parser Expr) (depth : Nat) (s : TokenStream) :
    Expr → TokenStream → Prop where
  | ident (word : s.current.kind = .ident) :
      OperandAt p depth s (.ident (.ofToken s.current)) s.next
  | int (digits : s.current.kind = .int)
      (range : Text.ofDigits s.current.literal.toList < Nat.pow 2 63) :
      OperandAt p depth s
        (.integer s.current (.ofNat (Text.ofDigits s.current.literal.toList))) s.next
  | string (quoted : s.current.kind = .string) :
      OperandAt p depth s (.string s.current s.current.literal) s.next
  | trueWord (word : s.current.kind = .trueWord) :
      OperandAt p depth s (.boolean s.current true) s.next
  | falseWord (word : s.current.kind = .falseWord) :
      OperandAt p depth s (.boolean s.current false) s.next
  | unary {e : Expr} {r : TokenStream} (op : UnaryOp)
      (sign : UnaryOp.ofKind? s.current.kind = some op) (operand : Reads (p .unary) s.next e r) :
      OperandAt p depth s (.unary s.current op e) r
  | grouped {e : Expr} {r : TokenStream} (lparen : s.current.kind = .lparen)
      (inner : Reads (p .lowest) s.next e r) (rparen : r.current.kind = .rparen) :
      OperandAt p depth s e r.next
  | conditional {condition : Expr} {consequence : Block} {other : Option Block}
      {m m' r : TokenStream} (word : s.current.kind = .ifWord)
      (opening : s.next.current.kind = .lparen)
      (first : Reads (p .lowest) s.next.next condition m) (closing : m.current.kind = .rparen)
      (second : Reads (bracedBlock p depth) m.next consequence m')
      (third : Reads (alternative p depth) m' other r) :
      OperandAt p depth s (.conditional s.current condition consequence other) r
  | function {parameters : List Ident} {body : Block} {m r : TokenStream}
      (word : s.current.kind = .function) (opening : s.next.current.kind = .lparen)
      (first : Reads (delimited parameter .rparen depth) s.next.next parameters m)
      (second : Reads (bracedBlock p depth) m body r) :
      OperandAt p depth s (.function s.current parameters body) r
  | array {elements : List Expr} {r : TokenStream} (lbracket : s.current.kind = .lbracket)
      (items : Reads (delimited (p .lowest) .rbracket depth) s.next elements r) :
      OperandAt p depth s (.array s.current elements) r
  | hash {pairs : List (Expr × Expr)} {r : TokenStream} (brace : s.current.kind = .lbrace)
      (items : Reads (pairsUpTo (p .lowest) depth) s.next pairs r) :
      OperandAt p depth s (.hash s.current pairs) r

lemma UnaryOp.kind_of_ofKind {k : TokenKind} {op : UnaryOp} (sign : UnaryOp.ofKind? k = some op) :
    op = .bang ∧ k = .bang ∨ op = .minus ∧ k = .minus := by
  revert sign
  cases k <;> simp [UnaryOp.ofKind?, eq_comm]

lemma operandAt_of_reads {e : Expr} (h : Reads (operand p depth) s e r) :
    OperandAt p depth s e r := by
  simp only [operand, reads_peek_bind] at h
  split at h
  case h_1 hkind =>
    simp only [reads_take_bind, reads_pure] at h
    obtain ⟨rfl, rfl⟩ := h
    exact .ident hkind
  case h_2 hkind =>
    by_cases hrange : Text.ofDigits s.current.literal.toList < Nat.pow 2 63
    · simp only [integerOfLiteral?, if_pos hrange, reads_take_bind, reads_pure] at h
      obtain ⟨rfl, rfl⟩ := h
      exact .int hkind hrange
    · simp only [integerOfLiteral?, if_neg hrange, not_reads_rejectPast] at h
  case h_3 hkind =>
    simp only [reads_take_bind, reads_pure] at h
    obtain ⟨rfl, rfl⟩ := h
    exact .string hkind
  case h_4 hkind =>
    simp only [reads_take_bind, reads_pure] at h
    obtain ⟨rfl, rfl⟩ := h
    exact .trueWord hkind
  case h_5 hkind =>
    simp only [reads_take_bind, reads_pure] at h
    obtain ⟨rfl, rfl⟩ := h
    exact .falseWord hkind
  case h_6 hkind =>
    simp only [reads_take_bind] at h
    obtain ⟨inner, m, hread, h⟩ := reads_bind.1 h
    obtain ⟨rfl, rfl⟩ := reads_pure.1 h
    exact .unary .bang (by rw [hkind]; rfl) hread
  case h_7 hkind =>
    simp only [reads_take_bind] at h
    obtain ⟨inner, m, hread, h⟩ := reads_bind.1 h
    obtain ⟨rfl, rfl⟩ := reads_pure.1 h
    exact .unary .minus (by rw [hkind]; rfl) hread
  case h_8 hkind =>
    simp only [reads_take_bind] at h
    obtain ⟨inner, m, hread, h⟩ := reads_bind.1 h
    simp only [reads_expect_bind, reads_pure] at h
    obtain ⟨hclose, rfl, rfl⟩ := h
    exact .grouped hkind hread hclose
  case h_9 hkind =>
    simp only [reads_take_bind, reads_expect_bind] at h
    obtain ⟨hopening, h⟩ := h
    obtain ⟨condition, m, hcondition, h⟩ := reads_bind.1 h
    simp only [reads_expect_bind] at h
    obtain ⟨hclosing, h⟩ := h
    obtain ⟨consequence, m', hconsequence, h⟩ := reads_bind.1 h
    obtain ⟨other, m'', hother, h⟩ := reads_bind.1 h
    obtain ⟨rfl, rfl⟩ := reads_pure.1 h
    exact .conditional hkind hopening hcondition hclosing hconsequence hother
  case h_10 hkind =>
    simp only [reads_take_bind, reads_expect_bind] at h
    obtain ⟨hopening, h⟩ := h
    obtain ⟨parameters, m, hparameters, h⟩ := reads_bind.1 h
    obtain ⟨body, m', hbody, h⟩ := reads_bind.1 h
    obtain ⟨rfl, rfl⟩ := reads_pure.1 h
    exact .function hkind hopening hparameters hbody
  case h_11 hkind =>
    simp only [reads_take_bind] at h
    obtain ⟨elements, m, helements, h⟩ := reads_bind.1 h
    obtain ⟨rfl, rfl⟩ := reads_pure.1 h
    exact .array hkind helements
  case h_12 hkind =>
    simp only [reads_take_bind] at h
    obtain ⟨pairs, m, hpairs, h⟩ := reads_bind.1 h
    obtain ⟨rfl, rfl⟩ := reads_pure.1 h
    exact .hash hkind hpairs
  case h_13 => exact (not_reads_rejectPast h).elim

lemma reads_of_operandAt {e : Expr} (h : OperandAt p depth s e r) :
    Reads (operand p depth) s e r := by
  rw [operand, reads_peek_bind]
  cases h with
  | ident word =>
    simp only [word]
    simp
  | int digits range =>
    simp only [digits, integerOfLiteral?, if_pos range]
    simp
  | string quoted =>
    simp only [quoted]
    simp
  | trueWord word =>
    simp only [word]
    simp
  | falseWord word =>
    simp only [word]
    simp
  | unary op sign operand =>
    obtain ⟨rfl, hkind⟩ | ⟨rfl, hkind⟩ := UnaryOp.kind_of_ofKind sign
    · simp only [hkind, reads_take_bind]
      exact reads_bind.2 ⟨_, _, operand, reads_pure.2 ⟨rfl, rfl⟩⟩
    · simp only [hkind, reads_take_bind]
      exact reads_bind.2 ⟨_, _, operand, reads_pure.2 ⟨rfl, rfl⟩⟩
  | grouped lparen inner rparen =>
    simp only [lparen, reads_take_bind]
    refine reads_bind.2 ⟨_, _, inner, ?_⟩
    exact reads_expect_bind.2 ⟨rparen, reads_pure.2 ⟨rfl, rfl⟩⟩
  | conditional word opening first closing second third =>
    simp only [word, reads_take_bind, reads_expect_bind, opening, true_and]
    refine reads_bind.2 ⟨_, _, first, reads_expect_bind.2 ⟨closing, ?_⟩⟩
    refine reads_bind.2 ⟨_, _, second, ?_⟩
    exact reads_bind.2 ⟨_, _, third, reads_pure.2 ⟨rfl, rfl⟩⟩
  | function word opening first second =>
    simp only [word, reads_take_bind, reads_expect_bind, opening, true_and]
    refine reads_bind.2 ⟨_, _, first, ?_⟩
    exact reads_bind.2 ⟨_, _, second, reads_pure.2 ⟨rfl, rfl⟩⟩
  | array lbracket items =>
    simp only [lbracket, reads_take_bind]
    exact reads_bind.2 ⟨_, _, items, reads_pure.2 ⟨rfl, rfl⟩⟩
  | hash brace items =>
    simp only [brace, reads_take_bind]
    exact reads_bind.2 ⟨_, _, items, reads_pure.2 ⟨rfl, rfl⟩⟩

/-- The parser of operands reads the forms of operands. -/
theorem reads_operand {e : Expr} : Reads (operand p depth) s e r ↔ OperandAt p depth s e r :=
  ⟨operandAt_of_reads, reads_of_operandAt⟩

/-! ## Continuations -/

section

variable {left e : Expr}

lemma reads_continued_call : Reads (continued p depth left .call) s e r ↔
    ∃ arguments, Reads (delimited (p .lowest) .rparen depth) s.next arguments r ∧
      e = .call s.current left arguments := by
  simp [continued]

lemma reads_continued_index : Reads (continued p depth left .index) s e r ↔
    ∃ position m, Reads (p .lowest) s.next position m ∧ m.current.kind = .rbracket ∧
      e = .index s.current left position ∧ r = m.next := by
  simp [continued]

lemma reads_continued_binary {op : BinaryOp} : Reads (continued p depth left (.binary op)) s e r ↔
    ∃ right, Reads (p op.precedence) s.next right r ∧ e = .binary s.current left op right := by
  simp [continued]

end

end Parser

end MonkeyLang
