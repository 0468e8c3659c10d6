import MonkeyLang.Proofs.Syntax.Forms
import MonkeyLang.Proofs.Syntax.Unambiguity

/-!
# What the grammar derives can be read

Every derivation that ends where its nonterminal stops is followed by the parser of the
nonterminal, which reads its tree.  The parser of expressions loops over continuations with one
floor, where the grammar nests one tier in the other; the two meet in `Climbs`: whatever the loop
reads behind an expression, it reads from the first operand of the expression as well.
-/

namespace MonkeyLang

namespace Grammar

open MonkeyLang.Parser

/-! ## Lengths -/

/-- The fewest tokens of a derivation. -/
def Nonterminal.least : Nonterminal → Nat
  | statements | alternative | chain _ | suffixes => 0
  | _ => 1

/-- A derivation uses up as many tokens as it needs at least. -/
lemma Derivation.length_add_least_le {A : Nonterminal} {s r : List Token}
    (d : Derivation A s r) : r.length + A.least ≤ s.length := by
  induction d <;> simp only [Nonterminal.least, List.length_cons] at * <;> omega

/-! ## The loop over continuations -/

@[simp] lemma kind_current_mk (s : List Token) (size : Nat) :
    (TokenStream.mk s size).current.kind = firstKind s := by
  cases s <;> rfl

section

variable {size depth : Nat} {floor : Precedence} {left e e' : Expr} {s m : List Token}
  {r : TokenStream} {t : Token}

/-- Behind an expression, the loop reads a larger one, however much fuel it has to spare. -/
def Climbs (size depth : Nat) (floor : Precedence) (left : Expr) (s : List Token) (e : Expr)
    (r : TokenStream) : Prop :=
  ∀ n, s.length < n → Reads (climb (expression depth) floor n left) ⟨s, size⟩ e r

/-- The loop ends before a token that binds no more strongly than the floor. -/
lemma climbs_stop (h : ¬ floor < Precedence.ofKind (firstKind s)) :
    Climbs size depth floor e s e ⟨s, size⟩ := by
  intro n hn
  obtain _ | n := n
  · simp at hn
  · simp only [climb, reads_peek_bind, kind_current_mk]
    cases hc : Continuation.ofKind? (firstKind s) with
    | none => simp
    | some c =>
      have hfloor : ¬ floor < c.precedence := by simpa [Precedence.ofKind, hc] using h
      simp [hfloor]

/-- The loop takes a continuation that binds more strongly than the floor. -/
lemma climbs_step {c : Continuation} (hc : Continuation.ofKind? t.kind = some c)
    (hfloor : floor < c.precedence)
    (hread : ∀ n, s.length < n →
      Reads (continued (expression depth) n left c) ⟨t :: s, size⟩ e ⟨m, size⟩)
    (hlength : m.length ≤ s.length) (h : Climbs size depth floor e m e' r) :
    Climbs size depth floor left (t :: s) e' r := by
  intro n hn
  obtain _ | n := n
  · simp at hn
  · have hn' : s.length < n := by simpa using hn
    simp only [climb, reads_peek_bind, kind_current_mk, firstKind_cons, hc, if_pos hfloor]
    rw [reads_bind]
    exact ⟨e, _, hread n hn', h n (Nat.lt_of_le_of_lt hlength hn')⟩

/-- An expression is its first operand and what the loop reads behind it. -/
lemma reads_expression (hread : Reads (operand (expression depth) depth) ⟨s, size⟩ left ⟨m, size⟩)
    (hlength : m.length < depth) (h : Climbs size depth floor left m e r) :
    Reads (expression (depth + 1) floor) ⟨s, size⟩ e r := by
  rw [expression, reads_bind]
  exact ⟨left, _, hread, h depth hlength⟩

end

/-! ## What it takes to follow a derivation -/

/-- The parser of a nonterminal reads a tree from the tokens of `s` up to `r`, if its bounds exceed
the number of tokens.  What follows an operand is read behind any operand; what follows the first
item of a list is read behind any parser that reads such an item. -/
def Readable (size : Nat) (s r : List Token) : (A : Nonterminal) → A.Tree → Prop
  | .statements, tree => ∀ (closes : TokenKind → Bool) (depth n : Nat),
    (∀ k, closes k = true → k = .rbrace) → (firstKind r = .eof ∨ closes (firstKind r) = true) →
    s.length < depth → s.length < n →
    Reads (statementsUpTo (statement (expression depth)) closes n) ⟨s, size⟩ tree ⟨r, size⟩
  | .statement, tree => ∀ depth, s.length < depth →
    Reads (statement (expression depth)) ⟨s, size⟩ tree
      (if firstKind r = .semicolon then ⟨r.tail, size⟩ else ⟨r, size⟩)
  | .block, tree => ∀ depth, s.length < depth →
    Reads (bracedBlock (expression depth) depth) ⟨s, size⟩ tree ⟨r, size⟩
  | .alternative, tree => ∀ depth, s.length < depth →
    Reads (alternative (expression depth) depth) ⟨s, size⟩ tree ⟨r, size⟩
  | .expr level, tree => ∀ depth floor e m, s.length ≤ depth → floor < level.strength →
    Climbs size depth floor tree r e m → Reads (expression (depth + 1) floor) ⟨s, size⟩ e m
  | .chain tier, tree => ∀ depth floor left e m, s.length ≤ depth → floor < tier.strength →
    Climbs size depth floor (tree left) r e m → Climbs size depth floor left s e m
  | .suffixes, tree => ∀ depth floor left e m, s.length ≤ depth → floor < .call →
    Climbs size depth floor (tree left) r e m → Climbs size depth floor left s e m
  | .primary, tree => ∀ depth, s.length ≤ depth →
    Reads (operand (expression depth) depth) ⟨s, size⟩ tree ⟨r, size⟩
  | .arguments bracket, tree => ∀ depth n, s.length < depth → s.length < n →
    Reads (delimited (expression depth .lowest) bracket.close n) ⟨s, size⟩ tree ⟨r, size⟩
  | .moreArguments bracket, tree => ∀ depth n first m, s.length < depth → s.length < n →
    Reads (expression depth .lowest) m first ⟨s, size⟩ →
    Reads (itemsUpTo (expression depth .lowest) bracket.close n) m (first :: tree) ⟨r, size⟩
  | .parameters, tree => ∀ n, s.length < n →
    Reads (delimited parameter .rparen n) ⟨s, size⟩ tree ⟨r, size⟩
  | .moreParameters, tree => ∀ n first m, s.length < n → Reads parameter m first ⟨s, size⟩ →
    Reads (itemsUpTo parameter .rparen n) m (first :: tree) ⟨r, size⟩
  | .pairs, tree => ∀ depth n, s.length < depth → s.length < n →
    Reads (pairsUpTo (expression depth .lowest) n) ⟨s, size⟩ tree ⟨r, size⟩
  | .morePairs, tree => ∀ depth n key value m m', s.length < depth → s.length < n →
    m.current.kind ≠ .rbrace → Reads (expression depth .lowest) m key m' →
    m'.current.kind = .colon → Reads (expression depth .lowest) m'.next value ⟨s, size⟩ →
    Reads (pairsUpTo (expression depth .lowest) n) m ((key, value) :: tree) ⟨r, size⟩

section

variable {size : Nat} {s r : List Token} (depth : Nat)

/-- A readable expression is read up to where it stops. -/
lemma reads_of_readable {level : Level} {e : Expr} (floor : Precedence)
    (h : Readable size s r (.expr level) e) (hfloor : floor < level.strength)
    (hstop : ¬ floor < Precedence.ofKind (firstKind r)) (hdepth : s.length < depth) :
    Reads (expression depth floor) ⟨s, size⟩ e ⟨r, size⟩ := by
  obtain _ | depth := depth
  · simp at hdepth
  · exact h depth floor e _ (Nat.le_of_lt_succ hdepth) hfloor (climbs_stop hstop)

/-- A readable expression is read up to where it stops, if it stands by itself. -/
lemma reads_expression_of_readable {e : Expr}
    (h : Readable size s r .expression e)
    (hstop : Nonterminal.expression.Stops (firstKind r)) (hdepth : s.length < depth) :
    Reads (expression depth .lowest) ⟨s, size⟩ e ⟨r, size⟩ := by
  refine reads_of_readable depth .lowest h (by decide) ?_ hdepth
  intro hlt
  exact absurd hstop.1 (Nat.not_lt.2 (Nat.succ_le_of_lt hlt))

/-- The right operand of a sign of a tier is read up to where it stops. -/
lemma reads_operand_of_readable {tier : Tier} {e : Expr}
    (h : Readable size s r (.expr tier.operand) e)
    (hstop : (Nonterminal.expr tier.operand).Stops (firstKind r)) (hdepth : s.length < depth) :
    Reads (expression depth tier.strength) ⟨s, size⟩ e ⟨r, size⟩ := by
  refine reads_of_readable depth tier.strength h tier.strength_lt_operand ?_ hdepth
  have hlt := hstop.1
  revert hlt
  generalize firstKind r = k
  cases tier <;> cases k <;> decide

end

/-- A statement does not begin where statements are closed. -/
lemma Derivation.not_ends {size : Nat} {s r : List Token} (d : Derivation .statement s r)
    {closes : TokenKind → Bool} (hcloses : ∀ k, closes k = true → k = .rbrace) :
    ¬ ((TokenStream.mk s size).current.kind = .eof ∨
      closes (TokenStream.mk s size).current.kind = true) := by
  rw [kind_current_mk]
  intro h
  exact d.not_statement_of_stops (h.imp id (hcloses _))

/-- A semicolon that closes a statement is the first of the tokens behind it. -/
lemma skip_semicolon_mk {size : Nat} {r : List Token} :
    (if (TokenStream.mk r size).current.kind = .semicolon then (TokenStream.mk r size).next
      else ⟨r, size⟩) = if firstKind r = .semicolon then ⟨r.tail, size⟩ else ⟨r, size⟩ := by
  rw [kind_current_mk]
  rfl

/-- A sign of a tier begins a continuation with its operator. -/
lemma Tier.continuation_of_mem {tier : Tier} {k : TokenKind} {op : BinaryOp}
    (sign : BinaryOp.ofKind? k = some op) (member : op ∈ tier.operators) :
    Continuation.ofKind? k = some (.binary op) ∧ op.precedence = tier.strength := by
  constructor
  · revert sign
    cases k <;> simp [BinaryOp.ofKind?, Continuation.ofKind?]
  · revert member
    cases tier <;> cases op <;> decide

lemma reads_parameter_cons {size : Nat} {t : Token} {s : List Token} (h : t.kind = .ident) :
    Reads parameter ⟨t :: s, size⟩ (.ofToken t) ⟨s, size⟩ := by
  simp [parameter, h]

/-- Every derivation that ends where its nonterminal stops is followed by the parser. -/
theorem Derivation.readable (size : Nat) {A : Nonterminal} {s r : List Token}
    (d : Derivation A s r) (h : A.Stops (firstKind r)) : Readable size s r A d.tree := by
  induction d with
  | noStatement =>
    intro closes depth n _ hr _ hn
    refine reads_statementsUpTo_nil ?_ (Nat.zero_lt_of_lt hn)
    rwa [kind_current_mk]
  | closedStatement first semicolon others ihfirst ihothers =>
    intro closes depth n hcloses hr hdepth hn
    have hlength := first.length_add_least_le
    simp only [Nonterminal.least, List.length_cons] at hlength
    have hread := ihfirst (stops_semicolon semicolon) depth hdepth
    rw [firstKind_cons, if_pos semicolon, List.tail_cons] at hread
    have hmore := ihothers h closes depth (n - 1) hcloses hr (by omega) (by omega)
    exact reads_statementsUpTo_cons (first.not_ends hcloses) hread hmore (by omega)
  | openStatement first separate others ihfirst ihothers =>
    intro closes depth n hcloses hr hdepth hn
    have hlength := first.length_add_least_le
    simp only [Nonterminal.least] at hlength
    obtain ⟨hstop, hne⟩ := others.stops_statement h separate
    have hread := ihfirst hstop depth hdepth
    rw [if_neg hne] at hread
    have hmore := ihothers h closes depth (n - 1) hcloses hr (by omega) (by omega)
    exact reads_statementsUpTo_cons (first.not_ends hcloses) hread hmore (by omega)
  | letStatement word name assign value ih =>
    intro depth hdepth
    simp only [List.length_cons] at hdepth
    have hstop := stops_of_statement h
    have hread := reads_expression_of_readable depth (ih hstop) hstop (by omega)
    rw [← skip_semicolon_mk]
    refine (reads_statement_let ?_).2 ⟨name, assign, _, _, hread, rfl, rfl⟩
    exact word
  | returnStatement word value ih =>
    intro depth hdepth
    simp only [List.length_cons] at hdepth
    have hstop := stops_of_statement h
    have hread := reads_expression_of_readable depth (ih hstop) hstop (by omega)
    rw [← skip_semicolon_mk]
    refine (reads_statement_return ?_).2 ⟨_, _, hread, rfl, rfl⟩
    exact word
  | exprStatement value ih =>
    intro depth hdepth
    have hstop := stops_of_statement h
    have hread := reads_expression_of_readable depth (ih hstop) hstop hdepth
    have hlet := value.firstKind_expression_ne (k := .letWord) (by simp)
    have hreturn := value.firstKind_expression_ne (k := .returnWord) (by simp)
    rw [← skip_semicolon_mk]
    exact (reads_statement_of_ne (s := ⟨_ :: _, size⟩) hlet hreturn).2 ⟨_, _, hread, rfl, rfl⟩
  | closedBlock brace body rbrace ih =>
    intro depth hdepth
    simp only [List.length_cons] at hdepth
    have hread := ih (.inr rbrace) (· = .rbrace) depth depth (by simp) (.inr (by simp [rbrace]))
      (by omega) (by omega)
    exact reads_bracedBlock.2 ⟨brace, _, _, hread, rfl, rfl⟩
  | openBlock brace body ih =>
    intro depth hdepth
    simp only [List.length_cons] at hdepth
    have hread := ih (.inl rfl) (· = .rbrace) depth depth (by simp) (.inl rfl) (by omega) (by omega)
    exact reads_bracedBlock.2 ⟨brace, _, _, hread, rfl, rfl⟩
  | noAlternative =>
    intro depth _
    have hne : ¬ firstKind _ = .elseWord := h
    rw [reads_alternative, kind_current_mk, if_neg hne]
    exact ⟨rfl, rfl⟩
  | elseBlock word body ih =>
    intro depth hdepth
    simp only [List.length_cons] at hdepth
    rw [reads_alternative, TokenStream.current_cons, if_pos word]
    exact ⟨_, ih trivial depth (by omega), rfl⟩
  | binary first others ihfirst ihothers =>
    intro depth floor e m hdepth hfloor hclimb
    have hlength := first.length_add_least_le
    exact ihfirst (others.stops_operand h) depth floor e m hdepth
      (Nat.lt_trans hfloor (Tier.strength_lt_operand _))
      (ihothers h depth floor _ e m (by omega) hfloor hclimb)
  | chainEnd =>
    intro depth floor left e m _ _ hclimb
    exact hclimb
  | chainStep op sign member operand others ihoperand ihothers =>
    intro depth floor left e m hdepth hfloor hclimb
    obtain ⟨hc, hstrength⟩ := Tier.continuation_of_mem sign member
    have hstop := others.stops_operand h
    have hlength := operand.length_add_least_le
    rw [List.length_cons] at hdepth
    refine climbs_step hc (by rwa [Continuation.precedence, hstrength]) (fun n _ => ?_) (by omega)
      (ihothers h depth floor _ e m (by omega) hfloor hclimb)
    have hread := reads_operand_of_readable depth (ihoperand hstop) hstop (by omega)
    rw [reads_continued_binary, hstrength]
    exact ⟨_, hread, rfl⟩
  | unary op sign operand ih =>
    intro depth floor e m hdepth hfloor hclimb
    have hlength := operand.length_add_least_le
    simp only [List.length_cons] at hdepth
    have hread := reads_of_readable depth .unary (ih h) (by decide)
      (Nat.not_lt.2 (Nat.le_of_lt_succ h.1)) (by omega)
    exact reads_expression (reads_operand.2 (.unary op sign hread)) (by omega) hclimb
  | noUnary operand ih =>
    intro depth floor e m hdepth hfloor hclimb
    exact ih h depth floor e m hdepth hfloor hclimb
  | suffixed base others ihbase ihothers =>
    intro depth floor e m hdepth hfloor hclimb
    have hlength := base.length_add_least_le
    simp only [Nonterminal.least] at hlength
    exact reads_expression (ihbase (others.stops_primary h) depth hdepth) (by omega)
      (ihothers h.1 depth floor _ e m (by omega) hfloor hclimb)
  | suffixEnd =>
    intro depth floor left e m _ _ hclimb
    exact hclimb
  | call lparen arguments others iharguments ihothers =>
    intro depth floor left e m hdepth hfloor hclimb
    have hlength := arguments.length_add_least_le
    rw [List.length_cons] at hdepth
    refine climbs_step (c := .call) (by rw [lparen]; rfl) hfloor (fun n hn => ?_) (by omega)
      (ihothers h depth floor _ e m (by omega) hfloor hclimb)
    exact reads_continued_call.2 ⟨_, iharguments trivial depth n (by omega) hn, rfl⟩
  | index lbracket position rbracket others ihposition ihothers =>
    intro depth floor left e m hdepth hfloor hclimb
    have hlength := position.length_add_least_le
    simp only [List.length_cons] at hdepth hlength
    refine climbs_step (c := .index) (by rw [lbracket]; rfl)
      (Nat.lt_trans hfloor (Nat.lt_succ_self _)) (fun n hn => ?_) (by omega)
      (ihothers h depth floor _ e m (by omega) hfloor hclimb)
    have hstop := stops_closing rbracket (by simp)
    have hread := reads_expression_of_readable depth (ihposition hstop) hstop (by omega)
    exact reads_continued_index.2 ⟨_, _, hread, rbracket, rfl, rfl⟩
  | ident word => exact fun _ _ => reads_operand.2 (.ident word)
  | int digits range => exact fun _ _ => reads_operand.2 (.int digits (Nat.lt_succ_of_le range))
  | string quoted => exact fun _ _ => reads_operand.2 (.string quoted)
  | trueWord word => exact fun _ _ => reads_operand.2 (.trueWord word)
  | falseWord word => exact fun _ _ => reads_operand.2 (.falseWord word)
  | grouped lparen inner rparen ih =>
    intro depth hdepth
    simp only [List.length_cons] at hdepth
    have hstop := stops_closing rparen (by simp)
    have hread := reads_expression_of_readable depth (ih hstop) hstop (by omega)
    exact reads_operand.2 (.grouped (r := ⟨_ :: _, size⟩) lparen hread rparen)
  | conditional word opening condition closing consequence alternative ihcondition
      ihconsequence ihalternative =>
    intro depth hdepth
    have hcondition := condition.length_add_least_le
    have hconsequence := consequence.length_add_least_le
    simp only [List.length_cons] at hdepth hcondition
    have hstop := stops_closing closing (by simp)
    have hread := reads_expression_of_readable depth (ihcondition hstop) hstop (by omega)
    have hblock := ihconsequence trivial depth (by omega)
    have hother := ihalternative h depth (by omega)
    exact reads_operand.2 (.conditional word opening hread closing hblock hother)
  | function word opening parameters body ihparameters ihbody =>
    intro depth hdepth
    have hparameters := parameters.length_add_least_le
    simp only [List.length_cons] at hdepth
    have hnames := ihparameters trivial depth (by omega)
    have hblock := ihbody trivial depth (by omega)
    exact reads_operand.2 (.function word opening hnames hblock)
  | array lbracket elements ih =>
    intro depth hdepth
    simp only [List.length_cons] at hdepth
    exact reads_operand.2 (.array lbracket (ih trivial depth depth (by omega) (by omega)))
  | hash brace pairs ih =>
    intro depth hdepth
    simp only [List.length_cons] at hdepth
    exact reads_operand.2 (.hash brace (ih trivial depth depth (by omega) (by omega)))
  | noArgument closing => exact fun _ _ _ _ => reads_delimited_nil closing
  | someArguments first others ihfirst ihothers =>
    intro depth n hdepth hn
    have hlength := first.length_add_least_le
    have hread := reads_expression_of_readable depth (ihfirst others.stops_argument)
      others.stops_argument hdepth
    rw [reads_delimited, kind_current_mk,
      if_neg (first.firstKind_expression_ne (Bracket.close_mem _))]
    exact ihothers trivial depth n _ _ (by omega) (by omega) hread
  | argumentsEnd closing =>
    intro depth n first m _ hn hread
    exact hread.lastItem closing (Bracket.close_ne_comma _) (Nat.zero_lt_of_lt hn)
  | nextArgument comma next others ihnext ihothers =>
    intro depth n first m hdepth hn hread
    have hlength := next.length_add_least_le
    simp only [List.length_cons] at hdepth hn
    have hnext := reads_expression_of_readable depth (ihnext others.stops_argument)
      others.stops_argument (by omega)
    have hmore := ihothers trivial depth (n - 1) _ _ (by omega) (by omega) hnext
    exact hread.nextItem comma hmore (by omega)
  | noParameter closing => exact fun _ _ => reads_delimited_nil closing
  | someParameters first others ih =>
    intro n hn
    simp only [List.length_cons] at hn
    rw [reads_delimited, TokenStream.current_cons, first, if_neg (by decide)]
    exact ih trivial n _ _ (by omega) (reads_parameter_cons first)
  | parametersEnd closing =>
    intro n first m hn hread
    exact hread.lastItem closing (by decide) (Nat.zero_lt_of_lt hn)
  | nextParameter sign next others ih =>
    intro n first m hn hread
    simp only [List.length_cons] at hn
    have hmore := ih trivial (n - 1) _ _ (by omega) (reads_parameter_cons next)
    exact hread.nextItem sign hmore (by omega)
  | noPair closing =>
    intro depth n _ hn
    exact reads_pairsUpTo_nil closing (Nat.zero_lt_of_lt hn)
  | somePairs key sign value others ihkey ihvalue ihothers =>
    intro depth n hdepth hn
    have hkey := key.length_add_least_le
    have hvalue := value.length_add_least_le
    simp only [List.length_cons] at hkey
    have hstop := stops_closing sign (by simp)
    have hfirst := reads_expression_of_readable depth (ihkey hstop) hstop hdepth
    have hsecond := reads_expression_of_readable depth (ihvalue others.stops_pair)
      others.stops_pair (by omega)
    refine ihothers trivial depth n _ _ _ _ (by omega) (by omega) ?_ hfirst sign hsecond
    rw [kind_current_mk]
    exact key.firstKind_expression_ne (by simp)
  | pairsEnd closing =>
    intro depth n key value m m' hdepth hn hne hkey hcolon hvalue
    simp only [List.length_cons] at hn
    exact reads_pairsUpTo_last hne hkey hcolon hvalue closing (by omega)
  | @pairsEndComma comma t r sign closing =>
    intro depth n key value m m' hdepth hn hne hkey hcolon hvalue
    simp only [List.length_cons] at hn
    have hend : Reads (pairsUpTo (expression depth .lowest) (n - 1)) ⟨t :: r, size⟩ [] ⟨r, size⟩ :=
      reads_pairsUpTo_nil closing (by omega)
    exact reads_pairsUpTo_next hne hkey hcolon hvalue sign hend (by omega)
  | nextPair sign key between value others ihkey ihvalue ihothers =>
    intro depth n first second m m' hdepth hn hne hfirst hcolon hsecond
    have hkey := key.length_add_least_le
    have hvalue := value.length_add_least_le
    simp only [List.length_cons] at hkey hdepth hn
    have hstop := stops_closing between (by simp)
    have hkeyread := reads_expression_of_readable depth (ihkey hstop) hstop (by omega)
    have hvalueread := reads_expression_of_readable depth (ihvalue others.stops_pair)
      others.stops_pair (by omega)
    have hbegins := key.firstKind_expression_ne (k := .rbrace) (by simp)
    rw [← kind_current_mk _ size] at hbegins
    have hmore := ihothers trivial depth (n - 1) _ _ _ _ (by omega) (by omega) hbegins hkeyread
      between hvalueread
    exact reads_pairsUpTo_next hne hfirst hcolon hsecond sign hmore (by omega)

end Grammar

end MonkeyLang
