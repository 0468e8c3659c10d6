import MonkeyLang.Proofs.Syntax.Reads

/-!
# Reading ends

A parser whose bounds exceed the number of tokens that are left never uses them up, whether or not
what it reads is well formed.  `Parser.EndsWithin p s n` says this of one stream, and that at most
`n` tokens are left behind; every loop takes a token in each round, so the bounds of the loops fall
no faster than the tokens do.
-/

namespace MonkeyLang

namespace TokenStream

@[simp] lemma length_next (s : TokenStream) : s.next.tokens.length = s.tokens.length - 1 :=
  List.length_tail

lemma length_pos_of_kind {s : TokenStream} (h : s.current.kind ≠ .eof) : 0 < s.tokens.length := by
  rw [tokens_eq_of_kind rfl h]
  exact Nat.succ_pos _

end TokenStream

namespace Parser

open TokenStream

variable {α β : Type}

/-- The parser ends on a stream, with a value or with a rejection, and leaves no more than a number
of tokens. -/
def EndsWithin (p : Parser α) (s : TokenStream) (n : Nat) : Prop :=
  match p s with
  | .parsed _ r _ | .rejected r _ _ => r.tokens.length ≤ n
  | .exhausted => False

variable {s : TokenStream} {n m : Nat}

/-! ## Combinators -/

lemma EndsWithin.mono {p : Parser α} (h : EndsWithin p s n) (hle : n ≤ m) :
    EndsWithin p s m := by
  unfold EndsWithin at h ⊢
  split <;> simp_all only <;> exact Nat.le_trans h hle

@[simp] lemma endsWithin_pure {a : α} :
    EndsWithin (pure a) s n ↔ s.tokens.length ≤ n := Iff.rfl

@[simp] lemma endsWithin_reject {fault : ParseFault} :
    EndsWithin (reject fault : Parser α) s n ↔ s.tokens.length ≤ n := Iff.rfl

@[simp] lemma endsWithin_rejectPast {fault : ParseFault} :
    EndsWithin (rejectPast fault : Parser α) s n ↔ s.next.tokens.length ≤ n := Iff.rfl

/-- A sequence ends if its first part does, and its second part behind whatever the first leaves. -/
lemma EndsWithin.bind {p : Parser α} {f : α → Parser β} (hp : EndsWithin p s n)
    (hf : ∀ a r, r.tokens.length ≤ n → EndsWithin (f a) r m) (hle : n ≤ m) :
    EndsWithin (p >>= f) s m := by
  unfold EndsWithin at hp ⊢
  rw [bind_apply]
  cases hps : p s with
  | parsed a r found =>
    rw [hps] at hp
    have hfr := hf a r hp
    unfold EndsWithin at hfr
    rw [Reply.andThen]
    cases hfa : f a r <;> rw [hfa] at hfr <;> exact hfr
  | rejected r found error =>
    rw [hps] at hp
    exact Nat.le_trans hp hle
  | exhausted =>
    rw [hps] at hp
    exact hp

@[simp] lemma endsWithin_peek_bind {f : Token → Parser β} :
    EndsWithin (peek >>= f) s n ↔ EndsWithin (f s.current) s n := by
  rw [EndsWithin, peek_bind_apply, EndsWithin]

@[simp] lemma endsWithin_take_bind {f : Token → Parser β} :
    EndsWithin (take >>= f) s n ↔ EndsWithin (f s.current) s.next n := by
  rw [EndsWithin, take_bind_apply, EndsWithin]

/-- A parser that asks for a token ends if it does behind the token. -/
lemma endsWithin_expect_bind {k : TokenKind} {f : Token → Parser β}
    (hle : s.tokens.length ≤ n)
    (hf : s.current.kind = k → EndsWithin (f s.current) s.next n) :
    EndsWithin (expect k >>= f) s n := by
  unfold EndsWithin
  by_cases h : s.current.kind = k
  · rw [expect_bind_of_eq h]
    exact hf h
  · rw [expect_bind_of_ne h]
    exact hle

lemma endsWithin_skip {k : TokenKind} (hle : s.tokens.length ≤ n) :
    EndsWithin (skip k) s n := by
  rw [skip, endsWithin_peek_bind]
  split
  · rw [endsWithin_take_bind, endsWithin_pure, length_next]
    omega
  · exact hle

lemma EndsWithin.attempt {p : Parser α} (h : EndsWithin p s n) :
    EndsWithin (attempt p) s n := by
  unfold EndsWithin at h ⊢
  unfold Parser.attempt
  cases hp : p s <;> rw [hp] at h <;> exact h

/-! ## Lists -/

lemma endsWithin_itemsUpTo {item : Parser α} {close : TokenKind}
    (hitem : ∀ r : TokenStream, r.tokens.length ≤ m → EndsWithin item r r.tokens.length)
    (hm : s.tokens.length ≤ m) (hn : s.tokens.length < n) :
    EndsWithin (itemsUpTo item close n) s s.tokens.length := by
  induction n generalizing s with
  | zero => omega
  | succ n ih =>
    rw [itemsUpTo]
    refine (hitem s hm).bind (fun x r hr => ?_) (Nat.le_refl _)
    rw [endsWithin_peek_bind]
    by_cases hcomma : r.current.kind = .comma
    · have hpos := length_pos_of_kind (s := r) (by rw [hcomma]; decide)
      have hlength := length_next r
      have hrest := ih (s := r.next) (by omega) (by omega)
      rw [if_pos hcomma, endsWithin_take_bind]
      refine hrest.bind (fun xs u hu => ?_) (by omega)
      rw [endsWithin_pure]
      omega
    · rw [if_neg hcomma]
      refine endsWithin_expect_bind hr fun _ => ?_
      rw [endsWithin_pure, length_next]
      omega

lemma endsWithin_delimited {item : Parser α} {close : TokenKind}
    (hitem : ∀ r : TokenStream, r.tokens.length ≤ m → EndsWithin item r r.tokens.length)
    (hm : s.tokens.length ≤ m) (hn : s.tokens.length < n) :
    EndsWithin (delimited item close n) s s.tokens.length := by
  rw [delimited, endsWithin_peek_bind]
  split
  · rw [endsWithin_take_bind, endsWithin_pure, length_next]
    omega
  · exact endsWithin_itemsUpTo hitem hm hn

lemma endsWithin_pairsUpTo {p : Parser Expr}
    (hp : ∀ r : TokenStream, r.tokens.length ≤ m → EndsWithin p r r.tokens.length)
    (hm : s.tokens.length ≤ m) (hn : s.tokens.length < n) :
    EndsWithin (pairsUpTo p n) s s.tokens.length := by
  induction n generalizing s with
  | zero => omega
  | succ n ih =>
    rw [pairsUpTo, endsWithin_peek_bind]
    split
    · rw [endsWithin_take_bind, endsWithin_pure, length_next]
      omega
    · refine (hp s hm).bind (fun key r hr => ?_) (Nat.le_refl _)
      refine endsWithin_expect_bind hr fun hcolon => ?_
      -- The colon between a key and its value is the token that this round takes.
      have hpos := length_pos_of_kind (s := r) (by rw [hcolon]; decide)
      have hlength := length_next r
      refine (hp r.next (by omega)).bind (fun value r' hr' => ?_) (by omega)
      have hrest : ∀ u : TokenStream, u.tokens.length ≤ r'.tokens.length →
          EndsWithin (do return (key, value) :: (← pairsUpTo p n)) u s.tokens.length := by
        intro u hu
        have hpairs := ih (s := u) (by omega) (by omega)
        refine hpairs.bind (fun pairs u' hu' => ?_) (by omega)
        rw [endsWithin_pure]
        omega
      rw [endsWithin_peek_bind]
      split
      · refine endsWithin_expect_bind (by omega) fun _ => hrest _ ?_
        rw [length_next]
        omega
      · exact hrest r' (Nat.le_refl _)

lemma endsWithin_statementsUpTo {p : Parser Stmt} {closes : TokenKind → Bool}
    (hp : ∀ r : TokenStream, r.tokens.length ≤ m → EndsWithin p r (r.tokens.length - 1))
    (hm : s.tokens.length ≤ m) (hn : s.tokens.length < n) :
    EndsWithin (statementsUpTo p closes n) s s.tokens.length := by
  induction n generalizing s with
  | zero => omega
  | succ n ih =>
    rw [statementsUpTo, endsWithin_peek_bind]
    dsimp only
    split
    · exact Nat.le_refl _
    · next hend =>
      have hpos : 0 < s.tokens.length := by
        refine length_pos_of_kind fun heof => hend ?_
        rw [heof]
        rfl
      refine (hp s hm).attempt.bind (fun first r hr => ?_) (by omega)
      have hrest := ih (s := r) (by omega) (by omega)
      refine hrest.bind (fun more u hu => ?_) (by omega)
      rw [endsWithin_pure]
      omega

/-! ## Statements and blocks -/

/-- The parser of expressions ends on every stream of fewer tokens than a bound, and takes one. -/
def TotalExpr (p : Precedence → Parser Expr) (depth : Nat) : Prop :=
  ∀ floor s, s.tokens.length < depth → EndsWithin (p floor) s (s.tokens.length - 1)

section

variable {p : Precedence → Parser Expr} {depth : Nat}

lemma TotalExpr.le (hp : TotalExpr p depth) (floor : Precedence) (hs : s.tokens.length < depth) :
    EndsWithin (p floor) s s.tokens.length :=
  (hp floor s hs).mono (Nat.sub_le _ _)

/-- A value and the semicolon that may stand behind it. -/
lemma endsWithin_closed {f : Expr → Stmt} (hp : TotalExpr p depth)
    (hs : s.tokens.length < depth) :
    EndsWithin (do let value ← p .lowest; skip .semicolon; return f value) s
      (s.tokens.length - 1) := by
  refine (hp .lowest s hs).bind (fun value r hr => ?_) (Nat.le_refl _)
  exact (endsWithin_skip hr).bind (fun _ u hu => hu) (Nat.le_refl _)

lemma endsWithin_statement (hp : TotalExpr p depth) (hs : s.tokens.length < depth) :
    EndsWithin (statement p) s (s.tokens.length - 1) := by
  have hlength := length_next s
  rw [statement, endsWithin_peek_bind]
  split
  · rw [endsWithin_take_bind]
    refine endsWithin_expect_bind (by omega) fun _ => ?_
    refine endsWithin_expect_bind (by rw [length_next]; omega) fun _ => ?_
    have hnext := length_next s.next
    have hnext' := length_next s.next.next
    exact (endsWithin_closed hp (by omega)).mono (by omega)
  · rw [endsWithin_take_bind]
    exact (endsWithin_closed hp (by omega)).mono (by omega)
  · exact endsWithin_closed hp hs

lemma endsWithin_bracedBlock (hp : TotalExpr p depth) (hs : s.tokens.length < depth) :
    EndsWithin (bracedBlock p depth) s s.tokens.length := by
  have hlength := length_next s
  rw [bracedBlock, endsWithin_peek_bind]
  split
  · rw [block, endsWithin_take_bind]
    have hbody : EndsWithin (statementsUpTo (statement p) (· = .rbrace) depth) s.next
        s.next.tokens.length :=
      endsWithin_statementsUpTo (m := depth - 1) (fun r hr => endsWithin_statement hp (by omega))
        (by omega) (by omega)
    refine hbody.bind (fun statements r hr => ?_) (by omega)
    rw [endsWithin_take_bind, endsWithin_pure, length_next]
    omega
  · exact endsWithin_peek_bind.2 (endsWithin_reject.2 (Nat.le_refl _))

lemma endsWithin_alternative (hp : TotalExpr p depth) (hs : s.tokens.length < depth) :
    EndsWithin (alternative p depth) s s.tokens.length := by
  have hlength := length_next s
  rw [alternative, endsWithin_peek_bind]
  split
  · rw [endsWithin_take_bind]
    have hblock := endsWithin_bracedBlock (s := s.next) hp (by omega)
    refine hblock.bind (fun b r hr => ?_) (by omega)
    rw [endsWithin_pure]
    omega
  · exact Nat.le_refl _

/-! ## Expressions -/

lemma endsWithin_parameter : EndsWithin parameter s s.tokens.length := by
  have hlength := length_next s
  rw [parameter, endsWithin_peek_bind]
  split
  · rw [endsWithin_take_bind, endsWithin_pure]
    omega
  · rw [endsWithin_rejectPast]
    omega

/-- An operand is rejected behind its first token, or takes it. -/
lemma endsWithin_operand (hp : TotalExpr p depth) (hs : s.tokens.length ≤ depth) :
    EndsWithin (operand p depth) s (s.tokens.length - 1) := by
  have hlength := length_next s
  have hlength' := length_next s.next
  have htake : s.next.tokens.length ≤ s.tokens.length - 1 := by omega
  -- Forms that contain others begin with a token, so what is left has less than `depth` tokens.
  have hless : s.current.kind ≠ .eof → s.next.tokens.length < depth := by
    intro hne
    have hpos := length_pos_of_kind hne
    omega
  have hitem : ∀ r : TokenStream, r.tokens.length ≤ s.next.tokens.length →
      s.current.kind ≠ .eof → EndsWithin (p .lowest) r r.tokens.length := by
    intro r hr hne
    have hlt := hless hne
    exact hp.le .lowest (by omega)
  rw [operand, endsWithin_peek_bind]
  split
  case h_1 => rwa [endsWithin_take_bind, endsWithin_pure]
  case h_2 =>
    split
    · rwa [endsWithin_take_bind, endsWithin_pure]
    · rwa [endsWithin_rejectPast]
  case h_3 => rwa [endsWithin_take_bind, endsWithin_pure]
  case h_4 => rwa [endsWithin_take_bind, endsWithin_pure]
  case h_5 => rwa [endsWithin_take_bind, endsWithin_pure]
  case h_6 hkind =>
    have hoperand := hp.le .unary (hless (by rw [hkind]; decide))
    rw [endsWithin_take_bind]
    exact hoperand.bind (fun e r hr => by rw [endsWithin_pure]; omega) htake
  case h_7 hkind =>
    have hoperand := hp.le .unary (hless (by rw [hkind]; decide))
    rw [endsWithin_take_bind]
    exact hoperand.bind (fun e r hr => by rw [endsWithin_pure]; omega) htake
  case h_8 hkind =>
    have hinner := hp.le .lowest (hless (by rw [hkind]; decide))
    rw [endsWithin_take_bind]
    refine hinner.bind (fun e r hr => ?_) htake
    refine endsWithin_expect_bind (by omega) fun _ => ?_
    rw [endsWithin_pure, length_next]
    omega
  case h_9 hkind =>
    have hlt := hless (by rw [hkind]; decide)
    have hcondition := hp.le (s := s.next.next) .lowest (by omega)
    rw [endsWithin_take_bind]
    refine endsWithin_expect_bind htake fun _ => ?_
    refine hcondition.bind (fun condition r hr => ?_) (by omega)
    refine endsWithin_expect_bind (by omega) fun _ => ?_
    have hlength'' := length_next r
    have hconsequence := endsWithin_bracedBlock (s := r.next) hp (by omega)
    refine hconsequence.bind (fun consequence u hu => ?_) (by omega)
    have halternative := endsWithin_alternative (s := u) hp (by omega)
    refine halternative.bind (fun other v hv => ?_) (by omega)
    rw [endsWithin_pure]
    omega
  case h_10 hkind =>
    have hlt := hless (by rw [hkind]; decide)
    have hparameters : EndsWithin (delimited parameter .rparen depth) s.next.next
        s.next.next.tokens.length :=
      endsWithin_delimited (fun r _ => endsWithin_parameter) (Nat.le_refl _) (by omega)
    rw [endsWithin_take_bind]
    refine endsWithin_expect_bind htake fun _ => ?_
    refine hparameters.bind (fun parameters r hr => ?_) (by omega)
    have hbody := endsWithin_bracedBlock (s := r) hp (by omega)
    refine hbody.bind (fun body u hu => ?_) (by omega)
    rw [endsWithin_pure]
    omega
  case h_11 hkind =>
    have hne : s.current.kind ≠ .eof := by rw [hkind]; decide
    have helements : EndsWithin (delimited (p .lowest) .rbracket depth) s.next
        s.next.tokens.length :=
      endsWithin_delimited (fun r hr => hitem r hr hne) (Nat.le_refl _) (hless hne)
    rw [endsWithin_take_bind]
    exact helements.bind (fun elements r hr => by rw [endsWithin_pure]; omega) htake
  case h_12 hkind =>
    have hne : s.current.kind ≠ .eof := by rw [hkind]; decide
    have hpairs : EndsWithin (pairsUpTo (p .lowest) depth) s.next s.next.tokens.length :=
      endsWithin_pairsUpTo (fun r hr => hitem r hr hne) (Nat.le_refl _) (hless hne)
    rw [endsWithin_take_bind]
    exact hpairs.bind (fun pairs r hr => by rw [endsWithin_pure]; omega) htake
  case h_13 => rwa [endsWithin_rejectPast]

/-- A continuation takes the token that begins it. -/
lemma endsWithin_continued {c : Continuation} {left : Expr} (hp : TotalExpr p depth)
    (hs : s.next.tokens.length < depth) (hn : s.next.tokens.length < n) :
    EndsWithin (continued p n left c) s s.next.tokens.length := by
  have hitem : ∀ r : TokenStream, r.tokens.length ≤ s.next.tokens.length →
      EndsWithin (p .lowest) r r.tokens.length :=
    fun r hr => hp.le .lowest (by omega)
  match c with
  | .call =>
    have harguments : EndsWithin (delimited (p .lowest) .rparen n) s.next s.next.tokens.length :=
      endsWithin_delimited hitem (Nat.le_refl _) hn
    rw [continued, endsWithin_take_bind]
    exact harguments.bind (fun arguments r hr => hr) (Nat.le_refl _)
  | .index =>
    have hposition := hp.le .lowest hs
    rw [continued, endsWithin_take_bind]
    refine hposition.bind (fun position r hr => ?_) (Nat.le_refl _)
    refine endsWithin_expect_bind hr fun _ => ?_
    rw [endsWithin_pure, length_next]
    omega
  | .binary op =>
    have hright := hp.le op.precedence hs
    rw [continued, endsWithin_take_bind]
    exact hright.bind (fun right r hr => hr) (Nat.le_refl _)

lemma endsWithin_climb {floor : Precedence} {left : Expr} (hp : TotalExpr p depth)
    (hs : s.tokens.length ≤ depth) (hn : s.tokens.length < n) :
    EndsWithin (climb p floor n left) s s.tokens.length := by
  induction n generalizing s left with
  | zero => omega
  | succ n ih =>
    rw [climb, endsWithin_peek_bind]
    split
    · exact Nat.le_refl _
    · next c hc =>
      split
      · have hpos : 0 < s.tokens.length := by
          refine length_pos_of_kind fun heof => ?_
          rw [heof] at hc
          cases hc
        have hlength := length_next s
        have hcontinued : EndsWithin (continued p n left c) s s.next.tokens.length :=
          endsWithin_continued hp (by omega) (by omega)
        refine hcontinued.bind (fun e r hr => ?_) (by omega)
        exact (ih (by omega) (by omega)).mono (by omega)
      · exact Nat.le_refl _

/-- Expressions are read within a bound that exceeds the number of tokens. -/
lemma totalExpr_expression (depth : Nat) : TotalExpr (expression depth) depth := by
  induction depth with
  | zero =>
    intro floor s hs
    omega
  | succ depth ih =>
    intro floor s hs
    have hoperand := endsWithin_operand ih (Nat.le_of_lt_succ hs)
    rw [expression]
    by_cases heof : s.current.kind = .eof
    · -- Nothing is left for the loop: at the end of the text there is no operand.
      have hreject : operand (expression depth) depth s = rejectPast (.noOperand .eof) s := by
        rw [operand, peek_bind_apply, heof]
      rw [EndsWithin, hreject] at hoperand
      rw [EndsWithin, bind_apply, hreject]
      exact hoperand
    · have hpos := length_pos_of_kind heof
      refine hoperand.bind (fun left r hr => ?_) (Nat.le_refl _)
      exact (endsWithin_climb ih (by omega) (by omega)).mono hr

end

/-- Statements are read within bounds that exceed the number of tokens. -/
lemma statementsUpTo_ne_exhausted {depth n : Nat} {closes : TokenKind → Bool}
    (hs : s.tokens.length < depth) (hn : s.tokens.length < n) :
    statementsUpTo (statement (expression depth)) closes n s ≠ .exhausted := by
  have hends : EndsWithin (statementsUpTo (statement (expression depth)) closes n) s
      s.tokens.length :=
    endsWithin_statementsUpTo (m := depth - 1)
      (fun r hr => endsWithin_statement (totalExpr_expression depth) (by omega)) (by omega) hn
  intro hexhausted
  rw [EndsWithin, hexhausted] at hends
  exact hends

/-- All statements of a stream are read within a bound that exceeds the number of tokens. -/
theorem statements_ne_exhausted {depth : Nat} (hs : s.tokens.length < depth) :
    statements depth s ≠ .exhausted :=
  statementsUpTo_ne_exhausted hs hs

/-- The bound for a text suffices. -/
theorem statements_ofText_ne_exhausted (source : String) :
    statements (TokenStream.ofText source).depthBound (.ofText source) ≠ .exhausted :=
  statements_ne_exhausted (Nat.lt_succ_self _)

end Parser

end MonkeyLang
