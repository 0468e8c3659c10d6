import MonkeyLang.Proofs.Syntax.Alignment
import MonkeyLang.Proofs.Syntax.Completion

/-!
# What has been read before an error

Where a parser finds its first error, what it has read so far is a beginning of the phrase that it
reads: it can be completed (`Viable`).  In a sequence of parsers, what the first ones have read is
a beginning of their phrases, and the others have a phrase that can be put.

As in the proof that what is read can be derived, the parsers of forms are treated for any parser
of expressions, and the loop over continuations keeps the expression that it extends derivable.
-/

namespace MonkeyLang

/-! ## First errors -/

namespace Reply

variable {α : Type}

lemma head_errors_after {found : Findings} (h : found.errors = []) (o : Reply α) :
    (o.after found).errors.head? = o.errors.head? := by
  rcases errors_after found o with rfl | happend
  · rfl
  · rw [happend, h, List.nil_append]

end Reply

namespace Grammar

open MonkeyLang.Parser TokenStream

variable {α β : Type} {P Q : Phrase}

/-- The parser finds its first error, if there is one, at a token of the stream, and what stands
before it is a beginning of the phrase. -/
def Viable (P : Phrase) (p : Parser α) (s : TokenStream) : Prop :=
  ∀ e, (p s).errors.head? = some e → ∃ u r, s.tokens = u ++ r ∧
    e.span = (TokenStream.mk r s.size).current.span ∧ Completable P u

/-- The stream that is left when a phrase has been read. -/
structure Reached (P : Phrase) (s m : TokenStream) : Prop where
  proper : Proper m
  size_eq : m.size = s.size
  ready : ∃ u, Ready P s.tokens m.tokens u

/-! ## Combinators -/

section

variable {s : TokenStream} {p : Parser α} {f : α → Parser β}

lemma Viable.imp (h : Viable P p s) (himp : ∀ s r, P s r → Q s r) : Viable Q p s := by
  intro e he
  obtain ⟨u, r, hs, hspan, hu⟩ := h e he
  exact ⟨u, r, hs, hspan, hu.imp himp⟩

/-- What follows a phrase can be put. -/
lemma Viable.seq (h : Viable P p s) (hQ : Completable Q []) : Viable (P.seq Q) p s := by
  intro e he
  obtain ⟨u, r, hs, hspan, hu⟩ := h e he
  exact ⟨u, r, hs, hspan, hu.seq hQ⟩

lemma Viable.of_errors_eq_nil (h : (p s).errors = []) : Viable P p s := by
  intro e he
  rw [h] at he
  cases he

/-- An error at the current token. -/
lemma Viable.of_errors_eq_singleton {e : ParseError} (h : (p s).errors = [e])
    (hspan : e.span = s.current.span) (hP : Completable P []) : Viable P p s := by
  intro e' he
  rw [h] at he
  obtain rfl := Option.some.inj he
  exact ⟨[], s.tokens, rfl, hspan, hP⟩

lemma viable_reject {fault : ParseFault} (hP : Completable P []) :
    Viable P (reject fault : Parser α) s :=
  .of_errors_eq_singleton rfl rfl hP

lemma viable_rejectPast {fault : ParseFault} (hP : Completable P []) :
    Viable P (rejectPast fault : Parser α) s :=
  .of_errors_eq_singleton rfl rfl hP

lemma viable_exhausted : Viable P (Parser.exhausted : Parser α) s := .of_errors_eq_nil rfl

lemma viable_pure {a : α} : Viable P (pure a : Parser α) s := .of_errors_eq_nil rfl

/-- The first error of a sequence is that of its first part, or, if that reads without errors, of
the second. -/
lemma first_error_bind {e : ParseError} (h : ((p >>= f) s).errors.head? = some e) :
    (p s).errors.head? = some e ∨
      ∃ a m, Reads p s a m ∧ (f a m).errors.head? = some e := by
  rw [bind_apply] at h
  cases hp : p s with
  | parsed a m found =>
    rw [hp, Reply.andThen] at h
    by_cases hnone : found.errors = []
    · rw [Reply.head_errors_after hnone] at h
      exact .inr ⟨a, m, ⟨found, hp, hnone⟩, h⟩
    · rcases Reply.errors_after found (f a m) with hexhausted | happend
      · rw [hexhausted] at h
        cases h
      · rw [happend, List.head?_append_of_ne_nil _ hnone] at h
        exact .inl h
  | rejected m found error =>
    rw [hp] at h
    exact .inl h
  | exhausted =>
    rw [hp] at h
    exact .inl h

lemma Viable.bind (h : Viable P p s) (hQ : Completable Q [])
    (hf : ∀ a m, Reads p s a m → Reached P s m ∧ Viable Q (f a) m) :
    Viable (P.seq Q) (p >>= f) s := by
  intro e he
  rcases first_error_bind he with hp | ⟨a, m, hread, he⟩
  · exact h.seq hQ e hp
  · obtain ⟨⟨-, hsize, u, hready⟩, hviable⟩ := hf a m hread
    obtain ⟨v, r, hm, hspan, hv⟩ := hviable e he
    rw [hsize] at hspan
    refine ⟨u ++ v, r, ?_, hspan, hready.seq_completable hm hv⟩
    rw [hready.eq_append, hm, List.append_assoc]

/-- Nothing goes wrong behind the parser. -/
lemma Viable.last (h : Viable P p s) (hf : ∀ a m, (f a m).errors = []) :
    Viable P (p >>= f) s := by
  intro e he
  rcases first_error_bind he with hp | ⟨a, m, -, he⟩
  · exact h e hp
  · rw [hf] at he
    cases he

lemma viable_peek_bind {f : Token → Parser β} :
    Viable P (peek >>= f) s ↔ Viable P (f s.current) s := by
  have hpeek : (peek >>= f) s = f s.current s := Reply.after_nothing _
  rw [Viable, Viable, hpeek]

/-- A parser that goes on behind the current token. -/
lemma Viable.behind {p q : Parser β} {k : TokenKind} (hk : s.current.kind = k) (hne : k ≠ .eof)
    (hq : Viable Q q s.next) (hp : p s = q s.next) : Viable ((Phrase.token k).seq Q) p s := by
  intro e he
  rw [hp] at he
  obtain ⟨u, r, hs, hspan, hu⟩ := hq e he
  have htokens := tokens_eq_of_kind hk hne
  refine ⟨s.current :: u, r, by rw [htokens, hs, List.cons_append], hspan, ?_⟩
  exact (ready_token hk).seq_completable hs hu

lemma viable_take_bind {f : Token → Parser β} {k : TokenKind} (hk : s.current.kind = k)
    (hne : k ≠ .eof) (hf : Viable Q (f s.current) s.next) :
    Viable ((Phrase.token k).seq Q) (take >>= f) s :=
  hf.behind hk hne (Reply.after_nothing _)

lemma viable_expect_bind {f : Token → Parser β} {k : TokenKind} (hne : k ≠ .eof)
    (hk : Completable (.token k) []) (hQ : Completable Q [])
    (hf : s.current.kind = k → Viable Q (f s.current) s.next) :
    Viable ((Phrase.token k).seq Q) (expect k >>= f) s := by
  by_cases h : s.current.kind = k
  · exact (hf h).behind h hne (expect_bind_of_eq h)
  · have herrors := congrArg Reply.errors (expect_bind_of_ne (f := f) h)
    exact .of_errors_eq_singleton herrors rfl (hk.seq hQ)

/-- A token that has to come last. -/
lemma viable_expect_last {f : Token → Parser β} {k : TokenKind}
    (hk : Completable (.token k) []) (hf : ∀ t m, (f t m).errors = []) :
    Viable (.token k) (expect k >>= f) s := by
  by_cases h : s.current.kind = k
  · refine .of_errors_eq_nil ?_
    rw [expect_bind_of_eq h, hf]
  · have herrors := congrArg Reply.errors (expect_bind_of_ne (f := f) h)
    exact .of_errors_eq_singleton herrors rfl hk

lemma Viable.attempt (h : Viable P p s) : Viable P (attempt p) s := by
  intro e he
  refine h e ?_
  rw [Parser.attempt] at he
  generalize p s = o at he ⊢
  cases o <;> exact he

end

/-! ## Phrases that can be put -/

section

open Nonterminal

lemma completable_sign {k : TokenKind} (h : k ∈ signs.map Prod.snd) :
    Completable (.token k) [] := by
  obtain ⟨⟨c, k⟩, entry, rfl⟩ := List.mem_map.1 h
  exact completable_token entry

lemma expr_of_stronger {level weaker : Level} (hbound : ¬ level.bound < weaker.bound)
    (s r : List Token) (h : (expr level).phrase s r) : (expr weaker).phrase s r := by
  obtain ⟨d⟩ := h
  obtain ⟨d', -⟩ := Derivable.weaken ⟨d, rfl⟩ hbound
  exact ⟨d'⟩

lemma unary_of_primary (s r : List Token) (h : primary.phrase s r) :
    (expr .unary).phrase s r :=
  expr_of_stronger (by decide) s r (suffixed_of_phrase s r h)

lemma completable_expr (level : Level) : Completable (expr level).phrase [] := by
  have hprimary : Completable primary.phrase [] := completable_ident.imp <| by
    rintro _ _ ⟨t, ht, rfl⟩
    exact ⟨.ident ht⟩
  refine (hprimary.imp suffixed_of_phrase).imp (expr_of_stronger ?_)
  rcases level with ⟨_ | _ | _ | _⟩ | _ | _ <;> decide

lemma completable_statements : Completable statements.phrase [] :=
  .of_forall fun _ _ => ⟨.noStatement⟩

lemma completable_block : Completable block.phrase [] :=
  ((completable_sign (by decide)).seq
    (completable_statements.seq (completable_sign (by decide)))).imp block_of_seq

lemma completable_alternative : Completable alternative.phrase [] :=
  .of_forall fun _ => ⟨.noAlternative⟩

lemma completable_parameters : Completable parameters.phrase [] :=
  (completable_sign (k := .rparen) (by decide)).imp <| by
    rintro _ _ ⟨t, ht, rfl⟩
    exact ⟨.noParameter ht⟩

lemma completable_morePairs : Completable morePairs.phrase [] :=
  (completable_sign (k := .rbrace) (by decide)).imp <| by
    rintro _ _ ⟨t, ht, rfl⟩
    exact ⟨.pairsEnd ht⟩

end

/-! ## Lists -/

/-- What may stand behind the first of several items: commas and items, and the closing token. -/
inductive More (P : Phrase) (close : TokenKind) : Phrase where
  | last {t : Token} {r : List Token} (closing : t.kind = close) : More P close (t :: r) r
  | next {t : Token} {s m r : List Token} (comma : t.kind = .comma) (item : P s m)
      (others : More P close m r) : More P close (t :: s) r

/-- Items with commas between them, and the closing token. -/
def Listed (P : Phrase) (close : TokenKind) : Phrase := fun s r =>
  Phrase.token close s r ∨ P.seq (More P close) s r

section

variable {item : Parser α} {close : TokenKind} {s : TokenStream} {n : Nat}

lemma completable_more (hclose : Completable (.token close) []) :
    Completable (More P close) [] :=
  hclose.imp <| by
    rintro _ _ ⟨t, ht, rfl⟩
    exact .last ht

lemma viable_itemsUpTo (hitem : ∀ s, Proper s → Viable P item s)
    (hreached : ∀ s x m, Proper s → Reads item s x m → Reached P s m)
    (hclose : Completable (.token close) []) (hs : Proper s) :
    Viable (P.seq (More P close)) (itemsUpTo item close n) s := by
  induction n generalizing s with
  | zero => exact viable_exhausted
  | succ n ih =>
    rw [itemsUpTo]
    refine (hitem s hs).bind (completable_more hclose) fun x m hread => ?_
    have hm := hreached s x m hs hread
    refine ⟨hm, ?_⟩
    rw [viable_peek_bind]
    split
    · next hcomma =>
      have hmore := (ih hm.proper.next).last (f := fun more => pure (x :: more)) fun _ _ => rfl
      refine (viable_take_bind hcomma (by decide) hmore).imp ?_
      rintro _ _ ⟨_, ⟨t, ht, rfl⟩, m, hitem, hothers⟩
      exact .next ht hitem hothers
    · refine (viable_expect_last hclose fun _ _ => rfl).imp ?_
      rintro _ _ ⟨t, ht, rfl⟩
      exact .last ht

lemma viable_delimited (hitem : ∀ s, Proper s → Viable P item s)
    (hreached : ∀ s x m, Proper s → Reads item s x m → Reached P s m)
    (hclose : Completable (.token close) []) (hs : Proper s) :
    Viable (Listed P close) (delimited item close n) s := by
  rw [delimited, viable_peek_bind]
  split
  · exact .of_errors_eq_nil rfl
  · exact (viable_itemsUpTo hitem hreached hclose hs).imp fun _ _ => .inr

lemma parameters_of_listed (s r : List Token) (h : Listed (.token .ident) .rparen s r) :
    Nonterminal.parameters.phrase s r := by
  have hmore : ∀ {s r}, More (.token .ident) .rparen s r →
      Nonterminal.moreParameters.phrase s r := by
    intro s r h
    induction h with
    | last closing => exact ⟨.parametersEnd closing⟩
    | next comma item _ ih =>
      obtain ⟨⟨t, ht, rfl⟩, ⟨d⟩⟩ := And.intro item ih
      exact ⟨.nextParameter comma ht d⟩
  rcases h with ⟨t, ht, rfl⟩ | ⟨_, ⟨t, ht, rfl⟩, h⟩
  · exact ⟨.noParameter ht⟩
  · obtain ⟨d⟩ := hmore h
    exact ⟨.someParameters ht d⟩

lemma arguments_of_listed {bracket : Bracket} (s r : List Token)
    (h : Listed Nonterminal.expression.phrase bracket.close s r) :
    (Nonterminal.arguments bracket).phrase s r := by
  have hmore : ∀ {s r}, More Nonterminal.expression.phrase bracket.close s r →
      (Nonterminal.moreArguments bracket).phrase s r := by
    intro s r h
    induction h with
    | last closing => exact ⟨.argumentsEnd closing⟩
    | next comma item _ ih =>
      obtain ⟨⟨d⟩, ⟨d'⟩⟩ := And.intro item ih
      exact ⟨.nextArgument comma d d'⟩
  rcases h with ⟨t, ht, rfl⟩ | ⟨_, ⟨d⟩, h⟩
  · exact ⟨.noArgument ht⟩
  · obtain ⟨d'⟩ := hmore h
    exact ⟨.someArguments d d'⟩

end

/-! ## Expressions as parts -/

/-- The parser reads expressions, it does so alike from aligned streams, and what it has read
before an error can be completed. -/
structure ViableExpr (p : Precedence → Parser Expr) : Prop where
  sound : SoundExpr p
  agree : ∀ A : Alignment, A.AgreeExprs p p
  viable : ∀ floor s, Proper s →
    Viable (Nonterminal.expr (.above floor)).phrase (p floor) s

/-- Streams of one text. -/
def sameText (size : Nat) : Alignment where
  streams r r' := r' = r ∧ r.size = size
  tokens := Eq
  beyond _ := False
  view_eq h := congrArg Token.eraseSpan h
  current h := congrArg current h.1.symm
  next h := .inl ⟨congrArg TokenStream.next h.1, h.2⟩
  current_beyond := Alignment.same.current_beyond
  next_beyond := False.elim

/-- A parser that agrees with itself leaves a stream of the same text. -/
lemma size_eq_of_agree {p : Parser α} {R : α → α → Prop} {s r : TokenStream} {a : α}
    (h : (sameText s.size).Agree R p p) (hread : Reads p s a r) : r.size = s.size := by
  obtain ⟨found, hp, -⟩ := hread
  have hreplies := h.replies ⟨rfl, rfl⟩
  rw [hp] at hreplies
  cases hreplies with
  | parsed value rest found => exact rest.2
  | late ends late => exact ends.elim fun _ => False.elim
  | parted ends failed => exact ends.elim fun _ => False.elim

lemma reached_of_derivable {A : Nonterminal} {tree : A.Tree} {s m : TokenStream}
    (h : Derivable A s.tokens m.tokens tree) (hs : Proper s) (hsize : m.size = s.size) :
    Reached A.phrase s m := by
  have hproper := h.proper hs
  obtain ⟨d, -⟩ := h
  exact ⟨hproper, hsize, d.ready⟩

section

open Nonterminal

variable {p : Precedence → Parser Expr} {s m : TokenStream} {e : Expr} {n depth : Nat}

lemma ViableExpr.lowest (hp : ViableExpr p) (hs : Proper s) :
    Viable expression.phrase (p .lowest) s :=
  hp.viable .lowest s hs

lemma ViableExpr.reached (hp : ViableExpr p) (hs : Proper s) (h : Reads (p .lowest) s e m) :
    Reached expression.phrase s m :=
  reached_of_derivable (hp.sound.expression hs h) hs
    (size_eq_of_agree (hp.agree _ .lowest) h)

lemma viable_arguments (hp : ViableExpr p) (bracket : Bracket) (hs : Proper s) :
    Viable (arguments bracket).phrase (delimited (p .lowest) bracket.close n) s :=
  (viable_delimited (fun _ => hp.lowest) (fun _ _ _ => hp.reached)
    (completable_sign (by cases bracket <;> decide)) hs).imp arguments_of_listed

lemma viable_parameter (s : TokenStream) : Viable (.token .ident) parameter s := by
  rw [parameter, viable_peek_bind]
  split
  · exact .of_errors_eq_nil rfl
  · exact viable_rejectPast completable_ident

lemma viable_parameters (hs : Proper s) :
    Viable parameters.phrase (delimited parameter .rparen n) s := by
  refine (viable_delimited (fun s _ => viable_parameter s) (fun s x m hs h => ?_)
    (completable_sign (by decide)) hs).imp parameters_of_listed
  obtain ⟨hkind, rfl, rfl⟩ := reads_parameter.1 h
  refine ⟨hs.next, rfl, [s.current], ?_⟩
  rw [tokens_eq_of_kind hkind (by decide)]
  exact ready_token hkind

/-- A brace ends the pairs at once. -/
lemma errors_pairsUpTo_of_close (item : Parser Expr) (n : Nat) (h : s.current.kind = .rbrace) :
    (pairsUpTo item n s).errors = [] := by
  cases n with
  | zero => rfl
  | succ n =>
    rw [pairsUpTo, peek_bind_apply, if_pos h]
    rfl

lemma viable_pairs (hp : ViableExpr p) (hs : Proper s) :
    Viable pairs.phrase (pairsUpTo (p .lowest) n) s := by
  induction n generalizing s with
  | zero => exact viable_exhausted
  | succ n ih =>
    have hexpr := completable_expr (.binary .equality)
    rw [pairsUpTo, viable_peek_bind]
    split
    · exact .of_errors_eq_nil rfl
    · have hvalue := hexpr.seq completable_morePairs
      refine Viable.imp ?_ somePairs_of_seq
      refine (hp.lowest hs).bind ((completable_sign (by decide)).seq hvalue)
        fun key m hkey => ?_
      have hm := hp.reached hs hkey
      refine ⟨hm, viable_expect_bind (by decide) (completable_sign (by decide)) hvalue fun _ => ?_⟩
      refine (hp.lowest hm.proper.next).bind completable_morePairs fun value m' hvalue => ?_
      have hm' := hp.reached hm.proper.next hvalue
      refine ⟨hm', ?_⟩
      rw [viable_peek_bind]
      split
      · refine Viable.imp ?_ morePairs_of_seq
        refine viable_expect_bind (by decide) (completable_sign (by decide)) ?_ fun _ => ?_
        · refine (completable_sign (k := .rbrace) (by decide)).imp ?_
          rintro _ r ⟨t, ht, rfl⟩
          exact ⟨.noPair ht⟩
        · exact (ih hm'.proper.next).last fun _ _ => rfl
      · next hclose =>
        have herrors := errors_pairsUpTo_of_close (p .lowest) n (not_not.1 hclose)
        exact (Viable.of_errors_eq_nil herrors).last fun _ _ => rfl

/-! ## Statements and blocks -/

lemma errors_skip_bind {k : TokenKind} {a : β} :
    ((skip k >>= fun _ => pure a) s).errors = [] := by
  have hskip : skip k s = .parsed () (if s.current.kind = k then s.next else s) .nothing := by
    rw [skip, peek_bind_apply]
    split
    · rw [take_bind_apply, pure_apply]
    · rfl
  rw [bind_apply, hskip, Reply.andThen, Reply.after_nothing]
  rfl

lemma viable_statement (hp : ViableExpr p) (hs : Proper s) :
    Viable statement.phrase (Parser.statement p) s := by
  have hexpr := completable_expr (.binary .equality)
  rw [Parser.statement, viable_peek_bind]
  split
  · next hlet =>
    refine Viable.imp ?_ letStatement_of_seq
    refine viable_take_bind hlet (by decide) ?_
    refine viable_expect_bind (by decide) completable_ident
      ((completable_sign (by decide)).seq hexpr) fun _ => ?_
    refine viable_expect_bind (by decide) (completable_sign (by decide)) hexpr fun _ => ?_
    exact (hp.lowest hs.next.next.next).last fun _ _ => errors_skip_bind
  · next hreturn =>
    refine Viable.imp ?_ returnStatement_of_seq
    exact viable_take_bind hreturn (by decide)
      ((hp.lowest hs.next).last fun _ _ => errors_skip_bind)
  · refine Viable.imp ?_ exprStatement_of_phrase
    exact (hp.lowest hs).last fun _ _ => errors_skip_bind

/-- Statements are closed with a semicolon. -/
lemma completable_statements_of_statement {u : List Token}
    (h : Completable statement.phrase u) : Completable statements.phrase u :=
  (h.seq ((completable_sign (by decide)).seq completable_statements)).imp closedStatement_of_seq

lemma viable_statementsUpTo (hp : ViableExpr p) {closes : TokenKind → Bool} (hs : Proper s) :
    Viable statements.phrase (statementsUpTo (Parser.statement p) closes n) s := by
  induction n generalizing s with
  | zero => exact viable_exhausted
  | succ n ih =>
    rw [statementsUpTo, viable_peek_bind]
    dsimp only
    split
    · exact viable_pure
    · intro e he
      rcases first_error_bind he with hfirst | ⟨o, m, hread, hmore⟩
      · obtain ⟨u, r, hu, hspan, hc⟩ := (viable_statement hp hs).attempt e hfirst
        exact ⟨u, r, hu, hspan, completable_statements_of_statement hc⟩
      · obtain ⟨first, rfl, hstatement⟩ := reads_attempt.1 hread
        obtain ⟨m', hd, hstop, rfl⟩ := derivable_statement hp.sound hs hstatement
        have hsize : m'.size = s.size := by
          have hsize := size_eq_of_agree (Alignment.agree_statement (hp.agree _)) hstatement
          split at hsize <;> exact hsize
        have hm' := reached_of_derivable hd hs hsize
        obtain ⟨u, hready⟩ := hm'.ready
        split at hmore
        · next hsemicolon =>
          obtain ⟨v, r, hv, hspan, hc⟩ := (ih hm'.proper.next).last (fun _ _ => rfl) e hmore
          have htokens := tokens_eq_of_kind hsemicolon (by decide)
          have hsecond := (ready_token hsemicolon).seq_completable hv hc
          rw [hv] at htokens
          refine ⟨u ++ (m'.current :: v), r, ?_, ?_, ?_⟩
          · rw [hready.eq_append, htokens, List.append_assoc, List.cons_append]
          · rwa [← hsize]
          · exact (hready.seq_completable htokens hsecond).imp closedStatement_of_seq
        · obtain ⟨v, r, hv, hspan, hc⟩ := (ih hm'.proper).last (fun _ _ => rfl) e hmore
          have hseparate : ¬ attaches v := not_attaches_of_append (hv ▸ not_attaches hstop)
          refine ⟨u ++ v, r, ?_, ?_, ?_⟩
          · rw [hready.eq_append, hv, List.append_assoc]
          · rwa [← hsize]
          · exact (hready.seq_completable hv (hc.separate hseparate)).imp openStatement_of_seq

lemma viable_block (hp : ViableExpr p) (hs : Proper s) :
    Viable block.phrase (bracedBlock p depth) s := by
  rw [bracedBlock, viable_peek_bind]
  split
  · next hbrace =>
    refine Viable.imp ?_ block_of_seq
    refine viable_take_bind hbrace (by decide) ?_
    have hclose := completable_sign (k := .rbrace) (by decide)
    exact ((viable_statementsUpTo hp hs.next).last fun _ _ => rfl).seq hclose
  · rw [viable_peek_bind]
    exact viable_reject completable_block

lemma viable_alternative (hp : ViableExpr p) (hs : Proper s) :
    Viable alternative.phrase (Parser.alternative p depth) s := by
  rw [Parser.alternative, viable_peek_bind]
  split
  · next helse =>
    refine Viable.imp ?_ alternative_of_seq
    exact viable_take_bind helse (by decide) ((viable_block hp hs.next).last fun _ _ => rfl)
  · exact viable_pure

/-! ## Expressions -/

lemma viable_operand (hp : ViableExpr p) (hs : Proper s) :
    Viable (expr .unary).phrase (operand p depth) s := by
  have hexpr := completable_expr (.binary .equality)
  have hunary := completable_expr .unary
  rw [operand, viable_peek_bind]
  split
  case h_1 | h_3 | h_4 | h_5 => exact .of_errors_eq_nil rfl
  case h_2 =>
    split
    · exact .of_errors_eq_nil rfl
    · exact viable_rejectPast hunary
  case h_6 hkind =>
    refine Viable.imp ?_ (unary_of_seq (k := .bang) rfl)
    exact viable_take_bind hkind (by decide) ((hp.viable .unary _ hs.next).last fun _ _ => rfl)
  case h_7 hkind =>
    refine Viable.imp ?_ (unary_of_seq (k := .minus) rfl)
    exact viable_take_bind hkind (by decide) ((hp.viable .unary _ hs.next).last fun _ _ => rfl)
  case h_8 hkind =>
    refine Viable.imp (Viable.imp ?_ grouped_of_seq) unary_of_primary
    refine viable_take_bind hkind (by decide) ?_
    refine (hp.lowest hs.next).bind (completable_sign (by decide)) fun e m he => ?_
    exact ⟨hp.reached hs.next he,
      viable_expect_last (completable_sign (by decide)) fun _ _ => rfl⟩
  case h_9 hkind =>
    have hblocks := completable_block.seq completable_alternative
    have hclosing := (completable_sign (k := .rparen) (by decide)).seq hblocks
    refine Viable.imp (Viable.imp ?_ conditional_of_seq) unary_of_primary
    refine viable_take_bind hkind (by decide) ?_
    refine viable_expect_bind (by decide) (completable_sign (by decide)) (hexpr.seq hclosing)
      fun _ => ?_
    refine (hp.lowest hs.next.next).bind hclosing fun condition m hcondition => ?_
    have hm := hp.reached hs.next.next hcondition
    refine ⟨hm, viable_expect_bind (by decide) (completable_sign (by decide)) hblocks fun _ => ?_⟩
    refine (viable_block hp hm.proper.next).bind completable_alternative fun b m' hb => ?_
    have hm' : Reached block.phrase m.next m' := reached_of_derivable
      (derivable_block hp.sound hm.proper.next hb) hm.proper.next
      (size_eq_of_agree (Alignment.agree_bracedBlock (hp.agree _) depth depth) hb)
    exact ⟨hm', (viable_alternative hp hm'.proper).last fun _ _ => rfl⟩
  case h_10 hkind =>
    have hparameters := completable_parameters.seq completable_block
    refine Viable.imp (Viable.imp ?_ function_of_seq) unary_of_primary
    refine viable_take_bind hkind (by decide) ?_
    refine viable_expect_bind (by decide) (completable_sign (by decide)) hparameters fun _ => ?_
    refine (viable_parameters hs.next.next).bind completable_block fun xs m hxs => ?_
    have hm : Reached parameters.phrase s.next.next m := reached_of_derivable
      (derivable_parameters hxs) hs.next.next
      (size_eq_of_agree (Alignment.agree_delimited Alignment.agree_parameter _ depth depth) hxs)
    exact ⟨hm, (viable_block hp hm.proper).last fun _ _ => rfl⟩
  case h_11 hkind =>
    refine Viable.imp (Viable.imp ?_ array_of_seq) unary_of_primary
    refine viable_take_bind hkind (by decide) ?_
    exact (viable_arguments hp .square hs.next).last fun _ _ => rfl
  case h_12 hkind =>
    refine Viable.imp (Viable.imp ?_ hash_of_seq) unary_of_primary
    exact viable_take_bind hkind (by decide) ((viable_pairs hp hs.next).last fun _ _ => rfl)
  case h_13 => exact viable_rejectPast hunary

/-- What makes a larger expression of an expression that stands in front. -/
def Attached (level weaker : Level) : Phrase := fun s r =>
  ∀ base left, Derivable (.expr level) base s left → Nonempty (Derivation (.expr weaker) base r)

/-- Tokens are left behind an expression, so it does not depend on what they are. -/
lemma Ready.attach {level weaker : Level} {base rest u v : List Token}
    (h : Ready (expr level).phrase base rest u) (hne : rest ≠ [])
    (hv : Completable (Attached level weaker) v) : Completable (expr weaker).phrase (u ++ v) := by
  obtain ⟨c, hspelled, hc⟩ := hv
  refine ⟨c, hspelled, fun r => ?_⟩
  obtain ⟨d⟩ := h.replace hne (v ++ (c ++ r))
  rw [List.append_assoc]
  exact hc r _ d.tree ⟨d, rfl⟩

/-- A continuation is a phrase behind the expression that it continues. -/
lemma viable_continued (hp : ViableExpr p) {c : Continuation} {level : Level} (left : Expr)
    (hs : Proper s) (hkind : Continuation.ofKind? s.current.kind = some c)
    (hlevel : ¬ level.bound < c.precedence) :
    ∃ level' : Level, ¬ level'.bound < c.precedence ∧
      Viable (Attached level level') (continued p depth left c) s := by
  have hk := begins_of_ofKind hkind
  match c with
  | .call =>
    obtain rfl := eq_suffixed_of_bound hlevel
    have hviable : Viable ((Phrase.token .lparen).seq (arguments .round).phrase)
        (continued p depth left .call) s := by
      rw [continued]
      refine viable_take_bind hk (by decide) ?_
      exact (viable_arguments hp .round hs.next).last fun _ _ => rfl
    refine ⟨.suffixed, by decide, hviable.imp ?_⟩
    rintro _ r ⟨_, ⟨t, ht, rfl⟩, ⟨d⟩⟩ base left hleft
    obtain ⟨d', -⟩ := hleft.call ht ⟨d, rfl⟩
    exact ⟨d'⟩
  | .index =>
    obtain rfl : level = .suffixed :=
      eq_suffixed_of_bound fun hlt => hlevel (Nat.lt_trans hlt (Nat.lt_succ_self _))
    have hclose := completable_sign (k := .rbracket) (by decide)
    have hviable : Viable ((Phrase.token .lbracket).seq
        (expression.phrase.seq (.token .rbracket))) (continued p depth left .index) s := by
      rw [continued]
      refine viable_take_bind hk (by decide) ?_
      refine (hp.lowest hs.next).bind hclose fun e m he => ?_
      exact ⟨hp.reached hs.next he, viable_expect_last hclose fun _ _ => rfl⟩
    refine ⟨.suffixed, by decide, hviable.imp ?_⟩
    rintro _ r ⟨_, ⟨t, ht, rfl⟩, _, ⟨d⟩, close, hclose, rfl⟩ base left hleft
    obtain ⟨d', -⟩ := hleft.index ht ⟨d, rfl⟩ hclose
    exact ⟨d'⟩
  | .binary op =>
    obtain ⟨hmember, hstrength⟩ := mem_tierOf op
    have hne : s.current.kind ≠ .eof := by
      intro heof
      rw [Begins, heof] at hk
      cases hk
    have hviable : Viable ((Phrase.token s.current.kind).seq (expr (tierOf op).operand).phrase)
        (continued p depth left (.binary op)) s := by
      have hright := hp.viable op.precedence s.next hs.next
      rw [hstrength, above_strength] at hright
      rw [continued]
      refine viable_take_bind rfl hne ?_
      rw [hstrength]
      exact hright.last fun _ _ => rfl
    refine ⟨.binary (tierOf op), ?_, hviable.imp ?_⟩
    · rw [Continuation.precedence, hstrength]
      exact Nat.lt_irrefl _
    · rintro _ r ⟨_, ⟨t, ht, rfl⟩, ⟨d⟩⟩ base left hleft
      rw [Continuation.precedence, hstrength] at hlevel
      have hsign : BinaryOp.ofKind? t.kind = some op := ht ▸ hk
      have hweak : Derivable (.expr (.binary (tierOf op))) base _ left := hleft.weaken hlevel
      obtain ⟨d', -⟩ := hweak.binary hsign hmember ⟨d, rfl⟩
      exact ⟨d'⟩

/-- The loop over continuations: what it has read is a beginning together with the expression in
front. -/
lemma viable_climb (hp : ViableExpr p) {floor : Precedence} {level : Level} {base : List Token}
    {left : Expr} (hs : Proper s) (hleft : Derivable (.expr level) base s.tokens left)
    (hnext : ¬ level.bound < Precedence.ofKind s.current.kind)
    (hfloor : ¬ level.bound < (Level.above floor).bound) {e : ParseError}
    (he : (climb p floor n left s).errors.head? = some e) :
    ∃ u r, base = u ++ r ∧ e.span = (TokenStream.mk r s.size).current.span ∧
      Completable (expr (.above floor)).phrase u := by
  induction n generalizing s left level with
  | zero => cases he
  | succ n ih =>
    rw [climb, peek_bind_apply] at he
    cases hc : Continuation.ofKind? s.current.kind with
    | none =>
      rw [hc] at he
      cases he
    | some c =>
      simp only [hc] at he
      simp only [Precedence.ofKind, hc, Option.map_some, Option.getD_some] at hnext
      split at he
      · next hlt =>
        rcases first_error_bind he with hfirst | ⟨left', m, hcontinued, hmore⟩
        · obtain ⟨level', hle, hviable⟩ := viable_continued hp left hs hc hnext
          obtain ⟨v, r, hv, hspan, hattached⟩ := hviable e hfirst
          have hne : s.tokens ≠ [] := by
            intro hnil
            rw [← firstKind_tokens, hnil] at hc
            cases hc
          obtain ⟨d, -⟩ := hleft
          obtain ⟨u, hready⟩ := d.ready
          refine ⟨u ++ v, r, ?_, hspan, ?_⟩
          · rw [hready.eq_append, hv, List.append_assoc]
          · exact (hready.attach hne hattached).imp
              (expr_of_stronger (not_bound_lt_above hlt hle))
        · obtain ⟨level', hleft', hnext', hle, hm⟩ :=
            derivable_continued hp.sound hs hc hnext hleft hcontinued
          have hsize := size_eq_of_agree (Alignment.agree_continued (hp.agree _) n n rfl c)
            hcontinued
          rw [← hsize]
          exact ih hm hleft' hnext' (not_bound_lt_above hlt hle) hmore
      · cases he

theorem viableExpr_expression (depth : Nat) : ViableExpr (Parser.expression depth) := by
  induction depth with
  | zero =>
    exact ⟨soundExpr_expression 0, fun A => A.agree_expression 0 0, fun _ _ _ => viable_exhausted⟩
  | succ depth ih =>
    refine ⟨soundExpr_expression _, fun A => A.agree_expression _ _, fun floor s hs e he => ?_⟩
    have hunary : ¬ Level.unary.bound < (Level.above floor).bound := by cases floor <;> decide
    rcases first_error_bind he with hfirst | ⟨left, m, hoperand, hmore⟩
    · exact (viable_operand ih hs).imp (expr_of_stronger hunary) e hfirst
    · have hsize := size_eq_of_agree (Alignment.agree_operand (ih.agree _) depth depth) hoperand
      rw [← hsize]
      rcases derivable_operand ih.sound hs hoperand with hprimary | ⟨hd, hfloor⟩
      · have hsuffixed : Derivable (.expr .suffixed) s.tokens m.tokens left := by
          obtain ⟨d, rfl⟩ := hprimary
          exact ⟨.suffixed d .suffixEnd, rfl⟩
        exact viable_climb ih (hprimary.proper hs) hsuffixed
          (by cases m.current.kind <;> decide) (by cases floor <;> decide) hmore
      · exact viable_climb ih (hd.proper hs) hd hfloor hunary hmore

/-- Where a text has its first error, what stands before is a beginning of a program. -/
theorem viable_statements (depth : Nat) (hs : Proper s) :
    Viable statements.phrase (Parser.statements depth) s :=
  viable_statementsUpTo (viableExpr_expression depth) hs

end

end Grammar

end MonkeyLang
