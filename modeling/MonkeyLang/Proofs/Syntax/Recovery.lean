import MonkeyLang.Proofs.Syntax.Accounting
import MonkeyLang.Proofs.Syntax.FirstError
import MonkeyLang.Proofs.Syntax.WindowSimulation

/-!
# Reading goes on behind errors

Every text is read to its end, well formed or not, in a number of steps that is linear in the number
of its tokens; and the list of its errors is in order.  Both are said of the reader that sees two
tokens at a time, and carried over to what reading a text gives.
-/

namespace MonkeyLang

open MonkeyLang.Window

/-! ## The order of errors -/

/-- Tokens begin one after the other, and before the end of the text. -/
structure TokenStream.Ordered (s : TokenStream) : Prop where
  tokens : s.tokens.Pairwise fun t u => t.span.start ≤ u.span.start
  size : ∀ t ∈ s.tokens, t.span.start ≤ s.size

namespace TokenStream

variable {s r : TokenStream}

lemma Ordered.next (h : s.Ordered) : s.next.Ordered :=
  ⟨h.tokens.sublist (List.tail_sublist _), fun t ht => h.size t (List.mem_of_mem_tail ht)⟩

/-- A stream does not begin behind its second token. -/
lemma Ordered.current_le_next (h : s.Ordered) :
    s.current.span.start ≤ s.next.current.span.start := by
  obtain ⟨_ | ⟨t, _ | ⟨u, ts⟩⟩, size⟩ := s
  · exact Nat.le_refl _
  · exact h.size t List.mem_cons_self
  · exact List.rel_of_pairwise_cons h.tokens List.mem_cons_self

/-- The current token is a token of the stream or the end of its text. -/
lemma current_mem_or (s : TokenStream) :
    s.current ∈ s.tokens ∨ s.current = .endOfText s.size := by
  obtain ⟨_ | ⟨t, ts⟩, size⟩ := s
  · exact .inr rfl
  · exact .inl List.mem_cons_self

lemma ordered_ofText (source : String) : (ofText source).Ordered := by
  have htokens := (tokenization_iff_eq_scanFrom 0 source.toList (Token.scan source)).2 rfl
  refine ⟨?_, fun t ht => ?_⟩
  · refine htokens.ordered.imp_of_mem fun ht _ hle => ?_
    exact Nat.le_trans (Nat.le_of_lt (htokens.nonempty _ ht)) hle
  · obtain ⟨before, slice, after, htext, hspan, -⟩ := htokens.covers t ht
    have hsize : (ofText source).size =
        Text.byteLength before + Text.byteLength (slice ++ after) := by
      rw [ofText, Text.utf8ByteSize_eq, htext, Text.byteLength_append]
    rw [hspan, hsize]
    dsimp only
    omega

end TokenStream

namespace Trail

variable {s r : TokenStream} {es : List ParseError}

lemma current_le (h : Trail s es r) (hs : s.Ordered) :
    ∀ e ∈ es, s.current.span.start ≤ e.span.start := by
  induction h with
  | nil => exact fun e he => absurd he List.not_mem_nil
  | next rest ih => exact fun e he => Nat.le_trans hs.current_le_next (ih hs.next e he)
  | error first rest ih =>
    refine List.forall_mem_cons.2 ⟨?_, ih hs⟩
    rw [first.span]

/-- Errors that are met on the way stand in the order of their tokens. -/
lemma pairwise (h : Trail s es r) (hs : s.Ordered) :
    es.Pairwise fun e e' => e.span.start ≤ e'.span.start := by
  induction h with
  | nil => exact .nil
  | next rest ih => exact ih hs.next
  | error first rest ih =>
    refine .cons (fun e he => ?_) (ih hs)
    rw [first.span]
    exact rest.current_le hs e he

/-- Every error on the way is at a token of the stream or at the end of its text. -/
lemma exists_token (h : Trail s es r) :
    ∀ e ∈ es, ∃ t, (t ∈ s.tokens ∨ t = .endOfText s.size) ∧ e.At t := by
  induction h with
  | nil => exact fun e he => absurd he List.not_mem_nil
  | next rest ih =>
    intro e he
    obtain ⟨t, ht, hat⟩ := ih e he
    exact ⟨t, ht.imp_left List.mem_of_mem_tail, hat⟩
  | @error s r e es first rest ih =>
    exact List.forall_mem_cons.2 ⟨⟨s.current, s.current_mem_or, first⟩, ih⟩

end Trail

/-! ## Whole texts -/

/-- What is read through the window, with a bound that exceeds the number of tokens, is what the
parsers read.  Reading ends at the end of the text, and every token pays for four steps. -/
lemma Window.exists_program_eq {source : String} {depth : Nat}
    (h : (Token.scan source).length < depth) :
    ∃ statements w, program depth (.ofText source) = .read statements w ∧
      Parser.statements depth (.ofText source) = .parsed statements w.stream w.found ∧
      w.stream.current.kind = .eof ∧ w.steps ≤ 4 * (Token.scan source).length := by
  have hends : Parser.statements depth (TokenStream.ofText source) ≠ .exhausted :=
    Parser.statements_ne_exhausted h
  have hfollows := follows_program depth (.ofText source)
  change Follows id _ _ _ _ (Parser.statements depth (TokenStream.ofText source)) at hfollows
  generalize Parser.statements depth (TokenStream.ofText source) = o at hends hfollows ⊢
  rcases statementLoop_ends (statement (expression depth)) (fun _ => false) depth
    (.ofText source) with hnone | ⟨statements, w, hread, hend⟩
  · rw [program, hnone] at hfollows
    cases hfollows
    exact absurd rfl hends
  · rw [program, hread] at hfollows
    cases hfollows with
    | read found_eq cost_le =>
      refine ⟨statements, w, hread, ?_, by simpa using hend, ?_⟩
      · rw [found_eq]
        exact congrArg _ (Findings.nothing_append _).symm
      · refine Nat.le_trans (Nat.le_add_right _ _) (Nat.le_trans cost_le ?_)
        exact Nat.le_of_eq (Nat.zero_add _)
    | exhausted => exact absurd rfl hends

/-- Every text is read to its end, well formed or not.  A bound on the depth of the recursion that
exceeds the number of tokens by one is never used up, a greater one makes no difference, and there
are at most four steps for every token, of the recursion and of all loops together. -/
theorem Program.read_consumes {source : String} {depth : Nat}
    (h : (Token.scan source).length < depth) :
    ∃ statements w, Window.program depth (.ofText source) = .read statements w ∧
      w.stream.tokens = [] ∧ w.stream.current = .endOfText source.utf8ByteSize ∧
      w.steps ≤ 4 * (Token.scan source).length ∧
      Parser.statements depth (.ofText source) = .parsed statements w.stream w.found ∧
      read source = ⟨⟨statements⟩, w.found⟩ := by
  obtain ⟨statements, w, hprogram, hparser, hkind, hsteps⟩ := Window.exists_program_eq h
  have haccounts := Parser.accountsAll_statements depth (.ofText source)
  rw [Parser.Accounts, hparser] at haccounts
  obtain ⟨hsuffix, hsize⟩ := haccounts.1.suffix
  have hproper : Grammar.Proper w.stream :=
    fun t ht => Grammar.proper_ofText source t (hsuffix.subset ht)
  have hnone : w.stream.tokens = [] := hproper.tokens_eq_nil hkind
  have hcurrent : w.stream.current = .endOfText source.utf8ByteSize := by
    rw [TokenStream.current, hnone, hsize]
    rfl
  have hbound : Parser.statements (TokenStream.ofText source).depthBound (.ofText source) =
      .parsed statements w.stream w.found := by
    rw [← hparser]
    refine Alignment.statements_eq (Parser.statements_ofText_ne_exhausted source) ?_
    exact Parser.statements_ne_exhausted h
  refine ⟨statements, w, hprogram, hnone, hcurrent, hsteps, hparser, ?_⟩
  rw [read, hbound]

/-- A text that ends inside a hash, inside a call and inside a block. -/
theorem Program.read_consumes_truncated : ∃ statements w,
    Window.program 20 (.ofText "if (x) \x7b f(1, \x7b2: [3], 4:") = .read statements w ∧
      w.stream.tokens = [] ∧ w.steps ≤ 4 * 18 := by
  have hlength : (Token.scan "if (x) \x7b f(1, \x7b2: [3], 4:").length = 18 := by decide +kernel
  have hdepth : (Token.scan "if (x) \x7b f(1, \x7b2: [3], 4:").length < 20 := by omega
  obtain ⟨statements, w, hprogram, hnone, -, hsteps, -⟩ := read_consumes hdepth
  exact ⟨statements, w, hprogram, hnone, hlength ▸ hsteps⟩

/-! ## The list of errors -/

/-- Between a window and what an action makes of it there is one error for every statement that was
refused; a refusal has one more, its own. -/
def Window.Counted {α : Type} (w : Window) : Result α → Prop
  | .read _ w' => ∃ inner : List ParseError,
      w'.errors = w.errors ++ inner ∧ w'.refusals = w.refusals + inner.length
  | .refused w' => ∃ (inner : List ParseError) (own : ParseError),
      w'.errors = w.errors ++ inner ++ [own] ∧ w'.refusals = w.refusals + inner.length
  | .exhausted => False

lemma Window.counted_statement {depth : Nat} {w : Window}
    (h : w.stream.tokens.length < depth) : w.Counted (statement (expression depth) w) := by
  have hfollows := follows_statement_expression depth w
  have haccounts := Parser.accounts_statement (Parser.accountsExpr_expression depth) w.stream
  have hends := Parser.endsWithin_statement (Parser.totalExpr_expression depth) h
  unfold Parser.Accounts at haccounts
  unfold Parser.EndsWithin at hends
  generalize Parser.statement (Parser.expression depth) w.stream = o at hfollows haccounts hends
  generalize statement (expression depth) w = r at hfollows ⊢
  cases hfollows with
  | read found_eq cost_le =>
    obtain ⟨herrors, hrefusals⟩ := Findings.mk.inj found_eq
    exact ⟨_, herrors, hrefusals.trans (congrArg _ haccounts.2.1)⟩
  | refused found_eq cost_le =>
    obtain ⟨herrors, hrefusals⟩ := Findings.mk.inj found_eq
    exact ⟨_, _, herrors, hrefusals.trans (congrArg _ haccounts.2.1)⟩
  | exhausted => exact hends.elim

/-- The list of errors of a text. -/
theorem Program.errors_of_read (source : String) :
    (∃ statements w,
      Window.program (TokenStream.ofText source).depthBound (.ofText source) =
        .read statements w ∧
      read source = ⟨⟨statements⟩, ⟨w.errors, w.refusals⟩⟩ ∧
      w.errors.length = w.refusals ∧ w.refusals ≤ (Token.scan source).length ∧
      (∀ e ∈ w.errors, ∃ t,
        (t ∈ Token.scan source ∨ t = .endOfText source.utf8ByteSize) ∧ e.At t) ∧
      w.errors.Pairwise fun e e' => e.span.start ≤ e'.span.start) ∧
    ∀ depth (w : Window), w.stream.tokens.length < depth →
      w.Counted (Window.statement (Window.expression depth) w) := by
  refine ⟨?_, fun depth w h => Window.counted_statement h⟩
  obtain ⟨statements, w, hprogram, hparser, -, -⟩ :=
    Window.exists_program_eq (Nat.lt_succ_self (Token.scan source).length)
  have haccounts := Parser.accountsAll_statements (TokenStream.ofText source).depthBound
    (.ofText source)
  change Parser.statements (TokenStream.ofText source).depthBound _ = _ at hparser
  rw [Parser.Accounts, hparser] at haccounts
  obtain ⟨htrail, hdropped, hcount⟩ := haccounts
  refine ⟨statements, w, hprogram, ?_, hdropped.symm, ?_, htrail.exists_token, ?_⟩
  · rw [read, hparser]
    rfl
  · exact Nat.le_trans (Nat.le_add_right _ _) hcount
  · exact htrail.pairwise (TokenStream.ordered_ofText source)

/-- Three statements are refused, one of them in the block of a function that is kept. -/
theorem Program.errors_of_read_nested :
    (∃ w : Window, w.errors.length = 3 ∧ w.refusals = 3 ∧
      (read "let x 5; fn() \x7b let 1; y \x7d; )").errors = w.errors ∧
      w.errors.Pairwise fun e e' => e.span.start ≤ e'.span.start) ∧
    (Window.ofText "fn() \x7b let 1; y \x7d").Counted
      (Window.statement (Window.expression 10) (.ofText "fn() \x7b let 1; y \x7d")) := by
  obtain ⟨⟨statements, w, -, hread, hlength, -, -, hordered⟩, hcounted⟩ :=
    errors_of_read "let x 5; fn() \x7b let 1; y \x7d; )"
  have hdropped : (read "let x 5; fn() \x7b let 1; y \x7d; )").found.dropped = 3 := by
    decide +kernel
  have hrefusals : w.refusals = 3 := by
    rw [hread] at hdropped
    exact hdropped
  refine ⟨⟨w, hlength.trans hrefusals, hrefusals, ?_, hordered⟩, ?_⟩
  · rw [hread]
    rfl
  · exact hcounted 10 (.ofText "fn() \x7b let 1; y \x7d") (by decide +kernel)

end MonkeyLang
