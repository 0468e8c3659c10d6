import Mathlib.Data.List.Forall2
import MonkeyLang.Proofs.Syntax.Tokens
import MonkeyLang.Syntax.Parsing

/-!
# Parsers on two streams

An `Alignment` relates the streams of two runs whose tokens are the same up to their spans, and it
may end: behind some token the streams need not have anything in common.  Two parsers agree if from
aligned streams they answer alike, with aligned errors.  If the first one leaves what the streams
have in common, then one of two things is the case: the second run has found an error before, or
all errors of the first lie beyond.

Every parser agrees with itself, at any two bounds on its depth; a run whose bound is used up is
related to any other.
-/

namespace MonkeyLang

open MonkeyLang.Parser

/-! ## Numbered tokens -/

namespace TokenStream

/-- The token with a number; behind the last token the end of the text. -/
def tokenAt (s : TokenStream) (n : Nat) : Token := s.tokens[n]?.getD (.endOfText s.size)

/-- The stream from the token with a number on. -/
def drop (s : TokenStream) (n : Nat) : TokenStream := { s with tokens := s.tokens.drop n }

lemma current_drop (s : TokenStream) (n : Nat) : (s.drop n).current = s.tokenAt n := by
  rw [current, drop, tokenAt, List.headD_eq_head?_getD, List.head?_drop]

lemma next_drop (s : TokenStream) (n : Nat) : (s.drop n).next = s.drop (n + 1) := by
  rw [next, drop, drop, List.tail_drop]

/-- Streams with the same tokens up to spans have the same numbered tokens up to spans. -/
lemma tokenAt_eraseSpan_eq {s s' : TokenStream}
    (h : s.tokens.map Token.eraseSpan = s'.tokens.map Token.eraseSpan) (n : Nat) :
    (s.tokenAt n).eraseSpan = (s'.tokenAt n).eraseSpan := by
  have hn : (s.tokens[n]?).map Token.eraseSpan = (s'.tokens[n]?).map Token.eraseSpan := by
    rw [← List.getElem?_map, ← List.getElem?_map, h]
  have hD : ∀ r : TokenStream, (r.tokenAt n).eraseSpan =
      ((r.tokens[n]?).map Token.eraseSpan).getD (.endOfText 0) := by
    intro r
    rw [tokenAt]
    cases r.tokens[n]? <;> rfl
  rw [hD, hD, hn]

end TokenStream

/-! ## Alignments -/

/-- A relation between the streams of two runs that lasts while they read what they have in
common.  The trees of the runs are compared by views of their tokens, which forget the spans if
nothing else is said. -/
structure Alignment where
  streams : TokenStream → TokenStream → Prop
  tokens : Token → Token → Prop
  /-- The streams of the first run that lie behind what the runs have in common. -/
  beyond : TokenStream → Prop
  view : Token → Token := .eraseSpan
  view' : Token → Token := .eraseSpan
  eraseSpan_view : ∀ t, (view t).eraseSpan = t.eraseSpan := by exact Token.eraseSpan_eraseSpan
  eraseSpan_view' : ∀ t, (view' t).eraseSpan = t.eraseSpan := by exact Token.eraseSpan_eraseSpan
  view_eq : ∀ {t t'}, tokens t t' → view t = view' t'
  current : ∀ {s s'}, streams s s' → tokens s.current s'.current
  next : ∀ {s s'}, streams s s' → streams s.next s'.next ∨ beyond s.next
  current_beyond : ∀ {s}, beyond s → ∃ t, tokens s.current t
  next_beyond : ∀ {s}, beyond s → beyond s.next

/-- All errors of a reply, in the order they were found. -/
def Reply.errors {α : Type} : Reply α → List ParseError
  | .parsed _ _ found => found.errors
  | .rejected _ found error => found.errors ++ [error]
  | .exhausted => []

/-- The program that was read, or the errors if there are any. -/
def Reply.outcome : Reply (List Stmt) → Except (List ParseError) Program
  | .parsed statements _ found =>
    if found.errors.isEmpty then .ok ⟨statements⟩ else .error found.errors
  | .rejected _ found error => .error (found.errors ++ [error])
  | .exhausted => .ok ⟨[]⟩

lemma Program.parse_eq_outcome (source : String) : parse source =
    (Parser.statements (TokenStream.ofText source).depthBound (.ofText source)).outcome := by
  rw [parse, read]
  cases Parser.statements (TokenStream.ofText source).depthBound (TokenStream.ofText source) with
  | parsed | exhausted => rfl
  | rejected rest found error => simp [Reading.errors, Findings.drop, Reply.outcome]

lemma Reply.errors_after {α : Type} (found : Findings) (o : Reply α) :
    o = .exhausted ∨ (o.after found).errors = found.errors ++ o.errors := by
  cases o with
  | parsed | rejected => exact .inr (by simp [after, errors, Findings.append_def])
  | exhausted => exact .inl rfl

namespace Alignment

variable (A : Alignment) {α α' β β' : Type} {Q : α → α' → Prop} {R : β → β' → Prop}

lemma eraseSpan_eq {t t' : Token} (h : A.tokens t t') : t.eraseSpan = t'.eraseSpan := by
  rw [← A.eraseSpan_view t, ← A.eraseSpan_view' t', A.view_eq h]

lemma kind_eq {t t' : Token} (h : A.tokens t t') : t.kind = t'.kind :=
  (Token.eraseSpan_eq_iff.1 (A.eraseSpan_eq h)).1

lemma literal_eq {t t' : Token} (h : A.tokens t t') : t.literal = t'.literal :=
  (Token.eraseSpan_eq_iff.1 (A.eraseSpan_eq h)).2

/-- The same fault, found at aligned tokens. -/
structure Errors (e e' : ParseError) : Prop where
  fault : e.fault = e'.fault
  span : ∃ t t', A.tokens t t' ∧ e.span = t.span ∧ e'.span = t'.span

/-- The same was found, and as much was left out. -/
structure Found (found found' : Findings) : Prop where
  errors : List.Forall₂ A.Errors found.errors found'.errors
  dropped : found.dropped = found'.dropped

/-- The error was found at a token behind what the runs have in common. -/
def Beyond (e : ParseError) : Prop := ∃ s, A.beyond s ∧ e.span = s.current.span

/-- The reply to a stream behind what the runs have in common; a value that was read could have
been read by the second run as well. -/
inductive Late (Q : α → α' → Prop) : Reply α → Prop where
  | parsed {a : α} {a' : α'} {r : TokenStream} {found : Findings} (value : Q a a')
      (rest : A.beyond r) (errors : ∀ e ∈ found.errors, A.Beyond e) : Late Q (.parsed a r found)
  | rejected {r : TokenStream} {found : Findings} {error : ParseError} (rest : A.beyond r)
      (errors : ∀ e ∈ found.errors, A.Beyond e) (last : A.Beyond error) :
      Late Q (.rejected r found error)
  | exhausted : Late Q .exhausted

/-- The replies to aligned streams. -/
inductive Replies (Q : α → α' → Prop) : Reply α → Reply α' → Prop where
  | parsed {a : α} {a' : α'} {r r' : TokenStream} {before before' : Findings} (value : Q a a')
      (rest : A.streams r r') (found : A.Found before before') :
      Replies Q (.parsed a r before) (.parsed a' r' before')
  | rejected {r r' : TokenStream} {before before' : Findings} {error error' : ParseError}
      (rest : A.streams r r') (found : A.Found before before') (last : A.Errors error error') :
      Replies Q (.rejected r before error) (.rejected r' before' error')
  | left {o' : Reply α'} : Replies Q .exhausted o'
  | right {o : Reply α} : Replies Q o .exhausted
  | late {o : Reply α} {o' : Reply α'} (ends : ∃ s, A.beyond s) (late : A.Late Q o) :
      Replies Q o o'
  /-- The runs have parted behind an error. -/
  | parted {o : Reply α} {o' : Reply α'} (ends : ∃ s, A.beyond s) (failed : o'.errors ≠ []) :
      Replies Q o o'

/-- The parsers answer alike. -/
structure Agree (Q : α → α' → Prop) (p : Parser α) (p' : Parser α') : Prop where
  replies : ∀ {s s'}, A.streams s s' → A.Replies Q (p s) (p' s')
  late : ∀ {s}, A.beyond s → A.Late Q (p s)

variable {A}

/-! ## Findings -/

lemma found_nothing : A.Found .nothing .nothing := ⟨.nil, rfl⟩

lemma Found.append {found found' more more' : Findings} (h : A.Found found found')
    (hmore : A.Found more more') : A.Found (found ++ more) (found' ++ more') :=
  ⟨List.rel_append h.errors hmore.errors, congrArg₂ (· + ·) h.dropped hmore.dropped⟩

lemma Found.drop {found found' : Findings} {error error' : ParseError}
    (h : A.Found found found') (herror : A.Errors error error') :
    A.Found (found.drop error) (found'.drop error') :=
  ⟨List.rel_append h.errors (.cons herror .nil), congrArg (· + 1) h.dropped⟩

lemma Late.after {found : Findings} {o : Reply α} (h : A.Late Q o)
    (hfound : ∀ e ∈ found.errors, A.Beyond e) : A.Late Q (o.after found) := by
  cases h with
  | parsed value rest errors =>
    exact .parsed value rest (List.forall_mem_append.2 ⟨hfound, errors⟩)
  | rejected rest errors last =>
    exact .rejected rest (List.forall_mem_append.2 ⟨hfound, errors⟩) last
  | exhausted => exact .exhausted

/-- Errors found before are no fewer than none. -/
lemma errors_after_ne_nil {found : Findings} {o : Reply α} (h : o ≠ .exhausted)
    (herrors : found.errors ≠ [] ∨ o.errors ≠ []) : (o.after found).errors ≠ [] := by
  rw [(Reply.errors_after found o).resolve_left h, Ne, List.append_eq_nil_iff]
  exact fun hnone => herrors.elim (· hnone.1) (· hnone.2)

lemma Replies.after {found found' : Findings} {o : Reply α} {o' : Reply α'}
    (h : A.Replies Q o o') (hfound : A.Found found found') :
    A.Replies Q (o.after found) (o'.after found') := by
  cases h with
  | parsed value rest more => exact .parsed value rest (hfound.append more)
  | rejected rest more last => exact .rejected rest (hfound.append more) last
  | left => exact .left
  | right => exact .right
  | late ends late =>
    by_cases hexhausted : o' = .exhausted
    · subst hexhausted
      exact .right
    · by_cases hnone : found.errors = []
      · exact .late ends (late.after (by simp [hnone]))
      · refine .parted ends (errors_after_ne_nil hexhausted (.inl fun hnone' => hnone ?_))
        exact List.forall₂_nil_right_iff.1 (hnone' ▸ hfound.errors)
  | parted ends failed =>
    refine .parted ends (errors_after_ne_nil ?_ (.inr failed))
    rintro rfl
    exact failed rfl

/-! ## Combinators -/

namespace Agree

lemma pure {a : α} {a' : α'} (h : Q a a') : A.Agree Q (Pure.pure a) (Pure.pure a') where
  replies hs := .parsed h hs found_nothing
  late hs := .parsed h hs (by simp [Findings.nothing])

lemma bind {p : Parser α} {p' : Parser α'} {f : α → Parser β} {f' : α' → Parser β'}
    (h : A.Agree Q p p') (hf : ∀ a a', Q a a' → A.Agree R (f a) (f' a')) :
    A.Agree R (p >>= f) (p' >>= f') := by
  have hlate : ∀ o : Reply α, A.Late Q o → A.Late R (o.andThen f) := by
    intro o ho
    cases ho with
    | parsed value rest errors => exact ((hf _ _ value).late rest).after errors
    | rejected rest errors last => exact .rejected rest errors last
    | exhausted => exact .exhausted
  constructor
  · intro s s' hs
    have hp := h.replies hs
    rw [Parser.bind_apply, Parser.bind_apply]
    generalize p s = o at hp ⊢
    generalize p' s' = o' at hp ⊢
    cases hp with
    | parsed value rest found => exact ((hf _ _ value).replies rest).after found
    | rejected rest found last => exact .rejected rest found last
    | left => exact .left
    | right => exact .right
    | late ends late => exact .late ends (hlate _ late)
    | parted ends failed =>
      cases o' with
      | parsed a' r' found' =>
        by_cases hexhausted : f' a' r' = .exhausted
        · rw [Reply.andThen, hexhausted]
          exact .right
        · exact .parted ends (errors_after_ne_nil hexhausted (.inl failed))
      | rejected r' found' error' => exact .parted ends failed
      | exhausted => exact .right
  · intro s hs
    rw [Parser.bind_apply]
    exact hlate _ (h.late hs)

lemma left {p' : Parser α'} : A.Agree Q Parser.exhausted p' where
  replies _ := .left
  late _ := .exhausted

/-- The second run may have its bound used up at any time. -/
lemma right {p : Parser α} {p' : Parser α'} (h : A.Agree Q p p') :
    A.Agree Q p Parser.exhausted where
  replies _ := .right
  late := h.late

lemma peek : A.Agree A.tokens Parser.peek Parser.peek where
  replies hs := .parsed (A.current hs) hs found_nothing
  late hs := by
    obtain ⟨t, ht⟩ := A.current_beyond hs
    exact .parsed ht hs (by simp [Findings.nothing])

lemma take : A.Agree A.tokens Parser.take Parser.take where
  replies hs := by
    rcases A.next hs with hnext | hnext
    · exact .parsed (A.current hs) hnext found_nothing
    · exact .late ⟨_, hnext⟩ (.parsed (A.current hs) hnext (by simp [Findings.nothing]))
  late hs := by
    obtain ⟨t, ht⟩ := A.current_beyond hs
    exact .parsed ht (A.next_beyond hs) (by simp [Findings.nothing])

lemma reject (fault : ParseFault) :
    A.Agree Q (Parser.reject fault) (Parser.reject fault) where
  replies hs := .rejected hs found_nothing ⟨rfl, _, _, A.current hs, rfl, rfl⟩
  late hs := .rejected hs (by simp [Findings.nothing]) ⟨_, hs, rfl⟩

lemma rejectPast (fault : ParseFault) :
    A.Agree Q (Parser.rejectPast fault) (Parser.rejectPast fault) where
  replies hs := by
    rcases A.next hs with hnext | hnext
    · exact .rejected hnext found_nothing ⟨rfl, _, _, A.current hs, rfl, rfl⟩
    · exact .parted ⟨_, hnext⟩ (by simp [Parser.rejectPast, Reply.errors])
  late hs := .rejected (A.next_beyond hs) (by simp [Findings.nothing]) ⟨_, hs, rfl⟩

lemma expect (kind : TokenKind) :
    A.Agree A.tokens (Parser.expect kind) (Parser.expect kind) := by
  refine peek.bind fun t t' ht => ?_
  rw [A.kind_eq ht]
  split
  · exact take
  · exact reject _

lemma skip (kind : TokenKind) :
    A.Agree (fun _ _ => True) (Parser.skip kind) (Parser.skip kind) := by
  refine peek.bind fun t t' ht => ?_
  rw [A.kind_eq ht]
  split
  · exact take.bind fun _ _ _ => pure trivial
  · exact pure trivial

/-- A statement is left out by both runs or by neither. -/
lemma attempt {p : Parser α} {p' : Parser α'} (h : A.Agree Q p p') :
    A.Agree (fun o o' => List.Forall₂ Q o.toList o'.toList) (Parser.attempt p)
      (Parser.attempt p') := by
  have hlate : ∀ {s}, A.Late Q (p s) →
      A.Late (fun (o : Option α) (o' : Option α') => List.Forall₂ Q o.toList o'.toList)
        (Parser.attempt p s) := by
    intro s hs
    unfold Parser.attempt
    generalize p s = o at hs ⊢
    cases hs with
    | @parsed a a' _ _ value rest errors =>
      have hsome : List.Forall₂ Q (some a).toList (some a').toList := .cons value .nil
      exact .parsed hsome rest errors
    | rejected rest errors last =>
      have hnone : List.Forall₂ Q (none : Option α).toList (none : Option α').toList := .nil
      refine .parsed hnone rest ?_
      exact List.forall_mem_append.2 ⟨errors, List.forall_mem_singleton.2 last⟩
    | exhausted => exact .exhausted
  constructor
  · intro s s' hs
    have hp := h.replies hs
    have hl := @hlate s
    unfold Parser.attempt at hl ⊢
    generalize p s = o at hp hl ⊢
    generalize p' s' = o' at hp ⊢
    cases hp with
    | parsed value rest found => exact .parsed (.cons value .nil) rest found
    | rejected rest found last => exact .parsed .nil rest (found.drop last)
    | left => exact .left
    | right => exact .right
    | late ends late => exact .late ends (hl late)
    | parted ends failed =>
      cases o' with
      | parsed a' r' found' => exact .parted ends failed
      | rejected r' found' error' =>
        exact .parted ends (by simp [Reply.errors, Findings.drop])
      | exhausted => exact .right
  · intro s hs
    exact hlate (h.late hs)

end Agree

/-! ## Lists -/

section

variable {item : Parser α} {item' : Parser α'}

lemma agree_itemsUpTo (h : A.Agree Q item item') (close : TokenKind) (depth depth' : Nat) :
    A.Agree (List.Forall₂ Q) (itemsUpTo item close depth) (itemsUpTo item' close depth') := by
  induction depth generalizing depth' with
  | zero => exact .left
  | succ depth ih =>
    have hstep : ∀ n, A.Agree (List.Forall₂ Q) (itemsUpTo item close (depth + 1))
        (itemsUpTo item' close (n + 1)) := by
      intro n
      refine h.bind fun x x' hx => Agree.peek.bind fun t t' ht => ?_
      rw [A.kind_eq ht]
      split
      · exact Agree.take.bind fun _ _ _ => (ih n).bind fun xs xs' hxs => .pure (.cons hx hxs)
      · exact (Agree.expect close).bind fun _ _ _ => .pure (.cons hx .nil)
    cases depth' with
    | zero => exact (hstep depth).right
    | succ n => exact hstep n

lemma agree_delimited (h : A.Agree Q item item') (close : TokenKind) (depth depth' : Nat) :
    A.Agree (List.Forall₂ Q) (delimited item close depth) (delimited item' close depth') := by
  refine Agree.peek.bind fun t t' ht => ?_
  rw [A.kind_eq ht]
  split
  · exact Agree.take.bind fun _ _ _ => .pure .nil
  · exact agree_itemsUpTo h close depth depth'

end

/-! ## Trees -/

variable (A) in
/-- The trees are the same in the views of their tokens. -/
abbrev Trees (e e' : Expr) : Prop := e.mapTokens A.view = e'.mapTokens A.view'

variable (A) in
abbrev Names (x x' : Ident) : Prop := x.mapTokens A.view = x'.mapTokens A.view'

variable (A) in
abbrev Statements (s s' : Stmt) : Prop := s.mapTokens A.view = s'.mapTokens A.view'

variable (A) in
abbrev Blocks (b b' : Block) : Prop := b.mapTokens A.view = b'.mapTokens A.view'

variable (A) in
abbrev PairLists (ps ps' : List (Expr × Expr)) : Prop :=
  mapTokensPairs A.view ps = mapTokensPairs A.view' ps'

lemma names_ofToken {t t' : Token} (h : A.tokens t t') :
    A.Names (.ofToken t) (.ofToken t') := by
  rw [Names, Ident.ofToken, Ident.ofToken, Ident.mapTokens, Ident.mapTokens, A.view_eq h,
    A.literal_eq h]

lemma map_eq_of_names {xs xs' : List Ident} (h : List.Forall₂ A.Names xs xs') :
    xs.map (Ident.mapTokens A.view) = xs'.map (Ident.mapTokens A.view') := by
  induction h with
  | nil => rfl
  | cons first _ ih => rw [List.map_cons, List.map_cons, first, ih]

lemma mapTokensExprs_congr {f g : Token → Token} {es es' : List Expr}
    (h : List.Forall₂ (fun e e' => Expr.mapTokens f e = e'.mapTokens g) es es') :
    mapTokensExprs f es = mapTokensExprs g es' := by
  induction h with
  | nil => rfl
  | cons first _ ih => rw [mapTokensExprs, mapTokensExprs, first, ih]

lemma mapTokensStmts_congr {f g : Token → Token} {ss ss' : List Stmt}
    (h : List.Forall₂ (fun s s' => Stmt.mapTokens f s = s'.mapTokens g) ss ss') :
    mapTokensStmts f ss = mapTokensStmts g ss' := by
  induction h with
  | nil => rfl
  | cons first _ ih => rw [mapTokensStmts, mapTokensStmts, first, ih]

section

variable {p p' : Precedence → Parser Expr}

lemma agree_parameter : A.Agree A.Names parameter parameter := by
  refine Agree.peek.bind fun t t' ht => ?_
  rw [A.kind_eq ht]
  split
  · exact Agree.take.bind fun _ _ hname => .pure (names_ofToken hname)
  · exact .rejectPast _

lemma agree_pairsUpTo {item item' : Parser Expr} (h : A.Agree A.Trees item item')
    (depth depth' : Nat) :
    A.Agree A.PairLists (pairsUpTo item depth) (pairsUpTo item' depth') := by
  induction depth generalizing depth' with
  | zero => exact .left
  | succ depth ih =>
    have hstep : ∀ n, A.Agree A.PairLists (pairsUpTo item (depth + 1))
        (pairsUpTo item' (n + 1)) := by
      intro n
      refine Agree.peek.bind fun t t' ht => ?_
      rw [A.kind_eq ht]
      split
      · exact Agree.take.bind fun _ _ _ => .pure rfl
      · refine h.bind fun key key' hkey => (Agree.expect _).bind fun _ _ _ => ?_
        refine h.bind fun value value' hvalue => ?_
        have hmore : A.Agree A.PairLists
            (do return (key, value) :: (← pairsUpTo item depth))
            (do return (key', value') :: (← pairsUpTo item' n)) := by
          refine (ih n).bind fun pairs pairs' hpairs => .pure ?_
          rw [PairLists, mapTokensPairs, mapTokensPairs, hkey, hvalue, hpairs]
        refine Agree.peek.bind fun u u' hu => ?_
        rw [A.kind_eq hu]
        split
        · exact (Agree.expect .comma).bind fun _ _ _ => hmore
        · exact hmore
    cases depth' with
    | zero => exact (hstep depth).right
    | succ n => exact hstep n

lemma agree_statementsUpTo {statement statement' : Parser Stmt}
    (h : A.Agree A.Statements statement statement') (closes : TokenKind → Bool)
    (depth depth' : Nat) :
    A.Agree (List.Forall₂ A.Statements) (statementsUpTo statement closes depth)
      (statementsUpTo statement' closes depth') := by
  induction depth generalizing depth' with
  | zero => exact .left
  | succ depth ih =>
    have hstep : ∀ n, A.Agree (List.Forall₂ A.Statements)
        (statementsUpTo statement closes (depth + 1))
        (statementsUpTo statement' closes (n + 1)) := by
      intro n
      refine Agree.peek.bind fun t t' ht => ?_
      rw [A.kind_eq ht]
      dsimp only
      split
      · exact .pure .nil
      · refine h.attempt.bind fun first first' hfirst => ?_
        exact (ih n).bind fun more more' hmore => .pure (List.rel_append hfirst hmore)
    cases depth' with
    | zero => exact (hstep depth).right
    | succ n => exact hstep n

/-! ## Statements and blocks -/

/-- Expressions of every strength are read alike. -/
abbrev AgreeExprs (A : Alignment) (p p' : Precedence → Parser Expr) : Prop :=
  ∀ floor, A.Agree A.Trees (p floor) (p' floor)

lemma agree_statement (h : A.AgreeExprs p p') :
    A.Agree A.Statements (statement p) (statement p') := by
  refine Agree.peek.bind fun t t' ht => ?_
  have htoken := A.view_eq ht
  -- What is read behind the first tokens of a statement, whichever they are.
  have hvalue : ∀ (f f' : Expr → Stmt), (∀ e e', A.Trees e e' → A.Statements (f e) (f' e')) →
      A.Agree A.Statements
        (do let value ← p .lowest; skip .semicolon; return f value)
        (do let value ← p' .lowest; skip .semicolon; return f' value) := fun f f' hf =>
    (h .lowest).bind fun e e' he => (Agree.skip _).bind fun _ _ _ => .pure (hf e e' he)
  rw [A.kind_eq ht]
  generalize t'.kind = kind
  split
  · refine Agree.take.bind fun _ _ _ => (Agree.expect _).bind fun name name' hname => ?_
    refine (Agree.expect _).bind fun _ _ _ => hvalue _ _ fun e e' he => ?_
    rw [Statements, Stmt.mapTokens, Stmt.mapTokens, htoken, he, names_ofToken hname]
  · refine Agree.take.bind fun _ _ _ => hvalue _ _ fun e e' he => ?_
    rw [Statements, Stmt.mapTokens, Stmt.mapTokens, htoken, he]
  · refine hvalue _ _ fun e e' he => ?_
    rw [Statements, Stmt.mapTokens, Stmt.mapTokens, htoken, he]

lemma agree_bracedBlock (h : A.AgreeExprs p p') (depth depth' : Nat) :
    A.Agree A.Blocks (bracedBlock p depth) (bracedBlock p' depth') := by
  refine Agree.peek.bind fun t t' ht => ?_
  rw [A.kind_eq ht]
  split
  · refine Agree.take.bind fun u u' hu => ?_
    refine (agree_statementsUpTo (agree_statement h) _ depth depth').bind fun ss ss' hss => ?_
    refine Agree.take.bind fun _ _ _ => .pure ?_
    rw [Blocks, Block.mapTokens, Block.mapTokens, A.view_eq hu, mapTokensStmts_congr hss]
  · refine Agree.peek.bind fun u u' hu => ?_
    rw [A.kind_eq hu]
    exact .reject _

lemma agree_alternative (h : A.AgreeExprs p p') (depth depth' : Nat) :
    A.Agree (fun b b' => mapTokensAlternative A.view b = mapTokensAlternative A.view' b')
      (alternative p depth) (alternative p' depth') := by
  refine Agree.peek.bind fun t t' ht => ?_
  rw [A.kind_eq ht]
  split
  · refine Agree.take.bind fun _ _ _ => (agree_bracedBlock h depth depth').bind fun b b' hb => ?_
    exact .pure (congrArg some hb)
  · exact .pure rfl

/-! ## Expressions -/

lemma agree_operand (h : A.AgreeExprs p p') (depth depth' : Nat) :
    A.Agree A.Trees (operand p depth) (operand p' depth') := by
  refine Agree.peek.bind fun t t' ht => ?_
  have htoken := A.view_eq ht
  have hliteral := A.literal_eq ht
  rw [A.kind_eq ht]
  generalize t'.kind = kind
  cases kind
  case ident =>
    refine Agree.take.bind fun u u' hu => .pure ?_
    rw [Trees, Expr.mapTokens, Expr.mapTokens, names_ofToken hu]
  case int =>
    rw [hliteral]
    cases integerOfLiteral? t'.literal with
    | some n =>
      refine Agree.take.bind fun _ _ _ => .pure ?_
      rw [Trees, Expr.mapTokens, Expr.mapTokens, htoken]
    | none => exact .rejectPast _
  case string =>
    refine Agree.take.bind fun _ _ _ => .pure ?_
    rw [Trees, Expr.mapTokens, Expr.mapTokens, htoken, hliteral]
  case trueWord =>
    refine Agree.take.bind fun _ _ _ => .pure ?_
    rw [Trees, Expr.mapTokens, Expr.mapTokens, htoken]
  case falseWord =>
    refine Agree.take.bind fun _ _ _ => .pure ?_
    rw [Trees, Expr.mapTokens, Expr.mapTokens, htoken]
  case bang =>
    refine Agree.take.bind fun _ _ _ => (h .unary).bind fun e e' he => .pure ?_
    rw [Trees, Expr.mapTokens, Expr.mapTokens, htoken, he]
  case minus =>
    refine Agree.take.bind fun _ _ _ => (h .unary).bind fun e e' he => .pure ?_
    rw [Trees, Expr.mapTokens, Expr.mapTokens, htoken, he]
  case lparen =>
    refine Agree.take.bind fun _ _ _ => (h .lowest).bind fun e e' he => ?_
    exact (Agree.expect _).bind fun _ _ _ => .pure he
  case ifWord =>
    refine Agree.take.bind fun _ _ _ => (Agree.expect _).bind fun _ _ _ => ?_
    refine (h .lowest).bind fun condition condition' hcondition => ?_
    refine (Agree.expect _).bind fun _ _ _ => ?_
    refine (agree_bracedBlock h depth depth').bind fun b b' hb => ?_
    refine (agree_alternative h depth depth').bind fun other other' hother => .pure ?_
    rw [Trees, Expr.mapTokens, Expr.mapTokens, htoken, hcondition, hb, hother]
  case function =>
    refine Agree.take.bind fun _ _ _ => (Agree.expect _).bind fun _ _ _ => ?_
    refine (agree_delimited agree_parameter _ depth depth').bind fun xs xs' hxs => ?_
    refine (agree_bracedBlock h depth depth').bind fun b b' hb => .pure ?_
    rw [Trees, Expr.mapTokens, Expr.mapTokens, htoken, hb, map_eq_of_names hxs]
  case lbracket =>
    refine Agree.take.bind fun _ _ _ => ?_
    refine (agree_delimited (h .lowest) _ depth depth').bind fun es es' hes => .pure ?_
    rw [Trees, Expr.mapTokens, Expr.mapTokens, htoken, mapTokensExprs_congr hes]
  case lbrace =>
    refine Agree.take.bind fun _ _ _ => ?_
    refine (agree_pairsUpTo (h .lowest) depth depth').bind fun ps ps' hps => .pure ?_
    rw [Trees, Expr.mapTokens, Expr.mapTokens, htoken, hps]
  all_goals exact .rejectPast _

lemma agree_continued (h : A.AgreeExprs p p') (depth depth' : Nat) {left left' : Expr}
    (hleft : A.Trees left left') (c : Continuation) :
    A.Agree A.Trees (continued p depth left c) (continued p' depth' left' c) := by
  cases c with
  | call =>
    refine Agree.take.bind fun t t' ht => ?_
    refine (agree_delimited (h .lowest) _ depth depth').bind fun es es' hes => .pure ?_
    rw [Trees, Expr.mapTokens, Expr.mapTokens, A.view_eq ht, hleft, mapTokensExprs_congr hes]
  | index =>
    refine Agree.take.bind fun t t' ht => (h .lowest).bind fun e e' he => ?_
    refine (Agree.expect _).bind fun _ _ _ => .pure ?_
    rw [Trees, Expr.mapTokens, Expr.mapTokens, A.view_eq ht, hleft, he]
  | binary op =>
    refine Agree.take.bind fun t t' ht => (h op.precedence).bind fun e e' he => .pure ?_
    rw [Trees, Expr.mapTokens, Expr.mapTokens, A.view_eq ht, hleft, he]

lemma agree_climb (h : A.AgreeExprs p p') (floor : Precedence) (depth depth' : Nat)
    {left left' : Expr} (hleft : A.Trees left left') :
    A.Agree A.Trees (climb p floor depth left) (climb p' floor depth' left') := by
  induction depth generalizing depth' left left' with
  | zero => exact .left
  | succ depth ih =>
    have hstep : ∀ n, A.Agree A.Trees (climb p floor (depth + 1) left)
        (climb p' floor (n + 1) left') := by
      intro n
      refine Agree.peek.bind fun t t' ht => ?_
      rw [A.kind_eq ht]
      cases Continuation.ofKind? t'.kind with
      | none => exact .pure hleft
      | some c =>
        dsimp only
        split
        · exact (agree_continued h depth n hleft c).bind fun e e' he => ih n he
        · exact .pure hleft
    cases depth' with
    | zero => exact (hstep depth).right
    | succ n => exact hstep n

end

lemma agree_expression (depth depth' : Nat) :
    A.AgreeExprs (expression depth) (expression depth') := by
  induction depth generalizing depth' with
  | zero => exact fun _ => .left
  | succ depth ih =>
    have hstep : ∀ n, A.AgreeExprs (expression (depth + 1)) (expression (n + 1)) := by
      intro n floor
      exact (agree_operand (ih n) depth n).bind fun e e' he => agree_climb (ih n) floor depth n he
    cases depth' with
    | zero => exact fun floor => (hstep depth floor).right
    | succ n => exact hstep n

/-- The statements of aligned streams are read alike. -/
lemma agree_statements (depth depth' : Nat) :
    A.Agree (List.Forall₂ A.Statements) (statements depth) (statements depth') :=
  agree_statementsUpTo (agree_statement (agree_expression depth depth')) _ depth depth'

/-! ## Outcomes -/

variable (A) in
/-- Programs that are the same in the views of their tokens, or aligned errors. -/
inductive Outcomes : Except (List ParseError) Program → Except (List ParseError) Program →
    Prop where
  | ok {p p' : Program} (trees : p.mapTokens A.view = p'.mapTokens A.view') :
      Outcomes (.ok p) (.ok p')
  | error {es es' : List ParseError} (errors : List.Forall₂ A.Errors es es') :
      Outcomes (.error es) (.error es')

/-- Runs that have everything in common end alike. -/
lemma Replies.outcomes {o o' : Reply (List Stmt)}
    (h : A.Replies (List.Forall₂ A.Statements) o o') (hbeyond : ∀ s, ¬ A.beyond s)
    (ho : o ≠ .exhausted) (ho' : o' ≠ .exhausted) : A.Outcomes o.outcome o'.outcome := by
  cases h with
  | @parsed _ _ _ _ before before' value rest found =>
    have herrors := found.errors
    rw [Reply.outcome, Reply.outcome]
    generalize before.errors = es at herrors ⊢
    generalize before'.errors = es' at herrors ⊢
    cases herrors with
    | nil => exact .ok (congrArg Program.mk (mapTokensStmts_congr value))
    | cons first others => exact .error (.cons first others)
  | rejected rest found last => exact .error (List.rel_append found.errors (.cons last .nil))
  | left => exact absurd rfl ho
  | right => exact absurd rfl ho'
  | late ends late => exact ends.elim fun s hs => (hbeyond s hs).elim
  | parted ends failed => exact ends.elim fun s hs => (hbeyond s hs).elim

/-- The statements of streams that have everything in common are read alike. -/
lemma outcomes_statementsUpTo {s s' : TokenStream} (hs : A.streams s s')
    (hbeyond : ∀ s, ¬ A.beyond s) {closes : TokenKind → Bool} {depth depth' n n' : Nat}
    (h : statementsUpTo (statement (expression depth)) closes n s ≠ .exhausted)
    (h' : statementsUpTo (statement (expression depth')) closes n' s' ≠ .exhausted) :
    A.Outcomes (statementsUpTo (statement (expression depth)) closes n s).outcome
      (statementsUpTo (statement (expression depth')) closes n' s').outcome :=
  ((agree_statementsUpTo (agree_statement (agree_expression depth depth')) closes n n').replies
    hs).outcomes hbeyond h h'

/-! ## The same tokens -/

/-- Streams with the same tokens up to spans, of which as much has been read. -/
def layout {s s' : TokenStream}
    (h : s.tokens.map Token.eraseSpan = s'.tokens.map Token.eraseSpan) : Alignment where
  streams r r' := ∃ n, r = s.drop n ∧ r' = s'.drop n
  tokens t t' := ∃ n, t = s.tokenAt n ∧ t' = s'.tokenAt n
  beyond _ := False
  view_eq := by
    rintro _ _ ⟨n, rfl, rfl⟩
    exact TokenStream.tokenAt_eraseSpan_eq h n
  current := by
    rintro _ _ ⟨n, rfl, rfl⟩
    exact ⟨n, s.current_drop n, s'.current_drop n⟩
  next := by
    rintro _ _ ⟨n, rfl, rfl⟩
    exact .inl ⟨n + 1, s.next_drop n, s'.next_drop n⟩
  current_beyond := False.elim
  next_beyond := False.elim

/-- Streams with the same tokens up to spans are read alike. -/
lemma outcomes_layout {s s' : TokenStream}
    (h : s.tokens.map Token.eraseSpan = s'.tokens.map Token.eraseSpan) {depth depth' : Nat}
    (hs : statements depth s ≠ .exhausted) (hs' : statements depth' s' ≠ .exhausted) :
    (layout h).Outcomes (statements depth s).outcome (statements depth' s').outcome :=
  outcomes_statementsUpTo (A := layout h) ⟨0, rfl, rfl⟩ (fun _ => id) hs hs'

/-! ## The same stream -/

/-- A stream and itself. -/
def same : Alignment where
  streams := Eq
  tokens := Eq
  beyond _ := False
  view := id
  view' := id
  eraseSpan_view _ := rfl
  eraseSpan_view' _ := rfl
  view_eq := congrArg id
  current := congrArg TokenStream.current
  next h := .inl (congrArg TokenStream.next h)
  current_beyond := False.elim
  next_beyond := False.elim

lemma Errors.eq_of_same {e e' : ParseError} (h : same.Errors e e') : e = e' := by
  obtain ⟨fault, span⟩ := e
  obtain ⟨fault', span'⟩ := e'
  obtain ⟨rfl, t, _, rfl, rfl, rfl⟩ := h
  rfl

lemma Found.eq_of_same {found found' : Findings} (h : same.Found found found') :
    found = found' := by
  obtain ⟨errors, dropped⟩ := found
  obtain ⟨errors', dropped'⟩ := found'
  obtain ⟨herrors, rfl⟩ := h
  obtain rfl : errors = errors' := by
    rw [← List.forall₂_eq_eq_eq]
    exact herrors.imp fun _ _ => Errors.eq_of_same
  rfl

lemma Replies.eq_of_same {o o' : Reply (List Stmt)}
    (h : same.Replies (List.Forall₂ same.Statements) o o') (ho : o ≠ .exhausted)
    (ho' : o' ≠ .exhausted) : o = o' := by
  cases h with
  | @parsed program program' _ _ _ _ value rest found =>
    have hstatements : ∀ s s' : Stmt, same.Statements s s' → s = s' := by
      intro s s' hs
      change s.mapTokens id = s'.mapTokens id at hs
      rwa [Stmt.mapTokens_id, Stmt.mapTokens_id] at hs
    obtain rfl : program = program' := by
      rw [← List.forall₂_eq_eq_eq]
      exact value.imp hstatements
    rw [rest, found.eq_of_same]
  | rejected rest found last => rw [rest, found.eq_of_same, last.eq_of_same]
  | left => exact absurd rfl ho
  | right => exact absurd rfl ho'
  | late ends late => exact ends.elim fun s hs => hs.elim
  | parted ends failed => exact ends.elim fun s hs => hs.elim

/-- Bounds that suffice make no difference. -/
theorem statements_eq {s : TokenStream} {depth depth' : Nat} (h : statements depth s ≠ .exhausted)
    (h' : statements depth' s ≠ .exhausted) : statements depth s = statements depth' s :=
  ((agree_statements (A := same) depth depth').replies rfl).eq_of_same h h'

end Alignment

end MonkeyLang
