import MonkeyLang.Proofs.Syntax.Language
import MonkeyLang.Proofs.Syntax.Viability

/-!
# The first error of a text

The first error of a text is found at the earliest token at which it can be found.  What stands
before this token is the beginning of a text without errors: it can be completed as a list of
tokens (`Grammar.viable_statements`), and all tokens that complete it can be spelled.  With the
token it is not: a run on any text that begins with these tokens shares what has been read when the
error is found (`Alignment.sharing`).
-/

namespace MonkeyLang

open MonkeyLang.Parser

/-! ## Spelling tokens -/

namespace Token

variable {slice after : List Char} {k : TokenKind} {literal : String}

/-- A token of a text can be spelled with a blank behind it.  A string that the text leaves open is
spelled with its second quote. -/
lemma spellable_of_rule {t : Token} (h : TokenRule slice after t.kind t.literal) :
    t.Spellable := by
  obtain ⟨kind, literal, span⟩ := t
  have hblank : ∀ rest, ∀ d ∈ (' ' :: rest).head?, ¬ IsLetter d ∧ ¬ IsDigit d := by
    simp [IsLetter, IsDigit]
  cases h with
  | keyword entry => exact ⟨_, fun rest => .keyword entry fun d hd => (hblank rest d hd).1⟩
  | name nonempty letters free =>
    exact ⟨_, fun rest => .name nonempty letters free fun d hd => (hblank rest d hd).1⟩
  | numeral nonempty digits =>
    exact ⟨_, fun rest => .numeral nonempty digits fun d hd => (hblank rest d hd).2⟩
  | equal => exact ⟨_, fun _ => .equal⟩
  | notEqual => exact ⟨_, fun _ => .notEqual⟩
  | sign entry => exact ⟨_, fun _ => .sign entry fun _ => by simp⟩
  | quoted plain | unclosed plain => exact ⟨_, fun _ => .quoted plain⟩
  | illegal letter digit quote sign blank =>
    exact ⟨_, fun _ => .illegal letter digit quote sign blank⟩

lemma spellable_of_mem_scan {source : String} : ∀ t ∈ scan source, t.Spellable := by
  intro t ht
  have htokens := (tokenization_iff_eq_scanFrom 0 source.toList (scan source)).2 rfl
  obtain ⟨-, slice, after, -, -, hrule⟩ := htokens.covers t ht
  exact spellable_of_rule hrule

lemma Spellable.kind_ne_eof {t : Token} (h : t.Spellable) : t.kind ≠ .eof := by
  obtain ⟨slice, hrule⟩ := h
  obtain ⟨c, cs, -, -, hfirst⟩ := (hrule []).first_eq
  have hkind := Lexeme.kind_first_ne_eof c cs
  rwa [hfirst] at hkind

/-- Tokens that can be spelled are the tokens of a text, up to their spans. -/
lemma exists_scan_eq {tokens : List Token} (h : ∀ t ∈ tokens, t.Spellable) :
    ∃ source, (scan source).map eraseSpan = tokens.map eraseSpan := by
  have hchars : ∃ cs, ∀ offset, (scanFrom offset cs).map eraseSpan = tokens.map eraseSpan := by
    induction tokens with
    | nil => exact ⟨[], fun offset => by rw [scanFrom]⟩
    | cons t tokens ih =>
      obtain ⟨⟨slice, hrule⟩, hothers⟩ := List.forall_mem_cons.1 h
      obtain ⟨cs, hcs⟩ := ih hothers
      obtain ⟨c, cs', htext, hblank, hfirst⟩ := (hrule cs).first_eq
      refine ⟨slice ++ ' ' :: cs, fun offset => ?_⟩
      rw [htext, scanFrom, if_neg (Bool.eq_false_iff.1 hblank), hfirst]
      dsimp only
      rw [scanFrom_of_isBlank (by decide), List.map_cons, List.map_cons, hcs]
      simp [Lexeme.toToken, eraseSpan]
  obtain ⟨cs, hcs⟩ := hchars
  refine ⟨.ofList cs, ?_⟩
  rw [scan, String.toList_ofList]
  exact hcs 0

end Token

/-! ## Errors of a text -/

namespace Reply

lemma errors_of_outcome_ok {o : Reply (List Stmt)} {p : Program} (h : o.outcome = .ok p) :
    o.errors = [] := by
  cases o with
  | parsed statements rest found =>
    rw [outcome] at h
    split at h
    · next hnone => exact List.isEmpty_iff.1 hnone
    · cases h
  | rejected => cases h
  | exhausted => rfl

lemma errors_of_outcome_error {o : Reply (List Stmt)} {es : List ParseError}
    (h : o.outcome = .error es) : o.errors = es ∧ es ≠ [] := by
  cases o with
  | parsed statements rest found =>
    rw [outcome] at h
    split at h
    · cases h
    · next hsome =>
      cases h
      exact ⟨rfl, fun hnone => hsome (List.isEmpty_iff.2 hnone)⟩
  | rejected rest found error =>
    cases h
    exact ⟨rfl, by simp⟩
  | exhausted => cases h

end Reply

/-- The tokens of a text and its end have different spans. -/
lemma TokenStream.eq_of_span_tokenAt {source : String} {i j : Nat}
    (hi : i ≤ (Token.scan source).length) (hj : j ≤ (Token.scan source).length)
    (h : ((ofText source).tokenAt i).span = ((ofText source).tokenAt j).span) : i = j := by
  have htokens := (tokenization_iff_eq_scanFrom 0 source.toList (Token.scan source)).2 rfl
  -- The spans of tokens are not empty and that of the end is, and a token ends before the next.
  have hless : ∀ {i j}, i < j → j ≤ (Token.scan source).length →
      ((ofText source).tokenAt i).span ≠ ((ofText source).tokenAt j).span := by
    intro i j hij hj heq
    have hi : i < (Token.scan source).length := by omega
    have hti : (ofText source).tokenAt i = (Token.scan source)[i] := by
      rw [tokenAt, ofText, List.getElem?_eq_getElem hi, Option.getD_some]
    have hnonempty := htokens.nonempty _ (List.getElem_mem hi)
    rcases Nat.lt_or_eq_of_le hj with hj | rfl
    · have htj : (ofText source).tokenAt j = (Token.scan source)[j] := by
        rw [tokenAt, ofText, List.getElem?_eq_getElem hj, Option.getD_some]
      have hordered := List.pairwise_iff_getElem.1 htokens.ordered i j hi hj hij
      rw [hti, htj] at heq
      rw [← heq] at hordered
      omega
    · have hend : (ofText source).tokenAt (Token.scan source).length =
          .endOfText source.utf8ByteSize := by
        rw [tokenAt, ofText, List.getElem?_eq_none (Nat.le_refl _), Option.getD_none]
      rw [hti, hend] at heq
      rw [heq] at hnonempty
      exact Nat.lt_irrefl _ hnonempty
  rcases Nat.lt_trichotomy i j with hij | hij | hij
  · exact absurd h (hless hij hj)
  · exact hij
  · exact absurd h.symm (hless hij hi)

/-! ## Before the error -/

/-- The tokens of a text begin with the given ones, up to spans. -/
def BeginsWith (text : String) (tokens : List Token) : Prop :=
  tokens.map Token.eraseSpan <+: (Token.scan text).map Token.eraseSpan

/-- Tokens that are derived as a program are those of a text without errors. -/
lemma Grammar.exists_parse_of_derivation {tokens : List Token}
    (htokens : ∀ t ∈ tokens, t.Spellable) (d : ProgramDerivation tokens) :
    ∃ source p, Program.parse source = .ok p ∧
      (Token.scan source).map Token.eraseSpan = tokens.map Token.eraseSpan := by
  obtain ⟨source, hsource⟩ := Token.exists_scan_eq htokens
  have hproper : Proper ⟨tokens, 0⟩ := fun t ht => (htokens t ht).kind_ne_eof
  obtain ⟨r, found, hread, hnone⟩ := (reads_statements_iff hproper).2 ⟨d, rfl⟩
  have hsame : (TokenStream.mk tokens 0).tokens.map Token.eraseSpan =
      (TokenStream.ofText source).tokens.map Token.eraseSpan := hsource.symm
  have hends : statements (TokenStream.depthBound ⟨tokens, 0⟩) ⟨tokens, 0⟩ ≠ .exhausted :=
    statements_ne_exhausted (Nat.lt_succ_self tokens.length)
  have houtcomes := Alignment.outcomes_layout hsame hends (statements_ofText_ne_exhausted source)
  rw [← Program.parse_eq_outcome, hread, Reply.outcome, hnone] at houtcomes
  generalize hparse : Program.parse source = o at houtcomes
  cases houtcomes with
  | ok => exact ⟨source, _, hparse, hsource⟩

/-- What can be completed as a list of tokens can be completed as a text. -/
lemma Grammar.exists_parse_of_completable {source : String} {u r : List Token}
    (hscan : Token.scan source = u ++ r) (hu : Completable Nonterminal.statements.phrase u) :
    ∃ text p, Program.parse text = .ok p ∧ BeginsWith text u := by
  obtain ⟨c, hc, hcompletes⟩ := hu
  have hspellable : ∀ t ∈ u ++ c, t.Spellable := by
    refine List.forall_mem_append.2 ⟨fun t ht => ?_, hc⟩
    exact Token.spellable_of_mem_scan t (hscan ▸ List.mem_append_left r ht)
  obtain ⟨d⟩ := hcompletes [] id
  rw [List.append_nil] at d
  obtain ⟨text, p, hp, htext⟩ := exists_parse_of_derivation hspellable d
  refine ⟨text, p, hp, ?_⟩
  rw [BeginsWith, htext]
  exact (List.prefix_append u c).map _

/-! ## Behind the error -/

/-- Streams of two texts that begin with the same tokens.  Behind these tokens the tail of the
first text begins, and the other text is free. -/
def Alignment.sharing (tail : List Token) (size : Nat) : Alignment where
  streams s s' := s.size = size ∧ ∃ front front' tail', front ≠ [] ∧ s.tokens = front ++ tail ∧
    s'.tokens = front' ++ tail' ∧ front.map Token.eraseSpan = front'.map Token.eraseSpan
  tokens t t' := t.eraseSpan = t'.eraseSpan
  beyond s := s.size = size ∧ s.tokens <:+ tail
  view_eq := id
  current := by
    rintro ⟨_, _⟩ ⟨_, _⟩ ⟨-, front, front', tail', hne, rfl, rfl, hfront⟩
    obtain ⟨t, front, rfl⟩ := List.exists_cons_of_ne_nil hne
    obtain ⟨t', front', rfl, ht, -⟩ := List.map_eq_cons_iff.1 hfront.symm
    exact ht.symm
  next := by
    rintro ⟨_, _⟩ ⟨_, _⟩ ⟨hsize, front, front', tail', hne, rfl, rfl, hfront⟩
    obtain ⟨t, front, rfl⟩ := List.exists_cons_of_ne_nil hne
    obtain ⟨t', front', rfl, -, hfront⟩ := List.map_eq_cons_iff.1 hfront.symm
    by_cases hlast : front = []
    · subst hlast
      exact .inr ⟨hsize, List.suffix_rfl⟩
    · exact .inl ⟨hsize, front, front', tail', hlast, rfl, rfl, hfront.symm⟩
  current_beyond _ := ⟨_, rfl⟩
  next_beyond h := ⟨h.1, (List.tail_suffix _).trans h.2⟩

/-- An error behind the first tokens of a text is at a later one. -/
lemma Alignment.exists_of_beyond_sharing {source : String} {n : Nat} {e : ParseError}
    (hn : n ≤ (Token.scan source).length)
    (h : (sharing ((Token.scan source).drop n) source.utf8ByteSize).Beyond e) :
    ∃ i, n ≤ i ∧ i ≤ (Token.scan source).length ∧
      e.span = ((TokenStream.ofText source).tokenAt i).span := by
  obtain ⟨⟨tokens, _⟩, ⟨rfl, middle, hmiddle⟩, hspan⟩ := h
  have hlength : middle.length + tokens.length = (Token.scan source).length - n := by
    rw [← List.length_append, hmiddle, List.length_drop]
  refine ⟨n + middle.length, Nat.le_add_right n _, by omega, ?_⟩
  rw [hspan, ← TokenStream.current_drop, TokenStream.drop, TokenStream.ofText, ← List.drop_drop,
    ← hmiddle, List.drop_left]

/-- If the first run has found errors and the second one none, then all errors of the first run lie
behind what the runs have in common. -/
lemma Alignment.Replies.errors_beyond {A : Alignment} {α α' : Type} {Q : α → α' → Prop}
    {o : Reply α} {o' : Reply α'} (h : A.Replies Q o o') (ho' : o' ≠ .exhausted)
    (hsome : o.errors ≠ []) (hnone : o'.errors = []) : ∀ e ∈ o.errors, A.Beyond e := by
  cases h with
  | parsed value rest found =>
    have hforall := found.errors
    rw [Reply.errors] at hsome hnone
    rw [hnone, List.forall₂_nil_right_iff] at hforall
    exact absurd hforall hsome
  | rejected => simp [Reply.errors] at hnone
  | left => exact absurd rfl hsome
  | right => exact absurd rfl ho'
  | late ends late =>
    cases late with
    | parsed value rest errors => exact errors
    | rejected rest errors last =>
      exact List.forall_mem_append.2 ⟨errors, List.forall_mem_singleton.2 last⟩
    | exhausted => exact absurd rfl hsome
  | parted ends failed => exact absurd hnone failed

/-- An error at a token that two texts share, with all tokens before it, is not in one of them
only. -/
lemma Program.parse_error_of_shared {S T : String} {e : ParseError} {others : List ParseError}
    {k : Nat} (h : parse S = .error (e :: others)) (hk : k < (Token.scan S).length)
    (hspan : e.span = ((TokenStream.ofText S).tokenAt k).span)
    (hshared : BeginsWith T ((Token.scan S).take (k + 1))) :
    ∃ errors, parse T = .error errors := by
  cases hT : parse T with
  | error errors => exact ⟨errors, rfl⟩
  | ok p =>
    obtain ⟨more, hmore⟩ := hshared
    obtain ⟨front, tail, htext, hfront, -⟩ := List.map_eq_append_iff.1 hmore.symm
    have hne : (Token.scan S).take (k + 1) ≠ [] :=
      List.ne_nil_of_length_pos (by rw [List.length_take]; omega)
    have hstreams : (Alignment.sharing ((Token.scan S).drop (k + 1)) S.utf8ByteSize).streams
        (.ofText S) (.ofText T) :=
      ⟨rfl, _, front, tail, hne, (List.take_append_drop (k + 1) _).symm, htext, hfront.symm⟩
    have hreplies := (Alignment.agree_statements (TokenStream.ofText S).depthBound
      (TokenStream.ofText T).depthBound).replies hstreams
    rw [parse_eq_outcome] at h hT
    obtain ⟨herrors, hsome⟩ := Reply.errors_of_outcome_error h
    have hbeyond := hreplies.errors_beyond (statements_ofText_ne_exhausted T)
      (herrors ▸ hsome) (Reply.errors_of_outcome_ok hT) e (herrors ▸ List.mem_cons_self)
    obtain ⟨i, hi, hle, hspan'⟩ := Alignment.exists_of_beyond_sharing hk hbeyond
    have heq := TokenStream.eq_of_span_tokenAt (Nat.le_of_lt hk) hle (hspan.symm.trans hspan')
    omega

/-! ## The first error -/

/-- The first error of a text carries the span of one token of it, which may be its end.  What
stands before this token begins a text without errors; with the token it begins none. -/
theorem Program.first_error_of_parse {source : String} {errors : List ParseError}
    (h : parse source = .error errors) :
    ∃ e others k, errors = e :: others ∧
      (∀ i ≤ (Token.scan source).length,
        ((TokenStream.ofText source).tokenAt i).span = e.span ↔ i = k) ∧
      k ≤ (Token.scan source).length ∧
      (∃ text p, parse text = .ok p ∧ BeginsWith text ((Token.scan source).take k)) ∧
      (k < (Token.scan source).length →
        ∀ text, BeginsWith text ((Token.scan source).take (k + 1)) →
          ∃ errors', parse text = .error errors') := by
  have houtcome := h
  rw [parse_eq_outcome] at houtcome
  obtain ⟨herrors, hsome⟩ := Reply.errors_of_outcome_error houtcome
  obtain ⟨e, others, rfl⟩ := List.exists_cons_of_ne_nil hsome
  obtain ⟨u, r, hparts, hspan, hu⟩ :=
    Grammar.viable_statements _ (Grammar.proper_ofText source) e (by rw [herrors]; rfl)
  have hscan : Token.scan source = u ++ r := hparts
  have htoken : e.span = ((TokenStream.ofText source).tokenAt u.length).span := by
    rw [hspan, ← TokenStream.current_drop, TokenStream.drop, hparts, List.drop_left]
  have hle : u.length ≤ (Token.scan source).length := by
    rw [hscan, List.length_append]
    exact Nat.le_add_right _ _
  refine ⟨e, others, u.length, rfl, fun i hi => ⟨fun hi' => ?_, ?_⟩, hle, ?_, ?_⟩
  · exact TokenStream.eq_of_span_tokenAt hi hle (hi'.trans htoken)
  · rintro rfl
    exact htoken.symm
  · obtain ⟨text, p, hp, hbegins⟩ := Grammar.exists_parse_of_completable hscan hu
    refine ⟨text, p, hp, ?_⟩
    rwa [hscan, List.take_left]
  · exact fun hlt text => parse_error_of_shared h hlt htoken

/-- A binding without its sign: the error is at the value. -/
theorem Program.first_error_of_parse_binding : ∃ e others,
    parse "let x 5;" = .error (e :: others) ∧ e.span = ⟨6, 7⟩ ∧
      (∃ text p, parse text = .ok p ∧ BeginsWith text ((Token.scan "let x 5;").take 2)) ∧
      ∀ text, BeginsWith text ((Token.scan "let x 5;").take 3) →
        ∃ errors', parse text = .error errors' := by
  have hfirst : (match parse "let x 5;" with
      | .ok _ => none
      | .error errors => errors.head?.map ParseError.span) = some ⟨6, 7⟩ := by decide +kernel
  have hlength : (Token.scan "let x 5;").length = 4 := by decide +kernel
  have htoken : ((TokenStream.ofText "let x 5;").tokenAt 2).span = ⟨6, 7⟩ := by decide +kernel
  cases h : parse "let x 5;" with
  | ok p =>
    rw [h] at hfirst
    cases hfirst
  | error errors =>
    obtain ⟨e, others, k, rfl, hk, -, hbefore, hbehind⟩ := first_error_of_parse h
    rw [h] at hfirst
    obtain hspan : e.span = ⟨6, 7⟩ := Option.some.inj hfirst
    obtain rfl : 2 = k := (hk 2 (by omega)).1 (htoken.trans hspan.symm)
    exact ⟨e, others, rfl, hspan, hbefore, hbehind (by omega)⟩

end MonkeyLang
