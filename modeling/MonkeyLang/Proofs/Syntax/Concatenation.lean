import Mathlib.Data.List.Basic
import MonkeyLang.Proofs.Syntax.Alignment
import MonkeyLang.Proofs.Syntax.Braces
import MonkeyLang.Proofs.Syntax.Completion
import MonkeyLang.Proofs.Syntax.Language

/-!
# Texts one behind the other

A text that is read without errors, that ends with a semicolon and has as many opening as closing
braces, can be put in front of any text: what is read of both together is what is read of the one
and then of the other, further to the right.

No token reaches over the seam (`Token.scan_append`).  The first text opens no block that it does
not close, so every statement of it is followed by a token of its own (`Grammar.opens`), and is
derived in front of any other tokens as well (`Derivation.append`).  Behind the last of these
statements, the parser goes on with the tokens of the second text, as it does with that text alone
(`Alignment.shifted`).
-/

namespace MonkeyLang

open MonkeyLang.Parser

/-! ## Tokens -/

/-- A token in front of some text, or a semicolon, is the same in front of more text. -/
lemma TokenRule.append {slice after : List Char} {kind : TokenKind} {literal : String}
    (h : TokenRule slice after kind literal) (hends : after ≠ [] ∨ kind = .semicolon)
    (more : List Char) : TokenRule slice (after ++ more) kind literal := by
  by_cases hstring : kind = .string
  · subst hstring
    cases h with
    | quoted plain => exact .quoted plain
    | unclosed plain => simp at hends
    | keyword entry maximal => exact absurd (TokenKind.isWord_of_mem_keywords entry) (by decide)
    | sign entry maximal => simp [signs] at entry
  · refine h.replace hstring fun d hd => ?_
    rcases hends with hne | rfl
    · rw [List.head?_append_of_ne_nil _ hne] at hd
      exact h.maximal d hd
    · simp [TokenKind.ContinuedBy, TokenKind.isWord]

/-- The first lexeme is cut off alike in front of more text. -/
lemma Lexeme.first_append {c : Char} {cs : List Char} (hblank : isBlank c = false)
    (hends : (first c cs).rest ≠ [] ∨ (first c cs).kind = .semicolon) (more : List Char) :
    first c (cs ++ more) = { first c cs with rest := (first c cs).rest ++ more } := by
  obtain ⟨c', cs', hcs, -, hfirst⟩ := ((TokenRule.first hblank).append hends more).first_eq
  rw [← List.append_assoc, slice_append_rest_first, List.cons_append] at hcs
  obtain ⟨rfl, rfl⟩ := List.cons_eq_cons.1 hcs
  rw [hfirst, String.toList_ofList]

/-- No token reaches over the end of a text whose last token is a semicolon. -/
lemma Token.scanFrom_append {offset : Nat} {cs : List Char}
    (h : ∀ t ∈ (scanFrom offset cs).getLast?, t.kind = .semicolon) (more : List Char) :
    scanFrom offset (cs ++ more) =
      scanFrom offset cs ++ scanFrom (offset + Text.byteLength cs) more := by
  induction offset, cs using scanFrom.induct with
  | case1 offset => simp [scanFrom]
  | case2 offset c cs hblank ih =>
    rw [scanFrom_of_isBlank hblank] at h ⊢
    rw [List.cons_append, scanFrom_of_isBlank hblank, ih h, Text.byteLength_cons, Nat.add_assoc]
  | case3 offset c cs hblank l ih =>
    have hscan : scanFrom offset (c :: cs) =
        l.toToken offset :: scanFrom (offset + Text.byteLength l.slice) l.rest := by
      rw [scanFrom, if_neg hblank]
    rw [hscan] at h ⊢
    have hends : l.rest ≠ [] ∨ l.kind = .semicolon := by
      by_cases hrest : l.rest = []
      · rw [hrest, scanFrom] at h
        exact .inr (h _ rfl)
      · exact .inl hrest
    have hothers := ih fun t ht => h t (by rw [List.getLast?_cons, Option.mem_def.1 ht]; rfl)
    have hlength : Text.byteLength (c :: cs) =
        Text.byteLength l.slice + Text.byteLength l.rest := by
      rw [← Text.byteLength_append, Lexeme.slice_append_rest_first]
    rw [List.cons_append, scanFrom, if_neg hblank,
      Lexeme.first_append (Bool.eq_false_iff.2 hblank) hends more, hlength, ← Nat.add_assoc,
      List.cons_append, ← hothers]
    rfl

/-- The tokens of a text behind one that ends with a semicolon are moved to the right. -/
theorem Token.scan_append {S : String} (h : EndsInSemicolon (scan S)) (T : String) :
    scan (S ++ T) = scan S ++ (scan T).map (shift S.utf8ByteSize) := by
  have hlast : ∀ t ∈ (scan S).getLast?, t.kind = .semicolon := by
    intro t ht
    rw [EndsInSemicolon, Option.mem_def.1 ht] at h
    exact Option.some.inj h
  rw [scan, String.toList_append, scanFrom_append hlast, scan, scan, scanFrom_add,
    Text.utf8ByteSize_eq]

/-! ## Derivations -/

namespace Grammar

lemma Derivation.ne_nil {A : Nonterminal} {s r : List Token} (d : Derivation A s r)
    (hr : r ≠ []) : s ≠ [] := by
  rintro rfl
  exact hr (List.suffix_nil.1 d.isSuffix)

/-- A derivation that leaves tokens behind is one in front of more tokens. -/
theorem Derivation.append {A : Nonterminal} {s r : List Token} (d : Derivation A s r)
    (hr : r ≠ []) (u : List Token) : Derivable A (s ++ u) (r ++ u) d.tree := by
  induction d with
  | noStatement => exact ⟨.noStatement, rfl⟩
  | closedStatement _ semicolon _ ih ih' =>
    obtain ⟨⟨d, hd⟩, d', hd'⟩ := And.intro (ih (List.cons_ne_nil _ _)) (ih' hr)
    exact ⟨.closedStatement d semicolon d', congrArg₂ List.cons hd hd'⟩
  | openStatement _ separate others ih ih' =>
    obtain ⟨⟨d, hd⟩, d', hd'⟩ := And.intro (ih (others.ne_nil hr)) (ih' hr)
    have hseparate := (attaches_append (others.ne_nil hr) u).not.2 separate
    exact ⟨.openStatement d hseparate d', congrArg₂ List.cons hd hd'⟩
  | letStatement word name assign _ ih =>
    obtain ⟨d, hd⟩ := ih hr
    exact ⟨.letStatement word name assign d, congrArg (Stmt.letStmt _ _) hd⟩
  | returnStatement word _ ih =>
    obtain ⟨d, hd⟩ := ih hr
    exact ⟨.returnStatement word d, congrArg (Stmt.returnStmt _) hd⟩
  | exprStatement _ ih =>
    obtain ⟨d, hd⟩ := ih hr
    exact ⟨.exprStatement d, congrArg (Stmt.exprStmt _) hd⟩
  | closedBlock brace _ rbrace ih =>
    obtain ⟨d, hd⟩ := ih (List.cons_ne_nil _ _)
    exact ⟨.closedBlock brace d rbrace, congrArg (Block.mk _) hd⟩
  | openBlock => exact absurd rfl hr
  | noAlternative => exact ⟨.noAlternative, rfl⟩
  | elseBlock word _ ih =>
    obtain ⟨d, hd⟩ := ih hr
    exact ⟨.elseBlock word d, congrArg some hd⟩
  | binary _ others ih ih' =>
    obtain ⟨⟨d, hd⟩, d', hd'⟩ := And.intro (ih (others.ne_nil hr)) (ih' hr)
    exact ⟨.binary d d', congr hd' hd⟩
  | chainEnd => exact ⟨.chainEnd, rfl⟩
  | chainStep op sign member _ others ih ih' =>
    obtain ⟨⟨d, hd⟩, d', hd'⟩ := And.intro (ih (others.ne_nil hr)) (ih' hr)
    exact ⟨.chainStep op sign member d d',
      funext fun left => (congr hd' (congrArg (Expr.binary _ left op) hd) :)⟩
  | unary op sign _ ih =>
    obtain ⟨d, hd⟩ := ih hr
    exact ⟨.unary op sign d, congrArg (Expr.unary _ op) hd⟩
  | noUnary _ ih =>
    obtain ⟨d, hd⟩ := ih hr
    exact ⟨.noUnary d, hd⟩
  | suffixed _ others ih ih' =>
    obtain ⟨⟨d, hd⟩, d', hd'⟩ := And.intro (ih (others.ne_nil hr)) (ih' hr)
    exact ⟨.suffixed d d', congr hd' hd⟩
  | suffixEnd => exact ⟨.suffixEnd, rfl⟩
  | call lparen _ others ih ih' =>
    obtain ⟨⟨d, hd⟩, d', hd'⟩ := And.intro (ih (others.ne_nil hr)) (ih' hr)
    exact ⟨.call lparen d d',
      funext fun left => (congr hd' (congrArg (Expr.call _ left) hd) :)⟩
  | index lbracket _ rbracket _ ih ih' =>
    obtain ⟨⟨d, hd⟩, d', hd'⟩ := And.intro (ih (List.cons_ne_nil _ _)) (ih' hr)
    exact ⟨.index lbracket d rbracket d',
      funext fun left => (congr hd' (congrArg (Expr.index _ left) hd) :)⟩
  | ident word => exact ⟨.ident word, rfl⟩
  | int digits range => exact ⟨.int digits range, rfl⟩
  | string quoted => exact ⟨.string quoted, rfl⟩
  | trueWord word => exact ⟨.trueWord word, rfl⟩
  | falseWord word => exact ⟨.falseWord word, rfl⟩
  | grouped lparen _ rparen ih =>
    obtain ⟨d, hd⟩ := ih (List.cons_ne_nil _ _)
    exact ⟨.grouped lparen d rparen, hd⟩
  | conditional word opening _ closing _ others ih ih' ih'' =>
    obtain ⟨⟨d, hd⟩, ⟨d', hd'⟩, d'', hd''⟩ := And.intro (ih (List.cons_ne_nil _ _))
      (And.intro (ih' (others.ne_nil hr)) (ih'' hr))
    exact ⟨.conditional word opening d closing d' d'',
      congr (congrArg₂ (Expr.conditional _) hd hd') hd''⟩
  | function word opening _ body ih ih' =>
    obtain ⟨⟨d, hd⟩, d', hd'⟩ := And.intro (ih (body.ne_nil hr)) (ih' hr)
    exact ⟨.function word opening d d', congrArg₂ (Expr.function _) hd hd'⟩
  | array lbracket _ ih =>
    obtain ⟨d, hd⟩ := ih hr
    exact ⟨.array lbracket d, congrArg (Expr.array _) hd⟩
  | hash brace _ ih =>
    obtain ⟨d, hd⟩ := ih hr
    exact ⟨.hash brace d, congrArg (Expr.hash _) hd⟩
  | noArgument closing => exact ⟨.noArgument closing, rfl⟩
  | someArguments _ others ih ih' =>
    obtain ⟨⟨d, hd⟩, d', hd'⟩ := And.intro (ih (others.ne_nil hr)) (ih' hr)
    exact ⟨.someArguments d d', congrArg₂ List.cons hd hd'⟩
  | argumentsEnd closing => exact ⟨.argumentsEnd closing, rfl⟩
  | nextArgument comma _ others ih ih' =>
    obtain ⟨⟨d, hd⟩, d', hd'⟩ := And.intro (ih (others.ne_nil hr)) (ih' hr)
    exact ⟨.nextArgument comma d d', congrArg₂ List.cons hd hd'⟩
  | noParameter closing => exact ⟨.noParameter closing, rfl⟩
  | someParameters first _ ih =>
    obtain ⟨d, hd⟩ := ih hr
    exact ⟨.someParameters first d, congrArg (List.cons _) hd⟩
  | parametersEnd closing => exact ⟨.parametersEnd closing, rfl⟩
  | nextParameter sign next _ ih =>
    obtain ⟨d, hd⟩ := ih hr
    exact ⟨.nextParameter sign next d, congrArg (List.cons _) hd⟩
  | noPair closing => exact ⟨.noPair closing, rfl⟩
  | somePairs _ sign _ others ih ih' ih'' =>
    obtain ⟨⟨d, hd⟩, ⟨d', hd'⟩, d'', hd''⟩ := And.intro (ih (List.cons_ne_nil _ _))
      (And.intro (ih' (others.ne_nil hr)) (ih'' hr))
    exact ⟨.somePairs d sign d' d'',
      congr (congrArg₂ (fun key value others => (key, value) :: others) hd hd') hd''⟩
  | pairsEnd closing => exact ⟨.pairsEnd closing, rfl⟩
  | pairsEndComma sign closing => exact ⟨.pairsEndComma sign closing, rfl⟩
  | nextPair sign _ between _ others ih ih' ih'' =>
    obtain ⟨⟨d, hd⟩, ⟨d', hd'⟩, d'', hd''⟩ := And.intro (ih (List.cons_ne_nil _ _))
      (And.intro (ih' (others.ne_nil hr)) (ih'' hr))
    exact ⟨.nextPair sign d between d' d'',
      congr (congrArg₂ (fun key value others => (key, value) :: others) hd hd') hd''⟩

end Grammar

/-! ## Statements in front of others -/

/-- One program and then another. -/
def Program.append (p q : Program) : Program := ⟨p.statements ++ q.statements⟩

lemma Program.map_append_nil {ε : Type} (o : Except ε Program) : o.map (append ⟨[]⟩) = o := by
  cases o <;> rfl

lemma Program.map_append_cons {ε : Type} (o : Except ε Program) (s : Stmt) (ss : List Stmt) :
    (o.map (append ⟨ss⟩)).map (append ⟨[s]⟩) = o.map (append ⟨s :: ss⟩) := by
  cases o <;> rfl

namespace Reply

lemma outcome_after {found : Findings} (o : Reply (List Stmt)) (h : found.errors = []) :
    (o.after found).outcome = o.outcome := by
  cases o <;> simp [after, outcome, Findings.append_def, h]

/-- A statement in front of what is read makes no difference to the errors. -/
lemma outcome_andThen_cons {o : Reply (List Stmt)} (ho : o ≠ .exhausted) (first : Stmt) :
    (o.andThen fun more => (pure (first :: more) : Parser (List Stmt))).outcome =
      o.outcome.map (Program.append ⟨[first]⟩) := by
  cases o with
  | parsed statements r found =>
    simp only [andThen, pure_apply, after, Findings.append_nothing, outcome]
    split <;> rfl
  | rejected => rfl
  | exhausted => exact absurd rfl ho

end Reply

namespace Parser

/-- The statements behind one that is read without errors are read as if they stood alone. -/
lemma outcome_statementsUpTo_succ {p : Parser Stmt} {s m : TokenStream} {first : Stmt} {n : Nat}
    (h : Reads p s first m) (hs : s.current.kind ≠ .eof)
    (hn : statementsUpTo p (fun _ => false) n m ≠ .exhausted) :
    (statementsUpTo p (fun _ => false) (n + 1) s).outcome =
      (statementsUpTo p (fun _ => false) n m).outcome.map (Program.append ⟨[first]⟩) := by
  obtain ⟨found, hp, hnone⟩ := h
  have hstep : statementsUpTo p (fun _ => false) (n + 1) s =
      ((statementsUpTo p (fun _ => false) n m).andThen
        fun more => (pure (first :: more) : Parser (List Stmt))).after found := by
    simp [statementsUpTo, bind_apply, peek, Reply.andThen, hs, attempt, hp]
  rw [hstep, Reply.outcome_after _ hnone, Reply.outcome_andThen_cons hn]

end Parser

namespace Grammar

variable {s m r u : List Token} {size depth : Nat}

lemma firstKind_append (h : s ≠ []) (u : List Token) : firstKind (s ++ u) = firstKind s := by
  obtain ⟨t, ts, rfl⟩ := List.exists_cons_of_ne_nil h
  rfl

lemma Derivation.firstKind_statement_ne (d : Derivation .statement s r) :
    firstKind s ≠ .eof := fun heof => d.not_statement_of_stops (.inl heof)

lemma ne_nil_of_firstKind (h : firstKind s ≠ .eof) : s ≠ [] := by
  rintro rfl
  exact h rfl

/-- A statement with tokens behind it is read in front of more tokens. -/
lemma Derivation.reads_append (d : Derivation .statement s r) (hr : r ≠ [])
    (hstop : Nonterminal.statement.Stops (firstKind r)) (u : List Token) (size : Nat)
    (hdepth : (s ++ u).length < depth) :
    Reads (statement (expression depth)) ⟨s ++ u, size⟩ d.tree
      (if firstKind r = .semicolon then ⟨r.tail ++ u, size⟩ else ⟨r ++ u, size⟩) := by
  obtain ⟨d', hd'⟩ := d.append hr u
  have hread := d'.readable size (firstKind_append hr u ▸ hstop) depth hdepth
  rwa [hd', firstKind_append hr, List.tail_append_of_ne_nil hr] at hread

/-- The tokens open as many braces as they close, and the last of them is a semicolon. -/
structure Complete (s : List Token) : Prop where
  braces_eq : braces s = 0
  last : s ≠ [] → EndsInSemicolon s

/-- A statement with a semicolon for its last token would leave a block open. -/
lemma Complete.ne_nil (h : Complete s) (first : Derivation .statement s r) : r ≠ [] := by
  intro hr
  have hlt := first.opens.lt hr (h.last (ne_nil_of_firstKind first.firstKind_statement_ne))
  rw [h.braces_eq] at hlt
  exact Int.lt_irrefl 0 hlt

/-- Nor do the statements behind the first one leave a block open. -/
lemma Complete.others (h : Complete s) (first : Derivation .statement s r)
    (others : ProgramDerivation m) (hm : m <:+ r) (hbraces : braces m = braces r) :
    Complete m where
  braces_eq := by
    have hle := first.opens.le
    have hle' := others.opens.2
    rw [h.braces_eq] at hle
    rw [braces_nil] at hle'
    omega
  last := by
    have hlast := h.last (ne_nil_of_firstKind first.firstKind_statement_ne)
    exact hlast.of_suffix (hm.trans first.opens.suffix)

/-- What is read from the tokens of `s` in front of those of `u` is a program, and then what is
read from `u` alone. -/
def Precedes (size depth : Nat) (u s : List Token) (p : Program) : Prop :=
  ∀ n, (s ++ u).length < n → ∃ n', u.length < n' ∧
    (statementsUpTo (statement (expression depth)) (fun _ => false) n ⟨s ++ u, size⟩).outcome =
      (statementsUpTo (statement (expression depth)) (fun _ => false) n' ⟨u, size⟩).outcome.map
        p.append

lemma precedes_nil : Precedes size depth u [] ⟨[]⟩ := fun n hn =>
  ⟨n, hn, (Program.map_append_nil _).symm⟩

lemma precedes_cons {first : Stmt} {others : List Stmt} (hstart : firstKind s ≠ .eof)
    (hread : Reads (statement (expression depth)) ⟨s ++ u, size⟩ first ⟨m ++ u, size⟩)
    (hlength : (m ++ u).length < (s ++ u).length) (hdepth : (s ++ u).length < depth)
    (h : Precedes size depth u m ⟨others⟩) : Precedes size depth u s ⟨first :: others⟩ := by
  intro n hn
  obtain ⟨n, rfl⟩ := Nat.exists_eq_add_one_of_ne_zero (Nat.ne_of_gt (Nat.zero_lt_of_lt hn))
  have hkind : (TokenStream.mk (s ++ u) size).current.kind ≠ .eof := by
    rwa [kind_current_mk, firstKind_append (ne_nil_of_firstKind hstart)]
  have hends : statementsUpTo (statement (expression depth)) (fun _ => false) n ⟨m ++ u, size⟩ ≠
      .exhausted := statementsUpTo_ne_exhausted (Nat.lt_trans hlength hdepth)
    (Nat.lt_of_lt_of_le hlength (Nat.le_of_lt_succ hn))
  obtain ⟨n', hn', heq⟩ := h n (Nat.lt_of_lt_of_le hlength (Nat.le_of_lt_succ hn))
  refine ⟨n', hn', ?_⟩
  rw [outcome_statementsUpTo_succ hread hkind hends, heq, Program.map_append_cons]

/-- A program whose tokens are complete can be put in front of any tokens. -/
lemma precedes_of_derivation : ∀ {s : List Token} (d : ProgramDerivation s), Complete s →
    (s ++ u).length < depth → Precedes size depth u s d.program
  | _, .noStatement, _, _ => precedes_nil
  | s, .closedStatement (t := t) (m := m) first semicolon others, hs, hdepth => by
    have hread := first.reads_append (List.cons_ne_nil t m) (stops_semicolon semicolon) u size
      hdepth
    rw [firstKind_cons, if_pos semicolon, List.tail_cons] at hread
    have hbraces : braces m = braces (t :: m) := by
      rw [braces_cons, Token.brace, semicolon]
      exact (Int.zero_add _).symm
    have hlength := first.length_add_least_le
    rw [List.length_cons] at hlength
    have hless : (m ++ u).length < (s ++ u).length := by
      rw [List.length_append, List.length_append]
      omega
    have hmore := precedes_of_derivation others
      (hs.others first others (List.suffix_cons t m) hbraces) (Nat.lt_trans hless hdepth)
    exact precedes_cons first.firstKind_statement_ne hread hless hdepth hmore
  | s, .openStatement (m := m) first separate others, hs, hdepth => by
    obtain ⟨hstop, hkind⟩ := others.stops_statement (.inl rfl) separate
    have hread := first.reads_append (hs.ne_nil first) hstop u size hdepth
    rw [if_neg hkind] at hread
    have hlength := first.length_add_least_le
    have hless : (m ++ u).length < (s ++ u).length := by
      rw [List.length_append, List.length_append]
      exact Nat.add_lt_add_right (Nat.lt_of_succ_le hlength) _
    have hmore := precedes_of_derivation others (hs.others first others List.suffix_rfl rfl)
      (Nat.lt_trans hless hdepth)
    exact precedes_cons first.firstKind_statement_ne hread hless hdepth hmore

end Grammar

/-! ## Further to the right -/

/-- The stream of a text that starts further to the right. -/
def TokenStream.shift (distance : Nat) (s : TokenStream) : TokenStream :=
  ⟨s.tokens.map (.shift distance), s.size + distance⟩

lemma TokenStream.current_shift (distance : Nat) (s : TokenStream) :
    (s.shift distance).current = s.current.shift distance := by
  obtain ⟨_ | ⟨t, ts⟩, size⟩ := s <;> rfl

lemma TokenStream.next_shift (distance : Nat) (s : TokenStream) :
    (s.shift distance).next = s.next.shift distance := by
  obtain ⟨_ | ⟨t, ts⟩, size⟩ := s <;> rfl

/-- The error at a token further to the right. -/
def ParseError.shift (distance : Nat) (e : ParseError) : ParseError :=
  { e with span := e.span.shift distance }

/-- What is read of a text that starts further to the right. -/
def Program.shiftOutcome (distance : Nat) (o : Except (List ParseError) Program) :
    Except (List ParseError) Program :=
  (o.map (mapTokens (.shift distance))).mapError (List.map (.shift distance))

namespace Alignment

/-- A stream and the same further to the right. -/
def shifted (distance : Nat) : Alignment where
  streams s s' := s' = s.shift distance
  tokens t t' := t' = t.shift distance
  beyond _ := False
  view := .shift distance
  view' := id
  eraseSpan_view _ := rfl
  eraseSpan_view' := same.eraseSpan_view'
  view_eq h := h.symm
  current := by
    rintro s _ rfl
    exact s.current_shift distance
  next := by
    rintro s _ rfl
    exact .inl (s.next_shift distance)
  current_beyond := False.elim
  next_beyond := False.elim

variable {distance : Nat}

lemma eq_shift_of_errors {e e' : ParseError} (h : (shifted distance).Errors e e') :
    e' = e.shift distance := by
  obtain ⟨fault, t, _, rfl, hspan, hspan'⟩ := h
  obtain ⟨_, _⟩ := e
  obtain ⟨_, _⟩ := e'
  cases fault
  cases hspan
  cases hspan'
  rfl

lemma map_shift_of_errors {es es' : List ParseError}
    (h : List.Forall₂ (shifted distance).Errors es es') : es' = es.map (.shift distance) := by
  induction h with
  | nil => rfl
  | cons first _ ih => rw [eq_shift_of_errors first, ih, List.map_cons]

/-- What is read of streams of which one is further to the right. -/
lemma outcome_eq_of_shifted {o o' : Except (List ParseError) Program}
    (h : (shifted distance).Outcomes o o') : o' = Program.shiftOutcome distance o := by
  cases h with
  | @ok p p' trees =>
    have hprogram : p.mapTokens (.shift distance) = p' := trees.trans p'.mapTokens_id
    rw [← hprogram]
    rfl
  | error errors =>
    rw [map_shift_of_errors errors]
    rfl

end Alignment

/-! ## Both texts together -/

/-- The stream of a text behind one that ends with a semicolon. -/
lemma TokenStream.ofText_append {S : String} (h : EndsInSemicolon (Token.scan S)) (T : String) :
    ofText (S ++ T) = ⟨Token.scan S ++ ((ofText T).shift S.utf8ByteSize).tokens,
      ((ofText T).shift S.utf8ByteSize).size⟩ := by
  rw [ofText, Token.scan_append h, String.utf8ByteSize_append, Nat.add_comm]
  rfl

/-- A text that is read without errors, that ends with a semicolon and has as many opening as
closing braces, is read in front of any text as it is read alone.  What is read of the other text
then stands further to the right, by the size of the first. -/
theorem Program.parse_append {S : String} {p : Program} (h : parse S = .ok p)
    (hlast : EndsInSemicolon (Token.scan S))
    (hbraces : (Token.scan S).countP (·.kind = .lbrace) =
      (Token.scan S).countP (·.kind = .rbrace)) (T : String) :
    (∀ q, parse T = .ok q →
      parse (S ++ T) = .ok (p.append (q.mapTokens (.shift S.utf8ByteSize)))) ∧
    (∀ errors, parse T = .error errors →
      parse (S ++ T) = .error (errors.map (.shift S.utf8ByteSize))) := by
  have hboth : parse (S ++ T) = (shiftOutcome S.utf8ByteSize (parse T)).map p.append := by
    obtain ⟨d, rfl⟩ := ((Grammar.parse_eq_ok_iff_derivation S).2 p).1 h
    have hcomplete : Grammar.Complete (Token.scan S) :=
      ⟨by rw [braces_eq_sub, hbraces, Int.sub_self], fun _ => hlast⟩
    let t := (TokenStream.ofText T).shift S.utf8ByteSize
    have hlength : t.tokens.length < (Token.scan S ++ t.tokens).length + 1 := by
      rw [List.length_append]
      omega
    have hprecedes : Grammar.Precedes t.size ((Token.scan S ++ t.tokens).length + 1) t.tokens
        (Token.scan S) d.program :=
      Grammar.precedes_of_derivation d hcomplete (Nat.lt_succ_self _)
    obtain ⟨n, hn, heq⟩ := hprecedes _ (Nat.lt_succ_self _)
    have hstreams : (Alignment.shifted S.utf8ByteSize).streams (.ofText T) t := rfl
    have hshifted := Alignment.outcomes_statementsUpTo hstreams (fun _ => id)
      (statements_ofText_ne_exhausted T) (statementsUpTo_ne_exhausted hlength hn)
    rw [parse_eq_outcome, parse_eq_outcome, TokenStream.ofText_append hlast T]
    exact heq.trans (congrArg (Except.map _) (Alignment.outcome_eq_of_shifted hshifted))
  constructor
  · intro q hq
    rw [hboth, hq]
    rfl
  · intro errors herrors
    rw [hboth, herrors]
    rfl

/-- A conditional behind a binding with a character of two bytes, in front of an expression and of
one that lacks an operand. -/
theorem Program.parse_append_conditional : ∃ p q errors,
    parse "let a = \"é\"; if (a) { a };" = .ok p ∧ parse "a + 1" = .ok q ∧
      parse "a + " = .error errors ∧
      parse ("let a = \"é\"; if (a) { a };" ++ "a + 1") =
        .ok (p.append (q.mapTokens (.shift 27))) ∧
      parse ("let a = \"é\"; if (a) { a };" ++ "a + ") = .error (errors.map (.shift 27)) := by
  have exists_ok : ∀ source, (parse source).isOk = true → ∃ p, parse source = .ok p := by
    intro source hok
    cases h : parse source with
    | ok p => exact ⟨p, rfl⟩
    | error => rw [h] at hok; cases hok
  have exists_error : ∀ source, (parse source).isOk = false → ∃ es, parse source = .error es := by
    intro source herror
    cases h : parse source with
    | ok => rw [h] at herror; cases herror
    | error es => exact ⟨es, rfl⟩
  obtain ⟨p, hp⟩ := exists_ok "let a = \"é\"; if (a) { a };" (by decide +kernel)
  obtain ⟨q, hq⟩ := exists_ok "a + 1" (by decide +kernel)
  obtain ⟨errors, herrors⟩ := exists_error "a + " (by decide +kernel)
  have hsize : "let a = \"é\"; if (a) { a };".utf8ByteSize = 27 := by decide +kernel
  have happend := parse_append hp (by decide +kernel) (by decide +kernel)
  rw [hsize] at happend
  exact ⟨p, q, errors, hp, hq, herrors, (happend _).1 q hq, (happend _).2 errors herrors⟩

end MonkeyLang
