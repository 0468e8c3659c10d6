import Mathlib.Data.List.Basic
import MonkeyLang.Proofs.Syntax.Soundness

/-!
# Braces of a phrase

A derivation opens no fewer braces than it closes, apart from the brace that the pairs of a hash
have to close.  It may open more, since the end of the text closes the blocks that are open there.
A phrase other than statements has a semicolon for its last token only if it ends inside such a
block: it then opens more braces than it closes (`Derivation.opens`).
-/

namespace MonkeyLang

/-! ## Opening and closing braces -/

/-- One for an opening brace, minus one for a closing brace. -/
def Token.brace (t : Token) : Int :=
  if t.kind = .lbrace then 1 else if t.kind = .rbrace then -1 else 0

/-- Opening braces minus closing braces. -/
def braces : List Token → Int
  | [] => 0
  | t :: ts => t.brace + braces ts

@[simp] lemma braces_nil : braces [] = 0 := rfl

@[simp] lemma braces_cons (t : Token) (ts : List Token) :
    braces (t :: ts) = t.brace + braces ts := rfl

lemma braces_eq_sub (ts : List Token) : braces ts =
    (ts.countP (·.kind = .lbrace) : Int) - (ts.countP (·.kind = .rbrace) : Int) := by
  induction ts with
  | nil => rfl
  | cons t ts ih =>
    rw [braces_cons, ih, Token.brace, List.countP_cons, List.countP_cons]
    by_cases hl : t.kind = .lbrace
    · simp [hl]
      omega
    · by_cases hr : t.kind = .rbrace
      · simp [hr]
        omega
      · simp [hl, hr]

lemma Token.brace_of_lbrace {t : Token} (h : t.kind = .lbrace) : t.brace = 1 := by
  rw [brace, if_pos h]

lemma Token.brace_of_rbrace {t : Token} (h : t.kind = .rbrace) : t.brace = -1 := by
  rw [brace, h]
  rfl

/-- The kinds of token that matter here. -/
def braceKinds : List TokenKind := [.lbrace, .rbrace, .semicolon]

lemma Token.brace_of_not_mem {t : Token} (h : t.kind ∉ braceKinds) : t.brace = 0 := by
  rw [brace, if_neg fun hk => h (by simp [hk, braceKinds]),
    if_neg fun hk => h (by simp [hk, braceKinds])]

/-- The last token is a semicolon. -/
def EndsInSemicolon (ts : List Token) : Prop := ts.getLast?.map Token.kind = some .semicolon

instance (ts : List Token) : Decidable (EndsInSemicolon ts) := inferInstanceAs (Decidable (_ = _))

lemma not_endsInSemicolon_nil : ¬ EndsInSemicolon [] := nofun

/-- The last token is that of a tail that is not empty. -/
lemma EndsInSemicolon.of_suffix {s m : List Token} (h : EndsInSemicolon s) (hm : m <:+ s)
    (hne : m ≠ []) : EndsInSemicolon m := by
  obtain ⟨u, rfl⟩ := hm
  rwa [EndsInSemicolon, List.getLast?_append_of_ne_nil u hne] at h

namespace Grammar

/-! ## Phrases that open braces -/

/-- From one list of tokens to a tail of it, some more braces are opened than closed.  If the
tokens end there, and with a semicolon, there are even more. -/
structure Opens (n : Int) (s r : List Token) : Prop where
  suffix : r <:+ s
  le : n + braces r ≤ braces s
  lt : r = [] → EndsInSemicolon s → n < braces s

namespace Opens

variable {n : Int} {k : TokenKind} {t close : Token} {s m r : List Token}

lemma refl (r : List Token) : Opens 0 r r where
  suffix := List.suffix_rfl
  le := Int.le_of_eq (Int.zero_add _)
  lt := by
    rintro rfl h
    exact absurd h not_endsInSemicolon_nil

lemma trans (h : Opens 0 s m) (h' : Opens n m r) : Opens n s r where
  suffix := h'.suffix.trans h.suffix
  le := by
    have hle := h.le
    have hle' := h'.le
    omega
  lt := by
    rintro rfl hlast
    have hle := h.le
    by_cases hm : m = []
    · subst hm
      have hlt := h.lt rfl hlast
      have hle' := h'.le
      rw [braces_nil] at hle'
      omega
    · have hlt := h'.lt rfl (hlast.of_suffix h.suffix hm)
      omega

/-- A token of another kind at the end is no semicolon. -/
lemma of_close (hsuffix : close :: r <:+ s) (hne : close.kind ≠ .semicolon)
    (hle : n + braces r ≤ braces s) : Opens n s r where
  suffix := (List.suffix_cons close r).trans hsuffix
  le := hle
  lt := by
    rintro rfl hlast
    have hclose := hlast.of_suffix hsuffix (List.cons_ne_nil close [])
    exact absurd (Option.some.inj hclose) hne

lemma token (hk : t.kind = k) (h : k ∉ braceKinds) : Opens 0 (t :: r) r := by
  subst hk
  refine of_close List.suffix_rfl (fun hk => h (by simp [hk, braceKinds])) (Int.le_of_eq ?_)
  rw [braces_cons, Token.brace_of_not_mem h]

lemma cons (hk : t.kind = k) (h : k ∉ braceKinds) (h' : Opens n s r) : Opens n (t :: s) r :=
  (token hk h).trans h'

lemma rbrace (h : t.kind = .rbrace) : Opens (-1) (t :: r) r := by
  refine of_close List.suffix_rfl (by rw [h]; decide) (Int.le_of_eq ?_)
  rw [braces_cons, Token.brace_of_rbrace h]

/-- A brace in front of what closes it. -/
lemma lbrace (h : t.kind = .lbrace) (h' : Opens (-1) s r) : Opens 0 (t :: s) r where
  suffix := h'.suffix.trans (List.suffix_cons t s)
  le := by
    have hle := h'.le
    rw [braces_cons, Token.brace_of_lbrace h]
    omega
  lt := by
    rintro rfl hlast
    rw [braces_cons, Token.brace_of_lbrace h]
    by_cases hs : s = []
    · simp [hs]
    · have hlt := h'.lt rfl (hlast.of_suffix (List.suffix_cons t s) hs)
      omega

end Opens

/-- What the phrases of a nonterminal open.  Statements may end with a semicolon of their own. -/
def Nonterminal.Opens : Nonterminal → List Token → List Token → Prop
  | statements, s, r => r <:+ s ∧ braces r ≤ braces s
  | pairs, s, r | morePairs, s, r => Grammar.Opens (-1) s r
  | _, s, r => Grammar.Opens 0 s r

lemma sign_not_mem_braceKinds {k : TokenKind} {op : BinaryOp}
    (h : BinaryOp.ofKind? k = some op) : k ∉ braceKinds := by
  revert h
  cases k <;> simp [BinaryOp.ofKind?, braceKinds]

lemma unarySign_not_mem_braceKinds {k : TokenKind} {op : UnaryOp}
    (h : UnaryOp.ofKind? k = some op) : k ∉ braceKinds := by
  revert h
  cases k <;> simp [UnaryOp.ofKind?, braceKinds]

lemma close_not_mem_braceKinds (bracket : Bracket) : bracket.close ∉ braceKinds := by
  cases bracket <;> decide

/-- A statement in front of statements. -/
lemma opens_statements {s m r : List Token} (h : Opens 0 s m)
    (h' : Nonterminal.statements.Opens m r) : Nonterminal.statements.Opens s r := by
  have hle := h.le
  have hle' := h'.2
  exact ⟨h'.1.trans h.suffix, by omega⟩

/-- Every derivation opens the braces that its nonterminal demands. -/
theorem Derivation.opens {A : Nonterminal} {s r : List Token} (d : Derivation A s r) :
    A.Opens s r := by
  induction d with
  | noStatement => exact ⟨List.suffix_rfl, Int.le_refl _⟩
  | @closedStatement t _ m _ _ semicolon _ ih ih' =>
    have hzero : t.brace = 0 := by rw [Token.brace, semicolon]; rfl
    have hle := ih.le
    have hle' := ih'.2
    rw [braces_cons, hzero] at hle
    exact ⟨ih'.1.trans ((List.suffix_cons t m).trans ih.suffix), by omega⟩
  | openStatement _ _ _ ih ih' => exact opens_statements ih ih'
  | letStatement word name assign _ ih =>
    exact .cons word (by decide) (.cons name (by decide)
      (.cons assign (by decide) ih))
  | returnStatement word _ ih => exact .cons word (by decide) ih
  | exprStatement _ ih => exact ih
  | @closedBlock t close s r brace _ rbrace ih =>
    refine .of_close (ih.1.trans (List.suffix_cons t s)) (by rw [rbrace]; decide) ?_
    have hle := ih.2
    rw [braces_cons, Token.brace_of_rbrace rbrace] at hle
    rw [braces_cons, Token.brace_of_lbrace brace]
    omega
  | @openBlock t s brace _ ih =>
    -- The brace of the block is not closed.
    have hle := ih.2
    have hlt : 0 < braces (t :: s) := by
      rw [braces_nil] at hle
      rw [braces_cons, Token.brace_of_lbrace brace]
      omega
    exact ⟨List.nil_suffix, by simpa using Int.le_of_lt hlt, fun _ _ => hlt⟩
  | noAlternative => exact .refl _
  | elseBlock word _ ih => exact .cons word (by decide) ih
  | binary _ _ ih ih' => exact Opens.trans ih ih'
  | chainEnd => exact .refl _
  | chainStep _ sign _ _ _ ih ih' =>
    exact .cons rfl (sign_not_mem_braceKinds sign) (Opens.trans ih ih')
  | unary _ sign _ ih => exact .cons rfl (unarySign_not_mem_braceKinds sign) ih
  | noUnary _ ih => exact ih
  | suffixed _ _ ih ih' => exact Opens.trans ih ih'
  | suffixEnd => exact .refl _
  | call lparen _ _ ih ih' => exact .cons lparen (by decide) (Opens.trans ih ih')
  | index lbracket _ rbracket _ ih ih' =>
    exact .cons lbracket (by decide)
      (Opens.trans ih (.cons rbracket (by decide) ih'))
  | ident word => exact .token word (by decide)
  | int digits => exact .token digits (by decide)
  | string quoted => exact .token quoted (by decide)
  | trueWord word => exact .token word (by decide)
  | falseWord word => exact .token word (by decide)
  | grouped lparen _ rparen ih =>
    exact .cons lparen (by decide) (Opens.trans ih (.token rparen (by decide)))
  | conditional word opening _ closing _ _ ih ih' ih'' =>
    exact .cons word (by decide) (.cons opening (by decide)
      (Opens.trans ih (.cons closing (by decide) (Opens.trans ih' ih''))))
  | function word opening _ _ ih ih' =>
    exact .cons word (by decide) (.cons opening (by decide) (Opens.trans ih ih'))
  | array lbracket _ ih => exact .cons lbracket (by decide) ih
  | hash brace _ ih => exact .lbrace brace ih
  | noArgument closing => exact .token closing (close_not_mem_braceKinds _)
  | someArguments _ _ ih ih' => exact Opens.trans ih ih'
  | argumentsEnd closing => exact .token closing (close_not_mem_braceKinds _)
  | nextArgument comma _ _ ih ih' => exact .cons comma (by decide) (Opens.trans ih ih')
  | noParameter closing => exact .token closing (by decide)
  | someParameters first _ ih => exact .cons first (by decide) ih
  | parametersEnd closing => exact .token closing (by decide)
  | nextParameter sign next _ ih =>
    exact .cons sign (by decide) (.cons next (by decide) ih)
  | noPair closing => exact .rbrace closing
  | somePairs _ sign _ _ ih ih' ih'' =>
    exact Opens.trans ih (.cons sign (by decide) (Opens.trans ih' ih''))
  | pairsEnd closing => exact .rbrace closing
  | pairsEndComma sign closing => exact .cons sign (by decide) (.rbrace closing)
  | nextPair sign _ between _ _ ih ih' ih'' =>
    exact .cons sign (by decide) (Opens.trans ih (.cons between (by decide)
      (Opens.trans ih' ih'')))

end Grammar

end MonkeyLang
