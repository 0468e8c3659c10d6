import MonkeyLang.Proofs.Syntax.Soundness
import MonkeyLang.Proofs.Syntax.Tokenization

/-!
# Beginnings that can be completed

A list of tokens is a beginning of a phrase if tokens can be put behind it that complete the
phrase, whatever follows then (`Completable`).  What has been derived is such a beginning: if
tokens are left behind it they can be exchanged for any others, and if the text has ended in the
middle of blocks, closing braces complete it (`Derivation.ready`).

Phrases are relations between the tokens before and behind them, so that sequences of nonterminals
and tokens are phrases as well.
-/

namespace MonkeyLang

/-- The token can be spelled, with a blank behind it. -/
def Token.Spellable (t : Token) : Prop :=
  ∃ slice, ∀ rest, TokenRule slice (' ' :: rest) t.kind t.literal

namespace Grammar

/-! ## Phrases -/

/-- The ways to take a phrase off the front of a list of tokens. -/
abbrev Phrase := List Token → List Token → Prop

/-- One token of a kind. -/
def Phrase.token (k : TokenKind) : Phrase := fun s r => ∃ t, t.kind = k ∧ s = t :: r

/-- One phrase and then another. -/
def Phrase.seq (P Q : Phrase) : Phrase := fun s r => ∃ m, P s m ∧ Q m r

/-- The phrases that a nonterminal derives.  Only statements depend on what follows. -/
def Nonterminal.phrase : Nonterminal → Phrase
  | statements => fun s r => ¬ attaches r → Nonempty (Derivation statements s r)
  | A => fun s r => Nonempty (Derivation A s r)

lemma attaches_append {s : List Token} (h : s ≠ []) (r : List Token) :
    attaches (s ++ r) ↔ attaches s := by
  obtain ⟨t, ts, rfl⟩ := List.exists_cons_of_ne_nil h
  rfl

lemma not_attaches_of_append {s r : List Token} (h : ¬ attaches (s ++ r)) : ¬ attaches s := by
  cases s with
  | nil => exact id
  | cons t ts => exact h

lemma not_attaches_cons {t : Token} {r : List Token} {k : TokenKind} (hk : t.kind = k)
    (h : k ∉ [.minus, .lparen, .lbracket]) : ¬ attaches (t :: r) := by
  rintro (hkind | hkind | hkind) <;> exact h (by simp [← hk, hkind])

/-! ## Beginnings -/

/-- Tokens that can be spelled complete the phrase that begins with these tokens. -/
def Completable (P : Phrase) (u : List Token) : Prop :=
  ∃ c : List Token, (∀ t ∈ c, t.Spellable) ∧ ∀ r, P (u ++ (c ++ r)) r

/-- The tokens up to `m` are a beginning of the phrase, and all of it if there are tokens in
`m`. -/
structure Ready (P : Phrase) (s m : List Token) (u : List Token) : Prop where
  eq_append : s = u ++ m
  completable : Completable P u
  replace : m ≠ [] → ∀ r, P (u ++ r) r

section

variable {P Q R : Phrase} {s m r u v : List Token}

lemma Completable.imp (h : Completable P u) (himp : ∀ s r, P s r → Q s r) : Completable Q u := by
  obtain ⟨c, hc, hP⟩ := h
  exact ⟨c, hc, fun r => himp _ _ (hP r)⟩

lemma Completable.of_forall (h : ∀ r, P (u ++ r) r) : Completable P u :=
  ⟨[], by simp, h⟩

/-- A phrase is completed behind which another phrase follows. -/
lemma Completable.seq (h : Completable P u) (hQ : Completable Q []) :
    Completable (P.seq Q) u := by
  obtain ⟨c, hc, hP⟩ := h
  obtain ⟨d, hd, hQ⟩ := hQ
  refine ⟨c ++ d, List.forall_mem_append.2 ⟨hc, hd⟩, fun r => ⟨d ++ r, ?_, hQ r⟩⟩
  rw [List.append_assoc]
  exact hP (d ++ r)

/-- The second of two phrases is completed.  If nothing stands behind the first one, it may have
to be completed too. -/
lemma Ready.seq_completable (h : Ready P s m u) (hm : m = v ++ r) (hQ : Completable Q v) :
    Completable (P.seq Q) (u ++ v) := by
  obtain ⟨d, hd, hQ⟩ := hQ
  by_cases hne : m = []
  · obtain ⟨rfl, rfl⟩ := List.append_eq_nil_iff.1 (hm.symm.trans hne)
    rw [List.append_nil]
    exact h.completable.seq ⟨d, hd, hQ⟩
  · refine ⟨d, hd, fun r' => ⟨v ++ (d ++ r'), ?_, hQ r'⟩⟩
    rw [List.append_assoc]
    exact h.replace hne _

lemma Ready.seq (h : Ready P s m u) (hQ : Ready Q m r v) :
    Ready (P.seq Q) s r (u ++ v) where
  eq_append := by rw [h.eq_append, hQ.eq_append, List.append_assoc]
  completable := h.seq_completable hQ.eq_append hQ.completable
  replace hr r' := by
    have hm : m ≠ [] := by
      rw [hQ.eq_append]
      exact List.append_ne_nil_of_right_ne_nil v hr
    refine ⟨v ++ r', ?_, hQ.replace hr r'⟩
    rw [List.append_assoc]
    exact h.replace hm _

lemma Ready.imp (h : Ready P s m u) (himp : ∀ s r, P s r → Q s r) : Ready Q s m u :=
  ⟨h.eq_append, h.completable.imp himp, fun hm r => himp _ _ (h.replace hm r)⟩

lemma Ready.of_forall (hs : s = u ++ m) (h : ∀ r, P (u ++ r) r) : Ready P s m u :=
  ⟨hs, .of_forall h, fun _ => h⟩

/-- A phrase may have no tokens. -/
lemma Ready.nothing (h : ∀ r, P r r) : Ready P m m [] := .of_forall rfl h

lemma ready_token {t : Token} {k : TokenKind} (hk : t.kind = k) :
    Ready (.token k) (t :: r) r [t] :=
  .of_forall rfl fun _ => ⟨t, hk, rfl⟩

/-! ## Tokens -/

lemma spellable_sign {c : Char} {k : TokenKind} (entry : (c, k) ∈ signs) :
    (Token.mk k (.singleton c) default).Spellable :=
  ⟨[c], fun _ => .sign entry fun _ h => absurd h (by simp)⟩

/-- A sign that is missing can be put. -/
lemma completable_token {c : Char} {k : TokenKind} (entry : (c, k) ∈ signs) :
    Completable (.token k) [] :=
  ⟨[⟨k, .singleton c, default⟩], by simpa using spellable_sign entry, fun _ => ⟨_, rfl, rfl⟩⟩

/-- A name that is missing can be put. -/
lemma completable_ident : Completable (.token .ident) [] := by
  have hword : ConsistsOf isWordChar "x" := ⟨by simp, by simp [isWordChar]⟩
  have hspellable : (Token.mk .ident "x" default).Spellable :=
    ⟨_, fun rest => TokenRule.ofWord hword (by simp [IsLetter])⟩
  exact ⟨[⟨.ident, "x", default⟩], by simpa using hspellable, fun _ => ⟨_, rfl, rfl⟩⟩

/-! ## Statements -/

/-- Statements that may stand behind a statement without a semicolon. -/
def separateStatements : Phrase := fun s r =>
  ¬ attaches r → ¬ attaches s ∧ Nonempty (Derivation .statements s r)

lemma separateStatements_of_phrase (hs : u ≠ []) (hu : ¬ attaches u)
    (h : Nonterminal.statements.phrase (u ++ s) r) : separateStatements (u ++ s) r :=
  fun hr => ⟨(attaches_append hs s).not.2 hu, h hr⟩

lemma separateStatements_refl (s : List Token) : separateStatements s s :=
  fun hs => ⟨hs, ⟨.noStatement⟩⟩

lemma Completable.separate (h : Completable Nonterminal.statements.phrase u)
    (hu : ¬ attaches u) : Completable separateStatements u := by
  by_cases hne : u = []
  · subst hne
    exact .of_forall separateStatements_refl
  · obtain ⟨c, hc, hP⟩ := h
    exact ⟨c, hc, fun r => separateStatements_of_phrase hne hu (hP r)⟩

lemma Ready.separate (h : Ready Nonterminal.statements.phrase m r u) (hm : ¬ attaches m) :
    Ready separateStatements m r u := by
  have hu : ¬ attaches u := not_attaches_of_append (h.eq_append ▸ hm)
  refine ⟨h.eq_append, h.completable.separate hu, fun hr r' => ?_⟩
  by_cases hne : u = []
  · rw [hne]
    exact separateStatements_refl r'
  · exact separateStatements_of_phrase hne hu (h.replace hr r')

end

/-! ## Rules

The rules of the grammar, with what stands behind the nonterminal on the left written as one
sequence. -/

section

open Nonterminal Phrase

variable {s r : List Token}

lemma closedStatement_of_seq (s r : List Token)
    (h : (statement.phrase.seq ((token .semicolon).seq statements.phrase)) s r) :
    statements.phrase s r := by
  intro hr
  obtain ⟨_, ⟨d⟩, _, ⟨t, ht, rfl⟩, hd'⟩ := h
  obtain ⟨d'⟩ := hd' hr
  exact ⟨.closedStatement d ht d'⟩

lemma openStatement_of_seq (s r : List Token)
    (h : (statement.phrase.seq separateStatements) s r) : statements.phrase s r := by
  intro hr
  obtain ⟨_, ⟨d⟩, hd'⟩ := h
  obtain ⟨hseparate, ⟨d'⟩⟩ := hd' hr
  exact ⟨.openStatement d hseparate d'⟩

lemma letStatement_of_seq (s r : List Token) (h : ((token .letWord).seq
    ((token .ident).seq ((token .assign).seq expression.phrase))) s r) : statement.phrase s r := by
  obtain ⟨_, ⟨t, ht, rfl⟩, _, ⟨n, hn, rfl⟩, _, ⟨sign, hsign, rfl⟩, ⟨d⟩⟩ := h
  exact ⟨.letStatement ht hn hsign d⟩

lemma returnStatement_of_seq (s r : List Token)
    (h : ((token .returnWord).seq expression.phrase) s r) : statement.phrase s r := by
  obtain ⟨_, ⟨t, ht, rfl⟩, ⟨d⟩⟩ := h
  exact ⟨.returnStatement ht d⟩

lemma exprStatement_of_phrase (s r : List Token) (h : expression.phrase s r) :
    statement.phrase s r := by
  obtain ⟨d⟩ := h
  cases s with
  | nil => exact absurd rfl (Derivable.ne_eof (s := ⟨[], 0⟩) ⟨d, rfl⟩)
  | cons t s => exact ⟨.exprStatement d⟩

lemma block_of_seq (s r : List Token)
    (h : ((token .lbrace).seq (statements.phrase.seq (token .rbrace))) s r) :
    block.phrase s r := by
  obtain ⟨_, ⟨t, ht, rfl⟩, _, hbody, close, hclose, rfl⟩ := h
  obtain ⟨d⟩ := hbody (not_attaches_cons hclose (by decide))
  exact ⟨.closedBlock ht d hclose⟩

lemma alternative_of_seq (s r : List Token) (h : ((token .elseWord).seq block.phrase) s r) :
    alternative.phrase s r := by
  obtain ⟨_, ⟨t, ht, rfl⟩, ⟨d⟩⟩ := h
  exact ⟨.elseBlock ht d⟩

lemma unary_of_seq {k : TokenKind} {op : UnaryOp} (sign : UnaryOp.ofKind? k = some op)
    (s r : List Token) (h : ((token k).seq (expr .unary).phrase) s r) :
    (expr .unary).phrase s r := by
  obtain ⟨_, ⟨t, rfl, rfl⟩, ⟨d⟩⟩ := h
  exact ⟨.unary op sign d⟩

lemma grouped_of_seq (s r : List Token)
    (h : ((token .lparen).seq (expression.phrase.seq (token .rparen))) s r) :
    primary.phrase s r := by
  obtain ⟨_, ⟨t, ht, rfl⟩, _, ⟨d⟩, close, hclose, rfl⟩ := h
  exact ⟨.grouped ht d hclose⟩

lemma conditional_of_seq (s r : List Token) (h : ((token .ifWord).seq ((token .lparen).seq
    (expression.phrase.seq ((token .rparen).seq (block.phrase.seq alternative.phrase))))) s r) :
    primary.phrase s r := by
  obtain ⟨_, ⟨t, ht, rfl⟩, _, ⟨lparen, hl, rfl⟩, _, ⟨d⟩, _, ⟨rparen, hr, rfl⟩, _, ⟨d'⟩, ⟨d''⟩⟩ := h
  exact ⟨.conditional ht hl d hr d' d''⟩

lemma function_of_seq (s r : List Token) (h : ((token .function).seq ((token .lparen).seq
    (parameters.phrase.seq block.phrase))) s r) : primary.phrase s r := by
  obtain ⟨_, ⟨t, ht, rfl⟩, _, ⟨lparen, hl, rfl⟩, _, ⟨d⟩, ⟨d'⟩⟩ := h
  exact ⟨.function ht hl d d'⟩

lemma array_of_seq (s r : List Token)
    (h : ((token .lbracket).seq (arguments .square).phrase) s r) : primary.phrase s r := by
  obtain ⟨_, ⟨t, ht, rfl⟩, ⟨d⟩⟩ := h
  exact ⟨.array ht d⟩

lemma hash_of_seq (s r : List Token) (h : ((token .lbrace).seq pairs.phrase) s r) :
    primary.phrase s r := by
  obtain ⟨_, ⟨t, ht, rfl⟩, ⟨d⟩⟩ := h
  exact ⟨.hash ht d⟩

lemma somePairs_of_seq (s r : List Token) (h : (expression.phrase.seq
    ((token .colon).seq (expression.phrase.seq morePairs.phrase))) s r) : pairs.phrase s r := by
  obtain ⟨_, ⟨d⟩, _, ⟨colon, hcolon, rfl⟩, _, ⟨d'⟩, ⟨d''⟩⟩ := h
  exact ⟨.somePairs d hcolon d' d''⟩

lemma morePairs_of_seq (s r : List Token) (h : ((token .comma).seq pairs.phrase) s r) :
    morePairs.phrase s r := by
  obtain ⟨_, ⟨comma, hcomma, rfl⟩, ⟨d⟩⟩ := h
  obtain ⟨d', -⟩ := Derivable.morePairs_of_comma hcomma ⟨d, rfl⟩
  exact ⟨d'⟩

lemma suffixed_of_phrase (s r : List Token) (h : primary.phrase s r) :
    (expr .suffixed).phrase s r := by
  obtain ⟨d⟩ := h
  exact ⟨.suffixed d .suffixEnd⟩

end

/-! ## Derivations -/

/-- What has been derived is a beginning. -/
theorem Derivation.ready {A : Nonterminal} {s r : List Token} (d : Derivation A s r) :
    ∃ u, Ready A.phrase s r u := by
  induction d with
  | noStatement => exact ⟨[], .nothing fun _ _ => ⟨.noStatement⟩⟩
  | closedStatement _ semicolon _ ih ih' =>
    obtain ⟨⟨u, h⟩, v, h'⟩ := And.intro ih ih'
    exact ⟨_, (h.seq ((ready_token semicolon).seq h')).imp closedStatement_of_seq⟩
  | openStatement _ separate _ ih ih' =>
    obtain ⟨⟨u, h⟩, v, h'⟩ := And.intro ih ih'
    exact ⟨_, (h.seq (h'.separate separate)).imp openStatement_of_seq⟩
  | letStatement word name assign _ ih =>
    obtain ⟨u, h⟩ := ih
    exact ⟨_, ((ready_token word).seq
      ((ready_token name).seq ((ready_token assign).seq h))).imp letStatement_of_seq⟩
  | returnStatement word _ ih =>
    obtain ⟨u, h⟩ := ih
    exact ⟨_, ((ready_token word).seq h).imp returnStatement_of_seq⟩
  | exprStatement _ ih =>
    obtain ⟨u, h⟩ := ih
    exact ⟨u, h.imp exprStatement_of_phrase⟩
  | closedBlock brace _ rbrace ih =>
    obtain ⟨u, h⟩ := ih
    exact ⟨_, ((ready_token brace).seq (h.seq (ready_token rbrace))).imp block_of_seq⟩
  | openBlock brace _ ih =>
    obtain ⟨u, h⟩ := ih
    -- The text has ended inside the block, which a brace closes.
    have hbody := h.completable.seq (completable_token (k := .rbrace) (c := '\x7d') (by decide))
    have hblock := ((ready_token brace).seq_completable h.eq_append hbody).imp block_of_seq
    refine ⟨_, ?_, hblock, fun hne => absurd rfl hne⟩
    rw [h.eq_append]
    rfl
  | noAlternative => exact ⟨[], .nothing fun _ => ⟨.noAlternative⟩⟩
  | elseBlock word _ ih =>
    obtain ⟨u, h⟩ := ih
    exact ⟨_, ((ready_token word).seq h).imp alternative_of_seq⟩
  | binary _ _ ih ih' =>
    obtain ⟨⟨u, h⟩, v, h'⟩ := And.intro ih ih'
    refine ⟨_, (h.seq h').imp ?_⟩
    rintro s r ⟨_, ⟨d⟩, ⟨d'⟩⟩
    exact ⟨.binary d d'⟩
  | chainEnd => exact ⟨[], .nothing fun _ => ⟨.chainEnd⟩⟩
  | chainStep op sign member _ _ ih ih' =>
    obtain ⟨⟨u, h⟩, v, h'⟩ := And.intro ih ih'
    refine ⟨_, ((ready_token rfl).seq (h.seq h')).imp ?_⟩
    rintro s r ⟨_, ⟨t, ht, rfl⟩, _, ⟨d⟩, ⟨d'⟩⟩
    exact ⟨.chainStep op (ht ▸ sign) member d d'⟩
  | unary op sign _ ih =>
    obtain ⟨u, h⟩ := ih
    exact ⟨_, ((ready_token rfl).seq h).imp (unary_of_seq sign)⟩
  | noUnary _ ih =>
    obtain ⟨u, h⟩ := ih
    exact ⟨u, h.imp fun _ _ ⟨d⟩ => ⟨.noUnary d⟩⟩
  | suffixed _ _ ih ih' =>
    obtain ⟨⟨u, h⟩, v, h'⟩ := And.intro ih ih'
    refine ⟨_, (h.seq h').imp ?_⟩
    rintro s r ⟨_, ⟨d⟩, ⟨d'⟩⟩
    exact ⟨.suffixed d d'⟩
  | suffixEnd => exact ⟨[], .nothing fun _ => ⟨.suffixEnd⟩⟩
  | call lparen _ _ ih ih' =>
    obtain ⟨⟨u, h⟩, v, h'⟩ := And.intro ih ih'
    refine ⟨_, ((ready_token lparen).seq (h.seq h')).imp ?_⟩
    rintro s r ⟨_, ⟨t, ht, rfl⟩, _, ⟨d⟩, ⟨d'⟩⟩
    exact ⟨.call ht d d'⟩
  | index lbracket _ rbracket _ ih ih' =>
    obtain ⟨⟨u, h⟩, v, h'⟩ := And.intro ih ih'
    refine ⟨_, ((ready_token lbracket).seq (h.seq ((ready_token rbracket).seq h'))).imp ?_⟩
    rintro s r ⟨_, ⟨t, ht, rfl⟩, _, ⟨d⟩, _, ⟨close, hclose, rfl⟩, ⟨d'⟩⟩
    exact ⟨.index ht d hclose d'⟩
  | ident word => exact ⟨_, .of_forall List.singleton_append.symm fun _ => ⟨.ident word⟩⟩
  | int digits range =>
    exact ⟨_, .of_forall List.singleton_append.symm fun _ => ⟨.int digits range⟩⟩
  | string quoted => exact ⟨_, .of_forall List.singleton_append.symm fun _ => ⟨.string quoted⟩⟩
  | trueWord word => exact ⟨_, .of_forall List.singleton_append.symm fun _ => ⟨.trueWord word⟩⟩
  | falseWord word => exact ⟨_, .of_forall List.singleton_append.symm fun _ => ⟨.falseWord word⟩⟩
  | grouped lparen _ rparen ih =>
    obtain ⟨u, h⟩ := ih
    exact ⟨_, ((ready_token lparen).seq (h.seq (ready_token rparen))).imp grouped_of_seq⟩
  | conditional word opening _ closing _ _ ih ih' ih'' =>
    obtain ⟨⟨u, h⟩, ⟨v, h'⟩, w, h''⟩ := And.intro ih (And.intro ih' ih'')
    exact ⟨_, ((ready_token word).seq ((ready_token opening).seq
      (h.seq ((ready_token closing).seq (h'.seq h''))))).imp conditional_of_seq⟩
  | function word opening _ _ ih ih' =>
    obtain ⟨⟨u, h⟩, v, h'⟩ := And.intro ih ih'
    exact ⟨_, ((ready_token word).seq ((ready_token opening).seq (h.seq h'))).imp function_of_seq⟩
  | array lbracket _ ih =>
    obtain ⟨u, h⟩ := ih
    exact ⟨_, ((ready_token lbracket).seq h).imp array_of_seq⟩
  | hash brace _ ih =>
    obtain ⟨u, h⟩ := ih
    exact ⟨_, ((ready_token brace).seq h).imp hash_of_seq⟩
  | noArgument closing =>
    exact ⟨_, .of_forall List.singleton_append.symm fun _ => ⟨.noArgument closing⟩⟩
  | someArguments _ _ ih ih' =>
    obtain ⟨⟨u, h⟩, v, h'⟩ := And.intro ih ih'
    refine ⟨_, (h.seq h').imp ?_⟩
    rintro s r ⟨_, ⟨d⟩, ⟨d'⟩⟩
    exact ⟨.someArguments d d'⟩
  | argumentsEnd closing =>
    exact ⟨_, .of_forall List.singleton_append.symm fun _ => ⟨.argumentsEnd closing⟩⟩
  | nextArgument comma _ _ ih ih' =>
    obtain ⟨⟨u, h⟩, v, h'⟩ := And.intro ih ih'
    refine ⟨_, ((ready_token comma).seq (h.seq h')).imp ?_⟩
    rintro s r ⟨_, ⟨t, ht, rfl⟩, _, ⟨d⟩, ⟨d'⟩⟩
    exact ⟨.nextArgument ht d d'⟩
  | noParameter closing =>
    exact ⟨_, .of_forall List.singleton_append.symm fun _ => ⟨.noParameter closing⟩⟩
  | someParameters first _ ih =>
    obtain ⟨u, h⟩ := ih
    refine ⟨_, ((ready_token first).seq h).imp ?_⟩
    rintro s r ⟨_, ⟨t, ht, rfl⟩, ⟨d⟩⟩
    exact ⟨.someParameters ht d⟩
  | parametersEnd closing =>
    exact ⟨_, .of_forall List.singleton_append.symm fun _ => ⟨.parametersEnd closing⟩⟩
  | nextParameter sign next _ ih =>
    obtain ⟨u, h⟩ := ih
    refine ⟨_, ((ready_token sign).seq ((ready_token next).seq h)).imp ?_⟩
    rintro s r ⟨_, ⟨t, ht, rfl⟩, _, ⟨x, hx, rfl⟩, ⟨d⟩⟩
    exact ⟨.nextParameter ht hx d⟩
  | noPair closing =>
    exact ⟨_, .of_forall List.singleton_append.symm fun _ => ⟨.noPair closing⟩⟩
  | somePairs _ sign _ _ ih ih' ih'' =>
    obtain ⟨⟨u, h⟩, ⟨v, h'⟩, w, h''⟩ := And.intro ih (And.intro ih' ih'')
    exact ⟨_, (h.seq ((ready_token sign).seq (h'.seq h''))).imp somePairs_of_seq⟩
  | pairsEnd closing =>
    exact ⟨_, .of_forall List.singleton_append.symm fun _ => ⟨.pairsEnd closing⟩⟩
  | pairsEndComma sign closing =>
    exact ⟨[_, _], .of_forall rfl fun _ => ⟨.pairsEndComma sign closing⟩⟩
  | nextPair sign _ between _ _ ih ih' ih'' =>
    obtain ⟨⟨u, h⟩, ⟨v, h'⟩, w, h''⟩ := And.intro ih (And.intro ih' ih'')
    have hpairs := (h.seq ((ready_token between).seq (h'.seq h''))).imp somePairs_of_seq
    exact ⟨_, ((ready_token sign).seq hpairs).imp morePairs_of_seq⟩

end Grammar

end MonkeyLang
