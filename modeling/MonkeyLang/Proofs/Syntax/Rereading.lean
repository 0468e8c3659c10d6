import MonkeyLang.Proofs.Syntax.Language
import Mathlib.Data.List.Forall2

/-!
# Texts that are read again

`Grammar.Rereads A text good` says of a text that was printed that it is derived from the
nonterminal `A`, in front of anything that does not continue its last token, with a tree that is
good for what was printed.  A list is read again if its items are, whatever prints them: its trees
are good for its items, one by one.
-/

namespace MonkeyLang

/-! ## Signs -/

/-- Wherever the text stands it is one token of the kind, and it continues no token before it. -/
structure TokenKind.IsSign (kind : TokenKind) (text : String) : Prop where
  boundary : ∀ cs, Boundary (text.toList ++ cs)
  scan : ∀ offset cs, ∃ t offset', t.kind = kind ∧
    Token.scanFrom offset (text.toList ++ cs) = t :: Token.scanFrom offset' cs

/-- A sign of one character, perhaps with a blank behind it. -/
lemma TokenKind.isSign_of {kind : TokenKind} {c : Char} {text : String}
    (hkind : ofPunctuation? c = some kind) (halone : c ≠ '=' ∧ c ≠ '!')
    (htext : text.toList = [c] ∨ text.toList = [c, ' ']) : kind.IsSign text := by
  obtain ⟨-, hword, hdigit, -⟩ := classes_of_ofPunctuation hkind
  have hboundary : ∀ cs, Boundary (text.toList ++ cs) := by
    intro cs
    rcases htext with htext | htext <;> rw [htext] <;> exact boundary_cons.2 ⟨hword, hdigit⟩
  refine ⟨hboundary, fun offset cs => ?_⟩
  rcases htext with htext | htext
  · rw [htext, List.singleton_append, Token.scanFrom_sign hkind fun _ => halone]
    exact ⟨_, _, rfl, rfl⟩
  · rw [htext, List.cons_append, List.singleton_append, Token.scanFrom_sign hkind fun _ => halone,
      Token.scanFrom_of_isBlank rfl]
    exact ⟨_, _, rfl, rfl⟩

lemma TokenKind.isSign_comma : TokenKind.comma.IsSign ", " :=
  isSign_of (c := ',') rfl (by decide) (.inr rfl)

lemma TokenKind.isSign_colon : TokenKind.colon.IsSign ":" :=
  isSign_of (c := ':') rfl (by decide) (.inl rfl)

lemma TokenKind.isSign_rbrace : TokenKind.rbrace.IsSign "\x7d" :=
  isSign_of (c := '\x7d') rfl (by decide) (.inl rfl)

namespace Grammar

open Token

/-! ## Texts read as a nonterminal -/

/-- In front of any text that does not continue its last token, the text is derived with a tree of
the given kind. -/
def Rereads (A : Nonterminal) (text : String) (good : A.Tree → Prop) : Prop :=
  ∀ offset rest, Boundary rest → ∃ offset' tree,
    Derivable A (scanFrom offset (text.toList ++ rest)) (scanFrom offset' rest) tree ∧ good tree

lemma Rereads.imp {A : Nonterminal} {text : String} {good good' : A.Tree → Prop}
    (h : Rereads A text good) (himp : ∀ tree, good tree → good' tree) : Rereads A text good' := by
  intro offset rest hrest
  obtain ⟨offset', tree, hd, hgood⟩ := h offset rest hrest
  exact ⟨offset', tree, hd, himp tree hgood⟩

lemma Level.not_suffixed_lt (level : Level) : ¬ Level.suffixed.bound < level.bound := by
  rcases level with ⟨_ | _ | _ | _⟩ | _ | _ <;> decide

lemma Level.not_lt_equality (level : Level) :
    ¬ level.bound < (Level.binary .equality).bound := by
  rcases level with ⟨_ | _ | _ | _⟩ | _ | _ <;> decide

section

variable {good : Expr → Prop} {text : String}

lemma Derivable.exists_cons {level : Level} {ts r : List Token} {e : Expr}
    (h : Derivable (.expr level) ts r e) : ∃ t m, ts = t :: m := by
  cases ts with
  | nil =>
    have hne : (TokenStream.mk [] 0).current.kind ≠ .eof := Derivable.ne_eof h
    exact absurd (TokenStream.kind_current_nil 0) hne
  | cons t m => exact ⟨t, m, rfl⟩

/-- An expression of the strongest level is an expression of every level. -/
lemma Rereads.atLevel (h : Rereads (.expr .suffixed) text good) (level : Level) :
    Rereads (.expr level) text good := by
  intro offset rest hrest
  obtain ⟨offset', tree, hd, hgood⟩ := h offset rest hrest
  exact ⟨offset', tree, hd.weaken level.not_suffixed_lt, hgood⟩

/-- An expression of any level can stand by itself. -/
lemma Rereads.expression {level : Level} (h : Rereads (.expr level) text good) :
    Rereads .expression text good := by
  intro offset rest hrest
  obtain ⟨offset', tree, hd, hgood⟩ := h offset rest hrest
  exact ⟨offset', tree, hd.weaken level.not_lt_equality, hgood⟩

lemma Rereads.primary (h : Rereads .primary text good) :
    Rereads (.expr .suffixed) text good := by
  intro offset rest hrest
  obtain ⟨offset', tree, ⟨d, hd⟩, hgood⟩ := h offset rest hrest
  exact ⟨offset', tree, ⟨.suffixed d .suffixEnd, hd⟩, hgood⟩

/-- An expression in parentheses is an expression of the strongest level. -/
lemma Rereads.grouped (h : Rereads .expression text good) :
    Rereads (.expr .suffixed) ("(" ++ text ++ ")") good := by
  refine Rereads.primary fun offset rest hrest => ?_
  have htext : ("(" ++ text ++ ")").toList ++ rest = '(' :: (text.toList ++ ')' :: rest) := by simp
  have hclose : Boundary (')' :: rest) := boundary_cons.2 (by decide)
  obtain ⟨offset', tree, hd, hgood⟩ := h (offset + '('.utf8Size) (')' :: rest) hclose
  rw [scanFrom_sign rfl (by simp)] at hd
  rw [htext, scanFrom_sign rfl (by simp)]
  obtain ⟨d, rfl⟩ := hd
  exact ⟨_, _, ⟨.grouped rfl d rfl, rfl⟩, hgood⟩

/-- The text of an operand behind the symbol of an operator that the operand does not make
longer. -/
lemma Rereads.unary {goodUnary : Expr → Prop} (h : Rereads (.expr .unary) text good)
    (op : UnaryOp) (hhead : ∃ c, text.toList.head? = some c ∧ c ≠ '=')
    (hunary : ∀ t tree, good tree → goodUnary (.unary t op tree)) :
    Rereads (.expr .unary) (op.symbol ++ text) goodUnary := by
  intro offset rest hrest
  have hnext : (text.toList ++ rest).head? ≠ some '=' := by
    obtain ⟨c, hc, hne⟩ := hhead
    simp [hc, hne]
  obtain ⟨sign, middle, hsign, hscan⟩ := scanFrom_unarySymbol op offset hnext
  obtain ⟨offset', tree, ⟨d, rfl⟩, hgood⟩ := h middle rest hrest
  rw [String.toList_append, List.append_assoc, hscan]
  exact ⟨offset', .unary sign op d.tree, ⟨.unary op hsign d, rfl⟩, hunary sign _ hgood⟩

end

lemma head_of_consistsOf {p : Char → Bool} {text : String} (h : ConsistsOf p text)
    (hp : p '=' = false) : ∃ c, text.toList.head? = some c ∧ c ≠ '=' := by
  obtain ⟨c, cs, hcs⟩ := List.exists_cons_of_ne_nil h.ne_nil
  refine ⟨c, by rw [hcs, List.head?_cons], ?_⟩
  rintro rfl
  have htrue := h.all '=' (by rw [hcs]; exact List.mem_cons_self)
  rw [hp] at htrue
  exact absurd htrue Bool.false_ne_true

/-! ## Lists -/

/-- The text that closes a list. -/
def Bracket.symbol : Bracket → String
  | round => ")"
  | square => "]"

lemma Bracket.isSign (bracket : Bracket) : bracket.close.IsSign bracket.symbol := by
  cases bracket with
  | round => exact TokenKind.isSign_of (c := ')') rfl (by decide) (.inl rfl)
  | square => exact TokenKind.isSign_of (c := ']') rfl (by decide) (.inl rfl)

/-- Texts with a separator before each of them. -/
def separated (texts : List String) : String := String.join (texts.map (", " ++ ·))

lemma separated_cons (text : String) (texts : List String) :
    separated (text :: texts) = ", " ++ text ++ separated texts := by
  rw [separated, List.map_cons, String.join_cons]
  rfl

lemma intercalate_cons (text : String) (texts : List String) :
    ", ".intercalate (text :: texts) = text ++ separated texts := by
  induction texts generalizing text with
  | nil => simp [separated]
  | cons next texts ih =>
    rw [String.intercalate_cons_cons, ih, separated_cons, String.append_assoc, String.append_assoc]

/-- More texts and what closes them do not continue the last token. -/
lemma boundary_separated {close : String} {rest : List Char}
    (h : Boundary (close.toList ++ rest)) (texts : List String) :
    Boundary ((separated texts ++ close).toList ++ rest) := by
  cases texts with
  | nil => simpa [separated] using h
  | cons text texts =>
    have htext : (separated (text :: texts) ++ close).toList ++ rest =
        ", ".toList ++ (text.toList ++ ((separated texts).toList ++ (close.toList ++ rest))) := by
      simp [separated_cons]
    rw [htext]
    exact TokenKind.isSign_comma.boundary _

section

variable {α : Type} {bracket : Bracket} {text : α → String} {good : α → Expr → Prop}

lemma Rereads.moreArguments : ∀ {xs : List α},
    (∀ x ∈ xs, Rereads .expression (text x) (good x)) →
    Rereads (.moreArguments bracket) (separated (xs.map text) ++ bracket.symbol)
      (List.Forall₂ good xs)
  | [], _ => by
    intro offset rest _
    have htext : (separated ([].map text) ++ bracket.symbol).toList ++ rest =
        bracket.symbol.toList ++ rest := by simp [separated]
    obtain ⟨t, offset', hkind, hscan⟩ := bracket.isSign.scan offset rest
    rw [htext, hscan]
    exact ⟨offset', _, ⟨.argumentsEnd hkind, rfl⟩, .nil⟩
  | x :: xs, h => by
    intro offset rest hrest
    obtain ⟨hx, hxs⟩ := List.forall_mem_cons.1 h
    have htext : (separated ((x :: xs).map text) ++ bracket.symbol).toList ++ rest =
        ", ".toList ++ ((text x).toList ++
          ((separated (xs.map text) ++ bracket.symbol).toList ++ rest)) := by
      simp [separated_cons]
    have hnext := boundary_separated (bracket.isSign.boundary rest) (xs.map text)
    obtain ⟨comma, between, hcomma, hscan⟩ := TokenKind.isSign_comma.scan offset
      ((text x).toList ++ ((separated (xs.map text) ++ bracket.symbol).toList ++ rest))
    obtain ⟨middle, tree, ⟨d, rfl⟩, hgood⟩ := hx between _ hnext
    obtain ⟨offset', trees, ⟨ds, rfl⟩, hmore⟩ := moreArguments hxs middle rest hrest
    rw [htext, hscan]
    exact ⟨offset', d.tree :: ds.tree, ⟨.nextArgument hcomma d ds, rfl⟩, .cons hgood hmore⟩

/-- The texts of items, with commas between them and a closing bracket. -/
lemma Rereads.arguments {xs : List α} (h : ∀ x ∈ xs, Rereads .expression (text x) (good x)) :
    Rereads (.arguments bracket) (", ".intercalate (xs.map text) ++ bracket.symbol)
      (List.Forall₂ good xs) := by
  intro offset rest hrest
  cases xs with
  | nil =>
    have htext : (", ".intercalate ([].map text) ++ bracket.symbol).toList ++ rest =
        bracket.symbol.toList ++ rest := by simp
    obtain ⟨t, offset', hkind, hscan⟩ := bracket.isSign.scan offset rest
    rw [htext, hscan]
    exact ⟨offset', _, ⟨.noArgument hkind, rfl⟩, .nil⟩
  | cons x xs =>
    obtain ⟨hx, hxs⟩ := List.forall_mem_cons.1 h
    have htext : (", ".intercalate ((x :: xs).map text) ++ bracket.symbol).toList ++ rest =
        (text x).toList ++ ((separated (xs.map text) ++ bracket.symbol).toList ++ rest) := by
      simp [intercalate_cons]
    have hnext := boundary_separated (bracket.isSign.boundary rest) (xs.map text)
    obtain ⟨middle, tree, ⟨d, rfl⟩, hgood⟩ := hx offset _ hnext
    obtain ⟨offset', trees, ⟨ds, rfl⟩, hmore⟩ := Rereads.moreArguments hxs middle rest hrest
    rw [htext]
    exact ⟨offset', d.tree :: ds.tree, ⟨.someArguments d ds, rfl⟩, .cons hgood hmore⟩

lemma Rereads.array {xs : List α} {goodArray : Expr → Prop}
    (h : ∀ x ∈ xs, Rereads .expression (text x) (good x))
    (harray : ∀ t trees, List.Forall₂ good xs trees → goodArray (.array t trees)) :
    Rereads .primary ("[" ++ ", ".intercalate (xs.map text) ++ "]") goodArray := by
  intro offset rest hrest
  have htext : ("[" ++ ", ".intercalate (xs.map text) ++ "]").toList ++ rest = '[' ::
      ((", ".intercalate (xs.map text) ++ Bracket.square.symbol).toList ++ rest) := by
    simp [Bracket.symbol]
  have hitems : Rereads (.arguments .square) _ (List.Forall₂ good xs) := Rereads.arguments h
  obtain ⟨offset', trees, ⟨d, rfl⟩, hgood⟩ := hitems (offset + '['.utf8Size) rest hrest
  rw [htext, scanFrom_sign rfl (by simp)]
  exact ⟨offset', .array _ d.tree, ⟨.array rfl d, rfl⟩, harray _ _ hgood⟩

end

/-! ## Pairs -/

section

variable {α : Type} {colon : String} {keyText valueText : α → String}
  {goodKey goodValue : α → Expr → Prop} {xs : List α}

/-- The text of a key and its value, with a colon between them. -/
def pairText (colon : String) (keyText valueText : α → String) (x : α) : String :=
  keyText x ++ colon ++ valueText x

/-- A pair that is good for an item. -/
def GoodPair (goodKey goodValue : α → Expr → Prop) (x : α) (pair : Expr × Expr) : Prop :=
  goodKey x pair.1 ∧ goodValue x pair.2

lemma Rereads.pair {x : α} (hcolon : TokenKind.colon.IsSign colon)
    (hkey : Rereads .expression (keyText x) (goodKey x))
    (hvalue : Rereads .expression (valueText x) (goodValue x)) {rest : List Char}
    (hrest : Boundary rest) (offset : Nat) : ∃ t middle offset' pair,
      t.kind = .colon ∧
      Derivable .expression
        (scanFrom offset ((pairText colon keyText valueText x).toList ++ rest)) (t :: middle) pair.1 ∧
      Derivable .expression middle (scanFrom offset' rest) pair.2 ∧
      GoodPair goodKey goodValue x pair := by
  have htext : (pairText colon keyText valueText x).toList ++ rest =
      (keyText x).toList ++ (colon.toList ++ ((valueText x).toList ++ rest)) := by
    simp [pairText]
  obtain ⟨between, key, hd, hgood⟩ := hkey offset _ (hcolon.boundary _)
  obtain ⟨t, middle, hkind, hscan⟩ := hcolon.scan between ((valueText x).toList ++ rest)
  obtain ⟨offset', value, hd', hgood'⟩ := hvalue middle rest hrest
  rw [hscan] at hd
  rw [htext]
  exact ⟨t, _, offset', (key, value), hkind, hd, hd', hgood, hgood'⟩

lemma Rereads.morePairs (hcolon : TokenKind.colon.IsSign colon) : ∀ {xs : List α},
    (∀ x ∈ xs, Rereads .expression (keyText x) (goodKey x)) →
    (∀ x ∈ xs, Rereads .expression (valueText x) (goodValue x)) →
    Rereads .morePairs (separated (xs.map (pairText colon keyText valueText)) ++ "\x7d")
      (List.Forall₂ (GoodPair goodKey goodValue) xs)
  | [], _, _ => by
    intro offset rest _
    have htext : (separated ([].map (pairText colon keyText valueText)) ++ "\x7d").toList ++ rest =
        "\x7d".toList ++ rest := by simp [separated]
    obtain ⟨t, offset', hkind, hscan⟩ := TokenKind.isSign_rbrace.scan offset rest
    rw [htext, hscan]
    exact ⟨offset', _, ⟨.pairsEnd hkind, rfl⟩, .nil⟩
  | x :: xs, hkeys, hvalues => by
    intro offset rest hrest
    obtain ⟨hkey, hkeys⟩ := List.forall_mem_cons.1 hkeys
    obtain ⟨hvalue, hvalues⟩ := List.forall_mem_cons.1 hvalues
    have htext : (separated ((x :: xs).map (pairText colon keyText valueText)) ++ "\x7d").toList ++
        rest = ", ".toList ++ ((pairText colon keyText valueText x).toList ++
          ((separated (xs.map (pairText colon keyText valueText)) ++ "\x7d").toList ++ rest)) := by
      simp [separated_cons]
    have hnext := boundary_separated (TokenKind.isSign_rbrace.boundary rest)
      (xs.map (pairText colon keyText valueText))
    obtain ⟨comma, before, hcomma, hscan⟩ := TokenKind.isSign_comma.scan offset
      ((pairText colon keyText valueText x).toList ++
        ((separated (xs.map (pairText colon keyText valueText)) ++ "\x7d").toList ++ rest))
    obtain ⟨t, between, middle, pair, hkind, ⟨d, hd⟩, ⟨d', hd'⟩, hgood⟩ :=
      Rereads.pair hcolon hkey hvalue hnext before
    obtain ⟨offset', pairs, ⟨ds, rfl⟩, hmore⟩ := morePairs hcolon hkeys hvalues middle rest hrest
    rw [htext, hscan]
    refine ⟨offset', (d.tree, d'.tree) :: ds.tree, ⟨.nextPair hcomma d hkind d' ds, rfl⟩, ?_⟩
    exact .cons ⟨hd ▸ hgood.1, hd' ▸ hgood.2⟩ hmore

/-- The texts of pairs, with commas between them and a closing brace. -/
lemma Rereads.pairs (hcolon : TokenKind.colon.IsSign colon)
    (hkeys : ∀ x ∈ xs, Rereads .expression (keyText x) (goodKey x))
    (hvalues : ∀ x ∈ xs, Rereads .expression (valueText x) (goodValue x)) :
    Rereads .pairs (", ".intercalate (xs.map (pairText colon keyText valueText)) ++ "\x7d")
      (List.Forall₂ (GoodPair goodKey goodValue) xs) := by
  intro offset rest hrest
  cases xs with
  | nil =>
    have htext : (", ".intercalate ([].map (pairText colon keyText valueText)) ++ "\x7d").toList ++
        rest = "\x7d".toList ++ rest := by simp
    obtain ⟨t, offset', hkind, hscan⟩ := TokenKind.isSign_rbrace.scan offset rest
    rw [htext, hscan]
    exact ⟨offset', _, ⟨.noPair hkind, rfl⟩, .nil⟩
  | cons x xs =>
    obtain ⟨hkey, hkeys⟩ := List.forall_mem_cons.1 hkeys
    obtain ⟨hvalue, hvalues⟩ := List.forall_mem_cons.1 hvalues
    have htext : (", ".intercalate ((x :: xs).map (pairText colon keyText valueText)) ++
        "\x7d").toList ++ rest = (pairText colon keyText valueText x).toList ++
          ((separated (xs.map (pairText colon keyText valueText)) ++ "\x7d").toList ++ rest) := by
      simp [intercalate_cons]
    have hnext := boundary_separated (TokenKind.isSign_rbrace.boundary rest)
      (xs.map (pairText colon keyText valueText))
    obtain ⟨t, between, middle, pair, hkind, ⟨d, hd⟩, ⟨d', hd'⟩, hgood⟩ :=
      Rereads.pair hcolon hkey hvalue hnext offset
    obtain ⟨offset', pairs, ⟨ds, rfl⟩, hmore⟩ :=
      Rereads.morePairs hcolon hkeys hvalues middle rest hrest
    rw [htext]
    refine ⟨offset', (d.tree, d'.tree) :: ds.tree, ⟨.somePairs d hkind d' ds, rfl⟩, ?_⟩
    exact .cons ⟨hd ▸ hgood.1, hd' ▸ hgood.2⟩ hmore

lemma Rereads.hash {goodHash : Expr → Prop} (hcolon : TokenKind.colon.IsSign colon)
    (hkeys : ∀ x ∈ xs, Rereads .expression (keyText x) (goodKey x))
    (hvalues : ∀ x ∈ xs, Rereads .expression (valueText x) (goodValue x))
    (hhash : ∀ t pairs, List.Forall₂ (GoodPair goodKey goodValue) xs pairs →
      goodHash (.hash t pairs)) :
    Rereads .primary
      ("\x7b" ++ ", ".intercalate (xs.map (pairText colon keyText valueText)) ++ "\x7d") goodHash := by
  intro offset rest hrest
  have htext : ("\x7b" ++ ", ".intercalate (xs.map (pairText colon keyText valueText)) ++
      "\x7d").toList ++ rest = '\x7b' ::
        ((", ".intercalate (xs.map (pairText colon keyText valueText)) ++ "\x7d").toList ++
          rest) := by simp
  obtain ⟨offset', trees, ⟨d, rfl⟩, hgood⟩ :=
    Rereads.pairs hcolon hkeys hvalues (offset + '\x7b'.utf8Size) rest hrest
  rw [htext, scanFrom_sign rfl (by simp)]
  exact ⟨offset', .hash _ d.tree, ⟨.hash rfl d, rfl⟩, hhash _ _ hgood⟩

end

/-! ## Programs -/

/-- The text of an expression is the program that has the expression as its only statement. -/
theorem Rereads.parse {text : String} {good : Expr → Prop} (h : Rereads .expression text good) :
    ∃ t tree, Program.parse text = .ok ⟨[.exprStmt t tree]⟩ ∧ good tree := by
  obtain ⟨offset', tree, hd, hgood⟩ := h 0 [] boundary_nil
  rw [List.append_nil, scanFrom] at hd
  obtain ⟨t, ts, hts⟩ := hd.exists_cons
  rw [hts] at hd
  obtain ⟨d, rfl⟩ := hd
  have hprogram : ∃ d' : ProgramDerivation (TokenStream.ofText text).tokens,
      d'.tree = [.exprStmt t d.tree] := by
    have htokens : (TokenStream.ofText text).tokens = t :: ts := hts
    rw [htokens]
    exact ⟨.openStatement (.exprStatement d) id .noStatement, rfl⟩
  exact ⟨t, d.tree, parse_eq_ok_iff.2 ((reads_statements_iff (proper_ofText text)).2 hprogram),
    hgood⟩

end Grammar

end MonkeyLang
