import Mathlib.Tactic.Lemma
import MonkeyLang.Syntax.Operator
import MonkeyLang.Token.Scan

/-!
# Where a token ends

How a text is scanned that begins with a word, a numeral or a sign.  A word or a numeral ends where
a character follows that could not continue it; a sign ends at once, except that `=` and `!` take a
following `=` with them.

Conversely, the literal of every token of a text is spelled as its kind demands.
-/

namespace MonkeyLang

/-! ## Classes of characters -/

section

variable {c : Char}

lemma isWordChar_eq_false_of_isDigit (h : c.isDigit = true) : isWordChar c = false := by
  rw [Bool.eq_false_iff]
  intro hword
  simp only [isWordChar, Bool.or_eq_true, decide_eq_true_eq] at hword
  rcases hword with halpha | rfl
  · have hlast : c.val ≤ '9'.val := of_decide_eq_true (Bool.and_eq_true_iff.1 h).2
    rcases Bool.or_eq_true_iff.1 halpha with hupper | hlower
    · have hletter : 'A'.val ≤ c.val ∧ c.val ≤ 'Z'.val := of_decide_eq_true hupper
      exact absurd (UInt32.le_trans hletter.1 hlast) (by decide)
    · have hfirst : 'a'.val ≤ c.val := of_decide_eq_true (Bool.and_eq_true_iff.1 hlower).1
      exact absurd (UInt32.le_trans hfirst hlast) (by decide)
  · exact absurd h (by decide)

lemma isBlank_iff : isBlank c = true ↔ c = ' ' ∨ c = '\t' ∨ c = '\n' ∨ c = '\r' := by
  simp [isBlank, or_assoc]

lemma isBlank_eq_false_of_isWordChar (h : isWordChar c = true) : isBlank c = false := by
  rw [Bool.eq_false_iff]
  intro hblank
  rcases isBlank_iff.1 hblank with rfl | rfl | rfl | rfl <;> exact absurd h (by decide)

lemma isBlank_eq_false_of_isDigit (h : c.isDigit = true) : isBlank c = false := by
  rw [Bool.eq_false_iff]
  intro hblank
  rcases isBlank_iff.1 hblank with rfl | rfl | rfl | rfl <;> exact absurd h (by decide)

/-- The signs are neither blank nor begin a token of another form. -/
lemma TokenKind.classes_of_ofPunctuation {kind : TokenKind} (h : ofPunctuation? c = some kind) :
    isBlank c = false ∧ isWordChar c = false ∧ c.isDigit = false ∧ c ≠ '"' := by
  revert h
  unfold ofPunctuation?
  split <;> first | exact fun _ => by decide | exact fun h => nomatch h

end

/-! ## Runs of characters -/

/-- A text of one class of characters that is not empty. -/
structure ConsistsOf (p : Char → Bool) (text : String) : Prop where
  ne_nil : text.toList ≠ []
  all : ∀ c ∈ text.toList, p c = true

/-- The text does not begin with a character that continues a word or a numeral. -/
def Boundary (rest : List Char) : Prop :=
  ∀ c ∈ rest.head?, isWordChar c = false ∧ c.isDigit = false

lemma boundary_nil : Boundary [] := by
  simp [Boundary]

@[simp] lemma boundary_cons {c : Char} {cs : List Char} :
    Boundary (c :: cs) ↔ isWordChar c = false ∧ c.isDigit = false := by
  simp [Boundary]

/-- A run of characters of a class is cut off where a character of another class follows. -/
lemma ConsistsOf.cut {p : Char → Bool} {text : String} {c : Char} {cs rest : List Char}
    (h : ConsistsOf p text) (htext : text.toList = c :: cs)
    (hrest : ∀ d ∈ rest.head?, p d = false) :
    p c = true ∧ (cs ++ rest).takeWhile p = cs ∧ (cs ++ rest).dropWhile p = rest := by
  have hall := h.all
  rw [htext] at hall
  have hcs : ∀ d ∈ cs, p d = true := fun d hd => hall d (List.mem_cons_of_mem c hd)
  have hstop : rest.takeWhile p = [] ∧ rest.dropWhile p = rest := by
    cases rest with
    | nil => exact ⟨rfl, rfl⟩
    | cons d ds => simp [hrest d rfl]
  refine ⟨hall c List.mem_cons_self, ?_, ?_⟩
  · rw [List.takeWhile_append_of_pos hcs, hstop.1, List.append_nil]
  · rw [List.dropWhile_append_of_pos hcs, hstop.2]

/-! ## Numerals -/

lemma Text.isDigit_of_mem_digits (n : Nat) : ∀ c ∈ digits n, c.isDigit = true := by
  have hdigit : ∀ d < 10, (digitChar d).isDigit = true := by decide
  induction n using digits.induct with
  | case1 n h =>
    rw [digits, if_pos h]
    exact List.forall_mem_singleton.2 (hdigit n h)
  | case2 n h ih =>
    rw [digits, if_neg h, List.forall_mem_append]
    exact ⟨ih, List.forall_mem_singleton.2 (hdigit _ (Nat.mod_lt n (by omega)))⟩

/-- A numeral consists of digits. -/
lemma Text.consistsOf_decimal (n : Nat) : ConsistsOf Char.isDigit (decimal n) where
  ne_nil := by
    rw [decimal, String.toList_ofList, digits]
    split <;> simp
  all := by
    rw [decimal, String.toList_ofList]
    exact isDigit_of_mem_digits n

/-! ## One lexeme -/

namespace Lexeme

variable {c : Char} {cs : List Char}

lemma first_of_isWordChar (h : isWordChar c = true) : first c cs = word c cs := by
  unfold first
  rw [if_pos h]

lemma first_of_isDigit (h : c.isDigit = true) : first c cs = digits c cs := by
  have hword : ¬ isWordChar c = true := by
    rw [isWordChar_eq_false_of_isDigit h]
    exact Bool.false_ne_true
  unfold first
  rw [if_neg hword, if_pos h]

/-- A sign that cannot be the first half of a longer one is a lexeme by itself. -/
lemma first_of_ofPunctuation {kind : TokenKind} (h : TokenKind.ofPunctuation? c = some kind)
    (halone : cs.head? = some '=' → c ≠ '=' ∧ c ≠ '!') : first c cs = verbatim kind [c] cs := by
  obtain ⟨-, hword, hdigit, hquote⟩ := TokenKind.classes_of_ofPunctuation h
  unfold first
  rw [if_neg (by simp [hword]), if_neg (by simp [hdigit]), if_neg hquote]
  split
  · exact absurd rfl (halone rfl).1
  · exact absurd rfl (halone rfl).2
  · rw [h, Option.getD_some]

end Lexeme

/-- A word is the first lexeme in front of a text that does not continue it. -/
lemma ConsistsOf.first_word {word : String} {rest : List Char} (h : ConsistsOf isWordChar word)
    (hrest : ∀ d ∈ rest.head?, isWordChar d = false) :
    ∃ c cs, word.toList ++ rest = c :: cs ∧ isBlank c = false ∧
      Lexeme.first c cs = .verbatim (.ofWord word) word.toList rest := by
  obtain ⟨c, cs, hcs⟩ := List.exists_cons_of_ne_nil h.ne_nil
  obtain ⟨hc, htake, hdrop⟩ := h.cut hcs hrest
  have hof : String.ofList (c :: cs) = word := by rw [← hcs, String.ofList_toList]
  refine ⟨c, cs ++ rest, by rw [hcs, List.cons_append], isBlank_eq_false_of_isWordChar hc, ?_⟩
  rw [Lexeme.first_of_isWordChar hc, Lexeme.word, htake, hdrop, hof, hcs]

/-- A numeral is the first lexeme in front of a text that does not continue it. -/
lemma ConsistsOf.first_numeral {numeral : String} {rest : List Char}
    (h : ConsistsOf Char.isDigit numeral) (hrest : ∀ d ∈ rest.head?, d.isDigit = false) :
    ∃ c cs, numeral.toList ++ rest = c :: cs ∧ isBlank c = false ∧
      Lexeme.first c cs = .verbatim .int numeral.toList rest := by
  obtain ⟨c, cs, hcs⟩ := List.exists_cons_of_ne_nil h.ne_nil
  obtain ⟨hc, htake, hdrop⟩ := h.cut hcs hrest
  refine ⟨c, cs ++ rest, by rw [hcs, List.cons_append], isBlank_eq_false_of_isDigit hc, ?_⟩
  rw [Lexeme.first_of_isDigit hc, Lexeme.digits, htake, hdrop, hcs]

/-! ## One token -/

namespace Token

variable {offset : Nat} {c : Char} {cs rest : List Char} {kind : TokenKind}

lemma scanFrom_of_isBlank (h : isBlank c = true) :
    scanFrom offset (c :: cs) = scanFrom (offset + c.utf8Size) cs := by
  rw [scanFrom, if_pos h]

/-- The token at an offset whose literal is the text that it covers. -/
def spelling (kind : TokenKind) (literal : String) (offset : Nat) : Token :=
  ⟨kind, literal, ⟨offset, offset + Text.byteLength literal.toList⟩⟩

@[simp] lemma literal_spelling (kind : TokenKind) (literal : String) (offset : Nat) :
    (spelling kind literal offset).literal = literal := rfl

lemma scanFrom_of_verbatim {literal : String} (hblank : isBlank c = false)
    (h : Lexeme.first c cs = .verbatim kind literal.toList rest) :
    scanFrom offset (c :: cs) =
      spelling kind literal offset :: scanFrom (offset + Text.byteLength literal.toList) rest := by
  rw [scanFrom, if_neg (by simp [hblank]), h]
  simp [Lexeme.toToken, Lexeme.verbatim, spelling]

/-- A word is one token in front of a text that does not continue it. -/
lemma scanFrom_word {word : String} (hword : ConsistsOf isWordChar word) (hrest : Boundary rest) :
    scanFrom offset (word.toList ++ rest) =
      spelling (.ofWord word) word offset ::
        scanFrom (offset + Text.byteLength word.toList) rest := by
  obtain ⟨c, cs, hcs, hblank, hfirst⟩ := hword.first_word fun d hd => (hrest d hd).1
  rw [hcs, scanFrom_of_verbatim hblank hfirst]

/-- A numeral is one token in front of a text that does not continue it. -/
lemma scanFrom_numeral {numeral : String} (hnumeral : ConsistsOf Char.isDigit numeral)
    (hrest : Boundary rest) :
    scanFrom offset (numeral.toList ++ rest) =
      spelling .int numeral offset ::
        scanFrom (offset + Text.byteLength numeral.toList) rest := by
  obtain ⟨c, cs, hcs, hblank, hfirst⟩ := hnumeral.first_numeral fun d hd => (hrest d hd).2
  rw [hcs, scanFrom_of_verbatim hblank hfirst]

/-- A sign is one token in front of a text that does not make a longer sign of it. -/
lemma scanFrom_sign (h : TokenKind.ofPunctuation? c = some kind)
    (halone : cs.head? = some '=' → c ≠ '=' ∧ c ≠ '!') :
    scanFrom offset (c :: cs) =
      spelling kind (.singleton c) offset :: scanFrom (offset + c.utf8Size) cs := by
  have hfirst : Lexeme.first c cs = .verbatim kind (String.singleton c).toList cs := by
    rw [Lexeme.first_of_ofPunctuation h halone, String.toList_singleton]
  rw [scanFrom_of_verbatim (TokenKind.classes_of_ofPunctuation h).1 hfirst]
  simp

/-- The symbol of a binary operator, with a blank behind it, is one token. -/
lemma scanFrom_binarySymbol (op : BinaryOp) (offset : Nat) (cs : List Char) :
    ∃ t offset', BinaryOp.ofKind? t.kind = some op ∧
      scanFrom offset (op.symbol.toList ++ ' ' :: cs) = t :: scanFrom offset' cs := by
  have hsign : ∀ {c kind}, TokenKind.ofPunctuation? c = some kind →
      BinaryOp.ofKind? kind = some op → op.symbol.toList = [c] →
      ∃ t offset', BinaryOp.ofKind? t.kind = some op ∧
        scanFrom offset (op.symbol.toList ++ ' ' :: cs) = t :: scanFrom offset' cs := by
    intro c kind hc hkind hsymbol
    rw [hsymbol, List.singleton_append, scanFrom_sign hc (by simp), scanFrom_of_isBlank rfl]
    exact ⟨_, _, hkind, rfl⟩
  have hdouble : ∀ {c kind}, isBlank c = false → BinaryOp.ofKind? kind = some op →
      op.symbol.toList = [c, '='] →
      Lexeme.first c ('=' :: ' ' :: cs) = .verbatim kind op.symbol.toList (' ' :: cs) →
      ∃ t offset', BinaryOp.ofKind? t.kind = some op ∧
        scanFrom offset (op.symbol.toList ++ ' ' :: cs) = t :: scanFrom offset' cs := by
    intro c kind hblank hkind hsymbol hfirst
    rw [hsymbol, List.cons_append, List.singleton_append, scanFrom_of_verbatim hblank hfirst,
      scanFrom_of_isBlank rfl]
    exact ⟨_, _, hkind, rfl⟩
  cases op with
  | plus => exact hsign (c := '+') rfl rfl rfl
  | minus => exact hsign (c := '-') rfl rfl rfl
  | times => exact hsign (c := '*') rfl rfl rfl
  | divide => exact hsign (c := '/') rfl rfl rfl
  | lt => exact hsign (c := '<') rfl rfl rfl
  | gt => exact hsign (c := '>') rfl rfl rfl
  | eq => exact hdouble (c := '=') rfl rfl rfl rfl
  | notEq => exact hdouble (c := '!') rfl rfl rfl rfl

/-- The symbol of an operator before its operand is one token. -/
lemma scanFrom_unarySymbol (op : UnaryOp) (offset : Nat) (h : cs.head? ≠ some '=') :
    ∃ t offset', UnaryOp.ofKind? t.kind = some op ∧
      scanFrom offset (op.symbol.toList ++ cs) = t :: scanFrom offset' cs := by
  have halone : ∀ c : Char, cs.head? = some '=' → c ≠ '=' ∧ c ≠ '!' := fun _ heq => absurd heq h
  cases op with
  | bang => exact ⟨_, _, rfl, scanFrom_sign rfl (halone '!')⟩
  | minus => exact ⟨_, _, rfl, scanFrom_sign rfl (halone '-')⟩

/-- What holds of the token of every lexeme holds of every token of a text. -/
lemma forall_mem_scanFrom {P : Token → Prop}
    (h : ∀ c cs offset, P ((Lexeme.first c cs).toToken offset)) (offset : Nat) (cs : List Char) :
    ∀ t ∈ scanFrom offset cs, P t := by
  induction offset, cs using scanFrom.induct with
  | case1 => simp [scanFrom]
  | case2 offset c cs hblank ih =>
    rw [scanFrom_of_isBlank hblank]
    exact ih
  | case3 offset c cs hblank l ih =>
    rw [scanFrom, if_neg hblank]
    exact List.forall_mem_cons.2 ⟨h c cs offset, ih⟩

end Token

/-! ## Spellings -/

/-- Whether the tokens of a kind are words. -/
def TokenKind.isWord : TokenKind → Bool
  | ident | function | letWord | trueWord | falseWord | ifWord | elseWord | returnWord => true
  | _ => false

/-- The literal is spelled as the kind of the token demands. -/
structure Token.WellSpelled (t : Token) : Prop where
  word : t.kind.isWord = true → ConsistsOf isWordChar t.literal ∧ .ofWord t.literal = t.kind
  numeral : t.kind = .int → ConsistsOf Char.isDigit t.literal

lemma TokenKind.isWord_ofWord (word : String) : (ofWord word).isWord = true := by
  unfold ofWord
  split <;> rfl

/-- A sign is neither a word nor a numeral. -/
lemma TokenKind.ofPunctuation_isWord (c : Char) :
    ((ofPunctuation? c).getD .illegal).isWord = false ∧
      (ofPunctuation? c).getD .illegal ≠ .int := by
  unfold ofPunctuation?
  split <;> decide

/-- A first character and those of a class that follow it make up a run. -/
lemma consistsOf_takeWhile {p : Char → Bool} {c : Char} (hc : p c = true) (cs : List Char) :
    ConsistsOf p (.ofList (c :: cs.takeWhile p)) := by
  refine ⟨by simp, ?_⟩
  intro d hd
  rw [String.toList_ofList] at hd
  rcases List.mem_cons.1 hd with rfl | hd
  · exact hc
  · exact List.all_eq_true.1 List.all_takeWhile d hd

lemma Token.WellSpelled.ofOther {t : Token} (hword : t.kind.isWord = false)
    (hint : t.kind ≠ .int) : t.WellSpelled where
  word h := absurd h (by simp [hword])
  numeral h := absurd h hint

/-- The token of a lexeme is well spelled wherever it stands. -/
lemma Lexeme.wellSpelled_first (c : Char) (cs : List Char) (offset : Nat) :
    ((first c cs).toToken offset).WellSpelled := by
  unfold first
  split
  · next hc =>
    refine ⟨fun _ => ⟨consistsOf_takeWhile hc cs, rfl⟩, fun h => ?_⟩
    have hword := TokenKind.isWord_ofWord (.ofList (c :: cs.takeWhile isWordChar))
    have hint : TokenKind.ofWord (.ofList (c :: cs.takeWhile isWordChar)) = .int := h
    rw [hint] at hword
    exact absurd hword (by decide)
  · split
    · next hc =>
      have hword : ¬ TokenKind.int.isWord = true := by decide
      exact ⟨fun h => absurd h hword, fun _ => consistsOf_takeWhile hc cs⟩
    · split
      · unfold quoted
        split <;> exact .ofOther rfl (by decide : TokenKind.string ≠ .int)
      · have hsign := TokenKind.ofPunctuation_isWord c
        split
        · exact .ofOther rfl (by decide : TokenKind.eq ≠ .int)
        · exact .ofOther rfl (by decide : TokenKind.notEq ≠ .int)
        · exact .ofOther hsign.1 hsign.2

/-- Every token of a text is well spelled. -/
theorem Token.wellSpelled_of_mem_scanFrom (offset : Nat) (cs : List Char) :
    ∀ t ∈ scanFrom offset cs, t.WellSpelled :=
  forall_mem_scanFrom Lexeme.wellSpelled_first offset cs

end MonkeyLang
