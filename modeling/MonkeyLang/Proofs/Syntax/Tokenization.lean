import Mathlib.Data.List.TakeWhile
import Mathlib.Logic.Function.Iterate
import MonkeyLang.Proofs.Syntax.Lexing
import MonkeyLang.Syntax.Parsing

/-!
# What the tokens of a text are

The token list of a text, said without a scanner.  `TokenRule` says which kinds and literals the
slices of a text have, and where a slice has to end; `Tokenization` says how the slices of a token
list lie in the text.  Every text has exactly one tokenization, and scanning finds it.

Where a token ends depends on its kind and on one character behind it (`TokenKind.ContinuedBy`).
A tokenization is settled from left to right: a blank at the front belongs to no token
(`tokenization_blank`), and any other character begins the first token (`tokenization_token`).
-/

namespace MonkeyLang

/-! ## Rules of tokens -/

/-- The characters between tokens. -/
def blanks : List Char := [' ', '\t', '\n', '\r']

/-- The letters of words. -/
def IsLetter (c : Char) : Prop := ('A' ≤ c ∧ c ≤ 'Z') ∨ ('a' ≤ c ∧ c ≤ 'z') ∨ c = '_'

/-- The digits of numerals. -/
def IsDigit (c : Char) : Prop := '0' ≤ c ∧ c ≤ '9'

/-- The words that are no identifiers. -/
def keywords : List (String × TokenKind) :=
  [("fn", .function), ("let", .letWord), ("true", .trueWord), ("false", .falseWord),
    ("if", .ifWord), ("else", .elseWord), ("return", .returnWord)]

/-- The characters that are tokens by themselves. -/
def signs : List (Char × TokenKind) :=
  [('=', .assign), ('+', .plus), ('-', .minus), ('!', .bang), ('*', .asterisk), ('/', .slash),
    ('<', .lt), ('>', .gt), (',', .comma), (';', .semicolon), (':', .colon), ('(', .lparen),
    (')', .rparen), ('\x7b', .lbrace), ('\x7d', .rbrace), ('[', .lbracket), (']', .rbracket)]

/-- The kind and the literal of a slice of a text, in front of the text behind it.  Words and
numerals end where a character follows that is no part of them, a string at its second quote, or
with the text if it has no second quote. -/
inductive TokenRule : (slice after : List Char) → TokenKind → String → Prop where
  | keyword {word : String} {after : List Char} {kind : TokenKind}
      (entry : (word, kind) ∈ keywords) (maximal : ∀ d ∈ after.head?, ¬ IsLetter d) :
      TokenRule word.toList after kind word
  | name {word : String} {after : List Char} (nonempty : word ≠ "")
      (letters : ∀ c ∈ word.toList, IsLetter c) (free : ∀ kind, (word, kind) ∉ keywords)
      (maximal : ∀ d ∈ after.head?, ¬ IsLetter d) : TokenRule word.toList after .ident word
  | numeral {numeral : String} {after : List Char} (nonempty : numeral ≠ "")
      (digits : ∀ c ∈ numeral.toList, IsDigit c) (maximal : ∀ d ∈ after.head?, ¬ IsDigit d) :
      TokenRule numeral.toList after .int numeral
  | equal {after : List Char} : TokenRule ['=', '='] after .eq "=="
  | notEqual {after : List Char} : TokenRule ['!', '='] after .notEq "!="
  | sign {c : Char} {after : List Char} {kind : TokenKind} (entry : (c, kind) ∈ signs)
      (maximal : c = '=' ∨ c = '!' → after.head? ≠ some '=') :
      TokenRule [c] after kind (.singleton c)
  | quoted {body : String} {after : List Char} (plain : '"' ∉ body.toList) :
      TokenRule ('"' :: (body.toList ++ ['"'])) after .string body
  | unclosed {body : String} (plain : '"' ∉ body.toList) :
      TokenRule ('"' :: body.toList) [] .string body
  | illegal {c : Char} {after : List Char} (letter : ¬ IsLetter c) (digit : ¬ IsDigit c)
      (quote : c ≠ '"') (sign : ∀ kind, (c, kind) ∉ signs) (blank : c ∉ blanks) :
      TokenRule [c] after .illegal (.singleton c)

/-! ## Token lists of a text -/

/-- The token covers a slice between characters of a text that starts at a byte offset, and has the
kind and the literal of the slice. -/
def Token.Covers (t : Token) (offset : Nat) (text : List Char) : Prop :=
  ∃ before slice after, text = before ++ (slice ++ after) ∧
    t.span = ⟨offset + Text.byteLength before, offset + Text.byteLength (before ++ slice)⟩ ∧
    TokenRule slice after t.kind t.literal

/-- The tokens lie one behind the other in a text that starts at a byte offset, each covers a slice
of it, and every byte that no token covers is of a blank. -/
structure Tokenization (offset : Nat) (text : List Char) (tokens : List Token) : Prop where
  nonempty : ∀ t ∈ tokens, t.span.start < t.span.stop
  ordered : tokens.Pairwise fun t u => t.span.stop ≤ u.span.start
  covers : ∀ t ∈ tokens, t.Covers offset text
  blank : ∀ before c after, text = before ++ c :: after →
    ∀ byte, offset + Text.byteLength before ≤ byte →
      byte < offset + Text.byteLength (before ++ [c]) →
      (∀ t ∈ tokens, ¬ (t.span.start ≤ byte ∧ byte < t.span.stop)) → c ∈ blanks

/-! ## Prefixes of a text -/

namespace Text

lemma byteLength_pos {cs : List Char} (h : cs ≠ []) : 0 < byteLength cs := by
  obtain ⟨c, cs, rfl⟩ := List.exists_cons_of_ne_nil h
  have hpos := c.utf8Size_pos
  rw [byteLength_cons]
  omega

lemma eq_nil_of_byteLength {cs : List Char} (h : byteLength cs = 0) : cs = [] := by
  by_contra hne
  have hpos := byteLength_pos hne
  omega

/-- Of two prefixes of a text, the one with fewer bytes is a prefix of the other. -/
lemma exists_append_of_byteLength_le {as bs cs ds : List Char} (h : as ++ cs = bs ++ ds)
    (hle : byteLength as ≤ byteLength bs) : ∃ ms, bs = as ++ ms ∧ cs = ms ++ ds := by
  rcases List.append_eq_append_iff.1 h with hlonger | ⟨ms, rfl, rfl⟩
  · exact hlonger
  · rw [byteLength_append] at hle
    obtain rfl : ms = [] := eq_nil_of_byteLength (by omega)
    exact ⟨[], by simp⟩

end Text

/-! ## Rules and lexemes -/

lemma isWordChar_iff {c : Char} : isWordChar c = true ↔ IsLetter c := by
  have hupper : c.isUpper = true ↔ 'A' ≤ c ∧ c ≤ 'Z' := decide_eq_true_iff
  have hlower : c.isLower = true ↔ 'a' ≤ c ∧ c ≤ 'z' := by
    change (decide ('a'.val ≤ c.val) && decide (c.val ≤ 'z'.val)) = true ↔ _
    rw [Bool.and_eq_true, decide_eq_true_iff, decide_eq_true_iff]
    rfl
  have halpha : c.isAlpha = true ↔ c.isUpper = true ∨ c.isLower = true := Bool.or_eq_true_iff
  rw [isWordChar, Bool.or_eq_true_iff, halpha, hupper, hlower, decide_eq_true_iff, or_assoc,
    IsLetter]

lemma isDigit_iff {c : Char} : c.isDigit = true ↔ IsDigit c := by
  simp [Char.isDigit, IsDigit, Char.le_def]

lemma isBlank_iff_mem {c : Char} : isBlank c = true ↔ c ∈ blanks := by
  simp [isBlank, blanks, or_assoc]

lemma mem_signs_iff {c : Char} {kind : TokenKind} :
    (c, kind) ∈ signs ↔ TokenKind.ofPunctuation? c = some kind := by
  have hall : ∀ entry ∈ signs, TokenKind.ofPunctuation? entry.1 = some entry.2 := by decide
  constructor
  · exact hall (c, kind)
  · unfold TokenKind.ofPunctuation?
    split <;> first | (rintro ⟨⟩; decide) | exact fun h => nomatch h

lemma ofWord_of_mem {word : String} {kind : TokenKind} (h : (word, kind) ∈ keywords) :
    .ofWord word = kind ∧ ConsistsOf isWordChar word := by
  simp only [keywords, List.mem_cons, Prod.mk.injEq, List.not_mem_nil, or_false] at h
  rcases h with ⟨rfl, rfl⟩ | ⟨rfl, rfl⟩ | ⟨rfl, rfl⟩ | ⟨rfl, rfl⟩ | ⟨rfl, rfl⟩ | ⟨rfl, rfl⟩ |
    ⟨rfl, rfl⟩
  all_goals exact ⟨rfl, by simp, by simp [isWordChar]⟩

lemma ofWord_of_not_mem {word : String} (h : ∀ kind, (word, kind) ∉ keywords) :
    .ofWord word = TokenKind.ident := by
  have hmem : (word, .ofWord word) ∈ keywords ∨ .ofWord word = TokenKind.ident := by
    unfold TokenKind.ofWord
    split <;> first | exact .inr rfl | exact .inl (by decide)
  exact hmem.resolve_left (h _)

lemma Lexeme.first_quote (cs : List Char) : first '"' cs = quoted cs := rfl

/-- A character of no class is a lexeme by itself. -/
lemma Lexeme.first_of_none {c : Char} {cs : List Char} (hword : ¬ isWordChar c = true)
    (hdigit : ¬ c.isDigit = true) (hquote : c ≠ '"') (hsign : TokenKind.ofPunctuation? c = none) :
    first c cs = verbatim .illegal [c] cs := by
  unfold first
  rw [if_neg hword, if_neg hdigit, if_neg hquote]
  split
  · cases hsign
  · cases hsign
  · rw [hsign, Option.getD_none]

/-- Behind a run of characters of a class stands none of the class. -/
lemma head_dropWhile {p : Char → Bool} (cs : List Char) :
    ∀ d ∈ (cs.dropWhile p).head?, p d = false := by
  intro d hd
  have hnot := List.head?_dropWhile_not p cs
  rw [Option.mem_def.1 hd] at hnot
  simpa using hnot

namespace TokenRule

variable {c : Char} {slice after cs : List Char} {kind : TokenKind} {literal word : String}

/-- A word is a keyword or an identifier. -/
lemma ofWord (hword : ConsistsOf isWordChar word) (maximal : ∀ d ∈ after.head?, ¬ IsLetter d) :
    TokenRule word.toList after (.ofWord word) word := by
  by_cases h : ∃ kind, (word, kind) ∈ keywords
  · obtain ⟨kind, entry⟩ := h
    rw [(ofWord_of_mem entry).1]
    exact .keyword entry maximal
  · have free : ∀ kind, (word, kind) ∉ keywords := fun kind entry => h ⟨kind, entry⟩
    rw [ofWord_of_not_mem free]
    refine .name ?_ (fun c hc => isWordChar_iff.1 (hword.all c hc)) free maximal
    rintro rfl
    exact hword.ne_nil rfl

lemma ofQuoted (cs : List Char) : TokenRule (Lexeme.quoted cs).slice (Lexeme.quoted cs).rest
    (Lexeme.quoted cs).kind (.ofList (Lexeme.quoted cs).literal) := by
  have hplain : '"' ∉ (String.ofList (cs.takeWhile (· ≠ '"'))).toList := by
    rw [String.toList_ofList]
    intro hmem
    simpa using List.all_eq_true.1 List.all_takeWhile _ hmem
  have hclosed : TokenRule _ (Lexeme.quoted cs).rest _ _ := TokenRule.quoted hplain
  have hopen := TokenRule.unclosed hplain
  rw [String.toList_ofList] at hclosed hopen
  unfold Lexeme.quoted at hclosed ⊢
  split at hclosed
  · exact hopen
  · next close rest hrest =>
    have hclose := head_dropWhile (p := (· ≠ '"')) cs close (by rw [hrest]; rfl)
    obtain rfl : close = '"' := by simpa using hclose
    exact hclosed

/-- The first lexeme of a text is a token by the rules. -/
lemma first (hblank : isBlank c = false) :
    TokenRule (Lexeme.first c cs).slice (Lexeme.first c cs).rest (Lexeme.first c cs).kind
      (.ofList (Lexeme.first c cs).literal) := by
  unfold Lexeme.first
  split
  · next hc =>
    have hrule : TokenRule _ (cs.dropWhile isWordChar) _ _ := ofWord (consistsOf_takeWhile hc cs)
      fun d hd => isWordChar_iff.not.1 (by simp [head_dropWhile cs d hd])
    rwa [String.toList_ofList] at hrule
  · next hletter =>
    split
    · next hc =>
      have hrun := consistsOf_takeWhile hc cs
      have hrule : TokenRule _ (cs.dropWhile Char.isDigit) _ _ := numeral
        (by rintro heq; exact hrun.ne_nil (by rw [heq]; rfl))
        (fun d hd => isDigit_iff.1 (hrun.all d hd))
        fun d hd => isDigit_iff.not.1 (by simp [head_dropWhile cs d hd])
      rwa [String.toList_ofList] at hrule
    · next hdigit =>
      split
      · exact ofQuoted cs
      · next hquote =>
        split
        · exact .equal
        · exact .notEqual
        · next hequal hnotEqual =>
          cases hkind : TokenKind.ofPunctuation? c with
          | some kind =>
            refine sign (mem_signs_iff.2 hkind) fun hc hhead => ?_
            obtain ⟨rest, rfl⟩ := List.head?_eq_some_iff.1 hhead
            exact hc.elim (fun hc => hequal rest hc rfl) fun hc => hnotEqual rest hc rfl
          | none =>
            refine illegal (isWordChar_iff.not.1 hletter) (isDigit_iff.not.1 hdigit) hquote ?_ ?_
            · intro kind entry
              rw [mem_signs_iff.1 entry] at hkind
              cases hkind
            · exact isBlank_iff_mem.not.1 (by simp [hblank])

/-- The rules leave no choice: a token at the front of a text is its first lexeme. -/
lemma first_eq (h : TokenRule slice after kind literal) :
    ∃ c cs, slice ++ after = c :: cs ∧ isBlank c = false ∧
      Lexeme.first c cs = ⟨kind, literal.toList, slice, after⟩ := by
  cases h with
  | keyword entry maximal =>
    obtain ⟨hkind, hletters⟩ := ofWord_of_mem entry
    rw [← hkind]
    exact hletters.first_word fun d hd => Bool.eq_false_iff.2 (isWordChar_iff.not.2 (maximal d hd))
  | name nonempty letters free maximal =>
    have hletters : ConsistsOf isWordChar literal :=
      ⟨fun hnil => nonempty (String.toList_eq_nil_iff.1 hnil),
        fun c hc => isWordChar_iff.2 (letters c hc)⟩
    rw [← ofWord_of_not_mem free]
    exact hletters.first_word fun d hd => Bool.eq_false_iff.2 (isWordChar_iff.not.2 (maximal d hd))
  | numeral nonempty digits maximal =>
    have hrun : ConsistsOf Char.isDigit literal :=
      ⟨fun hnil => nonempty (String.toList_eq_nil_iff.1 hnil),
        fun c hc => isDigit_iff.2 (digits c hc)⟩
    exact hrun.first_numeral fun d hd => Bool.eq_false_iff.2 (isDigit_iff.not.2 (maximal d hd))
  | equal => exact ⟨'=', '=' :: after, rfl, rfl, rfl⟩
  | notEqual => exact ⟨'!', '=' :: after, rfl, rfl, rfl⟩
  | @sign c _ _ entry maximal =>
    have hkind := mem_signs_iff.1 entry
    refine ⟨c, after, rfl, (TokenKind.classes_of_ofPunctuation hkind).1, ?_⟩
    rw [Lexeme.first_of_ofPunctuation hkind, Lexeme.verbatim, String.toList_singleton]
    exact fun hhead => ⟨fun hc => maximal (.inl hc) hhead, fun hc => maximal (.inr hc) hhead⟩
  | quoted plain =>
    have hbody : ∀ d ∈ literal.toList, decide (d ≠ '"') = true := fun d hd =>
      decide_eq_true fun hquote => plain (hquote ▸ hd)
    refine ⟨'"', literal.toList ++ '"' :: after, by simp, rfl, ?_⟩
    rw [Lexeme.first_quote, Lexeme.quoted, List.takeWhile_append_of_pos hbody,
      List.dropWhile_append_of_pos hbody]
    simp
  | unclosed plain =>
    have hbody : ∀ d ∈ literal.toList, decide (d ≠ '"') = true := fun d hd =>
      decide_eq_true fun hquote => plain (hquote ▸ hd)
    refine ⟨'"', literal.toList, by simp, rfl, ?_⟩
    rw [Lexeme.first_quote, Lexeme.quoted, List.takeWhile_eq_self_iff.2 hbody,
      List.dropWhile_eq_nil_iff.2 hbody]
  | @illegal c _ letter digit quote sign blank =>
    have hkind : TokenKind.ofPunctuation? c = none :=
      Option.eq_none_iff_forall_ne_some.2 fun kind hkind => sign kind (mem_signs_iff.2 hkind)
    refine ⟨c, after, rfl, Bool.eq_false_iff.2 (isBlank_iff_mem.not.2 blank), ?_⟩
    rw [Lexeme.first_of_none (isWordChar_iff.not.2 letter) (isDigit_iff.not.2 digit) quote hkind,
      Lexeme.verbatim, String.toList_singleton]

end TokenRule

/-! ## Where a token ends -/

/-- A token of the kind goes on with the character if it stands behind it. -/
def TokenKind.ContinuedBy (kind : TokenKind) (d : Char) : Prop :=
  (kind.isWord = true ∧ IsLetter d) ∨ (kind = .int ∧ IsDigit d) ∨
    ((kind = .assign ∨ kind = .bang) ∧ d = '=')

namespace TokenKind

variable {kind : TokenKind} {c d : Char}

lemma not_continuedBy_blank : ¬ kind.ContinuedBy ' ' := by
  have hletter : ¬ IsLetter ' ' := isWordChar_iff.not.1 (by decide)
  have hdigit : ¬ IsDigit ' ' := isDigit_iff.not.1 (by decide)
  rintro (⟨-, h⟩ | ⟨-, h⟩ | ⟨-, h⟩)
  · exact hletter h
  · exact hdigit h
  · exact absurd h (by decide)

lemma continuedBy_of_isWord (hkind : kind.isWord = true) : kind.ContinuedBy d ↔ IsLetter d := by
  cases kind <;> simp_all [isWord, ContinuedBy]

lemma isWord_of_mem_keywords {word : String} (entry : (word, kind) ∈ keywords) :
    kind.isWord = true := by
  rw [← (ofWord_of_mem entry).1]
  exact isWord_ofWord word

lemma continuedBy_int : int.ContinuedBy d ↔ IsDigit d := by
  simp [ContinuedBy, isWord]

/-- Only `=` and `!` are signs that can be continued. -/
lemma continuedBy_sign (entry : (c, kind) ∈ signs) :
    kind.ContinuedBy d ↔ (c = '=' ∨ c = '!') ∧ d = '=' := by
  have hall : ∀ e ∈ signs, e.2.isWord = false ∧ e.2 ≠ .int ∧
      ((e.2 = .assign ∨ e.2 = .bang) ↔ (e.1 = '=' ∨ e.1 = '!')) := by decide
  obtain ⟨hword, hint, hlonger⟩ := hall _ entry
  simp [ContinuedBy, hword, hint, hlonger]

end TokenKind

namespace TokenRule

variable {slice after rest : List Char} {kind : TokenKind} {literal : String}

/-- Behind a token stands no character that it goes on with. -/
lemma maximal (h : TokenRule slice after kind literal) :
    ∀ d ∈ after.head?, ¬ kind.ContinuedBy d := by
  intro d hd
  cases h with
  | keyword entry maximal =>
    rw [TokenKind.continuedBy_of_isWord (TokenKind.isWord_of_mem_keywords entry)]
    exact maximal d hd
  | name nonempty letters free maximal =>
    rw [TokenKind.continuedBy_of_isWord rfl]
    exact maximal d hd
  | numeral nonempty digits maximal =>
    rw [TokenKind.continuedBy_int]
    exact maximal d hd
  | sign entry maximal =>
    rw [TokenKind.continuedBy_sign entry]
    rintro ⟨hc, rfl⟩
    exact maximal hc hd
  | equal | notEqual | quoted plain | unclosed plain | illegal letter digit quote sign blank =>
    simp [TokenKind.ContinuedBy, TokenKind.isWord]

/-- A token is a string without quotes in it, or it covers its literal. -/
lemma string_or_slice_eq (h : TokenRule slice after kind literal) :
    (kind = .string ∧ '"' ∉ literal.toList) ∨ (kind ≠ .string ∧ slice = literal.toList) := by
  cases h with
  | keyword entry maximal =>
    refine .inr ⟨?_, rfl⟩
    rintro rfl
    exact absurd (TokenKind.isWord_of_mem_keywords entry) (by decide)
  | name nonempty letters free maximal => exact .inr ⟨by decide, rfl⟩
  | numeral nonempty digits maximal => exact .inr ⟨by decide, rfl⟩
  | equal | notEqual => exact .inr ⟨by decide, rfl⟩
  | @sign c _ _ entry maximal =>
    refine .inr ⟨?_, (String.toList_singleton c).symm⟩
    rintro rfl
    simp [signs] at entry
  | quoted plain | unclosed plain => exact .inl ⟨rfl, plain⟩
  | @illegal c _ letter digit quote sign blank =>
    exact .inr ⟨by decide, (String.toList_singleton c).symm⟩

/-- What stands behind a token that is no string does not matter, as long as it does not continue
the token. -/
lemma replace (h : TokenRule slice after kind literal) (hkind : kind ≠ .string)
    (hrest : ∀ d ∈ rest.head?, ¬ kind.ContinuedBy d) : TokenRule slice rest kind literal := by
  cases h with
  | keyword entry maximal =>
    refine .keyword entry fun d hd => ?_
    rw [← TokenKind.continuedBy_of_isWord (TokenKind.isWord_of_mem_keywords entry)]
    exact hrest d hd
  | name nonempty letters free maximal =>
    refine .name nonempty letters free fun d hd => ?_
    exact fun hd' => hrest d hd ((TokenKind.continuedBy_of_isWord rfl).2 hd')
  | numeral nonempty digits maximal =>
    refine .numeral nonempty digits fun d hd => ?_
    rw [← TokenKind.continuedBy_int]
    exact hrest d hd
  | equal => exact .equal
  | notEqual => exact .notEqual
  | sign entry maximal =>
    refine .sign entry fun hc hhead => ?_
    exact hrest '=' hhead ((TokenKind.continuedBy_sign entry).2 ⟨hc, rfl⟩)
  | quoted plain | unclosed plain => exact absurd rfl hkind
  | illegal letter digit quote sign blank => exact .illegal letter digit quote sign blank

end TokenRule

/-! ## One step to the right -/

section

variable {offset : Nat} {c : Char} {cs front rest : List Char} {t : Token} {tokens : List Token}

namespace Token.Covers

lemma start_le (h : t.Covers offset cs) : offset ≤ t.span.start := by
  obtain ⟨before, slice, after, -, hspan, -⟩ := h
  rw [hspan]
  exact Nat.le_add_right _ _

/-- A token that covers a slice of a text does so when more text stands in front. -/
lemma append (h : t.Covers (offset + Text.byteLength front) rest) :
    t.Covers offset (front ++ rest) := by
  obtain ⟨before, slice, after, rfl, hspan, hrule⟩ := h
  refine ⟨front ++ before, slice, after, by rw [List.append_assoc], ?_, hrule⟩
  rw [hspan]
  simp only [Text.byteLength_append, Nat.add_assoc]

/-- A token that starts behind the front of a text covers a slice of what stands behind it. -/
lemma behind (h : t.Covers offset (front ++ rest))
    (hstart : offset + Text.byteLength front ≤ t.span.start) :
    t.Covers (offset + Text.byteLength front) rest := by
  obtain ⟨before, slice, after, htext, hspan, hrule⟩ := h
  rw [hspan] at hstart
  obtain ⟨ms, rfl, rfl⟩ :=
    Text.exists_append_of_byteLength_le htext (Nat.le_of_add_le_add_left hstart)
  refine ⟨ms, slice, after, rfl, ?_, hrule⟩
  rw [hspan]
  simp only [Text.byteLength_append, Nat.add_assoc]

/-- A token that covers a slice of a text begins with the text or behind its first character.  In
the first case the text does not begin with a blank, and the token is its first lexeme. -/
lemma first_or_behind (h : t.Covers offset (c :: cs)) :
    (isBlank c = false ∧ t = (Lexeme.first c cs).toToken offset) ∨
      offset + c.utf8Size ≤ t.span.start := by
  obtain ⟨before, slice, after, htext, hspan, hrule⟩ := h
  cases before with
  | nil =>
    obtain ⟨c', cs', hcs, hblank, hfirst⟩ := hrule.first_eq
    obtain ⟨rfl, rfl⟩ := List.cons_eq_cons.1 (htext.trans hcs)
    refine .inl ⟨hblank, ?_⟩
    rw [hfirst]
    obtain ⟨kind, literal, span⟩ := t
    simpa [Lexeme.toToken] using hspan
  | cons d ds =>
    obtain ⟨rfl, -⟩ := List.cons_eq_cons.1 htext
    refine .inr ?_
    rw [hspan]
    exact Nat.add_le_add_left (Nat.le_add_right _ _) offset

end Token.Covers

lemma Token.covers_first (hblank : isBlank c = false) :
    ((Lexeme.first c cs).toToken offset).Covers offset (c :: cs) :=
  ⟨[], _, _, (Lexeme.slice_append_rest_first c cs).symm, rfl, TokenRule.first hblank⟩

lemma tokenization_nil : Tokenization offset [] tokens ↔ tokens = [] := by
  constructor
  · intro h
    refine List.eq_nil_iff_forall_not_mem.2 fun t ht => ?_
    obtain ⟨before, slice, after, htext, -, hrule⟩ := h.covers t ht
    obtain ⟨c, cs, hcs, -⟩ := hrule.first_eq
    rw [hcs] at htext
    simp at htext
  · rintro rfl
    refine ⟨by simp, .nil, by simp, fun before c after htext => ?_⟩
    simp at htext

/-- A blank at the front of a text belongs to no token. -/
theorem tokenization_blank (hblank : isBlank c = true) :
    Tokenization offset (c :: cs) tokens ↔ Tokenization (offset + c.utf8Size) cs tokens := by
  have hsize : c.utf8Size = Text.byteLength [c] := by simp
  rw [← List.singleton_append, hsize]
  constructor
  · intro h
    have hstart : ∀ t ∈ tokens, offset + Text.byteLength [c] ≤ t.span.start := by
      intro t ht
      rcases (h.covers t ht).first_or_behind with ⟨hnot, -⟩ | hle
      · rw [hblank] at hnot
        cases hnot
      · rwa [← hsize]
    refine ⟨h.nonempty, h.ordered, fun t ht => (h.covers t ht).behind (hstart t ht), ?_⟩
    rintro before d after rfl byte hle hlt
    refine h.blank ([c] ++ before) d after (by simp) byte ?_ ?_
    · rw [Text.byteLength_append]
      omega
    · rw [List.append_assoc, Text.byteLength_append]
      omega
  · intro h
    refine ⟨h.nonempty, h.ordered, fun t ht => (h.covers t ht).append, ?_⟩
    intro before d after htext byte hle hlt hfree
    cases before with
    | nil =>
      obtain ⟨rfl, -⟩ := List.cons_eq_cons.1 htext
      exact isBlank_iff_mem.1 hblank
    | cons c' before =>
      obtain ⟨rfl, rfl⟩ := List.cons_eq_cons.1 htext
      refine h.blank before d after rfl byte ?_ ?_ hfree
      · rw [Text.byteLength_cons] at hle
        omega
      · rw [List.cons_append, Text.byteLength_cons] at hlt
        omega

/-- Behind a token at the front of a text the other tokens are those of the rest. -/
lemma tokenization_cons (ht : t.Covers offset (front ++ rest))
    (hspan : t.span = ⟨offset, offset + Text.byteLength front⟩) (hfront : front ≠ []) :
    Tokenization offset (front ++ rest) (t :: tokens) ↔
      Tokenization (offset + Text.byteLength front) rest tokens := by
  have hstart : t.span.start = offset := by rw [hspan]
  have hstop : t.span.stop = offset + Text.byteLength front := by rw [hspan]
  have hpos := Text.byteLength_pos hfront
  constructor
  · intro h
    obtain ⟨hfirst, hordered⟩ := List.pairwise_cons.1 h.ordered
    refine ⟨fun u hu => h.nonempty u (List.mem_cons_of_mem t hu), hordered, ?_, ?_⟩
    · intro u hu
      exact (h.covers u (List.mem_cons_of_mem t hu)).behind (hstop ▸ hfirst u hu)
    · rintro before d after rfl byte hle hlt hfree
      refine h.blank (front ++ before) d after (by simp) byte ?_ ?_ ?_
      · rw [Text.byteLength_append]
        omega
      · rw [List.append_assoc, Text.byteLength_append]
        omega
      · refine List.forall_mem_cons.2 ⟨?_, hfree⟩
        omega
  · intro h
    refine ⟨?_, ?_, ?_, ?_⟩
    · exact List.forall_mem_cons.2 ⟨by omega, h.nonempty⟩
    · refine List.pairwise_cons.2 ⟨fun u hu => ?_, h.ordered⟩
      rw [hstop]
      exact (h.covers u hu).start_le
    · exact List.forall_mem_cons.2 ⟨ht, fun u hu => (h.covers u hu).append⟩
    · intro before d after htext byte hle hlt hfree
      obtain ⟨hnot, hothers⟩ := List.forall_mem_cons.1 hfree
      rw [Text.byteLength_append] at hlt
      -- The bytes of the front are those of the token.
      have hbehind : Text.byteLength front ≤ Text.byteLength before := by
        by_contra hbefore
        have hless : Text.byteLength before ≤ Text.byteLength front := by omega
        obtain ⟨ms, rfl, hms⟩ := Text.exists_append_of_byteLength_le htext.symm hless
        cases ms with
        | nil => simp at hbefore
        | cons d' ms =>
          obtain ⟨rfl, -⟩ := List.cons_eq_cons.1 hms
          simp only [Text.byteLength_append, Text.byteLength_cons, Text.byteLength_nil] at *
          omega
      obtain ⟨ms, rfl, rfl⟩ := Text.exists_append_of_byteLength_le htext hbehind
      rw [Text.byteLength_append] at hle hlt
      refine h.blank ms d after rfl byte (by omega) ?_ hothers
      rw [Text.byteLength_append]
      omega

/-- A character that is no blank begins the first token. -/
theorem tokenization_token (hblank : isBlank c = false) :
    Tokenization offset (c :: cs) tokens ↔
      ∃ others, tokens = (Lexeme.first c cs).toToken offset :: others ∧
        Tokenization (offset + Text.byteLength (Lexeme.first c cs).slice)
          (Lexeme.first c cs).rest others := by
  have hcons : ∀ others,
      Tokenization offset (c :: cs) ((Lexeme.first c cs).toToken offset :: others) ↔
        Tokenization (offset + Text.byteLength (Lexeme.first c cs).slice)
          (Lexeme.first c cs).rest others := by
    intro others
    have htext := Lexeme.slice_append_rest_first c cs
    have hcovers : ((Lexeme.first c cs).toToken offset).Covers offset
        ((Lexeme.first c cs).slice ++ (Lexeme.first c cs).rest) := by
      rw [htext]
      exact Token.covers_first hblank
    rw [← tokenization_cons hcovers rfl (Lexeme.slice_first_ne_nil c cs), htext]
  constructor
  · intro h
    -- The first byte of the character is no blank, so a token covers it.
    have hcovered : ∃ t ∈ tokens, t.span.start ≤ offset ∧ offset < t.span.stop := by
      by_contra hfree
      have hpos := c.utf8Size_pos
      have hmem := h.blank [] c cs rfl offset (Nat.le_refl _) (by simpa using hpos)
        fun t ht hin => hfree ⟨t, ht, hin⟩
      rw [isBlank_iff_mem.2 hmem] at hblank
      cases hblank
    obtain ⟨t, ht, hle, -⟩ := hcovered
    rcases (h.covers t ht).first_or_behind with ⟨-, rfl⟩ | hbehind
    · obtain ⟨earlier, others, rfl⟩ := List.append_of_mem ht
      have hearlier : earlier = [] := by
        refine List.eq_nil_iff_forall_not_mem.2 fun u hu => ?_
        have hstop := (List.pairwise_append.1 h.ordered).2.2 u hu _ List.mem_cons_self
        have hstart := (h.covers u (List.mem_append_left _ hu)).start_le
        have hne := h.nonempty u (List.mem_append_left _ hu)
        omega
      subst hearlier
      exact ⟨others, rfl, (hcons others).1 h⟩
    · have hpos := c.utf8Size_pos
      omega
  · rintro ⟨others, rfl, h⟩
    exact (hcons others).2 h

end

/-! ## All tokens -/

/-- The tokens that scanning finds are the only tokenization. -/
lemma tokenization_iff_eq_scanFrom (offset : Nat) (text : List Char) (tokens : List Token) :
    Tokenization offset text tokens ↔ tokens = Token.scanFrom offset text := by
  induction offset, text using Token.scanFrom.induct generalizing tokens with
  | case1 offset => rw [tokenization_nil, Token.scanFrom]
  | case2 offset c cs hblank ih =>
    rw [tokenization_blank hblank, ih, Token.scanFrom_of_isBlank hblank]
  | case3 offset c cs hblank l ih =>
    rw [tokenization_token (Bool.eq_false_iff.2 hblank), Token.scanFrom, if_neg hblank]
    constructor
    · rintro ⟨others, rfl, h⟩
      rw [(ih others).1 h]
    · rintro rfl
      exact ⟨_, rfl, (ih _).2 rfl⟩

/-- Reading tokens one after the other goes through the list, and then gives the end of the text
for ever. -/
lemma TokenStream.current_iterate_next (s : TokenStream) (n : Nat) :
    (TokenStream.next^[n] s).current = s.tokens[n]?.getD (.endOfText s.size) := by
  induction n generalizing s with
  | zero =>
    rw [Function.iterate_zero, id, current, List.headD_eq_head?_getD, List.head?_eq_getElem?]
  | succ n ih =>
    rw [Function.iterate_succ_apply, ih, next, List.getElem?_tail]

/-- A text has exactly one tokenization, and scanning finds it.  Asked for one token after the
other, a text gives the tokens in this order and then its end, for ever. -/
theorem Token.tokenization_iff_scan (source : String) :
    (∀ tokens, Tokenization 0 source.toList tokens ↔ tokens = scan source) ∧
      ∀ n, (TokenStream.next^[n] (.ofText source)).current =
        (scan source)[n]?.getD ⟨.eof, "", ⟨source.utf8ByteSize, source.utf8ByteSize⟩⟩ :=
  ⟨tokenization_iff_eq_scanFrom 0 source.toList,
    TokenStream.current_iterate_next (.ofText source)⟩

end MonkeyLang
