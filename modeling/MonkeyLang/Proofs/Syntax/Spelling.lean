import MonkeyLang.Proofs.Syntax.Tokenization
import MonkeyLang.Proofs.Syntax.Tokens

/-!
# Tokens written out

The tokens of a text can be written out again, each as its literal or, if it is a string, as its
literal between double quotes.  With a blank between any two neighbours the same tokens are read.
Some of these blanks can be left out: `TokenKind.Fuses` says between which kinds a blank has to
stand, and the tokens are read again exactly if it stands there (`Token.KeptApart`).

A token that is written out ends where the text behind it does not continue it, and of that text
the first character tells whether it does (`TokenKind.BeginsWith`).
-/

namespace MonkeyLang

/-! ## Writing tokens -/

/-- A token as it stands in a text: its literal, and quotes around it if it is a string. -/
def Token.written (t : Token) : String :=
  if t.kind = .string then .ofList ('"' :: (t.literal.toList ++ ['"'])) else t.literal

/-- Tokens one behind the other, with a single blank between the `n`-th and the next if `spaced n`,
and nothing between them otherwise. -/
def Token.writeOut (spaced : Nat → Bool) : List Token → String
  | [] => ""
  | [t] => t.written
  | t :: u :: ts =>
    t.written ++ (if spaced 0 then " " else "") ++ writeOut (fun n => spaced (n + 1)) (u :: ts)

/-- Of two tokens with nothing between them, the first takes up the beginning of the second: they
are words, or they are numerals, or an `=` behind `=` or `!` makes a longer sign of it. -/
def TokenKind.Fuses (first second : TokenKind) : Prop :=
  (first.isWord = true ∧ second.isWord = true) ∨ (first = .int ∧ second = .int) ∨
    ((first = .assign ∨ first = .bang) ∧ (second = .assign ∨ second = .eq))

instance (first second : TokenKind) : Decidable (first.Fuses second) :=
  inferInstanceAs (Decidable (_ ∨ _ ∨ _))

/-- An `=` takes up the first half of `==` but no part of `!=`, and `==` takes up no `=`. -/
example : TokenKind.assign.Fuses .eq ∧ ¬ TokenKind.assign.Fuses .notEq ∧
    ¬ TokenKind.eq.Fuses .assign := by
  decide

/-- A blank stands between any two neighbours that would fuse. -/
def Token.KeptApart (spaced : Nat → Bool) (ts : List Token) : Prop :=
  ∀ n t u, ts[n]? = some t → ts[n + 1]? = some u → t.kind.Fuses u.kind → spaced n = true

/-! ## How a token begins -/

namespace TokenKind

variable {kind : TokenKind} {c d : Char}

/-- The first character of a token of the kind tells what it is. -/
structure BeginsWith (kind : TokenKind) (d : Char) : Prop where
  letter : IsLetter d ↔ kind.isWord = true
  digit : IsDigit d ↔ kind = .int
  equals : d = '=' ↔ kind = .assign ∨ kind = .eq

/-- A token goes on with the beginning of another exactly if it fuses with it. -/
lemma BeginsWith.continuedBy_iff {first : TokenKind} (h : kind.BeginsWith d) :
    first.ContinuedBy d ↔ first.Fuses kind := by
  rw [ContinuedBy, Fuses, h.letter, h.digit, h.equals]

lemma beginsWith_letter (hkind : kind.isWord = true) (hd : IsLetter d) : kind.BeginsWith d where
  letter := by simp [hd, hkind]
  digit := by
    have hdigit : ¬ IsDigit d := fun h => by
      have hword := isWordChar_eq_false_of_isDigit (isDigit_iff.2 h)
      rw [isWordChar_iff.2 hd] at hword
      cases hword
    cases kind <;> simp_all [isWord]
  equals := by
    have hequals : d ≠ '=' := by
      rintro rfl
      exact absurd (isWordChar_iff.2 hd) (by decide)
    cases kind <;> simp_all [isWord]

lemma beginsWith_digit (hd : IsDigit d) : int.BeginsWith d where
  letter := by
    have hword := isWordChar_eq_false_of_isDigit (isDigit_iff.2 hd)
    simp [← isWordChar_iff, hword, isWord]
  digit := by simp [hd]
  equals := by
    have hequals : d ≠ '=' := by
      rintro rfl
      exact absurd (isDigit_iff.2 hd) (by decide)
    simp [hequals]

/-- A token that is neither word nor numeral does not begin like one. -/
lemma beginsWith_other (hletter : ¬ IsLetter d) (hdigit : ¬ IsDigit d)
    (hword : kind.isWord = false) (hint : kind ≠ .int)
    (hequals : d = '=' ↔ kind = .assign ∨ kind = .eq) : kind.BeginsWith d :=
  ⟨by simp [hletter, hword], by simp [hdigit, hint], hequals⟩

lemma beginsWith_sign (entry : (c, kind) ∈ signs) : kind.BeginsWith c := by
  have hall : ∀ e ∈ signs, e.2.isWord = false ∧ e.2 ≠ .int ∧
      (e.1 = '=' ↔ e.2 = .assign ∨ e.2 = .eq) := by decide
  obtain ⟨hword, hint, hequals⟩ := hall _ entry
  obtain ⟨-, hletter, hdigit, -⟩ := classes_of_ofPunctuation (mem_signs_iff.1 entry)
  exact beginsWith_other (isWordChar_iff.not.1 (by simp [hletter]))
    (isDigit_iff.not.1 (by simp [hdigit])) hword hint hequals

end TokenKind

/-! ## Tokens and their text -/

lemma Token.toList_written_of_string {t : Token} (h : t.kind = .string) :
    t.written.toList = '"' :: (t.literal.toList ++ ['"']) := by
  rw [written, if_pos h, String.toList_ofList]

lemma Token.written_of_ne_string {t : Token} (h : t.kind ≠ .string) : t.written = t.literal :=
  if_neg h

namespace TokenRule

variable {slice after rest : List Char} {kind : TokenKind} {literal : String} {t : Token}

/-- A token can be written out in front of any text that does not continue it. -/
lemma written (h : TokenRule slice after t.kind t.literal)
    (hrest : ∀ d ∈ rest.head?, ¬ t.kind.ContinuedBy d) :
    TokenRule t.written.toList rest t.kind t.literal := by
  rcases h.string_or_slice_eq with ⟨hstring, plain⟩ | ⟨hstring, hslice⟩
  · rw [Token.toList_written_of_string hstring, hstring]
    exact .quoted plain
  · rw [Token.written_of_ne_string hstring, ← hslice]
    exact h.replace hstring hrest

lemma written_alone (h : TokenRule slice after t.kind t.literal) :
    TokenRule t.written.toList [] t.kind t.literal :=
  h.written (by simp)

/-- A token begins with a character that tells its kind. -/
lemma beginsWith (h : TokenRule slice after kind literal) :
    ∃ d ds, slice = d :: ds ∧ kind.BeginsWith d := by
  cases h with
  | keyword entry maximal =>
    have hletters := (ofWord_of_mem entry).2
    obtain ⟨d, ds, hds⟩ := List.exists_cons_of_ne_nil hletters.ne_nil
    have hd := isWordChar_iff.1 (hletters.all d (by simp [hds]))
    exact ⟨d, ds, hds, TokenKind.beginsWith_letter (TokenKind.isWord_of_mem_keywords entry) hd⟩
  | name nonempty letters free maximal =>
    obtain ⟨d, ds, hds⟩ := List.exists_cons_of_ne_nil (mt String.toList_eq_nil_iff.1 nonempty)
    exact ⟨d, ds, hds, TokenKind.beginsWith_letter rfl (letters d (by simp [hds]))⟩
  | numeral nonempty digits maximal =>
    obtain ⟨d, ds, hds⟩ := List.exists_cons_of_ne_nil (mt String.toList_eq_nil_iff.1 nonempty)
    exact ⟨d, ds, hds, TokenKind.beginsWith_digit (digits d (by simp [hds]))⟩
  | equal | notEqual | quoted plain | unclosed plain =>
    exact ⟨_, _, rfl, TokenKind.beginsWith_other (isWordChar_iff.not.1 (by decide))
      (isDigit_iff.not.1 (by decide)) rfl (by decide) (by decide)⟩
  | sign entry maximal => exact ⟨_, _, rfl, TokenKind.beginsWith_sign entry⟩
  | @illegal c _ letter digit quote sign blank =>
    have hequals : c ≠ '=' := by
      rintro rfl
      exact sign .assign (by decide)
    exact ⟨_, _, rfl, TokenKind.beginsWith_other letter digit rfl (by decide) (by simp [hequals])⟩

/-- A token at the front of a text is the first that is read. -/
lemma scanFrom (h : TokenRule slice after kind literal) (offset : Nat) :
    Token.scanFrom offset (slice ++ after) =
      ⟨kind, literal, ⟨offset, offset + Text.byteLength slice⟩⟩ ::
        Token.scanFrom (offset + Text.byteLength slice) after := by
  obtain ⟨c, cs, hcs, hblank, hfirst⟩ := h.first_eq
  rw [hcs, Token.scanFrom, if_neg (by simp [hblank]), hfirst]
  simp [Lexeme.toToken]

end TokenRule

namespace Token

variable {t : Token} {slice after rest : List Char} {offset : Nat}

/-- A token that is written out in front of a text that continues it is not read again. -/
lemma scanFrom_written_of_continuedBy {d : Char} (h : TokenRule slice after t.kind t.literal)
    (hd : t.kind.ContinuedBy d) (ts : List Token) :
    (scanFrom offset (t.written.toList ++ d :: rest)).map eraseSpan ≠ t.eraseSpan :: ts := by
  intro hsame
  obtain ⟨c, cs, hcs, hblank, -⟩ := h.written_alone.first_eq
  rw [List.append_nil] at hcs
  rw [hcs, List.cons_append, scanFrom, if_neg (by simp [hblank]), List.map_cons,
    List.cons_eq_cons] at hsame
  obtain ⟨hkind, hliteral⟩ := eraseSpan_eq_iff.1 hsame.1
  have hstring : t.kind ≠ .string := by
    intro hstring
    rw [hstring] at hd
    simp [TokenKind.ContinuedBy, TokenKind.isWord] at hd
  -- The token that is read would cover just what was written out, and end in front of `d`.
  let l := Lexeme.first c (cs ++ d :: rest)
  have hrule : TokenRule l.slice l.rest t.kind t.literal := by
    rw [← hkind, ← hliteral]
    exact TokenRule.first hblank
  have hslice := (hrule.string_or_slice_eq.resolve_left fun h => hstring h.1).2
  rw [← written_of_ne_string hstring, hcs] at hslice
  have happend := Lexeme.slice_append_rest_first c (cs ++ d :: rest)
  rw [hslice, List.cons_append, List.cons_eq_cons] at happend
  refine hrule.maximal d ?_ hd
  rw [List.append_cancel_left happend.2]
  rfl

/-- A token that is written out is read again exactly in front of a text that does not continue
it. -/
lemma scanFrom_written_iff {ts : List Token} (h : TokenRule slice after t.kind t.literal) :
    (scanFrom offset (t.written.toList ++ rest)).map eraseSpan = t.eraseSpan :: ts ↔
      (∀ d ∈ rest.head?, ¬ t.kind.ContinuedBy d) ∧
        (scanFrom (offset + Text.byteLength t.written.toList) rest).map eraseSpan = ts := by
  by_cases hrest : ∀ d ∈ rest.head?, ¬ t.kind.ContinuedBy d
  · rw [(h.written hrest).scanFrom offset, List.map_cons, List.cons_eq_cons]
    exact and_congr_left' (iff_of_true rfl hrest)
  · refine iff_of_false (fun hsame => hrest fun d hd hcontinued => ?_) fun hboth => hrest hboth.1
    obtain ⟨ds, rfl⟩ := List.head?_eq_some_iff.1 hd
    exact scanFrom_written_of_continuedBy h hcontinued ts hsame

/-! ## Tokens in a row -/

lemma keptApart_cons_cons {spaced : Nat → Bool} {t u : Token} {ts : List Token} :
    KeptApart spaced (t :: u :: ts) ↔ (t.kind.Fuses u.kind → spaced 0 = true) ∧
      KeptApart (fun n => spaced (n + 1)) (u :: ts) := by
  constructor
  · exact fun h => ⟨h 0 t u rfl rfl, fun n => h (n + 1)⟩
  · rintro ⟨hfirst, hothers⟩ (_ | n) t' u' ht hu
    · cases ht
      cases hu
      exact hfirst
    · exact hothers n t' u' ht hu

/-- What is written out for tokens begins with what is written out for the first. -/
lemma toList_writeOut_cons (spaced : Nat → Bool) (t : Token) (ts : List Token) :
    ∃ cs, (writeOut spaced (t :: ts)).toList = t.written.toList ++ cs := by
  cases ts with
  | nil => exact ⟨[], by rw [writeOut, List.append_nil]⟩
  | cons u ts => exact ⟨_, by rw [writeOut, String.append_assoc, String.toList_append]⟩

/-- A token goes on with the text of others exactly if it fuses with the first of them. -/
lemma continuedBy_writeOut_iff (h : TokenRule slice after t.kind t.literal) (kind : TokenKind)
    (spaced : Nat → Bool) (ts : List Token) :
    (∀ d ∈ (writeOut spaced (t :: ts)).toList.head?, ¬ kind.ContinuedBy d) ↔
      ¬ kind.Fuses t.kind := by
  obtain ⟨d, ds, hd, hbegins⟩ := h.written_alone.beginsWith
  obtain ⟨cs, hcs⟩ := toList_writeOut_cons spaced t ts
  rw [hcs, hd, ← hbegins.continuedBy_iff]
  simp

lemma toList_blank : " ".toList = [' '] := rfl

/-- Tokens that are written out are read again exactly if those that would fuse are kept apart. -/
lemma scanFrom_writeOut_iff {ts : List Token}
    (h : ∀ t ∈ ts, ∃ slice after, TokenRule slice after t.kind t.literal) (spaced : Nat → Bool)
    (offset : Nat) :
    (scanFrom offset (writeOut spaced ts).toList).map eraseSpan = ts.map eraseSpan ↔
      KeptApart spaced ts := by
  induction ts generalizing spaced offset with
  | nil => simp [writeOut, scanFrom, KeptApart]
  | cons t ts ih =>
    obtain ⟨⟨_, _, ht⟩, hothers⟩ := List.forall_mem_cons.1 h
    cases ts with
    | nil =>
      rw [writeOut, ← List.append_nil t.written.toList, List.map_cons, scanFrom_written_iff ht]
      simp [scanFrom, KeptApart]
    | cons u ts =>
      obtain ⟨⟨_, _, hu⟩, -⟩ := List.forall_mem_cons.1 hothers
      rw [keptApart_cons_cons, writeOut, String.append_assoc, String.toList_append, List.map_cons,
        scanFrom_written_iff ht]
      cases hspaced : spaced 0 with
      | true =>
        rw [if_pos rfl, String.toList_append, toList_blank, List.singleton_append,
          scanFrom_of_isBlank rfl, ih hothers]
        simp [TokenKind.not_continuedBy_blank]
      | false =>
        rw [if_neg Bool.false_ne_true, String.empty_append, ih hothers,
          continuedBy_writeOut_iff hu]
        simp

/-- With a blank everywhere, the tokens are the items of a list. -/
lemma writeOut_true (ts : List Token) :
    writeOut (fun _ => true) ts = " ".intercalate (ts.map written) := by
  induction ts with
  | nil => rfl
  | cons t ts ih =>
    cases ts with
    | nil => simp [writeOut]
    | cons u ts =>
      rw [writeOut, ih, List.map_cons, List.map_cons, List.map_cons, String.intercalate_cons_cons,
        if_pos rfl]

/-- Every token of a text stands in it by the rules. -/
lemma exists_tokenRule_of_mem_scan {source : String} {t : Token} (h : t ∈ scan source) :
    ∃ slice after, TokenRule slice after t.kind t.literal := by
  obtain ⟨-, slice, after, -, -, hrule⟩ :=
    ((tokenization_iff_eq_scanFrom 0 source.toList (scan source)).2 rfl).covers t h
  exact ⟨slice, after, hrule⟩

/-- The tokens of any text, written out with single blanks between them, are read again with the
same kinds and literals.  Of the blanks, exactly those between tokens that fuse are needed. -/
theorem scan_writeOut (source : String) :
    (scan (" ".intercalate ((scan source).map written))).map eraseSpan =
        (scan source).map eraseSpan ∧
      ∀ spaced, (scan (writeOut spaced (scan source))).map eraseSpan =
        (scan source).map eraseSpan ↔ KeptApart spaced (scan source) := by
  have hrules : ∀ t ∈ scan source, ∃ slice after, TokenRule slice after t.kind t.literal :=
    fun _ => exists_tokenRule_of_mem_scan
  have hiff := scanFrom_writeOut_iff hrules
  refine ⟨?_, fun spaced => hiff spaced 0⟩
  rw [← writeOut_true]
  exact (hiff (fun _ => true) 0).2 fun _ _ _ _ _ _ => rfl

end Token

end MonkeyLang
