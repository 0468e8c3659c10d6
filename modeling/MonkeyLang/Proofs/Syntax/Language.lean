import MonkeyLang.Proofs.Syntax.Lexing
import MonkeyLang.Proofs.Syntax.Soundness
import MonkeyLang.Proofs.Syntax.Termination

/-!
# The texts that can be read

A text is read without errors exactly when its tokens can be derived as a program, and what is read
is then the tree of the only derivation.
-/

namespace MonkeyLang

/-! ## Tokens of a text -/

lemma TokenKind.ofWord_ne_eof (word : String) : ofWord word ≠ .eof := by
  unfold ofWord
  split <;> decide

lemma TokenKind.ofPunctuation_ne_eof (c : Char) :
    (ofPunctuation? c).getD .illegal ≠ .eof := by
  unfold ofPunctuation?
  split <;> decide

lemma Lexeme.kind_first_ne_eof (c : Char) (cs : List Char) : (first c cs).kind ≠ .eof := by
  unfold first
  split
  · exact TokenKind.ofWord_ne_eof _
  · split
    · exact (by decide : TokenKind.int ≠ .eof)
    · split
      · unfold quoted
        split <;> exact (by decide : TokenKind.string ≠ .eof)
      · split
        · exact (by decide : TokenKind.eq ≠ .eof)
        · exact (by decide : TokenKind.notEq ≠ .eof)
        · exact TokenKind.ofPunctuation_ne_eof c

/-- The tokens of a text do not mark its end. -/
lemma Token.kind_ne_eof_of_mem_scanFrom (offset : Nat) (cs : List Char) :
    ∀ t ∈ scanFrom offset cs, t.kind ≠ .eof :=
  forall_mem_scanFrom (fun c cs _ => Lexeme.kind_first_ne_eof c cs) offset cs

namespace Grammar

open MonkeyLang.Parser

lemma proper_ofText (source : String) : Proper (TokenStream.ofText source) :=
  Token.kind_ne_eof_of_mem_scanFrom 0 source.toList

/-! ## Programs -/

/-- A text is read without errors exactly when the parser reads its statements. -/
lemma parse_eq_ok_iff {source : String} {p : Program} :
    Program.parse source = .ok p ↔ ∃ r, Reads (statements (TokenStream.ofText source).depthBound)
      (TokenStream.ofText source) p.statements r := by
  have hends := statements_ne_exhausted (Nat.lt_succ_self (TokenStream.ofText source).tokens.length)
  cases hreply : statements (TokenStream.ofText source).depthBound (TokenStream.ofText source) with
  | parsed program r found =>
    simp only [Program.parse, Program.read, hreply, Reading.errors, List.isEmpty_iff, Reads]
    constructor
    · intro h
      split at h
      · next hnone =>
        injection h with h
        subst h
        exact ⟨r, found, rfl, hnone⟩
      · cases h
    · rintro ⟨r', found', h, hnone⟩
      injection h with hprogram _ hfound
      subst hprogram hfound
      rw [if_pos hnone]
  | rejected r found error =>
    simp [Program.parse, Program.read, hreply, Reading.errors, Findings.drop, Reads]
  | exhausted => exact absurd hreply hends

/-- Statements that no token closes are read up to the end of the text. -/
lemma reads_statements_iff {s : TokenStream} (hs : Proper s) {program : List Stmt} :
    (∃ r, Reads (statements s.depthBound) s program r) ↔
      ∃ d : ProgramDerivation s.tokens, d.tree = program := by
  constructor
  · rintro ⟨r, h⟩
    obtain ⟨hd, hend⟩ := derivable_statementsUpTo (soundExpr_expression s.depthBound) hs h
    have hr := (hd.proper hs).tokens_eq_nil (by simpa using hend)
    rwa [hr] at hd
  · rintro ⟨d, rfl⟩
    have hread := d.readable s.size (.inl rfl) (fun _ => false) s.depthBound s.depthBound
      (by simp) (.inl rfl) (Nat.lt_succ_self _) (Nat.lt_succ_self _)
    exact ⟨_, hread⟩

/-- The tokens of a text have at most one derivation as a program, and reading the text without
errors gives its tree or fails if there is none. -/
theorem parse_eq_ok_iff_derivation (source : String) :
    (∀ d d' : ProgramDerivation (Token.scan source), d = d') ∧
      ∀ p, Program.parse source = .ok p ↔
        ∃ d : ProgramDerivation (Token.scan source), d.program = p := by
  constructor
  · intro d d'
    exact eq_of_heq (d.unique (.inl rfl) d' (.inl rfl)).2
  · intro p
    rw [parse_eq_ok_iff, reads_statements_iff (proper_ofText source)]
    constructor
    · rintro ⟨d, hd⟩
      exact ⟨d, congrArg Program.mk hd⟩
    · rintro ⟨d, rfl⟩
      exact ⟨d, rfl⟩

end Grammar

end MonkeyLang
