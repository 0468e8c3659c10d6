import Mathlib.Tactic.Lemma
import MonkeyLang.Syntax.Parsing

/-!
# Reading without errors

`Parser.Reads p s a r` says that the parser `p` reads the value `a` from the front of the stream
`s`, that it leaves the stream `r`, and that nothing went wrong on the way, inside blocks included.
Each combinator has one lemma that says when it reads; statements about parsers go through these
lemmas and do not look at replies.
-/

namespace MonkeyLang

namespace TokenStream

@[simp] lemma current_cons (t : Token) (ts : List Token) (size : Nat) :
    (TokenStream.mk (t :: ts) size).current = t := rfl

@[simp] lemma next_cons (t : Token) (ts : List Token) (size : Nat) :
    (TokenStream.mk (t :: ts) size).next = ⟨ts, size⟩ := rfl

@[simp] lemma kind_current_nil (size : Nat) :
    (TokenStream.mk [] size).current.kind = .eof := rfl

/-- A current token that is not the end of the text is the first token of the stream. -/
lemma exists_cons_of_kind {s : TokenStream} {k : TokenKind} (h : s.current.kind = k)
    (hk : k ≠ .eof) : ∃ t ts, s = ⟨t :: ts, s.size⟩ ∧ t.kind = k := by
  obtain ⟨_ | ⟨t, ts⟩, size⟩ := s
  · exact absurd h.symm hk
  · exact ⟨t, ts, rfl, h⟩

/-- A current token of some kind is the first token of the stream. -/
lemma tokens_eq_of_kind {s : TokenStream} {k : TokenKind} (h : s.current.kind = k)
    (hk : k ≠ .eof) : s.tokens = s.current :: s.next.tokens := by
  obtain ⟨t, ts, hs, -⟩ := exists_cons_of_kind h hk
  rw [hs]
  rfl

end TokenStream

namespace Parser

variable {α β : Type}

/-- The parser reads a value from a stream, up to another stream, and finds no error. -/
def Reads (p : Parser α) (s : TokenStream) (a : α) (r : TokenStream) : Prop :=
  ∃ found, p s = .parsed a r found ∧ found.errors = []

/-! ## Primitive parsers -/

variable {s r : TokenStream}

@[simp] lemma reads_pure {a b : α} : Reads (pure a) s b r ↔ b = a ∧ r = s := by
  constructor
  · rintro ⟨found, h, -⟩
    injection h with ha hr
    exact ⟨ha.symm, hr.symm⟩
  · rintro ⟨rfl, rfl⟩
    exact ⟨.nothing, rfl, rfl⟩

/-- A sequence reads what its two parts read one after the other. -/
@[simp low] lemma reads_bind {p : Parser α} {f : α → Parser β} {b : β} :
    Reads (p >>= f) s b r ↔ ∃ a m, Reads p s a m ∧ Reads (f a) m b r := by
  constructor
  · rintro ⟨found, h, hnone⟩
    rw [bind_apply] at h
    cases hp : p s with
    | parsed a m before =>
      rw [hp] at h
      cases hf : f a m with
      | parsed b' r' after =>
        simp only [Reply.andThen, Reply.after, hf, Reply.parsed.injEq] at h
        obtain ⟨rfl, rfl, rfl⟩ := h
        simp only [Findings.append_def, List.append_eq_nil_iff] at hnone
        exact ⟨a, m, ⟨before, hp, hnone.1⟩, after, hf, hnone.2⟩
      | rejected r' after error => simp [Reply.andThen, Reply.after, hf] at h
      | exhausted => simp [Reply.andThen, Reply.after, hf] at h
    | rejected m before error => simp [hp, Reply.andThen] at h
    | exhausted => simp [hp, Reply.andThen] at h
  · rintro ⟨a, m, ⟨before, hp, hbefore⟩, after, hf, hafter⟩
    refine ⟨before ++ after, ?_, ?_⟩
    · rw [bind_apply, hp, Reply.andThen, hf, Reply.after]
    · simp [Findings.append_def, hbefore, hafter]

@[simp] lemma reads_peek {t : Token} : Reads peek s t r ↔ t = s.current ∧ r = s := by
  constructor
  · rintro ⟨found, h, -⟩
    injection h with ht hr
    exact ⟨ht.symm, hr.symm⟩
  · rintro ⟨rfl, rfl⟩
    exact ⟨.nothing, rfl, rfl⟩

@[simp] lemma reads_take {t : Token} : Reads take s t r ↔ t = s.current ∧ r = s.next := by
  constructor
  · rintro ⟨found, h, -⟩
    injection h with ht hr
    exact ⟨ht.symm, hr.symm⟩
  · rintro ⟨rfl, rfl⟩
    exact ⟨.nothing, rfl, rfl⟩

@[simp] lemma reads_peek_bind {f : Token → Parser β} {b : β} :
    Reads (peek >>= f) s b r ↔ Reads (f s.current) s b r := by
  rw [reads_bind]
  simp only [reads_peek]
  exact ⟨by rintro ⟨_, _, ⟨rfl, rfl⟩, h⟩; exact h, fun h => ⟨_, _, ⟨rfl, rfl⟩, h⟩⟩

@[simp] lemma reads_take_bind {f : Token → Parser β} {b : β} :
    Reads (take >>= f) s b r ↔ Reads (f s.current) s.next b r := by
  rw [reads_bind]
  simp only [reads_take]
  exact ⟨by rintro ⟨_, _, ⟨rfl, rfl⟩, h⟩; exact h, fun h => ⟨_, _, ⟨rfl, rfl⟩, h⟩⟩

@[simp] lemma not_reads_exhausted {a : α} : ¬ Reads exhausted s a r := by
  rintro ⟨found, h, -⟩
  simp [exhausted] at h

@[simp] lemma not_reads_reject {fault : ParseFault} {a : α} : ¬ Reads (reject fault) s a r := by
  rintro ⟨found, h, -⟩
  simp [reject] at h

@[simp] lemma not_reads_rejectPast {fault : ParseFault} {a : α} :
    ¬ Reads (rejectPast fault) s a r := by
  rintro ⟨found, h, -⟩
  simp [rejectPast] at h

/-! ## Derived parsers -/

@[simp] lemma reads_ite {c : Prop} [Decidable c] {p q : Parser α} {a : α} :
    Reads (if c then p else q) s a r ↔ if c then Reads p s a r else Reads q s a r := by
  split <;> rfl

@[simp] lemma reads_expect {kind : TokenKind} {t : Token} :
    Reads (expect kind) s t r ↔ s.current.kind = kind ∧ t = s.current ∧ r = s.next := by
  by_cases h : s.current.kind = kind <;> simp [expect, h]

@[simp] lemma reads_skip {kind : TokenKind} {u : Unit} :
    Reads (skip kind) s u r ↔ r = if s.current.kind = kind then s.next else s := by
  by_cases h : s.current.kind = kind <;> simp [skip, h]

@[simp] lemma reads_expect_bind {kind : TokenKind} {f : Token → Parser β} {b : β} :
    Reads (expect kind >>= f) s b r ↔ s.current.kind = kind ∧ Reads (f s.current) s.next b r := by
  rw [reads_bind]
  simp only [reads_expect]
  constructor
  · rintro ⟨_, _, ⟨hkind, rfl, rfl⟩, h⟩
    exact ⟨hkind, h⟩
  · rintro ⟨hkind, h⟩
    exact ⟨_, _, ⟨hkind, rfl, rfl⟩, h⟩

@[simp] lemma reads_skip_bind {kind : TokenKind} {f : Unit → Parser β} {b : β} :
    Reads (skip kind >>= f) s b r ↔
      Reads (f ()) (if s.current.kind = kind then s.next else s) b r := by
  rw [reads_bind]
  simp only [reads_skip]
  exact ⟨by rintro ⟨_, _, rfl, h⟩; exact h, fun h => ⟨_, _, rfl, h⟩⟩

/-- An attempt reads without an error exactly when what it attempts does. -/
@[simp] lemma reads_attempt {p : Parser α} {o : Option α} :
    Reads (attempt p) s o r ↔ ∃ a, o = some a ∧ Reads p s a r := by
  constructor
  · rintro ⟨found, h, hnone⟩
    unfold attempt at h
    cases hp : p s with
    | parsed a m before =>
      simp only [hp, Reply.parsed.injEq] at h
      obtain ⟨rfl, rfl, rfl⟩ := h
      exact ⟨a, rfl, before, hp, hnone⟩
    | rejected m before error =>
      simp only [hp, Reply.parsed.injEq] at h
      obtain ⟨-, -, rfl⟩ := h
      simp [Findings.drop] at hnone
    | exhausted => simp [hp] at h
  · rintro ⟨a, rfl, found, hp, hnone⟩
    exact ⟨found, by simp [attempt, hp], hnone⟩

@[simp] lemma reads_attempt_bind {p : Parser α} {f : Option α → Parser β} {b : β} :
    Reads (attempt p >>= f) s b r ↔ ∃ a m, Reads p s a m ∧ Reads (f (some a)) m b r := by
  rw [reads_bind]
  simp only [reads_attempt]
  constructor
  · rintro ⟨_, m, ⟨a, rfl, ha⟩, h⟩
    exact ⟨a, m, ha, h⟩
  · rintro ⟨a, m, ha, h⟩
    exact ⟨_, m, ⟨a, rfl, ha⟩, h⟩

end Parser

end MonkeyLang
