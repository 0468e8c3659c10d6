import Mathlib.Data.Int.ModEq
import MonkeyLang.Proofs.PrintedData
import MonkeyLang.Proofs.Syntax.Grammar

/-!
# Arithmetic

Integers are 64 bits wide, and what does not fit wraps around, at every operator anew.  So an
expression of numerals, parentheses, `-`, `+` and `*` has the value that it has over unbounded
integers (`Expr.Computes`), taken modulo `2 ^ 64` into the range of 64 bits (`Wraps`).  That the
values of the operands were wrapped before makes no difference, since congruence is kept by each of
these operators.

It is not kept by division, which truncates toward zero: a quotient is that of the wrapped values.
-/

namespace MonkeyLang

/-! ## Wrapping around -/

/-- The number that a number becomes if it is wrapped around to 64 bits. -/
structure Wraps (exact wrapped : Int) : Prop where
  lower : -2 ^ 63 ≤ wrapped
  upper : wrapped < 2 ^ 63
  congruent : wrapped ≡ exact [ZMOD 2 ^ 64]

/-- A number wraps around to one number only. -/
lemma Wraps.unique {exact v w : Int} (hv : Wraps exact v) (hw : Wraps exact w) : w = v := by
  have hmod : w ≡ v [ZMOD 2 ^ 64] := hw.congruent.trans hv.congruent.symm
  obtain ⟨k, hk⟩ := hmod.dvd
  obtain ⟨hvlower, hvupper, -⟩ := hv
  obtain ⟨hwlower, hwupper, -⟩ := hw
  omega

/-- An integer that was computed modulo `2 ^ 64` is a wrapped number. -/
lemma wraps_toInt {n : Int64} {computed exact : Int} (h : n.toInt = computed.bmod (2 ^ 64))
    (hexact : computed ≡ exact [ZMOD 2 ^ 64]) : Wraps exact n.toInt where
  lower := n.le_toInt
  upper := n.toInt_lt
  congruent := by
    have hcomputed : n.toInt ≡ computed [ZMOD 2 ^ 64] := by
      rw [h]
      exact Int.bmod_emod
    exact hcomputed.trans hexact

/-! ## Arithmetic expressions -/

/-- What an operator computes over unbounded integers, if what it computes of wrapped numbers wraps
around to the same. -/
def BinaryOp.overIntegers? : BinaryOp → Option (Int → Int → Int)
  | plus => some (· + ·)
  | minus => some (· - ·)
  | times => some (· * ·)
  | divide | lt | gt | eq | notEq => none

/-- The expression is built from numerals and the operators `-`, `+` and `*`, and has the value over
unbounded integers. -/
inductive Expr.Computes : Expr → Int → Prop where
  | numeral {t : Token} {k : Nat} (range : k ≤ Nat.pow 2 63 - 1) :
      Computes (.integer t (.ofNat k)) k
  | negation {t : Token} {e : Expr} {y : Int} (operand : Computes e y) :
      Computes (.unary t .minus e) (-y)
  | operation {t : Token} {l r : Expr} {y z : Int} {op : BinaryOp} {f : Int → Int → Int}
      (exact : op.overIntegers? = some f) (left : Computes l y) (right : Computes r z) :
      Computes (.binary t l op r) (f y z)

/-- An operator computes of wrapped numbers what it computes of the numbers, wrapped around. -/
lemma BinaryOp.applyIntegers_wraps {op : BinaryOp} {f : Int → Int → Int}
    (hop : op.overIntegers? = some f) {y z : Int} {a b : Int64} (ha : Wraps y a.toInt)
    (hb : Wraps z b.toInt) :
    ∃ v : Int64, op.applyIntegers a b = .ok (.integer v) ∧ Wraps (f y z) v.toInt := by
  cases op with
  | plus =>
    cases hop
    exact ⟨a + b, rfl, wraps_toInt (a.toInt_add b) (ha.congruent.add hb.congruent)⟩
  | minus =>
    cases hop
    exact ⟨a - b, rfl, wraps_toInt (a.toInt_sub b) (ha.congruent.sub hb.congruent)⟩
  | times =>
    cases hop
    exact ⟨a * b, rfl, wraps_toInt (a.toInt_mul b) (ha.congruent.mul hb.congruent)⟩
  | divide | lt | gt | eq | notEq => cases hop

/-- An operator is applied to the values of its operands. -/
lemma evalExpr_binary {l r : Expr} {a b : Int64} (hl : l.Denotes (.integer a))
    (hr : r.Denotes (.integer b)) (t : Token) (op : BinaryOp) (table : BuiltinTable)
    (call : Value → List Value → Eval Value) (scope : FrameId) (s : State) :
    evalExpr table call (.binary t l op r) scope s = Eval.ofExcept (op.applyIntegers a b) s := by
  simp only [evalExpr, Eval.bind_apply, hl table call scope s, hr table call scope s]
  cases op <;> rfl

/-- What an arithmetic expression computes, it has as a value, wrapped around. -/
lemma Expr.Computes.denotes {e : Expr} {z : Int} (h : e.Computes z) :
    ∃ v : Int64, e.Denotes (.integer v) ∧ Wraps z v.toInt := by
  induction h with
  | @numeral t k range =>
    have hrange : k < 2 ^ 63 := by
      have hsize : Nat.pow 2 63 = 2 ^ 63 := rfl
      omega
    refine ⟨.ofNat k, fun table call scope s => ?_, ?_⟩
    · rw [evalExpr]
      rfl
    · rw [Int64.toInt_ofNat_of_lt hrange]
      exact ⟨by omega, by omega, .refl _⟩
  | @negation t e y _ ih =>
    obtain ⟨a, ha, hwraps⟩ := ih
    refine ⟨-a, fun table call scope s => ?_, ?_⟩
    · rw [evalExpr, Eval.bind_apply, ha table call scope s]
      rfl
    · exact wraps_toInt a.toInt_neg hwraps.congruent.neg
  | @operation t l r y z op f exact _ _ ihleft ihright =>
    obtain ⟨a, ha, hleft⟩ := ihleft
    obtain ⟨b, hb, hright⟩ := ihright
    obtain ⟨v, hv, hwraps⟩ := op.applyIntegers_wraps exact hleft hright
    refine ⟨v, fun table call scope s => ?_, hwraps⟩
    rw [evalExpr_binary ha hb, hv]
    rfl

/-! ## Written expressions -/

namespace Grammar

/-- The derivation is one of numerals, parentheses and the operators `-`, `+` and `*`. -/
def Derivation.IsArithmetic {A : Nonterminal} {s r : List Token} : Derivation A s r → Prop
  | int _ _ | chainEnd | suffixEnd => True
  | grouped _ inner _ => inner.IsArithmetic
  | unary op _ operand => op = .minus ∧ operand.IsArithmetic
  | chainStep op _ _ operand others =>
    op.overIntegers?.isSome ∧ operand.IsArithmetic ∧ others.IsArithmetic
  | binary first others => first.IsArithmetic ∧ others.IsArithmetic
  | suffixed base others => base.IsArithmetic ∧ others.IsArithmetic
  | noUnary operand => operand.IsArithmetic
  | _ => False

/-- The tree computes a number; what follows an operand does if the operand does. -/
def Nonterminal.Computes : (A : Nonterminal) → A.Tree → Prop
  | expr _, e | primary, e => ∃ z, e.Computes z
  | chain _, extend | suffixes, extend => ∀ left y, left.Computes y → ∃ z, (extend left).Computes z
  | _, _ => True

/-- What is written with numerals, parentheses and arithmetic operators computes a number. -/
lemma Derivation.computes {A : Nonterminal} {s r : List Token} (d : Derivation A s r)
    (h : d.IsArithmetic) : A.Computes d.tree := by
  induction d with
  | int digits range => exact ⟨_, .numeral range⟩
  | grouped lparen inner rparen ih => exact ih h
  | unary op sign operand ih =>
    obtain ⟨rfl, hoperand⟩ := h
    obtain ⟨y, hy⟩ := ih hoperand
    exact ⟨-y, .negation hy⟩
  | noUnary operand ih => exact ih h
  | chainEnd | suffixEnd => exact fun left y hy => ⟨y, hy⟩
  | chainStep op sign member operand others ihoperand ihothers =>
    obtain ⟨hop, hoperand, hothers⟩ := h
    obtain ⟨f, hf⟩ := Option.isSome_iff_exists.1 hop
    obtain ⟨z, hz⟩ := ihoperand hoperand
    intro left y hy
    exact ihothers hothers _ (f y z) (.operation hf hy hz)
  | binary first others ihfirst ihothers | suffixed first others ihfirst ihothers =>
    obtain ⟨y, hy⟩ := ihfirst h.1
    exact ihothers h.2 _ y hy
  | _ => exact h.elim

end Grammar

/-! ## Division -/

/-- The quotient, truncated toward zero: the remainder is smaller than the divisor, and zero or of
the sign of the dividend. -/
def IsTruncatedQuotient (dividend divisor quotient : Int) : Prop :=
  ∃ m, dividend = quotient * divisor + m ∧ |m| < |divisor| ∧ (m = 0 ∨ m.sign = dividend.sign)

lemma isTruncatedQuotient_tdiv (a : Int) {b : Int} (hb : b ≠ 0) :
    IsTruncatedQuotient a b (a.tdiv b) := by
  refine ⟨a.tmod b, (a.tdiv_mul_add_tmod b).symm, ?_, ?_⟩
  · rw [Int.abs_eq_natAbs, Int.abs_eq_natAbs, Int.natAbs_tmod]
    have hlt := Nat.mod_lt a.natAbs (Int.natAbs_pos.2 hb)
    omega
  · have hsign := a.sign_tmod b
    split at hsign
    · exact .inl (Int.sign_eq_zero_iff_zero.1 hsign)
    · exact .inr hsign

/-- The only quotient of 64 bits that does not fit. -/
lemma minValue_div_neg_one : Int64.minValue / -1 = Int64.minValue := by decide

/-- Every other quotient fits. -/
lemma isTruncatedQuotient_div {a b : Int64} (hb : b.toInt ≠ 0)
    (h : ¬ (a.toInt = -2 ^ 63 ∧ b.toInt = -1)) :
    IsTruncatedQuotient a.toInt b.toInt (a / b).toInt := by
  have hdiv : (a / b).toInt = a.toInt.tdiv b.toInt := by
    by_cases hmin : a = Int64.minValue
    · refine Int64.toInt_div_of_ne_right a b fun hneg => h ⟨?_, ?_⟩
      · rw [hmin, Int64.toInt_minValue]
      · rw [hneg]
        rfl
    · exact Int64.toInt_div_of_ne_left a b hmin
  rw [hdiv]
  exact isTruncatedQuotient_tdiv _ hb

/-- Whatever is written with numerals, parentheses, `-`, `+` and `*` computes a number over
unbounded integers, and has in every state the only value of 64 bits that is congruent to it modulo
`2 ^ 64`.  A quotient of two such expressions is an error if the value of the divisor is zero, and
otherwise the quotient of the values truncated toward zero, except for the only one that does not
fit. -/
theorem arithmetic_wraps :
    (∀ (level : Grammar.Level) (s r : List Token) (d : Grammar.Derivation (.expr level) s r),
      d.IsArithmetic → ∃ z, d.tree.Computes z) ∧
    (∀ (e : Expr) (z : Int), e.Computes z → ∃ v : Int64, e.Denotes (.integer v) ∧ Wraps z v.toInt ∧
      ∀ w, Wraps z w → w = v.toInt) ∧
    ∀ (t : Token) (l r : Expr) (y z : Int), l.Computes y → r.Computes z → ∃ a b : Int64,
      (l.Denotes (.integer a) ∧ Wraps y a.toInt) ∧ (r.Denotes (.integer b) ∧ Wraps z b.toInt) ∧
      (b.toInt = 0 → ∀ table call scope s, evalExpr table call (.binary t l .divide r) scope s =
        .signal (.failed .divisionByZero) s) ∧
      (b.toInt ≠ 0 → ∃ q : Int64, (Expr.binary t l .divide r).Denotes (.integer q) ∧
        (a.toInt = -2 ^ 63 ∧ b.toInt = -1 → q.toInt = -2 ^ 63) ∧
        (¬ (a.toInt = -2 ^ 63 ∧ b.toInt = -1) →
          IsTruncatedQuotient a.toInt b.toInt q.toInt)) := by
  refine ⟨fun level s r d hd => d.computes hd, fun e z h => ?_, fun t l r y z hl hr => ?_⟩
  · obtain ⟨v, hv, hwraps⟩ := h.denotes
    exact ⟨v, hv, hwraps, fun w hw => hwraps.unique hw⟩
  · obtain ⟨a, ha, hleft⟩ := hl.denotes
    obtain ⟨b, hb, hright⟩ := hr.denotes
    refine ⟨a, b, ⟨ha, hleft⟩, ⟨hb, hright⟩, fun hzero table call scope s => ?_, fun hzero => ?_⟩
    · obtain rfl : b = 0 := Int64.toInt_inj.1 hzero
      rw [evalExpr_binary ha hb]
      rfl
    · have hne : b ≠ 0 := by
        rintro rfl
        exact hzero rfl
      refine ⟨a / b, fun table call scope s => ?_, ?_, isTruncatedQuotient_div hzero⟩
      · rw [evalExpr_binary ha hb, BinaryOp.applyIntegers, if_neg hne]
        rfl
      · rintro ⟨hleast, hneg⟩
        obtain rfl : a = .minValue := Int64.toInt_inj.1 (hleast.trans Int64.toInt_minValue.symm)
        obtain rfl : b = -1 := Int64.toInt_inj.1 hneg
        rw [minValue_div_neg_one, Int64.toInt_minValue]

/-- One more than the largest integer, which is the least one, divided by `-1`; and a numeral in
parentheses. -/
theorem arithmetic_wraps_least :
    let largest : Expr := .integer default (.ofNat (Nat.pow 2 63 - 1))
    let one : Expr := .integer default (.ofNat 1)
    let least : Expr := .binary default largest .plus one
    let quotient : Expr := .binary default least .divide (.unary default .minus one)
    let grouped : List Token :=
      [⟨.lparen, "(", default⟩, ⟨.int, "7", default⟩, ⟨.rparen, ")", default⟩]
    (∃ v : Int64, least.Denotes (.integer v) ∧ v.toInt = -2 ^ 63) ∧
    (∃ v : Int64, quotient.Denotes (.integer v) ∧ v.toInt = -2 ^ 63) ∧
    ∃ (d : Grammar.Derivation .expression grouped []) (z : Int), d.tree.Computes z := by
  intro largest one least quotient grouped
  obtain ⟨hwritten, hvalue, hquotient⟩ := arithmetic_wraps
  have hone : one.Computes 1 := .numeral (by decide)
  have hleast : least.Computes (((Nat.pow 2 63 - 1 : Nat) : Int) + 1) :=
    .operation rfl (.numeral (le_refl _)) hone
  have hwraps : Wraps (((Nat.pow 2 63 - 1 : Nat) : Int) + 1) (-2 ^ 63) :=
    ⟨by decide, by decide, by decide⟩
  refine ⟨?_, ?_, ?_⟩
  · obtain ⟨v, hv, -, honly⟩ := hvalue least _ hleast
    exact ⟨v, hv, (honly _ hwraps).symm⟩
  · obtain ⟨a, b, ⟨-, ha⟩, ⟨-, hb⟩, -, hdivides⟩ :=
      hquotient default least _ _ (-1) hleast (.negation hone)
    have hdividend : a.toInt = -2 ^ 63 := hwraps.unique ha
    have hdivisor : b.toInt = -1 := Wraps.unique ⟨by decide, by decide, rfl⟩ hb
    obtain ⟨q, hq, hleastQuotient, -⟩ := hdivides (by rw [hdivisor]; decide)
    exact ⟨q, hq, hleastQuotient ⟨hdividend, hdivisor⟩⟩
  · let inner : Grammar.Derivation .expression grouped.tail [⟨.rparen, ")", default⟩] :=
      .binary (.binary (.binary (.binary (.noUnary (.suffixed (.int rfl (by decide)) .suffixEnd))
        .chainEnd) .chainEnd) .chainEnd) .chainEnd
    let d : Grammar.Derivation .expression grouped [] :=
      .binary (.binary (.binary (.binary (.noUnary (.suffixed (.grouped rfl inner rfl) .suffixEnd))
        .chainEnd) .chainEnd) .chainEnd) .chainEnd
    have hinner : inner.IsArithmetic :=
      ⟨⟨⟨⟨⟨trivial, trivial⟩, trivial⟩, trivial⟩, trivial⟩, trivial⟩
    have hd : d.IsArithmetic := ⟨⟨⟨⟨⟨hinner, trivial⟩, trivial⟩, trivial⟩, trivial⟩, trivial⟩
    exact ⟨d, hwritten _ _ _ d hd⟩

end MonkeyLang
