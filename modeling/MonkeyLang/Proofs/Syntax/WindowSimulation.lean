import MonkeyLang.Proofs.Syntax.Termination
import MonkeyLang.Proofs.Syntax.Window

/-!
# The window and the parsers

What is read through a window is what the parsers read from the stream of tokens: the same values
up to the same token, with the same errors in the same order, and a statement is refused exactly
where it is left out (`Window.Follows`).  At the beginning of a form the window shows its first
token; at the end it still shows the last one, so the parsers stand behind it.

Along the way the steps are paid for.  A token that is passed pays for four steps, which is enough
for the step of the expression that begins with it, for the rounds of the loops that it begins or
goes on, and for the one step of an expression that finds no token any more.
-/

namespace MonkeyLang

namespace Window

open TokenStream

variable {α β : Type}

/-! ## Results and replies -/

/-- What has gone wrong so far. -/
def found (w : Window) : Findings := ⟨w.errors, w.refusals⟩

/-- The steps so far, and four for every token that is left. -/
def cost (w : Window) (s : TokenStream) : Nat := w.steps + 4 * s.tokens.length

@[simp] lemma cost_ahead (w : Window) (s : TokenStream) : w.ahead.cost s = w.cost s := rfl

@[simp] lemma cost_stepped (w : Window) (s : TokenStream) : w.stepped.cost s = w.cost s + 1 :=
  Nat.add_right_comm ..

lemma cost_next (w : Window) (s : TokenStream) : w.cost s.next ≤ w.cost s := by
  simp only [cost, length_next]
  omega

/-- A token that is passed pays for four steps. -/
lemma cost_next_add {s : TokenStream} (w : Window) (h : s.current.kind ≠ .eof) :
    w.cost s.next + 4 = w.cost s := by
  have hpos := length_pos_of_kind h
  simp only [cost, length_next]
  omega

/-- A result through the window and a reply of a parser say the same.  Where the stream goes on
from the window is said by `place`; behind a refusal it goes on behind the current token.  A value
costs at most `budget`, and a refusal at most `limit`. -/
inductive Follows (place : TokenStream → TokenStream) (before : Findings) (budget limit : Nat) :
    Result α → Reply α → Prop where
  | read {a : α} {w : Window} {found : Findings} (found_eq : w.found = before ++ found)
      (cost_le : w.cost (place w.stream) ≤ budget) :
      Follows place before budget limit (.read a w) (.parsed a (place w.stream) found)
  | refused {w : Window} {found : Findings} {error : ParseError}
      (found_eq : w.found = before ++ found ++ ⟨[error], 0⟩)
      (cost_le : w.cost w.stream.next ≤ limit) :
      Follows place before budget limit (.refused w) (.rejected w.stream.next found error)
  /-- Nothing is said of a parser that has used up its bound. -/
  | exhausted {r : Result α} : Follows place before budget limit r .exhausted

variable {place middle : TokenStream → TokenStream} {before : Findings}
  {budget limit budget' limit' : Nat} {w : Window} {s : TokenStream}

lemma Follows.mono {r : Result α} {o : Reply α} (h : Follows place before budget limit r o)
    (hbudget : budget ≤ budget') (hlimit : limit ≤ limit') :
    Follows place before budget' limit' r o := by
  cases h with
  | read found_eq cost_le => exact .read found_eq (Nat.le_trans cost_le hbudget)
  | refused found_eq cost_le => exact .refused found_eq (Nat.le_trans cost_le hlimit)
  | exhausted => exact .exhausted

lemma Follows.pure {a : α} (h : w.cost (place w.stream) ≤ budget) :
    Follows place w.found budget limit ((pure a : Action α) w)
      ((Pure.pure a : Parser α) (place w.stream)) :=
  .read (Findings.append_nothing _).symm h

/-- Behind what was found before, the reply has it in front. -/
lemma Follows.after {r : Result α} {o : Reply α} {found : Findings}
    (h : Follows place (before ++ found) budget limit r o) :
    Follows place before budget limit r (o.after found) := by
  cases h with
  | read found_eq cost_le => exact .read (found_eq.trans (Findings.append_assoc ..)) cost_le
  | refused found_eq cost_le =>
    refine .refused ?_ cost_le
    rw [found_eq, Findings.append_assoc before]
  | exhausted => exact .exhausted

/-- In sequences the window follows the parsers part by part. -/
lemma Follows.bind {m : Action α} {p : Parser α} {f : α → Action β} {g : α → Parser β}
    (h : Follows middle before budget limit (m w) (p s))
    (hf : ∀ a w', w'.cost (middle w'.stream) ≤ budget →
      Follows place w'.found budget' limit (f a w') (g a (middle w'.stream))) :
    Follows place before budget' limit ((m >>= f) w) ((p >>= g) s) := by
  rw [bind_apply, Parser.bind_apply]
  generalize m w = r at h
  generalize p s = o at h
  cases h with
  | @read a w' found found_eq cost_le =>
    have hrest := hf a w' cost_le
    rw [found_eq] at hrest
    exact hrest.after
  | refused found_eq cost_le => exact .refused found_eq cost_le
  | exhausted => exact .exhausted

/-- A refusal at the current token. -/
lemma follows_refuse {fault : ParseFault} (h : w.cost w.stream.next ≤ limit) :
    Follows place w.found budget limit (refuse fault w.stream.current w : Result α)
      (Parser.rejectPast fault w.stream) := by
  refine .refused (w := { w with errors := _ }) ?_ h
  simp [found, Findings.append_def, Findings.nothing]

/-- A refusal at the upcoming token. -/
lemma follows_refuse_next {fault : ParseFault} (h : w.cost w.stream.next ≤ limit) :
    Follows place w.found budget limit (refuse fault w.stream.next.current w : Result α)
      (Parser.reject fault w.stream.next) := by
  refine .refused (w := { w with errors := _ }) ?_ h
  simp [found, Findings.append_def, Findings.nothing]

/-- Where a token has to come next, both go on behind it, or both refuse the token that comes. -/
lemma follows_expectNext_bind {k : TokenKind} {f : Unit → Action β} {g : Token → Parser β}
    (hlimit : w.cost w.stream.next ≤ limit)
    (hf : w.stream.next.current.kind = k → Follows place w.ahead.found budget limit
      (f () w.ahead) (g w.stream.next.current w.ahead.stream.next)) :
    Follows place w.found budget limit ((expectNext k >>= f) w)
      ((Parser.expect k >>= g) w.stream.next) := by
  by_cases h : w.stream.next.current.kind = k
  · rw [expectNext_bind_of_eq h, Parser.expect_bind_of_eq h]
    exact hf h
  · rw [expectNext_bind_of_ne h, Parser.expect_bind_of_ne h]
    exact follows_refuse_next hlimit

/-- A value before a token that has to come. -/
lemma follows_close (close : TokenKind) (a : α) (hbudget : w.cost w.stream.next ≤ budget)
    (hlimit : w.cost w.stream.next ≤ limit) :
    Follows next w.found budget limit ((do expectNext close; return a : Action α) w)
      ((do let _ ← Parser.expect close; return a : Parser α) w.stream.next) :=
  follows_expectNext_bind hlimit fun _ =>
    .pure (w := w.ahead) (Nat.le_trans (w.cost_next _) hbudget)

lemma Follows.attempt {m : Action α} {p : Parser α}
    (h : Follows next before budget budget (m w) (p s)) :
    Follows next before budget limit (attempt m w) (Parser.attempt p s) := by
  unfold Window.attempt Parser.attempt
  generalize m w = r at h
  generalize p s = o at h
  cases h with
  | read found_eq cost_le => exact .read found_eq cost_le
  | @refused w' found error found_eq cost_le =>
    refine .read (w := { w' with refusals := w'.refusals + 1 }) ?_ cost_le
    obtain ⟨herrors, hrefusals⟩ := Findings.mk.inj found_eq
    simp [Window.found, Findings.append_def, Findings.drop, herrors, hrefusals, Nat.add_assoc]
  | exhausted => exact .exhausted

/-! ## Lists -/

section

variable {m : Action α} {p : Parser α}

/-- The window follows a parser of items; an item that finds no token may take one step more than
was paid for. -/
def FollowsItem (m : Action α) (p : Parser α) : Prop :=
  ∀ w : Window, Follows next w.found (w.cost w.stream) (w.cost w.stream + 1) (m w) (p w.stream)

/-- The items behind a first one. -/
lemma follows_moreItems (h : FollowsItem m p) (close : TokenKind) (n : Nat) (x : α)
    (w : Window) :
    Follows next w.found (w.cost w.stream.next) (w.cost w.stream.next + 1)
      ((do return x :: (← moreItems m close (n + 1)) : Action _) w)
      ((do
        if (← Parser.peek).kind = .comma then
          let _ ← Parser.take
          return x :: (← Parser.itemsUpTo p close n)
        else
          let _ ← Parser.expect close
          return [x] : Parser _) w.stream.next) := by
  induction n using Nat.strongRecOn generalizing x w with
  | ind n ih =>
    rw [moreItems, bind_assoc, upcoming_bind, Parser.peek_bind_apply]
    by_cases hcomma : w.stream.next.current.kind = .comma
    · rw [if_pos hcomma, if_pos hcomma, Parser.take_bind_apply]
      rw [bind_assoc, step_bind, bind_assoc, advance_bind, bind_assoc, advance_bind]
      cases n with
      | zero => exact .exhausted
      | succ n =>
        -- The comma pays for this round; the items behind it come from the induction.
        let u := w.stepped.ahead.ahead
        have hpaid : u.cost u.stream + 3 = w.cost w.stream.next := by
          have hcost := w.cost_next_add (s := w.stream.next) (by rw [hcomma]; decide)
          rw [← hcost]
          exact congrArg (· + 3) (cost_stepped w u.stream)
        have hitems : Follows next u.found (u.cost u.stream) (u.cost u.stream + 1)
            ((do let y ← m; return y :: (← moreItems m close (n + 1)) : Action _) u)
            (Parser.itemsUpTo p close (n + 1) u.stream) := by
          rw [Parser.itemsUpTo]
          refine (h u).bind fun y u' hcost => ?_
          exact (ih n (Nat.lt_succ_self n) y u').mono hcost (Nat.succ_le_succ hcost)
        refine (hitems.mono (Nat.le_refl _) (by omega)).bind fun xs u' hcost => ?_
        exact .pure (by omega)
    · rw [if_neg hcomma, if_neg hcomma, bind_assoc]
      exact follows_close close [x] (Nat.le_refl _) (Nat.le_succ _)

lemma follows_delimited (h : FollowsItem m p) (close : TokenKind) (n : Nat) (w : Window) :
    Follows next w.found (w.cost w.stream.next) (w.cost w.stream.next + 1)
      (delimited m close n w) (Parser.delimited p close n w.stream.next) := by
  rw [delimited, Parser.delimited, upcoming_bind, Parser.peek_bind_apply]
  by_cases hclose : w.stream.next.current.kind = close
  · rw [if_pos hclose, if_pos hclose, advance_bind, Parser.take_bind_apply]
    exact .pure (w := w.ahead) (w.cost_next _)
  · rw [if_neg hclose, if_neg hclose, advance_bind]
    cases n with
    | zero => exact .exhausted
    | succ n =>
      refine Follows.bind (h w.ahead) fun x w' hcost => ?_
      exact (follows_moreItems h close n x w').mono hcost (Nat.succ_le_succ hcost)

lemma follows_pairs {m : Action Expr} {p : Parser Expr} (h : FollowsItem m p) (n : Nat)
    (w : Window) :
    Follows next w.found (w.cost w.stream.next) (w.cost w.stream.next + 2) (pairs m n w)
      (Parser.pairsUpTo p n w.stream.next) := by
  induction n generalizing w with
  | zero => exact .exhausted
  | succ n ih =>
    rw [pairs, Parser.pairsUpTo, upcoming_bind, Parser.peek_bind_apply]
    by_cases hclose : w.stream.next.current.kind = .rbrace
    · rw [if_pos hclose, if_pos hclose, expectNext_bind_of_eq hclose, Parser.take_bind_apply]
      exact .pure (w := w.ahead) (w.cost_next _)
    · rw [if_neg hclose, if_neg hclose, step_bind, advance_bind]
      have hbegun : Follows next w.found (w.cost w.stream.next + 1) (w.cost w.stream.next + 2)
          (m w.stepped.ahead) (p w.stream.next) :=
        (h w.stepped.ahead).mono (Nat.le_of_eq (cost_stepped w _))
          (Nat.le_of_eq (congrArg (· + 1) (cost_stepped w _)))
      refine hbegun.bind fun key u hkey => ?_
      refine follows_expectNext_bind (by omega) fun hcolon => ?_
      -- The colon pays for this round, and for a value that finds no token any more.
      have hpaid := u.cost_next_add (s := u.stream.next) (by rw [hcolon]; decide)
      rw [advance_bind]
      refine Follows.bind ((h u.ahead.ahead).mono (Nat.le_refl _) ?_) fun value v hvalue => ?_
      · simp only [cost_ahead, stream_ahead]
        omega
      simp only [cost_ahead, stream_ahead] at hvalue
      have hrest : ∀ v' : Window, v'.cost v'.stream.next ≤ v.cost v.stream.next →
          Follows next v'.found (w.cost w.stream.next) (w.cost w.stream.next + 2)
            ((do return (key, value) :: (← pairs m n) : Action _) v')
            ((do return (key, value) :: (← Parser.pairsUpTo p n) : Parser _) v'.stream.next) := by
        intro v' hv'
        refine ((ih v').mono (Nat.le_refl _) (by omega)).bind fun more u' hmore => ?_
        exact .pure (by omega)
      rw [upcoming_bind, Parser.peek_bind_apply]
      by_cases hlast : v.stream.next.current.kind = .rbrace
      · simpa only [hlast, ne_eq, not_true_eq_false, if_false] using hrest v (Nat.le_refl _)
      · simp only [ne_eq, hlast, not_false_eq_true, if_true]
        exact follows_expectNext_bind (by omega) fun _ => hrest v.ahead (v.cost_next _)

lemma follows_statementLoop {m : Action Stmt} {p : Parser Stmt} (closes : TokenKind → Bool)
    (h : ∀ w : Window, w.stream.current.kind ≠ .eof →
      Follows next w.found (w.cost w.stream - 1) (w.cost w.stream - 1) (m w) (p w.stream))
    (n : Nat) (w : Window) :
    Follows id w.found (w.cost w.stream) limit (statementLoop m closes n w)
      (Parser.statementsUpTo p closes n w.stream) := by
  induction n generalizing w with
  | zero => exact .exhausted
  | succ n ih =>
    rw [statementLoop, Parser.statementsUpTo, current_bind, Parser.peek_bind_apply]
    by_cases hend : w.stream.current.kind = .eof || closes w.stream.current.kind
    · rw [if_pos hend, if_pos hend]
      exact .pure (Nat.le_refl _)
    · rw [if_neg hend, if_neg hend, step_bind]
      have hkind : w.stream.current.kind ≠ .eof := fun heof => hend (by simp [heof])
      have hfirst : Follows next w.found (w.cost w.stream) limit (attempt m w.stepped)
          (Parser.attempt p w.stream) := by
        refine Follows.attempt ((h w.stepped hkind).mono ?_ ?_) <;>
        · rw [cost_stepped]
          exact Nat.le_refl _
      refine hfirst.bind fun first u hu => ?_
      rw [advance_bind]
      refine (ih u.ahead).bind fun more v hv => ?_
      exact .pure (Nat.le_trans hv hu)

end

/-! ## Statements and blocks -/

/-- The window follows a parser of expressions.  An expression that begins with a token is paid for
by this token. -/
structure FollowsExpr (m : Precedence → Action Expr) (p : Precedence → Parser Expr) : Prop where
  begun : ∀ floor (w : Window), w.stream.current.kind ≠ .eof →
    Follows next w.found (w.cost w.stream - 1) (w.cost w.stream - 1) (m floor w) (p floor w.stream)
  item : ∀ floor, FollowsItem (m floor) (p floor)

lemma follows_skipNext (k : TokenKind) (w : Window) :
    Follows next w.found (w.cost w.stream.next) limit (skipNext k w)
      (Parser.skip k w.stream.next) := by
  rw [skipNext, Parser.skip, upcoming_bind, Parser.peek_bind_apply]
  by_cases h : w.stream.next.current.kind = k
  · rw [if_pos h, if_pos h, Parser.take_bind_apply]
    exact .pure (w := w.ahead) (w.cost_next _)
  · rw [if_neg h, if_neg h]
    exact .pure (Nat.le_refl _)

/-- An expression that is the value of a statement, and the semicolon that may stand behind it. -/
lemma follows_closed {m : Action Expr} {p : Parser Expr} {f : Expr → Stmt}
    (h : Follows next before budget limit (m w) (p s)) :
    Follows next before budget limit
      ((do let value ← m; skipNext .semicolon; return f value : Action _) w)
      ((do let value ← p; Parser.skip .semicolon; return f value : Parser _) s) := by
  refine h.bind fun value u hu => ?_
  refine ((follows_skipNext .semicolon u).mono hu (Nat.le_refl _)).bind fun _ v hv => ?_
  exact .pure hv

section

variable {m : Precedence → Action Expr} {p : Precedence → Parser Expr} (h : FollowsExpr m p)

include h

/-- An expression behind a token. -/
lemma FollowsExpr.behind (floor : Precedence) (w : Window) :
    Follows next w.found (w.cost w.stream.next) (w.cost w.stream.next + 1) (m floor w.ahead)
      (p floor w.stream.next) :=
  h.item floor w.ahead

lemma follows_statement (w : Window) (hkind : w.stream.current.kind ≠ .eof) :
    Follows next w.found (w.cost w.stream - 1) (w.cost w.stream - 1) (statement m w)
      (Parser.statement p w.stream) := by
  have hpaid := w.cost_next_add hkind
  have hnext := w.cost_next w.stream.next
  have hnext' := w.cost_next w.stream.next.next
  rw [statement, Parser.statement, current_bind, Parser.peek_bind_apply]
  cases w.stream.current.kind with
  | letWord =>
    dsimp only
    rw [Parser.take_bind_apply]
    refine follows_expectNext_bind (by omega) fun _ => ?_
    rw [current_bind]
    refine follows_expectNext_bind (w := w.ahead) ?_ fun _ => ?_
    · rw [cost_ahead, stream_ahead]
      omega
    rw [advance_bind]
    refine follows_closed ((h.behind .lowest w.ahead.ahead).mono ?_ ?_) <;>
    · simp only [cost_ahead, stream_ahead]
      omega
  | returnWord =>
    dsimp only
    rw [Parser.take_bind_apply, advance_bind]
    exact follows_closed ((h.behind .lowest w).mono (by omega) (by omega))
  | _ => exact follows_closed (h.begun .lowest w hkind)

lemma follows_bracedBlock (n : Nat) (w : Window) :
    Follows next w.found (w.cost w.stream.next) (w.cost w.stream.next) (bracedBlock m n w)
      (Parser.bracedBlock p n w.stream.next) := by
  rw [bracedBlock, Parser.bracedBlock, Parser.peek_bind_apply]
  by_cases hbrace : w.stream.next.current.kind = .lbrace
  · rw [if_pos hbrace, expectNext_bind_of_eq hbrace, current_bind, advance_bind, Parser.block,
      Parser.take_bind_apply]
    have hnext := w.cost_next w.stream.next
    refine Follows.bind (follows_statementLoop (· = .rbrace) (follows_statement h) n w.ahead.ahead)
      fun statements u hu => ?_
    rw [id, Parser.take_bind_apply]
    exact .pure (Nat.le_trans (u.cost_next _) (Nat.le_trans hu hnext))
  · rw [if_neg hbrace, expectNext_bind_of_ne hbrace, Parser.peek_bind_apply]
    exact follows_refuse_next (Nat.le_refl _)

lemma follows_alternative (n : Nat) (w : Window) :
    Follows next w.found (w.cost w.stream.next) (w.cost w.stream.next) (alternative m n w)
      (Parser.alternative p n w.stream.next) := by
  rw [alternative, Parser.alternative, upcoming_bind, Parser.peek_bind_apply]
  by_cases helse : w.stream.next.current.kind = .elseWord
  · rw [if_pos helse, if_pos helse, advance_bind, Parser.take_bind_apply]
    have hnext := w.cost_next w.stream.next
    refine ((follows_bracedBlock h n w.ahead).mono hnext hnext).bind fun b u hu => ?_
    exact .pure hu
  · rw [if_neg helse, if_neg helse]
    exact .pure (Nat.le_refl _)

end

/-! ## Expressions -/

lemma follows_parameter : FollowsItem parameter Parser.parameter := by
  intro w
  rw [parameter, Parser.parameter, current_bind, Parser.peek_bind_apply]
  by_cases hident : w.stream.current.kind = .ident
  · rw [if_pos hident, if_pos hident, Parser.take_bind_apply]
    exact .pure (w.cost_next _)
  · rw [if_neg hident, if_neg hident]
    exact follows_refuse (Nat.le_trans (w.cost_next _) (Nat.le_succ _))

section

variable {m : Precedence → Action Expr} {p : Precedence → Parser Expr} (h : FollowsExpr m p)

include h

/-- An operator with its operand. -/
lemma follows_unary {op : UnaryOp} (w : Window)
    (hop : UnaryOp.ofKind? w.stream.current.kind = some op) :
    Follows next w.found (w.cost w.stream.next) (w.cost w.stream.next + 2) (unary m w)
      ((do
        let _ ← Parser.take
        return .unary w.stream.current op (← p .unary) : Parser Expr) w.stream) := by
  rw [unary, current_bind, require_bind hop, advance_bind, Parser.take_bind_apply]
  refine ((h.behind .unary w).mono (Nat.le_refl _) (Nat.le_succ _)).bind fun e u hu => ?_
  exact .pure hu

lemma follows_operand (n : Nat) (w : Window) :
    Follows next w.found (w.cost w.stream.next) (w.cost w.stream.next + 2) (operand m n w)
      (Parser.operand p n w.stream) := by
  have hnext := w.cost_next w.stream.next
  rw [operand, Parser.operand, current_bind, Parser.peek_bind_apply]
  cases hkind : w.stream.current.kind with
  | ident | string | trueWord | falseWord =>
    dsimp only
    rw [Parser.take_bind_apply]
    exact .pure (Nat.le_refl _)
  | int =>
    dsimp only
    cases Parser.integerOfLiteral? w.stream.current.literal with
    | some n =>
      dsimp only
      rw [Parser.take_bind_apply]
      exact .pure (Nat.le_refl _)
    | none => exact follows_refuse (Nat.le_add_right _ _)
  | bang | minus => exact follows_unary h w (by rw [hkind]; rfl)
  | lparen =>
    dsimp only
    rw [advance_bind, Parser.take_bind_apply]
    refine ((h.behind .lowest w).mono (Nat.le_refl _) (Nat.le_succ _)).bind fun e u hu => ?_
    exact follows_expectNext_bind (by omega) fun _ =>
      .pure (w := u.ahead) (Nat.le_trans (u.cost_next _) hu)
  | ifWord =>
    dsimp only
    rw [Parser.take_bind_apply]
    refine follows_expectNext_bind (by omega) fun _ => ?_
    rw [advance_bind]
    refine ((h.behind .lowest w.ahead).mono hnext (by simp; omega)).bind fun condition u hu => ?_
    refine follows_expectNext_bind (by omega) fun _ => ?_
    have hbehind := Nat.le_trans (u.cost_next u.stream.next) hu
    refine ((follows_bracedBlock h n u.ahead).mono hbehind (by simp; omega)).bind
      fun consequence v hv => ?_
    refine ((follows_alternative h n v).mono hv (by omega)).bind fun other v' hv' => ?_
    exact .pure hv'
  | function =>
    dsimp only
    rw [Parser.take_bind_apply]
    refine follows_expectNext_bind (by omega) fun _ => ?_
    have hparameters := follows_delimited follows_parameter .rparen n w.ahead
    refine (hparameters.mono hnext (by simp; omega)).bind fun parameters u hu => ?_
    refine ((follows_bracedBlock h n u).mono hu (by omega)).bind fun body v hv => ?_
    exact .pure hv
  | lbracket =>
    dsimp only
    rw [Parser.take_bind_apply]
    have helements := follows_delimited (h.item .lowest) .rbracket n w
    refine (helements.mono (Nat.le_refl _) (Nat.le_succ _)).bind fun elements u hu => ?_
    exact .pure hu
  | lbrace =>
    dsimp only
    rw [Parser.take_bind_apply]
    refine (follows_pairs (h.item .lowest) n w).bind fun pairs u hu => ?_
    exact .pure hu
  | _ => exact follows_refuse (Nat.le_add_right _ _)

/-- An operator behind its first operand, with the second one. -/
lemma follows_binary {op : BinaryOp} (n : Nat) (left : Expr) (w : Window)
    (hop : BinaryOp.ofKind? w.stream.current.kind = some op)
    (hstrength : Precedence.ofKind w.stream.current.kind = op.precedence) :
    Follows next w.found (w.cost w.stream.next) (w.cost w.stream.next + 1) (binary m left w)
      (Parser.continued p n left (.binary op) w.stream) := by
  rw [binary, current_bind, require_bind hop, advance_bind, Parser.continued,
    Parser.take_bind_apply, hstrength]
  refine (h.behind op.precedence w).bind fun right u hu => ?_
  exact .pure hu

lemma follows_continued {c : Continuation} (n : Nat) (left : Expr) (w : Window)
    (hc : Continuation.ofKind? w.stream.current.kind = some c) :
    Follows next w.found (w.cost w.stream.next) (w.cost w.stream.next + 1) (continued m n left w)
      (Parser.continued p n left c w.stream) := by
  rw [continued, current_bind]
  cases hkind : w.stream.current.kind with
  | lparen =>
    rw [hkind] at hc
    obtain rfl : Continuation.call = c := Option.some.inj hc
    rw [Parser.continued, Parser.take_bind_apply]
    refine (follows_delimited (h.item .lowest) .rparen n w).bind fun arguments u hu => ?_
    exact .pure hu
  | lbracket =>
    rw [hkind] at hc
    obtain rfl : Continuation.index = c := Option.some.inj hc
    dsimp only
    rw [Parser.continued, advance_bind, Parser.take_bind_apply]
    refine (h.behind .lowest w).bind fun position u hu => ?_
    exact follows_expectNext_bind (by omega) fun _ =>
      .pure (w := u.ahead) (Nat.le_trans (u.cost_next _) hu)
  | plus | minus | asterisk | slash | lt | gt | eq | notEq =>
    rw [hkind] at hc
    cases hc
    exact follows_binary h n left w (by rw [hkind]; rfl) (by rw [hkind]; rfl)
  | _ =>
    rw [hkind] at hc
    cases hc

lemma follows_climb (floor : Precedence) (n : Nat) (left : Expr) (w : Window) :
    Follows next w.found (w.cost w.stream.next) (w.cost w.stream.next) (climb m floor n left w)
      (Parser.climb p floor n left w.stream.next) := by
  induction n generalizing left w with
  | zero => exact .exhausted
  | succ n ih =>
    rw [climb, Parser.climb, upcoming_bind, Parser.peek_bind_apply]
    cases hc : Continuation.ofKind? w.stream.next.current.kind with
    | none =>
      have hstrength : Precedence.ofKind w.stream.next.current.kind = .lowest := by
        rw [Precedence.ofKind, hc]
        rfl
      rw [if_neg fun hgoes => Nat.not_lt_zero _ (hstrength ▸ hgoes.2)]
      exact .pure (Nat.le_refl _)
    | some c =>
      have hstrength : Precedence.ofKind w.stream.next.current.kind = c.precedence := by
        rw [Precedence.ofKind, hc]
        rfl
      have hsemicolon : w.stream.next.current.kind ≠ .semicolon := by
        intro hkind
        rw [hkind] at hc
        cases hc
      rw [hstrength]
      by_cases hfloor : floor < c.precedence
      · rw [if_pos ⟨hsemicolon, hfloor⟩, step_bind, advance_bind]
        dsimp only
        rw [if_pos hfloor]
        -- The token that begins the continuation pays for this round.
        have hpaid := w.cost_next_add (s := w.stream.next) (by
          intro hkind
          rw [hkind] at hc
          cases hc)
        have hround := follows_continued h n left w.stepped.ahead hc
        simp only [cost_ahead, stream_ahead, cost_stepped, stream_stepped] at hround
        refine (hround.mono (Nat.le_refl _) (by omega)).bind fun e u hu => ?_
        exact (ih e u).mono (by omega) (by omega)
      · rw [if_neg fun hgoes => hfloor hgoes.2]
        dsimp only
        rw [if_neg hfloor]
        exact .pure (Nat.le_refl _)

end

/-- Without a token there is no operand. -/
lemma follows_expression_of_eof (n : Nat) (floor : Precedence) (w : Window)
    (heof : w.stream.current.kind = .eof) :
    Follows next w.found budget (w.cost w.stream + 1) (expression (n + 1) floor w)
      (Parser.expression (n + 1) floor w.stream) := by
  have hoperand : operand (expression n) n w.stepped =
      refuse (.noOperand .eof) w.stream.current w.stepped := by
    rw [operand, current_bind, stream_stepped, heof]
  have hparser : Parser.operand (Parser.expression n) n w.stream =
      Parser.rejectPast (.noOperand .eof) w.stream := by
    rw [Parser.operand, Parser.peek_bind_apply, heof]
  rw [expression, Parser.expression, step_bind, bind_apply, Parser.bind_apply, hoperand, hparser]
  exact follows_refuse (w := w.stepped) (by simpa using w.cost_next w.stream)

theorem followsExpr_expression (n : Nat) : FollowsExpr (expression n) (Parser.expression n) := by
  induction n with
  | zero => exact ⟨fun _ _ _ => .exhausted, fun _ _ => .exhausted⟩
  | succ n ih =>
    have hbegun : ∀ floor (w : Window), w.stream.current.kind ≠ .eof →
        Follows next w.found (w.cost w.stream - 1) (w.cost w.stream - 1)
          (expression (n + 1) floor w) (Parser.expression (n + 1) floor w.stream) := by
      intro floor w hkind
      have hpaid := w.cost_next_add hkind
      rw [expression, Parser.expression, step_bind]
      -- The first token of the operand pays for this step, and what it does not need is left.
      refine ((follows_operand ih n w.stepped).mono (Nat.le_refl _) ?_).bind fun left u hu => ?_
      · simp only [stream_stepped, cost_stepped]
        omega
      · simp only [stream_stepped, cost_stepped] at hu
        exact (follows_climb ih floor n left u).mono (by omega) (by omega)
    refine ⟨hbegun, fun floor w => ?_⟩
    by_cases hkind : w.stream.current.kind = .eof
    · exact follows_expression_of_eof n floor w hkind
    · have hless : w.cost w.stream - 1 ≤ w.cost w.stream := Nat.sub_le _ _
      exact (hbegun floor w hkind).mono hless (Nat.le_succ_of_le hless)

/-! ## Statements of a program -/

/-- Statements are read alike, also at the end of the text. -/
lemma follows_statement_expression (depth : Nat) (w : Window) :
    Follows next w.found (w.cost w.stream) (w.cost w.stream + 1)
      (statement (expression depth) w)
      (Parser.statement (Parser.expression depth) w.stream) := by
  have hexpression := followsExpr_expression depth
  by_cases hkind : w.stream.current.kind = .eof
  · rw [statement, Parser.statement, current_bind, Parser.peek_bind_apply, hkind]
    exact follows_closed (hexpression.item .lowest w)
  · exact (follows_statement hexpression w hkind).mono (by omega) (by omega)

theorem follows_program (depth : Nat) (w : Window) :
    Follows id w.found (w.cost w.stream) 0 (program depth w)
      (Parser.statements depth w.stream) :=
  follows_statementLoop (fun _ => false) (follows_statement (followsExpr_expression depth)) depth w

/-- A loop of statements refuses nothing, and ends at a token that closes it or at the end. -/
lemma statementLoop_ends (m : Action Stmt) (closes : TokenKind → Bool) (n : Nat) (w : Window) :
    statementLoop m closes n w = .exhausted ∨
      ∃ statements u, statementLoop m closes n w = .read statements u ∧
        (u.stream.current.kind = .eof || closes u.stream.current.kind) = true := by
  induction n generalizing w with
  | zero => exact .inl rfl
  | succ n ih =>
    rw [statementLoop, current_bind]
    by_cases hend : w.stream.current.kind = .eof || closes w.stream.current.kind
    · rw [if_pos hend]
      exact .inr ⟨[], w, rfl, hend⟩
    · rw [if_neg hend, step_bind, bind_apply]
      cases hfirst : attempt m w.stepped with
      | read first u =>
        dsimp only
        rw [advance_bind, bind_apply]
        rcases ih u.ahead with hmore | ⟨more, v, hmore, hv⟩
        · rw [hmore]
          exact .inl rfl
        · rw [hmore]
          exact .inr ⟨first.toList ++ more, v, rfl, hv⟩
      | refused u =>
        unfold attempt at hfirst
        split at hfirst <;> cases hfirst
      | exhausted => exact .inl rfl

end Window

end MonkeyLang
