import MonkeyLang.Proofs.Evaluation.Stages

/-!
# The bound on nested calls

An evaluation that ends within its bound ends in the same way within every larger one
(`apply_approximates`).  Only a call of a function looks at the bound, so the argument is an
induction on it; below that, code is evaluated alike wherever calls are, by its stages.
-/

namespace MonkeyLang

/-- Where the first evaluation does not use up its bound, the second one ends in the same way. -/
def Eval.Approximates {α : Type} (m m' : Eval α) : Prop :=
  ∀ s, m s = .exhausted ∨ m' s = m s

namespace Eval.Approximates

variable {α β : Type} {m m' : Eval α}

lemma refl (m : Eval α) : m.Approximates m := fun _ => .inr rfl

lemma exhausted (m : Eval α) : Eval.exhausted.Approximates m := fun _ => .inl rfl

lemma eq_of_ne {s : State} (h : m.Approximates m') (hne : m s ≠ .exhausted) : m' s = m s :=
  (h s).resolve_left hne

lemma bind {f f' : α → Eval β} (h : m.Approximates m') (hf : ∀ a, (f a).Approximates (f' a)) :
    (m >>= f).Approximates (m' >>= f') := by
  intro s
  rw [Eval.bind_apply, Eval.bind_apply]
  rcases h s with hexhausted | heq
  · rw [hexhausted]
    exact .inl rfl
  · rw [heq]
    cases m s with
    | value a t => exact hf a t
    | signal sig t => exact .inr rfl
    | exhausted => exact .inl rfl

lemma catchReturn {m m' : Eval Value} (h : m.Approximates m') :
    m.catchReturn.Approximates m'.catchReturn := by
  intro s
  unfold Eval.catchReturn
  rcases h s with hexhausted | heq
  · rw [hexhausted]
    exact .inl rfl
  · rw [heq]
    exact .inr rfl

end Eval.Approximates

/-! ## Code -/

lemma Block.sizeOf_lt_of_mem {b : Block} {s : Stmt} (h : s ∈ b.statements) :
    sizeOf s < sizeOf b := by
  obtain ⟨_, ss⟩ := b
  have hlt : sizeOf s < sizeOf ss := List.sizeOf_lt_of_mem h
  rw [Block.mk.sizeOf_spec]
  omega

/-- The parts of code are smaller than the code. -/
lemma Code.sizeOf_lt_of_mem_opening {c d : Code} (h : Stage.part d ∈ c.opening) :
    sizeOf d < sizeOf c := by
  match c with
  | .expression (.ident _) | .expression (.boolean _ _) | .expression (.integer _ _)
  | .expression (.string _ _) | .expression (.function _ _ _) => cases h
  | .expression (.unary _ _ _) | .expression (.binary _ _ _ _) | .expression (.index _ _ _)
  | .expression (.conditional _ _ _ _) =>
    simp only [opening, List.mem_cons, List.not_mem_nil, Stage.part.injEq, or_false] at h
    grind
  | .expression (.call _ callee arguments) =>
    obtain ⟨e, he, hd⟩ := List.mem_map.1 h
    have hlt := List.sizeOf_lt_of_mem he
    obtain rfl := Stage.part.inj hd
    simp only [List.cons.sizeOf_spec, expression.sizeOf_spec, Expr.call.sizeOf_spec] at hlt ⊢
    omega
  | .expression (.array _ elements) =>
    obtain ⟨e, he, hd⟩ := List.mem_map.1 h
    have hlt := List.sizeOf_lt_of_mem he
    obtain rfl := Stage.part.inj hd
    simp only [expression.sizeOf_spec, Expr.array.sizeOf_spec]
    omega
  | .expression (.hash _ pairs) =>
    obtain ⟨⟨key, value⟩, hpair, hd⟩ := List.mem_flatMap.1 h
    have hlt := List.sizeOf_lt_of_mem hpair
    rw [Prod.mk.sizeOf_spec] at hlt
    simp only [Stage.ofPair, List.mem_cons, List.not_mem_nil, Stage.part.injEq] at hd
    grind
  | .statement (.letStmt _ _ _) | .statement (.returnStmt _ _) | .statement (.exprStmt _ _) =>
    obtain rfl := Stage.part.inj (List.mem_singleton.1 h)
    rw [expression.sizeOf_spec, statement.sizeOf_spec]
    grind [Stmt.value]

lemma Code.sizeOf_lt_of_mem_chosen {c d : Code} {vs : List Value}
    (h : Stage.part d ∈ c.chosen vs) : sizeOf d < sizeOf c := by
  unfold chosen at h
  split at h
  · next consequence alternative v _ =>
    obtain ⟨s, hs, hd⟩ := List.mem_map.1 h
    obtain rfl := Stage.part.inj hd
    rw [statement.sizeOf_spec, expression.sizeOf_spec, Expr.conditional.sizeOf_spec]
    split at hs
    · have hlt := Block.sizeOf_lt_of_mem hs
      omega
    · cases alternative with
      | none => cases hs
      | some b =>
        have hlt := Block.sizeOf_lt_of_mem hs
        rw [Option.some.sizeOf_spec]
        omega
  · cases h

section

variable {table : BuiltinTable} {call call' : Value → List Value → Eval Value} {scope : FrameId}

lemma evalStages_approximates {stages : List Stage} (last : Value)
    (h : ∀ c, Stage.part c ∈ stages →
      (c.eval table call scope).Approximates (c.eval table call' scope)) :
    (evalStages table call scope stages last).Approximates
      (evalStages table call' scope stages last) := by
  induction stages generalizing last with
  | nil => exact .refl _
  | cons stage stages ih =>
    have hfirst : (stage.eval table call scope last).Approximates
        (stage.eval table call' scope last) := by
      cases stage with
      | part c => exact h c List.mem_cons_self
      | keyCheck => exact .refl _
    rw [evalStages, evalStages]
    refine hfirst.bind fun v => ?_
    exact (ih v fun c hc => h c (List.mem_cons_of_mem _ hc)).bind fun vs => .refl _

/-- What code does behind its stages is to call, or does not depend on calls. -/
lemma Code.conclude_approximates (hcall : ∀ f args, (call f args).Approximates (call' f args))
    (c : Code) (vs : List Value) :
    (c.conclude table call scope vs).Approximates (c.conclude table call' scope vs) := by
  unfold conclude
  split
  case h_9 => exact hcall _ _
  all_goals exact .refl _

lemma Code.eval_approximates (hcall : ∀ f args, (call f args).Approximates (call' f args))
    (c : Code) : (c.eval table call scope).Approximates (c.eval table call' scope) := by
  rw [c.eval_eq, c.eval_eq]
  refine (evalStages_approximates _ fun d hd => ?_).bind fun vs => ?_
  · have hsmaller := sizeOf_lt_of_mem_opening hd
    exact d.eval_approximates hcall
  · refine (evalStages_approximates _ fun d hd => ?_).bind fun ws => ?_
    · have hsmaller := sizeOf_lt_of_mem_chosen hd
      exact d.eval_approximates hcall
    · exact c.conclude_approximates hcall (vs ++ ws)
termination_by sizeOf c

lemma evalBlock_approximates (hcall : ∀ f args, (call f args).Approximates (call' f args))
    (b : Block) : (evalBlock table call b scope).Approximates (evalBlock table call' b scope) := by
  rw [evalBlock_eq_evalStages b .null, evalBlock_eq_evalStages b .null]
  exact (evalStages_approximates _ fun c _ => c.eval_approximates hcall).bind fun vs => .refl _

end

/-! ## Calls -/

/-- A call that ends within a bound ends in the same way within a larger one. -/
theorem apply_approximates (table : BuiltinTable) {depth depth' : Nat} (hle : depth ≤ depth')
    (f : Value) (args : List Value) :
    (apply table depth f args).Approximates (apply table depth' f args) := by
  induction depth generalizing depth' f args with
  | zero =>
    cases f with
    | function g =>
      rw [apply]
      exact .exhausted _
    | _ =>
      simp only [apply]
      exact .refl _
  | succ depth ih =>
    obtain ⟨depth', rfl⟩ := Nat.exists_eq_add_of_le' (Nat.lt_of_lt_of_le depth.succ_pos hle)
    cases f with
    | function g =>
      rw [apply, apply]
      have hcalls : ∀ f args, (apply table depth f args).Approximates
          (apply table depth' f args) := ih (Nat.le_of_succ_le_succ hle)
      refine .catchReturn (.bind (.refl _) fun _ => .bind (.refl _) fun scope => ?_)
      exact .bind (.refl _) fun _ => evalBlock_approximates hcalls g.body
    | _ =>
      simp only [apply]
      exact .refl _

end MonkeyLang
