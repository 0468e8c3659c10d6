import MonkeyLang.Proofs.Evaluation.ErrorFree
import MonkeyLang.Proofs.Evaluation.Stages
import MonkeyLang.Proofs.Syntax.Concatenation

/-!
# Programs in pieces

A program can be cut into pieces, and the pieces run one behind the other on one interpreter: the
effect is that of the whole program, up to the first piece that fails.  Only a `return` outside all
functions makes a difference, because it ends the whole program, but of the pieces only its own.

What the first piece has printed and logged stands in the state when the whole program goes on, and
does not when the second piece is run by itself.  That evaluation does the same in both states
(`State.behind`) is an agreement of evaluation with itself.
-/

namespace MonkeyLang

/-! ## What was printed and logged before -/

/-- The state, when what another one has printed and logged was there before. -/
def State.behind (s before : State) : State :=
  { s with
    printed := before.printed ++ s.printed
    events := s.events.filter (· ∉ before.events) ++ before.events }

/-- A state is the one that starts printing and logging anew, behind itself. -/
lemma State.behind_self (s : State) :
    State.behind { s with printed := "", events := [] } s = s := by
  simp only [behind, String.append_empty, List.filter_nil, List.nil_append]

lemma State.note_behind (e : Log.Event) (s before : State) :
    (s.note e).behind before = (s.behind before).note e := by
  by_cases hs : e ∈ s.events
  · have hboth : e ∈ (s.behind before).events := by
      by_cases hbefore : e ∈ before.events
      · exact List.mem_append_right _ hbefore
      · exact List.mem_append_left _ (by simpa using ⟨hs, hbefore⟩)
    rw [note, note, if_pos hs, if_pos hboth]
  · by_cases hbefore : e ∈ before.events
    · have hboth : e ∈ (s.behind before).events := List.mem_append_right _ hbefore
      rw [note, note, if_neg hs, if_pos hboth]
      simp [behind, hbefore]
    · have hboth : e ∉ (s.behind before).events := by simp [behind, hs, hbefore]
      rw [note, note, if_neg hs, if_neg hboth]
      simp [behind, hbefore]

/-- The outcome, with another state. -/
def Outcome.mapState {α : Type} (f : State → State) : Outcome α → Outcome α
  | .value a s => .value a (f s)
  | .signal sig s => .signal sig (f s)
  | .exhausted => .exhausted

/-- Two runs do the same, the second one behind what a state has printed and logged. -/
def continuing (before : State) : Correspondence Nat where
  leaves _ := ⟨Eq, fun _ => True⟩
  state _ s s' := s' = s.behind before
  closures_mono _ h := h
  errors_mono _ _ := trivial
  display_eq h := congrArg Closure.display h
  note e h := by rw [h, State.note_behind]
  print _ h := by rw [h, State.behind, State.behind, String.append_assoc]

namespace continuing

variable {before : State} {w : Nat}

lemma values_iff {v v' : Value} : (continuing before).values w v v' ↔ v = v' := by
  constructor
  · exact Value.Related.eq fun _ _ hfg => hfg
  · rintro rfl
    exact Value.Related.refl (fun _ => rfl) (fun _ => trivial) v

lemma options_iff {o o' : Option Value} :
    OptionRelated ((continuing before).values w) o o' ↔ o = o' := by
  constructor
  · rintro (_ | related)
    · rfl
    · rw [values_iff.1 related]
  · rintro rfl
    cases o with
    | none => exact .none
    | some v => exact .some (values_iff.2 rfl)

/-- Code may run in every frame. -/
lemma hosts (i : FrameId) : (continuing before).Hosts id .all w i i where
  lookup name _ := by
    rintro _ _ s _ rfl
    exact .value (le_refl _) rfl (options_iff.2 rfl)
  assign name _ := by
    rintro _ _ v v' hv _ _ s _ rfl
    rw [values_iff.1 hv]
    exact .value (le_refl _) rfl trivial
  make parameters body _ := by
    rintro _ _ s _ rfl
    rw [Ident.mapTokens_id, List.map_id, Block.mapTokens_id]
    exact .value (le_refl _) rfl (values_iff.2 rfl)

lemma enterable : (continuing before).Enterable id := by
  rintro _ f _ rfl
  refine ⟨?_, ?_, .all, f.body.within_all, fun _ _ => trivial, ?_⟩
  · rw [Ident.mapTokens_id, List.map_id]
  · rw [Block.mapTokens_id]
  · rintro _ _ s _ rfl
    exact .value (le_refl _) rfl (hosts _)

end continuing

/-- What was printed and logged before does not influence evaluation. -/
lemma evalStmts_behind (table : BuiltinTable) (depth : Nat) (ss : List Stmt) (scope : FrameId)
    (s before : State) : evalStmts table (apply table depth) ss scope none (s.behind before) =
      (evalStmts table (apply table depth) ss scope none s).mapState (·.behind before) := by
  have hcalls : (continuing before).CallsAgree (apply table depth) (apply table depth) :=
    Correspondence.apply_agree continuing.enterable depth
  have hagree : (continuing before).Agree 0 _ (evalStmts table (apply table depth) ss scope none)
      (evalStmts table (apply table depth) (mapTokensStmts id ss) scope none) :=
    Correspondence.evalStmts_agree hcalls ss (withinStmts_all ss) (continuing.hosts scope) .none
  rw [mapTokensStmts_id] at hagree
  have houtcomes := hagree 0 (le_refl _) s _ rfl
  generalize evalStmts table (apply table depth) ss scope none s = o at houtcomes ⊢
  generalize evalStmts table (apply table depth) ss scope none (s.behind before) = o'
    at houtcomes ⊢
  cases houtcomes with
  | value _ states related => rw [states, continuing.options_iff.1 related, Outcome.mapState]
  | signal _ states related =>
    rw [states, Outcome.mapState]
    cases related with
    | returned related => rw [continuing.values_iff.1 related]
    | failed => rfl
  | exhausted => rfl

/-! ## Statements one behind the other -/

section

variable {table : BuiltinTable} {call : Value → List Value → Eval Value} {scope : FrameId}

/-- The value before the statements is the value only if there are no statements. -/
lemma evalStmts_or (ss : List Stmt) (last : Option Value) :
    evalStmts table call ss scope last = (do
      let o ← evalStmts table call ss scope none
      return o.or last) := by
  rw [evalStmts_eq_evalStages ss last .null, evalStmts_eq_evalStages ss none .null, bind_assoc]
  refine bind_congr fun vs => ?_
  rw [pure_bind, Option.or_none]

end

/-! ## Runs one behind the other -/

/-- The second of two runs, when the first one was before it. -/
def Run.followedBy (r r' : Run (Option Value)) : Run (Option Value) where
  result := r'.result.or r.result
  printed := r.printed ++ r'.printed
  events := r'.events.filter (· ∉ r.events) ++ r.events
  next := { r'.next with state := r'.next.state.behind r.next.state }

namespace Interpreter

variable {i : Interpreter} {depth : Nat} {p : Program} {o : Option Value} {s t : State}
  {sig : Signal}

/-- How the evaluation of the program's statements ends. -/
def outcome (i : Interpreter) (depth : Nat) (p : Program) : Outcome (Option Value) :=
  evalStmts i.builtins (MonkeyLang.apply i.builtins depth) p.statements globalFrame none i.start

/-- The evaluation of the program's statements ends with a `return`. -/
def Returns (i : Interpreter) (depth : Nat) (p : Program) (v : Value) : Prop :=
  ∃ t, i.outcome depth p = .signal (.returned v) t

/-- The evaluation of the program's statements signals an error. -/
def fails (i : Interpreter) (depth : Nat) (p : Program) : Bool :=
  match i.outcome depth p with
  | .signal (.failed _) _ => true
  | _ => false

/-- A program whose first part is left by a signal is left by it. -/
lemma outcome_append_of_signal (h : i.outcome depth p = .signal sig t) (q : Program) :
    i.outcome depth (p.append q) = .signal sig t := by
  rw [outcome, Program.append, evalStmts_append, Eval.bind_apply, ← outcome, h]

/-- A program whose first part has been evaluated goes on as the second part does by itself. -/
lemma outcome_append_of_value (h : i.outcome depth p = .value o s) (q : Program) :
    i.outcome depth (p.append q) =
      match ({ i with state := s }.outcome depth q).mapState (·.behind s) with
      | .value o' t => .value (o'.or o) t
      | .signal sig t => .signal sig t
      | .exhausted => .exhausted := by
  have hstart : { i with state := s }.start.behind s = s := s.behind_self
  rw [outcome, Program.append, evalStmts_append, Eval.bind_apply, ← outcome, h, outcome,
    ← evalStmts_behind, hstart]
  simp only
  rw [evalStmts_or, Eval.bind_apply]
  cases evalStmts i.builtins (MonkeyLang.apply i.builtins depth) q.statements globalFrame none s
    <;> rfl

lemma run_append_of_signal (h : i.outcome depth p = .signal sig t) (q : Program) :
    i.run depth (p.append q) = i.run depth p := by
  rw [run_eq, run_eq, ← outcome, ← outcome, outcome_append_of_signal h q, h]

lemma run_append_of_value (h : i.outcome depth p = .value o s) (q : Program) :
    i.run depth (p.append q) =
      (i.run depth p).bind fun r => (r.next.run depth q).map r.followedBy := by
  rw [run_eq, run_eq, ← outcome, ← outcome, outcome_append_of_value h q, h, Option.bind_some,
    run_eq, ← outcome]
  cases { i with state := s }.outcome depth q with
  | value | exhausted => rfl
  | signal sig t =>
    cases sig with
    | returned => rfl
    | failed e =>
      simp only [Outcome.mapState, Option.map_some, ← State.note_behind]
      rfl

/-- A program that does not signal is followed by any other as if that was run behind it. -/
lemma run_append (hfails : ∀ e, ¬ i.Signals depth p e) (hreturns : ∀ v, ¬ i.Returns depth p v)
    (q : Program) : i.run depth (p.append q) =
      (i.run depth p).bind fun r => (r.next.run depth q).map r.followedBy := by
  cases h : i.outcome depth p with
  | value o s => exact run_append_of_value h q
  | signal sig t =>
    cases sig with
    | returned v => exact absurd ⟨t, h⟩ (hreturns v)
    | failed e => exact absurd ⟨t, h⟩ (hfails e)
  | exhausted =>
    rw [run_eq, run_eq, ← outcome, ← outcome, h, outcome, Program.append, evalStmts_append,
      Eval.bind_apply, ← outcome, h]
    rfl

/-! ## Any number of pieces -/

/-- Runs programs one behind the other, up to the first one that fails. -/
def feed (depth : Nat) : List Program → Interpreter → Option (Run (Option Value))
  | [], i => some ⟨none, "", [], { i with state := i.start }⟩
  | p :: ps, i => do
    let r ← i.run depth p
    if i.fails depth p then return r
    let rest ← feed depth ps r.next
    return r.followedBy rest

end Interpreter

/-- The program that consists of the pieces. -/
def Program.ofPieces (pieces : List Program) : Program := ⟨pieces.flatMap Program.statements⟩

lemma Program.ofPieces_cons (p : Program) (ps : List Program) :
    ofPieces (p :: ps) = p.append (ofPieces ps) := by
  rw [ofPieces, List.flatMap_cons]
  rfl

namespace Interpreter

variable {i : Interpreter} {depth : Nat}

/-- A program that is not left by a `return` may be fed in any pieces. -/
lemma feed_eq_run {pieces : List Program}
    (h : ∀ v, ¬ i.Returns depth (Program.ofPieces pieces) v) :
    i.feed depth pieces = i.run depth (Program.ofPieces pieces) := by
  induction pieces generalizing i with
  | nil =>
    rw [run_eq]
    rfl
  | cons p ps ih =>
    rw [Program.ofPieces_cons] at h ⊢
    cases hp : i.outcome depth p with
    | value o s =>
      have hnext : ∀ v, ¬ { i with state := s }.Returns depth (Program.ofPieces ps) v := by
        rintro v ⟨t, ht⟩
        refine h v ⟨t.behind s, ?_⟩
        rw [outcome_append_of_value hp, ht]
        rfl
      have hfails : i.fails depth p = false := by rw [fails, hp]
      rw [run_append_of_value hp, feed, run_eq, ← outcome, hp, hfails]
      simp only [Option.bind_some, ← ih hnext, Option.map_eq_bind]
      rfl
    | signal sig t =>
      cases sig with
      | returned v => exact absurd ⟨t, outcome_append_of_signal hp _⟩ (h v)
      | failed e =>
        have hfails : i.fails depth p = true := by rw [fails, hp]
        rw [run_append_of_signal hp, feed, hfails, run_eq, ← outcome, hp]
        rfl
    | exhausted =>
      rw [feed, run_eq, run_eq, ← outcome, ← outcome, hp, outcome, Program.append,
        evalStmts_append, Eval.bind_apply, ← outcome, hp]
      rfl

end Interpreter

/-! ## Programs without `return` -/

/-- Outside the bodies of functions the code has no `return`. -/
inductive Code.ReturnFree : Code → Prop
  | intro {c : Code} (other : ∀ token value, c ≠ .statement (.returnStmt token value))
      (parts : ∀ vs d, Stage.part d ∈ c.stages vs → d.ReturnFree) : c.ReturnFree

section

variable {table : BuiltinTable} {call : Value → List Value → Eval Value} {scope : FrameId}

lemma Eval.bind_ne_returned {α β : Type} {m : Eval α} {f : α → Eval β} {s t : State} {v : Value}
    (hm : ∀ t, m s ≠ .signal (.returned v) t)
    (hf : ∀ a s₁, m s = .value a s₁ → ∀ t, f a s₁ ≠ .signal (.returned v) t) :
    (m >>= f) s ≠ .signal (.returned v) t := by
  rw [Eval.bind_apply]
  cases h : m s with
  | value a s₁ => exact hf a s₁ h t
  | signal sig s₁ =>
    intro heq
    injection heq with hsig
    exact hm s₁ (hsig ▸ h)
  | exhausted => nofun

variable {c : Code} {stages : List Stage}

lemma evalName_ne_returned (name : String) (s : State) (v : Value) (t : State) :
    evalName table name scope s ≠ .signal (.returned v) t := by
  refine Eval.bind_ne_returned nofun fun o s₁ _ t => ?_
  cases o with
  | some u => nofun
  | none => cases table.find? name <;> nofun

/-- What code does with the values of its stages is no `return`, unless it is a `return`
statement. -/
lemma Code.conclude_ne_returned
    (hcall : ∀ f args s v t, call f args s ≠ .signal (.returned v) t)
    (hother : ∀ token value, c ≠ .statement (.returnStmt token value)) (vs : List Value)
    (s : State) (v : Value) (t : State) :
    c.conclude table call scope vs s ≠ .signal (.returned v) t := by
  unfold conclude
  split
  all_goals first
    | exact evalName_ne_returned _ s v t
    | exact Eval.ofExcept_ne_returned _ s v t
    | exact hcall _ _ s v t
    | exact absurd rfl (hother _ _)
    | nofun

lemma evalStages_ne_returned {last : Value}
    (h : ∀ d, .part d ∈ stages → ∀ s v t, d.eval table call scope s ≠ .signal (.returned v) t)
    (s : State) (v : Value) (t : State) :
    evalStages table call scope stages last s ≠ .signal (.returned v) t := by
  induction stages generalizing last s t with
  | nil => nofun
  | cons stage stages ih =>
    refine Eval.bind_ne_returned (fun t => ?_) fun u s₁ _ t =>
      Eval.bind_ne_returned (fun t => ih (fun d hd => h d (.tail _ hd)) s₁ t) nofun
    cases stage with
    | part d => exact h d (.head _) s v t
    | keyCheck => exact Eval.bind_ne_returned (fun t => Eval.ofExcept_ne_returned _ s v t) nofun

/-- Code without `return` is not left by one. -/
lemma Code.ReturnFree.eval_ne_returned (h : c.ReturnFree)
    (hcall : ∀ f args s v t, call f args s ≠ .signal (.returned v) t) (s : State) (v : Value)
    (t : State) : c.eval table call scope s ≠ .signal (.returned v) t := by
  induction h generalizing s v t with
  | @intro c other parts ih =>
    rw [c.eval_eq]
    refine Eval.bind_ne_returned (fun t => evalStages_ne_returned (fun d hd s v t => ?_) s v t)
      fun vs s₁ _ t => Eval.bind_ne_returned
        (fun t => evalStages_ne_returned (fun d hd s v t => ?_) s₁ v t)
        fun ws s₂ _ t => conclude_ne_returned hcall other _ s₂ v t
    · exact ih [] d (List.mem_append_left _ hd) s v t
    · exact ih vs d (List.mem_append_right _ hd) s v t

end

namespace Interpreter

variable {i : Interpreter} {depth : Nat} {p : Program}

/-- A program without `return` statements outside of functions is not left by one. -/
lemma not_returns (h : ∀ s ∈ p.statements, (Code.statement s).ReturnFree) (v : Value) :
    ¬ i.Returns depth p v := by
  rintro ⟨t, ht⟩
  rw [outcome, evalStmts_eq_evalStages p.statements none .null] at ht
  refine Eval.bind_ne_returned (fun t => ?_) ?_ ht
  · refine evalStages_ne_returned (fun d hd s v t => ?_) _ v t
    obtain ⟨statement, hmem, hd⟩ := List.mem_map.1 hd
    rw [← Stage.part.inj hd]
    exact (h statement hmem).eval_ne_returned (apply_ne_returned _ _) s v t
  · exact fun _ _ _ _ => nofun

/-- A program that signals does the same in front of any other; otherwise the other is run as if
behind it, and has the result of the first if it is empty.  A program that is not left by a
`return`, so any one without `return` outside of functions, may be fed in any pieces up to the
first that fails. -/
theorem run_in_pieces (i : Interpreter) (depth : Nat) :
    (∀ p, (∃ e, i.Signals depth p e) ∨ (∃ v, i.Returns depth p v) →
      ∀ q, i.run depth (p.append q) = i.run depth p) ∧
    (∀ p, (∀ e, ¬ i.Signals depth p e) → (∀ v, ¬ i.Returns depth p v) →
      ∀ q, i.run depth (p.append q) =
        (i.run depth p).bind fun r => (r.next.run depth q).map r.followedBy) ∧
    (∀ pieces, (∀ v, ¬ i.Returns depth (Program.ofPieces pieces) v) →
      i.feed depth pieces = i.run depth (Program.ofPieces pieces)) ∧
    ∀ p, (∀ s ∈ p.statements, (Code.statement s).ReturnFree) → ∀ v, ¬ i.Returns depth p v := by
  refine ⟨?_, fun p hfails hreturns q => run_append hfails hreturns q, fun pieces => feed_eq_run,
    fun p => not_returns⟩
  rintro p (⟨e, t, ht⟩ | ⟨v, t, ht⟩) q
  · exact run_append_of_signal ht q
  · exact run_append_of_signal ht q

/-- A function that returns, defined in one piece and called in the next, which fails; and a
`return` in the block of a conditional. -/
theorem run_in_pieces_failing :
    let name (n : String) : Expr := .ident ⟨default, n⟩
    let call (f : String) (argument : Expr) : Expr := .call default (name f) [argument]
    let define : Program := ⟨[.letStmt default ⟨default, "f"⟩ (.function default [⟨default, "x"⟩]
      (.mk default [.returnStmt default (name "x")]))]⟩
    let use : Program := ⟨[.exprStmt default (call "puts" (call "f" (.string default "a"))),
      .exprStmt default (.unary default .minus (name "f"))]⟩
    let more : Program := ⟨[.exprStmt default (call "puts" (.string default "b"))]⟩
    let leave : Program := ⟨[.exprStmt default (.conditional default (.boolean default true)
      (.mk default [.returnStmt default (.integer default 7)]) none)]⟩
    (∀ v, ¬ standard.Returns 1 define v) ∧
    standard.run 1 (define.append use) =
      (standard.run 1 define).bind (fun r => (r.next.run 1 use).map r.followedBy) ∧
    standard.feed 1 [define, use, more] =
      standard.run 1 (Program.ofPieces [define, use, more]) ∧
    standard.run 1 (leave.append more) = standard.run 1 leave ∧
    (standard.feed 1 [define, use, more]).map Run.printed = some "a\n" := by
  intro name call define use more leave
  obtain ⟨hsignal, hvalue, hfeed, hfree⟩ := run_in_pieces standard 1
  have hdefine : ∀ v, ¬ standard.Returns 1 define v := by
    refine hfree define fun s hs => ?_
    obtain rfl := List.mem_singleton.1 hs
    refine .intro nofun fun vs d hd => ?_
    obtain rfl := Stage.part.inj (List.mem_singleton.1 hd)
    exact .intro nofun nofun
  refine ⟨hdefine, ?_, ?_, ?_, ?_⟩
  · refine hvalue define ?_ hdefine use
    rintro e ⟨t, ht⟩
    cases ht
  · refine hfeed [define, use, more] ?_
    rintro v ⟨t, ht⟩
    cases ht
  · exact hsignal leave (.inr ⟨.integer 7, _, rfl⟩) more
  · rfl

end Interpreter

end MonkeyLang
