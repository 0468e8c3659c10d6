import MonkeyLang.Proofs.Evaluation.Realization
import MonkeyLang.Proofs.Evaluation.Visits

/-!
# Iteration over arrays

Programs iterate over an array by a function that calls itself with the rest of it (`Loop`).  The
function finds the callback and itself in the frame that it was made in (`Home`), and the array and
the accumulator in the frame of the call (`Inside`), whatever the callback does: what it writes, it
writes elsewhere (`Home.of_preserved`).

The loop goes in rounds, one for each element and a last one.  If the call of the callback has a
value, a round ends with the call that is the next round (`Round.Ready.exists_next`); if it fails,
the loop ends there and then, in the state that the call leaves (`Round.Ready.failed`).  By induction
on the array, the loop calls the callback as a fold does, and no further than the first call that
fails (`Loop.realizesCalls`).  Behind the last element there is `null` and no array, and its length
is none, too (`Remaining`).
-/

namespace MonkeyLang

/-! ## Names and calls of standard functions -/

/-- A name where it is used. -/
abbrev Expr.named (token : Token) (name : String) : Expr := .ident ⟨token, name⟩

lemma BuiltinTable.find?_standard (p : Primitive) :
    BuiltinTable.standard.find? p.name = some ⟨p.name, p⟩ := by
  cases p <;> decide

section

variable {table : BuiltinTable} {call : Value → List Value → Eval Value} {i : FrameId}
  {s : State} {name : String} {token : Token}

lemma leadsTo_named {v : Value} (h : s.frames.lookup i name = some v) :
    (evalExpr table call (.named token name) i).LeadsTo (pure v) s := by
  refine ⟨s, .refl s, ?_⟩
  rw [evalExpr, evalName, Eval.bind_apply, Eval.lookup, h]

lemma leadsTo_builtin {b : Builtin} (h : s.frames.lookup i name = none)
    (hb : table.find? name = some b) :
    (evalExpr table call (.named token name) i).LeadsTo (pure (.builtin b)) s := by
  refine ⟨s.note .builtinLookup, s.logs_note _, ?_⟩
  rw [evalExpr, evalName, Eval.bind_apply, Eval.lookup, h]
  simp only [hb]
  rfl

/-- A call leads to the call of the callee's value. -/
lemma leadsTo_call {callee : Expr} {arguments : List Expr} {f : Value} {vs : List Value}
    (hcallee : (evalExpr table call callee i).LeadsTo (pure f) s)
    (harguments : ∀ t, s.Logs t → (evalExprs table call arguments i).LeadsTo (pure vs) t) :
    (evalExpr table call (.call token callee arguments) i).LeadsTo (call f vs) s := by
  rw [evalExpr]
  exact hcallee.bind fun t ht => (harguments t ht).bind fun u _ => .refl _ u

lemma leadsTo_exprs_cons {e : Expr} {es : List Expr} {v : Value} {vs : List Value}
    (he : (evalExpr table call e i).LeadsTo (pure v) s)
    (hes : ∀ t, s.Logs t → (evalExprs table call es i).LeadsTo (pure vs) t) :
    (evalExprs table call (e :: es) i).LeadsTo (pure (v :: vs)) s := by
  rw [evalExprs]
  exact he.bind fun t ht => (hes t ht).bind fun u _ => .refl _ u

lemma leadsTo_exprs_nil : (evalExprs table call [] i).LeadsTo (pure []) s := .refl _ s

lemma leadsTo_primitive (depth : Nat) (b : Builtin) (vs : List Value) :
    (apply table depth (.builtin b) vs).LeadsTo (b.primitive.call vs) s := by
  rw [apply]
  exact (Eval.LeadsTo.note _ s).bind fun t _ => .refl _ t

lemma evalBlock_single (t t' : Token) (e : Expr) :
    evalBlock table call (.mk t [.exprStmt t' e]) i = evalExpr table call e i := by
  simp only [evalBlock, evalStmts, evalStmt, bind_assoc, pure_bind, Option.getD_some, bind_pure]

end

/-! ## Frames of calls -/

/-- The bindings with parameters bound to arguments, as far as both go. -/
def Bindings.bindAll : List Ident → List Value → Bindings → Bindings
  | p :: ps, v :: vs, b => bindAll ps vs (b.insert p.name v)
  | _, _, b => b

/-- A binding of the latest frame. -/
lemma Frames.set_push (frames : Frames) (f : Frame) (name : String) (v : Value) :
    Frames.set (frames.push f) frames.size name v =
      frames.push { f with bindings := f.bindings.insert name v } := by
  refine Array.ext_getElem? fun i => ?_
  rw [set, Array.getElem?_modify, Array.getElem?_push, Array.getElem?_push]
  by_cases hi : i = frames.size
  · subst hi
    simp
  · rw [if_neg (Ne.symm hi), if_neg hi, if_neg hi]

lemma bindParameters_push (parameters : List Ident) (args : List Value) (frames : Frames)
    (b : Bindings) (parent : Option FrameId) (s : State) :
    bindParameters frames.size parameters args { s with frames := frames.push ⟨b, parent⟩ } =
      .value () { s with frames := frames.push ⟨b.bindAll parameters args, parent⟩ } := by
  induction parameters generalizing args b with
  | nil => rfl
  | cons p ps ih =>
    cases args with
    | nil => rfl
    | cons v vs =>
      rw [bindParameters, Eval.bind_apply, Eval.assign]
      simp only [Frames.set_push]
      exact ih vs _

/-- A call of a function runs its body in a new frame with the parameters. -/
lemma apply_function_eq (table : BuiltinTable) (depth : Nat) (f : Closure) (args : List Value)
    (s : State) : ∃ t : State,
      apply table (depth + 1) (.function f) args s =
        (evalBlock table (apply table depth) f.body s.frames.size).catchReturn t ∧
      t.frames = s.frames.push ⟨Bindings.bindAll f.parameters args [], some f.scope⟩ ∧
      t.functions = s.functions ∧ t.printed = s.printed := by
  obtain ⟨events, hevents⟩ := s.logs_note .functionCall
  refine ⟨{ s with
    frames := s.frames.push ⟨Bindings.bindAll f.parameters args [], some f.scope⟩
    events := events }, ?_, rfl, rfl, rfl⟩
  have henter : f.enter args s = .value s.frames.size { s with
      frames := s.frames.push ⟨Bindings.bindAll f.parameters args [], some f.scope⟩
      events := events } := by
    rw [Closure.enter, Eval.bind_apply, Eval.note, hevents]
    simp only [Eval.bind_apply, Eval.enter, Frames.child]
    have hbind := bindParameters_push f.parameters args s.frames [] (some f.scope)
      { s with events := events }
    simp only at hbind
    rw [hbind]
    rfl
  rw [apply_function, Eval.catchReturn, Eval.catchReturn, Eval.bind_apply, henter]

/-! ## Loops -/

/-- Names of the standard functions that loops use. -/
def loopBuiltins : List String := ["len", "first", "rest", "push"]

/-- A function of a name, called with the array. -/
def Expr.ofArray (tokens : Nat → Token) (name : String) : Expr :=
  .call (tokens 1) (.named (tokens 0) name) [.named (tokens 2) "arr"]

/-- A function that goes through an array: it calls itself with the rest of the array and with what
the step makes of the accumulator and the first element. -/
structure Loop where
  /-- The tokens of the text, from the `fn` of the function on. -/
  tokens : Nat → Token
  accumulator : String
  step : Expr
  accumulator_fresh : accumulator ∉ ["arr", "f", "iter"] ++ loopBuiltins

namespace Loop

variable (l : Loop)

/-- The tokens from a position on. -/
def tokensFrom (n : Nat) : Nat → Token := fun k => l.tokens (n + k)

def parameters : List Ident := [⟨l.tokens 2, "arr"⟩, ⟨l.tokens 4, l.accumulator⟩]

/-- Whether there are no elements left. -/
def condition : Expr :=
  .binary (l.tokens 13) (.ofArray (l.tokensFrom 9) "len") .eq (.integer (l.tokens 14) 0)

/-- Goes on behind the first element. -/
def next : Expr :=
  .call (l.tokens 22) (.named (l.tokens 21) "iter") [.ofArray (l.tokensFrom 23) "rest", l.step]

def body : Block :=
  .mk (l.tokens 6) [.exprStmt (l.tokens 7) (.conditional (l.tokens 7) l.condition
    (.mk (l.tokens 16) [.exprStmt (l.tokens 17) (.named (l.tokens 17) l.accumulator)])
    (some (.mk (l.tokens 20) [.exprStmt (l.tokens 21) l.next])))]

/-- The function, made in a frame. -/
def closure (identity : Nat) (home : FrameId) : Closure :=
  ⟨identity, l.parameters, l.body, home⟩

lemma bindAll_parameters (arr acc : Value) :
    Bindings.bindAll l.parameters [arr, acc] [] = [("arr", arr), (l.accumulator, acc)] := by
  have hne : "arr" ≠ l.accumulator := by
    rintro heq
    exact l.accumulator_fresh (heq ▸ by decide)
  simp [parameters, Bindings.bindAll, Bindings.insert, hne]

end Loop

/-- A frame that binds the callback and a function to call again, with nothing in the way of the
standard functions. -/
structure Home (frames : Frames) (home : FrameId) (f : Value) (iter : Closure) : Prop where
  outermost : ∃ b, frames[globalFrame]? = some ⟨b, none⟩ ∧ ∀ n ∈ loopBuiltins, b.get? n = none
  frame : ∃ b, frames[home]? = some ⟨b, some globalFrame⟩ ∧ b.get? "f" = some f ∧
    b.get? "iter" = some (.function iter) ∧ ∀ n ∈ loopBuiltins, b.get? n = none

/-- A frame of a call of the function that goes through an array. -/
structure Inside (l : Loop) (frames : Frames) (home here : FrameId) (f : Value) (iter : Closure)
    (arr acc : Value) : Prop where
  ordered : frames.Ordered
  around : Home frames home f iter
  here : frames[here]? = some ⟨[("arr", arr), (l.accumulator, acc)], some home⟩

namespace Home

variable {frames : Frames} {home : FrameId} {f : Value} {iter : Closure}

lemma lt_size (h : Home frames home f iter) : home < frames.size := by
  obtain ⟨b, hb, -⟩ := h.frame
  exact (Array.getElem?_eq_some_iff.1 hb).1

lemma lookup_f (h : Home frames home f iter) (hordered : frames.Ordered) :
    frames.lookup home "f" = some f := by
  obtain ⟨b, hb, hf, -⟩ := h.frame
  rw [Frames.lookup_eq hordered, hb, Option.bind_some, hf, Option.some_or]

lemma lookup_iter (h : Home frames home f iter) (hordered : frames.Ordered) :
    frames.lookup home "iter" = some (.function iter) := by
  obtain ⟨b, hb, -, hiter, -⟩ := h.frame
  rw [Frames.lookup_eq hordered, hb, Option.bind_some, hiter, Option.some_or]

lemma lookup_builtin (h : Home frames home f iter) (hordered : frames.Ordered) {name : String}
    (hname : name ∈ loopBuiltins) : frames.lookup home name = none := by
  obtain ⟨b, hb, -, -, hfree⟩ := h.frame
  obtain ⟨g, hg, hfree'⟩ := h.outermost
  rw [Frames.lookup_eq hordered, hb, Option.bind_some, hfree name hname, Option.none_or,
    Option.bind_some, Frames.lookup_eq hordered, hg, Option.bind_some, hfree' name hname]
  rfl

/-- Other frames may be written to. -/
theorem of_preserved {frames' : Frames} {here : FrameId} (h : Home frames home f iter)
    (hkept : Preserved frames (· = here) frames') (hhere : home < here) :
    Home frames' home f iter := by
  have hsame : ∀ j g, j ≤ home → frames[j]? = some g → frames'[j]? = some g := by
    intro j g hj hg
    obtain ⟨hlt, -⟩ := Array.getElem?_eq_some_iff.1 hg
    rw [hkept.frame j hlt (Nat.ne_of_lt (Nat.lt_of_le_of_lt hj hhere)), hg]
  obtain ⟨⟨b, hb, hfree⟩, g, hg, hrest⟩ := h
  exact ⟨⟨b, hsame _ _ (Nat.zero_le _) hb, hfree⟩, g, hsame _ _ (le_refl _) hg, hrest⟩

end Home

namespace Inside

variable {l : Loop} {frames : Frames} {home here : FrameId} {f : Value} {iter : Closure}
  {arr acc : Value}

lemma lookup_arr (h : Inside l frames home here f iter arr acc) :
    frames.lookup here "arr" = some arr := by
  rw [Frames.lookup_eq h.ordered, h.here]
  rfl

lemma lookup_accumulator (h : Inside l frames home here f iter arr acc) :
    frames.lookup here l.accumulator = some acc := by
  have hne : "arr" ≠ l.accumulator := by
    rintro heq
    exact l.accumulator_fresh (heq ▸ by decide)
  rw [Frames.lookup_eq h.ordered, h.here]
  simp [Bindings.get?, hne]

/-- Other names are looked up around the loop. -/
lemma lookup_other (h : Inside l frames home here f iter arr acc) {name : String}
    (hname : name ∈ ["f", "iter"] ++ loopBuiltins) :
    frames.lookup here name = frames.lookup home name := by
  have hne : l.accumulator ≠ name := by
    rintro rfl
    exact l.accumulator_fresh (List.mem_cons_of_mem _ hname)
  have harr : "arr" ≠ name := by
    rintro rfl
    revert hname
    decide
  rw [Frames.lookup_eq h.ordered, h.here]
  simp [Bindings.get?, hne, harr]

variable {s : State} {depth : Nat} {token : Token}

lemma logs {t : State} (h : Inside l s.frames home here f iter arr acc) (ht : s.Logs t) :
    Inside l t.frames home here f iter arr acc := by
  rwa [ht.frames_eq]

/-- A name of the frame around the loop. -/
lemma leadsTo_callee (h : Inside l s.frames home here f iter arr acc) :
    (evalExpr .standard (apply .standard depth) (.named token "f") here).LeadsTo (pure f) s :=
  leadsTo_named ((h.lookup_other (by decide)).trans (h.around.lookup_f h.ordered))

lemma leadsTo_iter (h : Inside l s.frames home here f iter arr acc) :
    (evalExpr .standard (apply .standard depth) (.named token "iter") here).LeadsTo
      (pure (.function iter)) s :=
  leadsTo_named ((h.lookup_other (by decide)).trans (h.around.lookup_iter h.ordered))

lemma leadsTo_primitive (h : Inside l s.frames home here f iter arr acc) {p : Primitive}
    (hp : p.name ∈ loopBuiltins) :
    (evalExpr .standard (apply .standard depth) (.named token p.name) here).LeadsTo
      (pure (.builtin ⟨p.name, p⟩)) s :=
  leadsTo_builtin
    ((h.lookup_other (List.mem_append_right _ hp)).trans (h.around.lookup_builtin h.ordered hp))
    (BuiltinTable.find?_standard p)

lemma leadsTo_ofArray (h : Inside l s.frames home here f iter arr acc) {p : Primitive}
    (hp : p.name ∈ loopBuiltins) (tokens : Nat → Token) :
    (evalExpr .standard (apply .standard depth) (.ofArray tokens p.name) here).LeadsTo
      (p.call [arr]) s := by
  refine (leadsTo_call (h.leadsTo_primitive hp) fun t ht => ?_).trans fun t _ =>
    MonkeyLang.leadsTo_primitive depth _ _
  refine leadsTo_exprs_cons (leadsTo_named ?_) fun u _ => leadsTo_exprs_nil
  exact (h.logs ht).lookup_arr

end Inside

/-! ## Elements that are left -/

/-- The value stands for the elements: it is their array, or `null` if there are none. -/
inductive Remaining : Value → List Value → Prop where
  | array {vs : List Value} : Remaining (.array vs) vs
  | null : Remaining .null []

lemma Remaining.tail (v : Value) (vs : List Value) : Remaining (Primitive.tail (v :: vs)) vs := by
  cases vs with
  | nil => exact .null
  | cons w ws => exact .array

/-- Positions in an array are machine words, so that its length is told from none. -/
lemma Remaining.length {arr : Value} {vs : List Value} (h : Remaining arr vs)
    (hlength : vs.length < Int64.size) : ∃ n : Int64, Primitive.length arr = .ok (.integer n) ∧
      (n = 0 ↔ vs = []) := by
  cases h with
  | null => exact ⟨0, rfl, by simp⟩
  | array =>
    refine ⟨_, rfl, ?_⟩
    rw [← List.length_eq_zero_iff, ← Int64.toBitVec_inj, Int64.toBitVec_ofNat', ← BitVec.toNat_inj]
    rw [BitVec.toNat_ofNat, Nat.mod_eq_of_lt hlength]
    rfl

namespace Inside

variable {l : Loop} {s : State} {home here : FrameId} {f : Value} {iter : Closure}
  {arr acc : Value} {depth : Nat} {vs : List Value}

lemma leadsTo_condition (h : Inside l s.frames home here f iter arr acc)
    (hvs : Remaining arr vs) (hlength : vs.length < Int64.size) :
    (evalExpr .standard (apply .standard depth) l.condition here).LeadsTo
      (pure (.boolean (vs = []))) s := by
  obtain ⟨n, hn, hzero⟩ := hvs.length hlength
  have hcall : Primitive.len.call [arr] = pure (.integer n) := by
    rw [Primitive.call, Primitive.oneArgument]
    exact congrArg Eval.ofExcept hn
  have hlen : (evalExpr .standard (apply .standard depth) (.ofArray (l.tokensFrom 9) "len")
      here).LeadsTo (pure (.integer n)) s :=
    hcall ▸ h.leadsTo_ofArray (p := .len) (by decide) _
  rw [Loop.condition, evalExpr]
  refine hlen.bind fun t _ => ?_
  simp only [evalExpr, pure_bind, BinaryOp.apply, BinaryOp.applyIntegers, hzero]
  exact .refl _ t

/-- Without elements the loop ends with the accumulator. -/
lemma leadsTo_end (h : Inside l s.frames home here f iter arr acc) (hvs : Remaining arr [])
    (depth : Nat) :
    (evalBlock .standard (apply .standard depth) l.body here).LeadsTo (pure acc) s := by
  rw [Loop.body, evalBlock_single, evalExpr]
  refine (h.leadsTo_condition hvs (by decide)).bind fun t ht => ?_
  rw [if_pos (by simp [Value.isTruthy]), evalBlock_single]
  exact leadsTo_named (h.logs ht).lookup_accumulator

/-- With elements the loop goes on behind the step. -/
lemma leadsTo_next {v : Value} (h : Inside l s.frames home here f iter (.array (v :: vs)) acc)
    (hlength : (v :: vs).length < Int64.size) (depth : Nat) :
    (evalBlock .standard (apply .standard depth) l.body here).LeadsTo (do
      let acc' ← evalExpr .standard (apply .standard depth) l.step here
      apply .standard depth (.function iter) [Primitive.tail (v :: vs), acc']) s := by
  rw [Loop.body, evalBlock_single, evalExpr]
  refine (h.leadsTo_condition .array hlength).bind fun t ht => ?_
  rw [if_neg (by simp [Value.isTruthy]), evalAlternative, evalBlock_single, Loop.next, evalExpr]
  refine (h.logs ht).leadsTo_iter.bind fun u hu => ?_
  simp only [evalExprs, bind_assoc, pure_bind]
  have hrest : (evalExpr .standard (apply .standard depth) (.ofArray (l.tokensFrom 23) "rest")
      here).LeadsTo (pure (Primitive.tail (v :: vs))) u :=
    ((h.logs ht).logs hu).leadsTo_ofArray (p := .rest) (by decide) _
  exact hrest.bind fun t' _ => .refl _ t'

end Inside

/-! ## Rounds of a loop -/

/-- The call of a function never comes to a `return`, so that there is none to catch. -/
lemma Eval.catchReturn_eq_apply {m : Eval Value} {table : BuiltinTable} {depth : Nat} {f : Value}
    {args : List Value} {s t : State} (h : m s = apply table depth f args t) :
    m.catchReturn s = apply table depth f args t := by
  rw [catchReturn, h]
  split
  · next v u hreturned => exact absurd hreturned (apply_ne_returned table depth f args t v u)
  · rfl

lemma Eval.catchReturn_failed {m : Eval Value} {e : RuntimeError} {s t : State}
    (h : m s = .signal (.failed e) t) : m.catchReturn s = .signal (.failed e) t := by
  rw [catchReturn, h]

/-- Calls a callback with arguments made of the accumulator and an element, and makes the next
accumulator of what the call comes to. -/
def advance (d : Nat) (f : Value) (args : Value → Value → List Value)
    (finish : Value → Value → Eval Value) (acc v : Value) : Eval Value := do
  finish acc (← apply .standard d f (args acc v))

/-- The step of a loop calls the callback, and makes the next accumulator of what the call comes to.
The arguments are `args acc v` for the accumulator and the first element.  What is made of them is
`finish' acc x`, and but for numbers and the log that is `finish acc x`. -/
structure Loop.StepCalls (l : Loop) (args : Value → Value → List Value)
    (finish finish' : Value → Value → Eval Value) : Prop where
  leadsTo : ∀ {s : State} {home here : FrameId} {f : Value} {iter : Closure} {v acc : Value}
    {vs : List Value} (depth : Nat), Inside l s.frames home here f iter (.array (v :: vs)) acc →
      (evalExpr .standard (apply .standard depth) l.step here).LeadsTo
        (advance depth f args finish' acc v) s
  args_related : ∀ {leaves : Leaves} {v v' acc acc' : Value}, v.Related leaves v' →
    acc.Related leaves acc' → RelatedElements leaves (args acc v) (args acc' v')
  finish_agrees : ∀ {others : Extent} {N : Numbering} {acc acc' x x' : Value},
    acc.Related N.leaves acc' → x.Related N.leaves x' →
      (numbering others).Agree N (numbering others).values (finish acc x) (finish' acc' x')

/-- A call of a loop: what is left of the array, the accumulator, and the state. -/
structure Round where
  rest : Value
  accumulator : Value
  state : State

namespace Round

/-- How the call ends. -/
def outcome (r : Round) (l : Loop) (identity : Nat) (home : FrameId) (depth : Nat) :
    Outcome Value :=
  apply .standard depth (.function (l.closure identity home)) [r.rest, r.accumulator] r.state

/-- The round is about to go through elements that correspond to `vs`, with an accumulator and in a
state that correspond to `acc` and `s`. -/
structure Ready (r : Round) (l : Loop) (identity : Nat) (home : FrameId) (f : Value)
    (others : Extent) (N : Numbering) (vs : List Value) (acc : Value) (s : State) : Prop where
  states : NumberedStates others N s r.state
  around : Home r.state.frames home f (l.closure identity home)
  elements : ∃ vs', RelatedElements N.leaves vs vs' ∧ Remaining r.rest vs' ∧
    vs'.length < Int64.size
  accumulator : acc.Related N.leaves r.accumulator

end Round

/-- In the frame of a call the loop is inside. -/
lemma Loop.inside_push (l : Loop) {frames : Frames} {home : FrameId} {f : Value} {iter : Closure}
    (arr acc : Value) (hordered : frames.Ordered) (hhome : Home frames home f iter) :
    Inside l (frames.push ⟨[("arr", arr), (l.accumulator, acc)], some home⟩) home frames.size f
      iter arr acc where
  ordered := hordered.push fun _ hp => Option.some.inj hp ▸ hhome.lt_size
  around := hhome.of_preserved ((Preserved.refl frames _).push _) hhome.lt_size
  here := Array.getElem?_push_size

namespace Round.Ready

variable {r : Round} {l : Loop} {identity : Nat} {home : FrameId} {f f' : Value} {others : Extent}
  {N : Numbering} {v acc b : Value} {vs : List Value} {s t : State} {depth d : Nat}
  {args : Value → Value → List Value} {finish finish' : Value → Value → Eval Value}

/-- A round runs the body of the loop inside, in a frame that the call makes. -/
lemma exists_inside (h : r.Ready l identity home f' others N vs acc s) (depth : Nat) :
    ∃ N' t, N ≤ N' ∧ NumberedStates (others.plus ⟨1, 0⟩) N' s t ∧
      Inside l t.frames home r.state.frames.size f' (l.closure identity home) r.rest
        r.accumulator ∧
      r.outcome l identity home (depth + 1) =
        (evalBlock .standard (apply .standard depth) l.body r.state.frames.size).catchReturn t := by
  obtain ⟨t, hcall, hframes, hfunctions, hprinted⟩ := apply_function_eq .standard depth
    (l.closure identity home) [r.rest, r.accumulator] r.state
  rw [Loop.closure, Loop.bindAll_parameters] at hframes
  have hinside :=
    Loop.inside_push l r.rest r.accumulator h.states.frames.ordered' h.around
  rw [← hframes] at hinside
  have hkept : Preserved r.state.frames (fun _ => False) t.frames :=
    hframes ▸ (Preserved.refl r.state.frames _).push _
  have hmade : t.extent = s.extent.plus (others.plus ⟨1, 0⟩) := by
    rw [← Extent.plus_assoc, ← h.states.made', State.extent, hframes, hfunctions, Array.size_push]
    rfl
  obtain ⟨N', hle, ht⟩ :=
    h.states.beside hkept hinside.ordered (Nat.le_of_eq hfunctions.symm) hprinted hmade
  exact ⟨N', t, hle, ht, hinside, hcall⟩

/-- Without elements there is one round, and it ends with the accumulator. -/
lemma finished (h : r.Ready l identity home f' others N [] acc s) (depth : Nat) :
    ∃ N' t, N ≤ N' ∧ NumberedStates (others.plus ⟨1, 0⟩) N' s t ∧
      acc.Related N'.leaves r.accumulator ∧
      r.outcome l identity home (depth + 1) = .value r.accumulator t := by
  obtain ⟨vs', hvs, hremaining, -⟩ := h.elements
  cases hvs
  obtain ⟨N', u, hN', hu, hinside, hcall⟩ := h.exists_inside depth
  obtain ⟨t, ht, hbody⟩ := hinside.leadsTo_end hremaining depth
  refine ⟨N', t, hN', hu.logs ht, (numbering others).values_mono hN' h.accumulator, ?_⟩
  rw [hcall, Eval.catchReturn, hbody]
  rfl

/-- The step of a round comes to the call of the callback, in a state in which the round has made
its frame. -/
lemma exists_called (h : r.Ready l identity home f' others N (v :: vs) acc s)
    (hcalls : l.StepCalls args finish finish') (depth : Nat) :
    ∃ N' v' vs' t u, N ≤ N' ∧ v.Related N'.leaves v' ∧
      RelatedElements N'.leaves vs vs' ∧ vs'.length < Int64.size ∧
      Inside l t.frames home r.state.frames.size f' (l.closure identity home) r.rest
        r.accumulator ∧
      NumberedStates (others.plus ⟨1, 0⟩) N' s u ∧
      evalExpr .standard (apply .standard depth) l.step r.state.frames.size t =
        advance depth f' args finish' r.accumulator v' u ∧
      r.outcome l identity home (depth + 1) =
        Eval.catchReturn (do
          let acc' ← evalExpr .standard (apply .standard depth) l.step r.state.frames.size
          apply .standard depth (.function (l.closure identity home))
            [Primitive.tail (v' :: vs'), acc']) t := by
  obtain ⟨_, hvs, hremaining, hlength⟩ := h.elements
  cases hvs with
  | @cons _ v' _ vs' first others' =>
    obtain ⟨rest, acc', state⟩ := r
    cases hremaining
    obtain ⟨N', w, hN', hw, hinside, hcall⟩ := h.exists_inside depth
    obtain ⟨t, ht, hbody⟩ := hinside.leadsTo_next hlength depth
    have hinside := hinside.logs ht
    obtain ⟨u, hu, hstep⟩ := hcalls.leadsTo depth hinside
    refine ⟨N', v', vs', t, u, hN', (numbering others).values_mono hN' first,
      (numbering others).lists_mono hN' others', Nat.lt_of_succ_lt hlength, hinside,
      (hw.logs ht).logs hu, hstep, ?_⟩
    rw [hcall, Eval.catchReturn, hbody]
    rfl

/-- Where the callback has a value, a round ends with the next one. -/
theorem exists_next (h : r.Ready l identity home f' others N (v :: vs) acc s)
    (hcalls : l.StepCalls args finish finish') (hf : f.Related N.leaves f') (hdepth : d ≤ depth)
    (hnext : advance d f args finish acc v s = .value b t) :
    ∃ N' r', N ≤ N' ∧ Ready r' l identity home f' (others.plus ⟨1, 0⟩) N' vs b t ∧
      r.outcome l identity home (depth + 1) = r'.outcome l identity home depth := by
  obtain ⟨N₁, v', vs', u, u₁, hN₁, hv, hvs, hlength, hinside, hs₁, hstep, hround⟩ :=
    h.exists_called hcalls depth
  have hacc := (numbering others).values_mono hN₁ h.accumulator
  have hf₁ := (numbering others).values_mono hN₁ hf
  obtain ⟨x, s₂, hx, hfinish⟩ := Eval.bind_eq_value_iff.1 hnext
  obtain ⟨N₂, x', u₂, hN₂, hx', hs₂, hxx'⟩ :=
    numbering.exists_apply_value hdepth hs₁ hf₁ (hcalls.args_related hv hacc) hx
  obtain ⟨N₃, b', u₃, hN₃, hb', hs₃, hbb'⟩ := numbering.exists_value
    (hcalls.finish_agrees ((numbering others).values_mono hN₂ hacc) hxx') hs₂ hfinish
  have hvalue : evalExpr .standard (apply .standard depth) l.step r.state.frames.size u =
      .value b' u₃ := by
    rw [hstep, advance, Eval.bind_apply, hx']
    exact hb'
  -- The step has written in the frame of this round only, and in new ones.
  have hkept := preserved_evalExpr (.inl ⟨b', hvalue⟩)
  have hN := le_trans hN₂ hN₃
  refine ⟨N₃, ⟨Primitive.tail (v' :: vs'), b', u₃⟩, le_trans hN₁ hN, ⟨hs₃, ?_, ?_, hbb'⟩, ?_⟩
  · exact hinside.around.of_preserved hkept h.around.lt_size
  · exact ⟨vs', (numbering others).lists_mono hN hvs, .tail v' vs', hlength⟩
  · rw [hround]
    refine Eval.catchReturn_eq_apply ?_
    rw [Eval.bind_apply, hvalue]

/-- Where the callback fails, a round comes to the call and ends in the state that the call leaves. -/
theorem failed {e : RuntimeError} (h : r.Ready l identity home f' others N (v :: vs) acc s)
    (hcalls : l.StepCalls args finish finish') (hf : f.Related N.leaves f') (hdepth : d ≤ depth)
    (hfails : apply .standard d f (args acc v) s = .signal (.failed e) t) :
    ∃ N₁ N₂ args' u u', N ≤ N₁ ∧ N₁ ≤ N₂ ∧ NumberedStates (others.plus ⟨1, 0⟩) N₁ s u ∧
      RelatedElements N₁.leaves (args acc v) args' ∧
      apply .standard depth f' args' u = .signal (.failed e) u' ∧
      r.outcome l identity home (depth + 1) = .signal (.failed e) u' ∧
      NumberedStates (others.plus ⟨1, 0⟩) N₂ t u' := by
  obtain ⟨N₁, v', vs', w, u, hN₁, hv, -, -, -, hs₁, hstep, hround⟩ :=
    h.exists_called hcalls depth
  have hacc := (numbering others).values_mono hN₁ h.accumulator
  have hargs := hcalls.args_related hv hacc
  obtain ⟨N₂, u', hN₂, he, ht⟩ := numbering.exists_apply_failed hdepth hs₁
    ((numbering others).values_mono hN₁ hf) hargs hfails
  refine ⟨N₁, N₂, _, u, u', hN₁, hN₂, hs₁, hargs, he, ?_, ht⟩
  rw [hround]
  refine Eval.catchReturn_failed ?_
  rw [Eval.bind_apply, hstep, advance, Eval.bind_apply, he]

/-- Behind elements for which the callback has values the loop stands before the others. -/
lemma exists_behind {before after : List Value}
    (h : r.Ready l identity home f' others N (before ++ after) acc s)
    (hcalls : l.StepCalls args finish finish') (hf : f.Related N.leaves f') (hdepth : d ≤ depth)
    (hbefore : before.foldlM (advance d f args finish) acc s = .value b t) :
    ∃ N' r', N ≤ N' ∧ Ready r' l identity home f' (others.plus ⟨before.length, 0⟩) N' after b t ∧
      r.outcome l identity home (before.length + depth) = r'.outcome l identity home depth := by
  induction before generalizing r acc others N s with
  | nil =>
    obtain ⟨rfl, rfl⟩ : acc = b ∧ s = t := by
      injection hbefore with hacc hs
      exact ⟨hacc, hs⟩
    refine ⟨N, r, le_refl N, h, ?_⟩
    rw [List.length_nil, Nat.zero_add]
  | cons v before ih =>
    rw [List.foldlM_cons] at hbefore
    obtain ⟨acc₁, s₁, hnext, hbefore⟩ := Eval.bind_eq_value_iff.1 hbefore
    obtain ⟨N₁, r₁, hN₁, h₁, hround⟩ :=
      h.exists_next hcalls hf (Nat.le_add_left_of_le hdepth) hnext
    obtain ⟨N₂, r₂, hN₂, h₂, hrounds⟩ := ih h₁ ((numbering others).values_mono hN₁ hf) hbefore
    have hothers : (others.plus ⟨1, 0⟩).plus ⟨before.length, 0⟩ =
        others.plus ⟨(v :: before).length, 0⟩ := by
      rw [Extent.plus_assoc, List.length_cons]
      exact congrArg (fun n => others.plus ⟨n, 0⟩) (Nat.add_comm 1 _)
    refine ⟨N₂, r₂, le_trans hN₁ hN₂, hothers ▸ h₂, ?_⟩
    rw [List.length_cons, Nat.add_right_comm, hround, hrounds]

end Round.Ready

/-! ## Functions that start a loop -/

/-- A global function that makes the loop and calls it with the array and a first value of the
accumulator.  The tokens are those from the opening brace on and those from the call on. -/
def Loop.starter (l : Loop) (parameters : List Ident) (opening closing : Nat → Token) (start : Expr)
    (identity : Nat) : Closure where
  identity := identity
  parameters := parameters
  body := .mk (opening 0) [
    .letStmt (opening 1) ⟨opening 2, "iter"⟩ (.function (l.tokens 0) l.parameters l.body),
    .exprStmt (closing 0)
      (.call (closing 1) (.named (closing 0) "iter") [.named (closing 2) "arr", start])]
  scope := globalFrame

section

variable {table : BuiltinTable} {call : Value → List Value → Eval Value} {i : FrameId}

lemma evalBlock_let (t t₁ t₂ : Token) (x : Ident) (e e' : Expr) :
    evalBlock table call (.mk t [.letStmt t₁ x e, .exprStmt t₂ e']) i = (do
      let v ← evalExpr table call e i
      Eval.assign i x.name v
      evalExpr table call e' i) := by
  simp only [evalBlock, evalStmts, evalStmt, bind_assoc, pure_bind, Option.getD_some, bind_pure]

end

/-- What the frame of a call that starts a loop binds. -/
structure Starting (b : Bindings) (f arr : Value) : Prop where
  callee : b.get? "f" = some f
  array : b.get? "arr" = some arr
  free : ∀ n ∈ loopBuiltins, b.get? n = none

namespace Loop

variable {l : Loop} {others : Extent} {N : Numbering} {s s' : State} {f f' arr : Value}
  {depth : Nat} {b : Bindings}

/-- The frame of a call that starts a loop, once it binds the loop, is around the loop. -/
lemma home_push {frames : Frames} {iter : Closure} (hstart : Starting b f arr)
    (houtermost : ∃ b, frames[globalFrame]? = some ⟨b, none⟩ ∧
      ∀ n ∈ loopBuiltins, b.get? n = none) :
    Home (frames.push ⟨b.insert "iter" (.function iter), some globalFrame⟩) frames.size f iter where
  outermost := by
    obtain ⟨g, hg, hfree⟩ := houtermost
    refine ⟨g, ?_, hfree⟩
    rw [Array.getElem?_push, if_neg, hg]
    exact Nat.ne_of_lt (Array.getElem?_eq_some_iff.1 hg).1
  frame := by
    refine ⟨_, Array.getElem?_push_size, ?_, ?_, fun n hn => ?_⟩
    · rw [Bindings.get?_insert, if_neg (by decide), hstart.callee]
    · rw [Bindings.get?_insert, if_pos rfl]
    · have hne : "iter" ≠ n := by
        rintro rfl
        revert hn
        decide
      rw [Bindings.get?_insert, if_neg hne, hstart.free n hn]

/-- A call of a function that starts a loop makes a frame and the loop, and comes to the call of the
loop. -/
lemma exists_around (l : Loop) (parameters : List Ident) (opening closing : Nat → Token)
    (start : Expr) (identity depth : Nat) {args : List Value} (hs : NumberedStates others N s s')
    (hglobal : globalFrame < s'.frames.size) (hbindings : Bindings.bindAll parameters args [] = b) :
    ∃ N' u made, N ≤ N' ∧ NumberedStates (others.plus ⟨1, 1⟩) N' s u ∧
      u.frames = s'.frames.push ⟨b.insert "iter" (.function (l.closure made s'.frames.size)),
        some globalFrame⟩ ∧
      apply .standard (depth + 1) (.function (l.starter parameters opening closing start identity))
          args s' =
        (evalExpr .standard (apply .standard depth) (.call (closing 1) (.named (closing 0) "iter")
          [.named (closing 2) "arr", start]) s'.frames.size).catchReturn u := by
  obtain ⟨t, hcall, hframes, hfunctions, hprinted⟩ := apply_function_eq .standard depth
    (l.starter parameters opening closing start identity) args s'
  rw [starter, hbindings] at hframes
  let iter : Value := .function (l.closure t.functions s'.frames.size)
  let u : State := { t with
    frames := s'.frames.push ⟨b.insert "iter" iter, some globalFrame⟩
    functions := t.functions + 1 }
  have hordered : u.frames.Ordered :=
    hs.frames.ordered'.push fun _ hp => Option.some.inj hp ▸ hglobal
  have hmade : u.extent = s.extent.plus (others.plus ⟨1, 1⟩) := by
    rw [← Extent.plus_assoc, ← hs.made', State.extent, Array.size_push]
    exact congrArg (fun n => Extent.mk (s'.frames.size + 1) (n + 1)) hfunctions
  obtain ⟨N', hle, hu⟩ := hs.beside ((Preserved.refl s'.frames _).push _) hordered
    (hfunctions ▸ Nat.le_succ _) hprinted hmade
  refine ⟨N', u, t.functions, hle, hu, rfl, hcall.trans ?_⟩
  rw [Eval.catchReturn, Eval.catchReturn, starter, evalBlock_let, evalExpr, Eval.bind_apply,
    Eval.makeFunction]
  simp only [Eval.bind_apply, Eval.assign, hframes, Frames.set_push]
  rfl

/-- A function that starts a loop comes to its first round. -/
lemma exists_round {parameters : List Ident} {opening closing : Nat → Token} {start : Expr}
    {identity : Nat} {args vs vs' : List Value} {z z' : Value} (hs : NumberedStates others N s s')
    (houtermost : ∃ b, s'.frames[globalFrame]? = some ⟨b, none⟩ ∧
      ∀ n ∈ loopBuiltins, b.get? n = none)
    (hbindings : Bindings.bindAll parameters args [] = b) (hstart : Starting b f' (.array vs'))
    (hvs : RelatedElements N.leaves vs vs') (hz : z.Related N.leaves z')
    (hinitial : ∀ (t : State) (iter : Value), t.frames.Ordered →
      t.frames[s'.frames.size]? = some ⟨b.insert "iter" iter, some globalFrame⟩ →
      (evalExpr .standard (apply .standard depth) start s'.frames.size).LeadsTo (pure z') t)
    (hlength : vs'.length < Int64.size) :
    ∃ N' r made, N ≤ N' ∧
      Round.Ready r l made s'.frames.size f' (others.plus ⟨1, 1⟩) N' vs z s ∧
      apply .standard (depth + 1)
          (.function (l.starter parameters opening closing start identity)) args s' =
        r.outcome l made s'.frames.size depth := by
  have hglobal : globalFrame < s'.frames.size := by
    obtain ⟨b, hb, -⟩ := houtermost
    exact (Array.getElem?_eq_some_iff.1 hb).1
  obtain ⟨N', u, made, hle, hu, hframes, hcall⟩ :=
    exists_around l parameters opening closing start identity depth hs hglobal hbindings
  have hordered : u.frames.Ordered := hu.frames.ordered'
  have hhome : Home u.frames s'.frames.size f' (l.closure made s'.frames.size) :=
    hframes ▸ home_push hstart houtermost
  have hframe : u.frames[s'.frames.size]? = some
      ⟨b.insert "iter" (.function (l.closure made s'.frames.size)), some globalFrame⟩ :=
    hframes ▸ Array.getElem?_push_size
  have harr : u.frames.lookup s'.frames.size "arr" = some (.array vs') := by
    rw [Frames.lookup_eq hordered, hframe, Option.bind_some, Bindings.get?_insert,
      if_neg (by decide), hstart.array, Option.some_or]
  have hargs : ∀ v, u.Logs v → (evalExprs .standard (apply .standard depth)
      [.named (closing 2) "arr", start] s'.frames.size).LeadsTo (pure [.array vs', z']) v := by
    intro v hv
    refine leadsTo_exprs_cons (leadsTo_named (hv.frames_eq ▸ harr)) fun w hw => ?_
    rw [← hv.frames_eq, ← hw.frames_eq] at hordered hframe
    exact leadsTo_exprs_cons (hinitial w _ hordered hframe) fun _ _ => leadsTo_exprs_nil
  obtain ⟨v, hv, hround⟩ : (evalExpr .standard (apply .standard depth)
      (.call (closing 1) (.named (closing 0) "iter") [.named (closing 2) "arr", start])
      s'.frames.size).LeadsTo _ u :=
    leadsTo_call (leadsTo_named (hhome.lookup_iter hordered)) hargs
  refine ⟨N', ⟨.array vs', z', v⟩, made, hle, ⟨hu.logs hv, hv.frames_eq ▸ hhome, ?_, ?_⟩, ?_⟩
  · exact ⟨vs', (numbering others).lists_mono hle hvs, .array, hlength⟩
  · exact (numbering others).values_mono hle hz
  · rw [hcall]
    exact Eval.catchReturn_eq_apply hround

end Loop

/-! ## Calls with the elements of an array -/

/-- From `s` the evaluation does what calls of `f` with the elements `vs`, one after the other, do
from `s`.  The calls for elements `us` are `calls us`; what they come to stands for the value
`result r`, and the arguments for one more element `v` are `args r v`.

Calls may be nested up to `d` there, and more deeply in the evaluation.  Besides what the calls make,
the evaluation makes one function, and two frames and one for each element that it comes to. -/
structure RealizesCalls {α : Type} (d : Nat) (f : Value) (args : α → Value → List Value)
    (calls : List Value → Eval α) (result : α → Value) (vs : List Value) (m : Eval Value)
    (s : State) : Prop where
  /-- If all calls have values, the evaluation has the value that stands for them. -/
  value : ∀ r t, calls vs s = .value r t →
    ∃ N v t', Numbering.same s.extent ≤ N ∧ m s = .value v t' ∧
      NumberedStates ⟨vs.length + 2, 1⟩ N t t' ∧ (result r).Related N.leaves v
  /-- If a call fails, the evaluation comes to it behind the calls before, and the state that the
  call leaves is the state in which the evaluation fails. -/
  failed : ∀ before v after r t e t₁, vs = before ++ v :: after → calls before s = .value r t →
    apply .standard d f (args r v) t = .signal (.failed e) t₁ →
    ∃ N N₁ depth args' u u₁, Numbering.same s.extent ≤ N ∧ N ≤ N₁ ∧
      NumberedStates ⟨before.length + 2, 1⟩ N t u ∧ RelatedElements N.leaves (args r v) args' ∧
      apply .standard depth f args' u = .signal (.failed e) u₁ ∧ m s = .signal (.failed e) u₁ ∧
      NumberedStates ⟨before.length + 2, 1⟩ N₁ t₁ u₁

/-- What starting a loop, rounds for elements and one more call of the loop make. -/
lemma Extent.starter_plus_rounds (n : Nat) :
    ((⟨1, 1⟩ : Extent).plus ⟨n, 0⟩).plus ⟨1, 0⟩ = ⟨n + 2, 1⟩ := by
  have hframes : 1 + n + 1 = n + 2 := by omega
  exact congrArg (fun k => Extent.mk k 1) hframes

/-- An evaluation that comes to a loop does what the loop's calls do. -/
theorem Loop.realizesCalls {α : Type} {l : Loop} {stepArgs : Value → Value → List Value}
    {finish finish' : Value → Value → Eval Value} {args : α → Value → List Value}
    {calls : List Value → Eval α} {result : α → Value} {vs : List Value} {m : Eval Value}
    {f z : Value} {s : State} {home : FrameId} {d depth : Nat}
    (hcalls : l.StepCalls stepArgs finish finish')
    (hround : ∃ N r made, Numbering.same s.extent ≤ N ∧
      Round.Ready r l made home f ⟨1, 1⟩ N vs z s ∧ m s = r.outcome l made home (depth + 1))
    (hf : f.MadeWithin s.extent)
    (hfold : ∀ us r t, calls us s = .value r t →
      us.foldlM (advance d f stepArgs finish) z s = .value (result r) t)
    (hargs : ∀ r v, stepArgs (result r) v = args r v) (hdepth : d + vs.length ≤ depth) :
    RealizesCalls d f args calls result vs m s := by
  obtain ⟨N, r₀, made, hN, hready, hm⟩ := hround
  have hf₀ : f.Related N.leaves f := (numbering .none).values_mono hN hf.numbered
  constructor
  · intro r t hvs
    obtain ⟨k, rfl⟩ : ∃ k, depth = vs.length + k := Nat.exists_eq_add_of_le (by omega)
    have hall : r₀.Ready l made home f ⟨1, 1⟩ N (vs ++ []) z s := by rwa [List.append_nil]
    have hk : d ≤ k + 1 := by omega
    obtain ⟨N₁, r₁, hN₁, hready₁, hbehind⟩ := hall.exists_behind hcalls hf₀ hk (hfold vs r t hvs)
    obtain ⟨N₂, u, hN₂, hu, hresult, hlast⟩ := hready₁.finished k
    rw [Extent.starter_plus_rounds] at hu
    refine ⟨N₂, _, u, le_trans hN (le_trans hN₁ hN₂), ?_, hu, hresult⟩
    rw [hm, Nat.add_assoc, hbehind, hlast]
  · intro before v after r t e t₁ hvs hbefore hfails
    subst hvs
    rw [List.length_append, List.length_cons] at hdepth
    obtain ⟨k, rfl⟩ : ∃ k, depth = before.length + k := Nat.exists_eq_add_of_le (by omega)
    have hk : d ≤ k := by omega
    obtain ⟨N₁, r₁, hN₁, hready₁, hbehind⟩ :=
      hready.exists_behind hcalls hf₀ (Nat.le_succ_of_le hk) (hfold before r t hbefore)
    rw [← hargs] at hfails
    obtain ⟨N₂, N₃, args', u, u₁, hN₂, hN₃, hu, hrelated, he, hfailed, hu₁⟩ :=
      hready₁.failed hcalls ((numbering .none).values_mono hN₁ hf₀) hk hfails
    rw [Extent.starter_plus_rounds] at hu hu₁
    rw [hargs] at hrelated
    refine ⟨N₂, N₃, k, args', u, u₁, le_trans hN (le_trans hN₁ hN₂), hN₃, hu, hrelated, he, ?_, hu₁⟩
    rw [hm, Nat.add_assoc, hbehind, hfailed]

end MonkeyLang
