import MonkeyLang.Interpreter
import MonkeyLang.Proofs.Evaluation.Iteration
import MonkeyLang.Proofs.Evaluation.Repetition
import MonkeyLang.Syntax.Equality
import MonkeyLang.Syntax.Parsing

/-!
# Mapping and reducing arrays

The language has no loops and no function that maps another one over an array, and programs define
what they need: `map` and `reduce` (`mapText`, `reduceText`) each make a loop that calls itself with
the rest of the array, and start it.

The functions do what one expects of them (`map_reduce_realized`): the callback is called once with
each element, in order, and what `map` and `reduce` return and print is what these calls do.  The
first call that fails is the last thing that they do.  This holds of every callback, since what a
callback can change is none of the loop's business: it writes in frames of its own.  The loop makes
frames too, so functions that the callback makes have other numbers here than if it were called
without a loop.
-/

namespace MonkeyLang

/-! ## Definitions of functions -/

/-- A program that binds a function to a name. -/
def Closure.definition (g : Closure) (name : String) (tokens : Nat → Token) : Program :=
  ⟨[.letStmt (tokens 0) ⟨tokens 1, name⟩ (.function (tokens 3) g.parameters g.body)]⟩

/-- The value is the result of a program with the text, on some interpreter. -/
def IsValueOf (text : String) (v : Value) : Prop :=
  ∃ (i : Interpreter) (depth : Nat) (p : Program) (r : Run (Option Value)), i.Reachable ∧
    Program.parse text = .ok p ∧ i.run depth p = some r ∧ r.result = some v

lemma Program.parse_eq_ok {text : String} {p : Program}
    (h : (Program.parse text).toOption.map Program.statements = some p.statements) :
    Program.parse text = .ok p := by
  generalize Program.parse text = o at h
  cases o with
  | ok q => exact congrArg Except.ok (congrArg Program.mk (Option.some.inj h))
  | error _ => cases h

/-- The result of a definition is the function, made in the global frame. -/
lemma Closure.eq_of_definition {g : Closure} {name text : String} {tokens : Nat → Token}
    {v : Value} (hparse : Program.parse text = .ok (g.definition name tokens))
    (hv : IsValueOf text v) :
    ∃ identity, v = .function { g with identity := identity, scope := globalFrame } := by
  obtain ⟨i, depth, p, r, -, hp, hrun, hresult⟩ := hv
  obtain rfl : g.definition name tokens = p := Except.ok.inj (hparse.symm.trans hp)
  refine ⟨i.state.functions, ?_⟩
  obtain rfl := Option.some.inj hrun
  exact (Option.some.inj hresult).symm

lemma Closure.isValueOf_of_definition {g : Closure} {name text : String} {tokens : Nat → Token}
    (hparse : Program.parse text = .ok (g.definition name tokens)) :
    IsValueOf text (.function { g with identity := 0, scope := globalFrame }) :=
  ⟨.standard, 0, _, _, .start, hparse, rfl, rfl⟩

/-! ## Texts -/

/-- The text that defines `map`. -/
def mapText : String :=
  "let map = fn(arr, f) \x7b let iter = fn(arr, accumulated) \x7b " ++
    "if (len(arr) == 0) \x7b accumulated \x7d else \x7b " ++
    "iter(rest(arr), push(accumulated, f(first(arr)))); \x7d \x7d; iter(arr, []); \x7d;"

/-- The text that defines `reduce`. -/
def reduceText : String :=
  "let reduce = fn(arr, initial, f) \x7b let iter = fn(arr, result) \x7b " ++
    "if (len(arr) == 0) \x7b result \x7d else \x7b " ++
    "iter(rest(arr), f(result, first(arr))); \x7d \x7d; iter(arr, initial); \x7d;"

section

variable (tokens : Nat → Token) (identity : Nat)

/-- Adds what the callback makes of the first element to the accumulator. -/
def mapLoop : Loop where
  tokens n := tokens (13 + n)
  accumulator := "accumulated"
  step := .call (tokens 42) (.named (tokens 41) "push") [.named (tokens 43) "accumulated",
    .call (tokens 46) (.named (tokens 45) "f") [.ofArray (fun n => tokens (47 + n)) "first"]]
  accumulator_fresh := by decide

/-- Combines the accumulator with the first element. -/
def reduceLoop : Loop where
  tokens n := tokens (15 + n)
  accumulator := "result"
  step := .call (tokens 44) (.named (tokens 43) "f") [.named (tokens 45) "result",
    .ofArray (fun n => tokens (47 + n)) "first"]
  accumulator_fresh := by decide

/-- The function that `map` is bound to. -/
def mapFunction : Closure :=
  (mapLoop tokens).starter [⟨tokens 5, "arr"⟩, ⟨tokens 7, "f"⟩] (fun n => tokens (9 + n))
    (fun n => tokens (58 + n)) (.array (tokens 62) []) identity

/-- The function that `reduce` is bound to. -/
def reduceFunction : Closure :=
  (reduceLoop tokens).starter [⟨tokens 5, "arr"⟩, ⟨tokens 7, "initial"⟩, ⟨tokens 9, "f"⟩]
    (fun n => tokens (11 + n)) (fun n => tokens (57 + n)) (.named (tokens 61) "initial") identity

end

lemma parse_mapText : ∃ tokens, Program.parse mapText =
    .ok ((mapFunction tokens 0).definition "map" tokens) :=
  ⟨fun n => (Token.scan mapText).getD n default, Program.parse_eq_ok (by decide +kernel)⟩

lemma parse_reduceText : ∃ tokens, Program.parse reduceText =
    .ok ((reduceFunction tokens 0).definition "reduce" tokens) :=
  ⟨fun n => (Token.scan reduceText).getD n default, Program.parse_eq_ok (by decide +kernel)⟩

lemma eq_mapFunction {v : Value} (h : IsValueOf mapText v) :
    ∃ tokens identity, v = .function (mapFunction tokens identity) := by
  obtain ⟨tokens, hparse⟩ := parse_mapText
  obtain ⟨identity, hv⟩ := Closure.eq_of_definition hparse h
  exact ⟨tokens, identity, hv⟩

lemma eq_reduceFunction {v : Value} (h : IsValueOf reduceText v) :
    ∃ tokens identity, v = .function (reduceFunction tokens identity) := by
  obtain ⟨tokens, hparse⟩ := parse_reduceText
  obtain ⟨identity, hv⟩ := Closure.eq_of_definition hparse h
  exact ⟨tokens, identity, hv⟩

/-! ## Steps -/

section

variable {s : State} {depth : Nat} {f : Value} {l : Loop} {home here : FrameId} {iter : Closure}

lemma Inside.leadsTo_first {v acc : Value} {vs : List Value}
    (h : Inside l s.frames home here f iter (.array (v :: vs)) acc) (tokens : Nat → Token) :
    (evalExpr .standard (apply .standard depth) (.ofArray tokens "first") here).LeadsTo
      (pure v) s :=
  h.leadsTo_ofArray (p := .first) (by decide) tokens

end

/-- The step of `map` calls the callback with the element, and adds what the call comes to. -/
lemma mapLoop_stepCalls (tokens : Nat → Token) :
    (mapLoop tokens).StepCalls (fun _ v => [v]) (fun acc r => Primitive.push.call [acc, r])
      (fun acc r => do Eval.note .builtinCall; Primitive.push.call [acc, r]) where
  leadsTo depth hinside := by
    have hpush : ∀ acc r, apply .standard depth (.builtin ⟨Primitive.push.name, .push⟩) [acc, r] =
        (do Eval.note .builtinCall; Primitive.push.call [acc, r]) :=
      fun _ _ => by rw [apply]
    rw [mapLoop, evalExpr]
    refine (hinside.leadsTo_primitive (p := .push) (by decide)).bind fun t ht => ?_
    have hinside := hinside.logs ht
    simp only [evalExprs, bind_assoc, pure_bind, hpush]
    refine (leadsTo_named hinside.lookup_accumulator).bind fun u hu => ?_
    have hinside := hinside.logs hu
    refine (leadsTo_call hinside.leadsTo_callee fun w hw => ?_).bind_congr _
    exact leadsTo_exprs_cons ((hinside.logs hw).leadsTo_first _) fun _ _ => leadsTo_exprs_nil
  args_related hv _ := .cons hv .nil
  finish_agrees {others _ _ _ _ _} hacc hx := by
    intro N hN s s' hs
    have hargs := (numbering others).lists_mono hN (.cons hacc (.cons hx .nil))
    exact Correspondence.agree_primitive .push hargs N (le_refl N) s _ (hs.logs (s'.logs_note _))

/-- The step of `reduce` calls the callback with the accumulator and the element. -/
lemma reduceLoop_stepCalls (tokens : Nat → Token) :
    (reduceLoop tokens).StepCalls (fun acc v => [acc, v]) (fun _ r => pure r)
      (fun _ r => pure r) where
  leadsTo _ hinside := by
    rw [advance, bind_pure]
    refine leadsTo_call hinside.leadsTo_callee fun t ht => ?_
    refine leadsTo_exprs_cons (leadsTo_named (hinside.logs ht).lookup_accumulator) fun u hu => ?_
    exact leadsTo_exprs_cons (((hinside.logs ht).logs hu).leadsTo_first _) fun _ _ =>
      leadsTo_exprs_nil
  args_related hv hacc := .cons hacc (.cons hv .nil)
  finish_agrees {others _ _ _ _ _} _ hx := .pure fun _ hN => (numbering others).values_mono hN hx

/-- Adding to an array one by one is mapping. -/
lemma foldlM_push (d : Nat) (f : Value) (rs vs : List Value) :
    vs.foldlM (advance d f (fun _ v => [v]) fun acc r => Primitive.push.call [acc, r])
        (.array rs) = (do
      let rs' ← vs.mapM fun v => apply .standard d f [v]
      return .array (rs ++ rs')) := by
  induction vs generalizing rs with
  | nil => rw [List.foldlM_nil, List.mapM_nil, pure_bind, List.append_nil]
  | cons v vs ih =>
    have hpush : ∀ r, Primitive.push.call [.array rs, r] = pure (.array (rs ++ [r])) :=
      fun _ => rfl
    rw [List.foldlM_cons, List.mapM_cons, advance]
    simp only [bind_assoc, pure_bind, hpush, ih, List.append_assoc, List.singleton_append]

/-! ## Calls of the functions -/

section

variable {s : State} {d depth : Nat} {f z map reduce : Value} {vs : List Value}

/-- Programs and calls leave a well-formed state behind. -/
lemma Interpreter.Reachable.wellFormed_state {i : Interpreter} (h : i.Reachable) :
    i.state.WellFormed := h.wellFormed

/-- The global frame has no parent. -/
lemma State.WellFormed.exists_outermost (hs : s.WellFormed)
    (hfree : ∀ n ∈ loopBuiltins, s.frames.local? n globalFrame = none) :
    ∃ b, s.frames[globalFrame]? = some ⟨b, none⟩ ∧ ∀ n ∈ loopBuiltins, b.get? n = none := by
  obtain ⟨g, hg⟩ : ∃ g, s.frames[globalFrame]? = some g :=
    ⟨_, Array.getElem?_eq_getElem (show globalFrame < s.frames.size from hs.base_le.1)⟩
  have hparent : g.parent = none := by
    cases hp : g.parent with
    | none => rfl
    | some p => exact absurd (hs.frames.ordered _ g p hg hp) (Nat.not_lt_zero p)
  refine ⟨g.bindings, hparent ▸ hg, fun n hn => ?_⟩
  have hlocal := hfree n hn
  rwa [Frames.local?, hg] at hlocal

/-- A call of `map` comes to the first round of its loop. -/
lemma exists_mapRound (tokens : Nat → Token) (identity depth : Nat) (hs : s.WellFormed)
    (hfree : ∀ n ∈ loopBuiltins, s.frames.local? n globalFrame = none)
    (hvs : ∀ v ∈ vs, v.MadeWithin s.extent) (hlength : vs.length < Int64.size) :
    ∃ N r made, Numbering.same s.extent ≤ N ∧
      Round.Ready r (mapLoop tokens) made s.frames.size f ⟨1, 1⟩ N vs (.array []) s ∧
      apply .standard (depth + 1) (.function (mapFunction tokens identity)) [.array vs, f] s =
        r.outcome (mapLoop tokens) made s.frames.size depth := by
  have hbindings : Bindings.bindAll (mapFunction tokens identity).parameters [.array vs, f] [] =
      [("arr", .array vs), ("f", f)] := rfl
  have hstart : Starting [("arr", .array vs), ("f", f)] f (.array vs) :=
    ⟨rfl, rfl, by simp [loopBuiltins, Bindings.get?]⟩
  rw [← Extent.none_plus ⟨1, 1⟩]
  exact Loop.exists_round hs.numbered (hs.exists_outermost hfree) hbindings hstart
    (Value.numbered_elements hvs) (.array .nil) (fun t _ _ _ => .refl _ t) hlength

/-- A call of `reduce` comes to the first round of its loop. -/
lemma exists_reduceRound (tokens : Nat → Token) (identity depth : Nat) (hs : s.WellFormed)
    (hfree : ∀ n ∈ loopBuiltins, s.frames.local? n globalFrame = none)
    (hvs : ∀ v ∈ vs, v.MadeWithin s.extent) (hz : z.MadeWithin s.extent)
    (hlength : vs.length < Int64.size) :
    ∃ N r made, Numbering.same s.extent ≤ N ∧
      Round.Ready r (reduceLoop tokens) made s.frames.size f ⟨1, 1⟩ N vs z s ∧
      apply .standard (depth + 1) (.function (reduceFunction tokens identity)) [.array vs, z, f] s =
        r.outcome (reduceLoop tokens) made s.frames.size depth := by
  have hbindings :
      Bindings.bindAll (reduceFunction tokens identity).parameters [.array vs, z, f] [] =
        [("arr", .array vs), ("initial", z), ("f", f)] := rfl
  have hstart : Starting [("arr", .array vs), ("initial", z), ("f", f)] f (.array vs) :=
    ⟨rfl, rfl, by simp [loopBuiltins, Bindings.get?]⟩
  rw [← Extent.none_plus ⟨1, 1⟩]
  refine Loop.exists_round hs.numbered (hs.exists_outermost hfree) hbindings hstart
    (Value.numbered_elements hvs) hz.numbered (fun t _ hordered ht => leadsTo_named ?_) hlength
  rw [Frames.lookup_eq hordered, ht]
  rfl

/-- In every well-formed state (`Interpreter.Reachable.wellFormed_state`) whose global frame leaves
the standard functions to the loop, `map` realizes the calls of a callback with the elements of an
array from left to right, and collects their values; `reduce` realizes the calls with the value so
far and the next element.  If a call fails, `map` and `reduce` fail with its error and in the state
that it leaves, so that the callback is called with no element behind it.

Lengths of arrays are 64-bit numbers, so an array has fewer elements than the bound. -/
theorem map_reduce_realized (hmap : IsValueOf mapText map) (hreduce : IsValueOf reduceText reduce)
    (hs : s.WellFormed) (hfree : ∀ n ∈ loopBuiltins, s.frames.local? n globalFrame = none)
    (hf : f.MadeWithin s.extent) (hvs : ∀ v ∈ vs, v.MadeWithin s.extent)
    (hz : z.MadeWithin s.extent) (hlength : vs.length < Int64.size)
    (hdepth : d + vs.length + 2 ≤ depth) :
    RealizesCalls d f (fun _ v => [v]) (fun us => us.mapM fun v => apply .standard d f [v])
      .array vs (apply .standard depth map [.array vs, f]) s ∧
    RealizesCalls d f (fun r v => [r, v])
      (fun us => us.foldlM (fun r v => apply .standard d f [r, v]) z)
      id vs (apply .standard depth reduce [.array vs, z, f]) s := by
  obtain ⟨tokens, identity, rfl⟩ := eq_mapFunction hmap
  obtain ⟨tokens', identity', rfl⟩ := eq_reduceFunction hreduce
  obtain ⟨depth, rfl⟩ : ∃ k, depth = k + 2 := ⟨depth - 2, by omega⟩
  have hdepth : d + vs.length ≤ depth := Nat.le_of_add_le_add_right hdepth
  constructor
  · refine Loop.realizesCalls (mapLoop_stepCalls tokens)
      (exists_mapRound tokens identity _ hs hfree hvs hlength) hf ?_ (fun _ _ => rfl) hdepth
    intro us rs t hcalls
    rw [foldlM_push, Eval.bind_apply, hcalls]
    rfl
  · refine Loop.realizesCalls (reduceLoop_stepCalls tokens')
      (exists_reduceRound tokens' identity' _ hs hfree hvs hz hlength) hf ?_ (fun _ _ => rfl) hdepth
    intro us r t hcalls
    have hstep : advance d f (fun r v => [r, v]) (fun _ r => pure r) =
        fun r v => apply .standard d f [r, v] := by
      funext r v
      rw [advance, bind_pure]
    rw [hstep]
    exact hcalls

/-- A function that prints its argument and returns it, mapped over two texts and used to reduce
them; and a function that divides by its argument, which fails at the second of three numbers. -/
theorem map_reduce_realized_echo_inverse :
    let x : Ident := ⟨default, "x"⟩
    let echo : Value := .function ⟨0, [x], .mk default [
      .exprStmt default (.call default (.named default "puts") [.ident x]),
      .exprStmt default (.ident x)], globalFrame⟩
    let inverse : Value := .function ⟨0, [x], .mk default [
      .exprStmt default (.binary default (.integer default 1) .divide (.ident x))], globalFrame⟩
    let texts : List Value := [.string "a", .string "b"]
    let numbers : List Value := [.integer 1, .integer 0, .integer 2]
    let s : State := ⟨#[Frames.emptyFrame], 1, "", []⟩
    ∃ map reduce t u t' u', IsValueOf mapText map ∧ IsValueOf reduceText reduce ∧
      apply .standard 5 map [.array texts, echo] s = .value (.array texts) t ∧
      t.printed = "a\nb\n" ∧ t.frames.size = 7 ∧
      apply .standard 5 reduce [.array texts, .string "z", echo] s = .value (.string "z") u ∧
      u.printed = "z\nz\n" ∧ u.frames.size = 7 ∧
      apply .standard 6 map [.array numbers, inverse] s = .signal (.failed .divisionByZero) t' ∧
      t'.frames.size = 6 ∧
      apply .standard 6 reduce [.array numbers, .integer 2, inverse] s =
        .signal (.failed .divisionByZero) u' ∧
      u'.frames.size = 6 := by
  intro x echo inverse texts numbers s
  obtain ⟨tokens, hparse⟩ := parse_mapText
  obtain ⟨tokens', hparse'⟩ := parse_reduceText
  have hmap := Closure.isValueOf_of_definition hparse
  have hreduce := Closure.isValueOf_of_definition hparse'
  have hs : s.WellFormed :=
    ⟨rfl, rfl, ⟨by decide, by decide⟩, .of_empty Frames.ordered_empty rfl, rfl, rfl⟩
  have hfree : ∀ n ∈ loopBuiltins, s.frames.local? n globalFrame = none := fun _ _ => rfl
  have hmade : ∀ body, (Value.function ⟨0, [x], body, globalFrame⟩).MadeWithin s.extent :=
    fun _ => .function ⟨⟨Nat.one_pos, Nat.one_pos⟩, rfl⟩
  have htexts : ∀ v ∈ texts, v.MadeWithin s.extent :=
    List.forall_mem_cons.2 ⟨.string, List.forall_mem_singleton.2 .string⟩
  have hnumbers : ∀ v ∈ numbers, v.MadeWithin s.extent := List.forall_mem_cons.2
    ⟨.integer, List.forall_mem_cons.2 ⟨.integer, List.forall_mem_singleton.2 .integer⟩⟩
  have hz : (Value.string "z").MadeWithin s.extent := .string
  have hz' : (Value.integer 2).MadeWithin s.extent := .integer
  have hdepth : 1 + texts.length + 2 ≤ 5 := by decide
  have hdepth' : 1 + numbers.length + 2 ≤ 6 := by decide
  obtain ⟨hmaps, hreduces⟩ := map_reduce_realized (f := echo) hmap hreduce hs hfree (hmade _)
    htexts hz (by decide) hdepth
  obtain ⟨hmaps', hreduces'⟩ := map_reduce_realized (f := inverse) hmap hreduce hs hfree (hmade _)
    hnumbers hz' (by decide) hdepth'
  let called (xs : List Value) (printed : String) (events : List Log.Event) : State :=
    ⟨(Frames.emptyFrame :: xs.map fun v => ⟨[("x", v)], some globalFrame⟩).toArray, 1, printed,
      events⟩
  let prints : List Log.Event := [.builtinCall, .builtinLookup, .functionCall]
  have hechoed : texts.mapM (fun v => apply .standard 1 echo [v]) s =
      .value texts (called texts "a\nb\n" prints) := by
    simp only [texts, echo, x, s, called, prints]
    rfl
  have hkept : texts.foldlM (fun r v => apply .standard 1 echo [r, v]) (.string "z") s =
      .value (.string "z") (called [.string "z", .string "z"] "z\nz\n" prints) := by
    simp only [texts, echo, x, s, called, prints]
    rfl
  obtain ⟨_, v, t, -, ht, hst, hv⟩ := hmaps.value _ _ hechoed
  obtain ⟨_, v', u, -, hu, hsu, hv'⟩ := hreduces.value _ _ hkept
  obtain rfl := Numbering.eq_of_related hv
  obtain rfl := Numbering.eq_of_related hv'
  -- Of the three numbers the callback has a value for the first, and is not called with the last.
  have hmapped : [.integer 1].mapM (fun v => apply .standard 1 inverse [v]) s =
      .value [.integer 1] (called [.integer 1] "" [.functionCall]) := by
    simp only [inverse, x, s, called]
    rfl
  have hreduced : [.integer 1].foldlM (fun r v => apply .standard 1 inverse [r, v]) (.integer 2) s =
      .value (.integer 0) (called [.integer 2] "" [.functionCall]) := by
    simp only [inverse, x, s, called]
    rfl
  have hfails : ∀ v args, apply .standard 1 inverse (.integer 0 :: args)
      (called [v] "" [.functionCall]) =
        .signal (.failed .divisionByZero) (called [v, .integer 0] "" [.functionCall]) := by
    intro v args
    simp only [inverse, x, called]
    rfl
  obtain ⟨_, _, _, _, _, t', -, -, -, -, -, ht', hst'⟩ :=
    hmaps'.failed _ _ _ _ _ _ _ rfl hmapped (hfails _ [])
  obtain ⟨_, _, _, _, _, u', -, -, -, -, -, hu', hsu'⟩ :=
    hreduces'.failed _ _ _ _ _ _ _ rfl hreduced (hfails _ [.integer 0])
  exact ⟨_, _, t, u, t', u', hmap, hreduce, ht, hst.printed, congrArg Extent.frames hst.made', hu,
    hsu.printed, congrArg Extent.frames hsu.made', ht', congrArg Extent.frames hst'.made', hu',
    congrArg Extent.frames hsu'.made'⟩

end

end MonkeyLang
