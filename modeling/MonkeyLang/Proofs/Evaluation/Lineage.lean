import MonkeyLang.Proofs.Evaluation.Nesting

/-!
# Interpreters and the text of their programs

A host runs programs on an interpreter, calls the functions that it was given as results, and
resets the global bindings.  `Lineage` records the interpreter and the results so far.  The same
can be done with marked programs (`Marked`), and leads to the same up to spans.  There, code and
functions say how deep they lie in the text, and this is how many frames their chains have behind
the first one (`Lineage.chains_follow_text`).
-/

namespace MonkeyLang

/-! ## Functions in frames -/

/-- The function has as many frames around it as its marks say. -/
def Closure.NestedIn (frames : Frames) (f : Closure) : Prop :=
  ∃ d, f.body.nesting = d + 1 ∧ frames.Nested f.scope d

/-- The mark of the body, if the value is a function. -/
def Value.bodyNesting? : Value → Option Nat
  | .function f => some f.body.nesting
  | _ => none

/-- Some frame binds a value that holds the function. -/
def Frames.Binds (frames : Frames) (f : Closure) : Prop :=
  ∃ name i v, frames.local? name i = some v ∧ (Value.function f).PartOf v

section

variable {frames : Frames} {w : Depths} {f : Closure}

lemma Closure.Lies.nestedIn (h : f.Lies w) (hframes : frames.Follow w) : f.NestedIn frames := by
  obtain ⟨d, hd, b, hb⟩ := h
  refine ⟨d, ?_, hframes.nested hd⟩
  rw [hb, b.nesting_mark]

lemma Frames.Follow.nestedIn (h : frames.Follow w) (hf : frames.Binds f) : f.NestedIn frames := by
  obtain ⟨name, i, v, hv, hpart⟩ := hf
  exact (h.bindings name i v hv f hpart).nestedIn h

lemma Frames.Nested.congr {frames' : Frames} {i : FrameId} {d : Nat} (h : frames.Nested i d)
    (hchain : frames'.chain i = frames.chain i)
    (hparent : ∀ j : FrameId, (frames'[j]?).map Frame.parent = (frames[j]?).map Frame.parent) :
    frames'.Nested i d := by
  refine ⟨?_, ?_, ?_, ?_, (hparent globalFrame).trans h.outermost⟩ <;> rw [hchain]
  · exact h.length
  · exact h.nodup
  · exact h.parents.imp fun j k hjk => (hparent j).trans hjk
  · exact h.last

/-- Functions in bindings do not matter to how frames are nested. -/
lemma Frames.nested_mapClosures {h : Closure → Closure} {i : FrameId} {d : Nat} :
    (frames.mapClosures h).Nested i d ↔ frames.Nested i d := by
  have hparent : ∀ j : FrameId, ((frames.mapClosures h)[j]?).map Frame.parent =
      (frames[j]?).map Frame.parent := by
    intro j
    rw [getElem?_mapClosures, Option.map_map]
    rfl
  have hchain := frames.chain_mapClosures (h := h) i
  exact ⟨fun hnested => hnested.congr hchain.symm fun j => (hparent j).symm,
    fun hnested => hnested.congr hchain hparent⟩

lemma State.nested_of_alike {s s' : State} (hs : s'.eraseSpans = s.eraseSpans) {i : FrameId}
    {d : Nat} (h : s'.frames.Nested i d) : s.frames.Nested i d := by
  have hframes : s'.frames.mapClosures Closure.eraseSpans = s.frames.mapClosures .eraseSpans :=
    congrArg frames hs
  exact Frames.nested_mapClosures.1 (hframes ▸ Frames.nested_mapClosures.2 h)

lemma Closure.nestedIn_of_alike {s s' : State} (hs : s'.eraseSpans = s.eraseSpans)
    (h : f.NestedIn s'.frames) : f.NestedIn s.frames := by
  obtain ⟨d, hd, hnested⟩ := h
  exact ⟨d, hd, State.nested_of_alike hs hnested⟩

end

/-! ## Values of a host -/

/-- Every function in the value stands in one of the others. -/
def Value.FromAmong (held : List Value) (v : Value) : Prop :=
  ∀ f, (Value.function f).PartOf v → ∃ u ∈ held, (Value.function f).PartOf u

/-- What is built from values is built alike from values that are equal up to spans. -/
lemma Value.FromAmong.exists_alike {held held' : List Value} {v : Value}
    (h : v.FromAmong held) (hheld : held'.map Value.eraseSpans = held.map Value.eraseSpans) :
    ∃ v' : Value, v'.FromAmong held' ∧ v'.eraseSpans = v.eraseSpans := by
  have hfunctions : ∀ f, ∃ g : Closure, (Value.function f).PartOf v →
      g.eraseSpans = f.eraseSpans ∧ ∃ u ∈ held', (Value.function g).PartOf u := by
    intro f
    by_cases hf : (Value.function f).PartOf v
    · obtain ⟨u, hu, hpart⟩ := h f hf
      obtain ⟨u', hu', hsame⟩ : ∃ u' ∈ held', u'.eraseSpans = u.eraseSpans :=
        List.mem_map.1 (hheld ▸ List.mem_map_of_mem hu)
      have herased : (Value.function f).eraseSpans.PartOf u'.eraseSpans :=
        hsame ▸ hpart.mapClosures Closure.eraseSpans
      obtain ⟨p, hp, hpf⟩ := Value.exists_of_partOf_mapClosures herased
      cases p with
      | function g => exact ⟨g, fun _ => ⟨Value.function.inj hpf, u', hu', hp⟩⟩
      | _ => cases hpf
    · exact ⟨f, fun hpart => absurd hpart hf⟩
  choose change hchange using hfunctions
  refine ⟨v.mapClosures change, fun g hg => ?_, ?_⟩
  · obtain ⟨p, hp, hpg⟩ := Value.exists_of_partOf_mapClosures hg
    cases p with
    | function f => exact Value.function.inj hpg ▸ (hchange f hp).2
    | _ => cases hpg
  · rw [Value.eraseSpans, v.mapClosures_mapClosures]
    exact Value.mapClosures_congr fun f hf => (hchange f hf).1

lemma Value.exists_alike_of_forall {held held' vs : List Value}
    (h : ∀ v ∈ vs, v.FromAmong held)
    (hheld : held'.map Value.eraseSpans = held.map Value.eraseSpans) :
    ∃ vs' : List Value, (∀ v ∈ vs', v.FromAmong held') ∧
      vs'.map Value.eraseSpans = vs.map Value.eraseSpans := by
  induction vs with
  | nil => exact ⟨[], List.forall_mem_nil _, rfl⟩
  | cons v vs ih =>
    rw [List.forall_mem_cons] at h
    obtain ⟨v', hv', hv⟩ := h.1.exists_alike hheld
    obtain ⟨vs', hvs', hvs⟩ := ih h.2
    exact ⟨v' :: vs', List.forall_mem_cons.2 ⟨hv', hvs'⟩, congrArg₂ List.cons hv hvs⟩

lemma Value.FromAmong.lies {w : Depths} {held : List Value} {v : Value} (h : v.FromAmong held)
    (hheld : ∀ u ∈ held, u.Lies w) : v.Lies w := by
  intro f hf
  obtain ⟨u, hu, hpart⟩ := h f hf
  exact hheld u hu f hpart

/-! ## Runs that are alike -/

namespace Interpreter

variable {i i' : Interpreter} {depth : Nat}

lemma builtins_of_alike (hi : i'.eraseSpans = i.eraseSpans) : i'.builtins = i.builtins :=
  (Interpreter.mk.inj hi).1

lemma start_of_alike (hi : i'.eraseSpans = i.eraseSpans) :
    i'.start.eraseSpans = i.start.eraseSpans := by
  have hfields := State.mk.inj (Interpreter.mk.inj hi).2
  simp only [State.eraseSpans, State.mapClosures, start, hfields.1, hfields.2.1]

/-- Programs that are equal up to spans run alike. -/
lemma run_alike {p p' : Program} {r : Run (Option Value)} (hp : p'.eraseSpans = p.eraseSpans)
    (hi : i'.eraseSpans = i.eraseSpans) (ends : i.run depth p = some r) :
    ∃ r', i'.run depth p' = some r' ∧ r'.eraseSpans = r.eraseSpans := by
  have hruns := run_eq_of_eraseSpans_eq hp hi depth
  rw [ends, Option.map_some] at hruns
  exact Option.map_eq_some_iff.1 hruns

lemma perform_eq {α : Type} (m : Eval α) (i : Interpreter) : perform m i =
    match m i.start with
    | .value a s => some ⟨.ok a, s.printed, s.events, { i with state := s }⟩
    | .signal sig s => some ⟨.error sig, s.printed, s.events, { i with state := s }⟩
    | .exhausted => none := by
  unfold perform start
  generalize m { i.state with printed := "", events := [] } = o
  cases o <;> rfl

/-- What agrees with one and the same evaluation without spans leaves alike interpreters. -/
lemma perform_alike {m m' n : Eval Value} {r : Run (Except Signal Value)}
    (h : erasing.Agree 0 erasing.values m n) (h' : erasing.Agree 0 erasing.values m' n)
    (hi : i'.eraseSpans = i.eraseSpans) (ends : perform m i = some r) :
    ∃ r', perform m' i' = some r' ∧ r'.next.eraseSpans = r.next.eraseSpans ∧
      r'.result.toOption.map Value.eraseSpans = r.result.toOption.map Value.eraseSpans := by
  have houtcomes := h 0 (le_refl _) i.start _ rfl
  have houtcomes' := h' 0 (le_refl _) i'.start _ rfl
  rw [start_of_alike hi] at houtcomes'
  rw [perform_eq] at ends ⊢
  generalize m i.start = o at houtcomes ends
  generalize m' i'.start = o' at houtcomes' ⊢
  generalize n i.start.eraseSpans = o₀ at houtcomes houtcomes'
  have hbuiltins := builtins_of_alike hi
  have hnext : ∀ {s s' : State}, s'.eraseSpans = s.eraseSpans →
      ({ i' with state := s' } : Interpreter).eraseSpans = { i with state := s }.eraseSpans :=
    fun hs => congrArg₂ Interpreter.mk hbuiltins hs
  cases houtcomes with
  | value _ states related =>
    obtain rfl := Option.some.inj ends
    cases houtcomes' with
    | value _ states' related' =>
      refine ⟨_, rfl, hnext (states'.symm.trans states), ?_⟩
      exact congrArg some
        ((erasing.eq_of_values related').symm.trans (erasing.eq_of_values related))
  | signal _ states _ =>
    obtain rfl := Option.some.inj ends
    cases houtcomes' with
    | signal _ states' _ => exact ⟨_, rfl, hnext (states'.symm.trans states), rfl⟩
  | exhausted => cases ends

/-- Values that are equal up to spans are called alike. -/
lemma apply_alike {f f' : Value} {args args' : List Value} {r : Run (Except Signal Value)}
    (hf : f'.eraseSpans = f.eraseSpans)
    (hargs : args'.map Value.eraseSpans = args.map Value.eraseSpans)
    (hi : i'.eraseSpans = i.eraseSpans) (ends : i.apply depth f args = some r) :
    ∃ r', i'.apply depth f' args' = some r' ∧ r'.next.eraseSpans = r.next.eraseSpans ∧
      r'.result.toOption.map Value.eraseSpans = r.result.toOption.map Value.eraseSpans := by
  have hcalls := erasing.callsAgree i.builtins depth
  have hagree := hcalls 0 f _ args _ (erasing.values_eraseSpans f) (erasing.lists_iff.2 rfl)
  have hagree' := hcalls 0 f' _ args' _ (erasing.values_eraseSpans f') (erasing.lists_iff.2 rfl)
  rw [hf, hargs] at hagree'
  rw [apply, builtins_of_alike hi]
  exact perform_alike hagree hagree' hi ends

lemma reset_of_alike (hi : i'.eraseSpans = i.eraseSpans) :
    i'.reset.eraseSpans = i.reset.eraseSpans := by
  obtain ⟨hbuiltins, hstate⟩ := Interpreter.mk.inj hi
  obtain ⟨hframes, hfunctions, hprinted, hevents⟩ := State.mk.inj hstate
  simp only [eraseSpans, reset, State.eraseSpans, State.mapClosures, ← Frames.clear_mapClosures,
    hframes, hfunctions, hprinted, hevents, hbuiltins]

end Interpreter

/-! ## Lineages -/

/-- What becomes of an interpreter with the standard functions, and the values that it has given
its host: results of programs and calls, of functions that the host was given before. -/
inductive Interpreter.Lineage (builtins : BuiltinTable) : Interpreter → List Value → Prop where
  | new : Lineage builtins (new builtins) []
  | program {i : Interpreter} {held : List Value} (depth : Nat) (p : Program)
      (r : Run (Option Value)) (before : Lineage builtins i held) (ends : i.run depth p = some r) :
      Lineage builtins r.next (r.result.toList ++ held)
  | call {i : Interpreter} {held : List Value} (depth : Nat) (f : Value) (args : List Value)
      (r : Run (Except Signal Value)) (before : Lineage builtins i held)
      (callee : f.FromAmong held) (arguments : ∀ v ∈ args, v.FromAmong held)
      (ends : i.apply depth f args = some r) :
      Lineage builtins r.next (r.result.toOption.toList ++ held)
  | reset {i : Interpreter} {held : List Value} (before : Lineage builtins i held) :
      Lineage builtins i.reset held

/-- A lineage, and the same with marked programs. -/
inductive Interpreter.Marked (builtins : BuiltinTable) :
    Interpreter → List Value → Interpreter → List Value → Prop where
  | new : Marked builtins (new builtins) [] (new builtins) []
  | program {i i' : Interpreter} {held held' : List Value} (depth : Nat) (p : Program)
      (r r' : Run (Option Value)) (before : Marked builtins i held i' held')
      (ends : i.run depth p = some r) (ends' : i'.run depth p.mark = some r') :
      Marked builtins r.next (r.result.toList ++ held) r'.next (r'.result.toList ++ held')
  | call {i i' : Interpreter} {held held' : List Value} (depth : Nat) (f f' : Value)
      (args args' : List Value) (r r' : Run (Except Signal Value))
      (before : Marked builtins i held i' held')
      (callee : f'.FromAmong held') (callees : f'.eraseSpans = f.eraseSpans)
      (arguments : ∀ v ∈ args', v.FromAmong held')
      (arguments' : args'.map Value.eraseSpans = args.map Value.eraseSpans)
      (ends : i.apply depth f args = some r) (ends' : i'.apply depth f' args' = some r') :
      Marked builtins r.next (r.result.toOption.toList ++ held)
        r'.next (r'.result.toOption.toList ++ held')
  | reset {i i' : Interpreter} {held held' : List Value}
      (before : Marked builtins i held i' held') : Marked builtins i.reset held i'.reset held'

namespace Interpreter

variable {builtins : BuiltinTable} {i i' : Interpreter} {held held' : List Value}

lemma Marked.alike (h : Marked builtins i held i' held') :
    i'.eraseSpans = i.eraseSpans ∧ held'.map Value.eraseSpans = held.map Value.eraseSpans := by
  induction h with
  | new => exact ⟨rfl, rfl⟩
  | program depth p r r' _ ends ends' ih =>
    obtain ⟨r₁, hr₁, hr⟩ := run_alike p.eraseSpan_mark ih.1 ends
    obtain rfl : r' = r₁ := Option.some.inj (ends'.symm.trans hr₁)
    obtain ⟨hresult, -, -, hnext⟩ := Run.mk.inj hr
    refine ⟨hnext, ?_⟩
    rw [List.map_append, List.map_append, ih.2, ← Option.toList_map, ← Option.toList_map, hresult]
  | call depth f f' args args' r r' _ _ callees _ arguments' ends ends' ih =>
    obtain ⟨r₁, hr₁, hnext, hresult⟩ := apply_alike callees arguments' ih.1 ends
    obtain rfl : r' = r₁ := Option.some.inj (ends'.symm.trans hr₁)
    refine ⟨hnext, ?_⟩
    rw [List.map_append, List.map_append, ih.2, ← Option.toList_map, ← Option.toList_map, hresult]
  | reset _ ih => exact ⟨reset_of_alike ih.1, ih.2⟩

/-- A lineage can be followed with marked programs. -/
lemma Lineage.exists_marked (h : Lineage builtins i held) :
    ∃ i' held', Marked builtins i held i' held' := by
  induction h with
  | new => exact ⟨_, _, .new⟩
  | program depth p r _ ends ih =>
    obtain ⟨i', held', before⟩ := ih
    obtain ⟨r', ends', -⟩ := run_alike p.eraseSpan_mark before.alike.1 ends
    exact ⟨_, _, .program depth p r r' before ends ends'⟩
  | call depth f args r _ callee arguments ends ih =>
    obtain ⟨i', held', before⟩ := ih
    obtain ⟨hi, hheld⟩ := before.alike
    obtain ⟨f', callee', hf⟩ := callee.exists_alike hheld
    obtain ⟨args', arguments', hargs⟩ := Value.exists_alike_of_forall arguments hheld
    obtain ⟨r', ends', -⟩ := apply_alike hf hargs hi ends
    exact ⟨_, _, .call depth f f' args args' r r' before callee' hf arguments' hargs ends ends'⟩
  | reset _ ih =>
    obtain ⟨i', held', before⟩ := ih
    exact ⟨_, _, .reset before⟩

/-! ## Marked programs -/

section

variable {w : Depths}

/-- What agrees with itself leaves frames that have depths. -/
lemma perform_follow {α : Type} {Q : Depths → α → α → Prop} {m : Eval α}
    {r : Run (Except Signal α)} (hagree : nesting.Agree w Q m m) (hi : i.state.frames.Follow w)
    (ends : perform m i = some r) :
    ∃ w', w ≤ w' ∧ r.next.state.frames.Follow w' ∧ ∀ a, r.result = .ok a → Q w' a a := by
  have houtcomes := hagree w (le_refl w) i.start i.start ⟨rfl, hi⟩
  rw [perform_eq] at ends
  generalize m i.start = o at houtcomes ends
  cases houtcomes with
  | value larger states related =>
    obtain rfl := Option.some.inj ends
    exact ⟨_, larger, states.2, fun _ ha => Except.ok.inj ha ▸ related⟩
  | signal larger states _ =>
    obtain rfl := Option.some.inj ends
    exact ⟨_, larger, states.2, nofun⟩
  | exhausted => cases ends

lemma lies_of_results {o : Option Value} (h : nesting.Results w o o) :
    ∀ v ∈ o.toList, v.Lies w := by
  intro v hv
  obtain rfl := Option.mem_toList.1 hv
  cases h with
  | some related => exact (nesting.values_iff.1 related).2
  | failed =>
    intro f hf
    cases hf

/-- The result of a marked program lies as deep as its marks say. -/
lemma run_follow {depth : Nat} {p : Program} {r : Run (Option Value)}
    (hi : i.state.frames.Follow w) (ends : i.run depth p.mark = some r) :
    ∃ w', w ≤ w' ∧ r.next.state.frames.Follow w' ∧ ∀ v ∈ r.result.toList, v.Lies w' := by
  have hagree : nesting.Agree w nesting.Results (evalProgram i.builtins depth p.mark)
      (evalProgram i.builtins depth p.mark) :=
    Correspondence.evalProgram_agree_self nesting.enterable depth p.mark
      (within_markStmts 0 p.statements) (nesting.hosts hi.outermost_depth)
  obtain ⟨r₀, hr₀, rfl⟩ := Option.map_eq_some_iff.1 ends
  obtain ⟨w', hle, hfollow, hresult⟩ := perform_follow hagree hi hr₀
  refine ⟨w', hle, hfollow, ?_⟩
  cases ho : r₀.result with
  | ok o => exact lies_of_results (hresult o ho)
  | error _ => exact List.forall_mem_nil _

/-- The result of a call lies as deep as its marks say, if callee and arguments do. -/
lemma apply_follow {depth : Nat} {f : Value} {args : List Value}
    {r : Run (Except Signal Value)} (hi : i.state.frames.Follow w) (callee : f.Lies w)
    (arguments : ∀ v ∈ args, v.Lies w) (ends : i.apply depth f args = some r) :
    ∃ w', w ≤ w' ∧ r.next.state.frames.Follow w' ∧
      ∀ v ∈ r.result.toOption.toList, v.Lies w' := by
  have hagree := nesting.callsAgree i.builtins depth w f f args args
    (nesting.values_iff.2 ⟨rfl, callee⟩) (nesting.lists_iff.2 ⟨rfl, arguments⟩)
  obtain ⟨w', hle, hfollow, hresult⟩ := perform_follow hagree hi ends
  refine ⟨w', hle, hfollow, ?_⟩
  cases ho : r.result with
  | ok v => exact List.forall_mem_singleton.2 (nesting.values_iff.1 (hresult v ho)).2
  | error _ => exact List.forall_mem_nil _

end

/-- With marked programs, frames have depths, and the values of the host lie as deep as their
marks say. -/
lemma Marked.follow (h : Marked builtins i held i' held') :
    ∃ w, i'.state.frames.Follow w ∧ ∀ v ∈ held', v.Lies w := by
  induction h with
  | new => exact ⟨⟨[0]⟩, .empty, List.forall_mem_nil _⟩
  | program depth p r r' _ _ ends' ih =>
    obtain ⟨w, hframes, hheld⟩ := ih
    obtain ⟨w', hle, hframes', hresult⟩ := run_follow hframes ends'
    exact ⟨w', hframes',
      List.forall_mem_append.2 ⟨hresult, fun v hv => (hheld v hv).mono hle⟩⟩
  | call depth f f' args args' r r' _ callee _ arguments _ _ ends' ih =>
    obtain ⟨w, hframes, hheld⟩ := ih
    obtain ⟨w', hle, hframes', hresult⟩ := apply_follow hframes (callee.lies hheld)
      (fun v hv => (arguments v hv).lies hheld) ends'
    exact ⟨w', hframes',
      List.forall_mem_append.2 ⟨hresult, fun v hv => (hheld v hv).mono hle⟩⟩
  | reset _ ih =>
    obtain ⟨w, hframes, hheld⟩ := ih
    exact ⟨w, hframes.clear globalFrame, hheld⟩

end Interpreter

/-! ## Chains -/

/-- A visit, and the same one with marks: around the code, around the functions that are bound and
around those in the value of the code there are as many frames as the marks say, so that look-ups
inspect no more. -/
structure Visit.FollowsText (table : BuiltinTable) (v v' : Visit) : Prop where
  alike : v'.eraseSpans = v.eraseSpans
  code : v.state.frames.Nested v.scope v'.code.nesting
  lookups : ∀ name, (v.state.frames.inspected v.scope name).length ≤ v'.code.nesting + 1
  bound : ∀ f, v'.state.frames.Binds f → f.NestedIn v.state.frames
  value : ∀ u t, v.code.eval table (apply table v.depth) v.scope v.state = .value u t →
    ∃ u' t', v'.code.eval table (apply table v'.depth) v'.scope v'.state = .value u' t' ∧
      u'.eraseSpans = u.eraseSpans ∧ t'.eraseSpans = t.eraseSpans ∧
      ∀ f, (Value.function f).PartOf u' → f.NestedIn t.frames

lemma Visit.Follow.followsText {table : BuiltinTable} {w : Depths} {v v' : Visit}
    (h : v'.Follow w) (hv : v'.eraseSpans = v.eraseSpans) : v.FollowsText table v' := by
  obtain ⟨depth, c, scope, s⟩ := v
  obtain ⟨depth', c', scope', s'⟩ := v'
  have hfields := hv
  simp only [eraseSpans, Visit.mk.injEq] at hfields
  obtain ⟨rfl, hc, rfl, hs⟩ := hfields
  have hnested : s.frames.Nested scope' c'.nesting := State.nested_of_alike hs h.nested
  refine ⟨hv, hnested, fun name => ?_, fun f hf => ?_, fun u t hu => ?_⟩
  · exact hnested.length ▸ s.frames.length_inspected_le scope' name
  · exact Closure.nestedIn_of_alike hs (h.frames.nestedIn hf)
  · have hcalls := erasing.callsAgree table depth'
    have hagree := Correspondence.agree_eval table hcalls c c.within_all
      (erasing.hosts (w := 0) scope')
    have hagree' := Correspondence.agree_eval table hcalls c' c'.within_all
      (erasing.hosts (w := 0) scope')
    rw [hc] at hagree'
    obtain ⟨u', t', u₀, _, _, hu', ht, hvalues, hvalues'⟩ :=
      erasing.value_of_alike hagree hagree' hs hu
    refine ⟨u', t', hu', ?_, ht, fun f hf => ?_⟩
    · rw [← erasing.eq_of_values hvalues, ← erasing.eq_of_values hvalues']
    · obtain ⟨d, hd, c₀, rfl⟩ := h.marked
      have hself := Correspondence.agree_eval table (nesting.callsAgree table depth')
        (c₀.mark d) (c₀.within_mark d) (nesting.hosts hd)
      rw [Code.mapTokens_id] at hself
      obtain ⟨w', -, hfollow, hlies⟩ := nesting.value_of_agree hself h.frames hu'
      exact Closure.nestedIn_of_alike ht (((nesting.values_iff.1 hlies).2 f hf).nestedIn hfollow)

namespace Interpreter

variable {builtins : BuiltinTable} {i i' : Interpreter} {held held' : List Value}

/-- What a program visits, the marked program visits with marks. -/
lemma Marked.visits_program (h : Marked builtins i held i' held') {depth : Nat} {p : Program}
    {v : Visit} (hv : Visits i.builtins depth globalFrame p.statements i.start v) :
    ∃ v', Visits i.builtins depth globalFrame p.mark.statements i'.start v' ∧
      v.FollowsText i.builtins v' := by
  obtain ⟨w, hframes, -⟩ := h.follow
  have hstatements : p.mark.statements = p.statements.map (Stmt.mark 0) :=
    markStmts_eq_map 0 p.statements
  have hsame : p.mark.statements.map (Stmt.mapTokens .eraseSpan) =
      p.statements.map (Stmt.mapTokens .eraseSpan) := by
    rw [← mapTokensStmts_eq_map, ← mapTokensStmts_eq_map]
    exact congrArg Program.statements p.eraseSpan_mark
  obtain ⟨v', hvisits, halike⟩ := hv.alike hsame (start_of_alike h.alike.1)
  rw [hstatements] at hvisits ⊢
  obtain ⟨w', hfollow⟩ := hvisits.follow hframes.outermost_depth (s := i'.start) hframes
  exact ⟨v', hvisits, hfollow.followsText halike⟩

/-- What a call of the host visits, the call of the marked function visits with marks. -/
lemma Marked.visits_call (h : Marked builtins i held i' held') {depth : Nat} {f : Closure}
    {args : List Value} {frame : FrameId} {s : State} {v : Visit}
    (callee : (Value.function f).FromAmong held) (arguments : ∀ u ∈ args, u.FromAmong held)
    (enters : f.enter args i.start = .value frame s)
    (hv : Visits i.builtins depth frame f.body.statements s v) :
    ∃ f' args' s' v', (Value.function f').FromAmong held' ∧ f'.eraseSpans = f.eraseSpans ∧
      args'.map Value.eraseSpans = args.map Value.eraseSpans ∧
      f'.enter args' i'.start = .value frame s' ∧
      Visits i.builtins depth frame f'.body.statements s' v' ∧ v.FollowsText i.builtins v' := by
  obtain ⟨w, hframes, hheld⟩ := h.follow
  obtain ⟨hi, hsame⟩ := h.alike
  obtain ⟨u, callee', hu⟩ := callee.exists_alike hsame
  obtain ⟨args', arguments', hargs⟩ := Value.exists_alike_of_forall arguments hsame
  cases u with
  | function f' =>
    have hf : f'.eraseSpans = f.eraseSpans := Value.function.inj hu
    obtain ⟨s', enters', hs⟩ := Closure.enter_alike hf hargs (start_of_alike hi) enters
    have hbody : f'.body.statements.map (Stmt.mapTokens .eraseSpan) =
        f.body.statements.map (Stmt.mapTokens .eraseSpan) := by
      rw [← Block.statements_mapTokens, ← Block.statements_mapTokens]
      exact congrArg (Block.statements ∘ Closure.body) hf
    obtain ⟨v', hvisits, halike⟩ := hv.alike hbody hs
    obtain ⟨d, hd, b, hb⟩ := callee'.lies hheld f' .self
    obtain ⟨w₁, -, hframes₁, hframe⟩ := nesting.follow_of_enter hd
      (fun u hu => (arguments' u hu).lies hheld) (s := i'.start) hframes enters'
    have hmarked := hvisits
    rw [hb, b.statements_mark] at hmarked
    obtain ⟨w₂, hfollow⟩ := hmarked.follow hframe hframes₁
    exact ⟨f', args', s', v', callee', hf, hargs, enters', hvisits, hfollow.followsText halike⟩
  | _ => cases hu

/-- Whatever a host does with an interpreter can be done with marked programs, and then the
interpreter and the results are the same up to spans.  Functions in frames and results have as many
frames around them as their marks say, and so has all code that is visited while a program or a
call runs. -/
theorem Lineage.chains_follow_text (h : Lineage builtins i held) :
    (∃ i' held', Marked builtins i held i' held') ∧
    ∀ i' held', Marked builtins i held i' held' →
      (i'.eraseSpans = i.eraseSpans ∧ held'.map Value.eraseSpans = held.map Value.eraseSpans) ∧
      (∀ f, i'.state.frames.Binds f → f.NestedIn i.state.frames) ∧
      (∀ v ∈ held', ∀ f, (Value.function f).PartOf v → f.NestedIn i.state.frames) ∧
      (∀ depth (p : Program) v, Visits i.builtins depth globalFrame p.statements i.start v →
        ∃ v', Visits i.builtins depth globalFrame p.mark.statements i'.start v' ∧
          v.FollowsText i.builtins v') ∧
      ∀ depth f args frame s v, (Value.function f).FromAmong held →
        (∀ u ∈ args, u.FromAmong held) → f.enter args i.start = .value frame s →
        Visits i.builtins depth frame f.body.statements s v →
        ∃ f' args' s' v', (Value.function f').FromAmong held' ∧ f'.eraseSpans = f.eraseSpans ∧
          args'.map Value.eraseSpans = args.map Value.eraseSpans ∧
          f'.enter args' i'.start = .value frame s' ∧
          Visits i.builtins depth frame f'.body.statements s' v' ∧
          v.FollowsText i.builtins v' := by
  refine ⟨h.exists_marked, fun i' held' hmarked => ?_⟩
  obtain ⟨w, hframes, hheld⟩ := hmarked.follow
  have halike := hmarked.alike
  have hstate : i'.state.eraseSpans = i.state.eraseSpans := (Interpreter.mk.inj halike.1).2
  refine ⟨halike, fun f hf => ?_, fun v hv f hf => ?_, fun depth p v => hmarked.visits_program,
    fun depth f args frame s v => hmarked.visits_call⟩
  · exact Closure.nestedIn_of_alike hstate (hframes.nestedIn hf)
  · exact Closure.nestedIn_of_alike hstate ((hheld v hv f hf).nestedIn hframes)

/-- A function that was made by a call of another one, in whose body it stands. -/
theorem Lineage.chains_follow_text_closure : ∃ (r r' : Run (Option Value)) (f : Closure)
    (held held' : List Value), Lineage .standard r.next held ∧
      Marked .standard r.next held r'.next held' ∧ r'.next.state.frames.Binds f ∧
      f.body.nesting = 2 ∧ r.next.state.frames.Nested f.scope 1 := by
  have hruns : (do
      let p ← (Program.parse "let add = fn(a) { fn(b) { a + b } }; let inc = add(1);").toOption
      let r ← standard.run 1 p
      let r' ← standard.run 1 p.mark
      let v ← r'.next.state.frames.local? "inc" globalFrame
      v.bodyNesting?) = some 2 := by decide +kernel
  simp only [Option.bind_eq_bind, Option.bind_eq_some_iff] at hruns
  obtain ⟨p, -, r, hr, r', hr', v, hv, hnesting⟩ := hruns
  have lineage := Lineage.program 1 p r .new hr
  have marked := Marked.program 1 p r r' .new hr hr'
  cases v with
  | function f =>
    have hf : r'.next.state.frames.Binds f := ⟨"inc", globalFrame, _, hv, .self⟩
    obtain ⟨-, hall⟩ := lineage.chains_follow_text
    obtain ⟨-, hbound, -⟩ := hall _ _ marked
    obtain ⟨d, hd, hnested⟩ := hbound f hf
    have hbody : f.body.nesting = 2 := Option.some.inj hnesting
    obtain rfl : d = 1 := by omega
    exact ⟨r, r', f, _, _, lineage, marked, hf, hbody, hnested⟩
  | _ => cases hnesting

end Interpreter

end MonkeyLang
