import Mathlib.Logic.Relation
import MonkeyLang.Proofs.Evaluation.Locality
import MonkeyLang.Proofs.Evaluation.Renaming
import MonkeyLang.Syntax.Parsing

/-!
# Calls that are repeated

A call does not change what was there before it: it writes in frames that it makes.  So when a
value is called again, with other calls in between, the second call starts from the same frames as
the first, beside frames that were made in between, and does the same up to the numbers of the
frames and functions that it makes.

The main definitions are `Interpreter.Reachable`, the interpreters that programs, calls and resets
lead to, and `Interpreter.SameCall`, what two runs of a call have in common.
-/

namespace MonkeyLang

/-! ## Signals of calls -/

lemma Eval.ofExcept_ne_returned {α : Type} (x : Except RuntimeError α) (s : State) (v : Value)
    (t : State) : Eval.ofExcept x s ≠ .signal (.returned v) t := by
  cases x <;> nofun

lemma Primitive.call_ne_returned (p : Primitive) (args : List Value) (s : State) (v : Value)
    (t : State) : p.call args s ≠ .signal (.returned v) t := by
  unfold call
  split
  case h_2 => nofun
  all_goals exact Eval.ofExcept_ne_returned _ s v t

/-- A `return` does not leave a call. -/
lemma apply_ne_returned (table : BuiltinTable) (depth : Nat) (f : Value) (args : List Value)
    (s : State) (v : Value) (t : State) :
    apply table depth f args s ≠ .signal (.returned v) t := by
  unfold apply
  split
  · nofun
  · unfold Eval.catchReturn
    split
    · nofun
    · next hreturned => exact hreturned v t
  · exact Primitive.call_ne_returned _ _ _ v t
  · nofun

namespace Interpreter

/-! ## Reachable interpreters -/

/-- How many frames and functions an interpreter has made. -/
def extent (i : Interpreter) : Extent := i.state.extent

/-- A call of a value of the first interpreter, with arguments of it, ends and leaves the second
one. -/
inductive Call : Interpreter → Interpreter → Prop where
  | intro {i : Interpreter} (depth : Nat) (f : Value) (args : List Value)
      (r : Run (Except Signal Value)) (callee : f.MadeWithin i.extent)
      (arguments : ∀ v ∈ args, v.MadeWithin i.extent) (ends : i.apply depth f args = some r) :
      Call i r.next

/-- The interpreters that programs, calls and resets lead to, where every run ends. -/
inductive Reachable : Interpreter → Prop where
  | start : Reachable standard
  | program {i : Interpreter} (depth : Nat) (p : Program) (r : Run (Option Value))
      (before : Reachable i) (ends : i.run depth p = some r) : Reachable r.next
  | call {i j : Interpreter} (before : Reachable i) (call : Call i j) : Reachable j
  | reset {i : Interpreter} (before : Reachable i) : Reachable i.reset

/-! ## Related runs -/

/-- The runs have ended alike. -/
inductive RelatedEnds {α β : Type} (C : Correspondence Extent) (w : Extent)
    (Q : Extent → α → β → Prop) : Except Signal α → Except Signal β → Prop where
  | value {a : α} {b : β} (related : Q w a b) : RelatedEnds C w Q (.ok a) (.ok b)
  | signal {sig sig' : Signal} (related : C.Signals w sig sig') :
      RelatedEnds C w Q (.error sig) (.error sig')

/-- The runs have ended alike, printed the same and left related states. -/
structure RelatedRuns {α β : Type} (base extra w : Extent) (Q : Extent → α → β → Prop)
    (r : Run (Except Signal α)) (r' : Run (Except Signal β)) : Prop where
  ends : RelatedEnds (renumbering base extra) r.next.extent Q r.result r'.result
  printed : r'.printed = r.printed
  extent_le : w ≤ r.next.extent
  states : RenumberedStates base extra r.next.extent r.next.state r'.next.state

section

variable {α β : Type} {base extra w : Extent} {Q : Extent → α → β → Prop} {m : Eval α} {m' : Eval β}
  {i j : Interpreter}

/-- Evaluations that agree have related runs, or both use up their bound. -/
lemma relatedRuns_perform (hagree : (renumbering base extra).Agree w Q m m')
    (hs : RenumberedStates base extra w { i.state with printed := "", events := [] }
      { j.state with printed := "", events := [] }) :
    OptionRelated (RelatedRuns base extra w Q) (perform m i) (perform m' j) := by
  have houtcomes := hagree w (le_refl w) _ _ hs
  unfold perform
  generalize m { i.state with printed := "", events := [] } = o at houtcomes ⊢
  generalize m' { j.state with printed := "", events := [] } = o' at houtcomes ⊢
  cases houtcomes with
  | value larger states related =>
    obtain rfl := states.extent_eq
    exact .some ⟨.value related, states.printed, larger, states⟩
  | signal larger states related =>
    obtain rfl := states.extent_eq
    exact .some ⟨.signal related, states.printed, larger, states⟩
  | exhausted => exact .none

end

/-! ## Well-formed interpreters -/

/-- The functions in the frames of the interpreter were made, in frames that were made; the global
frame is there. -/
def WellFormed (i : Interpreter) : Prop :=
  RenumberedStates ⟨1, 0⟩ .none i.extent i.state i.state

/-- Nothing of the first interpreter is lost or changed in the second one. -/
structure Extends (i j : Interpreter) : Prop where
  builtins : j.builtins = i.builtins
  extent_le : i.extent ≤ j.extent
  frame : ∀ n, n < i.extent.frames → j.state.frames[n]? = i.state.frames[n]?

section

variable {i j k : Interpreter} {depth : Nat} {f v : Value} {args : List Value}

lemma Extends.refl (i : Interpreter) : i.Extends i := ⟨rfl, le_refl _, fun _ _ => rfl⟩

lemma Extends.trans (h : i.Extends j) (h' : j.Extends k) : i.Extends k where
  builtins := h'.builtins.trans h.builtins
  extent_le := le_trans h.extent_le h'.extent_le
  frame n hn := by
    rw [h'.frame n (Nat.lt_of_lt_of_le hn h.extent_le.1), h.frame n hn]

lemma wellFormed_new (builtins : BuiltinTable) : (new builtins).WellFormed where
  extent_eq := rfl
  extent_eq' := rfl
  base_le := le_refl _
  frames := .of_empty Frames.ordered_empty rfl
  printed := rfl
  events := rfl

/-- A program keeps an interpreter well formed. -/
lemma WellFormed.run {p : Program} {r : Run (Option Value)} (h : i.WellFormed)
    (ends : i.run depth p = some r) : r.next.WellFormed := by
  have hhosts : (renumbering ⟨1, 0⟩ .none).Hosts id .all i.extent globalFrame globalFrame :=
    renumbering.hosts h.base_le.1
  have hagree : (renumbering ⟨1, 0⟩ .none).Agree i.extent (renumbering ⟨1, 0⟩ .none).Results
      (evalProgram i.builtins depth p) (evalProgram i.builtins depth p) :=
    Correspondence.evalProgram_agree_self renumbering.enterable depth p
      (withinStmts_all p.statements) hhosts
  have hruns := relatedRuns_perform hagree (i := i) (j := i) h.restart
  obtain ⟨r, hr, rfl⟩ := Option.map_eq_some_iff.1 ends
  rw [hr] at hruns
  cases hruns with
  | some related => exact related.states

/-- Calls agree beside what was made in between. -/
lemma relatedRuns_apply {base extra w : Extent} (depth : Nat)
    (hbuiltins : j.builtins = i.builtins)
    (hs : RenumberedStates base extra w { i.state with printed := "", events := [] }
      { j.state with printed := "", events := [] })
    (callee : f.MadeWithin w) (arguments : ∀ v ∈ args, v.MadeWithin w)
    (hsame : ∀ g : Closure, g.MadeWithin w → g.renumber base extra = g) :
    OptionRelated (RelatedRuns base extra w (renumbering base extra).values)
      (i.apply depth f args) (j.apply depth f args) := by
  have hargs : RelatedElements (renumberedLeaves base extra w) args args :=
    relatedElements_iff.2 (List.forall₂_same.2 fun v hv => (arguments v hv).related hsame)
  have hagree : (renumbering base extra).Agree w (renumbering base extra).values
      (MonkeyLang.apply i.builtins depth f args) (MonkeyLang.apply i.builtins depth f args) :=
    Correspondence.apply_agree renumbering.enterable depth w f f args args (callee.related hsame)
      hargs
  rw [apply, apply, hbuiltins]
  exact relatedRuns_perform hagree hs

lemma WellFormed.reset (h : i.WellFormed) : i.reset.WellFormed := by
  have hextent : i.reset.extent = i.extent := by
    rw [extent, extent, State.extent, State.extent, Interpreter.reset, Frames.clear,
      Array.size_modify]
  have hclear := h.frames.clear (fun _ _ => shifted_inj) globalFrame
  rw [WellFormed, hextent]
  exact ⟨hextent, hextent.trans h.extent_eq', h.base_le, hclear, rfl, rfl⟩

/-- What a name has as its value is a value of the interpreter. -/
lemma WellFormed.madeWithin_of_lookup (h : i.WellFormed) {scope : FrameId} {name : String}
    (hscope : scope < i.extent.frames) (hv : i.state.frames.lookup scope name = some v) :
    v.MadeWithin i.extent := by
  have hlookup : OptionRelated _ (i.state.frames.lookup scope name)
      (i.state.frames.lookup (shifted 1 0 scope) name) := h.frames.lookup hscope name
  rw [shifted_zero, hv] at hlookup
  cases hlookup with
  | some related => exact Value.madeWithin_of_related related

/-! ## Calls -/

lemma endsIn_of_perform {α : Type} {m : Eval α} {r : Run (Except Signal α)}
    (h : perform m i = some r) :
    (m { i.state with printed := "", events := [] }).EndsIn r.next.state ∧
      r.next.builtins = i.builtins := by
  unfold perform at h
  split at h
  · next a s hm =>
    obtain rfl := Option.some.inj h
    exact ⟨.inl ⟨a, hm⟩, rfl⟩
  · next sig s hm =>
    obtain rfl := Option.some.inj h
    exact ⟨.inr ⟨sig, hm⟩, rfl⟩
  · cases h

/-- A call of an interpreter is related to itself. -/
lemma WellFormed.relatedRuns_apply_self {r : Run (Except Signal Value)} (h : i.WellFormed)
    (callee : f.MadeWithin i.extent) (arguments : ∀ v ∈ args, v.MadeWithin i.extent)
    (ends : i.apply depth f args = some r) :
    RelatedRuns ⟨1, 0⟩ .none i.extent (renumbering ⟨1, 0⟩ .none).values r r := by
  have hruns := relatedRuns_apply depth rfl h.restart callee arguments
    fun g _ => g.renumber_none
  rw [ends] at hruns
  cases hruns with
  | some related => exact related

/-- The result of a call is a value of the interpreter behind it. -/
lemma WellFormed.madeWithin_of_apply {r : Run (Except Signal Value)} (h : i.WellFormed)
    (callee : f.MadeWithin i.extent) (arguments : ∀ v ∈ args, v.MadeWithin i.extent)
    (ends : i.apply depth f args = some r) (hv : r.result = .ok v) :
    v.MadeWithin r.next.extent := by
  have hends := (h.relatedRuns_apply_self callee arguments ends).ends
  rw [hv] at hends
  cases hends with
  | value related => exact Value.madeWithin_of_related related

/-- A call keeps an interpreter well formed, and nothing of it is lost. -/
lemma Call.extends (hi : i.WellFormed) (h : Call i j) : j.WellFormed ∧ i.Extends j := by
  obtain ⟨depth, f, args, r, callee, arguments, ends⟩ := h
  have hself := hi.relatedRuns_apply_self callee arguments ends
  obtain ⟨hends, hbuiltins⟩ := endsIn_of_perform ends
  exact ⟨hself.states, hbuiltins, hself.extent_le,
    fun n hn => (preserved_apply hends).frame n hn id⟩

lemma extends_of_calls (hi : i.WellFormed) (h : Relation.ReflTransGen Call i j) :
    j.WellFormed ∧ i.Extends j := by
  induction h with
  | refl => exact ⟨hi, .refl i⟩
  | tail _ call ih =>
    obtain ⟨hwell, hextends⟩ := call.extends ih.1
    exact ⟨hwell, ih.2.trans hextends⟩

lemma Reachable.wellFormed (h : i.Reachable) : i.WellFormed := by
  induction h with
  | start => exact wellFormed_new .standard
  | program depth p r _ ends ih => exact ih.run ends
  | call _ call ih => exact (call.extends ih).1
  | reset _ ih => exact ih.reset

/-- Beside what was made in between, the interpreter is as it was. -/
lemma Extends.renumbered (h : i.Extends j) (hi : i.WellFormed) (hj : j.WellFormed) :
    ∃ extra, j.extent = i.extent.plus extra ∧
      RenumberedStates i.extent extra i.extent { i.state with printed := "", events := [] }
        { j.state with printed := "", events := [] } := by
  obtain ⟨extra, hextra⟩ : ∃ extra, j.extent = i.extent.plus extra := by
    obtain ⟨frames, hframes⟩ := Nat.exists_eq_add_of_le h.extent_le.1
    obtain ⟨functions, hfunctions⟩ := Nat.exists_eq_add_of_le h.extent_le.2
    exact ⟨⟨frames, functions⟩, congrArg₂ Extent.mk hframes hfunctions⟩
  have hframes : RelatedFrames (renumberedLeaves i.extent extra i.extent)
      (shifted i.extent.frames extra.frames) i.state.frames j.state.frames := by
    refine ⟨hi.frames.ordered, hj.frames.ordered, fun n hn => ?_⟩
    have hframe : OptionRelated _ i.state.frames[n]? i.state.frames[shifted 1 0 n]? :=
      hi.frames.frame n hn
    have hf : i.state.frames[n]? = some i.state.frames[n] := Array.getElem?_eq_getElem hn
    rw [shifted_zero, hf] at hframe
    rw [shifted_of_lt (show n < i.extent.frames from hn), h.frame n hn, hf]
    cases hframe with
    | some related =>
      refine .some ⟨fun name => (related.bindings name).imp fun v v' hv => ?_, ?_⟩
      · -- What was made before has its number in both runs.
        refine hv.mono ?_ fun _ _ => trivial
        rintro g _ ⟨hmade, rfl⟩
        exact ⟨hmade, g.renumber_none.trans hmade.renumber_eq.symm⟩
      · cases hparent : i.state.frames[n].parent with
        | none => rfl
        | some p =>
          have hp : p < n := hi.frames.ordered n _ p hf hparent
          have hold : p < i.extent.frames := Nat.lt_trans hp hn
          rw [Option.map_some, shifted_of_lt hold]
  exact ⟨extra, hextra, rfl, hextra, le_refl _, hframes, rfl, rfl⟩

/-! ## Repeated calls -/

/-- The results are equal up to the numbers of frames and functions from `base` on, or the same
error. -/
inductive SameResult (base extra w : Extent) :
    Except Signal Value → Except Signal Value → Prop where
  | value {v : Value} (made : v.MadeWithin w)
      (display : (v.mapClosures (Closure.renumber base extra)).display = v.display) :
      SameResult base extra w (.ok v) (.ok (v.mapClosures (Closure.renumber base extra)))
  | failed {e : RuntimeError} : SameResult base extra w (.error (.failed e)) (.error (.failed e))

/-- The second run of a call has the result of the first and prints the same, and the frames behind
it correspond.  What the first run makes is numbered from `base` on, and the numbers of the second
run are larger by `extra`. -/
structure SameCall (base extra : Extent) (r r' : Run (Except Signal Value)) : Prop where
  result : SameResult base extra r.next.extent r.result r'.result
  printed : r'.printed = r.printed
  frames : RelatedFrames (renumberedLeaves base extra r.next.extent)
    (shifted base.frames extra.frames) r.next.state.frames r'.next.state.frames

lemma result_ne_returned {r : Run (Except Signal Value)} (ends : i.apply depth f args = some r) :
    r.result ≠ .error (.returned v) := by
  unfold apply perform at ends
  split at ends
  · obtain rfl := Option.some.inj ends
    intro hreturned
    cases hreturned
  · next sig s hsignal =>
    obtain rfl := Option.some.inj ends
    intro hreturned
    obtain rfl := Except.error.inj hreturned
    exact apply_ne_returned _ _ _ _ _ _ _ hsignal
  · cases ends

lemma RelatedRuns.sameCall {base extra w : Extent} {r r' : Run (Except Signal Value)}
    (h : RelatedRuns base extra w (renumbering base extra).values r r')
    (hmade : ∀ v, r.result = .ok v → v.MadeWithin r.next.extent)
    (hreturned : ∀ v, r.result ≠ .error (.returned v)) : SameCall base extra r r' := by
  refine ⟨?_, h.printed, h.states.frames⟩
  have hends := h.ends
  generalize r.result = o at hends hmade hreturned ⊢
  generalize r'.result = o' at hends ⊢
  cases hends with
  | @value v v' related =>
    have hdisplay := related.display_eq fun _ _ => (renumbering base extra).display_eq
    obtain rfl := renumbering.eq_of_values related
    exact .value (hmade v rfl) hdisplay.symm
  | signal related =>
    cases related with
    | @returned v => exact absurd rfl (hreturned v)
    | failed => exact .failed

/-- A call that ends in a reachable interpreter ends again after any other calls, with the same
result up to the numbers of the frames and functions that the two runs make, or the same error, and
prints the same. -/
theorem apply_repeatable {r : Run (Except Signal Value)} (reachable : i.Reachable)
    (callee : f.MadeWithin i.extent) (arguments : ∀ v ∈ args, v.MadeWithin i.extent)
    (ends : i.apply depth f args = some r) (calls : Relation.ReflTransGen Call r.next j) :
    ∃ extra r', j.extent = i.extent.plus extra ∧ j.apply depth f args = some r' ∧
      SameCall i.extent extra r r' := by
  have hi := reachable.wellFormed
  obtain ⟨hnext, hextends⟩ := (Call.intro depth f args r callee arguments ends).extends hi
  obtain ⟨hj, hextends'⟩ := extends_of_calls hnext calls
  have hwhole := hextends.trans hextends'
  obtain ⟨extra, hextra, hstates⟩ := hwhole.renumbered hi hj
  have hruns := relatedRuns_apply depth hwhole.builtins hstates callee arguments
    fun g hg => hg.renumber_eq
  generalize j.apply depth f args = o at hruns ⊢
  rw [ends] at hruns
  cases hruns with
  | @some _ r' related =>
    refine ⟨extra, r', hextra, rfl, related.sameCall ?_ ?_⟩
    · exact fun v hv => hi.madeWithin_of_apply callee arguments ends hv
    · exact fun v => result_ne_returned ends

/-- A function that prints and makes a function, called again after a call with another
argument. -/
theorem apply_repeatable_maker : ∃ (i : Interpreter) (f : Value)
    (r r₁ r' : Run (Except Signal Value)) (extra : Extent),
    i.Reachable ∧ i.state.frames.lookup globalFrame "f" = some f ∧
      i.apply 1 f [.integer 1] = some r ∧ r.printed = "1\n" ∧
      r.next.apply 1 f [.integer 2] = some r₁ ∧
      r₁.next.apply 1 f [.integer 1] = some r' ∧ SameCall i.extent extra r r' := by
  have hruns : (do
      let p ← (Program.parse "let f = fn(x) { puts(x); fn() { x } };").toOption
      let made ← standard.run 0 p
      let f ← made.next.state.frames.lookup globalFrame "f"
      let r ← made.next.apply 1 f [.integer 1]
      let r₁ ← r.next.apply 1 f [.integer 2]
      return (r.printed, r₁.printed)) = some ("1\n", "2\n") := by decide +kernel
  simp only [Option.bind_eq_bind, Option.bind_eq_some_iff, Option.pure_def, Option.some.injEq,
    Prod.mk.injEq] at hruns
  obtain ⟨p, -, made, hmade, f, hf, r, hr, r₁, hr₁, hprinted, -⟩ := hruns
  have reachable : made.next.Reachable := .program 0 p made .start hmade
  have hwell := reachable.wellFormed
  have callee := hwell.madeWithin_of_lookup hwell.base_le.1 hf
  have hinteger : ∀ (w : Extent) (n : Int64), ∀ v ∈ [Value.integer n], v.MadeWithin w :=
    fun w n => List.forall_mem_singleton.2 .integer
  have hself := hwell.relatedRuns_apply_self callee (hinteger _ 1) hr
  have hcall : Call r.next r₁.next := .intro 1 f [.integer 2] r₁
    (callee.mono hself.extent_le) (hinteger _ 2) hr₁
  obtain ⟨extra, r', -, hr', hsame⟩ :=
    apply_repeatable reachable callee (hinteger _ 1) hr (.single hcall)
  exact ⟨made.next, f, r, r₁, r', extra, reachable, hf, hr, hprinted, hr₁, hr', hsame⟩

end

end Interpreter

end MonkeyLang
