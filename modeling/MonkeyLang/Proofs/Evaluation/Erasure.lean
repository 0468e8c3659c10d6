import Mathlib.Order.Nat
import MonkeyLang.Interpreter
import MonkeyLang.Proofs.Evaluation.Agreement
import MonkeyLang.Proofs.Evaluation.Closures

/-!
# Evaluation without spans

Evaluation does not look at spans: what a program does in an interpreter it does as well without
its spans in the interpreter without spans.  `Interpreter.run_eraseSpans` says so, and with it
programs that are equal up to spans are evaluated alike.
-/

namespace MonkeyLang

/-! ## Erasing spans -/

/-- The function without the spans in its parameters and its body. -/
def Closure.eraseSpans (f : Closure) : Closure :=
  { f with parameters := f.parameters.map (Ident.mapTokens .eraseSpan),
           body := f.body.mapTokens .eraseSpan }

/-- The value without the spans in functions. -/
abbrev Value.eraseSpans : Value → Value := Value.mapClosures Closure.eraseSpans

/-- The state without the spans in functions. -/
abbrev State.eraseSpans : State → State := State.mapClosures Closure.eraseSpans

/-- The program without spans. -/
abbrev Program.eraseSpans : Program → Program := Program.mapTokens Token.eraseSpan

/-- The interpreter without the spans in functions. -/
def Interpreter.eraseSpans (i : Interpreter) : Interpreter := { i with state := i.state.eraseSpans }

lemma Closure.display_eraseSpans (f : Closure) : f.eraseSpans.display = f.display := by
  rw [display, display, parameterNames, parameterNames, eraseSpans, map_name_mapTokens,
    Block.render_mapTokens Token.literal_eraseSpan]

/-! ## Two runs -/

/-- Two runs, the second without spans, in whatever world. -/
def erasing : Correspondence Nat where
  leaves _ := ⟨fun f g => g = f.eraseSpans, fun _ => True⟩
  state _ s s' := s' = s.eraseSpans
  closures_mono _ h := h
  errors_mono _ _ := trivial
  display_eq := by
    rintro _ f _ rfl
    exact f.display_eraseSpans.symm
  note e h := by
    rw [h]
    exact State.note_mapClosures e _
  print _ h := by
    rw [h]
    rfl

namespace erasing

variable {w : Nat}

lemma values_eraseSpans (v : Value) : erasing.values w v v.eraseSpans :=
  v.related_mapClosures (fun _ => rfl) fun _ => trivial

lemma eq_of_values {v v' : Value} (h : erasing.values w v v') : v' = v.eraseSpans :=
  h.eq_mapClosures fun _ _ hf => hf

/-- Code may run in every frame. -/
lemma hosts (i : FrameId) : erasing.Hosts .eraseSpan .all w i i where
  lookup name _ := by
    rintro _ _ s _ rfl
    refine .value (le_refl _) rfl ?_
    rw [State.eraseSpans, State.mapClosures, Frames.lookup_mapClosures]
    cases s.frames.lookup i name with
    | none => exact .none
    | some v => exact .some (values_eraseSpans v)
  assign name _ := by
    rintro _ _ v _ hv _ _ s _ rfl
    obtain rfl := eq_of_values hv
    refine .value (le_refl _) ?_ trivial
    simp only [erasing, State.eraseSpans, State.mapClosures, Frames.set_mapClosures]
  make parameters body _ := by
    rintro _ _ s _ rfl
    exact .value (le_refl _) rfl (.function rfl)

lemma enterable : erasing.Enterable .eraseSpan := by
  rintro _ f _ rfl
  refine ⟨rfl, rfl, .all, f.body.within_all, fun _ _ => trivial, ?_⟩
  rintro _ _ s _ rfl
  have hsize : s.eraseSpans.frames.size = s.frames.size := Frames.size_mapClosures _
  have henter : Eval.enter f.scope s.eraseSpans =
      .value s.frames.size
        { s.eraseSpans with frames := (s.frames.child f.scope).2.mapClosures .eraseSpans } := by
    rw [Eval.enter, hsize, ← Frames.child_mapClosures]
    rfl
  have hentered : Eval.enter f.eraseSpans.scope s.eraseSpans = _ := henter
  rw [hentered]
  exact .value (le_refl _) rfl (hosts _)

end erasing

/-! ## Programs -/

/-- The run without the spans in functions. -/
def Run.eraseSpans (r : Run (Option Value)) : Run (Option Value) :=
  { r with result := r.result.map .eraseSpans, next := r.next.eraseSpans }

lemma Value.display_eraseSpans (v : Value) : v.eraseSpans.display = v.display :=
  ((erasing.values_eraseSpans (w := 0) v).display_eq fun _ _ => erasing.display_eq).symm

namespace Interpreter

variable {i j : Interpreter} {p q : Program}

/-- What a program does without spans is what it does with them, without spans. -/
theorem run_eraseSpans (depth : Nat) (p : Program) (i : Interpreter) :
    i.eraseSpans.run depth p.eraseSpans = (i.run depth p).map Run.eraseSpans := by
  have hagree : erasing.Agree 0 erasing.Results (evalProgram i.builtins depth p)
      (evalProgram i.builtins depth p.eraseSpans) :=
    Correspondence.evalProgram_agree erasing.enterable depth p (withinStmts_all p.statements)
      (erasing.hosts globalFrame)
  have houtcomes : erasing.Outcomes 0 erasing.Results
      (evalProgram i.builtins depth p { i.state with printed := "", events := [] })
      (evalProgram i.eraseSpans.builtins depth p.eraseSpans
        { i.eraseSpans.state with printed := "", events := [] }) := hagree 0 (le_refl _) _ _ rfl
  simp only [run, perform, Option.map_map]
  generalize evalProgram i.builtins depth p _ = o at houtcomes ⊢
  generalize evalProgram i.eraseSpans.builtins depth p.eraseSpans _ = o' at houtcomes ⊢
  cases houtcomes with
  | value _ states related =>
    obtain rfl := states
    obtain rfl := related.eq_map erasing.eq_of_values fun _ => rfl
    rfl
  | signal _ states _ =>
    obtain rfl := states
    rfl
  | exhausted => rfl

/-- Programs that are equal up to spans do the same. -/
lemma run_eq_of_eraseSpans_eq (hp : p.eraseSpans = q.eraseSpans)
    (hi : i.eraseSpans = j.eraseSpans) (depth : Nat) :
    (i.run depth p).map Run.eraseSpans = (j.run depth q).map Run.eraseSpans := by
  rw [← run_eraseSpans, ← run_eraseSpans, hp, hi]

end Interpreter

end MonkeyLang
