import MonkeyLang.Proofs.Evaluation.Shift
import MonkeyLang.Session

/-!
# Sessions after a reset

A reset removes the global bindings and leaves all other frames where they are.  Nothing refers to
them any more, so the session behaves as a new one does: the two have corresponding frames, and
corresponding sessions answer alike.

The main definitions are `Session.Reachable`, the sessions that inputs and resets lead to, and
`Session.transcript`, what a session shows for a list of commands.
-/

namespace MonkeyLang

namespace Session

/-! ## Transcripts -/

/-- What a session can be asked to do. -/
inductive Command where
  | input (text : String)
  | reset

/-- Whether a command can be carried out: an input has to be parsed. -/
def Command.parses : Command → Bool
  | .input text => (Program.parse text).isOk
  | .reset => true

/-- What shows of the answer to an input: its printed form, and what was printed on the way. -/
structure Answer where
  input : String
  display : String
  printed : String
deriving DecidableEq

/-- The answers to the inputs of a list of commands; none if calls were nested more deeply than
`depth` at one of them. -/
def transcript (depth : Nat) : List Command → Session → Option (List Answer)
  | [], _ => some []
  | .input text :: commands, s => do
    let x ← s.eval depth text
    let answers ← transcript depth commands x.next
    return ⟨text, x.response.display, x.printed⟩ :: answers
  | .reset :: commands, s => transcript depth commands s.reset

/-- The sessions that inputs and resets lead to, where every evaluation ends. -/
inductive Reachable : Session → Prop where
  | start : Reachable new
  | answer {s : Session} (depth : Nat) (text : String) (x : Exchange) (before : Reachable s)
      (ends : s.eval depth text = some x) : Reachable x.next
  | reset {s : Session} (before : Reachable s) : Reachable s.reset

/-! ## Corresponding sessions -/

/-- The sessions have the same standard functions, and frames that correspond, the global frame to
the global frame. -/
structure Corresponds (extra : Nat) (s s' : Session) : Prop where
  builtins : s'.interpreter.builtins = s.interpreter.builtins
  frames : ShiftedFrames 1 extra s.interpreter.state.frames s'.interpreter.state.frames

variable {extra : Nat} {s s' : Session}

/-- What shows of corresponding answers is the same. -/
structure SameAnswer (extra : Nat) (x x' : Exchange) : Prop where
  display : x.response.display = x'.response.display
  printed : x.printed = x'.printed
  next : Corresponds extra x.next x'.next

lemma display_eq_of_results {w : Nat} {o o' : Option Value}
    (h : (shifting 1 extra).Results w o o') :
    (Response.evaluated o).display = (Response.evaluated o').display := by
  have hdisplay : ∀ o : Option Value,
      (Response.evaluated o).display = (o.map Value.display).getD "" := by
    intro o
    cases o <;> rfl
  rw [hdisplay, hdisplay, h.display_eq]

/-- A program has corresponding outcomes in corresponding sessions. -/
lemma Corresponds.outcomes (h : Corresponds extra s s') (depth : Nat) (p : Program) :
    (shifting 1 extra).Outcomes s.interpreter.state.frames.size (shifting 1 extra).Results
      (evalProgram s.interpreter.builtins depth p
        { s.interpreter.state with printed := "", events := [] })
      (evalProgram s'.interpreter.builtins depth p
        { s'.interpreter.state with printed := "", events := [] }) := by
  have hglobal : (shifting 1 extra).Hosts id .all s.interpreter.state.frames.size globalFrame
      globalFrame := shifting.hosts h.frames.base_le
  have hagree : (shifting 1 extra).Agree s.interpreter.state.frames.size (shifting 1 extra).Results
      (evalProgram s.interpreter.builtins depth p) (evalProgram s.interpreter.builtins depth p) :=
    Correspondence.evalProgram_agree_self shifting.enterable depth p
      (withinStmts_all p.statements) hglobal
  rw [h.builtins]
  exact hagree _ (le_refl _) _ _ ⟨rfl, h.frames, rfl, rfl⟩

/-- Corresponding sessions answer alike, or both do not answer. -/
lemma Corresponds.eval (h : Corresponds extra s s') (depth : Nat) (text : String) :
    OptionRelated (SameAnswer extra) (s.eval depth text) (s'.eval depth text) := by
  unfold Session.eval
  cases Program.parse text with
  | error errors => exact .some ⟨rfl, rfl, h⟩
  | ok p =>
    have houtcomes := h.outcomes depth p
    simp only [Interpreter.run, Interpreter.perform]
    generalize evalProgram s.interpreter.builtins depth p _ = o at houtcomes ⊢
    generalize evalProgram s'.interpreter.builtins depth p _ = o' at houtcomes ⊢
    cases houtcomes with
    | value _ states related =>
      exact .some ⟨display_eq_of_results related, states.printed.symm, h.builtins, states.frames⟩
    | signal _ states _ => exact .some ⟨rfl, states.printed.symm, h.builtins, states.frames⟩
    | exhausted => exact .none

lemma Corresponds.reset (h : Corresponds extra s s') : Corresponds extra s.reset s'.reset :=
  ⟨h.builtins, h.frames.clear globalFrame⟩

/-- Corresponding sessions show the same for all commands. -/
lemma Corresponds.transcript_eq (h : Corresponds extra s s') (depth : Nat)
    (commands : List Command) : s.transcript depth commands = s'.transcript depth commands := by
  induction commands generalizing s s' with
  | nil => rfl
  | cons command commands ih =>
    cases command with
    | input text =>
      have heval := h.eval depth text
      rw [transcript, transcript]
      generalize s.eval depth text = o at heval ⊢
      generalize s'.eval depth text = o' at heval ⊢
      cases heval with
      | none => rfl
      | some related =>
        rw [Option.bind_eq_bind, Option.bind_some, Option.bind_eq_bind, Option.bind_some,
          ih related.next, related.display, related.printed]
    | reset =>
      rw [transcript, transcript]
      exact ih h.reset

/-! ## Reachable sessions -/

/-- Beside any left over frames, an empty global frame corresponds to an empty global frame. -/
lemma shiftedFrames_of_empty {frames : Frames} (hordered : frames.Ordered)
    (hsize : frames.size = 1 + extra) (hempty : frames[0]? = some ⟨[], none⟩) :
    ShiftedFrames 1 extra #[Frames.emptyFrame] frames :=
  .of_related (le_refl 1) hsize (.of_empty hordered hempty)

/-- The frames of a new session correspond to themselves. -/
lemma corresponds_new : Corresponds 0 new new where
  builtins := rfl
  frames := shiftedFrames_of_empty Frames.ordered_empty rfl rfl

/-- A reachable session corresponds to itself: its frames are well formed. -/
lemma Reachable.corresponds (h : Reachable s) : Corresponds 0 s s := by
  induction h with
  | start => exact corresponds_new
  | @answer s depth text x _ ends ih =>
    have heval := ih.eval depth text
    rw [ends] at heval
    cases heval with
    | some related => exact related.next
  | reset _ ih => exact ih.reset

lemma builtins_of_eval {depth : Nat} {text : String} {x : Exchange}
    (h : s.eval depth text = some x) :
    x.next.interpreter.builtins = s.interpreter.builtins := by
  unfold Session.eval at h
  cases hparse : Program.parse text with
  | error errors =>
    rw [hparse] at h
    obtain rfl := Option.some.inj h
    rfl
  | ok p =>
    simp only [hparse, Interpreter.run, Interpreter.perform, Option.map_map] at h
    obtain ⟨r, hr, rfl⟩ := Option.map_eq_some_iff.1 h
    split at hr
    · obtain rfl := Option.some.inj hr
      rfl
    · obtain rfl := Option.some.inj hr
      rfl
    · cases hr

lemma Reachable.builtins_eq (h : Reachable s) : s.interpreter.builtins = .standard := by
  induction h with
  | start => rfl
  | answer depth text x _ ends ih => rw [builtins_of_eval ends, ih]
  | reset _ ih => exact ih

/-- The oldest frame has no parent, and a reset leaves it without bindings. -/
lemma clear_zero {frames : Frames} (hordered : frames.Ordered) (hsize : 0 < frames.size) :
    (frames.clear 0)[0]? = some ⟨[], none⟩ := by
  rw [Frames.clear, Array.getElem?_modify, if_pos rfl, Array.getElem?_eq_getElem hsize,
    Option.map_some]
  cases hparent : frames[0].parent with
  | none => rfl
  | some p =>
    have hp := hordered 0 frames[0] p (Array.getElem?_eq_getElem hsize) hparent
    exact absurd hp (Nat.not_lt_zero p)

/-- Behind a reset, a reachable session corresponds to a new one. -/
lemma Reachable.corresponds_reset (h : Reachable s) :
    ∃ extra, Corresponds extra new s.reset := by
  have hframes := h.corresponds.frames
  have hordered := hframes.ordered.clear globalFrame
  have hsize : s.reset.interpreter.state.frames.size = s.interpreter.state.frames.size :=
    Array.size_modify
  have hbase := hframes.base_le
  refine ⟨s.interpreter.state.frames.size - 1, h.builtins_eq, ?_⟩
  exact shiftedFrames_of_empty hordered (by omega) (clear_zero hframes.ordered hbase)

/-! ## Resets and rejected inputs -/

/-- An input that cannot be parsed leaves a session as it was. -/
lemma transcript_input_of_error {depth : Nat} {text : String} {commands : List Command}
    {errors : List ParseError} (h : Program.parse text = .error errors) :
    s.transcript depth (.input text :: commands) = (s.transcript depth commands).map
      (⟨text, (Response.parseErrors errors).display, ""⟩ :: ·) := by
  have heval : s.eval depth text = some ⟨.parseErrors errors, "", [], s⟩ := by
    rw [Session.eval, h]
  rw [transcript, heval, Option.bind_eq_bind, Option.bind_some]
  cases transcript depth commands s <;> rfl

/-- Without the inputs that cannot be parsed, a session shows the same apart from the answers to
them. -/
lemma transcript_filter (depth : Nat) (commands : List Command) (s : Session) :
    transcript depth (commands.filter Command.parses) s =
      (transcript depth commands s).map (List.filter fun a => (Program.parse a.input).isOk) := by
  induction commands generalizing s with
  | nil => rfl
  | cons command commands ih =>
    cases command with
    | input text =>
      cases hparse : Program.parse text with
      | error errors =>
        have hdeleted : (Command.input text).parses = false := by rw [Command.parses, hparse]; rfl
        rw [List.filter_cons_of_neg (by simp [hdeleted]), ih, transcript_input_of_error hparse]
        cases transcript depth commands s with
        | none => rfl
        | some answers => simp [hparse, Except.isOk, Except.toBool]
      | ok p =>
        have hkept : (Command.input text).parses = true := by rw [Command.parses, hparse]; rfl
        rw [List.filter_cons_of_pos hkept, transcript, transcript]
        cases s.eval depth text with
        | none => rfl
        | some x =>
          simp only [Option.bind_eq_bind, Option.bind_some, ih]
          cases transcript depth commands x.next with
          | none => rfl
          | some answers => simp [hparse, Except.isOk, Except.toBool]
    | reset =>
      rw [List.filter_cons_of_pos rfl, transcript, transcript]
      exact ih s.reset

/-- A reset makes any session that inputs and resets lead to behave as a new one; and a session
shows the same without the inputs that cannot be parsed, apart from the answers to them. -/
theorem transcript_reset :
    (∀ s, Reachable s → ∀ depth commands,
      s.reset.transcript depth commands = new.transcript depth commands) ∧
    (∀ s depth commands, transcript depth (commands.filter Command.parses) s =
      (transcript depth commands s).map
        (List.filter fun a => (Program.parse a.input).isOk)) := by
  constructor
  · intro s hs depth commands
    obtain ⟨extra, hcorresponds⟩ := hs.corresponds_reset
    exact (hcorresponds.transcript_eq depth commands).symm
  · intro s depth commands
    exact transcript_filter depth commands s

/-- A binding is gone behind a reset. -/
theorem transcript_reset_binding :
    ∃ s, Reachable s ∧ s.transcript 1 [.input "x"] = some [⟨"x", "1", ""⟩] ∧
      s.reset.transcript 1 [.input "x"] = new.transcript 1 [.input "x"] ∧
      new.transcript 1 [.input "x"] = some [⟨"x", "ERROR: identifier not found: x", ""⟩] := by
  have hreachable : Reachable ((new.eval 1 "let x = 1;").get (by decide +kernel)).next :=
    .answer 1 "let x = 1;" _ .start (Option.some_get _).symm
  refine ⟨_, hreachable, ?_, transcript_reset.1 _ hreachable 1 [.input "x"], ?_⟩
  · decide +kernel
  · decide +kernel

end Session

end MonkeyLang
