import MonkeyLang.CommandLine.Report
import MonkeyLang.Proofs.Evaluation.ErrorFree

/-!
# Failures

A program has failed if its result is an error, and the command that runs a file tells success from
failure by that alone.  It may, since errors are never stored: the result of a program is an error
exactly if its evaluation has signalled one.  So the command fails exactly for texts that cannot be
parsed or whose evaluation signals an error, and for all others it prints what a new session answers.
-/

namespace MonkeyLang

/-! ## The log -/

/-- Without a filter nothing is logged. -/
lemma Log.Filter.admits_silent (r : Log.Record) : Log.Filter.silent.admits r = false := by
  obtain ⟨event, activity⟩ := r
  cases activity <;> cases event <;> rfl

lemma Log.Filter.render_silent (records : List Log.Record) :
    Log.Filter.silent.render records = "" := by
  have hnone : records.filter Log.Filter.silent.admits = [] :=
    List.filter_eq_nil_iff.2 fun r _ => by simp [admits_silent]
  rw [render, hnone]
  rfl

/-! ## What `run` reports -/

/-- The printed form of an answer on a line of its own; nothing for a program without a value. -/
def Response.line : Response → String
  | .evaluated none => ""
  | r => r.display ++ "\n"

/-- The text is a program, and its evaluation in a new session signals the error. -/
def Session.FailsWith (depth : Nat) (text : String) (e : RuntimeError) : Prop :=
  ∃ p, Program.parse text = .ok p ∧ new.interpreter.Signals depth p e

/-- Whether a program has failed is seen from its result. -/
lemma Session.failsWith_iff {depth : Nat} {text : String} {p : Program} {e : RuntimeError}
    (hparse : Program.parse text = .ok p) : FailsWith depth text e ↔
      ∃ r, Interpreter.standard.run depth p = some r ∧ r.result = some (.error e) := by
  rw [Interpreter.result_eq_error_iff Frames.errorFree_empty]
  constructor
  · rintro ⟨q, hq, hsignals⟩
    obtain rfl := Except.ok.inj (hparse.symm.trans hq)
    exact hsignals
  · exact fun hsignals => ⟨p, hparse, hsignals⟩

/-- The error that a value is, if it is one. -/
def Value.failure? : Value → Option RuntimeError
  | .error e => some e
  | _ => none

lemma Value.failure?_eq_some_iff {v : Value} {e : RuntimeError} :
    v.failure? = some e ↔ v = .error e := by
  cases v <;> simp [failure?]

/-- The error that the evaluation of a text in a new session signals, if it signals one. -/
def Session.failure? (depth : Nat) (text : String) : Option RuntimeError := do
  let p ← (Program.parse text).toOption
  let r ← Interpreter.standard.run depth p
  (← r.result).failure?

lemma Session.failure?_eq_some_iff {depth : Nat} {text : String} {e : RuntimeError} :
    failure? depth text = some e ↔ FailsWith depth text e := by
  cases hparse : Program.parse text with
  | error errors =>
    constructor
    · intro h
      rw [failure?, hparse] at h
      cases h
    · rintro ⟨p, hp, -⟩
      rw [hparse] at hp
      cases hp
  | ok p =>
    have hrun : failure? depth text = (Interpreter.standard.run depth p).bind
        fun r => r.result.bind Value.failure? := by
      rw [failure?, hparse]
      rfl
    simp [hrun, failsWith_iff hparse, Option.bind_eq_some_iff, Value.failure?_eq_some_iff]

instance (depth : Nat) (text : String) (e : RuntimeError) :
    Decidable (Session.FailsWith depth text e) :=
  decidable_of_iff _ Session.failure?_eq_some_iff

/-- No log filter is in force: the command line sets none, and the environment sets none or one that
has parts that are no directives. -/
def Invocation.Unlogged (ambient : Option String) (i : Invocation) : Prop :=
  i.log = none ∧ ambient.bind Log.Filter.ofString? = none

/-- A report on running a text, given whether nothing is logged, and the answer of a new session to
the text: the exit code is 1 if the text is no program or its evaluation signals an error, which is
then the message behind the log; otherwise it is 0 behind what the session prints and answers. -/
structure Report.TellsFailure (depth : Nat) (text : String) (unlogged : Prop) (x : Exchange)
    (r : Report) : Prop where
  failed_iff : r.exitCode = 1 ↔
    (∃ errors, Program.parse text = .error errors) ∨ ∃ e, Session.FailsWith depth text e
  message : ∀ e, Session.FailsWith depth text e →
    ∃ records, r.stderr = records ++ ("ERROR: " ++ e.message ++ "\n") ∧ (unlogged → records = "")
  succeeded : r.exitCode ≠ 1 → r.exitCode = 0 ∧ r.stdout = x.printed ++ x.response.line

section

variable {depth : Nat} {text : String} {unlogged : Prop} {x : Exchange} {r : Report}

/-- Records before the messages do not matter, if there are none without a filter. -/
lemma Report.TellsFailure.withLog (h : r.TellsFailure depth text unlogged x) {records : String}
    (hrecords : unlogged → records = "") :
    (r.withLog records).TellsFailure depth text unlogged x where
  failed_iff := h.failed_iff
  message e he := by
    obtain ⟨others, hstderr, hothers⟩ := h.message e he
    refine ⟨records ++ others, ?_, fun hunlogged => ?_⟩
    · exact (congrArg (records ++ ·) hstderr).trans (String.append_assoc ..).symm
    · rw [hrecords hunlogged, hothers hunlogged]
      rfl
  succeeded := h.succeeded

/-- An error is the message of a failure. -/
lemma tellsFailure_runtime {e : RuntimeError} (printed : String)
    (hfails : ∀ e', Session.FailsWith depth text e' ↔ e' = e) :
    (Report.ofFailure printed (.runtime e)).TellsFailure depth text unlogged x where
  failed_iff := ⟨fun _ => .inr ⟨e, (hfails e).2 rfl⟩, fun _ => rfl⟩
  message e' he' := by
    obtain rfl := (hfails e').1 he'
    exact ⟨"", (String.empty_append ..).symm, fun _ => rfl⟩
  succeeded h := absurd rfl h

lemma tellsFailure_success {p : Program} (hparse : Program.parse text = .ok p)
    (hfails : ∀ e, ¬ Session.FailsWith depth text e) :
    (Report.success (x.printed ++ x.response.line)).TellsFailure depth text unlogged x where
  failed_iff := by
    constructor
    · intro h
      cases h
    · rintro (⟨errors, herrors⟩ | ⟨e, he⟩)
      · rw [hparse] at herrors
        cases herrors
      · exact absurd he (hfails e)
  message e he := absurd he (hfails e)
  succeeded _ := ⟨rfl, rfl⟩

/-- The report on a program tells its failure. -/
lemma tellsFailure_runReport {p : Program} (hparse : Program.parse text = .ok p)
    (hx : Session.new.eval depth text = some x) (filter : Log.Filter)
    (hfilter : unlogged → filter = .silent) :
    (runReport depth filter p).TellsFailure depth text unlogged x := by
  rw [Session.eval, hparse] at hx
  obtain ⟨r, hr, rfl⟩ := Option.map_eq_some_iff.1 hx
  have hrun : Interpreter.standard.run depth p = some r := hr
  have hfails : ∀ e, Session.FailsWith depth text e ↔ r.result = some (.error e) := by
    intro e
    simp only [Session.failsWith_iff hparse, hrun, Option.some.injEq, exists_eq_left']
  have hrecords : unlogged → filter.render (Interpreter.records p r) = "" := by
    intro hunlogged
    rw [hfilter hunlogged, Log.Filter.render_silent]
  rw [runReport, hrun]
  refine Report.TellsFailure.withLog ?_ hrecords
  have hvalue : ∀ v, r.result = some v → (∀ e, v ≠ .error e) →
      (Report.success (r.printed ++ v.display ++ "\n")).TellsFailure depth text unlogged
        ⟨.evaluated r.result, r.printed, Interpreter.records p r, ⟨r.next⟩⟩ := by
    intro v hv hne
    rw [hv, String.append_assoc]
    refine tellsFailure_success hparse fun e he => ?_
    exact hne e (Option.some.inj (hv.symm.trans ((hfails e).1 he)))
  cases hresult : r.result with
  | none =>
    have hnone : ∀ e, ¬ Session.FailsWith depth text e := by
      intro e he
      cases hresult.symm.trans ((hfails e).1 he)
    have hsuccess : (Report.success (r.printed ++ Response.line (.evaluated none))).TellsFailure
        depth text unlogged ⟨.evaluated none, r.printed, Interpreter.records p r, ⟨r.next⟩⟩ :=
      tellsFailure_success hparse hnone
    rwa [Response.line, String.append_empty] at hsuccess
  | some v =>
    rw [hresult] at hvalue
    cases v with
    | error e =>
      refine tellsFailure_runtime r.printed fun e' => ?_
      rw [hfails, hresult, Option.some.injEq, Value.error.injEq]
      exact eq_comm
    | _ =>
      refine hvalue _ rfl fun _ h => ?_
      cases h

lemma Invocation.Unlogged.filter_eq {ambient : Option String} {i : Invocation}
    (h : i.Unlogged ambient) : i.filter ambient = .silent := by
  rw [Invocation.filter, h.1, h.2]
  rfl

/-- The report of `run` on a file that can be read tells its failure, if its evaluation ends. -/
lemma tellsFailure_report {i : Invocation} {file : String} {readFile : String → FileContents}
    (ambient : Option String) (stdin : List UInt8) (hcommand : i.command = .run file)
    (hread : decode (readFile file) = .ok text) (hx : Session.new.eval depth text = some x) :
    (i.report depth ambient readFile stdin).TellsFailure depth text (i.Unlogged ambient) x := by
  have hcomplaints : i.Unlogged ambient → (i.filter ambient).complaints = "" := by
    intro hunlogged
    rw [hunlogged.filter_eq]
    rfl
  have hrecords : i.Unlogged ambient → (i.filter ambient).render (Log.ofSource text) = "" := by
    intro hunlogged
    rw [hunlogged.filter_eq, Log.Filter.render_silent]
  rw [Invocation.report, hcommand]
  refine Report.TellsFailure.withLog ?_ hcomplaints
  simp only [reportOn, hread]
  refine Report.TellsFailure.withLog ?_ hrecords
  cases hparse : Program.parse text with
  | ok p => exact tellsFailure_runReport hparse hx _ Invocation.Unlogged.filter_eq
  | error errors =>
    refine ⟨⟨fun _ => .inl ⟨errors, hparse⟩, fun _ => rfl⟩, ?_, fun h => absurd rfl h⟩
    rintro e ⟨p, hp, -⟩
    rw [hparse] at hp
    cases hp

end

/-- Errors are signals and results of programs, and nothing else: the frames of reachable sessions
bind no value with an error in it; from frames without errors, expressions and blocks have values
without errors, and so do calls with arguments without errors; no return leaves a call; the result
of a program is an error if and only if its evaluation has signalled the error; and the report of
running a file tells so. -/
theorem errors_not_stored :
    (∀ s : Session, s.Reachable → s.interpreter.state.frames.ErrorFree) ∧
    (∀ (table : BuiltinTable) (depth : Nat) (s : State), s.frames.ErrorFree →
      (∀ e scope, (evalExpr table (apply table depth) e scope s).ErrorFree Value.ErrorFree) ∧
      (∀ b scope, (evalBlock table (apply table depth) b scope s).ErrorFree Value.ErrorFree) ∧
      ∀ f args, (∀ v ∈ args, v.ErrorFree) →
        (apply table depth f args s).ErrorFree Value.ErrorFree) ∧
    (∀ table depth f args s v t, apply table depth f args s ≠ .signal (.returned v) t) ∧
    (∀ s : Session, s.Reachable → ∀ depth p e,
      (∃ r, s.interpreter.run depth p = some r ∧ r.result = some (.error e)) ↔
        s.interpreter.Signals depth p e) ∧
    ∀ depth ambient (i : Invocation) file readFile stdin text x, i.command = .run file →
      decode (readFile file) = .ok text → Session.new.eval depth text = some x →
        (i.report depth ambient readFile stdin).TellsFailure depth text (i.Unlogged ambient) x := by
  refine ⟨fun s hs => hs.errorFree, fun table depth s hs => ⟨?_, ?_, ?_⟩, apply_ne_returned,
    fun s hs depth p e => Interpreter.result_eq_error_iff hs.errorFree, ?_⟩
  · exact fun e scope => errorFree_evalExpr table depth e scope hs
  · exact fun b scope => errorFree_evalBlock table depth b scope hs
  · exact fun f args hargs => errorFree_apply table depth f hargs hs
  · exact fun depth ambient i file readFile stdin text x hcommand hread hx =>
      tellsFailure_report ambient stdin hcommand hread hx

/-- A function that divides by its argument, and returns from an array that it would make. -/
theorem errors_not_stored_division :
    let text := "let f = fn(x) { [if (true) { return 1 / x; }] }; puts(f(1)); f(0)"
    let readFile := fun _ => Except.ok text.toUTF8.toList
    let i : Invocation := ⟨none, .run "f"⟩
    let r := i.report 1 none readFile []
    ∃ x, Session.new.eval 1 text = some x ∧ x.printed = "1\n" ∧
      x.next.interpreter.state.frames.ErrorFree ∧
      (∀ e scope, (evalExpr .standard (apply .standard 1) e scope
        x.next.interpreter.state).ErrorFree Value.ErrorFree) ∧
      Session.FailsWith 1 text .divisionByZero ∧ r.exitCode = 1 ∧
      r.stderr = "ERROR: division by zero\n" := by
  intro text readFile i r
  obtain ⟨hstored, hevaluated, -, -, hreported⟩ := errors_not_stored
  have hdecoded : (decode (readFile "f")).toOption = some text := by decide +kernel
  have hread : decode (readFile "f") = .ok text := by
    cases hcontents : decode (readFile "f") with
    | error => rw [hcontents] at hdecoded; cases hdecoded
    | ok => rw [hcontents] at hdecoded; rw [Option.some.inj hdecoded]
  have hanswer : (Session.new.eval 1 text).map Exchange.printed = some "1\n" := by decide +kernel
  obtain ⟨x, hx, hprinted⟩ := Option.map_eq_some_iff.1 hanswer
  have hreachable : x.next.Reachable := .answer 1 text x .start hx
  have hfails : Session.FailsWith 1 text .divisionByZero := by decide +kernel
  have htells := hreported 1 none i "f" readFile [] text x rfl hread hx
  obtain ⟨records, hstderr, hrecords⟩ := htells.message _ hfails
  refine ⟨x, hx, hprinted, hstored _ hreachable, ?_, hfails, ?_, ?_⟩
  · exact (hevaluated .standard 1 _ (hstored _ hreachable)).1
  · exact htells.failed_iff.2 (.inr ⟨_, hfails⟩)
  · rw [hstderr, hrecords ⟨rfl, rfl⟩]
    decide +kernel

end MonkeyLang
