import MonkeyLang.Console
import MonkeyLang.Proofs.Evaluation.ErrorFree

/-!
# Conversations

A conversation is a run of one session.  The console answers the trimmed lines that are not blank,
up to the first that asks to quit: a command with a fixed text, and any other line with what the
session prints and shows for it.  Of the commands only `:reset` touches the session.

The main definitions are `Console.answeredLines`, the lines of a conversation that are answered, and
`Console.answers`, the answers of a session to them.
-/

namespace MonkeyLang

/-! ## Programs without a value -/

/-- Behind a statement, or behind an earlier value, statements have a value. -/
lemma isSome_of_evalStmts {table : BuiltinTable} {call : Value → List Value → Eval Value}
    {scope : FrameId} {ss : List Stmt} {last o : Option Value} {s t : State}
    (h : evalStmts table call ss scope last s = .value o t) (hsome : ss ≠ [] ∨ last.isSome) :
    o.isSome := by
  induction ss generalizing last s with
  | nil =>
    obtain ⟨rfl, -⟩ : last = o ∧ s = t := by
      injection h with ho ht
      exact ⟨ho, ht⟩
    exact hsome.resolve_left fun hne => hne rfl
  | cons stmt ss ih =>
    rw [evalStmts, Eval.bind_apply] at h
    split at h
    · exact ih h (.inr rfl)
    · cases h
    · cases h

/-- Only a program without statements has no result. -/
lemma Interpreter.result_eq_none_iff {i : Interpreter} {depth : Nat} {p : Program}
    {r : Run (Option Value)} (h : i.run depth p = some r) :
    r.result = none ↔ p.statements = [] := by
  rw [run_eq] at h
  constructor
  · intro hnone
    by_contra hne
    split at h
    · next o t ho =>
      obtain rfl := Option.some.inj h
      obtain rfl : o = none := hnone
      exact absurd (isSome_of_evalStmts ho (.inl hne)) (by decide)
    · obtain rfl := Option.some.inj h
      cases hnone
    · obtain rfl := Option.some.inj h
      cases hnone
    · cases h
  · intro hnil
    rw [hnil] at h
    obtain rfl := Option.some.inj h
    rfl

namespace Console

/-! ## The lines of a conversation -/

lemma applyBackspaces_of_not_mem {cs : List Char} (h : '\x08' ∉ cs) :
    applyBackspaces cs = cs := by
  have hadd : ∀ clusters : List (List Char), '\x08' ∉ clusters.flatten → ∀ d : Draft,
      (clusters.foldl Draft.add d).kept = clusters.flatten.reverse ++ d.kept := by
    intro clusters hclusters
    induction clusters with
    | nil => exact fun d => rfl
    | cons cluster clusters ih =>
      intro d
      rw [List.flatten_cons, List.mem_append, not_or] at hclusters
      have hne : cluster ≠ ['\x08'] := by
        rintro rfl
        exact hclusters.1 List.mem_cons_self
      rw [List.foldl_cons, ih hclusters.2, Draft.add, if_neg hne, List.flatten_cons,
        List.reverse_append, List.append_assoc]
  have hflatten := Text.flatten_clusters cs
  rw [applyBackspaces, hadd _ (hflatten.symm ▸ h), hflatten, List.append_nil, List.reverse_reverse]

lemma withoutBreak_of_not_mem {cs : List Char} (h : '\n' ∉ cs) : withoutBreak cs = cs :=
  if_neg fun hlast => h (List.mem_of_getLast? hlast)

lemma withoutBreak_append_break (cs : List Char) (h : cs.getLast? ≠ some '\r') :
    withoutBreak (cs ++ ['\n']) = cs := by
  simp [withoutBreak, h]

lemma withoutBreak_append_breaks (cs : List Char) :
    withoutBreak (cs ++ ['\r', '\n']) = cs := by
  rw [List.append_cons]
  simp [withoutBreak]

/-- A line without backspaces is delivered as it is, whatever line break is behind it. -/
lemma ofBytes_of_not_mem {bytes : List UInt8} {line ending : String}
    (hbytes : String.fromUTF8? ⟨bytes.toArray⟩ = some (line ++ ending))
    (hending : ending ∈ ["", "\n", "\r\n"]) (hbreak : '\n' ∉ line.toList)
    (hreturn : ending = "\n" → line.toList.getLast? ≠ some '\r')
    (hbackspace : '\x08' ∉ line.toList) :
    Input.ofBytes bytes = .line line := by
  have hwithout : withoutBreak (line ++ ending).toList = line.toList := by
    simp only [List.mem_cons, List.not_mem_nil, or_false] at hending
    rw [String.toList_append]
    rcases hending with rfl | rfl | rfl
    · rw [String.toList_empty, List.append_nil, withoutBreak_of_not_mem hbreak]
    · exact withoutBreak_append_break _ (hreturn rfl)
    · exact withoutBreak_append_breaks _
  rw [Input.ofBytes, hbytes]
  simp only [delivered, hwithout, applyBackspaces_of_not_mem hbackspace, String.ofList_toList]

/-- Whether a line asks to quit. -/
def quits (line : String) : Bool := line = ":quit" || line = ":q" || line = ":exit"

/-- The lines that are answered: those that are not blank, up to the first that asks to quit. -/
def answeredLines (lines : List String) : List String :=
  ((lines.map trimmed).filter (· ≠ "")).takeWhile (!quits ·)

/-! ## Answers of a session -/

/-- Whether a line is a command. -/
def isCommand (line : String) : Bool := line.toList.head? = some ':'

/-- The fixed text that a command is answered with. -/
def fixedText (command : String) : String :=
  if command = ":help" ∨ command = ":h" ∨ command = ":?" then help
  else if command = ":clear" then clearScreen
  else if command = ":reset" then "Environment cleared.\n"
  else "Unknown command: " ++ command ++ "\nType :help for help.\n"

/-- Whether a text is a program without statements. -/
def isEmptyProgram (text : String) : Bool :=
  match Program.parse text with
  | .ok p => p.statements.isEmpty
  | .error _ => false

/-- What a session answers to a line, and the session behind it.  A command has its text, and only
`:reset` changes the session.  Any other line prints, and then shows its outcome on a line, unless
it is an empty program. -/
def reply (depth : Nat) (line : String) (s : Session) : Option (String × Session) :=
  if isCommand line then some (fixedText line, if line = ":reset" then s.reset else s)
  else (s.eval depth line).map fun x =>
    (x.printed ++ if isEmptyProgram line then "" else x.response.display ++ "\n", x.next)

/-- The answers to lines, one after the other in one session; none if calls were nested more deeply
than `depth` at one of them. -/
def answers (depth : Nat) : List String → Session → Option (List String)
  | [], _ => some []
  | line :: lines, s =>
    (reply depth line s).bind fun r => (answers depth lines r.2).map (r.1 :: ·)

/-- A blank line, or a command that neither ends the conversation nor touches the session. -/
def Idle (line : String) : Prop :=
  line = "" ∨ isCommand line = true ∧ quits line = false ∧ line ≠ ":reset"

variable {depth : Nat} {line : String} {lines : List String} {s : Session}

/-! ## One line -/

lemma answeredLines_of_blank (h : trimmed line = "") :
    answeredLines (line :: lines) = answeredLines lines := by
  simp [answeredLines, h]

lemma answeredLines_of_quits (h : quits (trimmed line) = true) :
    answeredLines (line :: lines) = [] := by
  have hne : trimmed line ≠ "" := by
    intro hblank
    rw [hblank] at h
    exact absurd h (by decide)
  simp [answeredLines, hne, h]

lemma answeredLines_cons (hne : trimmed line ≠ "") (h : quits (trimmed line) = false) :
    answeredLines (line :: lines) = trimmed line :: answeredLines lines := by
  simp [answeredLines, hne, h]

lemma turn_of_blank (h : trimmed line = "") :
    turn depth (.line line) s = some ⟨"", [], .goOn s⟩ := by
  simp [turn, h]

/-- What a turn shows: its output, and what follows it. -/
def Turn.shown (t : Turn) : String × Next := (t.output, t.next)

lemma obey_of_quits (h : quits line = true) :
    obey (.ofLine line) s = ⟨goodbye, [], .stop⟩ := by
  unfold quits at h
  rw [Command.ofLine, if_pos h]
  rfl

lemma obey_of_not_quits (h : quits line = false) :
    obey (.ofLine line) s =
      ⟨fixedText line, [], .goOn (if line = ":reset" then s.reset else s)⟩ := by
  unfold quits at h
  rw [Command.ofLine, if_neg (Bool.eq_false_iff.1 h), fixedText]
  simp only [Bool.or_eq_true, decide_eq_true_eq, or_assoc]
  by_cases hhelp : line = ":help" ∨ line = ":h" ∨ line = ":?"
  · have hreset : line ≠ ":reset" := by
      rintro rfl
      exact absurd hhelp (by decide)
    rw [if_pos hhelp, if_pos hhelp, if_neg hreset]
    rfl
  · rw [if_neg hhelp, if_neg hhelp]
    by_cases hclear : line = ":clear"
    · have hreset : line ≠ ":reset" := by
        rintro rfl
        exact absurd hclear (by decide)
      rw [if_pos hclear, if_pos hclear, if_neg hreset]
      rfl
    · rw [if_neg hclear, if_neg hclear]
      by_cases hreset : line = ":reset"
      · rw [if_pos hreset, if_pos hreset, if_pos hreset]
        rfl
      · rw [if_neg hreset, if_neg hreset, if_neg hreset]
        rfl

lemma isCommand_of_quits (h : quits line = true) : isCommand line = true := by
  simp only [quits, Bool.or_eq_true, decide_eq_true_eq] at h
  rcases h with (rfl | rfl) | rfl <;> rfl

lemma isEmptyProgram_iff {p : Program} (h : Program.parse line = .ok p) :
    isEmptyProgram line = true ↔ p.statements = [] := by
  rw [isEmptyProgram, h]
  exact List.isEmpty_iff

/-- An outcome is shown on a line of its own, unless the text is an empty program. -/
lemma evaluate_eq : (evaluate depth line s).map Turn.shown =
    (s.eval depth line).map fun x =>
      (x.printed ++ if isEmptyProgram line then "" else x.response.display ++ "\n",
        .goOn x.next) := by
  rw [evaluate, Option.map_map]
  refine Option.map_congr fun x hx => ?_
  rw [Session.eval] at hx
  cases hparse : Program.parse line with
  | error errors =>
    rw [hparse] at hx
    obtain rfl := Option.some.inj hx
    simp [isEmptyProgram, hparse, Turn.shown]
  | ok p =>
    rw [hparse] at hx
    obtain ⟨r, hr, rfl⟩ := Option.map_eq_some_iff.1 hx
    have hnone := (Interpreter.result_eq_none_iff hr).trans (isEmptyProgram_iff hparse).symm
    cases hresult : r.result with
    | none => simp [hnone.1 hresult, Turn.shown]
    | some v =>
      have hsome : ¬ isEmptyProgram line = true := fun h => by simp [hnone.2 h] at hresult
      simp [hsome, Turn.shown]

lemma turn_of_quits (h : quits (trimmed line) = true) :
    turn depth (.line line) s = some ⟨goodbye, [], .stop⟩ := by
  obtain ⟨cs, hcs⟩ : ∃ cs, (trimmed line).toList = ':' :: cs := by
    have hcommand := isCommand_of_quits h
    simpa [isCommand, List.head?_eq_some_iff] using hcommand
  rw [turn]
  simp only [hcs, obey_of_quits h]

/-- A line that does not ask to quit is answered with the reply of the session. -/
lemma shown_turn (hne : trimmed line ≠ "") (h : quits (trimmed line) = false) :
    (turn depth (.line line) s).map Turn.shown =
      (reply depth (trimmed line) s).map fun r => (r.1, .goOn r.2) := by
  have hnil : (trimmed line).toList ≠ [] := fun hnil => hne (String.toList_eq_nil_iff.1 hnil)
  obtain ⟨c, cs, hcs⟩ := List.exists_cons_of_ne_nil hnil
  rw [turn, reply]
  by_cases hc : c = ':'
  · subst hc
    have hcommand : isCommand (trimmed line) = true := by simp [isCommand, hcs]
    simp only [hcs, obey_of_not_quits h, hcommand, if_true, Option.map_some, Turn.shown]
  · have hcommand : ¬ isCommand (trimmed line) = true := by simp [isCommand, hcs, hc]
    rw [if_neg hcommand, Option.map_map]
    split
    · next hnil' => exact absurd hnil' hnil
    · next hcolon =>
      rw [hcolon] at hcs
      exact absurd (List.cons.inj hcs).1.symm hc
    · exact evaluate_eq

/-! ## Conversations -/

/-- What a transcript shows: its output, and whether it ended because an input could not be read. -/
def Transcript.shown (t : Transcript) : String × Bool := (t.output, t.failed)

/-- Behind an answer the conversation goes on. -/
lemma shown_transcriptFrom_cons {i : Input} {is : List Input} {o : Option (String × Session)}
    (h : (turn depth i s).map Turn.shown = o.map fun r => (r.1, .goOn r.2)) :
    (transcriptFrom depth (i :: is) s).map Transcript.shown = o.bind fun r =>
      ((transcriptFrom depth is r.2).map Transcript.shown).map fun t => (r.1 ++ t.1, t.2) := by
  rw [transcriptFrom]
  cases hturn : turn depth i s with
  | none =>
    rw [hturn] at h
    rw [Option.map_eq_none_iff.1 h.symm]
    rfl
  | some t =>
    rw [hturn] at h
    obtain ⟨⟨text, next⟩, ho, hshown⟩ := Option.map_eq_some_iff.1 h.symm
    obtain ⟨output, records, goesOn⟩ := t
    obtain ⟨rfl, rfl⟩ := Prod.mk.inj hshown
    rw [ho, Option.bind_some, Option.map_map, Option.map_map]
    rfl

/-- A conversation up to the end of the input shows the answers of one session, and says goodbye. -/
lemma shown_transcriptFrom (depth : Nat) (lines : List String) (s : Session) :
    (transcriptFrom depth (lines.map .line ++ [.endOfInput]) s).map Transcript.shown =
      (answers depth (answeredLines lines) s).map fun texts =>
        (String.join texts ++ goodbye, false) := by
  induction lines generalizing s with
  | nil => rfl
  | cons line lines ih =>
    rw [List.map_cons, List.cons_append]
    by_cases hblank : trimmed line = ""
    · have hturn : (turn depth (.line line) s).map Turn.shown =
          (some ("", s)).map fun r => (r.1, .goOn r.2) := by
        rw [turn_of_blank hblank]
        rfl
      rw [shown_transcriptFrom_cons hturn, answeredLines_of_blank hblank, Option.bind_some, ih,
        Option.map_map]
      simp [Function.comp_def]
    · cases hquits : quits (trimmed line) with
      | true =>
        rw [transcriptFrom, turn_of_quits hquits, answeredLines_of_quits hquits]
        rfl
      | false =>
        rw [shown_transcriptFrom_cons (shown_turn hblank hquits), answeredLines_cons hblank hquits,
          answers]
        cases reply depth (trimmed line) s with
        | none => rfl
        | some r =>
          rw [Option.bind_some, Option.bind_some, ih, Option.map_map, Option.map_map]
          refine Option.map_congr fun texts _ => ?_
          simp [String.join_cons, String.append_assoc]

/-- Nothing is read behind a line that asks to quit. -/
lemma transcriptFrom_append_of_quits (before after : List Input)
    (h : quits (trimmed line) = true) (s : Session) :
    transcriptFrom depth (before ++ .line line :: after) s =
      transcriptFrom depth (before ++ [.line line]) s := by
  induction before generalizing s with
  | nil =>
    rw [List.nil_append, List.nil_append, transcriptFrom, transcriptFrom, turn_of_quits h]
  | cons i before ih =>
    rw [List.cons_append, List.cons_append, transcriptFrom, transcriptFrom]
    split
    · rfl
    · rw [ih]
    · rfl
    · rfl

/-! ## Lines that change nothing -/

lemma answeredLines_append (xs ys : List String) : answeredLines (xs ++ ys) =
    answeredLines xs ++ if xs.any (quits <| trimmed ·) then [] else answeredLines ys := by
  induction xs with
  | nil => rfl
  | cons line xs ih =>
    rw [List.cons_append, List.any_cons]
    by_cases hblank : trimmed line = ""
    · have hquits : quits (trimmed line) = false := by
        rw [hblank]
        decide
      rw [answeredLines_of_blank hblank, answeredLines_of_blank hblank, ih, hquits, Bool.false_or]
    · cases hquits : quits (trimmed line) with
      | true =>
        rw [answeredLines_of_quits hquits, answeredLines_of_quits hquits, Bool.true_or, if_pos rfl,
          List.append_nil]
      | false =>
        rw [answeredLines_cons hblank hquits, answeredLines_cons hblank hquits, ih, Bool.false_or,
          List.cons_append]

lemma reply_of_idle (hcommand : isCommand line = true) (hreset : line ≠ ":reset") :
    reply depth line s = some (fixedText line, s) := by
  rw [reply, if_pos hcommand, if_neg hreset]

/-- An idle command adds its own text to the answers, and nothing else. -/
lemma answers_insert (before after : List String) (hcommand : isCommand line = true)
    (hreset : line ≠ ":reset") (s : Session) : answers depth (before ++ line :: after) s =
      (answers depth (before ++ after) s).map (·.insertIdx before.length (fixedText line)) := by
  induction before generalizing s with
  | nil =>
    rw [List.nil_append, List.nil_append, answers, reply_of_idle hcommand hreset, Option.bind_some]
    rfl
  | cons first before ih =>
    rw [List.cons_append, List.cons_append, answers, answers]
    cases reply depth first s with
    | none => rfl
    | some r =>
      rw [Option.bind_some, Option.bind_some, ih, Option.map_map, Option.map_map]
      rfl

/-- Without an idle line, at most its own text is missing from the answers. -/
lemma answers_of_idle (before after : List String) (h : Idle (trimmed line)) (s : Session) :
    answers depth (answeredLines (before ++ line :: after)) s =
      if trimmed line = "" ∨ before.any (quits <| trimmed ·) = true then
        answers depth (answeredLines (before ++ after)) s
      else (answers depth (answeredLines (before ++ after)) s).map
        (·.insertIdx (answeredLines before).length (fixedText (trimmed line))) := by
  rw [answeredLines_append, answeredLines_append before after]
  by_cases hquit : before.any (quits <| trimmed ·) = true
  · rw [if_pos hquit, if_pos hquit, if_pos (.inr hquit)]
  · rw [if_neg hquit, if_neg hquit]
    by_cases hblank : trimmed line = ""
    · rw [answeredLines_of_blank hblank, if_pos (.inl hblank)]
    · obtain ⟨hcommand, hquits, hreset⟩ := h.resolve_left hblank
      rw [answeredLines_cons hblank hquits, answers_insert _ _ hcommand hreset,
        if_neg (not_or.2 ⟨hblank, hquit⟩)]

/-- Whatever lines are delivered, the output of a conversation is the banner, the answers of one new
session to the lines that are answered, and the goodbye.  What stands behind a line that asks to quit
does not matter.  An idle line can be left out: at most its own text is missing then.  And a line of
the input that holds no backspaces is delivered as it is, without its line break. -/
theorem conversation_refines_session :
    (∀ depth lines,
      (transcript depth (lines.map .line ++ [.endOfInput])).map Transcript.shown =
        (answers depth (answeredLines lines) .new).map fun texts =>
          (banner ++ String.join texts ++ goodbye, false)) ∧
    (∀ depth before line after, quits (trimmed line) = true →
      transcript depth (before ++ .line line :: after) =
        transcript depth (before ++ [.line line])) ∧
    (∀ depth before line after, Idle (trimmed line) →
      answers depth (answeredLines (before ++ line :: after)) .new =
        if trimmed line = "" ∨ before.any (quits <| trimmed ·) = true then
          answers depth (answeredLines (before ++ after)) .new
        else (answers depth (answeredLines (before ++ after)) .new).map
          (·.insertIdx (answeredLines before).length (fixedText (trimmed line)))) ∧
    (∀ (bytes : List UInt8) (line ending : String), ending ∈ ["", "\n", "\r\n"] →
      String.fromUTF8? ⟨bytes.toArray⟩ = some (line ++ ending) → '\n' ∉ line.toList →
      (ending = "\n" → line.toList.getLast? ≠ some '\r') → '\x08' ∉ line.toList →
      Input.ofBytes bytes = .line line) := by
  refine ⟨fun depth lines => ?_, fun depth before line after hquits => ?_,
    fun depth before line after hidle => answers_of_idle before after hidle .new,
    fun bytes line ending hending hbytes hbreak hreturn hbackspace =>
      ofBytes_of_not_mem hbytes hending hbreak hreturn hbackspace⟩
  · have hbanner := congrArg (Option.map fun t : String × Bool => (banner ++ t.1, t.2))
      (shown_transcriptFrom depth lines .new)
    rw [Option.map_map, Option.map_map] at hbanner
    rw [transcript, Option.map_map]
    refine hbanner.trans (Option.map_congr fun texts _ => ?_)
    simp [String.append_assoc]
  · rw [transcript, transcript, transcriptFrom_append_of_quits before after hquits]

/-- An unknown command between two inputs, one of which shows a backspace that is a character of a
text, and an input behind the end. -/
theorem conversation_refines_session_unknown :
    let lines := ["let x = \"\x08\";", " :what\t", "", "len(x)", ":q"]
    answeredLines lines = ["let x = \"\x08\";", ":what", "len(x)"] ∧
      (transcript 1 (lines.map .line ++ [.endOfInput])).map Transcript.shown = some (banner ++
        "\x08\nUnknown command: :what\nType :help for help.\n1\n" ++ goodbye, false) ∧
      transcript 1 (lines.map .line ++ [.line "puts(x)", .unreadable]) =
        transcript 1 (lines.map .line) ∧
      answers 1 (answeredLines lines) .new =
        (answers 1 ["let x = \"\x08\";", "len(x)"] .new).map (·.insertIdx 1 (fixedText ":what")) ∧
      Input.ofBytes " x\t\r\n".toUTF8.toList = .line " x\t" := by
  intro lines
  obtain ⟨hshown, hcut, hidle, hdelivered⟩ := conversation_refines_session
  have hlines : answeredLines lines = ["let x = \"\x08\";", ":what", "len(x)"] := by
    decide +kernel
  have hanswers : answers 1 (answeredLines lines) .new =
      some ["\x08\n", "Unknown command: :what\nType :help for help.\n", "1\n"] := by
    rw [hlines]
    decide +kernel
  have hjoin : String.join ["\x08\n", "Unknown command: :what\nType :help for help.\n", "1\n"] =
      "\x08\nUnknown command: :what\nType :help for help.\n1\n" := by decide +kernel
  have hwhat : trimmed " :what\t" = ":what" := by decide +kernel
  have hremoved := hidle 1 ["let x = \"\x08\";"] " :what\t" ["", "len(x)", ":q"]
    (.inr (by rw [hwhat]; decide))
  have hothers : answeredLines (["let x = \"\x08\";"] ++ ["", "len(x)", ":q"]) =
      ["let x = \"\x08\";", "len(x)"] := by decide +kernel
  have hfirst : (answeredLines ["let x = \"\x08\";"]).length = 1 := by decide +kernel
  rw [hwhat, if_neg (by decide +kernel), hothers, hfirst] at hremoved
  refine ⟨hlines, ?_, ?_, hremoved, ?_⟩
  · simp only [hshown 1 lines, hanswers, Option.map_some, hjoin]
  · exact hcut 1 (["let x = \"\x08\";", " :what\t", "", "len(x)"].map .line) ":q"
      [.line "puts(x)", .unreadable] (by decide +kernel)
  · exact hdelivered _ " x\t" "\r\n" (by decide) (by decide +kernel) (by decide) (by decide)
      (by decide)

end Console

end MonkeyLang
