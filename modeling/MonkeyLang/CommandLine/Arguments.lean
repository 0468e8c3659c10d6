/-!
# Arguments of the command line

A command line names one command, and may set a log filter before and after the command's name.
`Invocation.ofArguments?` reads it; it refuses whatever is missing, unknown, repeated or one too
many.
-/

namespace MonkeyLang

/-- What the program can be asked to do. -/
inductive Command where
  /-- Converse on the console. -/
  | repl
  /-- Evaluate a file. -/
  | run (file : String)
  /-- Show the syntax tree of a file, as JSON or rendered. -/
  | ast (file : String) (json : Bool)
  /-- List the tokens of a file. -/
  | tokens (file : String)
  | version
  | help
deriving DecidableEq

/-- A command and the filter for log records. -/
structure Invocation where
  log : Option String
  command : Command
deriving DecidableEq

namespace Invocation

/-! ## Forms of arguments -/

/-- Whether an argument is an option and so cannot be the value of one. -/
def isOption (arg : String) : Bool :=
  match arg.toList with
  | '-' :: _ :: _ => true
  | _ => false

/-- The value of `--log=value`. -/
def attachedLog? (arg : String) : Option String :=
  match arg.toList with
  | '-' :: '-' :: 'l' :: 'o' :: 'g' :: '=' :: value => some (.ofList value)
  | _ => none

/-- The command that an option asks for wherever it stands. -/
def informative? (arg : String) : Option Command :=
  if arg = "--version" then some .version
  else if arg = "--help" then some .help
  else
    match arg.toList with
    | '-' :: 'V' :: _ => some .version
    | '-' :: 'h' :: _ => some .help
    | _ => none

/-! ## Arguments of a command -/

/-- What has been read behind the name of a command. -/
structure Collected where
  log : Option String
  file : Option String
  json : Bool

/-- What a command takes. -/
structure Takes where
  file : Bool
  json : Bool

/-- Takes an argument that is no option as the file. -/
def Collected.withFile (p : Collected) (takes : Takes) (arg : String) : Option Collected :=
  if takes.file && p.file.isNone && arg ≠ "" then some { p with file := some arg } else none

/-- Sets the log filter, once. -/
def Collected.withLog (p : Collected) (value : String) : Option Collected :=
  if p.log.isNone then some { p with log := some value } else none

/-- The arguments behind `--`, none of which is an option. -/
def filesOnly (takes : Takes) : Collected → List String → Option Collected
  | p, [] => some p
  | p, arg :: args => (p.withFile takes arg).bind fun p => filesOnly takes p args

/-- What the arguments behind the name of a command say: help, or what the command needs. -/
def behindName (takes : Takes) : Collected → List String → Option (Collected ⊕ Command)
  | p, [] => some (.inl p)
  | p, "--" :: args => (filesOnly takes p args).map .inl
  | p, "--log" :: value :: args =>
    if isOption value then none
    else
      match p.withLog value with
      | some p => behindName takes p args
      | none => none
  | p, arg :: args =>
    match attachedLog? arg with
    | some value =>
      match p.withLog value with
      | some p => behindName takes p args
      | none => none
    | none =>
      if informative? arg = some .help then some (.inr .help)
      else if arg = "--json" then
        if takes.json && !p.json then behindName takes { p with json := true } args else none
      else if isOption arg then none
      else
        match p.withFile takes arg with
        | some p => behindName takes p args
        | none => none

/-- The command of a name, given what it takes and how it is made from that. -/
def named (takes : Takes) (make : Collected → Option Command) (log : Option String)
    (args : List String) : Option Invocation := do
  match ← behindName takes ⟨none, none, false⟩ args with
  | .inl p => return ⟨p.log.or log, ← make p⟩
  | .inr c => return ⟨log, c⟩

/-- The names that help can be asked for. -/
def commandNames : List String := ["repl", "run", "ast", "tokens", "help"]

/-! ## The whole command line -/

/-- What the arguments say, with the filter that was set before. -/
def fromArguments (log : Option String) : List String → Option Invocation
  | [] => some ⟨log, .repl⟩
  | ["--"] => some ⟨log, .repl⟩
  | "--log" :: value :: args =>
    if log.isSome || isOption value then none else fromArguments (some value) args
  | "repl" :: args => named ⟨false, false⟩ (fun _ => some .repl) log args
  | "run" :: args => named ⟨true, false⟩ (fun p => p.file.map .run) log args
  | "ast" :: args => named ⟨true, true⟩ (fun p => p.file.map (.ast · p.json)) log args
  | "tokens" :: args => named ⟨true, false⟩ (fun p => p.file.map .tokens) log args
  | ["help"] => some ⟨log, .help⟩
  | ["help", name] => if name ∈ commandNames then some ⟨log, .help⟩ else none
  | arg :: args =>
    match attachedLog? arg with
    | some value => if log.isSome then none else fromArguments (some value) args
    | none => (informative? arg).map fun c => ⟨log, c⟩

/-- The meaning of a command line; none if it has an error. -/
def ofArguments? (args : List String) : Option Invocation := fromArguments none args

end Invocation

end MonkeyLang
