import MonkeyLang.CommandLine.Arguments
import MonkeyLang.Console
import MonkeyLang.Log.Filter
import MonkeyLang.Log.Source
import MonkeyLang.Syntax.Dump
import MonkeyLang.Syntax.Render
import MonkeyLang.Token.Listing

/-!
# Reports of commands

What a command prints and how it exits, given the bytes of the file that it names and of its
standard input, and the log filter that the environment sets.  The program exits with 0 if all went
well, with 1 after a failure and with 2 if the command line is wrong.
-/

namespace MonkeyLang

/-! ## Failures -/

/-- Why a file could not be read. -/
inductive FileFault where
  | notFound
  | isDirectory
  | notDirectory
  | nameTooLong
  | notUtf8
  | other (text : String)

namespace FileFault

def message : FileFault → String
  | notFound => "No such file or directory (os error 2)"
  | isDirectory => "Is a directory (os error 21)"
  | notDirectory => "Not a directory (os error 20)"
  | nameTooLong => "File name too long (os error 36)"
  | notUtf8 => "stream did not contain valid UTF-8"
  | other text => text

end FileFault

/-- Why a command failed. -/
inductive Failure where
  | file (fault : FileFault)
  | parse (file : String) (errors : List ParseError)
  | runtime (error : RuntimeError)
  | console (fault : FileFault)
  /-- Calls were nested too deeply. -/
  | tooDeep

namespace Failure

/-- A parse error with the file and the bytes that it was found at, without a picture of the place. -/
def diagnostic (file : String) (e : ParseError) : String :=
  file ++ ":" ++ e.span.render ++ ": parser error: " ++ e.message

/-- What is printed about a failure. -/
def message : Failure → String
  | file fault => "Error: IO error: " ++ fault.message ++ "\n"
  | parse path errors => Text.unlines (errors.map (diagnostic path))
  | runtime error => "ERROR: " ++ error.message ++ "\n"
  | console fault => "Error: Readline error: " ++ fault.message ++ "\n"
  | tooDeep => "Error: calls nested too deeply\n"

end Failure

/-! ## Reports -/

/-- The exit code of a command and what it printed. -/
structure Report where
  exitCode : Nat
  stdout : String
  stderr : String

namespace Report

def ofFailure (stdout : String) (f : Failure) : Report := ⟨1, stdout, f.message⟩

def success (stdout : String) : Report := ⟨0, stdout, ""⟩

/-- The report with log records before its messages. -/
def withLog (records : String) (r : Report) : Report := { r with stderr := records ++ r.stderr }

end Report

/-! ## The log -/

/-- The lines of the records that a filter admits. -/
def Log.Filter.render (f : Log.Filter) (records : List Log.Record) : String :=
  Text.unlines ((records.filter f.admits).map Log.Record.render)

/-- The notes about parts of a filter that are no directives. -/
def Log.Filter.complaints (f : Log.Filter) : String :=
  Text.unlines (f.refused.map fun p => "ignoring `" ++ p ++ "`: invalid filter directive")

/-- The filter that is in force: that of the command line, or else that of the environment, which
counts only if all of its parts are directives.  Without a filter nothing is logged. -/
def Invocation.filter (ambient : Option String) (i : Invocation) : Log.Filter :=
  match i.log with
  | some text => .ofString text
  | none => (ambient.bind Log.Filter.ofString?).getD .silent

/-! ## Commands -/

/-- What reading a file gives. -/
abbrev FileContents := Except FileFault (List UInt8)

/-- The text in the contents of a file. -/
def decode (contents : FileContents) : Except FileFault String := do
  match String.fromUTF8? ⟨(← contents).toArray⟩ with
  | some text => return text
  | none => throw .notUtf8

/-- Evaluates a program and prints its value. -/
def runReport (depth : Nat) (filter : Log.Filter) (p : Program) : Report :=
  match Interpreter.standard.run depth p with
  | none => .ofFailure "" .tooDeep
  | some r =>
    let report := match r.result with
      | some (.error e) => Report.ofFailure r.printed (.runtime e)
      | some v => .success (r.printed ++ v.display ++ "\n")
      | none => .success r.printed
    report.withLog (filter.render (Interpreter.records p r))

/-- Shows the syntax tree of a program. -/
def astReport (json : Bool) (p : Program) : Report :=
  if json then .success (p.toJson.pretty ++ "\n")
  else .success (Text.unlines (p.statements.map Stmt.render))

/-- The report on the program in a file. -/
def reportOn (filter : Log.Filter) (file : String) (contents : FileContents)
    (report : Program → Report) : Report :=
  match decode contents with
  | .error fault => .ofFailure "" (.file fault)
  | .ok text =>
    let answer := match Program.parse text with
      | .error errors => Report.ofFailure "" (.parse file errors)
      | .ok p => report p
    answer.withLog (filter.render (Log.ofSource text))

/-- Lists the tokens of a file. -/
def tokensReport (filter : Log.Filter) (contents : FileContents) : Report :=
  match decode contents with
  | .error fault => .ofFailure "" (.file fault)
  | .ok text =>
    let tokens := Token.scan text
    (Report.success (Text.unlines (tokens.map Token.listing))).withLog
      (filter.render (Log.ofKinds (tokens.map (·.kind))))

/-- The report of a conversation on the console. -/
def replReport (depth : Nat) (filter : Log.Filter) (stdin : List UInt8) : Report :=
  match Console.transcript depth (Console.Input.ofFile stdin) with
  | none => .ofFailure "" .tooDeep
  | some t =>
    (if t.failed then Report.ofFailure t.output (.console .notUtf8)
      else Report.success t.output).withLog (filter.render t.records)

/-- The version of the program. -/
def versionText : String := "monkey 0.1.0\n"

/-- How the program is called. -/
def usageText : String :=
  Text.unlines [
    "Usage: monkey [--log FILTER] [COMMAND]",
    "",
    "Commands:",
    "  repl                Start the interactive REPL (default)",
    "  run FILE            Evaluate a script and print its result",
    "  ast FILE [--json]   Parse and dump the AST",
    "  tokens FILE         Tokenize and dump tokens (debug)",
    "  help [COMMAND]      Print this text"]

/-- The report of a command, given the filter that the environment sets, how files are read and the
bytes of standard input.  Who asks for the version or for help is told before a filter is read. -/
def Invocation.report (depth : Nat) (ambient : Option String) (readFile : String → FileContents)
    (stdin : List UInt8) (i : Invocation) : Report :=
  let filter := i.filter ambient
  let filtered : Report → Report := .withLog filter.complaints
  match i.command with
  | .repl => filtered (replReport depth filter stdin)
  | .run file => filtered (reportOn filter file (readFile file) (runReport depth filter))
  | .ast file json => filtered (reportOn filter file (readFile file) (astReport json))
  | .tokens file => filtered (tokensReport filter (readFile file))
  | .version => .success versionText
  | .help => .success usageText

/-- The report of a wrong command line. -/
def usageError : Report := ⟨2, "", "error: invalid arguments\n\n" ++ usageText⟩

/-- The report of a command line. -/
def report (depth : Nat) (ambient : Option String) (readFile : String → FileContents)
    (stdin : List UInt8) (args : List String) : Report :=
  match Invocation.ofArguments? args with
  | some i => i.report depth ambient readFile stdin
  | none => usageError

end MonkeyLang
