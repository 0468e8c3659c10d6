import MonkeyLang.CommandLine.Report

/-!
# The program

Reads the file or the lines that a command asks for, prints the report and exits.
-/

namespace MonkeyLang.Program

/-- Why the operating system refused to read a file.  Its codes come with either sign. -/
def faultOf : IO.Error → FileFault
  | .noFileOrDirectory .. => .notFound
  | .inappropriateType _ code _ =>
    if code = 20 || code = -20 then .notDirectory else .isDirectory
  | .invalidArgument _ code text =>
    if code = 36 || code = -36 then .nameTooLong else .other text
  | e => .other (toString e)

/-- The bytes of a file. -/
def readFile (file : String) : IO FileContents := do
  try
    return .ok (← IO.FS.readBinFile file).toList
  catch e => return .error (faultOf e)

/-- The bytes of one line of a stream, with its line break; empty at the end of the stream. -/
partial def readLine (stream : IO.FS.Stream) (line : ByteArray) : IO ByteArray := do
  let bytes ← stream.read 1
  let line := line ++ bytes
  if bytes.isEmpty || bytes.toList = [10] then return line
  else readLine stream line

/-- Prints a report and gives its exit code. -/
def finish (r : Report) : IO UInt32 := do
  IO.print r.stdout
  IO.eprint r.stderr
  return r.exitCode.toUInt32

/-- Answers lines of standard input until the conversation ends. -/
partial def converse (filter : Log.Filter) (session : Session) : IO UInt32 := do
  IO.eprint (filter.render [Console.request])
  let line ← readLine (← IO.getStdin) .empty
  let input := if line.isEmpty then .endOfInput else Console.Input.ofBytes line.toList
  match Console.turn Interpreter.ampleDepth input session with
  | none => finish (.ofFailure "" .tooDeep)
  | some t =>
    IO.eprint (filter.render t.records)
    IO.print t.output
    (← IO.getStdout).flush
    match t.next with
    | .goOn next => converse filter next
    | .stop => return 0
    | .fail => finish (.ofFailure "" (.console .notUtf8))

/-- The variable of the environment that sets the log filter. -/
def logVariable : String := "RUST_LOG"

end MonkeyLang.Program

open MonkeyLang in
/-- Runs the command that the arguments ask for. -/
def main (args : List String) : IO UInt32 := do
  match Invocation.ofArguments? args with
  | none => Program.finish usageError
  | some i =>
    let ambient ← IO.getEnv Program.logVariable
    let respond (contents : FileContents) : IO UInt32 :=
      Program.finish (i.report Interpreter.ampleDepth ambient (fun _ => contents) [])
    match i.command with
    | .repl =>
      IO.eprint (i.filter ambient).complaints
      IO.print Console.banner
      Program.converse (i.filter ambient) .new
    | .run file | .ast file _ | .tokens file => respond (← Program.readFile file)
    | .version | .help => respond (.ok [])
