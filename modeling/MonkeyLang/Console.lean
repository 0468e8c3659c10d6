import MonkeyLang.Log.Source
import MonkeyLang.Session
import MonkeyLang.Text.Grapheme
import MonkeyLang.Text.Lines
import MonkeyLang.Text.Utf8
import MonkeyLang.Unicode.Whitespace

/-!
# The console

The console reads lines and answers each in one session.  A line that begins with a colon is a
command; any other line is evaluated, unless it is blank.

The main definitions are `Console.turn`, the answer to one input, and `Console.transcript`, the
output for a sequence of inputs.
-/

namespace MonkeyLang.Console

/-! ## Texts -/

/-- What the console prints before it reads. -/
def banner : String := "Monkey REPL v0.1.0\nType :help for help, :quit to exit.\n\n"

def goodbye : String := "Goodbye!\n"

/-- The overview of commands, inputs and standard functions. -/
def help : String :=
  Text.unlines [
    "Monkey REPL Commands:",
    "  :help, :h, :?   Show this help",
    "  :quit, :q       Exit the REPL",
    "  :clear          Clear the screen",
    "  :reset          Forget all bindings",
    "",
    "You can enter:",
    "  - Expressions: 1 + 2 * 3, if (x > 1) \x7b x \x7d else \x7b 0 \x7d",
    "  - Bindings: let add = fn(a, b) \x7b a + b \x7d;",
    "  - Calls: add(1, 2)",
    "",
    "Built-in functions:",
    "  len(x)          Length of an array or string",
    "  first(arr)      First element, or null",
    "  last(arr)       Last element, or null",
    "  rest(arr)       All but the first element, or null",
    "  push(arr, x)    New array with x appended",
    "  puts(...)       Print each argument on its own line"]

/-- Clears the screen and puts the cursor in its first column and row. -/
def clearScreen : String := "\x1b[2J\x1b[1;1H"

/-! ## Lines -/

/-- A line while its backspaces are applied: its characters so far, the last one first, and the
sizes in bytes of those that a backspace can still remove.  A size is kept in one byte, so of 256
it counts as nothing. -/
structure Draft where
  kept : List Char
  sizes : List Nat

/-- One more cluster of characters.  A backspace removes as many bytes at the end of the line as the
last cluster has. -/
def Draft.add (d : Draft) (cluster : List Char) : Draft :=
  if cluster = ['\x08'] then
    match d.sizes with
    | [] => d
    | size :: sizes => ⟨Text.dropBytes size d.kept, sizes⟩
  else ⟨cluster.reverse ++ d.kept, Text.byteLength cluster % 256 :: d.sizes⟩

/-- Takes the backspaces out of a line: each removes the character before it, as a reader
perceives characters. -/
def applyBackspaces (cs : List Char) : List Char :=
  ((Text.clusters cs).foldl Draft.add ⟨[], []⟩).kept.reverse

/-- A line without the line break at its end. -/
def withoutBreak (cs : List Char) : List Char :=
  if cs.getLast? = some '\n' then
    let kept := cs.dropLast
    if kept.getLast? = some '\r' then kept.dropLast else kept
  else cs

/-- A line as it was meant: without its line break, and with its backspaces applied. -/
def delivered (line : String) : String := .ofList (applyBackspaces (withoutBreak line.toList))

/-- A line without the white space at its ends. -/
def trimmed (line : String) : String := .ofList (Unicode.trim line.toList)

/-- The lines of a sequence of bytes, each with the line break that ends it. -/
def splitLines : List UInt8 → List (List UInt8)
  | [] => []
  | b :: bs =>
    if b = 10 then [b] :: splitLines bs
    else
      match splitLines bs with
      | [] => [[b]]
      | line :: lines => (b :: line) :: lines

/-! ## Commands -/

/-- The commands of the console. -/
inductive Command where
  | quit
  | help
  | clear
  | reset
  | unknown (text : String)

namespace Command

/-- The command that a line asks for. -/
def ofLine (line : String) : Command :=
  if line = ":quit" || line = ":q" || line = ":exit" then quit
  else if line = ":help" || line = ":h" || line = ":?" then help
  else if line = ":clear" then clear
  else if line = ":reset" then reset
  else unknown line

end Command

/-! ## Turns -/

/-- What the console is given to answer. -/
inductive Input where
  /-- A line, without its line break and with its backspaces applied. -/
  | line (text : String)
  /-- A line that is not valid UTF-8. -/
  | unreadable
  | endOfInput

namespace Input

/-- The input in the bytes of a line. -/
def ofBytes (bytes : List UInt8) : Input :=
  match String.fromUTF8? ⟨bytes.toArray⟩ with
  | some text => .line (delivered text)
  | none => .unreadable

/-- The inputs in the bytes of a file. -/
def ofFile (bytes : List UInt8) : List Input := (splitLines bytes).map ofBytes ++ [.endOfInput]

end Input

/-- What the console does after an answer. -/
inductive Next where
  | goOn (s : Session)
  | stop
  /-- The input could not be read. -/
  | fail

/-- An answer: what it prints, its log records, and what follows it. -/
structure Turn where
  output : String
  records : List Log.Record
  next : Next

/-- The answer to a command. -/
def obey (c : Command) (s : Session) : Turn :=
  match c with
  | .quit => ⟨goodbye, [], .stop⟩
  | .help => ⟨help, [], .goOn s⟩
  | .clear => ⟨clearScreen, [], .goOn s⟩
  | .reset => ⟨"Environment cleared.\n", [], .goOn s.reset⟩
  | .unknown text =>
    ⟨"Unknown command: " ++ text ++ "\nType :help for help.\n", [], .goOn s⟩

/-- The answer to a source text; an empty program prints no value. -/
def evaluate (depth : Nat) (source : String) (s : Session) : Option Turn :=
  (s.eval depth source).map fun x =>
    let shown := match x.response with
      | .evaluated none => ""
      | r => r.display ++ "\n"
    ⟨x.printed ++ shown, Log.ofSource source ++ x.records, .goOn x.next⟩

/-- The answer to an input; none if calls were nested more deeply than `depth`. -/
def turn (depth : Nat) (i : Input) (s : Session) : Option Turn :=
  match i with
  | .endOfInput => some ⟨goodbye, [], .stop⟩
  | .unreadable => some ⟨"", [], .fail⟩
  | .line text =>
    let line := trimmed text
    match line.toList with
    | [] => some ⟨"", [], .goOn s⟩
    | ':' :: _ => some (obey (.ofLine line) s)
    | _ => evaluate depth line s

/-! ## Transcripts -/

/-- The record of asking for an input. -/
def request : Log.Record := ⟨.lineRequest, none⟩

/-- All that the console prints, its log records, and whether it ended because it could not read its
input. -/
structure Transcript where
  output : String
  records : List Log.Record
  failed : Bool

/-- The output for a sequence of inputs, up to the first one that ends the conversation. -/
def transcriptFrom (depth : Nat) : List Input → Session → Option Transcript
  | [], _ => some ⟨"", [], false⟩
  | i :: is, s =>
    match turn depth i s with
    | none => none
    | some ⟨output, records, .goOn s'⟩ =>
      (transcriptFrom depth is s').map fun t =>
        { t with output := output ++ t.output, records := request :: (records ++ t.records) }
    | some ⟨output, records, .stop⟩ => some ⟨output, request :: records, false⟩
    | some ⟨output, records, .fail⟩ => some ⟨output, request :: records, true⟩

/-- The output of a whole conversation. -/
def transcript (depth : Nat) (inputs : List Input) : Option Transcript :=
  (transcriptFrom depth inputs .new).map fun t => { t with output := banner ++ t.output }

end MonkeyLang.Console
