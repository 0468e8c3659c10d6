import MonkeyLang.Evaluation.Basic

/-!
# Interpreters

An interpreter keeps the state that one program leaves for the next: the global bindings, and the
frames and functions that were made.
-/

namespace MonkeyLang

/-- The standard functions that programs can call, and the state. -/
structure Interpreter where
  builtins : BuiltinTable
  state : State

/-- What a finished run leaves: its result, what it printed, the kinds of steps that the log
reports, and the interpreter behind it. -/
structure Run (α : Type) where
  result : α
  printed : String
  events : List Log.Event
  next : Interpreter

namespace Interpreter

/-- A bound on nested calls that memory does not let a program reach. -/
def ampleDepth : Nat := Nat.pow 2 62

/-- An interpreter that has run nothing. -/
def new (builtins : BuiltinTable) : Interpreter := ⟨builtins, ⟨#[Frames.emptyFrame], 0, "", []⟩⟩

/-- An interpreter with the standard functions. -/
def standard : Interpreter := new .standard

/-- Runs an evaluation, whose printing and log start anew; none if it used up its bound. -/
def perform {α : Type} (m : Eval α) (i : Interpreter) : Option (Run (Except Signal α)) :=
  match m { i.state with printed := "", events := [] } with
  | .value a s => some ⟨.ok a, s.printed, s.events, { i with state := s }⟩
  | .signal sig s => some ⟨.error sig, s.printed, s.events, { i with state := s }⟩
  | .exhausted => none

/-- Runs a program.  A runtime error is its result; an empty program has none. -/
def run (depth : Nat) (p : Program) (i : Interpreter) : Option (Run (Option Value)) :=
  (perform (evalProgram i.builtins depth p) i).map fun r =>
    { r with result := r.result.toOption.join }

/-- The log records of running a program. -/
def records {α : Type} (p : Program) (r : Run α) : List Log.Record :=
  r.events.reverse.map fun e => ⟨e, some (.evaluating p.statements.length)⟩

/-- Calls a value with arguments. -/
def apply (depth : Nat) (f : Value) (args : List Value) (i : Interpreter) :
    Option (Run (Except Signal Value)) :=
  perform (MonkeyLang.apply i.builtins depth f args) i

/-- Removes the global bindings. -/
def reset (i : Interpreter) : Interpreter :=
  { i with state := { i.state with frames := i.state.frames.clear globalFrame } }

end Interpreter

end MonkeyLang
