import MonkeyLang.Log.Record
import MonkeyLang.Scope

/-!
# Outcomes of evaluation

Evaluation changes a state and ends in one of three ways: with a value; with a signal that leaves
everything around it, an early return or a runtime error; or with its bound on nested calls used
up, which is neither.

The type `Eval` is the type of such evaluations, and its `bind` goes on only behind a value.
-/

namespace MonkeyLang

/-- What evaluation changes. -/
structure State where
  frames : Frames
  /-- The number of functions made so far, which is the identity of the next one. -/
  functions : Nat
  /-- What has been printed. -/
  printed : String
  /-- The kinds of steps taken that the log reports, each once. -/
  events : List Log.Event

namespace State

/-- The state after a step that the log reports. -/
def note (e : Log.Event) (s : State) : State :=
  if e ∈ s.events then s else { s with events := e :: s.events }

end State

/-- An exit that leaves everything up to the call or the program around it. -/
inductive Signal where
  /-- A `return`, on its way to the call of its function. -/
  | returned (value : Value)
  /-- A runtime error, on its way to the program. -/
  | failed (error : RuntimeError)

/-- How an evaluation ends. -/
inductive Outcome (α : Type) where
  | value (a : α) (state : State)
  | signal (signal : Signal) (state : State)
  /-- Calls were nested more deeply than the bound. -/
  | exhausted

/-- Evaluations that end with a value of a type. -/
abbrev Eval (α : Type) := State → Outcome α

namespace Eval

variable {α β : Type}

instance : Monad Eval where
  pure a := fun s => .value a s
  bind m f := fun s =>
    match m s with
    | .value a s' => f a s'
    | .signal sig s' => .signal sig s'
    | .exhausted => .exhausted

theorem pure_apply (a : α) (s : State) : (pure a : Eval α) s = .value a s := rfl

theorem bind_apply (m : Eval α) (f : α → Eval β) (s : State) :
    (m >>= f) s = match m s with
      | .value a s' => f a s'
      | .signal sig s' => .signal sig s'
      | .exhausted => .exhausted := rfl

instance : LawfulMonad Eval := .mk' Eval
  (fun m => by
    funext s
    change (m >>= pure) s = m s
    rw [Eval.bind_apply]
    cases m s <;> rfl)
  (fun _ _ => rfl)
  (fun m _ _ => by
    funext s
    simp only [Eval.bind_apply]
    cases m s <;> rfl)

/-- The evaluation that has used up its bound. -/
def exhausted : Eval α := fun _ => .exhausted

/-- Leaves everything up to the call or the program around. -/
def raise (sig : Signal) : Eval α := fun s => .signal sig s

/-- The value of a computation without effects, or its error as a signal. -/
def ofExcept : Except RuntimeError α → Eval α
  | .ok a => pure a
  | .error e => raise (.failed e)

/-- Ends a `return` that leaves an evaluation: its value is the value of the evaluation. -/
def catchReturn (m : Eval Value) : Eval Value := fun s =>
  match m s with
  | .signal (.returned v) s' => .value v s'
  | o => o

/-- The value of a name in a frame, or else of the frames around it. -/
def lookup (scope : FrameId) (name : String) : Eval (Option Value) := fun s =>
  .value (s.frames.lookup scope name) s

/-- Binds a name in a frame. -/
def assign (scope : FrameId) (name : String) (value : Value) : Eval Unit := fun s =>
  .value () { s with frames := s.frames.set scope name value }

/-- Makes a frame inside another. -/
def enter (scope : FrameId) : Eval FrameId := fun s =>
  .value s.frames.size { s with frames := (s.frames.child scope).2 }

/-- Makes a function that remembers a frame. -/
def makeFunction (parameters : List Ident) (body : Block) (scope : FrameId) : Eval Value := fun s =>
  .value (.function ⟨s.functions, parameters, body, scope⟩) { s with functions := s.functions + 1 }

/-- Prints a text. -/
def print (text : String) : Eval Unit := fun s => .value () { s with printed := s.printed ++ text }

/-- Takes a step that the log reports. -/
def note (e : Log.Event) : Eval Unit := fun s => .value () (s.note e)

end Eval

end MonkeyLang
