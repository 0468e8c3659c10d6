import MonkeyLang.Value.Basic

/-!
# Scopes

Variables live in numbered frames.  A frame binds names to values and may have a parent, in which
a name is looked up that the frame does not bind; writing binds a name in one frame and in no
other.

The main definitions are `Frames.chain`, the frames that a look-up visits, and `Frames.lookup`.
-/

namespace MonkeyLang

/-! ## Bindings of one frame -/

/-- Names and their values, each name once. -/
abbrev Bindings := List (String × Value)

namespace Bindings

/-- The value of a name. -/
def get? (name : String) : Bindings → Option Value
  | [] => none
  | (n, v) :: rest => if n = name then some v else get? name rest

/-- Binds a name, in place of the value that it had. -/
def insert (name : String) (value : Value) : Bindings → Bindings
  | [] => [(name, value)]
  | (n, v) :: rest =>
    if n = name then (n, value) :: rest else (n, v) :: insert name value rest

theorem get?_insert (name other : String) (value : Value) (b : Bindings) :
    get? other (insert name value b) = if name = other then some value else get? other b := by
  induction b with
  | nil => simp [insert, get?]
  | cons p rest ih =>
    obtain ⟨n, v⟩ := p
    by_cases hn : n = name
    · subst hn
      by_cases ho : n = other <;> simp [insert, get?, ho]
    · by_cases ho : n = other
      · subst ho
        simp [insert, get?, hn, Ne.symm hn]
      · simp [insert, get?, hn, ho, ih]

end Bindings

/-! ## Frames -/

/-- The bindings of one scope and the frame around it. -/
structure Frame where
  bindings : Bindings
  parent : Option FrameId

/-- All frames made so far; the number of a frame is its position. -/
abbrev Frames := Array Frame

namespace Frames

/-- A frame that binds nothing and has no parent. -/
def emptyFrame : Frame := ⟨[], none⟩

/-- The frames from a given one outward, cut off after `limit` of them. -/
def chainUpTo (frames : Frames) : Nat → FrameId → List FrameId
  | 0, _ => []
  | limit + 1, i =>
    match frames[i]? with
    | none => []
    | some f =>
      match f.parent with
      | none => [i]
      | some p => i :: chainUpTo frames limit p

/-- The frames that a look-up in a frame visits, the frame itself first.  A parent is older than
its children and so has a smaller number, which bounds the length of the chain. -/
def chain (frames : Frames) (i : FrameId) : List FrameId := frames.chainUpTo (i + 1) i

/-- The value that a frame itself binds a name to. -/
def local? (frames : Frames) (name : String) (i : FrameId) : Option Value :=
  match frames[i]? with
  | none => none
  | some f => f.bindings.get? name

/-- The value of a name in the first frame of the chain that binds it. -/
def lookup (frames : Frames) (i : FrameId) (name : String) : Option Value :=
  (frames.chain i).findSome? (frames.local? name)

/-- Makes a frame without a parent. -/
def fresh (frames : Frames) : FrameId × Frames := (frames.size, frames.push emptyFrame)

/-- Makes a frame inside another. -/
def child (frames : Frames) (parent : FrameId) : FrameId × Frames :=
  (frames.size, frames.push ⟨[], some parent⟩)

/-- Makes a frame with the bindings and the parent of another. -/
def clone (frames : Frames) (i : FrameId) : FrameId × Frames :=
  (frames.size, frames.push (frames.getD i emptyFrame))

/-- Binds a name in a frame. -/
def set (frames : Frames) (i : FrameId) (name : String) (value : Value) : Frames :=
  frames.modify i fun f => { f with bindings := f.bindings.insert name value }

/-- Removes the bindings of a frame itself. -/
def clear (frames : Frames) (i : FrameId) : Frames :=
  frames.modify i fun f => { f with bindings := [] }

end Frames

end MonkeyLang
