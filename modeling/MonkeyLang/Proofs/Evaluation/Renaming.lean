import Mathlib.Order.Basic
import MonkeyLang.Interpreter
import MonkeyLang.Proofs.Evaluation.Closures
import MonkeyLang.Proofs.Evaluation.Shift

/-!
# Evaluation with other numbers

Frames and functions are numbered as they are made.  If a second run starts where more of them have
been made, it makes frames and functions with larger numbers, and does the same otherwise: its
values are those of the first run, renumbered (`Closure.renumber`).

The runs are compared as those beside unused frames are, but here the functions in related values
are determined by one another.  With nothing made in between the relation of a state to itself says
that the functions in its frames have been made there (`Value.MadeWithin`).
-/

namespace MonkeyLang

/-! ## Numbers -/

/-- How many frames and functions have been made. -/
structure Extent where
  frames : Nat
  functions : Nat

namespace Extent

instance : Preorder Extent where
  le a b := a.frames ≤ b.frames ∧ a.functions ≤ b.functions
  le_refl _ := ⟨Nat.le_refl _, Nat.le_refl _⟩
  le_trans _ _ _ h h' := ⟨Nat.le_trans h.1 h'.1, Nat.le_trans h.2 h'.2⟩

/-- As many more of both. -/
def plus (a b : Extent) : Extent := ⟨a.frames + b.frames, a.functions + b.functions⟩

/-- Nothing more. -/
def none : Extent := ⟨0, 0⟩

lemma none_plus (a : Extent) : none.plus a = a :=
  congrArg₂ mk (Nat.zero_add _) (Nat.zero_add _)

lemma plus_assoc (a b c : Extent) : (a.plus b).plus c = a.plus (b.plus c) :=
  congrArg₂ mk (Nat.add_assoc _ _ _) (Nat.add_assoc _ _ _)

end Extent

/-- What has been made in a state. -/
def State.extent (s : State) : Extent := ⟨s.frames.size, s.functions⟩

/-- The function was made, in a frame that was made. -/
structure Closure.MadeWithin (w : Extent) (f : Closure) : Prop where
  scope : f.scope < w.frames
  identity : f.identity < w.functions

/-- The function with other numbers, where numbers from `base` on are larger by `extra`. -/
def Closure.renumber (base extra : Extent) (f : Closure) : Closure :=
  { f with identity := shifted base.functions extra.functions f.identity,
           scope := shifted base.frames extra.frames f.scope }

/-- Functions of which the second is the first one renumbered. -/
def renumberedLeaves (base extra w : Extent) : Leaves where
  closures f g := f.MadeWithin w ∧ g = f.renumber base extra
  errors _ := True

/-- Every function in the value was made, in a frame that was made. -/
def Value.MadeWithin (w : Extent) (v : Value) : Prop :=
  v.Related ⟨fun f g => f.MadeWithin w ∧ f = g, fun _ => True⟩ v

section

variable {base extra w w' : Extent}

lemma Closure.MadeWithin.mono {f : Closure} (hle : w ≤ w') (h : f.MadeWithin w) :
    f.MadeWithin w' :=
  ⟨Nat.lt_of_lt_of_le h.scope hle.1, Nat.lt_of_lt_of_le h.identity hle.2⟩

/-- What was made before keeps its numbers. -/
lemma Closure.MadeWithin.renumber_eq {f : Closure} (h : f.MadeWithin base) :
    f.renumber base extra = f := by
  rw [renumber, shifted_of_lt h.scope, shifted_of_lt h.identity]

lemma Closure.renumber_none (f : Closure) : f.renumber base .none = f := by
  simp only [renumber, Extent.none, shifted_zero]

lemma renumberedLeaves_mono {f g : Closure} (hle : w ≤ w')
    (h : (renumberedLeaves base extra w).closures f g) :
    (renumberedLeaves base extra w').closures f g :=
  ⟨h.1.mono hle, h.2⟩

lemma Value.MadeWithin.mono {v : Value} (hle : w ≤ w') (h : v.MadeWithin w) :
    v.MadeWithin w' := by
  refine Value.Related.mono ?_ (fun _ _ => trivial) h
  rintro f _ ⟨hmade, rfl⟩
  exact ⟨hmade.mono hle, rfl⟩

lemma Value.MadeWithin.related {v : Value} (h : v.MadeWithin w)
    (hsame : ∀ f : Closure, f.MadeWithin w → f.renumber base extra = f) :
    v.Related (renumberedLeaves base extra w) v := by
  refine Value.Related.mono ?_ (fun _ _ => trivial) h
  rintro f _ ⟨hmade, rfl⟩
  exact ⟨hmade, (hsame f hmade).symm⟩

lemma Value.madeWithin_of_related {v : Value} (h : v.Related (renumberedLeaves base .none w) v) :
    v.MadeWithin w := by
  refine Value.Related.mono ?_ (fun _ _ => trivial) h
  rintro f _ ⟨hmade, rfl⟩
  exact ⟨hmade, f.renumber_none.symm⟩

end

/-! ## States of which one has made more -/

namespace State

variable {base extra : Extent} {s s' : State}

/-- Frames that were made have corresponding frames that were made. -/
lemma shifted_lt_size (h : s'.extent = s.extent.plus extra) (hbase : base ≤ s.extent)
    {i : FrameId} (hi : i < s.frames.size) :
    shifted base.frames extra.frames i < s'.frames.size := by
  have hsize : s'.frames.size = s.frames.size + extra.frames := congrArg Extent.frames h
  exact hsize ▸ shifted_lt hi hbase.1

/-- The frames that are made next have corresponding numbers. -/
lemma shifted_size (h : s'.extent = s.extent.plus extra) (hbase : base ≤ s.extent) :
    shifted base.frames extra.frames s.frames.size = s'.frames.size :=
  (shifted_of_le hbase.1).trans (congrArg Extent.frames h).symm

/-- The functions that are made next have corresponding numbers. -/
lemma renumber_made (h : s'.extent = s.extent.plus extra) (hbase : base ≤ s.extent)
    (parameters : List Ident) (body : Block) (i : FrameId) :
    Closure.mk s'.functions parameters body (shifted base.frames extra.frames i) =
      Closure.renumber base extra ⟨s.functions, parameters, body, i⟩ := by
  have hidentity : shifted base.functions extra.functions s.functions = s'.functions :=
    (shifted_of_le hbase.2).trans (congrArg Extent.functions h).symm
  rw [Closure.renumber, hidentity]

lemma extent_made (h : s'.extent = s.extent.plus extra) :
    State.extent { s' with functions := s'.functions + 1 } =
      Extent.plus ⟨s.frames.size, s.functions + 1⟩ extra := by
  have hsize : s'.frames.size = s.frames.size + extra.frames := congrArg Extent.frames h
  have hfunctions : s'.functions = s.functions + extra.functions := congrArg Extent.functions h
  rw [State.extent, Extent.plus, hsize, hfunctions, Nat.add_right_comm]

lemma extent_child (s : State) (i : FrameId) :
    State.extent { s with frames := (s.frames.child i).2 } = ⟨s.frames.size + 1, s.functions⟩ := by
  rw [State.extent, Frames.child, Array.size_push]

lemma extent_child_plus (h : s'.extent = s.extent.plus extra) (i : FrameId) :
    State.extent { s' with frames := (s'.frames.child i).2 } =
      Extent.plus ⟨s.frames.size + 1, s.functions⟩ extra := by
  have hsize : s'.frames.size = s.frames.size + extra.frames := congrArg Extent.frames h
  have hfunctions : s'.functions = s.functions + extra.functions := congrArg Extent.functions h
  rw [extent_child, Extent.plus, hsize, hfunctions, Nat.add_right_comm]

lemma extent_set (s : State) (i : FrameId) (name : String) (v : Value) :
    State.extent { s with frames := s.frames.set i name v } = s.extent := by
  rw [State.extent, State.extent, Frames.set, Array.size_modify]

end State

/-! ## Two runs -/

/-- The two runs have printed and logged the same, and the second one has made more by `extra`.
The world is what the first one has made. -/
structure RenumberedStates (base extra w : Extent) (s s' : State) : Prop where
  extent_eq : s.extent = w
  extent_eq' : s'.extent = w.plus extra
  base_le : base ≤ w
  frames : RelatedFrames (renumberedLeaves base extra w) (shifted base.frames extra.frames)
    s.frames s'.frames
  printed : s'.printed = s.printed
  events : s'.events = s.events

/-- Printing and logging may start anew. -/
lemma RenumberedStates.restart {base extra w : Extent} {s s' : State}
    (h : RenumberedStates base extra w s s') :
    RenumberedStates base extra w { s with printed := "", events := [] }
      { s' with printed := "", events := [] } :=
  ⟨h.extent_eq, h.extent_eq', h.base_le, h.frames, rfl, rfl⟩

/-- Two runs, of which the second has made more. -/
def renumbering (base extra : Extent) : Correspondence Extent where
  leaves := renumberedLeaves base extra
  state := RenumberedStates base extra
  closures_mono := renumberedLeaves_mono
  errors_mono _ _ := trivial
  display_eq := by
    rintro _ f _ ⟨-, rfl⟩
    rfl
  note e h := by
    unfold State.note
    rw [h.events]
    split
    · exact h
    · exact ⟨h.extent_eq, h.extent_eq', h.base_le, h.frames, h.printed, rfl⟩
  print text h :=
    ⟨h.extent_eq, h.extent_eq', h.base_le, h.frames, congrArg (· ++ text) h.printed, h.events⟩

namespace renumbering

variable {base extra w : Extent}

/-- A value of the second run is that of the first, renumbered. -/
lemma eq_of_values {v v' : Value} (h : (renumbering base extra).values w v v') :
    v' = v.mapClosures (Closure.renumber base extra) := by
  have hclosures : ∀ f g, (renumberedLeaves base extra w).closures f g →
      g = f.renumber base extra := fun _ _ hg => hg.2
  exact h.eq_mapClosures hclosures

/-- Code may run in corresponding frames. -/
lemma hosts {i : FrameId} (hi : i < w.frames) :
    (renumbering base extra).Hosts id .all w i (shifted base.frames extra.frames i) where
  lookup name _ := by
    intro w₁ hw₁ s s' hs
    obtain rfl := hs.extent_eq
    exact .value (le_refl _) hs (hs.frames.lookup (Nat.lt_of_lt_of_le hi hw₁.1) name)
  assign name _ := by
    intro w₁ _ v v' hv w₂ hw₂ s s' hs
    have hv₂ := (renumbering base extra).values_mono hw₂ hv
    have hset := hs.frames.set (fun _ _ => shifted_inj) i name hv₂
    exact .value (le_refl w₂) ⟨(s.extent_set i name v).trans hs.extent_eq,
      (s'.extent_set _ name v').trans hs.extent_eq', hs.base_le, hset, hs.printed, hs.events⟩
      trivial
  make parameters body _ := by
    intro w₁ hw₁ s s' hs
    rw [Ident.mapTokens_id, List.map_id, Block.mapTokens_id]
    obtain rfl := hs.extent_eq
    -- The new function has the number that corresponds to that of the first run.
    have hnew := State.renumber_made hs.extent_eq' hs.base_le parameters body i
    have hmore : s.extent ≤ ⟨s.frames.size, s.functions + 1⟩ := ⟨le_refl _, Nat.le_succ _⟩
    refine .value hmore ⟨rfl, State.extent_made hs.extent_eq', le_trans hs.base_le hmore, ?_,
      hs.printed, hs.events⟩ ?_
    · exact hs.frames.mono (fun _ _ => renumberedLeaves_mono hmore) fun _ _ => trivial
    · exact .function ⟨⟨Nat.lt_of_lt_of_le hi hw₁.1, Nat.lt_succ_self _⟩, hnew⟩

lemma enterable : (renumbering base extra).Enterable id := by
  rintro w f _ ⟨hmade, rfl⟩
  refine ⟨?_, ?_, .all, f.body.within_all, fun _ _ => trivial, ?_⟩
  · rw [Ident.mapTokens_id, List.map_id]
    rfl
  · rw [Block.mapTokens_id]
    rfl
  · intro w₁ hw₁ s s' hs
    obtain rfl := hs.extent_eq
    have hnew := State.shifted_size hs.extent_eq' hs.base_le
    have hscope : f.scope < s.frames.size := Nat.lt_of_lt_of_le hmade.scope hw₁.1
    have hscope' := State.shifted_lt_size hs.extent_eq' hs.base_le hscope
    have hchild := hs.frames.child (fun _ _ => shifted_inj) hnew hscope hscope'
    have hmore : s.extent ≤ ⟨s.frames.size + 1, s.functions⟩ := ⟨Nat.le_succ _, le_refl _⟩
    refine .value hmore ⟨s.extent_child _, State.extent_child_plus hs.extent_eq' _,
      le_trans hs.base_le hmore, ?_, hs.printed, hs.events⟩ ?_
    · exact hchild.mono (fun _ _ => renumberedLeaves_mono hmore) fun _ _ => trivial
    · rw [← hnew]
      exact hosts (Nat.lt_succ_self _)

end renumbering

end MonkeyLang
