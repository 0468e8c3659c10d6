import Mathlib.Order.Nat
import MonkeyLang.Proofs.Evaluation.Agreement
import MonkeyLang.Proofs.Evaluation.Frames

/-!
# Evaluation beside unused frames

Two runs may differ in frames that one of them has left over: the first `base` frames have the same
numbers in both, and every later frame of the first run has a number in the second that is larger
by the number of frames left over.  Such runs agree on everything but the numbers of frames.

With no frames left over the relation of a state to itself says that the state is well formed: the
frames that parents and functions refer to are there.
-/

namespace MonkeyLang

/-! ## Shifted frames -/

/-- The number in the second run of a frame of the first. -/
def shifted (base extra i : Nat) : Nat := if i < base then i else i + extra

lemma shifted_of_lt {base extra i : Nat} (h : i < base) : shifted base extra i = i := if_pos h

lemma shifted_zero (base i : Nat) : shifted base 0 i = i := by
  unfold shifted
  split <;> rfl

lemma shifted_of_le {base extra i : Nat} (h : base ≤ i) : shifted base extra i = i + extra :=
  if_neg (Nat.not_lt.2 h)

lemma le_shifted (base extra i : Nat) : i ≤ shifted base extra i := by
  unfold shifted
  split <;> omega

lemma shifted_inj {base extra i j : Nat} (h : shifted base extra i = shifted base extra j) :
    i = j := by
  unfold shifted at h
  split at h <;> split at h <;> omega

lemma shifted_lt {base extra i size : Nat} (h : i < size) (hbase : base ≤ size) :
    shifted base extra i < size + extra := by
  unfold shifted
  split <;> omega

/-- Functions with one body, made in corresponding frames, of which there are `size` in the first
run. -/
def shiftedLeaves (base extra size : Nat) : Leaves where
  closures f g := f.scope < size ∧ g.scope = shifted base extra f.scope ∧
    g.parameters = f.parameters ∧ g.body = f.body
  errors _ := True

/-- The frames bind the same names, to related values, and have corresponding parents. -/
structure ShiftedFrame (base extra size : Nat) (f g : Frame) : Prop where
  bindings : ∀ name, OptionRelated (Value.Related (shiftedLeaves base extra size))
    (f.bindings.get? name) (g.bindings.get? name)
  parent : g.parent = f.parent.map (shifted base extra)

/-- The frames of the first run correspond to those of the second that are not left over. -/
structure ShiftedFrames (base extra : Nat) (frames frames' : Frames) : Prop where
  base_le : base ≤ frames.size
  size_eq : frames'.size = frames.size + extra
  ordered : frames.Ordered
  ordered' : frames'.Ordered
  frame : ∀ i : Nat, i < frames.size →
    OptionRelated (ShiftedFrame base extra frames.size) frames[i]? frames'[shifted base extra i]?

lemma shiftedLeaves_mono {base extra size size' : Nat} {f g : Closure} (hle : size ≤ size')
    (h : (shiftedLeaves base extra size).closures f g) :
    (shiftedLeaves base extra size').closures f g :=
  ⟨Nat.lt_of_lt_of_le h.1 hle, h.2⟩

lemma relatedFrame_iff {base extra size : Nat} {f g : Frame} :
    RelatedFrame (shiftedLeaves base extra size) (shifted base extra) f g ↔
      ShiftedFrame base extra size f g :=
  ⟨fun h => ⟨h.bindings, h.parent⟩, fun h => ⟨h.bindings, h.parent⟩⟩

namespace ShiftedFrames

variable {base extra : Nat} {frames frames' : Frames} {i : Nat}

lemma related (h : ShiftedFrames base extra frames frames') :
    RelatedFrames (shiftedLeaves base extra frames.size) (shifted base extra) frames frames' where
  ordered := h.ordered
  ordered' := h.ordered'
  frame i hi := (h.frame i hi).imp fun _ _ => relatedFrame_iff.2

lemma of_related (hbase : base ≤ frames.size) (hsize : frames'.size = frames.size + extra)
    (h : RelatedFrames (shiftedLeaves base extra frames.size) (shifted base extra) frames frames') :
    ShiftedFrames base extra frames frames' where
  base_le := hbase
  size_eq := hsize
  ordered := h.ordered
  ordered' := h.ordered'
  frame i hi := (h.frame i hi).imp fun _ _ => relatedFrame_iff.1

/-- Corresponding frames look names up alike. -/
lemma lookup (h : ShiftedFrames base extra frames frames') (hi : i < frames.size)
    (name : String) :
    OptionRelated (Value.Related (shiftedLeaves base extra frames.size))
      (frames.lookup i name) (frames'.lookup (shifted base extra i) name) :=
  h.related.lookup hi name

/-- Corresponding frames may bind a name to related values. -/
lemma set (h : ShiftedFrames base extra frames frames') (i : Nat) (name : String) {v v' : Value}
    (hv : v.Related (shiftedLeaves base extra frames.size) v') :
    ShiftedFrames base extra (frames.set i name v)
      (frames'.set (shifted base extra i) name v') := by
  have hset := h.related.set (fun _ _ => shifted_inj) i name hv
  have hsize : (frames.set i name v).size = frames.size := Array.size_modify
  have hsize' : (frames'.set (shifted base extra i) name v').size = frames'.size :=
    Array.size_modify
  rw [← hsize] at hset
  exact of_related (hsize.symm ▸ h.base_le) (by rw [hsize, hsize', h.size_eq]) hset

/-- Corresponding frames may be cleared. -/
lemma clear (h : ShiftedFrames base extra frames frames') (i : Nat) :
    ShiftedFrames base extra (frames.clear i) (frames'.clear (shifted base extra i)) := by
  have hclear := h.related.clear (fun _ _ => shifted_inj) i
  have hsize : (frames.clear i).size = frames.size := Array.size_modify
  have hsize' : (frames'.clear (shifted base extra i)).size = frames'.size := Array.size_modify
  rw [← hsize] at hclear
  exact of_related (hsize.symm ▸ h.base_le) (by rw [hsize, hsize', h.size_eq]) hclear

/-- Frames may be made inside corresponding frames, and they correspond again. -/
lemma child (h : ShiftedFrames base extra frames frames') (hi : i < frames.size) :
    ShiftedFrames base extra (frames.child i).2 (frames'.child (shifted base extra i)).2 := by
  have hnew : shifted base extra frames.size = frames'.size := by
    rw [h.size_eq, shifted_of_le h.base_le]
  have hi' : shifted base extra i < frames'.size := h.size_eq ▸ shifted_lt hi h.base_le
  have hchild := h.related.child (fun _ _ => shifted_inj) hnew hi hi'
  have hsize : (frames.child i).2.size = frames.size + 1 := Array.size_push _
  have hsize' : (frames'.child (shifted base extra i)).2.size = frames'.size + 1 :=
    Array.size_push _
  have hle : frames.size ≤ (frames.child i).2.size := by omega
  refine of_related (Nat.le_trans h.base_le hle) (by rw [hsize, hsize', h.size_eq]; omega) ?_
  exact hchild.mono (fun _ _ => shiftedLeaves_mono hle) fun _ _ => trivial

end ShiftedFrames

/-! ## Two runs -/

/-- The two runs have printed and logged the same, and their frames correspond.  The world is the
number of frames of the first run. -/
structure ShiftedStates (base extra size : Nat) (s s' : State) : Prop where
  size_eq : s.frames.size = size
  frames : ShiftedFrames base extra s.frames s'.frames
  printed : s'.printed = s.printed
  events : s'.events = s.events

/-- Two runs, the second with unused frames. -/
def shifting (base extra : Nat) : Correspondence Nat where
  leaves := shiftedLeaves base extra
  state := ShiftedStates base extra
  closures_mono := shiftedLeaves_mono
  errors_mono _ _ := trivial
  display_eq h := by
    obtain ⟨-, -, hparameters, hbody⟩ := h
    rw [Closure.display, Closure.display, Closure.parameterNames, Closure.parameterNames,
      hparameters, hbody]
  note e h := by
    unfold State.note
    rw [h.events]
    split
    · exact h
    · exact ⟨h.size_eq, h.frames, h.printed, rfl⟩
  print text h := ⟨h.size_eq, h.frames, congrArg (· ++ text) h.printed, h.events⟩

namespace shifting

variable {base extra : Nat}

/-- Code may run in corresponding frames. -/
lemma hosts {w i : Nat} (hi : i < w) :
    (shifting base extra).Hosts id .all w i (shifted base extra i) where
  lookup name _ := by
    intro w₁ hw₁ s s' hs
    refine .value (le_refl w₁) hs ?_
    have hlookup := hs.frames.lookup (i := i) (hs.size_eq ▸ Nat.lt_of_lt_of_le hi hw₁) name
    rwa [hs.size_eq] at hlookup
  assign name _ := by
    intro w₁ _ v v' hv w₂ hw₂ s s' hs
    have hv₂ := (shifting base extra).values_mono hw₂ hv
    refine .value (le_refl w₂) ⟨?_, ?_, hs.printed, hs.events⟩ trivial
    · rw [← hs.size_eq]
      exact Array.size_modify
    · exact hs.frames.set i name (hs.size_eq.symm ▸ hv₂)
  make parameters body _ := by
    intro w₁ hw₁ s s' hs
    rw [Ident.mapTokens_id, List.map_id, Block.mapTokens_id]
    exact .value (le_refl w₁) ⟨hs.size_eq, hs.frames, hs.printed, hs.events⟩
      (.function ⟨Nat.lt_of_lt_of_le hi hw₁, rfl, rfl, rfl⟩)

lemma enterable : (shifting base extra).Enterable id := by
  rintro w f g ⟨hscope, hshifted, hparameters, hbody⟩
  refine ⟨?_, ?_, .all, f.body.within_all, fun _ _ => trivial, ?_⟩
  · rw [Ident.mapTokens_id, List.map_id, hparameters]
  · rw [Block.mapTokens_id, hbody]
  · intro w₁ hw₁ s s' hs
    have hscope₁ : f.scope < s.frames.size := hs.size_eq ▸ Nat.lt_of_lt_of_le hscope hw₁
    have hchild := hs.frames.child hscope₁
    rw [← hshifted] at hchild
    have hsize : (s.frames.child f.scope).2.size = w₁ + 1 := by
      rw [Frames.child, Array.size_push, hs.size_eq]
    have hnew : s'.frames.size = shifted base extra s.frames.size := by
      rw [hs.frames.size_eq, shifted_of_le hs.frames.base_le]
    refine .value (Nat.le_succ w₁) ⟨hsize, hchild, hs.printed, hs.events⟩ ?_
    rw [hnew, hs.size_eq]
    exact hosts (Nat.lt_succ_self w₁)

end shifting

end MonkeyLang
