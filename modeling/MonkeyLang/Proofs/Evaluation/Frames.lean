import MonkeyLang.Proofs.Evaluation.Lookup
import MonkeyLang.Proofs.Evaluation.Relation

/-!
# Frames that correspond

In two runs the frames may have other numbers.  If a frame of the first run binds the same names as
the frame with the corresponding number in the second, to related values, and their parents
correspond, then names are looked up alike, and frames can be written and made on both sides.

Frames of the second run that correspond to none of the first are never visited.
-/

namespace MonkeyLang

/-- The frames bind the same names, to related values, and have corresponding parents. -/
structure RelatedFrame (leaves : Leaves) (number : FrameId → FrameId) (f g : Frame) : Prop where
  bindings : ∀ name, OptionRelated (Value.Related leaves)
    (f.bindings.get? name) (g.bindings.get? name)
  parent : g.parent = f.parent.map number

/-- Every frame of the first run is related to the one with the corresponding number. -/
structure RelatedFrames (leaves : Leaves) (number : FrameId → FrameId)
    (frames frames' : Frames) : Prop where
  ordered : frames.Ordered
  ordered' : frames'.Ordered
  frame : ∀ i : Nat, i < frames.size →
    OptionRelated (RelatedFrame leaves number) frames[i]? frames'[number i]?

variable {leaves leaves' : Leaves} {number : FrameId → FrameId}

lemma RelatedFrame.mono (hclosures : ∀ f g, leaves.closures f g → leaves'.closures f g)
    (herrors : ∀ e, leaves.errors e → leaves'.errors e) {f g : Frame}
    (h : RelatedFrame leaves number f g) : RelatedFrame leaves' number f g where
  bindings name := (h.bindings name).imp fun _ _ hv => hv.mono hclosures herrors
  parent := h.parent

namespace RelatedFrames

variable {frames frames' : Frames} {i : FrameId}

lemma mono (hclosures : ∀ f g, leaves.closures f g → leaves'.closures f g)
    (herrors : ∀ e, leaves.errors e → leaves'.errors e)
    (h : RelatedFrames leaves number frames frames') :
    RelatedFrames leaves' number frames frames' where
  ordered := h.ordered
  ordered' := h.ordered'
  frame i hi := (h.frame i hi).imp fun _ _ hfg => hfg.mono hclosures herrors

/-- An empty frame corresponds to an empty frame, whatever stands beside it. -/
lemma of_empty (hordered : frames'.Ordered) (hempty : frames'[number 0]? = some ⟨[], none⟩) :
    RelatedFrames leaves number #[Frames.emptyFrame] frames' where
  ordered := Frames.ordered_empty
  ordered' := hordered
  frame i hi := by
    obtain rfl : i = 0 := Nat.lt_one_iff.1 hi
    rw [hempty]
    exact .some ⟨fun _ => .none, rfl⟩

/-- Corresponding frames look names up alike. -/
lemma lookup (h : RelatedFrames leaves number frames frames') (hi : i < frames.size)
    (name : String) :
    OptionRelated (Value.Related leaves) (frames.lookup i name)
      (frames'.lookup (number i) name) := by
  induction i using Nat.strongRecOn with
  | _ i ih =>
    rw [Frames.lookup_eq h.ordered, Frames.lookup_eq h.ordered']
    have hframe := h.frame i hi
    generalize hleft : frames[i]? = o at hframe ⊢
    generalize frames'[number i]? = o' at hframe ⊢
    cases hframe with
    | none => exact .none
    | @some f g related =>
      have hlocal := related.bindings name
      rw [Option.bind_some, Option.bind_some, related.parent]
      generalize f.bindings.get? name = l at hlocal ⊢
      generalize g.bindings.get? name = l' at hlocal ⊢
      cases hlocal with
      | some related => exact .some related
      | none =>
        cases hparent : f.parent with
        | none => exact .none
        | some p =>
          have hp : p < i := h.ordered i f p hleft hparent
          exact ih p hp (Nat.lt_trans hp hi)

/-- Corresponding frames may be given other bindings that are related again. -/
lemma modify (h : RelatedFrames leaves number frames frames')
    (hnumber : ∀ i j, number i = number j → i = j) (i : FrameId) {u u' : Frame → Frame}
    (hu : ∀ f, (u f).parent = f.parent) (hu' : ∀ f, (u' f).parent = f.parent)
    (hrelated : ∀ f g, RelatedFrame leaves number f g → RelatedFrame leaves number (u f) (u' g)) :
    RelatedFrames leaves number (frames.modify i u) (frames'.modify (number i) u') where
  ordered := h.ordered.modify i hu
  ordered' := h.ordered'.modify _ hu'
  frame j hj := by
    rw [Array.size_modify] at hj
    rw [Array.getElem?_modify, Array.getElem?_modify]
    have hframe := h.frame j hj
    by_cases hij : i = j
    · subst hij
      rw [if_pos rfl, if_pos rfl]
      generalize frames[i]? = o at hframe ⊢
      generalize frames'[number i]? = o' at hframe ⊢
      cases hframe with
      | none => exact .none
      | some related => exact .some (hrelated _ _ related)
    · rw [if_neg hij, if_neg fun heq => hij (hnumber i j heq)]
      exact hframe

/-- Corresponding frames may bind a name to related values. -/
lemma set (h : RelatedFrames leaves number frames frames')
    (hnumber : ∀ i j, number i = number j → i = j) (i : FrameId) (name : String) {v v' : Value}
    (hv : v.Related leaves v') :
    RelatedFrames leaves number (frames.set i name v) (frames'.set (number i) name v') := by
  refine h.modify hnumber i (fun _ => rfl) (fun _ => rfl) fun f g hfg => ⟨fun other => ?_, ?_⟩
  · rw [Bindings.get?_insert, Bindings.get?_insert]
    split
    · exact .some hv
    · exact hfg.bindings other
  · exact hfg.parent

/-- Corresponding frames may be cleared. -/
lemma clear (h : RelatedFrames leaves number frames frames')
    (hnumber : ∀ i j, number i = number j → i = j) (i : FrameId) :
    RelatedFrames leaves number (frames.clear i) (frames'.clear (number i)) :=
  h.modify hnumber i (fun _ => rfl) (fun _ => rfl) fun _ _ hfg => ⟨fun _ => .none, hfg.parent⟩

/-- Frames may be made inside corresponding frames, and they correspond if their numbers do. -/
lemma child (h : RelatedFrames leaves number frames frames')
    (hnumber : ∀ i j, number i = number j → i = j) (hsize : number frames.size = frames'.size)
    (hi : i < frames.size) (hi' : number i < frames'.size) :
    RelatedFrames leaves number (frames.child i).2 (frames'.child (number i)).2 where
  ordered := h.ordered.child hi
  ordered' := h.ordered'.child hi'
  frame j hj := by
    rw [Frames.child, Array.size_push] at hj
    rw [Frames.child, Frames.child, Array.getElem?_push, Array.getElem?_push]
    by_cases hnew : j = frames.size
    · subst hnew
      rw [if_pos rfl, if_pos hsize]
      exact .some ⟨fun _ => .none, rfl⟩
    · rw [if_neg hnew, if_neg fun heq => hnew (hnumber _ _ (heq.trans hsize.symm))]
      exact h.frame j (by omega)

end RelatedFrames

end MonkeyLang
