import Mathlib.Tactic.Lemma
import MonkeyLang.Scope

/-!
# Looking names up

Where every parent is older than its children, the bound on the length of chains is never met, and
a look-up goes from a frame to its parent: `Frames.lookup_eq`.
-/

namespace MonkeyLang

namespace Frames

variable {frames : Frames}

/-- Every parent is older than its children. -/
def Ordered (frames : Frames) : Prop :=
  ∀ (i : FrameId) (f : Frame) (p : FrameId), frames[i]? = some f → f.parent = some p → p < i

lemma ordered_empty : Ordered #[emptyFrame] := by
  intro i f p hi hp
  obtain ⟨hlt, rfl⟩ := Array.getElem?_eq_some_iff.1 hi
  obtain rfl : i = 0 := Nat.lt_one_iff.1 hlt
  cases hp

/-- Other bindings leave the frames ordered. -/
lemma Ordered.modify (h : Ordered frames) (i : FrameId) {g : Frame → Frame}
    (hg : ∀ f, (g f).parent = f.parent) : Ordered (frames.modify i g) := by
  intro j f p hj hp
  rw [Array.getElem?_modify] at hj
  split at hj
  · obtain ⟨f', hf', rfl⟩ := Option.map_eq_some_iff.1 hj
    rw [hg] at hp
    exact h j f' p hf' hp
  · exact h j f p hj hp

lemma Ordered.clear (h : Ordered frames) (i : FrameId) : Ordered (frames.clear i) :=
  h.modify i fun _ => rfl

/-- A frame may be made whose parent there is. -/
lemma Ordered.push (h : Ordered frames) {g : Frame}
    (hparent : ∀ p, g.parent = some p → p < frames.size) : Ordered (frames.push g) := by
  intro j f p hj hp
  rw [Array.getElem?_push] at hj
  split at hj
  · obtain rfl := Option.some.inj hj
    next hnew => exact hnew ▸ hparent p hp
  · exact h j f p hj hp

/-- A frame may be made inside any that there is. -/
lemma Ordered.child (h : Ordered frames) {parent : FrameId} (hparent : parent < frames.size) :
    Ordered (frames.child parent).2 :=
  h.push fun _ hp => Option.some.inj hp ▸ hparent

/-- A chain is not longer than its first frame is old. -/
lemma chainUpTo_eq_chain (h : Ordered frames) {i : FrameId} {limit : Nat} (hlimit : i < limit) :
    frames.chainUpTo limit i = frames.chain i := by
  induction i using Nat.strongRecOn generalizing limit with
  | _ i ih =>
    obtain _ | limit := limit
    · exact absurd hlimit (Nat.not_lt_zero i)
    · rw [chain, chainUpTo, chainUpTo]
      cases hframe : frames[i]? with
      | none => rfl
      | some f =>
        cases hparent : f.parent with
        | none => simp only [hparent]
        | some p =>
          have hp : p < i := h i f p hframe hparent
          have hlimit' : p < limit := Nat.lt_of_lt_of_le hp (Nat.le_of_lt_succ hlimit)
          simp only [hparent, ih p hp hlimit', ih p hp hp]

/-- The chain of a frame is the frame and then the chain of its parent. -/
lemma chain_eq (h : Ordered frames) {i : FrameId} {f : Frame} (hi : frames[i]? = some f) :
    frames.chain i = i :: (f.parent.map frames.chain).getD [] := by
  rw [chain, chainUpTo, hi]
  cases hparent : f.parent with
  | none => simp only [hparent, Option.map_none, Option.getD_none]
  | some p =>
    simp only [hparent, chainUpTo_eq_chain h (h i f p hi hparent), Option.map_some,
      Option.getD_some]

/-- A chain that is not empty starts with its frame. -/
lemma eq_of_mem_head?_chain {i j : FrameId} (hj : j ∈ (frames.chain i).head?) : j = i := by
  rw [chain, chainUpTo] at hj
  split at hj
  · cases hj
  · split at hj <;> exact (Option.some.inj hj).symm

/-- Going outward the frames get older. -/
lemma le_of_mem_chain (h : Ordered frames) {i j : FrameId} (hj : j ∈ frames.chain i) :
    j ≤ i := by
  induction i using Nat.strongRecOn with
  | _ i ih =>
    cases hframe : frames[i]? with
    | none =>
      rw [chain, chainUpTo, hframe] at hj
      cases hj
    | some f =>
      rw [chain_eq h hframe] at hj
      rcases List.mem_cons.1 hj with rfl | hmem
      · exact Nat.le_refl _
      · cases hparent : f.parent with
        | none =>
          rw [hparent] at hmem
          cases hmem
        | some p =>
          rw [hparent] at hmem
          have hp : p < i := h i f p hframe hparent
          exact Nat.le_trans (ih p hp hmem) (Nat.le_of_lt hp)

/-- The frames that a look-up of a name inspects: those of the chain, up to the first one that
binds the name. -/
def inspected (frames : Frames) (i : FrameId) (name : String) : List FrameId :=
  (frames.chain i).take
    (((frames.chain i).takeWhile fun j => (frames.local? name j).isNone).length + 1)

lemma length_inspected_le (frames : Frames) (i : FrameId) (name : String) :
    (frames.inspected i name).length ≤ (frames.chain i).length :=
  List.length_take_le' _ _

/-- A look-up is decided by the frames that it inspects. -/
theorem lookup_eq_inspected (frames : Frames) (i : FrameId) (name : String) :
    frames.lookup i name = (frames.inspected i name).findSome? (frames.local? name) := by
  rw [lookup, inspected]
  induction frames.chain i with
  | nil => rfl
  | cons j js ih =>
    cases hj : frames.local? name j with
    | none => simpa [hj] using ih
    | some v => simp [hj]

/-- A name is looked up in a frame, and then in the parent. -/
theorem lookup_eq (h : Ordered frames) (i : FrameId) (name : String) :
    frames.lookup i name = (frames[i]?).bind fun f =>
      (f.bindings.get? name).or (f.parent.bind fun p => frames.lookup p name) := by
  rw [lookup, chain, chainUpTo]
  cases hframe : frames[i]? with
  | none => rfl
  | some f =>
    have hlocal : frames.local? name i = f.bindings.get? name := by
      rw [local?, hframe]
    cases hparent : f.parent with
    | none =>
      simp only [hparent, List.findSome?_cons, hlocal, Option.bind_some, Option.bind_none]
      cases f.bindings.get? name <;> rfl
    | some p =>
      have hp := h i f p hframe hparent
      simp only [hparent, List.findSome?_cons, hlocal, Option.bind_some, lookup,
        chainUpTo_eq_chain h hp]
      cases f.bindings.get? name <;> rfl

/-! ## Bindings of one frame -/

/-- A frame that there is binds what it is made to bind; everything else is bound as before. -/
lemma local?_set_eq (frames : Frames) (i : FrameId) (name : String) (v : Value) (other : String)
    (j : FrameId) : (frames.set i name v).local? other j =
      if i = j ∧ name = other ∧ j < frames.size then some v else frames.local? other j := by
  rw [local?, local?, set, Array.getElem?_modify]
  by_cases hij : i = j
  · subst hij
    by_cases hi : i < frames.size
    · rw [if_pos rfl, Array.getElem?_eq_getElem hi, Option.map_some]
      simp only [Bindings.get?_insert, hi, and_true, true_and]
    · rw [if_pos rfl, Array.getElem?_eq_none (Nat.not_lt.1 hi), Option.map_none,
        if_neg fun hset => hi hset.2.2]
  · rw [if_neg hij, if_neg fun hset => hij hset.1]

/-- A new frame binds nothing. -/
lemma local?_child (frames : Frames) (parent : FrameId) (name : String) (i : FrameId) :
    (frames.child parent).2.local? name i = frames.local? name i := by
  rw [local?, local?, child, Array.getElem?_push]
  by_cases hi : i = frames.size
  · rw [if_pos hi, Array.getElem?_eq_none (Nat.le_of_eq hi.symm)]
    rfl
  · rw [if_neg hi]

end Frames

end MonkeyLang
