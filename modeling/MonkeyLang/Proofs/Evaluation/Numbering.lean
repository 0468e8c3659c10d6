import Mathlib.Order.Monotone.Basic
import MonkeyLang.Proofs.Evaluation.Locality
import MonkeyLang.Proofs.Evaluation.Renaming

/-!
# Evaluation beside other work

Two runs do the same, and the second one does other work in between: it makes frames and functions
of its own, and writes in these frames only.  A `Numbering` says which frames and functions of the
second run are those of the first.  What both runs do keeps it, and other work changes it only
where nothing has been made yet (`NumberedStates.beside`).

What the log reports is left out of the comparison, since other work is logged too.
-/

namespace MonkeyLang

/-! ## Numberings -/

/-- What a run has made, and the numbers that another run has for its frames and functions, which
keep their order. -/
structure Numbering where
  made : Extent
  frame : FrameId → FrameId
  function : Nat → Nat
  frame_strictMono : StrictMono frame
  function_strictMono : StrictMono function

namespace Numbering

/-- More may have been made, and what was made before keeps its numbers. -/
instance : Preorder Numbering where
  le N N' := N.made ≤ N'.made ∧ (∀ i < N.made.frames, N'.frame i = N.frame i) ∧
    ∀ i < N.made.functions, N'.function i = N.function i
  le_refl _ := ⟨le_refl _, fun _ _ => rfl, fun _ _ => rfl⟩
  le_trans _ _ _ h h' := ⟨le_trans h.1 h'.1,
    fun i hi => (h'.2.1 i (Nat.lt_of_lt_of_le hi h.1.1)).trans (h.2.1 i hi),
    fun i hi => (h'.2.2 i (Nat.lt_of_lt_of_le hi h.1.2)).trans (h.2.2 i hi)⟩

/-- Every number is its own. -/
def same (w : Extent) : Numbering := ⟨w, id, id, strictMono_id, strictMono_id⟩

/-- The numbering when other things have been made. -/
def withMade (N : Numbering) (w : Extent) : Numbering := { N with made := w }

/-- What the runs make next gets corresponding numbers, when the other run has made `w`. -/
structure Continues (N : Numbering) (w : Extent) : Prop where
  frame : ∀ k, N.frame (N.made.frames + k) = w.frames + k
  function : ∀ k, N.function (N.made.functions + k) = w.functions + k

/-- The function with the numbers that the other run has for it. -/
def renumber (N : Numbering) (f : Closure) : Closure :=
  { f with identity := N.function f.identity, scope := N.frame f.scope }

/-- Functions of which the second is the first one with the numbers of the other run. -/
def leaves (N : Numbering) : Leaves where
  closures f g := f.MadeWithin N.made ∧ g = N.renumber f
  errors _ := True

variable {N N' : Numbering}

lemma le_withMade {w : Extent} (h : N.made ≤ w) : N ≤ N.withMade w :=
  ⟨h, fun _ _ => rfl, fun _ _ => rfl⟩

lemma frame_eq_of_le {i : FrameId} (hle : N ≤ N') (hi : i < N.made.frames) :
    N'.frame i = N.frame i := hle.2.1 i hi

lemma function_eq_of_le {i : Nat} (hle : N ≤ N') (hi : i < N.made.functions) :
    N'.function i = N.function i := hle.2.2 i hi

lemma renumber_eq_of_le {f : Closure} (hle : N ≤ N') (hf : f.MadeWithin N.made) :
    N'.renumber f = N.renumber f := by
  rw [renumber, renumber, frame_eq_of_le hle hf.scope, function_eq_of_le hle hf.identity]

lemma leaves_mono {f g : Closure} (hle : N ≤ N') (h : N.leaves.closures f g) :
    N'.leaves.closures f g :=
  ⟨h.1.mono hle.1, h.2.trans (renumber_eq_of_le hle h.1).symm⟩

/-- A value of the second run is that of the first, with the numbers of the second. -/
lemma eq_of_related {v v' : Value} (h : v.Related N.leaves v') :
    v' = v.mapClosures N.renumber := by
  have hclosures : ∀ f g, N.leaves.closures f g → g = N.renumber f := fun _ _ hg => hg.2
  exact h.eq_mapClosures hclosures

lemma Continues.frame_lt {w : Extent} (h : N.Continues w) {i : FrameId}
    (hi : i < N.made.frames) : N.frame i < w.frames :=
  Nat.lt_of_lt_of_eq (N.frame_strictMono hi) (h.frame 0)

lemma Continues.function_lt {w : Extent} (h : N.Continues w) {i : Nat}
    (hi : i < N.made.functions) : N.function i < w.functions :=
  Nat.lt_of_lt_of_eq (N.function_strictMono hi) (h.function 0)

lemma Continues.frame_made {w : Extent} (h : N.Continues w) :
    (N.withMade ⟨N.made.frames + 1, N.made.functions⟩).Continues ⟨w.frames + 1, w.functions⟩ where
  frame k := by
    have hnext := h.frame (1 + k)
    rwa [← Nat.add_assoc, ← Nat.add_assoc] at hnext
  function := h.function

lemma Continues.function_made {w : Extent} (h : N.Continues w) :
    (N.withMade ⟨N.made.frames, N.made.functions + 1⟩).Continues ⟨w.frames, w.functions + 1⟩ where
  frame := h.frame
  function k := by
    have hnext := h.function (1 + k)
    rwa [← Nat.add_assoc, ← Nat.add_assoc] at hnext

/-- Numbers below a limit as they are given, and the others in order from another number on. -/
def splice (number : Nat → Nat) (limit start i : Nat) : Nat :=
  if i < limit then number i else start + (i - limit)

lemma splice_of_lt {number : Nat → Nat} {limit start i : Nat} (h : i < limit) :
    splice number limit start i = number i := if_pos h

lemma splice_add (number : Nat → Nat) (limit start k : Nat) :
    splice number limit start (limit + k) = start + k := by
  rw [splice, if_neg (by omega), Nat.add_sub_cancel_left]

lemma splice_strictMono {number : Nat → Nat} {limit start : Nat} (h : StrictMono number)
    (hstart : ∀ i < limit, number i < start) : StrictMono (splice number limit start) := by
  intro i j hij
  unfold splice
  split
  · next hi =>
    split
    · exact h hij
    · exact Nat.lt_of_lt_of_le (hstart i hi) (Nat.le_add_right _ _)
  · rw [if_neg (by omega)]
    omega

end Numbering

/-! ## States -/

/-- The two runs have printed the same.  The second one has the frames and functions of the first
and others besides, as many as `others` says, and makes the next ones with corresponding numbers. -/
structure NumberedStates (others : Extent) (N : Numbering) (s s' : State) : Prop where
  made : s.extent = N.made
  made' : s'.extent = s.extent.plus others
  continues : N.Continues s'.extent
  frames : RelatedFrames N.leaves N.frame s.frames s'.frames
  printed : s'.printed = s.printed

/-- Corresponding frames correspond when what was made before keeps its numbers. -/
lemma RelatedFrames.of_le {N N' : Numbering} {frames frames' : Frames}
    (h : RelatedFrames N.leaves N.frame frames frames') (hle : N ≤ N')
    (hsize : frames.size ≤ N.made.frames) :
    RelatedFrames N'.leaves N'.frame frames frames' where
  ordered := h.ordered
  ordered' := h.ordered'
  frame i hi := by
    have hframe := h.frame i hi
    rw [Numbering.frame_eq_of_le hle (Nat.lt_of_lt_of_le hi hsize)]
    rw [Array.getElem?_eq_getElem hi] at hframe ⊢
    generalize frames'[N.frame i]? = o at hframe ⊢
    cases hframe with
    | some related =>
      have hmono := related.mono (fun _ _ => Numbering.leaves_mono hle) fun _ _ => trivial
      refine .some ⟨hmono.bindings, related.parent.trans ?_⟩
      cases hparent : frames[i].parent with
      | none => rfl
      | some p =>
        have hp : p < i := h.ordered i _ p (Array.getElem?_eq_getElem hi) hparent
        have hold : p < N.made.frames := Nat.lt_of_lt_of_le (Nat.lt_trans hp hi) hsize
        rw [Option.map_some, Option.map_some, Numbering.frame_eq_of_le hle hold]

namespace NumberedStates

variable {others others' : Extent} {N : Numbering} {s s' t' : State}

lemma size_eq (h : NumberedStates others N s s') : s.frames.size = N.made.frames :=
  congrArg Extent.frames h.made

lemma functions_eq (h : NumberedStates others N s s') : s.functions = N.made.functions :=
  congrArg Extent.functions h.made

/-- The second run may do other work. -/
theorem beside (h : NumberedStates others N s s')
    (hkept : Preserved s'.frames (fun _ => False) t'.frames) (hordered : t'.frames.Ordered)
    (hfunctions : s'.functions ≤ t'.functions) (hprinted : t'.printed = s'.printed)
    (hmade : t'.extent = s.extent.plus others') :
    ∃ N', N ≤ N' ∧ NumberedStates others' N' s t' := by
  have hframe : ∀ i < N.made.frames, N.frame i < t'.frames.size :=
    fun i hi => Nat.lt_of_lt_of_le (h.continues.frame_lt hi) hkept.size_le
  have hfunction : ∀ i < N.made.functions, N.function i < t'.functions :=
    fun i hi => Nat.lt_of_lt_of_le (h.continues.function_lt hi) hfunctions
  let N' : Numbering := {
    made := N.made
    frame := Numbering.splice N.frame N.made.frames t'.frames.size
    function := Numbering.splice N.function N.made.functions t'.functions
    frame_strictMono := Numbering.splice_strictMono N.frame_strictMono hframe
    function_strictMono := Numbering.splice_strictMono N.function_strictMono hfunction }
  have hle : N ≤ N' :=
    ⟨le_refl _, fun _ => Numbering.splice_of_lt, fun _ => Numbering.splice_of_lt⟩
  have hkeeps : RelatedFrames N.leaves N.frame s.frames t'.frames := by
    refine ⟨h.frames.ordered, hordered, fun i hi => ?_⟩
    rw [hkept.frame _ (h.continues.frame_lt (h.size_eq ▸ hi)) id]
    exact h.frames.frame i hi
  exact ⟨N', hle, h.made, hmade, ⟨Numbering.splice_add _ _ _, Numbering.splice_add _ _ _⟩,
    hkeeps.of_le hle (Nat.le_of_eq h.size_eq), hprinted.trans h.printed⟩

end NumberedStates

/-! ## Two runs -/

/-- Two runs, of which the second has done other work. -/
def numbering (others : Extent) : Correspondence Numbering where
  leaves := Numbering.leaves
  state := NumberedStates others
  closures_mono := Numbering.leaves_mono
  errors_mono _ _ := trivial
  display_eq := by
    rintro _ f _ ⟨-, rfl⟩
    rfl
  note e h := by
    unfold State.note
    split <;> split <;> exact ⟨h.made, h.made', h.continues, h.frames, h.printed⟩
  print text h := ⟨h.made, h.made', h.continues, h.frames, congrArg (· ++ text) h.printed⟩

namespace numbering

variable {others : Extent} {N : Numbering}

/-- Code may run in corresponding frames. -/
lemma hosts {i : FrameId} (hi : i < N.made.frames) :
    (numbering others).Hosts id .all N i (N.frame i) where
  lookup name _ := by
    intro N₁ hN₁ s s' hs
    have hi₁ : i < s.frames.size := hs.size_eq ▸ Nat.lt_of_lt_of_le hi hN₁.1.1
    rw [← Numbering.frame_eq_of_le hN₁ hi]
    exact .value (le_refl _) hs (hs.frames.lookup hi₁ name)
  assign name _ := by
    intro N₁ hN₁ v v' hv N₂ hN₂ s s' hs
    rw [← Numbering.frame_eq_of_le (le_trans hN₁ hN₂) hi]
    have hset := hs.frames.set (fun _ _ h => N₂.frame_strictMono.injective h) i name
      ((numbering others).values_mono hN₂ hv)
    refine .value (le_refl N₂) ⟨?_, ?_, ?_, hset, hs.printed⟩ trivial
    · rw [State.extent_set, hs.made]
    · rw [State.extent_set, State.extent_set, hs.made']
    · rw [State.extent_set]
      exact hs.continues
  make parameters body _ := by
    intro N₁ hN₁ s s' hs
    rw [Ident.mapTokens_id, List.map_id, Block.mapTokens_id]
    have hmore : N₁ ≤ N₁.withMade ⟨N₁.made.frames, N₁.made.functions + 1⟩ :=
      Numbering.le_withMade ⟨le_refl _, Nat.le_succ _⟩
    have hidentity : N₁.function s.functions = s'.functions :=
      hs.functions_eq ▸ hs.continues.function 0
    have hnew : Closure.mk s'.functions parameters body (N.frame i) =
        N₁.renumber ⟨s.functions, parameters, body, i⟩ := by
      rw [Numbering.renumber, hidentity, Numbering.frame_eq_of_le hN₁ hi]
    have hmade : (Closure.mk s.functions parameters body i).MadeWithin
        ⟨N₁.made.frames, N₁.made.functions + 1⟩ :=
      ⟨Nat.lt_of_lt_of_le hi hN₁.1.1, hs.functions_eq ▸ Nat.lt_succ_self _⟩
    refine .value hmore ⟨?_, State.extent_made hs.made', hs.continues.function_made,
      hs.frames.mono (fun _ _ => Numbering.leaves_mono hmore) fun _ _ => trivial, hs.printed⟩
      (.function ⟨hmade, hnew⟩)
    rw [State.extent, hs.size_eq, hs.functions_eq]
    rfl

lemma enterable : (numbering others).Enterable id := by
  rintro N f _ ⟨hmade, rfl⟩
  refine ⟨?_, ?_, .all, f.body.within_all, fun _ _ => trivial, ?_⟩
  · rw [Ident.mapTokens_id, List.map_id]
    rfl
  · rw [Block.mapTokens_id]
    rfl
  · intro N₁ hN₁ s s' hs
    have hscope : f.scope < N₁.made.frames := Nat.lt_of_lt_of_le hmade.scope hN₁.1.1
    have hmore : N₁ ≤ N₁.withMade ⟨N₁.made.frames + 1, N₁.made.functions⟩ :=
      Numbering.le_withMade ⟨Nat.le_succ _, le_refl _⟩
    have hnew : N₁.frame s.frames.size = s'.frames.size := hs.size_eq ▸ hs.continues.frame 0
    have hchild := hs.frames.child (fun _ _ h => N₁.frame_strictMono.injective h) hnew
      (hs.size_eq ▸ hscope) (hs.continues.frame_lt hscope)
    rw [Numbering.frame_eq_of_le hN₁ hmade.scope] at hchild
    have hcontinues : (N₁.withMade ⟨N₁.made.frames + 1, N₁.made.functions⟩).Continues
        (State.extent { s' with frames := (s'.frames.child (N.frame f.scope)).2 }) := by
      rw [State.extent_child]
      exact hs.continues.frame_made
    refine .value hmore ⟨?_, ?_, hcontinues, ?_, hs.printed⟩ ?_
    · rw [State.extent_child, hs.size_eq, hs.functions_eq]
      rfl
    · exact (State.extent_child_plus hs.made' _).trans (by rw [State.extent_child])
    · exact hchild.mono (fun _ _ => Numbering.leaves_mono hmore) fun _ _ => trivial
    · rw [← hnew]
      exact hosts (hs.size_eq ▸ Nat.lt_succ_self _)

lemma callsAgree (table : BuiltinTable) (depth : Nat) :
    (numbering others).CallsAgree (apply table depth) (apply table depth) :=
  Correspondence.apply_agree enterable depth

end numbering

/-! ## Runs from one state -/

/-- The functions in the frames of the state were made, in frames that were made; the global frame
is there. -/
def State.WellFormed (s : State) : Prop := RenumberedStates ⟨1, 0⟩ .none s.extent s s

/-- In the second run of two that start from one state nothing is different yet. -/
lemma State.WellFormed.numbered {s : State} (h : s.WellFormed) :
    NumberedStates .none (.same s.extent) s s where
  made := rfl
  made' := rfl
  continues := ⟨fun _ => rfl, fun _ => rfl⟩
  frames := by
    refine ⟨h.frames.ordered, h.frames.ordered, fun i hi => ?_⟩
    have hframe : OptionRelated _ s.frames[i]? s.frames[shifted 1 0 i]? := h.frames.frame i hi
    rw [shifted_zero] at hframe
    refine hframe.imp fun f g hfg => ⟨fun name => (hfg.bindings name).imp fun v v' hv => ?_, ?_⟩
    · refine hv.mono ?_ fun _ _ => trivial
      rintro f _ ⟨hmade, rfl⟩
      exact ⟨hmade, f.renumber_none⟩
    · rw [hfg.parent]
      cases f.parent with
      | none => rfl
      | some p => exact congrArg some (shifted_zero 1 p)
  printed := rfl

lemma Value.MadeWithin.numbered {w : Extent} {v : Value} (h : v.MadeWithin w) :
    v.Related (Numbering.same w).leaves v := by
  refine Value.Related.mono ?_ (fun _ _ => trivial) h
  rintro f _ ⟨hmade, rfl⟩
  exact ⟨hmade, rfl⟩

lemma Value.numbered_elements {w : Extent} {vs : List Value} (h : ∀ v ∈ vs, v.MadeWithin w) :
    RelatedElements (Numbering.same w).leaves vs vs :=
  relatedElements_iff.2 (List.forall₂_same.2 fun v hv => (h v hv).numbered)

end MonkeyLang
