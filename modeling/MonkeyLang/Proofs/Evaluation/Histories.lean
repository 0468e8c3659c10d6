import Mathlib.Data.List.Chain
import Mathlib.Data.List.Infix
import Mathlib.Logic.Relation
import MonkeyLang.Proofs.Evaluation.Locality
import MonkeyLang.Proofs.Evaluation.Lookup
import MonkeyLang.Proofs.Evaluation.Parts

/-!
# Histories of frames

Frames are made, cloned, written and cleared in any order (`Frames.Operation`).  Whatever the
history was, a frame is the beginning of a chain of finite maps, which parent links lead along, and
a look-up is decided by the first map of the chain that has the name (`Frames.binder?`).

A frame that is there keeps its parent, and with it its chain (`Preserved.chain_eq`); all that an
operation changes is the map of one frame.  Chains share frames, so a change shows in all chains in
which the frame is the first to have the name, and in no other.

The invariant of all histories is that every parent is older than its children (`Frames.Ordered`),
from which the laws of frames follow (`Frames.Lawful`).
-/

namespace MonkeyLang

/-! ## Operations -/

namespace Frames

/-- What can be done with frames, which go by their numbers. -/
inductive Operation where
  | fresh
  | child (parent : FrameId)
  | clone (original : FrameId)
  | set (i : FrameId) (name : String) (value : Value)
  | clear (i : FrameId)

/-- The frames after an operation.  A frame that there is not can be given neither children nor
clones nor bindings. -/
def perform (frames : Frames) : Operation → Frames
  | .fresh => frames.fresh.2
  | .child parent => if parent < frames.size then (frames.child parent).2 else frames
  | .clone original => if original < frames.size then (frames.clone original).2 else frames
  | .set i name value => frames.set i name value
  | .clear i => frames.clear i

/-- The frames after a history of operations. -/
def performAll (frames : Frames) (history : List Operation) : Frames := history.foldl perform frames

variable {frames : Frames} {i j : FrameId}

lemma clone_eq {f : Frame} (hi : frames[i]? = some f) :
    frames.clone i = (frames.size, frames.push f) := by
  rw [clone, Array.getD_eq_getD_getElem?, hi, Option.getD_some]

/-! ## Parents -/

lemma Ordered.clone (h : frames.Ordered) (hi : i < frames.size) : (frames.clone i).2.Ordered := by
  have hframe := Array.getElem?_eq_getElem hi
  rw [clone_eq hframe]
  exact h.push fun p hp => Nat.lt_trans (h i _ p hframe hp) hi

lemma Ordered.perform (h : frames.Ordered) (op : Operation) : (frames.perform op).Ordered := by
  cases op with
  | fresh => exact h.push fun _ hp => nomatch hp
  | child parent =>
    rw [Frames.perform]
    split
    · exact h.child ‹_›
    · exact h
  | clone original =>
    rw [Frames.perform]
    split
    · exact h.clone ‹_›
    · exact h
  | set i name value => exact h.modify i fun _ => rfl
  | clear i => exact h.clear i

/-- All operations keep parents older than their children. -/
lemma Ordered.performAll (h : frames.Ordered) (history : List Operation) :
    (frames.performAll history).Ordered := by
  induction history generalizing frames with
  | nil => exact h
  | cons op history ih => exact ih (h.perform op)

/-- The parent link of a frame. -/
def ParentOf (frames : Frames) (i p : FrameId) : Prop := (frames[i]?).bind Frame.parent = some p

lemma parentOf_iff {p : FrameId} :
    frames.ParentOf i p ↔ ∃ f, frames[i]? = some f ∧ f.parent = some p :=
  Option.bind_eq_some_iff

lemma Ordered.lt_of_parentOf (h : frames.Ordered) {p : FrameId} (hp : frames.ParentOf i p) :
    p < i := by
  obtain ⟨f, hf, hparent⟩ := parentOf_iff.1 hp
  exact h i f p hf hparent

/-- No frame lies around itself. -/
lemma Ordered.acyclic (h : frames.Ordered) (i : FrameId) :
    ¬ Relation.TransGen frames.ParentOf i i := by
  have hlt : ∀ p, Relation.TransGen frames.ParentOf i p → p < i := by
    intro p hp
    induction hp with
    | single hp => exact h.lt_of_parentOf hp
    | tail _ hp ih => exact Nat.lt_trans (h.lt_of_parentOf hp) ih
  exact fun hcycle => Nat.lt_irrefl i (hlt i hcycle)

/-! ## Chains -/

/-- The chain of a frame begins with the frame. -/
lemma Ordered.chain_eq_cons (h : frames.Ordered) (hi : i < frames.size) :
    frames.chain i = i :: (((frames[i]?).bind Frame.parent).map frames.chain).getD [] := by
  rw [Frames.chain_eq h (Array.getElem?_eq_getElem hi), Array.getElem?_eq_getElem hi]
  rfl

/-- The chain of a frame goes on with the chain of its parent. -/
lemma Ordered.chain_of_parentOf (h : frames.Ordered) {p : FrameId} (hp : frames.ParentOf i p) :
    frames.chain i = i :: frames.chain p := by
  obtain ⟨f, hf, hparent⟩ := parentOf_iff.1 hp
  rw [Frames.chain_eq h hf, hparent, Option.map_some, Option.getD_some]

/-- The chain of a frame without a parent ends with the frame. -/
lemma Ordered.chain_of_outermost (h : frames.Ordered) (hi : i < frames.size)
    (hnone : (frames[i]?).bind Frame.parent = none) : frames.chain i = [i] := by
  rw [h.chain_eq_cons hi, hnone]
  rfl

lemma chain_of_size_le (hi : frames.size ≤ i) : frames.chain i = [] := by
  rw [Frames.chain, Frames.chainUpTo, Array.getElem?_eq_none hi]

/-- Going outward every frame is older than the one before. -/
lemma Ordered.pairwise_chain (h : frames.Ordered) (i : FrameId) :
    (frames.chain i).Pairwise (· > ·) := by
  induction i using Nat.strongRecOn with
  | _ i ih =>
    by_cases hi : i < frames.size
    · cases hparent : (frames[i]?).bind Frame.parent with
      | none =>
        rw [h.chain_of_outermost hi hparent]
        exact List.pairwise_singleton _ _
      | some p =>
        have hp : p < i := h.lt_of_parentOf hparent
        rw [h.chain_of_parentOf hparent]
        refine List.pairwise_cons.2 ⟨fun k hk => ?_, ih p hp⟩
        exact Nat.lt_of_le_of_lt (le_of_mem_chain h hk) hp
    · rw [chain_of_size_le (Nat.not_lt.1 hi)]
      exact .nil

/-- A chain has no frame twice. -/
lemma Ordered.nodup_chain (h : frames.Ordered) (i : FrameId) : (frames.chain i).Nodup :=
  (h.pairwise_chain i).imp Nat.ne_of_gt

/-- The chain of a frame leads along parent links to a frame without a parent. -/
structure LeadsOut (frames : Frames) (i : FrameId) : Prop where
  first : (frames.chain i).head? = some i
  links : (frames.chain i).IsChain frames.ParentOf
  last : ∀ k ∈ (frames.chain i).getLast?, ∀ p, ¬ frames.ParentOf k p

lemma Ordered.leadsOut (h : frames.Ordered) (hi : i < frames.size) : frames.LeadsOut i := by
  induction i using Nat.strongRecOn with
  | _ i ih =>
    cases hparent : (frames[i]?).bind Frame.parent with
    | none =>
      have hchain := h.chain_of_outermost hi hparent
      refine ⟨?_, ?_, ?_⟩ <;> rw [hchain]
      · rfl
      · exact .singleton _
      · rintro k hk p hp
        obtain rfl : i = k := Option.some.inj hk
        rw [ParentOf, hparent] at hp
        cases hp
    | some p =>
      have hp : p < i := h.lt_of_parentOf hparent
      obtain ⟨first, links, last⟩ := ih p hp (Nat.lt_trans hp hi)
      have hchain := h.chain_of_parentOf hparent
      refine ⟨?_, ?_, ?_⟩ <;> rw [hchain]
      · rfl
      · refine links.cons fun q hq => ?_
        rw [first] at hq
        exact Option.some.inj hq ▸ hparent
      · intro k hk
        refine last k ?_
        rw [List.getLast?_cons] at hk
        cases hlast : (frames.chain p).getLast? with
        | none =>
          rw [List.getLast?_eq_none_iff.1 hlast] at first
          cases first
        | some l =>
          rw [hlast] at hk
          exact hk

end Frames

/-! ## Frames that are there -/

namespace Preserved

variable {before after : Frames} {except : FrameId → Prop}

/-- All operations keep parents. -/
lemma perform (h : Preserved before (fun _ => True) after) (op : Frames.Operation) :
    Preserved before (fun _ => True) (after.perform op) := by
  cases op with
  | fresh => exact h.push _
  | child parent =>
    rw [Frames.perform]
    split
    · exact h.child parent
    · exact h
  | clone original =>
    rw [Frames.perform]
    split
    · exact h.push _
    · exact h
  | set i name value => exact h.set (.inl trivial) name value
  | clear i => exact h.clear (.inl trivial)

lemma performAll (h : Preserved before (fun _ => True) after)
    (history : List Frames.Operation) :
    Preserved before (fun _ => True) (after.performAll history) := by
  induction history generalizing after with
  | nil => exact h
  | cons op history ih => exact ih (h.perform op)

lemma parent_eq (h : Preserved before except after) {i : FrameId}
    (hi : i < before.size) : (after[i]?).bind Frame.parent = (before[i]?).bind Frame.parent := by
  have hjoin : ∀ o : Option Frame, o.bind Frame.parent = (o.map Frame.parent).join := by
    rintro (_ | f) <;> rfl
  rw [hjoin, hjoin, h.parent i hi]

/-- Where parents are kept, so are chains. -/
theorem chain_eq (h : Preserved before except after)
    (hbefore : before.Ordered) (hafter : after.Ordered) {i : FrameId} (hi : i < before.size) :
    after.chain i = before.chain i := by
  induction i using Nat.strongRecOn with
  | _ i ih =>
    rw [hbefore.chain_eq_cons hi, hafter.chain_eq_cons (Nat.lt_of_lt_of_le hi h.size_le),
      h.parent_eq hi]
    cases hp : (before[i]?).bind Frame.parent with
    | none => rfl
    | some p =>
      have hlt : p < i := hbefore.lt_of_parentOf hp
      rw [Option.map_some, Option.map_some, ih p hlt (Nat.lt_trans hlt hi)]

end Preserved

namespace Frames

variable {frames : Frames} {i j : FrameId}

/-! ## Other bindings -/

/-- Other bindings leave the chains. -/
lemma chainUpTo_modify {g : Frame → Frame} (hg : ∀ f, (g f).parent = f.parent) (i : FrameId)
    (limit : Nat) (j : FrameId) :
    Frames.chainUpTo (frames.modify i g) limit j = frames.chainUpTo limit j := by
  induction limit generalizing j with
  | zero => rfl
  | succ limit ih =>
    rw [chainUpTo, chainUpTo, Array.getElem?_modify]
    by_cases hij : i = j
    · rw [if_pos hij]
      cases frames[j]? with
      | none => rfl
      | some f => simp only [Option.map_some, hg, ih]
    · rw [if_neg hij]
      simp only [ih]

@[simp]
lemma chain_set (i : FrameId) (name : String) (v : Value) (j : FrameId) :
    (frames.set i name v).chain j = frames.chain j := by
  rw [chain, chain, set]
  exact chainUpTo_modify (by intro f; rfl) i (j + 1) j

@[simp]
lemma chain_clear (i j : FrameId) : (frames.clear i).chain j = frames.chain j := by
  rw [chain, chain, clear]
  exact chainUpTo_modify (by intro f; rfl) i (j + 1) j

lemma parent_clear (i k : FrameId) :
    ((frames.clear i)[k]?).bind Frame.parent = (frames[k]?).bind Frame.parent := by
  rw [clear, Array.getElem?_modify]
  split
  · cases frames[k]? <;> rfl
  · rfl

lemma local?_clear (i : FrameId) (name : String) (k : FrameId) :
    (frames.clear i).local? name k = if k = i then none else frames.local? name k := by
  rw [local?, local?, clear, Array.getElem?_modify]
  by_cases hik : i = k
  · rw [if_pos hik, if_pos hik.symm]
    cases frames[k]? <;> rfl
  · rw [if_neg hik, if_neg (Ne.symm hik)]

lemma lt_size_of_mem_chain (h : frames.Ordered) (hi : i ∈ frames.chain j) : i < frames.size := by
  refine Nat.lt_of_le_of_lt (le_of_mem_chain h hi) (Nat.lt_of_not_le fun hj => ?_)
  rw [chain_of_size_le hj] at hi
  cases hi

/-! ## The frame that decides -/

/-- The first of some frames that binds a name. -/
def firstBinder? (frames : Frames) (name : String) (path : List FrameId) : Option FrameId :=
  path.find? fun k => (frames.local? name k).isSome

/-- The frame in which a name is found. -/
def binder? (frames : Frames) (name : String) (j : FrameId) : Option FrameId :=
  frames.firstBinder? name (frames.chain j)

/-- Of several frames, a name has the value that the first to bind it gives it. -/
lemma findSome?_local? (frames : Frames) (name : String) (path : List FrameId) :
    path.findSome? (frames.local? name) =
      (frames.firstBinder? name path).bind (frames.local? name) := by
  rw [firstBinder?]
  induction path with
  | nil => rfl
  | cons k path ih =>
    cases hk : frames.local? name k with
    | none => simpa [hk] using ih
    | some v => simp [hk]

/-- A look-up reads the frame in which the name is found. -/
lemma lookup_eq_binder? (frames : Frames) (j : FrameId) (name : String) :
    frames.lookup j name = (frames.binder? name j).bind (frames.local? name) :=
  frames.findSome?_local? name (frames.chain j)

/-- Frames that do not bind the name may be left out in front. -/
lemma firstBinder?_append {name : String} {inner : List FrameId}
    (hinner : ∀ k ∈ inner, frames.local? name k = none) (outer : List FrameId) :
    frames.firstBinder? name (inner ++ outer) = frames.firstBinder? name outer := by
  have hnone : frames.firstBinder? name inner = none :=
    List.find?_eq_none.2 fun k hk => by simp [hinner k hk]
  rw [firstBinder?, List.find?_append, ← firstBinder?, hnone, Option.none_or, firstBinder?]

lemma firstBinder?_congr {now : Frames} {name : String} {path : List FrameId}
    (hpath : ∀ k ∈ path, now.local? name k = frames.local? name k) :
    now.firstBinder? name path = frames.firstBinder? name path := by
  induction path with
  | nil => rfl
  | cons k path ih =>
    obtain ⟨hk, hpath⟩ := List.forall_mem_cons.1 hpath
    rw [firstBinder?, firstBinder?, List.find?_cons, List.find?_cons, hk, ← firstBinder?,
      ← firstBinder?, ih hpath]

/-- A name is found in a frame of the chain that binds it and before which no frame does. -/
lemma binder?_eq_some_iff {name : String} :
    frames.binder? name j = some i ↔ (frames.local? name i).isSome ∧
      ∃ inner outer, frames.chain j = inner ++ i :: outer ∧
        ∀ k ∈ inner, frames.local? name k = none := by
  simp only [binder?, firstBinder?, List.find?_eq_some_iff_append, Bool.not_eq_true',
    Option.isSome_eq_false_iff, Option.isNone_iff_eq_none]

lemma mem_chain_of_binder? {name : String} (h : frames.binder? name j = some i) :
    i ∈ frames.chain j :=
  List.mem_of_find?_eq_some h

/-- Searches with conditions that differ on one element find the same, unless one finds it. -/
lemma find?_congr_of_ne {p q : FrameId → Bool} {path : List FrameId}
    (hpq : ∀ k, k ≠ i → p k = q k) (hp : path.find? p ≠ some i) (hq : path.find? q ≠ some i) :
    path.find? p = path.find? q := by
  induction path with
  | nil => rfl
  | cons k path ih =>
    rw [List.find?_cons] at hp hq
    rw [List.find?_cons, List.find?_cons]
    by_cases hk : k = i
    · -- The element itself would be found if it met one of the conditions.
      subst hk
      have hpk : p k = false := by
        by_contra hpk
        rw [Bool.not_eq_false] at hpk
        exact hp (by rw [hpk])
      have hqk : q k = false := by
        by_contra hqk
        rw [Bool.not_eq_false] at hqk
        exact hq (by rw [hqk])
      rw [hpk] at hp ⊢
      rw [hqk] at hq ⊢
      exact ih hp hq
    · rw [hpq k hk] at hp ⊢
      cases hqk : q k with
      | true => rfl
      | false =>
        rw [hqk] at hp hq
        exact ih hp hq

/-- Frames of which one has changed answer as before where the name is not found in that one. -/
lemma lookup_congr_of_ne {now : Frames} {name : String}
    (hchain : now.chain j = frames.chain j)
    (hlocal : ∀ k, k ≠ i → now.local? name k = frames.local? name k)
    (hnow : now.binder? name j ≠ some i) (h : frames.binder? name j ≠ some i) :
    now.binder? name j = frames.binder? name j ∧ now.lookup j name = frames.lookup j name := by
  have hbinder : now.binder? name j = frames.binder? name j := by
    rw [binder?, hchain] at hnow ⊢
    exact find?_congr_of_ne (fun k hk => by rw [hlocal k hk]) hnow h
  refine ⟨hbinder, ?_⟩
  rw [lookup_eq_binder?, lookup_eq_binder?, hbinder]
  cases hk : frames.binder? name j with
  | none => rfl
  | some k =>
    rw [Option.bind_some, Option.bind_some]
    exact hlocal k fun hki => h (hki ▸ hk)

/-! ## Writing -/

/-- What a write shows.  In the frames `frames.set i name v` the name is found in frame `i` from
exactly those frames on whose chain no frame before `i` binds it. -/
structure WriteLaw (frames : Frames) (i : FrameId) (name : String) (v : Value) : Prop where
  /-- From where the written binding is found. -/
  found_iff : ∀ j, (frames.set i name v).binder? name j = some i ↔
    ∃ inner outer, frames.chain j = inner ++ i :: outer ∧
      ∀ k ∈ inner, frames.local? name k = none
  /-- What is answered there. -/
  written : ∀ j, (frames.set i name v).binder? name j = some i →
    (frames.set i name v).lookup j name = some v
  /-- All other look-ups find what they found, where they found it. -/
  kept : ∀ j other, ¬ (other = name ∧ (frames.set i name v).binder? name j = some i) →
    (frames.set i name v).binder? other j = frames.binder? other j ∧
    (frames.set i name v).lookup j other = frames.lookup j other

lemma Ordered.binder?_set_iff (h : frames.Ordered) {name : String} {v : Value} :
    (frames.set i name v).binder? name j = some i ↔
      ∃ inner outer, frames.chain j = inner ++ i :: outer ∧
        ∀ k ∈ inner, frames.local? name k = none := by
  rw [binder?_eq_some_iff, chain_set]
  constructor
  · rintro ⟨-, inner, outer, hchain, hinner⟩
    refine ⟨inner, outer, hchain, fun k hk => ?_⟩
    have hnone := hinner k hk
    rw [local?_set_eq] at hnone
    split at hnone
    · cases hnone
    · exact hnone
  · rintro ⟨inner, outer, hchain, hinner⟩
    have hi : i ∈ frames.chain j := hchain ▸ List.mem_append_right _ List.mem_cons_self
    have hnodup := h.nodup_chain j
    rw [hchain, List.nodup_append] at hnodup
    refine ⟨?_, inner, outer, hchain, fun k hk => ?_⟩
    · rw [local?_set_eq, if_pos ⟨rfl, rfl, lt_size_of_mem_chain h hi⟩, Option.isSome_some]
    · have hne : k ≠ i := hnodup.2.2 k hk i List.mem_cons_self
      rw [local?_set_eq, if_neg fun hset => hne hset.1.symm]
      exact hinner k hk

lemma Ordered.writeLaw (h : frames.Ordered) (i : FrameId) (name : String) (v : Value) :
    frames.WriteLaw i name v where
  found_iff _ := h.binder?_set_iff
  written j hj := by
    have hi : i < frames.size := by
      refine lt_size_of_mem_chain h (j := j) ?_
      simpa using mem_chain_of_binder? hj
    rw [lookup_eq_binder?, hj, Option.bind_some, local?_set_eq, if_pos ⟨rfl, rfl, hi⟩]
  kept j other hnot := by
    by_cases hname : other = name
    · subst hname
      have hnow : (frames.set i other v).binder? other j ≠ some i := fun hj => hnot ⟨rfl, hj⟩
      refine lookup_congr_of_ne (chain_set ..) (fun k hk => ?_) hnow fun hj => hnow ?_
      · rw [local?_set_eq, if_neg fun hset => hk hset.1.symm]
      · exact h.binder?_set_iff.2 (binder?_eq_some_iff.1 hj).2
    · have hlocal : (frames.set i name v).local? other = frames.local? other := by
        funext k
        rw [local?_set_eq, if_neg fun hset => hname hset.2.1.symm]
      constructor
      · rw [binder?, binder?, firstBinder?, firstBinder?, hlocal, chain_set]
      · rw [lookup, lookup, hlocal, chain_set]

/-- A write does not show where the frame is not on the chain. -/
lemma Ordered.lookup_set_of_notMem (h : frames.Ordered) (hi : i ∉ frames.chain j)
    (name : String) (v : Value) (other : String) :
    (frames.set i name v).lookup j other = frames.lookup j other := by
  refine ((h.writeLaw i name v).kept j other ?_).2
  rintro ⟨-, hj⟩
  exact hi (by simpa using mem_chain_of_binder? hj)

/-- A write to a parent shows where the name is not bound. -/
lemma Ordered.lookup_set_of_parentOf (h : frames.Ordered) {p : FrameId}
    (hp : frames.ParentOf i p) {name : String} (hnone : frames.local? name i = none) (v : Value) :
    (frames.set p name v).lookup i name = some v := by
  have hi : i < frames.size := by
    obtain ⟨f, hf, -⟩ := parentOf_iff.1 hp
    exact (Array.getElem?_eq_some_iff.1 hf).1
  have hchain := h.chain_of_parentOf hp
  rw [h.chain_eq_cons (Nat.lt_trans (h.lt_of_parentOf hp) hi)] at hchain
  have law := h.writeLaw p name v
  exact law.written i ((law.found_iff i).2 ⟨[i], _, hchain, by simpa using hnone⟩)

/-! ## Clearing -/

/-- What clearing a frame shows.  A name that was found in the cleared frame is then found in the
first later frame of the chain that binds it. -/
structure ClearLaw (frames : Frames) (i : FrameId) : Prop where
  /-- The frame loses its own bindings, and no other frame loses any. -/
  bindings : ∀ name k, (frames.clear i).local? name k =
    if k = i then none else frames.local? name k
  parents : ∀ k p, (frames.clear i).ParentOf k p ↔ frames.ParentOf k p
  /-- The look-ups that found a name in the frame go on from there. -/
  exposed : ∀ j name, frames.binder? name j = some i →
    ∃ inner outer, frames.chain j = inner ++ i :: outer ∧
      (∀ k ∈ inner, frames.local? name k = none) ∧
      (frames.clear i).binder? name j = frames.firstBinder? name outer ∧
      (frames.clear i).lookup j name = outer.findSome? (frames.local? name)
  /-- All other look-ups find what they found, where they found it. -/
  kept : ∀ j name, frames.binder? name j ≠ some i →
    (frames.clear i).binder? name j = frames.binder? name j ∧
    (frames.clear i).lookup j name = frames.lookup j name

lemma binder?_clear_ne (name : String) : (frames.clear i).binder? name j ≠ some i := by
  intro hj
  have hsome := (binder?_eq_some_iff.1 hj).1
  rw [local?_clear, if_pos rfl] at hsome
  cases hsome

lemma Ordered.clearLaw (h : frames.Ordered) (i : FrameId) : frames.ClearLaw i where
  bindings := local?_clear i
  parents k p := by rw [ParentOf, ParentOf, parent_clear]
  exposed j name hj := by
    obtain ⟨-, inner, outer, hchain, hinner⟩ := binder?_eq_some_iff.1 hj
    have hnodup := h.nodup_chain j
    rw [hchain, List.nodup_append] at hnodup
    have hskipped : ∀ k ∈ inner ++ [i], (frames.clear i).local? name k = none := by
      intro k hk
      rw [local?_clear]
      rcases List.mem_append.1 hk with hk | hk
      · rw [hinner k hk, ite_self]
      · rw [if_pos (List.mem_singleton.1 hk)]
    have houter : ∀ k ∈ outer, (frames.clear i).local? name k = frames.local? name k := by
      intro k hk
      rw [local?_clear, if_neg]
      rintro rfl
      exact (List.nodup_cons.1 hnodup.2.1).1 hk
    have hbinder : (frames.clear i).binder? name j = frames.firstBinder? name outer := by
      rw [binder?, chain_clear, hchain, List.append_cons, firstBinder?_append hskipped,
        firstBinder?_congr houter]
    refine ⟨inner, outer, hchain, hinner, hbinder, ?_⟩
    rw [lookup_eq_binder?, hbinder, findSome?_local?]
    cases hk : frames.firstBinder? name outer with
    | none => rfl
    | some k => exact houter k (List.mem_of_find?_eq_some hk)
  kept j name hj :=
    lookup_congr_of_ne (chain_clear ..) (fun k hk => by rw [local?_clear, if_neg hk])
      (binder?_clear_ne name) hj

/-- Clearing does not show where the frame is not on the chain. -/
lemma Ordered.lookup_clear_of_notMem (h : frames.Ordered) (hi : i ∉ frames.chain j)
    (name : String) : (frames.clear i).lookup j name = frames.lookup j name :=
  ((h.clearLaw i).kept j name fun hj => hi (mem_chain_of_binder? hj)).2

/-! ## New frames -/

/-- A new frame hides nothing from the old ones. -/
lemma Ordered.lookup_push (h : frames.Ordered) {f : Frame}
    (hparent : ∀ p, f.parent = some p → p < frames.size) (hj : j < frames.size) (name : String) :
    Frames.lookup (frames.push f) j name = frames.lookup j name := by
  have hchain : Frames.chain (frames.push f) j = frames.chain j :=
    ((Preserved.refl frames fun _ => False).push f).chain_eq h (h.push hparent) hj
  rw [lookup_eq_binder?, lookup_eq_binder?, binder?, binder?, hchain]
  have hlocal : ∀ k ∈ frames.chain j,
      Frames.local? (frames.push f) name k = frames.local? name k := by
    intro k hk
    have hk : k < frames.size := lt_size_of_mem_chain h hk
    rw [local?, local?, Array.getElem?_push_lt hk, Array.getElem?_eq_getElem hk]
  rw [firstBinder?_congr hlocal]
  cases hk : frames.firstBinder? name (frames.chain j) with
  | none => rfl
  | some k => exact hlocal k (List.mem_of_find?_eq_some hk)

/-- A new frame answers for itself and then as its parent. -/
lemma Ordered.lookup_push_size (h : frames.Ordered) {f : Frame}
    (hparent : ∀ p, f.parent = some p → p < frames.size) (name : String) :
    Frames.lookup (frames.push f) frames.size name =
      (f.bindings.get? name).or (f.parent.bind fun p => frames.lookup p name) := by
  rw [lookup_eq (h.push hparent), Array.getElem?_push_size, Option.bind_some]
  cases hp : f.parent with
  | none => rfl
  | some p => rw [Option.bind_some, Option.bind_some, h.lookup_push hparent (hparent p hp)]

/-- What a frame `c` that has been made shows: answers of its own, and what the others answered
before. -/
structure NewFrame (frames : Frames) (c : FrameId) (answers : String → Option Value)
    (now : Frames) : Prop where
  isNew : frames.size ≤ c ∧ c < now.size
  answers : ∀ name, now.lookup c name = answers name
  kept : ∀ j < frames.size, ∀ name, now.lookup j name = frames.lookup j name

lemma Ordered.newFrame_push (h : frames.Ordered) {f : Frame}
    (hparent : ∀ p, f.parent = some p → p < frames.size) :
    NewFrame frames frames.size
      (fun name => (f.bindings.get? name).or (f.parent.bind fun p => frames.lookup p name))
      (frames.push f) where
  isNew := ⟨Nat.le_refl _, by rw [Array.size_push]; exact Nat.lt_succ_self _⟩
  answers := h.lookup_push_size hparent
  kept _ hj := h.lookup_push hparent hj

lemma Ordered.newFrame_fresh (h : frames.Ordered) :
    NewFrame frames frames.fresh.1 (fun _ => none) frames.fresh.2 :=
  h.newFrame_push (f := emptyFrame) fun _ hp => nomatch hp

lemma Ordered.newFrame_child (h : frames.Ordered) {p : FrameId} (hp : p < frames.size) :
    NewFrame frames (frames.child p).1 (frames.lookup p) (frames.child p).2 :=
  h.newFrame_push (f := ⟨[], some p⟩) fun _ hq => Option.some.inj hq ▸ hp

lemma Ordered.newFrame_clone (h : frames.Ordered) (hi : i < frames.size) :
    NewFrame frames (frames.clone i).1 (frames.lookup i) (frames.clone i).2 := by
  have hframe := Array.getElem?_eq_getElem hi
  have hanswers : frames.lookup i = fun name =>
      (frames[i].bindings.get? name).or (frames[i].parent.bind fun p => frames.lookup p name) := by
    funext name
    rw [lookup_eq h, hframe, Option.bind_some]
  rw [clone_eq hframe, hanswers]
  exact h.newFrame_push fun p hp => Nat.lt_trans (h i _ p hframe hp) hi

/-! ## Clones -/

/-- Two frames, one of which is a clone of the other, share all frames around them and nothing
else. -/
structure Siblings (frames : Frames) (i c : FrameId) : Prop where
  /-- The chains differ in the first frame only. -/
  chains : ∃ outer, frames.chain i = i :: outer ∧ frames.chain c = c :: outer ∧
    i ∉ c :: outer ∧ c ∉ i :: outer
  parents : ∀ p, frames.ParentOf i p ↔ frames.ParentOf c p
  /-- What is written in one of them is not seen from the other. -/
  set_apart : ∀ name v other,
    (frames.set i name v).lookup c other = frames.lookup c other ∧
    (frames.set c name v).lookup i other = frames.lookup i other
  clear_apart : ∀ name,
    (frames.clear i).lookup c name = frames.lookup c name ∧
    (frames.clear c).lookup i name = frames.lookup i name
  /-- What is written in the parent is seen from both, as far as they do not bind the name. -/
  shared : ∀ p, frames.ParentOf i p → ∀ name v,
    (frames.local? name i = none → (frames.set p name v).lookup i name = some v) ∧
    (frames.local? name c = none → (frames.set p name v).lookup c name = some v)

lemma Ordered.siblings (h : frames.Ordered) {c : FrameId} (hi : i < frames.size)
    (hc : c < frames.size) (hne : i ≠ c)
    (hparent : (frames[i]?).bind Frame.parent = (frames[c]?).bind Frame.parent) :
    frames.Siblings i c := by
  have hparents : ∀ p, frames.ParentOf i p ↔ frames.ParentOf c p := by
    intro p
    rw [ParentOf, ParentOf, hparent]
  obtain ⟨outer, hchaini, hchainc⟩ : ∃ outer,
      frames.chain i = i :: outer ∧ frames.chain c = c :: outer :=
    ⟨_, h.chain_eq_cons hi, hparent ▸ h.chain_eq_cons hc⟩
  have hnotc : i ∉ c :: outer := by
    have hnodup := hchaini ▸ h.nodup_chain i
    rw [List.mem_cons, not_or]
    exact ⟨hne, (List.nodup_cons.1 hnodup).1⟩
  have hnoti : c ∉ i :: outer := by
    have hnodup := hchainc ▸ h.nodup_chain c
    rw [List.mem_cons, not_or]
    exact ⟨hne.symm, (List.nodup_cons.1 hnodup).1⟩
  have hapartc : i ∉ frames.chain c := hchainc ▸ hnotc
  have haparti : c ∉ frames.chain i := hchaini ▸ hnoti
  exact {
    chains := ⟨outer, hchaini, hchainc, hnotc, hnoti⟩
    parents := hparents
    set_apart := fun name v other =>
      ⟨h.lookup_set_of_notMem hapartc name v other, h.lookup_set_of_notMem haparti name v other⟩
    clear_apart := fun name =>
      ⟨h.lookup_clear_of_notMem hapartc name, h.lookup_clear_of_notMem haparti name⟩
    shared := fun p hp name v =>
      ⟨fun hnone => h.lookup_set_of_parentOf hp hnone v,
        fun hnone => h.lookup_set_of_parentOf ((hparents p).1 hp) hnone v⟩ }

/-- A clone and its original stay apart and keep their common surroundings, whatever happens. -/
lemma Ordered.siblings_performAll_clone (h : frames.Ordered) (hi : i < frames.size)
    (later : List Operation) :
    ((frames.clone i).2.performAll later).Siblings i (frames.clone i).1 := by
  have hcloned := h.clone hi
  have hkept : Preserved (frames.clone i).2 (fun _ => True) ((frames.clone i).2.performAll later) :=
    (Preserved.refl _ _).performAll later
  have hframe := Array.getElem?_eq_getElem hi
  rw [clone_eq hframe] at hcloned hkept ⊢
  have hsize : (frames.push frames[i]).size = frames.size + 1 := Array.size_push _
  have hi' : i < (frames.push frames[i]).size := hsize ▸ Nat.lt_succ_of_lt hi
  have hc' : frames.size < (frames.push frames[i]).size := hsize ▸ Nat.lt_succ_self _
  refine (hcloned.performAll later).siblings (Nat.lt_of_lt_of_le hi' hkept.size_le)
    (Nat.lt_of_lt_of_le hc' hkept.size_le) (Nat.ne_of_lt hi) ?_
  rw [hkept.parent_eq hi', hkept.parent_eq hc', Array.getElem?_push_size,
    Array.getElem?_push_lt hi]

/-! ## All histories -/

/-- The laws of frames. -/
structure Lawful (frames : Frames) : Prop where
  /-- No frame lies around itself, and parent links lead from each frame to an outermost one. -/
  acyclic : ∀ i, ¬ Relation.TransGen frames.ParentOf i i
  leadsOut : ∀ i < frames.size, frames.LeadsOut i
  /-- A look-up asks the frame and then its parent, so that it reads the first binding. -/
  lookup_eq : ∀ i name, frames.lookup i name = (frames[i]?).bind fun f =>
    (f.bindings.get? name).or (f.parent.bind fun p => frames.lookup p name)
  lookup_eq_binder? : ∀ i name,
    frames.lookup i name = (frames.binder? name i).bind (frames.local? name)
  set : ∀ i name v, frames.WriteLaw i name v
  clear : ∀ i, frames.ClearLaw i
  fresh : NewFrame frames frames.fresh.1 (fun _ => none) frames.fresh.2
  child : ∀ p < frames.size,
    NewFrame frames (frames.child p).1 (frames.lookup p) (frames.child p).2
  clone : ∀ i < frames.size,
    NewFrame frames (frames.clone i).1 (frames.lookup i) (frames.clone i).2 ∧
    ∀ later, ((frames.clone i).2.performAll later).Siblings i (frames.clone i).1

/-- After every history of operations the laws hold. -/
theorem lawful_performAll (history : List Operation) :
    Lawful (performAll #[] history) := by
  have hempty : Ordered #[] := fun i f p hi => by cases hi
  have h : Ordered (performAll #[] history) := hempty.performAll history
  exact {
    acyclic := h.acyclic
    leadsOut := fun _ hi => h.leadsOut hi
    lookup_eq := Frames.lookup_eq h
    lookup_eq_binder? := Frames.lookup_eq_binder? _
    set := h.writeLaw
    clear := h.clearLaw
    fresh := h.newFrame_fresh
    child := fun _ hp => h.newFrame_child hp
    clone := fun _ hi => ⟨h.newFrame_clone hi, h.siblings_performAll_clone hi⟩ }

/-- A child is cloned and then hides a binding of its parent, which the clone goes on to see. -/
theorem lawful_performAll_hiding :
    let before := performAll #[] [.fresh, .set 0 "x" (.integer 1), .child 0]
    let frames := before.performAll [.clone 1, .set 1 "x" (.integer 2)]
    frames.lookup 1 "x" = some (.integer 2) ∧
    frames.lookup 2 "x" = some (.integer 1) ∧
    (frames.set 0 "x" (.integer 3)).lookup 1 "x" = frames.lookup 1 "x" ∧
    (frames.set 0 "x" (.integer 3)).lookup 2 "x" = some (.integer 3) ∧
    (frames.clear 1).lookup 2 "x" = frames.lookup 2 "x" ∧
    (frames.clear 1).lookup 1 "x" = some (.integer 1) := by
  intro before frames
  have laws : frames.Lawful :=
    lawful_performAll [.fresh, .set 0 "x" (.integer 1), .child 0, .clone 1,
      .set 1 "x" (.integer 2)]
  have siblings : frames.Siblings 1 2 :=
    ((lawful_performAll [.fresh, .set 0 "x" (.integer 1), .child 0]).clone 1 (by decide)).2
      [.set 1 "x" (.integer 2)]
  refine ⟨?_, ?_, ?_, ?_, (siblings.clear_apart "x").1, ?_⟩
  · rw [laws.lookup_eq_binder?]
    rfl
  · rw [laws.lookup_eq_binder?]
    rfl
  · exact ((laws.set 0 "x" _).kept 1 "x" (by decide)).2
  · exact (siblings.shared 0 (by rfl) "x" _).2 (by rfl)
  · obtain ⟨inner, outer, hchain, hinner, -, hexposed⟩ := (laws.clear 1).exposed 1 "x" (by rfl)
    have hframes : [1, 0] = inner ++ 1 :: outer := hchain
    cases inner with
    | nil =>
      obtain rfl : [0] = outer := (List.cons.inj hframes).2
      exact hexposed
    | cons k inner =>
      obtain rfl : 1 = k := (List.cons.inj hframes).1
      cases hinner 1 List.mem_cons_self

end Frames

end MonkeyLang
