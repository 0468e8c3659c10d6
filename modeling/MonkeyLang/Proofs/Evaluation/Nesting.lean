import Mathlib.Data.List.Chain
import Mathlib.Data.List.Infix
import MonkeyLang.Proofs.Evaluation.Visits
import MonkeyLang.Proofs.Syntax.Nesting

/-!
# Chains of frames follow the text

The frame that code runs in has a chain of frames around it, which look-ups visit.  The chain has
one frame for every function literal that the code lies in, and the global frame behind them:
however deeply calls are nested, and wherever functions were stored before they are called.

How deep code lies is read from the marks of programs (`Program.mark`), which functions carry along
in their bodies.  The invariant is `Frames.Follow`: each frame has a depth, one more than that of
its parent, and a function that is bound in some frame lies as deep as the frame that it was made
in.
-/

namespace MonkeyLang

/-! ## Chains -/

/-- The chain of the frame has one frame more than `depth`, each of them once, each the parent of
the one before, and ends at the global frame, which has no parent. -/
structure Frames.Nested (frames : Frames) (i : FrameId) (depth : Nat) : Prop where
  length : (frames.chain i).length = depth + 1
  nodup : (frames.chain i).Nodup
  parents : (frames.chain i).IsChain fun j k => (frames[j]?).map Frame.parent = some (some k)
  last : (frames.chain i).getLast? = some globalFrame
  outermost : (frames[globalFrame]?).map Frame.parent = some none

/-- The global frame has a chain of its own. -/
lemma Frames.nested_globalFrame {frames : Frames}
    (h : (frames[globalFrame]?).map Frame.parent = some none) : frames.Nested globalFrame 0 := by
  have hchain : frames.chain globalFrame = [globalFrame] := by
    obtain ⟨f, hf, hparent⟩ := Option.map_eq_some_iff.1 h
    rw [chain, chainUpTo, hf]
    simp only [hparent]
  refine ⟨?_, ?_, ?_, ?_, h⟩ <;> rw [hchain]
  · rfl
  · exact List.nodup_cons.2 ⟨List.not_mem_nil, .nil⟩
  · exact .singleton _
  · rfl

/-- A frame is nested one deeper than its parent. -/
lemma Frames.Nested.inner {frames : Frames} {i p : FrameId} {f : Frame} {d : Nat}
    (h : frames.Nested p d) (hordered : frames.Ordered) (hi : frames[i]? = some f)
    (hp : f.parent = some p) : frames.Nested i (d + 1) := by
  have hchain : frames.chain i = i :: frames.chain p := by
    rw [chain_eq hordered hi, hp, Option.map_some, Option.getD_some]
  refine ⟨?_, ?_, ?_, ?_, h.outermost⟩ <;> rw [hchain]
  · rw [List.length_cons, h.length]
  · refine List.nodup_cons.2 ⟨fun hmem => ?_, h.nodup⟩
    exact absurd (le_of_mem_chain hordered hmem) (Nat.not_le.2 (hordered i f p hi hp))
  · refine h.parents.cons fun q hq => ?_
    rw [eq_of_mem_head?_chain hq, hi, Option.map_some, hp]
  · rw [List.getLast?_cons, h.last]
    rfl

/-! ## Depths of frames -/

/-- The depths of the frames made so far: in how many function literals the code lies that runs in
each of them. -/
structure Depths where
  ofFrames : List Nat

namespace Depths

instance : Preorder Depths where
  le w w' := w.ofFrames <+: w'.ofFrames
  le_refl w := List.prefix_refl w.ofFrames
  le_trans _ _ _ := List.IsPrefix.trans

variable {w w' : Depths} {i : FrameId} {d : Nat}

lemma ofFrames_of_le (h : w ≤ w') (hi : w.ofFrames[i]? = some d) : w'.ofFrames[i]? = some d := by
  obtain ⟨hlt, hd⟩ := List.getElem?_eq_some_iff.1 hi
  exact hd ▸ List.prefix_iff_getElem?.1 h i hlt

/-- One frame more. -/
def push (w : Depths) (d : Nat) : Depths := ⟨w.ofFrames ++ [d]⟩

lemma le_push (w : Depths) (d : Nat) : w ≤ w.push d := List.prefix_append _ _

lemma ofFrames_push (w : Depths) (d : Nat) :
    (w.push d).ofFrames[w.ofFrames.length]? = some d := by
  rw [push, List.getElem?_append_right (Nat.le_refl _), Nat.sub_self]
  rfl

end Depths

/-- The function was made in a frame of some depth, and its body is marked one deeper. -/
def Closure.Lies (w : Depths) (f : Closure) : Prop :=
  ∃ d, w.ofFrames[f.scope]? = some d ∧ ∃ b : Block, f.body = b.mark (d + 1)

/-- All functions in the value lie as deep as their marks say. -/
def Value.Lies (w : Depths) (v : Value) : Prop :=
  ∀ f, (Value.function f).PartOf v → f.Lies w

/-- Every frame but the global one is one deeper than its parent, and the functions that are bound
lie as deep as their marks say. -/
structure Frames.Follow (w : Depths) (frames : Frames) : Prop where
  size : w.ofFrames.length = frames.size
  outermost : (frames[globalFrame]?).map Frame.parent = some none
  outermost_depth : w.ofFrames[globalFrame]? = some 0
  inner : ∀ i f, frames[i]? = some f → i ≠ globalFrame →
    ∃ p d, f.parent = some p ∧ p < i ∧ w.ofFrames[p]? = some d ∧ w.ofFrames[i]? = some (d + 1)
  bindings : ∀ name i v, frames.local? name i = some v → v.Lies w

variable {w w' : Depths}

lemma Closure.Lies.mono (hle : w ≤ w') {f : Closure} (h : f.Lies w) : f.Lies w' := by
  obtain ⟨d, hd, hbody⟩ := h
  exact ⟨d, Depths.ofFrames_of_le hle hd, hbody⟩

lemma Value.Lies.mono (hle : w ≤ w') {v : Value} (h : v.Lies w) : v.Lies w' :=
  fun f hf => (h f hf).mono hle

namespace Frames.Follow

variable {frames : Frames} {i : FrameId} {d : Nat}

lemma ordered (h : frames.Follow w) : frames.Ordered := by
  intro i f p hi hp
  by_cases hglobal : i = globalFrame
  · have houtermost := h.outermost
    rw [← hglobal, hi, Option.map_some, hp] at houtermost
    cases Option.some.inj houtermost
  · obtain ⟨q, _, hq, hlt, -, -⟩ := h.inner i f hi hglobal
    rw [hp] at hq
    exact Option.some.inj hq ▸ hlt

lemma mono_bindings (h : frames.Follow w) (hle : w ≤ w') (name : String) (i : FrameId)
    (v : Value) (hv : frames.local? name i = some v) : v.Lies w' :=
  (h.bindings name i v hv).mono hle

/-- A frame of some depth is nested as deep. -/
lemma nested (h : frames.Follow w) (hi : w.ofFrames[i]? = some d) : frames.Nested i d := by
  induction i using Nat.strongRecOn generalizing d with
  | _ i ih =>
    by_cases hglobal : i = globalFrame
    · subst hglobal
      obtain rfl : 0 = d := Option.some.inj (h.outermost_depth.symm.trans hi)
      exact nested_globalFrame h.outermost
    · obtain ⟨hlt, -⟩ := List.getElem?_eq_some_iff.1 hi
      rw [h.size] at hlt
      have hframe : frames[i]? = some frames[i] := Array.getElem?_eq_getElem hlt
      obtain ⟨p, e, hparent, hp, hpdepth, hdepth⟩ := h.inner i _ hframe hglobal
      obtain rfl : e + 1 = d := Option.some.inj (hdepth.symm.trans hi)
      exact (ih p hp hpdepth).inner h.ordered hframe hparent

lemma empty : Frames.Follow ⟨[0]⟩ #[emptyFrame] where
  size := rfl
  outermost := rfl
  outermost_depth := rfl
  inner i f hi hne := by
    obtain ⟨hlt, -⟩ := Array.getElem?_eq_some_iff.1 hi
    exact absurd (Nat.lt_one_iff.1 hlt) hne
  bindings name i v hv := by
    obtain _ | i := i <;> cases hv

/-- Frames may be given other bindings of functions that lie as deep as their marks say. -/
lemma modify (h : frames.Follow w) {g : Frame → Frame} (hg : ∀ f, (g f).parent = f.parent)
    (hbindings : ∀ name j v, Frames.local? (frames.modify i g) name j = some v → v.Lies w) :
    Frames.Follow w (frames.modify i g) where
  size := by rw [Array.size_modify, h.size]
  outermost := by
    rw [Array.getElem?_modify]
    split
    · rw [Option.map_map, ← h.outermost]
      exact congrArg (fun k => Option.map k frames[globalFrame]?) (funext hg)
    · exact h.outermost
  outermost_depth := h.outermost_depth
  inner j f hj hne := by
    rw [Array.getElem?_modify] at hj
    split at hj
    · obtain ⟨f', hf', rfl⟩ := Option.map_eq_some_iff.1 hj
      rw [hg]
      exact h.inner j f' hf' hne
    · exact h.inner j f hj hne
  bindings := hbindings

lemma set (h : frames.Follow w) (i : FrameId) (name : String) {v : Value} (hv : v.Lies w) :
    (frames.set i name v).Follow w := by
  refine h.modify (fun _ => rfl) fun other j u hu => ?_
  have hset := Frames.local?_set_eq frames i name v other j
  rw [Frames.set, hu] at hset
  split at hset
  · exact Option.some.inj hset ▸ hv
  · exact h.bindings other j u hset.symm

lemma clear (h : frames.Follow w) (i : FrameId) : (frames.clear i).Follow w := by
  refine h.modify (fun _ => rfl) fun name j v hv => ?_
  rw [local?, Array.getElem?_modify] at hv
  split at hv
  · cases hv
  · next f hf =>
    split at hf
    · obtain ⟨f', -, rfl⟩ := Option.map_eq_some_iff.1 hf
      cases hv
    · exact h.bindings name j v (by rw [local?, hf]; exact hv)

/-- A frame may be made inside a frame, one deeper. -/
lemma child (h : frames.Follow w) (hi : w.ofFrames[i]? = some d) :
    (frames.child i).2.Follow (w.push (d + 1)) where
  size := by
    rw [Frames.child, Array.size_push, Depths.push, List.length_append, h.size]
    rfl
  outermost := by
    obtain ⟨f, hf, hparent⟩ := Option.map_eq_some_iff.1 h.outermost
    obtain ⟨hlt, -⟩ := Array.getElem?_eq_some_iff.1 hf
    rw [Frames.child, Array.getElem?_push, if_neg (Nat.ne_of_lt hlt), hf, Option.map_some, hparent]
  outermost_depth := Depths.ofFrames_of_le (w.le_push _) h.outermost_depth
  inner j f hj hne := by
    rw [Frames.child, Array.getElem?_push] at hj
    split at hj
    · next hnew =>
      obtain rfl := Option.some.inj hj
      obtain ⟨hlt, -⟩ := List.getElem?_eq_some_iff.1 hi
      refine ⟨i, d, rfl, ?_, Depths.ofFrames_of_le (w.le_push _) hi, ?_⟩
      · rw [hnew, ← h.size]
        exact hlt
      · rw [hnew, ← h.size, Depths.ofFrames_push]
    · obtain ⟨p, e, hparent, hp, hpdepth, hdepth⟩ := h.inner j f hj hne
      exact ⟨p, e, hparent, hp, Depths.ofFrames_of_le (w.le_push _) hpdepth,
        Depths.ofFrames_of_le (w.le_push _) hdepth⟩
  bindings name j v hv := by
    rw [Frames.local?_child] at hv
    exact h.mono_bindings (w.le_push _) name j v hv

end Frames.Follow

/-! ## Marked code -/

/-- What code may do that lies in `depth` function literals and is marked: the functions that it
makes are marked one deeper. -/
def Allowance.marked (depth : Nat) : Allowance where
  looks _ := True
  binds _ := True
  makes _ body := ∃ b : Block, body = b.mark (depth + 1)

mutual

lemma Expr.within_mark (depth : Nat) : ∀ e : Expr, (e.mark depth).Within (.marked depth)
  | .ident _ | .boolean _ _ | .integer _ _ | .string _ _ => trivial
  | .unary _ _ operand => operand.within_mark depth
  | .binary _ left _ right => ⟨left.within_mark depth, right.within_mark depth⟩
  | .conditional _ condition consequence alternative =>
    ⟨condition.within_mark depth, consequence.within_mark depth,
      within_markAlternative depth alternative⟩
  | .function _ _ body => ⟨body, rfl⟩
  | .call _ callee arguments => ⟨callee.within_mark depth, within_markExprs depth arguments⟩
  | .array _ elements => within_markExprs depth elements
  | .index _ base position => ⟨base.within_mark depth, position.within_mark depth⟩
  | .hash _ pairs => within_markPairs depth pairs

lemma within_markAlternative (depth : Nat) :
    ∀ b : Option Block, WithinAlternative (.marked depth) (markAlternative depth b)
  | none => trivial
  | some block => block.within_mark depth

lemma within_markExprs (depth : Nat) :
    ∀ es : List Expr, WithinExprs (.marked depth) (markExprs depth es)
  | [] => trivial
  | e :: es => ⟨e.within_mark depth, within_markExprs depth es⟩

lemma within_markPairs (depth : Nat) :
    ∀ pairs : List (Expr × Expr), WithinPairs (.marked depth) (markPairs depth pairs)
  | [] => trivial
  | (key, value) :: pairs =>
    ⟨key.within_mark depth, value.within_mark depth, within_markPairs depth pairs⟩

lemma Stmt.within_mark (depth : Nat) : ∀ s : Stmt, (s.mark depth).Within (.marked depth)
  | .letStmt _ _ value => ⟨value.within_mark depth, trivial⟩
  | .returnStmt _ value | .exprStmt _ value => value.within_mark depth

lemma Block.within_mark (depth : Nat) : ∀ b : Block, (b.mark depth).Within (.marked depth)
  | .mk _ statements => within_markStmts depth statements

lemma within_markStmts (depth : Nat) :
    ∀ ss : List Stmt, WithinStmts (.marked depth) (markStmts depth ss)
  | [] => trivial
  | s :: ss => ⟨s.within_mark depth, within_markStmts depth ss⟩

end

/-- The code with marks. -/
def Code.mark (depth : Nat) : Code → Code
  | .expression e => .expression (e.mark depth)
  | .statement s => .statement (s.mark depth)

/-- The mark of the code. -/
def Code.nesting : Code → Nat
  | .expression e => e.nesting
  | .statement s => s.nesting

lemma Code.nesting_mark (depth : Nat) (c : Code) : (c.mark depth).nesting = depth := by
  cases c with
  | expression e => exact e.nesting_mark depth
  | statement s => exact s.nesting_mark depth

lemma Code.within_mark (depth : Nat) (c : Code) : (c.mark depth).Within (.marked depth) := by
  cases c with
  | expression e => exact e.within_mark depth
  | statement s => exact s.within_mark depth

/-- The stage is marked with the depth, if it is code. -/
def Stage.Marked (depth : Nat) (stage : Stage) : Prop :=
  ∀ c, stage = .part c → ∃ c₀ : Code, c = c₀.mark depth

lemma Stage.Marked.within {depth : Nat} {stage : Stage} (h : stage.Marked depth) :
    stage.Within (.marked depth) := by
  cases stage with
  | part c =>
    obtain ⟨c₀, rfl⟩ := h c rfl
    exact c₀.within_mark depth
  | keyCheck => trivial

lemma Stage.marked_expressions (depth : Nat) (es : List Expr) :
    ∀ stage ∈ (es.map (Expr.mark depth)).map Stage.expression, stage.Marked depth := by
  rintro _ hstage _ rfl
  rw [List.map_map] at hstage
  obtain ⟨e, -, he⟩ := List.mem_map.1 hstage
  exact ⟨.expression e, (Stage.part.inj he).symm⟩

lemma Stage.marked_statements (depth : Nat) (ss : List Stmt) :
    ∀ stage ∈ (ss.map (Stmt.mark depth)).map Stage.statement, stage.Marked depth := by
  rintro _ hstage _ rfl
  rw [List.map_map] at hstage
  obtain ⟨s, -, hs⟩ := List.mem_map.1 hstage
  exact ⟨.statement s, (Stage.part.inj hs).symm⟩

lemma Code.marked_opening (depth : Nat) (c : Code) :
    ∀ stage ∈ (c.mark depth).opening, stage.Marked depth := by
  match c with
  | .expression (.ident _) | .expression (.boolean _ _) | .expression (.integer _ _)
  | .expression (.string _ _) | .expression (.function _ _ _) => exact List.forall_mem_nil _
  | .expression (.unary _ _ e) | .expression (.conditional _ e _ _)
  | .statement (.letStmt _ _ e) | .statement (.returnStmt _ e) | .statement (.exprStmt _ e) =>
    exact Stage.marked_expressions depth [e]
  | .expression (.binary _ left _ right) => exact Stage.marked_expressions depth [left, right]
  | .expression (.index _ base position) => exact Stage.marked_expressions depth [base, position]
  | .expression (.call _ callee arguments) =>
    rw [mark, Expr.mark, opening, markExprs_eq_map]
    exact Stage.marked_expressions depth (callee :: arguments)
  | .expression (.array _ elements) =>
    rw [mark, Expr.mark, opening, markExprs_eq_map]
    exact Stage.marked_expressions depth elements
  | .expression (.hash _ pairs) =>
    rw [mark, Expr.mark, opening, markPairs_eq_map]
    intro stage hstage
    obtain ⟨_, hpair, hstage⟩ := List.mem_flatMap.1 hstage
    obtain ⟨⟨key, value⟩, -, rfl⟩ := List.mem_map.1 hpair
    rintro c rfl
    simp only [Stage.ofPair, Prod.map, List.mem_cons, Stage.part.injEq, reduceCtorEq,
      List.not_mem_nil, or_false, false_or] at hstage
    rcases hstage with rfl | rfl
    · exact ⟨.expression key, rfl⟩
    · exact ⟨.expression value, rfl⟩

/-- The stages of marked code are marked alike. -/
lemma Code.marked_stages (depth : Nat) (c : Code) (vs : List Value) :
    ∀ stage ∈ (c.mark depth).stages vs, stage.Marked depth := by
  refine List.forall_mem_append.2 ⟨c.marked_opening depth, ?_⟩
  match c, vs with
  | .expression (.conditional _ _ consequence alternative), v :: _ =>
    simp only [mark, Expr.mark, chosen, markAlternative_eq_map]
    split
    · rw [Block.statements_mark]
      exact Stage.marked_statements depth consequence.statements
    · cases alternative with
      | none => exact List.forall_mem_nil _
      | some block =>
        simp only [Option.map_some, Option.getD_some, Block.statements_mark]
        exact Stage.marked_statements depth block.statements
  | .expression (.conditional _ _ _ _), [] => exact List.forall_mem_nil _
  | .expression (.ident _), _ | .expression (.boolean _ _), _ | .expression (.integer _ _), _
  | .expression (.string _ _), _ | .expression (.function _ _ _), _
  | .expression (.unary _ _ _), _ | .expression (.binary _ _ _ _), _
  | .expression (.index _ _ _), _ | .expression (.call _ _ _), _ | .expression (.array _ _), _
  | .expression (.hash _ _), _ | .statement (.letStmt _ _ _), _
  | .statement (.returnStmt _ _), _ | .statement (.exprStmt _ _), _ =>
    exact List.forall_mem_nil _

/-! ## One run -/

/-- Two runs are one run, in frames that have depths. -/
def nesting : Correspondence Depths where
  leaves w := ⟨fun f g => f = g ∧ f.Lies w, fun _ => True⟩
  state w s s' := s = s' ∧ s.frames.Follow w
  closures_mono hle h := ⟨h.1, h.2.mono hle⟩
  errors_mono _ _ := trivial
  display_eq h := congrArg Closure.display h.1
  note e h := by
    obtain ⟨rfl, hfollow⟩ := h
    exact ⟨rfl, (State.frames_note e _).symm ▸ hfollow⟩
  print _ h := by
    obtain ⟨rfl, hfollow⟩ := h
    exact ⟨rfl, hfollow⟩

namespace nesting

variable {i : FrameId} {d : Nat}

lemma values_iff {v v' : Value} : nesting.values w v v' ↔ v = v' ∧ v.Lies w := by
  have hclosures : ∀ f g, (nesting.leaves w).closures f g ↔ f = g ∧ f.Lies w := fun _ _ => .rfl
  exact (Value.related_iff_parts hclosures).trans (by simp [Value.Lies, nesting])

lemma lists_iff {vs vs' : List Value} :
    nesting.lists w vs vs' ↔ vs = vs' ∧ ∀ v ∈ vs, v.Lies w :=
  relatedElements_iff_forall fun _ _ => values_iff

/-- Code that is marked with a depth may run in frames of this depth. -/
lemma hosts (hi : w.ofFrames[i]? = some d) : nesting.Hosts id (.marked d) w i i where
  lookup name _ := by
    rintro w' _ s _ ⟨rfl, hfollow⟩
    refine .value (le_refl _) ⟨rfl, hfollow⟩ ?_
    cases hv : s.frames.lookup i name with
    | none => exact .none
    | some v =>
      obtain ⟨j, -, hlocal⟩ := List.exists_of_findSome?_eq_some hv
      exact .some (values_iff.2 ⟨rfl, hfollow.bindings name j v hlocal⟩)
  assign name _ := by
    rintro w' _ v v' hv _ _ s _ ⟨rfl, hfollow⟩
    obtain ⟨rfl, hlies⟩ := values_iff.1 hv
    exact .value (le_refl _) ⟨rfl, hfollow.set i name (hlies.mono ‹_›)⟩ trivial
  make parameters body hmakes := by
    rintro w' hw' s _ ⟨rfl, hfollow⟩
    rw [Ident.mapTokens_id, List.map_id, Block.mapTokens_id]
    exact .value (le_refl _) ⟨rfl, hfollow⟩
      (.function ⟨rfl, d, Depths.ofFrames_of_le hw' hi, hmakes⟩)

/-- A frame that is made inside another is one deeper. -/
lemma agree_child (hi : w.ofFrames[i]? = some d) :
    nesting.Agree w (fun w' j j' => j = j' ∧ w'.ofFrames[j]? = some (d + 1))
      (Eval.enter i) (Eval.enter i) := by
  rintro w' hw' s _ ⟨rfl, hfollow⟩
  have hchild := hfollow.child (Depths.ofFrames_of_le hw' hi)
  refine .value (w'.le_push (d + 1)) ⟨rfl, hchild⟩ ⟨rfl, ?_⟩
  rw [← hfollow.size, Depths.ofFrames_push]

lemma enterable : nesting.Enterable id := by
  rintro w f _ ⟨rfl, d, hscope, b, hbody⟩
  refine ⟨?_, ?_, .marked (d + 1), ?_, fun _ _ => trivial, ?_⟩
  · rw [Ident.mapTokens_id, List.map_id]
  · rw [Block.mapTokens_id]
  · rw [hbody]
    exact b.within_mark (d + 1)
  · refine (agree_child hscope).imp fun w' j j' hj => ?_
    obtain ⟨rfl, hj⟩ := hj
    exact hosts hj

lemma callsAgree (table : BuiltinTable) (depth : Nat) :
    nesting.CallsAgree (apply table depth) (apply table depth) :=
  Correspondence.apply_agree enterable depth

/-- What agrees with itself leads to frames that have depths, and to a value that is related to
itself. -/
lemma value_of_agree {α : Type} {Q : Depths → α → α → Prop} {m : Eval α} {s t : State} {a : α}
    (hagree : nesting.Agree w Q m m) (hs : s.frames.Follow w) (ha : m s = .value a t) :
    ∃ w', w ≤ w' ∧ t.frames.Follow w' ∧ Q w' a a := by
  have houtcomes := hagree w (le_refl w) s s ⟨rfl, hs⟩
  rw [ha] at houtcomes
  cases houtcomes with
  | value larger states related => exact ⟨_, larger, states.2, related⟩

/-- The frame that a call makes is one deeper than the function. -/
lemma follow_of_enter {f : Closure} {args : List Value} {frame : FrameId} {s t : State}
    (hscope : w.ofFrames[f.scope]? = some d) (hargs : ∀ v ∈ args, v.Lies w)
    (hs : s.frames.Follow w) (h : f.enter args s = .value frame t) :
    ∃ w', w ≤ w' ∧ t.frames.Follow w' ∧ w'.ofFrames[frame]? = some (d + 1) := by
  have hagree : nesting.Agree w (fun w' j j' => w'.ofFrames[j]? = some (d + 1))
      (f.enter args) (f.enter args) := by
    refine (Correspondence.Agree.note _).bind fun w₁ hw₁ _ _ _ => ?_
    refine (agree_child (Depths.ofFrames_of_le hw₁ hscope)).bind fun w₂ hw₂ j j' hj => ?_
    obtain ⟨rfl, hj⟩ := hj
    have hlists : nesting.lists w₂ args args :=
      lists_iff.2 ⟨rfl, fun v hv => (hargs v hv).mono (le_trans hw₁ hw₂)⟩
    have hbound := Correspondence.bindParameters_agree (a := .marked (d + 1)) f.parameters
      (fun _ _ => trivial) (hosts hj) hlists
    rw [Ident.mapTokens_id, List.map_id] at hbound
    refine hbound.bind fun w₃ hw₃ _ _ _ => ?_
    exact Correspondence.Agree.pure fun w₄ hw₄ => Depths.ofFrames_of_le (le_trans hw₃ hw₄) hj
  exact value_of_agree hagree hs h

/-- Values of marked stages lie as deep as their marks say. -/
lemma follow_of_passes {table : BuiltinTable} {depth : Nat} {scope : FrameId}
    {stages : List Stage} {last : Value} {s t : State} {vs : List Value}
    (hscope : w.ofFrames[scope]? = some d) (hstages : ∀ stage ∈ stages, stage.Marked d)
    (hlast : last.Lies w) (hs : s.frames.Follow w)
    (h : Passes table (apply table depth) scope stages last s vs t) :
    ∃ w', w ≤ w' ∧ t.frames.Follow w' ∧ ∀ v ∈ vs, v.Lies w' := by
  have hagree := Correspondence.agree_stages table (callsAgree table depth) stages
    (fun stage hstage => (hstages stage hstage).within) (hosts hscope)
    (values_iff.2 ⟨rfl, hlast⟩)
  rw [Stage.mapTokens_id, List.map_id] at hagree
  obtain ⟨w', hle, hfollow, hlists⟩ :=
    value_of_agree hagree hs (evalStages_eq_value_iff.2 h)
  exact ⟨w', hle, hfollow, (lists_iff.1 hlists).2⟩

end nesting

/-! ## Visits -/

/-- The visited code is marked with the depth of its frame. -/
structure Visit.Follow (w : Depths) (v : Visit) : Prop where
  frames : v.state.frames.Follow w
  marked : ∃ d, w.ofFrames[v.scope]? = some d ∧ ∃ c : Code, v.code = c.mark d

section

variable {table : BuiltinTable} {depth d : Nat} {scope : FrameId} {s : State} {v u : Visit}

lemma Visit.Follow.nested (h : v.Follow w) :
    v.state.frames.Nested v.scope v.code.nesting := by
  obtain ⟨d, hd, c, hc⟩ := h.marked
  rw [hc, c.nesting_mark]
  exact h.frames.nested hd

lemma Value.lies_null : Value.Lies w .null := by
  intro f hf
  cases hf

/-- Marked code that has its turn has it in a frame as deep. -/
lemma Turn.follow {stages : List Value → List Stage} (hscope : w.ofFrames[scope]? = some d)
    (hs : s.frames.Follow w) (hstages : ∀ vs, ∀ stage ∈ stages vs, stage.Marked d)
    (h : Turn table depth scope stages s v) : ∃ w', w ≤ w' ∧ v.Follow w' := by
  obtain @⟨_, _, _, vs, _, place, passes⟩ := h
  have hmarked := hstages vs
  rw [place] at hmarked
  obtain ⟨hbefore, hrest⟩ := List.forall_mem_append.1 hmarked
  obtain ⟨hcode, -⟩ := List.forall_mem_cons.1 hrest
  obtain ⟨w', hle, hfollow, -⟩ :=
    nesting.follow_of_passes hscope hbefore Value.lies_null hs passes
  exact ⟨w', hle, hfollow, d, Depths.ofFrames_of_le hle hscope, hcode _ rfl⟩

/-- Marked statements have their turn in a frame as deep. -/
lemma Turn.follow_statements {ss : List Stmt} (hscope : w.ofFrames[scope]? = some d)
    (hs : s.frames.Follow w)
    (h : Turn table depth scope (fun _ => (ss.map (Stmt.mark d)).map .statement) s v) :
    ∃ w', w ≤ w' ∧ v.Follow w' :=
  h.follow hscope hs fun _ => Stage.marked_statements d ss

/-- Visits that follow lead to visits that follow. -/
lemma Visit.Leads.follow (hv : v.Follow w) (h : Leads table v u) :
    ∃ w', w ≤ w' ∧ u.Follow w' := by
  obtain ⟨hframes, d, hscope, c, hc⟩ := hv
  cases h with
  | part turn =>
    obtain rfl := hc
    exact turn.follow hscope hframes (c.marked_stages d)
  | body passes enters turn =>
    have hparts := c.marked_opening d
    rw [← hc] at hparts
    obtain ⟨w₁, hle₁, hfollow₁, hlies⟩ :=
      nesting.follow_of_passes hscope hparts Value.lies_null hframes passes
    obtain ⟨hf, hargs⟩ := List.forall_mem_cons.1 hlies
    obtain ⟨e, he, b, hbody⟩ := hf _ .self
    obtain ⟨w₂, hle₂, hfollow₂, hframe⟩ := nesting.follow_of_enter he hargs hfollow₁ enters
    rw [hbody, b.statements_mark] at turn
    obtain ⟨w₃, hle₃, hfollow₃⟩ := turn.follow_statements hframe hfollow₂
    exact ⟨w₃, le_trans hle₁ (le_trans hle₂ hle₃), hfollow₃⟩

/-- What marked statements visit follows. -/
theorem Visits.follow {ss : List Stmt} (hscope : w.ofFrames[scope]? = some d)
    (hs : s.frames.Follow w) (h : Visits table depth scope (ss.map (Stmt.mark d)) s v) :
    ∃ w', v.Follow w' := by
  obtain ⟨v₀, turn, leads⟩ := h
  induction leads with
  | refl =>
    obtain ⟨w', -, hv₀⟩ := turn.follow_statements hscope hs
    exact ⟨w', hv₀⟩
  | tail _ last ih =>
    obtain ⟨w', hu⟩ := ih
    obtain ⟨w'', -, hv⟩ := last.follow hu
    exact ⟨w'', hv⟩

end

end MonkeyLang
