import MonkeyLang.Proofs.Evaluation.Parts
import MonkeyLang.Proofs.Evaluation.Repetition

/-!
# Names that are not mentioned

What the global frame binds a name to does not matter to a program that does not mention the name,
unless the program comes to a function that does.  It can come to the functions that are bound in
the frames it reaches (`Frames.Reached`): the global frame, the frames that bound functions were
made in, and the frames around these.  A binding of the name itself leads nowhere, since nobody
looks it up.

Two interpreters that differ only there are compared (`Interpreter.DiffersAt`).  The second one may
hold more frames and functions than the first, those of the other binding, so what the two runs make
has other numbers in the second.
-/

namespace MonkeyLang

/-! ## The names in a program -/

mutual

/-- The names in an expression, whether they are looked up, bound or parameters, and those in the
bodies of functions too. -/
def Expr.names : Expr → List String
  | .ident id => [id.name]
  | .boolean _ _ | .integer _ _ | .string _ _ => []
  | .unary _ _ operand => operand.names
  | .binary _ left _ right => left.names ++ right.names
  | .conditional _ condition consequence alternative =>
    condition.names ++ consequence.names ++ namesAlternative alternative
  | .function _ parameters body => parameters.map Ident.name ++ body.names
  | .call _ callee arguments => callee.names ++ namesExprs arguments
  | .array _ elements => namesExprs elements
  | .index _ base position => base.names ++ position.names
  | .hash _ pairs => namesPairs pairs

def namesAlternative : Option Block → List String
  | none => []
  | some block => block.names

def namesExprs : List Expr → List String
  | [] => []
  | e :: es => e.names ++ namesExprs es

def namesPairs : List (Expr × Expr) → List String
  | [] => []
  | (key, value) :: pairs => key.names ++ value.names ++ namesPairs pairs

def Stmt.names : Stmt → List String
  | .letStmt _ name value => name.name :: value.names
  | .returnStmt _ value | .exprStmt _ value => value.names

def Block.names : Block → List String
  | .mk _ statements => namesStmts statements

def namesStmts : List Stmt → List String
  | [] => []
  | s :: ss => s.names ++ namesStmts ss

end

/-- The names in a program. -/
def Program.names (p : Program) : List String := namesStmts p.statements

/-- The parameters of a function and the names in its body. -/
def Closure.names (f : Closure) : List String := f.parameterNames ++ f.body.names

/-- Everything is allowed that does not mention a name. -/
def Allowance.avoiding (n : String) : Allowance where
  looks name := name ≠ n
  binds name := name ≠ n
  makes parameters body := n ∉ parameters.map Ident.name ++ body.names

section

variable {n : String}

mutual

lemma Expr.within_avoiding {e : Expr} (h : n ∉ e.names) : e.Within (.avoiding n) := by
  match e with
  | .ident id => exact fun heq => h (List.mem_singleton.2 heq.symm)
  | .boolean _ _ | .integer _ _ | .string _ _ => exact trivial
  | .unary _ _ operand => exact Expr.within_avoiding (e := operand) h
  | .binary _ left _ right =>
    rw [Expr.names, List.mem_append, not_or] at h
    exact ⟨Expr.within_avoiding h.1, Expr.within_avoiding h.2⟩
  | .conditional _ condition consequence alternative =>
    rw [Expr.names, List.mem_append, List.mem_append, not_or, not_or] at h
    exact ⟨Expr.within_avoiding h.1.1, Block.within_avoiding h.1.2,
      withinAlternative_avoiding h.2⟩
  | .function _ parameters body => exact h
  | .call _ callee arguments =>
    rw [Expr.names, List.mem_append, not_or] at h
    exact ⟨Expr.within_avoiding h.1, withinExprs_avoiding h.2⟩
  | .array _ elements =>
    have helements : n ∉ namesExprs elements := h
    exact withinExprs_avoiding helements
  | .index _ base position =>
    rw [Expr.names, List.mem_append, not_or] at h
    exact ⟨Expr.within_avoiding h.1, Expr.within_avoiding h.2⟩
  | .hash _ pairs =>
    have hpairs : n ∉ namesPairs pairs := h
    exact withinPairs_avoiding hpairs

lemma withinAlternative_avoiding {b : Option Block} (h : n ∉ namesAlternative b) :
    WithinAlternative (.avoiding n) b := by
  match b with
  | none => exact trivial
  | some block => exact Block.within_avoiding (b := block) h

lemma withinExprs_avoiding {es : List Expr} (h : n ∉ namesExprs es) :
    WithinExprs (.avoiding n) es := by
  match es with
  | [] => exact trivial
  | e :: es =>
    rw [namesExprs, List.mem_append, not_or] at h
    exact ⟨Expr.within_avoiding h.1, withinExprs_avoiding h.2⟩

lemma withinPairs_avoiding {pairs : List (Expr × Expr)} (h : n ∉ namesPairs pairs) :
    WithinPairs (.avoiding n) pairs := by
  match pairs with
  | [] => exact trivial
  | (key, value) :: pairs =>
    rw [namesPairs, List.mem_append, List.mem_append, not_or, not_or] at h
    exact ⟨Expr.within_avoiding h.1.1, Expr.within_avoiding h.1.2, withinPairs_avoiding h.2⟩

lemma Stmt.within_avoiding {s : Stmt} (h : n ∉ s.names) : s.Within (.avoiding n) := by
  match s with
  | .letStmt _ name value =>
    rw [Stmt.names, List.mem_cons, not_or] at h
    exact ⟨Expr.within_avoiding h.2, fun heq => h.1 heq.symm⟩
  | .returnStmt _ value | .exprStmt _ value => exact Expr.within_avoiding (e := value) h

lemma Block.within_avoiding {b : Block} (h : n ∉ b.names) : b.Within (.avoiding n) := by
  match b with
  | .mk _ statements =>
    have hstatements : n ∉ namesStmts statements := h
    exact withinStmts_avoiding hstatements

lemma withinStmts_avoiding {ss : List Stmt} (h : n ∉ namesStmts ss) :
    WithinStmts (.avoiding n) ss := by
  match ss with
  | [] => exact trivial
  | s :: ss =>
    rw [namesStmts, List.mem_append, not_or] at h
    exact ⟨Stmt.within_avoiding h.1, withinStmts_avoiding h.2⟩

end

end

/-! ## What code reaches that does not mention a name -/

/-- The frames whose bindings a program may look up that does not mention a name: the global frame,
the frames that bound functions were made in, and the frames around these.  What the name itself is
bound to is not looked up. -/
inductive Frames.Reached (frames : Frames) (n : String) : FrameId → Prop where
  | global : Reached frames n globalFrame
  | parent {i p : FrameId} {f : Frame} (inner : Reached frames n i) (frame : frames[i]? = some f)
      (parent : f.parent = some p) : Reached frames n p
  | scope {i : FrameId} {name : String} {v : Value} {f : Closure} (outer : Reached frames n i)
      (other : name ≠ n) (bound : frames.local? name i = some v)
      (part : (Value.function f).PartOf v) : Reached frames n f.scope

/-- No function that is bound in a frame that is reached, but to the name itself, mentions the
name. -/
def Frames.Unmentioned (frames : Frames) (n : String) : Prop :=
  ∀ i name v f, frames.Reached n i → name ≠ n → frames.local? name i = some v →
    (Value.function f).PartOf v → n ∉ f.names

/-- The function was made, in a live frame, and does not mention the name. -/
structure Closure.Unaware (n : String) (live : FrameId → Prop) (w : Extent) (f : Closure) :
    Prop where
  made : f.MadeWithin w
  scope : live f.scope
  unmentioned : n ∉ f.names

/-- From live frames only live frames are reached, and no function that mentions the name.  Frames
that will be made are live. -/
structure Frames.Confined (n : String) (live : FrameId → Prop) (w : Extent) (frames : Frames) :
    Prop where
  fresh : ∀ i, w.frames ≤ i → live i
  parent : ∀ (i : FrameId) f p, live i → frames[i]? = some f → f.parent = some p → live p
  values : ∀ i name v, live i → name ≠ n → frames.local? name i = some v →
    ∀ f, (Value.function f).PartOf v → f.Unaware n live w

lemma Closure.Unaware.mono {n : String} {live : FrameId → Prop} {w w' : Extent} {f : Closure}
    (hle : w ≤ w') (h : f.Unaware n live w) : f.Unaware n live w' :=
  ⟨h.made.mono hle, h.scope, h.unmentioned⟩

namespace Frames.Confined

variable {n : String} {live : FrameId → Prop} {w w' : Extent} {frames : Frames}

lemma mono (hle : w ≤ w') (h : Confined n live w frames) : Confined n live w' frames where
  fresh i hi := h.fresh i (Nat.le_trans hle.1 hi)
  parent := h.parent
  values i name v hi hname hv f hf := (h.values i name v hi hname hv f hf).mono hle

/-- If the global frame is live, all frames that are reached are. -/
lemma live_of_reached (h : Confined n live w frames) (hglobal : live globalFrame) {i : FrameId}
    (hi : frames.Reached n i) : live i := by
  induction hi with
  | global => exact hglobal
  | parent _ frame parent ih => exact h.parent _ _ _ ih frame parent
  | scope _ other bound part ih => exact (h.values _ _ _ ih other bound _ part).scope

lemma unmentioned (h : Confined n live w frames) (hglobal : live globalFrame) :
    frames.Unmentioned n := by
  intro i name v f hi hname hv hf
  exact (h.values i name v (h.live_of_reached hglobal hi) hname hv f hf).unmentioned

/-- The chain of a live frame is live. -/
lemma live_of_mem_chain (h : Confined n live w frames) {i j : FrameId} (hi : live i)
    (hj : j ∈ frames.chain i) : live j := by
  have hupTo : ∀ limit i, live i → j ∈ frames.chainUpTo limit i → live j := by
    intro limit
    induction limit with
    | zero => exact fun _ _ hmem => absurd hmem List.not_mem_nil
    | succ limit ih =>
      intro i hi hmem
      rw [chainUpTo] at hmem
      cases hframe : frames[i]? with
      | none =>
        rw [hframe] at hmem
        exact absurd hmem List.not_mem_nil
      | some f =>
        cases hparent : f.parent with
        | none =>
          simp only [hframe, hparent, List.mem_singleton] at hmem
          exact hmem ▸ hi
        | some p =>
          simp only [hframe, hparent, List.mem_cons] at hmem
          rcases hmem with rfl | hmem
          · exact hi
          · exact ih p (h.parent i f p hi hframe hparent) hmem
  exact hupTo _ i hi hj

/-- Functions that are looked up in live frames were made in live frames and do not mention the
name. -/
lemma unaware_of_lookup (h : Confined n live w frames) {i : FrameId} {name : String} {v : Value}
    (hi : live i) (hname : name ≠ n) (hv : frames.lookup i name = some v) {f : Closure}
    (hf : (Value.function f).PartOf v) : f.Unaware n live w := by
  obtain ⟨j, hj, hlocal⟩ := List.exists_of_findSome?_eq_some hv
  exact h.values j name v (h.live_of_mem_chain hi hj) hname hlocal f hf

lemma set (h : Confined n live w frames) (i : FrameId) (name : String) {v : Value}
    (hv : ∀ f, (Value.function f).PartOf v → f.Unaware n live w) :
    Confined n live w (frames.set i name v) where
  fresh := h.fresh
  parent j f p hj hframe hparent := by
    rw [Frames.set, Array.getElem?_modify] at hframe
    split at hframe
    · obtain ⟨g, hg, rfl⟩ := Option.map_eq_some_iff.1 hframe
      exact h.parent j g p hj hg hparent
    · exact h.parent j f p hj hframe hparent
  values j other u hj hother hu := by
    rw [local?_set_eq] at hu
    split at hu
    · obtain rfl := Option.some.inj hu
      exact hv
    · exact h.values j other u hj hother hu

lemma child (h : Confined n live w frames) {i : FrameId} (hi : live i) :
    Confined n live w (frames.child i).2 where
  fresh := h.fresh
  parent j f p hj hframe hparent := by
    rw [Frames.child, Array.getElem?_push] at hframe
    split at hframe
    · obtain rfl := Option.some.inj hframe
      obtain rfl := Option.some.inj hparent
      exact hi
    · exact h.parent j f p hj hframe hparent
  values j name v hj hname hv := by
    rw [local?_child] at hv
    exact h.values j name v hj hname hv

end Frames.Confined

/-! ## Frames that differ at a name -/

/-- The frames of the second run have the parents and bindings of the first, with other numbers,
except for what the global frame binds the name to. -/
structure Frames.DifferAt (n : String) (base extra : Extent) (frames frames' : Frames) : Prop where
  parent : ∀ i : FrameId, (frames'[shifted base.frames extra.frames i]?).map Frame.parent =
    (frames[i]?).map fun f => f.parent.map (shifted base.frames extra.frames)
  binding : ∀ (i : FrameId) (name : String), (i = globalFrame → name ≠ n) →
    frames'.local? name (shifted base.frames extra.frames i) =
      (frames.local? name i).map (Value.mapClosures (Closure.renumber base extra))

namespace Frames.DifferAt

variable {n : String} {base extra : Extent} {frames frames' : Frames} {i : FrameId}

/-- Look-ups visit frames with the corresponding numbers. -/
lemma chain (h : DifferAt n base extra frames frames') (hordered : frames.Ordered)
    (i : FrameId) : frames'.chain (shifted base.frames extra.frames i) =
      (frames.chain i).map (shifted base.frames extra.frames) := by
  have hupTo : ∀ limit i, frames'.chainUpTo limit (shifted base.frames extra.frames i) =
      (frames.chainUpTo limit i).map (shifted base.frames extra.frames) := by
    intro limit
    induction limit with
    | zero => exact fun _ => rfl
    | succ limit ih =>
      intro i
      have hparent := h.parent i
      rw [chainUpTo, chainUpTo]
      cases hframe : frames[i]? with
      | none =>
        rw [hframe, Option.map_none, Option.map_eq_none_iff] at hparent
        rw [hparent]
        rfl
      | some f =>
        rw [hframe, Option.map_some, Option.map_eq_some_iff] at hparent
        obtain ⟨g, hg, hgparent⟩ := hparent
        cases hfparent : f.parent with
        | none => simp only [hg, hgparent, hfparent, Option.map_none, List.map_cons, List.map_nil]
        | some p =>
          simp only [hg, hgparent, hfparent, Option.map_some, List.map_cons, ih]
  have hlimit : i < shifted base.frames extra.frames i + 1 :=
    Nat.lt_succ_of_le (le_shifted _ _ i)
  rw [Frames.chain, hupTo, chainUpTo_eq_chain hordered hlimit]

/-- Other names than the one at which the frames differ are looked up alike. -/
lemma lookup (h : DifferAt n base extra frames frames') (hordered : frames.Ordered)
    (i : FrameId) {name : String} (hname : name ≠ n) :
    frames'.lookup (shifted base.frames extra.frames i) name =
      (frames.lookup i name).map (Value.mapClosures (Closure.renumber base extra)) := by
  have hlocal : frames'.local? name ∘ shifted base.frames extra.frames =
      Option.map (Value.mapClosures (Closure.renumber base extra)) ∘ frames.local? name :=
    funext fun j => h.binding j name fun _ => hname
  rw [Frames.lookup, h.chain hordered, List.findSome?_map, hlocal, Frames.lookup,
    List.map_findSome?]

lemma set (h : DifferAt n base extra frames frames') (hi : i < frames.size)
    (hi' : shifted base.frames extra.frames i < frames'.size) (name : String) (v : Value) :
    DifferAt n base extra (frames.set i name v) (frames'.set (shifted base.frames extra.frames i)
      name (v.mapClosures (Closure.renumber base extra))) where
  parent j := by
    have hparent := h.parent j
    rw [Frames.set, Frames.set, Array.getElem?_modify, Array.getElem?_modify]
    by_cases hij : i = j
    · subst hij
      rw [if_pos rfl, if_pos rfl, Option.map_map, Option.map_map]
      exact hparent
    · rw [if_neg hij, if_neg fun heq => hij (shifted_inj heq)]
      exact hparent
  binding j other hother := by
    rw [local?_set_eq, local?_set_eq]
    by_cases hij : i = j
    · subst hij
      by_cases hname : name = other
      · rw [if_pos ⟨rfl, hname, hi'⟩, if_pos ⟨rfl, hname, hi⟩]
        rfl
      · rw [if_neg fun hset => hname hset.2.1, if_neg fun hset => hname hset.2.1]
        exact h.binding i other hother
    · rw [if_neg fun hset => hij (shifted_inj hset.1), if_neg fun hset => hij hset.1]
      exact h.binding j other hother

lemma child (h : DifferAt n base extra frames frames')
    (hsize : shifted base.frames extra.frames frames.size = frames'.size) (i : FrameId) :
    DifferAt n base extra (frames.child i).2
      (frames'.child (shifted base.frames extra.frames i)).2 where
  parent j := by
    rw [Frames.child, Frames.child, Array.getElem?_push, Array.getElem?_push]
    by_cases hnew : j = frames.size
    · subst hnew
      rw [if_pos rfl, if_pos hsize]
      rfl
    · rw [if_neg hnew, if_neg fun heq => hnew (shifted_inj (heq.trans hsize.symm))]
      exact h.parent j
  binding j name hname := by
    rw [local?_child, local?_child]
    exact h.binding j name hname

end Frames.DifferAt

/-- The frames with other bindings in the global frame and with more frames behind them. -/
def Frames.extend (frames : Frames) (bindings : Bindings) (more : Frames) : Frames :=
  Array.modify (frames ++ more) globalFrame fun f => { f with bindings }

namespace Frames

variable {n : String} {frames more : Frames} {bindings : Bindings}

lemma size_extend : (frames.extend bindings more).size = frames.size + more.size := by
  rw [extend, Array.size_modify, Array.size_append]

lemma getElem?_extend (k : FrameId) :
    (frames.extend bindings more)[shifted frames.size more.size k]? =
      (frames[k]?).map fun f => if k = globalFrame then { f with bindings } else f := by
  rw [extend, Array.getElem?_modify]
  by_cases hk : k < frames.size
  · rw [shifted_of_lt hk, Array.getElem?_append_left hk, Array.getElem?_eq_getElem hk]
    by_cases hglobal : k = globalFrame
    · rw [if_pos hglobal.symm, Option.map_some, Option.map_some, if_pos hglobal]
    · rw [if_neg (Ne.symm hglobal), Option.map_some, if_neg hglobal]
  · have hsize : (frames ++ more).size ≤ k + more.size := by
      rw [Array.size_append]
      exact Nat.add_le_add_right (Nat.not_lt.1 hk) _
    rw [shifted_of_le (Nat.not_lt.1 hk), Array.getElem?_eq_none hsize,
      Array.getElem?_eq_none (Nat.not_lt.1 hk), Option.map_none, Option.map_none, ite_self]

lemma local?_extend
    (hbindings : ∀ name, name ≠ n → bindings.get? name = frames.local? name globalFrame)
    {k : FrameId} {name : String} (hname : k = globalFrame → name ≠ n) :
    (frames.extend bindings more).local? name (shifted frames.size more.size k) =
      frames.local? name k := by
  rw [local?, getElem?_extend]
  cases hf : frames[k]? with
  | none => rw [local?, hf, Option.map_none]
  | some f =>
    rw [Option.map_some]
    by_cases hglobal : k = globalFrame
    · simp only [if_pos hglobal]
      rw [hbindings name (hname hglobal), hglobal]
    · simp only [if_neg hglobal, local?, hf]

end Frames

/-! ## Two runs -/

/-- The functions of the second run are those of the first with other numbers, and no function
mentions the name. -/
def unawareLeaves (n : String) (live : FrameId → Prop) (base extra w : Extent) : Leaves where
  closures f g := f.Unaware n live w ∧ g = f.renumber base extra
  errors _ := True

/-- The states differ at the name, and from the live frames of the first one nothing is reached that
mentions it. -/
structure UnawareStates (n : String) (live : FrameId → Prop) (base extra w : Extent)
    (s s' : State) : Prop where
  extent_eq : s.extent = w
  extent_eq' : s'.extent = w.plus extra
  base_le : base ≤ w
  ordered : s.frames.Ordered
  frames : Frames.DifferAt n base extra s.frames s'.frames
  confined : Frames.Confined n live w s.frames
  printed : s'.printed = s.printed
  events : s'.events = s.events

/-- Two runs of code that does not mention a name, from states that differ at the name. -/
def unaware (n : String) (live : FrameId → Prop) (base extra : Extent) :
    Correspondence Extent where
  leaves := unawareLeaves n live base extra
  state := UnawareStates n live base extra
  closures_mono hle h := ⟨h.1.mono hle, h.2⟩
  errors_mono _ _ := trivial
  display_eq := by
    rintro _ f _ ⟨-, rfl⟩
    rfl
  note e h := by
    unfold State.note
    rw [h.events]
    split
    · exact h
    · exact ⟨h.extent_eq, h.extent_eq', h.base_le, h.ordered, h.frames, h.confined, h.printed, rfl⟩
  print text h :=
    ⟨h.extent_eq, h.extent_eq', h.base_le, h.ordered, h.frames, h.confined,
      congrArg (· ++ text) h.printed, h.events⟩

namespace unaware

variable {n : String} {live : FrameId → Prop} {base extra w : Extent}

lemma eq_of_values {v v' : Value} (h : (unaware n live base extra).values w v v') :
    v' = v.mapClosures (Closure.renumber base extra) := by
  have hclosures : ∀ f g, (unawareLeaves n live base extra w).closures f g →
      g = f.renumber base extra := fun _ _ hg => hg.2
  exact h.eq_mapClosures hclosures

/-- Code that does not mention the name may run in live frames. -/
lemma hosts {i : FrameId} (hi : live i) (hmade : i < w.frames) :
    (unaware n live base extra).Hosts id (.avoiding n) w i (shifted base.frames extra.frames i) where
  lookup name hname := by
    intro w₁ _ s s' hs
    refine .value (le_refl _) hs ?_
    rw [hs.frames.lookup hs.ordered i hname]
    cases hv : s.frames.lookup i name with
    | none => exact .none
    | some v =>
      refine .some (v.related_of_parts (fun f hf => ?_) fun _ _ => trivial)
      exact ⟨hs.confined.unaware_of_lookup hi hname hv hf, rfl⟩
  assign name _ := by
    intro w₁ hw₁ v v' hv w₂ hw₂ s s' hs
    obtain rfl := eq_of_values hv
    obtain rfl := hs.extent_eq
    have hunaware : ∀ f, (Value.function f).PartOf v → f.Unaware n live s.extent := by
      intro f hf
      obtain ⟨_, hleaf⟩ := hv.closures_of_partOf hf
      exact hleaf.1.mono hw₂
    have hlt : i < s.frames.size := Nat.lt_of_lt_of_le hmade (le_trans hw₁ hw₂).1
    have hlt' := State.shifted_lt_size hs.extent_eq' hs.base_le hlt
    exact .value (le_refl _) ⟨s.extent_set i name v,
      (s'.extent_set _ name _).trans hs.extent_eq', hs.base_le, hs.ordered.modify i fun _ => rfl,
      hs.frames.set hlt hlt' name v, hs.confined.set i name hunaware, hs.printed, hs.events⟩ trivial
  make parameters body hmakes := by
    intro w₁ hw₁ s s' hs
    rw [Ident.mapTokens_id, List.map_id, Block.mapTokens_id]
    obtain rfl := hs.extent_eq
    -- The new function has the number that corresponds to that of the first run.
    have hnew := State.renumber_made hs.extent_eq' hs.base_le parameters body i
    have hmore : s.extent ≤ ⟨s.frames.size, s.functions + 1⟩ := ⟨le_refl _, Nat.le_succ _⟩
    have hlt : i < s.frames.size := Nat.lt_of_lt_of_le hmade hw₁.1
    exact .value hmore ⟨rfl, State.extent_made hs.extent_eq', le_trans hs.base_le hmore,
      hs.ordered, hs.frames, hs.confined.mono hmore, hs.printed, hs.events⟩
      (.function ⟨⟨⟨hlt, Nat.lt_succ_self _⟩, hi, hmakes⟩, hnew⟩)

lemma enterable : (unaware n live base extra).Enterable id := by
  rintro w f _ ⟨hunaware, rfl⟩
  have hnames := hunaware.unmentioned
  rw [Closure.names, List.mem_append, not_or] at hnames
  refine ⟨?_, ?_, .avoiding n, Block.within_avoiding hnames.2, ?_, ?_⟩
  · rw [Ident.mapTokens_id, List.map_id]
    rfl
  · rw [Block.mapTokens_id]
    rfl
  · rintro p hp rfl
    exact hnames.1 (List.mem_map_of_mem hp)
  · intro w₁ hw₁ s s' hs
    obtain rfl := hs.extent_eq
    have hnew := State.shifted_size hs.extent_eq' hs.base_le
    have hscope : f.scope < s.frames.size := Nat.lt_of_lt_of_le hunaware.made.scope hw₁.1
    have hmore : s.extent ≤ ⟨s.frames.size + 1, s.functions⟩ := ⟨Nat.le_succ _, le_refl _⟩
    refine .value hmore ⟨s.extent_child _, State.extent_child_plus hs.extent_eq' _,
      le_trans hs.base_le hmore, hs.ordered.child hscope, hs.frames.child hnew f.scope,
      (hs.confined.child hunaware.scope).mono hmore, hs.printed, hs.events⟩ ?_
    rw [← hnew]
    exact hosts (hs.confined.fresh _ (le_refl _)) (Nat.lt_succ_self _)

end unaware

/-- Values that were made before have the same numbers in both runs. -/
lemma Value.MadeWithin.mapClosures_renumber {base extra : Extent} {v : Value}
    (h : v.MadeWithin base) : v.mapClosures (Closure.renumber base extra) = v := by
  have hclosures : ∀ f g, (renumberedLeaves base extra base).closures f g →
      g = f.renumber base extra := fun _ _ hg => hg.2
  exact ((h.related fun f hf => hf.renumber_eq).eq_mapClosures hclosures).symm

namespace Interpreter

/-! ## Interpreters that differ at a name -/

/-- What a program, a call or a reset makes of an interpreter. -/
inductive Step : Interpreter → Interpreter → Prop where
  | program {i : Interpreter} (depth : Nat) (p : Program) (r : Run (Option Value))
      (ends : i.run depth p = some r) : Step i r.next
  | call {i j : Interpreter} (call : Call i j) : Step i j
  | reset (i : Interpreter) : Step i i.reset

/-- The interpreters differ in what the global frame binds the name to, and the second one holds
more frames and functions by `extra`.  From `base` on its numbers are larger by as many. -/
structure DiffersAt (n : String) (base extra : Extent) (i i' : Interpreter) : Prop where
  builtins : i'.builtins = i.builtins
  extent : i'.extent = i.extent.plus extra
  base_le : base ≤ i.extent
  global : globalFrame < base.frames
  frames : Frames.DifferAt n base extra i.state.frames i'.state.frames

/-- The results are equal up to the numbers of frames and functions, with one printed form, or the
same error.  The runs have printed the same, and the interpreters behind them differ as those
before. -/
structure AlikeRuns (n : String) (base extra : Extent) (r r' : Run (Option Value)) : Prop where
  result : r'.result = r.result.map (Value.mapClosures (Closure.renumber base extra))
  display : r'.result.map Value.display = r.result.map Value.display
  printed : r'.printed = r.printed
  next : r.next.DiffersAt n base extra r'.next
  unmentioned : r.next.state.frames.Unmentioned n

section

variable {i i' j : Interpreter} {n : String} {base extra : Extent} {p : Program}

lemma wellFormed_of_steps {builtins : BuiltinTable}
    (h : Relation.ReflTransGen Step (new builtins) i) : i.WellFormed := by
  induction h with
  | refl => exact wellFormed_new builtins
  | tail _ step ih =>
    cases step with
    | program depth p r ends => exact ih.run ends
    | call call => exact (call.extends ih).1
    | reset => exact ih.reset

/-- What a frame binds a name to is a value of the interpreter. -/
lemma WellFormed.madeWithin_of_local? (h : i.WellFormed) {name : String} {k : FrameId} {v : Value}
    (hv : i.state.frames.local? name k = some v) : v.MadeWithin i.extent := by
  rw [Frames.local?] at hv
  cases hf : i.state.frames[k]? with
  | none =>
    rw [hf] at hv
    cases hv
  | some f =>
    obtain ⟨hk, -⟩ := Array.getElem?_eq_some_iff.1 hf
    have hframe : OptionRelated _ i.state.frames[k]? i.state.frames[shifted 1 0 k]? :=
      h.frames.frame k hk
    rw [shifted_zero, hf] at hframe
    rw [hf] at hv
    cases hframe with
    | some related =>
      have hbinding := related.bindings name
      rw [show f.bindings.get? name = some v from hv] at hbinding
      cases hbinding with
      | some related => exact Value.madeWithin_of_related related

/-- An interpreter differs at a name from one that holds any more frames and functions and whose
global frame has any other bindings that are the same up to the name. -/
lemma WellFormed.differsAt (h : i.WellFormed) {bindings : Bindings}
    (hbindings : ∀ name, name ≠ n → bindings.get? name = i.state.frames.local? name globalFrame)
    (more : Frames) (functions : Nat) :
    i.DiffersAt n i.extent ⟨more.size, functions⟩
      { i with state := { i.state with
          frames := i.state.frames.extend bindings more
          functions := i.state.functions + functions } } where
  builtins := rfl
  extent := by
    rw [extent, State.extent, Frames.size_extend]
    rfl
  base_le := le_refl _
  global := h.base_le.1
  frames := by
    have hsize : i.extent.frames = i.state.frames.size := rfl
    refine ⟨fun k => ?_, fun k name hname => ?_⟩
    · rw [hsize, Frames.getElem?_extend, Option.map_map]
      refine Option.map_congr fun f hf => ?_
      have hparent_eq : ∀ g : Frame,
          (if k = globalFrame then { g with bindings } else g).parent = g.parent := by
        intro g
        split <;> rfl
      rw [Function.comp, hparent_eq]
      cases hparent : f.parent with
      | none => rfl
      | some p =>
        have hp : p < i.state.frames.size :=
          Nat.lt_trans (h.frames.ordered k f p hf hparent) (Array.getElem?_eq_some_iff.1 hf).1
        rw [Option.map_some, shifted_of_lt hp]
    · rw [hsize, Frames.local?_extend hbindings hname]
      cases hv : i.state.frames.local? name k with
      | none => rfl
      | some v => rw [Option.map_some, (h.madeWithin_of_local? hv).mapClosures_renumber]

/-- A program that starts in the interpreter comes to the frames that are reached and to those that
it makes. -/
lemma WellFormed.unawareStates (h : i.WellFormed) (differs : i.DiffersAt n base extra i')
    (unmentioned : i.state.frames.Unmentioned n) :
    UnawareStates n (fun k => i.state.frames.Reached n k ∨ i.extent.frames ≤ k) base extra i.extent
      { i.state with printed := "", events := [] } { i'.state with printed := "", events := [] } where
  extent_eq := rfl
  extent_eq' := differs.extent
  base_le := differs.base_le
  ordered := h.frames.ordered
  frames := differs.frames
  confined := by
    refine ⟨fun k hk => .inr hk, fun k f p hk hf hp => ?_, fun k name v hk hname hv f hf => ?_⟩
    · rcases hk with hreached | hnew
      · exact .inl (.parent hreached hf hp)
      · rw [Array.getElem?_eq_none hnew] at hf
        cases hf
    · rcases hk with hreached | hnew
      · obtain ⟨_, hmade, -⟩ := (h.madeWithin_of_local? hv).closures_of_partOf hf
        exact ⟨hmade, .inl (.scope hreached hname hv hf),
          unmentioned k name v f hreached hname hv hf⟩
      · rw [Frames.local?, Array.getElem?_eq_none hnew] at hv
        cases hv
  printed := rfl
  events := rfl

/-! ## Programs that do not mention a name -/

/-- A program that does not mention a name does the same in a reachable interpreter and in one that
differs at the name, if the functions that it reaches do not mention the name: it ends in both or in
neither, with the same result up to the numbers of frames and functions and with the same output,
and the interpreters differ at the name again. -/
theorem run_alike_of_unmentioned {builtins : BuiltinTable}
    (reachable : Relation.ReflTransGen Step (new builtins) i)
    (differs : i.DiffersAt n base extra i') (program : n ∉ p.names)
    (functions : i.state.frames.Unmentioned n) (depth : Nat) :
    OptionRelated (AlikeRuns n base extra) (i.run depth p) (i'.run depth p) := by
  have hstates := (wellFormed_of_steps reachable).unawareStates differs functions
  generalize hlive : (fun k => i.state.frames.Reached n k ∨ i.extent.frames ≤ k) = live at hstates
  have hglobal : live globalFrame := hlive ▸ .inl .global
  have hhosts : (unaware n live base extra).Hosts id (.avoiding n) i.extent globalFrame
      (shifted base.frames extra.frames globalFrame) :=
    unaware.hosts hglobal (Nat.lt_of_lt_of_le differs.global differs.base_le.1)
  rw [shifted_of_lt differs.global] at hhosts
  have hagree : (unaware n live base extra).Agree i.extent (unaware n live base extra).Results
      (evalProgram i.builtins depth p) (evalProgram i.builtins depth p) :=
    Correspondence.evalProgram_agree_self unaware.enterable depth p (withinStmts_avoiding program)
      hhosts
  have houtcomes := hagree _ (le_refl _) _ _ hstates
  have hprogram : evalProgram i'.builtins depth p = evalProgram i.builtins depth p := by
    rw [differs.builtins]
  unfold run perform
  rw [hprogram]
  generalize evalProgram i.builtins depth p _ = o at houtcomes ⊢
  generalize evalProgram i.builtins depth p _ = o' at houtcomes ⊢
  have hnext : ∀ {w s s'}, UnawareStates n live base extra w s s' →
      DiffersAt n base extra { i with state := s } { i' with state := s' } ∧
        s.frames.Unmentioned n := by
    intro w s s' hs
    obtain rfl := hs.extent_eq
    exact ⟨⟨differs.builtins, hs.extent_eq', hs.base_le, differs.global, hs.frames⟩,
      hs.confined.unmentioned hglobal⟩
  cases houtcomes with
  | value _ states related =>
    obtain ⟨hdiffers, hunmentioned⟩ := hnext states
    exact .some ⟨related.eq_map unaware.eq_of_values fun _ => rfl, related.display_eq,
      states.printed, hdiffers, hunmentioned⟩
  | signal _ states _ =>
    obtain ⟨hdiffers, hunmentioned⟩ := hnext states
    exact .some ⟨rfl, rfl, states.printed, hdiffers, hunmentioned⟩
  | exhausted => exact .none

/-- A function that adds a global variable, beside a function under another name that was made in a
frame of its own. -/
theorem run_alike_of_unmentioned_sum :
    let a : Ident := ⟨default, "a"⟩
    let x : Ident := ⟨default, "x"⟩
    let sum : Block := .mk default [.exprStmt default (.binary default (.ident a) .plus (.ident x))]
    let call (name : String) (e : Expr) : Expr := .call default (.ident ⟨default, name⟩) [e]
    let p : Program := ⟨[.exprStmt default (call "puts" (call "f" (.integer default 2)))]⟩
    ∃ i i' r r', Relation.ReflTransGen Step (new .standard) i ∧
      i.state.frames.local? "f" globalFrame = some (.function ⟨0, [x], sum, globalFrame⟩) ∧
      i'.state.frames.local? "b" globalFrame = some (.function ⟨2, [x], sum, 1⟩) ∧
      i.DiffersAt "b" i.extent ⟨1, 2⟩ i' ∧ "b" ∉ p.names ∧ i.state.frames.Unmentioned "b" ∧
      i.run 1 p = some r ∧ i'.run 1 p = some r' ∧ r.printed = "3\n" ∧
      AlikeRuns "b" i.extent ⟨1, 2⟩ r r' := by
  intro a x sum call p
  let bindings : Bindings := [("a", .integer 1), ("f", .function ⟨0, [x], sum, globalFrame⟩)]
  let more : Frames := #[⟨[("a", .integer 7)], some globalFrame⟩]
  let i : Interpreter := ⟨.standard, ⟨#[⟨bindings, none⟩], 1, "", []⟩⟩
  let q : Program := ⟨[.letStmt default a (.integer default 1),
    .letStmt default ⟨default, "f"⟩ (.function default [x] sum)]⟩
  have hq : (new .standard).run 0 q =
      some ⟨some (.function ⟨0, [x], sum, globalFrame⟩), "", [], i⟩ := rfl
  have reachable : Relation.ReflTransGen Step (new .standard) i := .single (.program 0 q _ hq)
  have hbindings : ∀ name, name ≠ "b" →
      Bindings.get? name (bindings ++ [("b", .function ⟨2, [x], sum, 1⟩)]) =
        i.state.frames.local? name globalFrame := by
    intro name hname
    have hother : ¬ "b" = name := Ne.symm hname
    have hlocal : i.state.frames.local? name globalFrame = bindings.get? name := rfl
    simp only [hlocal, bindings, List.cons_append, List.nil_append, Bindings.get?, if_neg hother]
  obtain ⟨i', hb, differs⟩ : ∃ i' : Interpreter,
      i'.state.frames.local? "b" globalFrame = some (.function ⟨2, [x], sum, 1⟩) ∧
        i.DiffersAt "b" i.extent ⟨1, 2⟩ i' :=
    ⟨_, rfl, (wellFormed_of_steps reachable).differsAt hbindings more 2⟩
  have hprogram : "b" ∉ p.names := by decide +kernel
  have hunmentioned : i.state.frames.Unmentioned "b" := by
    intro k name v f _ _ hv hf
    obtain _ | k := k
    · have hlocal : bindings.get? name = some v := hv
      simp only [bindings, Bindings.get?] at hlocal
      split at hlocal
      · obtain rfl := Option.some.inj hlocal
        cases hf
      · split at hlocal
        · obtain rfl := Option.some.inj hlocal
          cases hf
          decide +kernel
        · cases hlocal
    · cases hv
  have hprinted : (i.run 1 p).map Run.printed = some "3\n" := by decide +kernel
  obtain ⟨r, hr, hprinted⟩ := Option.map_eq_some_iff.1 hprinted
  have halike := run_alike_of_unmentioned reachable differs hprogram hunmentioned 1
  rw [hr] at halike
  generalize hr' : i'.run 1 p = o at halike
  cases halike with
  | @some _ r' alike =>
    exact ⟨i, i', r, r', reachable, rfl, hb, differs, hprogram, hunmentioned, hr, hr', hprinted,
      alike⟩

end

end Interpreter

end MonkeyLang
