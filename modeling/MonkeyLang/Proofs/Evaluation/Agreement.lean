import Mathlib.Order.Defs.PartialOrder
import MonkeyLang.Evaluation.Basic
import MonkeyLang.Proofs.Evaluation.Relation
import MonkeyLang.Proofs.Syntax.Tokens

/-!
# Evaluations that agree

A `Correspondence` relates the states of two runs.  It depends on a world, which grows as frames
and functions are made, and with it the relation between functions.  Two evaluations agree if from
related states they end in the same way: both with related values, both with related signals, or
both with their bound used up, and in related states again, in a larger world.

The main theorem is that evaluation agrees with itself.  The same tree, possibly with other tokens,
is evaluated in two frames, and all that has to be shown of the correspondence is what the tree
does with its frame: look-ups, bindings and the making of functions (`Hosts`).  Calls need in
addition that related functions can be entered (`Enterable`).

A statement about one run is a statement about two equal runs.
-/

namespace MonkeyLang

/-! ## What code does with its frame -/

/-- What code may do in the frame that it runs in. -/
structure Allowance where
  /-- The names that it may look up. -/
  looks : String → Prop
  /-- The names that it may bind. -/
  binds : String → Prop
  /-- The functions that it may make. -/
  makes : List Ident → Block → Prop

/-- Nothing is forbidden. -/
def Allowance.all : Allowance := ⟨fun _ => True, fun _ => True, fun _ _ => True⟩

mutual

/-- The expression does no more than allowed in its frame.  The bodies of functions run in frames
of their own. -/
def Expr.Within (a : Allowance) : Expr → Prop
  | .ident id => a.looks id.name
  | .boolean _ _ | .integer _ _ | .string _ _ => True
  | .unary _ _ operand => operand.Within a
  | .binary _ left _ right => left.Within a ∧ right.Within a
  | .conditional _ condition consequence alternative =>
    condition.Within a ∧ consequence.Within a ∧ WithinAlternative a alternative
  | .function _ parameters body => a.makes parameters body
  | .call _ callee arguments => callee.Within a ∧ WithinExprs a arguments
  | .array _ elements => WithinExprs a elements
  | .index _ base position => base.Within a ∧ position.Within a
  | .hash _ pairs => WithinPairs a pairs

def WithinAlternative (a : Allowance) : Option Block → Prop
  | none => True
  | some block => block.Within a

def WithinExprs (a : Allowance) : List Expr → Prop
  | [] => True
  | e :: es => e.Within a ∧ WithinExprs a es

def WithinPairs (a : Allowance) : List (Expr × Expr) → Prop
  | [] => True
  | (key, value) :: pairs => key.Within a ∧ value.Within a ∧ WithinPairs a pairs

def Stmt.Within (a : Allowance) : Stmt → Prop
  | .letStmt _ name value => value.Within a ∧ a.binds name.name
  | .returnStmt _ value | .exprStmt _ value => value.Within a

def Block.Within (a : Allowance) : Block → Prop
  | .mk _ statements => WithinStmts a statements

def WithinStmts (a : Allowance) : List Stmt → Prop
  | [] => True
  | s :: ss => s.Within a ∧ WithinStmts a ss

end

mutual

lemma Expr.within_all : ∀ e : Expr, e.Within .all
  | .ident _ | .boolean _ _ | .integer _ _ | .string _ _ | .function _ _ _ => trivial
  | .unary _ _ operand => operand.within_all
  | .binary _ left _ right => ⟨left.within_all, right.within_all⟩
  | .conditional _ condition consequence alternative =>
    ⟨condition.within_all, consequence.within_all, withinAlternative_all alternative⟩
  | .call _ callee arguments => ⟨callee.within_all, withinExprs_all arguments⟩
  | .array _ elements => withinExprs_all elements
  | .index _ base position => ⟨base.within_all, position.within_all⟩
  | .hash _ pairs => withinPairs_all pairs

lemma withinAlternative_all : ∀ b : Option Block, WithinAlternative .all b
  | none => trivial
  | some block => block.within_all

lemma withinExprs_all : ∀ es : List Expr, WithinExprs .all es
  | [] => trivial
  | e :: es => ⟨e.within_all, withinExprs_all es⟩

lemma withinPairs_all : ∀ ps : List (Expr × Expr), WithinPairs .all ps
  | [] => trivial
  | (key, value) :: pairs => ⟨key.within_all, value.within_all, withinPairs_all pairs⟩

lemma Stmt.within_all : ∀ s : Stmt, s.Within .all
  | .letStmt _ _ value => ⟨value.within_all, trivial⟩
  | .returnStmt _ value | .exprStmt _ value => value.within_all

lemma Block.within_all : ∀ b : Block, b.Within .all
  | .mk _ statements => withinStmts_all statements

lemma withinStmts_all : ∀ ss : List Stmt, WithinStmts .all ss
  | [] => trivial
  | s :: ss => ⟨s.within_all, withinStmts_all ss⟩

end

/-! ## Correspondences -/

/-- A relation between the states of two runs, in worlds that grow. -/
structure Correspondence (W : Type) [Preorder W] where
  leaves : W → Leaves
  state : W → State → State → Prop
  closures_mono : ∀ {w w' f g}, w ≤ w' → (leaves w).closures f g → (leaves w').closures f g
  errors_mono : ∀ {w w' e}, w ≤ w' → (leaves w).errors e → (leaves w').errors e
  display_eq : ∀ {w f g}, (leaves w).closures f g → f.display = g.display
  note : ∀ {w s s'} (e : Log.Event), state w s s' → state w (s.note e) (s'.note e)
  print : ∀ {w s s'} (text : String), state w s s' →
    state w { s with printed := s.printed ++ text } { s' with printed := s'.printed ++ text }

namespace Correspondence

variable {W : Type} [Preorder W] (C : Correspondence W) {α β α' β' : Type} {w w' : W}

/-- Values that are related in a world. -/
def values (w : W) (v v' : Value) : Prop := v.Related (C.leaves w) v'

lemma values_mono (h : w ≤ w') {v v' : Value} (hv : C.values w v v') : C.values w' v v' :=
  Value.Related.mono (fun _ _ => C.closures_mono h) (fun _ => C.errors_mono h) hv

/-- Lists of values that are related in a world. -/
def lists (w : W) (vs vs' : List Value) : Prop := RelatedElements (C.leaves w) vs vs'

lemma lists_mono (h : w ≤ w') {vs vs' : List Value} (hvs : C.lists w vs vs') :
    C.lists w' vs vs' :=
  RelatedElements.mono (fun _ _ => C.closures_mono h) (fun _ => C.errors_mono h) hvs

/-- Tables that are related in a world. -/
def tables (w : W) (es es' : HashTable Value) : Prop := RelatedEntries (C.leaves w) es es'

lemma tables_mono (h : w ≤ w') {es es' : HashTable Value} (hes : C.tables w es es') :
    C.tables w' es es' :=
  RelatedEntries.mono (fun _ _ => C.closures_mono h) (fun _ => C.errors_mono h) hes

/-- Signals that are related in a world. -/
inductive Signals (w : W) : Signal → Signal → Prop where
  | returned {v v' : Value} (related : C.values w v v') : Signals w (.returned v) (.returned v')
  | failed {e : RuntimeError} : Signals w (.failed e) (.failed e)

/-- The outcomes are of one kind, with related parts in related states of a larger world. -/
inductive Outcomes (w : W) (Q : W → α → β → Prop) : Outcome α → Outcome β → Prop where
  | value {w' : W} {a : α} {b : β} {s s' : State} (larger : w ≤ w') (states : C.state w' s s')
      (related : Q w' a b) : Outcomes w Q (.value a s) (.value b s')
  | signal {w' : W} {sig sig' : Signal} {s s' : State} (larger : w ≤ w')
      (states : C.state w' s s') (related : C.Signals w' sig sig') :
      Outcomes w Q (.signal sig s) (.signal sig' s')
  | exhausted : Outcomes w Q .exhausted .exhausted

/-- From related states of any larger world the two evaluations have related outcomes. -/
def Agree (w : W) (Q : W → α → β → Prop) (m : Eval α) (m' : Eval β) : Prop :=
  ∀ w', w ≤ w' → ∀ s s', C.state w' s s' → C.Outcomes w' Q (m s) (m' s')

variable {C} {Q : W → α → β → Prop} {R : W → α' → β' → Prop} {m : Eval α} {m' : Eval β}

lemma Outcomes.of_le {o : Outcome α} {o' : Outcome β} (hle : w ≤ w')
    (h : C.Outcomes w' Q o o') : C.Outcomes w Q o o' := by
  cases h with
  | value larger states related => exact .value (le_trans hle larger) states related
  | signal larger states related => exact .signal (le_trans hle larger) states related
  | exhausted => exact .exhausted

/-! ## Combinators -/

namespace Agree

lemma mono (hle : w ≤ w') (h : C.Agree w Q m m') : C.Agree w' Q m m' :=
  fun w₁ hw₁ => h w₁ (le_trans hle hw₁)

lemma imp {R : W → α → β → Prop} (h : C.Agree w Q m m') (hR : ∀ w' a b, Q w' a b → R w' a b) :
    C.Agree w R m m' := by
  intro w₁ hw₁ s s' hs
  have hm := h w₁ hw₁ s s' hs
  generalize m s = o at hm ⊢
  generalize m' s' = o' at hm ⊢
  cases hm with
  | value larger states related => exact .value larger states (hR _ _ _ related)
  | signal larger states related => exact .signal larger states related
  | exhausted => exact .exhausted

lemma pure {a : α} {b : β} (h : ∀ w', w ≤ w' → Q w' a b) :
    C.Agree w Q (Pure.pure a) (Pure.pure b) :=
  fun w' hw' _ _ hs => .value (le_refl w') hs (h w' hw')

lemma bind {f : α → Eval α'} {f' : β → Eval β'} (h : C.Agree w Q m m')
    (hf : ∀ w', w ≤ w' → ∀ a b, Q w' a b → C.Agree w' R (f a) (f' b)) :
    C.Agree w R (m >>= f) (m' >>= f') := by
  intro w₁ hw₁ s s' hs
  have hm := h w₁ hw₁ s s' hs
  rw [Eval.bind_apply, Eval.bind_apply]
  generalize m s = o at hm ⊢
  generalize m' s' = o' at hm ⊢
  cases hm with
  | @value w₂ a b t t' larger states related =>
    have hrest := hf w₂ (le_trans hw₁ larger) a b related w₂ (le_refl w₂) t t' states
    exact hrest.of_le larger
  | signal larger states related => exact .signal larger states related
  | exhausted => exact .exhausted

lemma raise {sig sig' : Signal} (h : ∀ w', w ≤ w' → C.Signals w' sig sig') :
    C.Agree w Q (Eval.raise sig) (Eval.raise sig') :=
  fun w' hw' _ _ hs => .signal (le_refl w') hs (h w' hw')

lemma exhausted : C.Agree w Q Eval.exhausted Eval.exhausted :=
  fun _ _ _ _ _ => .exhausted

/-- Computations without effects agree if their results are related. -/
lemma ofExcept {P : α → β → Prop} {x : Except RuntimeError α} {y : Except RuntimeError β}
    (h : ExceptRelated P x y) (hP : ∀ a b, P a b → ∀ w', w ≤ w' → Q w' a b) :
    C.Agree w Q (Eval.ofExcept x) (Eval.ofExcept y) := by
  cases h with
  | ok related => exact Agree.pure (hP _ _ related)
  | error => exact Agree.raise fun _ _ => .failed

lemma note (e : Log.Event) : C.Agree w (fun _ _ _ => True) (Eval.note e) (Eval.note e) :=
  fun w' _ _ _ hs => .value (le_refl w') (C.note e hs) trivial

lemma print (text : String) :
    C.Agree w (fun _ _ _ => True) (Eval.print text) (Eval.print text) :=
  fun w' _ _ _ hs => .value (le_refl w') (C.print text hs) trivial

/-- An operation with related results. -/
lemma ofOperation {x y : Except RuntimeError Value}
    (h : ExceptRelated (Value.Related (C.leaves w)) x y) :
    C.Agree w C.values (Eval.ofExcept x) (Eval.ofExcept y) :=
  ofExcept h fun _ _ hv _ hw => C.values_mono hw hv

lemma catchReturn {m m' : Eval Value} (h : C.Agree w C.values m m') :
    C.Agree w C.values (Eval.catchReturn m) (Eval.catchReturn m') := by
  intro w₁ hw₁ s s' hs
  have hm := h w₁ hw₁ s s' hs
  unfold Eval.catchReturn
  generalize m s = o at hm ⊢
  generalize m' s' = o' at hm ⊢
  cases hm with
  | value larger states related => exact .value larger states related
  | signal larger states related =>
    cases related with
    | returned related => exact .value larger states related
    | failed => exact .signal larger states .failed
  | exhausted => exact .exhausted

end Agree

/-! ## Standard functions -/

/-- An operation on the only argument, which has to be an array. -/
lemma agree_array_operation (p : Primitive) {f : List Value → Value} {args args' : List Value}
    (h : C.lists w args args')
    (hf : ∀ vs vs', C.lists w vs vs' → C.values w (f vs) (f vs')) :
    C.Agree w C.values
      (.ofExcept do return f (← p.requireArray (← Primitive.oneArgument args)))
      (.ofExcept do return f (← p.requireArray (← Primitive.oneArgument args'))) := by
  refine .ofOperation ((Primitive.oneArgument_related h).bind fun v v' hv => ?_)
  exact (p.requireArray_related hv).bind fun vs vs' hvs => .ok (hf vs vs' hvs)

lemma agree_primitive (p : Primitive) {args args' : List Value} (h : C.lists w args args') :
    C.Agree w C.values (p.call args) (p.call args') := by
  cases p with
  | len =>
    exact .ofOperation ((Primitive.oneArgument_related h).bind fun _ _ hv =>
      Primitive.length_related hv)
  | puts =>
    rw [Primitive.call, Primitive.call, Primitive.lines_eq (fun _ _ => C.display_eq) h]
    exact (Agree.print _).bind fun _ _ _ _ _ => Agree.pure fun _ _ => .null
  | first =>
    refine agree_array_operation .first h fun vs vs' hvs => ?_
    rw [List.head?_eq_getElem?, List.head?_eq_getElem?]
    exact (hvs.getElem? 0).getD_null
  | last => exact agree_array_operation .last h fun vs vs' hvs => hvs.getLast?.getD_null
  | rest => exact agree_array_operation .rest h fun vs vs' hvs => Primitive.tail_related hvs
  | push =>
    match args, args', h with
    | [_, _], [_, _], .cons hv (.cons hx .nil) =>
      exact .ofOperation ((Primitive.push.requireArray_related hv).bind fun _ _ hvs =>
        .ok (.array (hvs.append (.cons hx .nil))))
    | [], [], _ | [_], [_], _ => exact Agree.raise fun _ _ => .failed
    | _ :: _ :: _ :: _, _ :: _ :: _ :: _, .cons _ (.cons _ (.cons _ hvs)) =>
      simp only [Primitive.call, List.length_cons, hvs.length_eq]
      exact Agree.raise fun _ _ => .failed

/-! ## Frames that code runs in -/

/-- What code does in one frame of the first run agrees with what the same code, with other tokens,
does in a frame of the second. -/
structure Hosts (C : Correspondence W) (rename : Token → Token) (a : Allowance) (w : W)
    (i i' : FrameId) : Prop where
  lookup : ∀ name, a.looks name →
    C.Agree w (fun w' => OptionRelated (C.values w')) (Eval.lookup i name) (Eval.lookup i' name)
  assign : ∀ name, a.binds name → ∀ w', w ≤ w' → ∀ v v', C.values w' v v' →
    C.Agree w' (fun _ _ _ => True) (Eval.assign i name v) (Eval.assign i' name v')
  make : ∀ parameters body, a.makes parameters body →
    C.Agree w C.values (Eval.makeFunction parameters body i)
      (Eval.makeFunction (parameters.map (Ident.mapTokens rename)) (body.mapTokens rename) i')

lemma Hosts.mono {rename : Token → Token} {a : Allowance} {i i' : FrameId} (hle : w ≤ w')
    (h : C.Hosts rename a w i i') : C.Hosts rename a w' i i' where
  lookup name hname := (h.lookup name hname).mono hle
  assign name hname w₁ hw₁ := h.assign name hname w₁ (le_trans hle hw₁)
  make parameters body hmakes := (h.make parameters body hmakes).mono hle

/-- Calls agree in every world that is large enough for the called values and the arguments. -/
def CallsAgree (C : Correspondence W) (call call' : Value → List Value → Eval Value) : Prop :=
  ∀ w f f' args args', C.values w f f' → C.lists w args args' →
    C.Agree w C.values (call f args) (call' f' args')

/-! ## Evaluation -/

section

variable {table : BuiltinTable} {call call' : Value → List Value → Eval Value}
  {rename : Token → Token} {a : Allowance} {i i' : FrameId}

lemma evalName_agree {name : String} (hname : a.looks name) (hosts : C.Hosts rename a w i i') :
    C.Agree w C.values (evalName table name i) (evalName table name i') := by
  refine (hosts.lookup name hname).bind fun w₁ _ o o' ho => ?_
  cases ho with
  | some related => exact Agree.pure fun _ hw => C.values_mono hw related
  | none =>
    simp only
    cases table.find? name with
    | some b => exact (Agree.note _).bind fun _ _ _ _ _ => Agree.pure fun _ _ => .builtin
    | none => exact Agree.raise fun _ _ => .failed

/-- Branches are chosen alike. -/
lemma agree_ite {v v' : Value} {m n m' n' : Eval Value} (hv : C.values w v v')
    (hm : C.Agree w C.values m m') (hn : C.Agree w C.values n n') :
    C.Agree w C.values (if v.isTruthy then m else n) (if v'.isTruthy then m' else n') := by
  rw [hv.isTruthy_eq]
  split
  · exact hm
  · exact hn

mutual

/-- An expression agrees with itself, with other tokens and in another frame. -/
lemma evalExpr_agree (hcall : C.CallsAgree call call') (e : Expr) {w : W} (ha : e.Within a)
    (hosts : C.Hosts rename a w i i') :
    C.Agree w C.values (evalExpr table call e i)
      (evalExpr table call' (e.mapTokens rename) i') := by
  match e with
  | .ident id => exact evalName_agree ha hosts
  | .boolean _ _ => exact Agree.pure fun _ _ => .boolean
  | .integer _ _ => exact Agree.pure fun _ _ => .integer
  | .string _ _ => exact Agree.pure fun _ _ => .string
  | .unary _ op operand =>
    rw [Expr.mapTokens, evalExpr, evalExpr]
    refine (evalExpr_agree hcall operand ha hosts).bind fun w₁ _ v v' hv => ?_
    exact .ofOperation (op.apply_related hv)
  | .binary _ left op right =>
    rw [Expr.mapTokens, evalExpr, evalExpr]
    refine (evalExpr_agree hcall left ha.1 hosts).bind fun w₁ hw₁ l l' hl => ?_
    refine (evalExpr_agree hcall right ha.2 (hosts.mono hw₁)).bind fun w₂ hw₂ r r' hr => ?_
    exact .ofOperation (op.apply_related (C.values_mono hw₂ hl) hr)
  | .conditional _ condition consequence alternative =>
    obtain ⟨hcondition, hconsequence, halternative⟩ := ha
    rw [Expr.mapTokens, evalExpr, evalExpr]
    refine (evalExpr_agree hcall condition hcondition hosts).bind fun w₁ hw₁ v v' hv => ?_
    exact agree_ite hv (evalBlock_agree hcall consequence hconsequence (hosts.mono hw₁))
      (evalAlternative_agree hcall alternative halternative (hosts.mono hw₁))
  | .function _ parameters body =>
    rw [Expr.mapTokens, evalExpr, evalExpr]
    exact hosts.make parameters body ha
  | .call _ callee arguments =>
    rw [Expr.mapTokens, evalExpr, evalExpr]
    refine (evalExpr_agree hcall callee ha.1 hosts).bind fun w₁ hw₁ f f' hf => ?_
    refine (evalExprs_agree hcall arguments ha.2 (hosts.mono hw₁)).bind
      fun w₂ hw₂ args args' hargs => ?_
    exact hcall w₂ f f' args args' (C.values_mono hw₂ hf) hargs
  | .array _ elements =>
    rw [Expr.mapTokens, evalExpr, evalExpr]
    refine (evalExprs_agree hcall elements ha hosts).bind fun w₁ _ vs vs' hvs => ?_
    exact Agree.pure fun w₂ hw₂ => .array (C.lists_mono hw₂ hvs)
  | .index _ base position =>
    rw [Expr.mapTokens, evalExpr, evalExpr]
    refine (evalExpr_agree hcall base ha.1 hosts).bind fun w₁ hw₁ b b' hb => ?_
    refine (evalExpr_agree hcall position ha.2 (hosts.mono hw₁)).bind fun w₂ hw₂ p p' hp => ?_
    exact .ofOperation (Value.index_related (C.values_mono hw₂ hb) hp)
  | .hash _ pairs =>
    rw [Expr.mapTokens, evalExpr, evalExpr]
    refine (evalPairs_agree hcall pairs ha hosts .nil).bind fun w₁ _ es es' hes => ?_
    exact Agree.pure fun w₂ hw₂ => .hash (C.tables_mono hw₂ hes)

lemma evalAlternative_agree (hcall : C.CallsAgree call call') (b : Option Block) {w : W}
    (ha : WithinAlternative a b) (hosts : C.Hosts rename a w i i') :
    C.Agree w C.values (evalAlternative table call b i)
      (evalAlternative table call' (mapTokensAlternative rename b) i') := by
  match b with
  | none => exact Agree.pure fun _ _ => .null
  | some block =>
    rw [mapTokensAlternative, evalAlternative, evalAlternative]
    exact evalBlock_agree hcall block ha hosts

lemma evalExprs_agree (hcall : C.CallsAgree call call') (es : List Expr) {w : W}
    (ha : WithinExprs a es) (hosts : C.Hosts rename a w i i') :
    C.Agree w C.lists (evalExprs table call es i)
      (evalExprs table call' (mapTokensExprs rename es) i') := by
  match es with
  | [] => exact Agree.pure fun _ _ => .nil
  | e :: es =>
    rw [mapTokensExprs, evalExprs, evalExprs]
    refine (evalExpr_agree hcall e ha.1 hosts).bind fun w₁ hw₁ v v' hv => ?_
    refine (evalExprs_agree hcall es ha.2 (hosts.mono hw₁)).bind fun w₂ hw₂ vs vs' hvs => ?_
    exact Agree.pure fun w₃ hw₃ =>
      .cons (C.values_mono (le_trans hw₂ hw₃) hv) (C.lists_mono hw₃ hvs)

lemma evalPairs_agree (hcall : C.CallsAgree call call') (pairs : List (Expr × Expr)) {w : W}
    (ha : WithinPairs a pairs) (hosts : C.Hosts rename a w i i') {es es' : HashTable Value}
    (hes : C.tables w es es') :
    C.Agree w C.tables (evalPairs table call pairs i es)
      (evalPairs table call' (mapTokensPairs rename pairs) i' es') := by
  match pairs with
  | [] => exact Agree.pure fun _ hw => C.tables_mono hw hes
  | (key, value) :: pairs =>
    obtain ⟨hkey, hvalue, hpairs⟩ := ha
    rw [mapTokensPairs, evalPairs, evalPairs]
    refine (evalExpr_agree hcall key hkey hosts).bind fun w₁ hw₁ k k' hk => ?_
    rw [hk.requireHashKey_eq]
    refine (Agree.ofExcept (ExceptRelated.refl_eq _) fun _ _ h _ _ => h).bind
      (fun w₂ hw₂ hashKey hashKey' hhash => ?_)
    have hosts₂ := hosts.mono (le_trans hw₁ hw₂)
    refine (evalExpr_agree hcall value hvalue hosts₂).bind fun w₃ hw₃ v v' hv => ?_
    refine evalPairs_agree hcall pairs hpairs (hosts₂.mono hw₃) ?_
    exact (C.tables_mono (le_trans hw₁ (le_trans hw₂ hw₃)) hes).insert hhash
      (C.values_mono (le_trans hw₂ hw₃) hk) hv

lemma evalStmt_agree (hcall : C.CallsAgree call call') (s : Stmt) {w : W} (ha : s.Within a)
    (hosts : C.Hosts rename a w i i') :
    C.Agree w C.values (evalStmt table call s i)
      (evalStmt table call' (s.mapTokens rename) i') := by
  match s with
  | .letStmt _ name value =>
    rw [Stmt.mapTokens, evalStmt, evalStmt]
    refine (evalExpr_agree hcall value ha.1 hosts).bind fun w₁ hw₁ v v' hv => ?_
    refine (hosts.assign name.name ha.2 w₁ hw₁ v v' hv).bind fun w₂ hw₂ _ _ _ => ?_
    exact Agree.pure fun w₃ hw₃ => C.values_mono (le_trans hw₂ hw₃) hv
  | .returnStmt _ value =>
    rw [Stmt.mapTokens, evalStmt, evalStmt]
    refine (evalExpr_agree hcall value ha hosts).bind fun w₁ _ v v' hv => ?_
    exact Agree.raise fun w₂ hw₂ => .returned (C.values_mono hw₂ hv)
  | .exprStmt _ value =>
    rw [Stmt.mapTokens, evalStmt, evalStmt]
    exact evalExpr_agree hcall value ha hosts

lemma evalBlock_agree (hcall : C.CallsAgree call call') (b : Block) {w : W} (ha : b.Within a)
    (hosts : C.Hosts rename a w i i') :
    C.Agree w C.values (evalBlock table call b i)
      (evalBlock table call' (b.mapTokens rename) i') := by
  match b with
  | .mk _ statements =>
    rw [Block.mapTokens, evalBlock, evalBlock]
    refine (evalStmts_agree hcall statements ha hosts .none).bind fun w₁ _ o o' ho => ?_
    exact Agree.pure fun w₂ hw₂ => C.values_mono hw₂ ho.getD_null

lemma evalStmts_agree (hcall : C.CallsAgree call call') (ss : List Stmt) {w : W}
    (ha : WithinStmts a ss) (hosts : C.Hosts rename a w i i') {last last' : Option Value}
    (hlast : OptionRelated (C.values w) last last') :
    C.Agree w (fun w' => OptionRelated (C.values w')) (evalStmts table call ss i last)
      (evalStmts table call' (mapTokensStmts rename ss) i' last') := by
  match ss with
  | [] =>
    refine Agree.pure fun w₁ hw₁ => ?_
    exact hlast.imp fun _ _ => C.values_mono hw₁
  | s :: ss =>
    rw [mapTokensStmts, evalStmts, evalStmts]
    refine (evalStmt_agree hcall s ha.1 hosts).bind fun w₁ hw₁ v v' hv => ?_
    exact evalStmts_agree hcall ss ha.2 (hosts.mono hw₁) (.some hv)

end

end

/-! ## Calls -/

/-- Related functions have the same body, and it may run in the frames that calls make for it. -/
def Enterable (C : Correspondence W) (rename : Token → Token) : Prop :=
  ∀ w f f', (C.leaves w).closures f f' →
    f'.parameters = f.parameters.map (Ident.mapTokens rename) ∧
    f'.body = f.body.mapTokens rename ∧
    ∃ a : Allowance, f.body.Within a ∧ (∀ p ∈ f.parameters, a.binds p.name) ∧
      C.Agree w (fun w' => C.Hosts rename a w') (Eval.enter f.scope) (Eval.enter f'.scope)

section

variable {table : BuiltinTable} {rename : Token → Token} {a : Allowance} {i i' : FrameId}

/-- Parameters are bound to related arguments. -/
lemma bindParameters_agree (parameters : List Ident) {w : W} {args args' : List Value}
    (hparameters : ∀ p ∈ parameters, a.binds p.name) (hosts : C.Hosts rename a w i i')
    (hargs : C.lists w args args') :
    C.Agree w (fun _ _ _ => True) (bindParameters i parameters args)
      (bindParameters i' (parameters.map (Ident.mapTokens rename)) args') := by
  induction parameters generalizing w args args' with
  | nil => exact Agree.pure fun _ _ => trivial
  | cons p ps ih =>
    cases hargs with
    | nil => exact Agree.pure fun _ _ => trivial
    | cons first others =>
      have hp := hparameters p List.mem_cons_self
      refine (hosts.assign p.name hp w (le_refl w) _ _ first).bind fun w₁ hw₁ _ _ _ => ?_
      exact ih (fun q hq => hparameters q (List.mem_cons_of_mem p hq)) (hosts.mono hw₁)
        (C.lists_mono hw₁ others)

/-- Calls agree at every bound on their nesting. -/
theorem apply_agree (henter : C.Enterable rename) (depth : Nat) :
    C.CallsAgree (apply table depth) (apply table depth) := by
  -- Calls of anything but functions do not depend on the bound.
  have hother : ∀ depth w f f' args args', (∀ g, f ≠ .function g) → C.values w f f' →
      C.lists w args args' →
      C.Agree w C.values (apply table depth f args) (apply table depth f' args') := by
    intro depth w f f' args args' hne hf hargs
    cases hf with
    | function => exact absurd rfl (hne _)
    | builtin =>
      rw [apply, apply]
      exact (Agree.note _).bind fun w₁ hw₁ _ _ _ => agree_primitive _ (C.lists_mono hw₁ hargs)
    | _ =>
      rw [apply, apply]
      · exact Agree.raise fun _ _ => .failed
      all_goals simp
  induction depth with
  | zero =>
    intro w f f' args args' hf hargs
    by_cases hfun : ∀ g, f ≠ .function g
    · exact hother 0 w f f' args args' hfun hf hargs
    · cases hf with
      | function =>
        rw [apply, apply]
        exact Agree.exhausted
      | _ => exact absurd (by simp) hfun
  | succ depth ih =>
    intro w f f' args args' hf hargs
    by_cases hfun : ∀ g, f ≠ .function g
    · exact hother (depth + 1) w f f' args args' hfun hf hargs
    · cases hf with
      | function closures =>
        obtain ⟨hparameters, hbody, a, hwithin, hbinds, hentered⟩ := henter w _ _ closures
        rw [apply, apply, hparameters, hbody]
        refine Agree.catchReturn ((Agree.note _).bind fun w₁ hw₁ _ _ _ => ?_)
        refine (hentered.mono hw₁).bind fun w₂ hw₂ i i' hosts => ?_
        have hargs₂ := C.lists_mono (le_trans hw₁ hw₂) hargs
        refine (bindParameters_agree _ hbinds hosts hargs₂).bind fun w₃ hw₃ _ _ _ => ?_
        exact evalBlock_agree ih _ hwithin (hosts.mono hw₃)
      | _ => exact absurd (by simp) hfun

end

/-! ## Programs -/

/-- A result of a program: a value, or the error that it failed with. -/
inductive Results (C : Correspondence W) (w : W) : Option Value → Option Value → Prop where
  | none : C.Results w none none
  | some {v v' : Value} (related : C.values w v v') : C.Results w (some v) (some v')
  | failed {e : RuntimeError} : C.Results w (some (.error e)) (some (.error e))

/-- Results are printed alike. -/
lemma Results.display_eq {o o' : Option Value} (h : C.Results w o o') :
    o'.map Value.display = o.map Value.display := by
  cases h with
  | none => rfl
  | some related =>
    rw [Option.map_some, Option.map_some, related.display_eq fun _ _ => C.display_eq]
  | failed => rfl

/-- If related values are determined by one another, so are results. -/
lemma Results.eq_map {o o' : Option Value} {f : Value → Value} (h : C.Results w o o')
    (hvalues : ∀ {v v'}, C.values w v v' → v' = f v) (herror : ∀ e, f (.error e) = .error e) :
    o' = o.map f := by
  cases h with
  | none => rfl
  | some related => rw [hvalues related, Option.map_some]
  | failed => rw [Option.map_some, herror]

lemma settle_agree {m m' : Eval (Option Value)}
    (h : C.Agree w (fun w' => OptionRelated (C.values w')) m m') :
    C.Agree w C.Results (settle m) (settle m') := by
  intro w₁ hw₁ s s' hs
  have hm := h w₁ hw₁ s s' hs
  unfold settle
  generalize m s = o at hm ⊢
  generalize m' s' = o' at hm ⊢
  cases hm with
  | value larger states related =>
    refine .value larger states ?_
    cases related with
    | none => exact .none
    | some related => exact .some related
  | signal larger states related =>
    cases related with
    | returned related => exact .value larger states (.some related)
    | failed => exact .value larger (C.note .runtimeError states) .failed
  | exhausted => exact .exhausted

/-- A program agrees with itself, with other tokens, if it may run in the global frames. -/
theorem evalProgram_agree {table : BuiltinTable} {rename : Token → Token} {a : Allowance}
    (henter : C.Enterable rename) (depth : Nat) (p : Program) (ha : WithinStmts a p.statements)
    (hosts : C.Hosts rename a w globalFrame globalFrame) :
    C.Agree w C.Results (evalProgram table depth p)
      (evalProgram table depth (p.mapTokens rename)) :=
  settle_agree (evalStmts_agree (apply_agree henter depth) p.statements ha hosts .none)

/-- A program agrees with itself, if it may run in the global frames. -/
lemma evalProgram_agree_self {table : BuiltinTable} {a : Allowance} (henter : C.Enterable id)
    (depth : Nat) (p : Program) (ha : WithinStmts a p.statements)
    (hosts : C.Hosts id a w globalFrame globalFrame) :
    C.Agree w C.Results (evalProgram table depth p) (evalProgram table depth p) := by
  have hagree : C.Agree w C.Results (evalProgram table depth p)
      (evalProgram table depth (p.mapTokens id)) := evalProgram_agree henter depth p ha hosts
  rwa [Program.mapTokens_id] at hagree

end Correspondence

end MonkeyLang
