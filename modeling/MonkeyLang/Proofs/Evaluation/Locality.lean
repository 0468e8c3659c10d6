import Mathlib.Order.Nat
import MonkeyLang.Proofs.Evaluation.Agreement
import MonkeyLang.Proofs.Evaluation.Lookup

/-!
# What evaluation writes

Evaluation writes in the frame that it runs in and in frames that it makes, and nowhere else.  The
frames that there were before are compared with those of later states: `Preserved before except
after` allows other bindings in excepted frames only, and other parents nowhere.

This follows from the agreement of an evaluation with itself: two runs from one state are one run,
so a correspondence may hold of a state alone (`keeping`).

A conditional runs the block that it chooses in its own frame, and a `let` that it comes to
(`ReachesLet`) binds its name there.
-/

namespace MonkeyLang

/-! ## Frames that are kept -/

/-- The frames of `before` stand unchanged in `after`, excepted ones with other bindings. -/
structure Preserved (before : Frames) (except : FrameId → Prop) (after : Frames) : Prop where
  size_le : before.size ≤ after.size
  frame : ∀ i, i < before.size → ¬ except i → after[i]? = before[i]?
  parent : ∀ i, i < before.size → (after[i]?).map Frame.parent = (before[i]?).map Frame.parent

namespace Preserved

variable {before after : Frames} {except : FrameId → Prop}

lemma refl (frames : Frames) (except : FrameId → Prop) : Preserved frames except frames where
  size_le := Nat.le_refl _
  frame _ _ _ := rfl
  parent _ _ := rfl

/-- A frame that is excepted or new may be given other bindings. -/
lemma modify (h : Preserved before except after) {i : FrameId}
    (hi : except i ∨ before.size ≤ i) {g : Frame → Frame} (hg : ∀ f, (g f).parent = f.parent) :
    Preserved before except (after.modify i g) where
  size_le := by
    rw [Array.size_modify]
    exact h.size_le
  frame j hj hnot := by
    have hne : i ≠ j := by
      rintro rfl
      rcases hi with hexcept | hnew
      · exact hnot hexcept
      · omega
    rw [Array.getElem?_modify, if_neg hne]
    exact h.frame j hj hnot
  parent j hj := by
    have hparent := h.parent j hj
    rw [Array.getElem?_modify]
    split
    · rw [Option.map_map, Function.comp_def]
      simpa only [hg] using hparent
    · exact hparent

lemma set (h : Preserved before except after) {i : FrameId}
    (hi : except i ∨ before.size ≤ i) (name : String) (v : Value) :
    Preserved before except (after.set i name v) :=
  h.modify hi fun _ => rfl

lemma clear (h : Preserved before except after) {i : FrameId}
    (hi : except i ∨ before.size ≤ i) : Preserved before except (after.clear i) :=
  h.modify hi fun _ => rfl

/-- Frames may be made. -/
lemma push (h : Preserved before except after) (f : Frame) :
    Preserved before except (after.push f) where
  size_le := by
    have hle := h.size_le
    rw [Array.size_push]
    omega
  frame j hj hnot := by
    have hle := h.size_le
    rw [Array.getElem?_push, if_neg (by omega)]
    exact h.frame j hj hnot
  parent j hj := by
    have hle := h.size_le
    rw [Array.getElem?_push, if_neg (by omega)]
    exact h.parent j hj

lemma child (h : Preserved before except after) (parent : FrameId) :
    Preserved before except (after.child parent).2 :=
  h.push ⟨[], some parent⟩

end Preserved

/-! ## One run -/

/-- Writing in some places and making frames leaves the frames as `P` says. -/
structure Stable (P : Frames → Prop) (writable : FrameId → String → Prop) : Prop where
  set : ∀ {frames i name}, P frames → writable i name → ∀ v, P (frames.set i name v)
  child : ∀ {frames}, P frames → ∀ parent, P (frames.child parent).2
  /-- A frame may be written in once it is made. -/
  next : ∀ {frames}, P frames → ∀ name, writable frames.size name

lemma Preserved.stable (before : Frames) (except : FrameId → Prop) :
    Stable (Preserved before except) fun i _ => except i ∨ before.size ≤ i where
  set h hi v := h.set hi _ v
  child h parent := h.child parent
  next h _ := .inr h.size_le

/-- Two runs are one run, whose frames are as `P` says, in whatever world. -/
def keeping (P : Frames → Prop) : Correspondence Nat where
  leaves _ := ⟨Eq, fun _ => True⟩
  state _ s s' := s = s' ∧ P s.frames
  closures_mono _ h := h
  errors_mono _ _ := trivial
  display_eq h := congrArg Closure.display h
  note e h := by
    obtain ⟨rfl, hkept⟩ := h
    refine ⟨rfl, ?_⟩
    unfold State.note
    split <;> exact hkept
  print _ h := by
    obtain ⟨rfl, hkept⟩ := h
    exact ⟨rfl, hkept⟩

namespace keeping

variable {P : Frames → Prop} {writable : FrameId → String → Prop} {w : Nat}

lemma values_refl (v : Value) : (keeping P).values w v v :=
  Value.Related.refl (fun _ => rfl) (fun _ => trivial) v

lemma lists_refl (vs : List Value) : (keeping P).lists w vs vs :=
  RelatedElements.refl (fun _ => rfl) (fun _ => trivial) vs

lemma options_refl (o : Option Value) : OptionRelated ((keeping P).values w) o o := by
  cases o with
  | none => exact .none
  | some v => exact .some (values_refl v)

/-- Code that binds names only where they may be written may run in a frame. -/
lemma hosts (h : Stable P writable) {a : Allowance} {i : FrameId}
    (ha : ∀ name, a.binds name → writable i name) : (keeping P).Hosts id a w i i where
  lookup name _ := by
    rintro _ _ s _ ⟨rfl, hkept⟩
    exact .value (le_refl _) ⟨rfl, hkept⟩ (options_refl _)
  assign name hname := by
    rintro _ _ v v' hv _ _ s _ ⟨rfl, hkept⟩
    obtain rfl : v = v' := Value.Related.eq (fun _ _ h => h) hv
    exact .value (le_refl _) ⟨rfl, h.set hkept (ha name hname) v⟩ trivial
  make parameters body _ := by
    rintro _ _ s _ ⟨rfl, hkept⟩
    rw [Ident.mapTokens_id, List.map_id, Block.mapTokens_id]
    exact .value (le_refl _) ⟨rfl, hkept⟩ (values_refl _)

lemma enterable (h : Stable P writable) : (keeping P).Enterable id := by
  rintro _ f _ rfl
  refine ⟨?_, ?_, .all, f.body.within_all, fun _ _ => trivial, ?_⟩
  · rw [Ident.mapTokens_id, List.map_id]
  · rw [Block.mapTokens_id]
  · rintro _ _ s _ ⟨rfl, hkept⟩
    exact .value (le_refl _) ⟨rfl, h.child hkept f.scope⟩ (hosts h fun name _ => h.next hkept name)

lemma callsAgree (h : Stable P writable) (table : BuiltinTable) (depth : Nat) :
    (keeping P).CallsAgree (apply table depth) (apply table depth) :=
  Correspondence.apply_agree (enterable h) depth

end keeping

/-! ## Evaluation -/

/-- The evaluation ends in a state, with a value or with a signal. -/
def Outcome.EndsIn {α : Type} (o : Outcome α) (s : State) : Prop :=
  (∃ a, o = .value a s) ∨ ∃ sig, o = .signal sig s

section

variable {α : Type} {except : FrameId → Prop} {Q : Nat → α → α → Prop} {m : Eval α}
  {s t : State} {table : BuiltinTable} {depth : Nat} {scope : FrameId}

/-- What an evaluation that agrees with itself keeps holds in the end. -/
lemma kept_of_agree {P : Frames → Prop} (h : (keeping P).Agree 0 Q m m) (hs : P s.frames)
    (hends : (m s).EndsIn t) : P t.frames := by
  have houtcomes := h 0 (le_refl _) s s ⟨rfl, hs⟩
  rcases hends with ⟨a, ha⟩ | ⟨sig, hsig⟩
  · rw [ha] at houtcomes
    cases houtcomes with
    | value _ states => exact states.2
  · rw [hsig] at houtcomes
    cases houtcomes with
    | signal _ states => exact states.2

/-- A call keeps all frames. -/
lemma preserved_apply {f : Value} {args : List Value}
    (hends : (apply table depth f args s).EndsIn t) :
    Preserved s.frames (fun _ => False) t.frames := by
  have hcalls := keeping.callsAgree (Preserved.stable s.frames fun _ => False) table depth
  exact kept_of_agree (hcalls 0 f f args args (keeping.values_refl f) (keeping.lists_refl args))
    (.refl s.frames _) hends

/-- An expression keeps all frames but the one that it is evaluated in. -/
lemma preserved_evalExpr {e : Expr}
    (hends : (evalExpr table (apply table depth) e scope s).EndsIn t) :
    Preserved s.frames (· = scope) t.frames := by
  have hstable := Preserved.stable s.frames (· = scope)
  have hagree : (keeping _).Agree 0 _ _
      (evalExpr table (apply table depth) (e.mapTokens id) scope) :=
    Correspondence.evalExpr_agree (keeping.callsAgree hstable table depth) e e.within_all
      (keeping.hosts hstable fun _ _ => .inl rfl)
  rw [Expr.mapTokens_id] at hagree
  exact kept_of_agree hagree (.refl s.frames _) hends

/-- Statements keep all frames but the one that they stand in. -/
lemma preserved_evalStmts {ss : List Stmt} {last : Option Value}
    (hends : (evalStmts table (apply table depth) ss scope last s).EndsIn t) :
    Preserved s.frames (· = scope) t.frames := by
  have hstable := Preserved.stable s.frames (· = scope)
  have hagree : (keeping _).Agree 0 _ _
      (evalStmts table (apply table depth) (mapTokensStmts id ss) scope last) :=
    Correspondence.evalStmts_agree (keeping.callsAgree hstable table depth) ss
      (withinStmts_all ss) (keeping.hosts hstable fun _ _ => .inl rfl) (keeping.options_refl last)
  rw [mapTokensStmts_id] at hagree
  exact kept_of_agree hagree (.refl s.frames _) hends

end

/-! ## Bindings of blocks -/

/-- Everything is allowed but to bind a name. -/
def Allowance.sparing (name : String) : Allowance := { Allowance.all with binds := (· ≠ name) }

/-- A binding stands as long as the name is not bound again in its frame. -/
lemma stable_local? (i : FrameId) (name : String) (v : Value) :
    Stable (fun frames => frames.local? name i = some v) fun j other => j = i → other ≠ name where
  set h hwritable u := by
    rw [Frames.local?_set_eq, if_neg fun hset => hwritable hset.1 hset.2.1, h]
  child h parent := by rw [Frames.local?_child, h]
  next {frames} h other hi := by
    rw [← hi, Frames.local?, Array.getElem?_eq_none (Nat.le_refl _)] at h
    cases h

/-- A sequence ends with a value if its parts do, one behind the other. -/
lemma Eval.bind_eq_value_iff {α β : Type} {m : Eval α} {f : α → Eval β} {s t : State} {b : β} :
    (m >>= f) s = .value b t ↔ ∃ a s₁, m s = .value a s₁ ∧ f a s₁ = .value b t := by
  rw [Eval.bind_apply]
  cases m s with
  | value a s₁ => simp
  | signal sig s₁ => simp
  | exhausted => simp

lemma Outcome.EndsIn.of_bind_pure {α β : Type} {m : Eval α} {f : α → β} {s t : State}
    (h : ((do return f (← m) : Eval β) s).EndsIn t) : (m s).EndsIn t := by
  rw [Eval.bind_apply] at h
  cases hm : m s with
  | value a s₁ =>
    rw [hm] at h
    rcases h with ⟨b, hb⟩ | ⟨sig, hsig⟩
    · injection hb with _ ht
      exact .inl ⟨a, by rw [ht]⟩
    · cases hsig
  | signal sig s₁ =>
    rw [hm] at h
    rcases h with ⟨b, hb⟩ | ⟨sig', hsig⟩
    · cases hb
    · injection hsig with _ ht
      exact .inr ⟨sig, by rw [ht]⟩
  | exhausted =>
    rw [hm] at h
    rcases h with ⟨b, hb⟩ | ⟨sig, hsig⟩
    · cases hb
    · cases hsig

section

variable {table : BuiltinTable} {call : Value → List Value → Eval Value} {scope : FrameId}

lemma evalStmts_append (ss ts : List Stmt) (last : Option Value) :
    evalStmts table call (ss ++ ts) scope last = (do
      let o ← evalStmts table call ss scope last
      evalStmts table call ts scope o) := by
  induction ss generalizing last with
  | nil => rfl
  | cons s ss ih =>
    rw [List.cons_append, evalStmts, evalStmts, bind_assoc]
    exact bind_congr fun v => ih (some v)

end

section

variable {table : BuiltinTable} {depth : Nat} {scope : FrameId} {s t : State}

/-- Statements that do not bind a name again leave its binding, however they end. -/
lemma local?_of_sparing {ss : List Stmt} {last : Option Value} {name : String} {v : Value}
    (hss : WithinStmts (.sparing name) ss) (hs : s.frames.local? name scope = some v)
    (hends : (evalStmts table (apply table depth) ss scope last s).EndsIn t) :
    t.frames.local? name scope = some v := by
  have hstable := stable_local? scope name v
  let binds (frames : Frames) : Prop := frames.local? name scope = some v
  have hagree : (keeping binds).Agree 0 _ _
      (evalStmts table (apply table depth) (mapTokensStmts id ss) scope last) :=
    Correspondence.evalStmts_agree (keeping.callsAgree hstable table depth) ss hss
      (keeping.hosts hstable fun _ hname _ => hname) (keeping.options_refl last)
  rw [mapTokensStmts_id] at hagree
  exact kept_of_agree hagree hs hends

/-- The block that a conditional goes on with, once its condition has a value. -/
def Block.chosen (v : Value) (consequence : Block) (alternative : Option Block) : Option Block :=
  if v.isTruthy then some consequence else alternative

/-- A conditional does what the chosen block does. -/
lemma evalExpr_conditional {token : Token} {condition : Expr} {consequence b : Block}
    {alternative : Option Block} {c : Value} {s₁ : State}
    (hcondition : evalExpr table (apply table depth) condition scope s = .value c s₁)
    (hchosen : Block.chosen c consequence alternative = some b) :
    evalExpr table (apply table depth) (.conditional token condition consequence alternative)
        scope s =
      (do return (← evalStmts table (apply table depth) b.statements scope none).getD .null :
        Eval Value) s₁ := by
  obtain ⟨_, ss⟩ := b
  rw [evalExpr, Eval.bind_apply, hcondition]
  unfold Block.chosen at hchosen
  split at hchosen
  · next htruthy =>
    obtain rfl := Option.some.inj hchosen
    simp only [if_pos htruthy, evalBlock, Block.statements]
  · next hfalsy =>
    subst hchosen
    simp only [if_neg hfalsy, evalAlternative, evalBlock, Block.statements]

variable (table depth scope s) in
/-- A conditional comes to a `let` of the block that it goes on with: the condition, the statements
before the `let` and the expression of the `let` have values. -/
inductive ReachesLet (condition : Expr) (consequence : Block) (alternative : Option Block)
    (name : String) (v : Value) (rest : List Stmt) : Prop where
  | intro {c : Value} {b : Block} {before : List Stmt} {token : Token} {id : Ident} {value : Expr}
      {o : Option Value} {s₁ s₂ s₃ : State}
      (condition : evalExpr table (apply table depth) condition scope s = .value c s₁)
      (chosen : Block.chosen c consequence alternative = some b)
      (place : b.statements = before ++ .letStmt token id value :: rest)
      (before : evalStmts table (apply table depth) before scope none s₁ = .value o s₂)
      (value : evalExpr table (apply table depth) value scope s₂ = .value v s₃)
      (name : id.name = name)

variable {token : Token} {condition : Expr} {consequence : Block} {alternative : Option Block}
  {name : String} {v : Value} {rest : List Stmt}

/-- A `let` that a conditional comes to binds its name in the frame of the conditional, which the
statements behind it may change only by binding the name again. -/
lemma ReachesLet.local?_eq
    (h : ReachesLet table depth scope s condition consequence alternative name v rest)
    (hscope : scope < s.frames.size) (hrest : WithinStmts (.sparing name) rest)
    (hends : (evalExpr table (apply table depth)
      (.conditional token condition consequence alternative) scope s).EndsIn t) :
    t.frames.local? name scope = some v := by
  obtain ⟨hcondition, hchosen, place, hbefore, hvalue, rfl⟩ := h
  rename_i c b before letToken id value o s₁ s₂ s₃
  have hsize : scope < s₃.frames.size := by
    calc scope < s.frames.size := hscope
      _ ≤ s₁.frames.size := (preserved_evalExpr (.inl ⟨c, hcondition⟩)).size_le
      _ ≤ s₂.frames.size := (preserved_evalStmts (.inl ⟨o, hbefore⟩)).size_le
      _ ≤ s₃.frames.size := (preserved_evalExpr (.inl ⟨v, hvalue⟩)).size_le
  rw [evalExpr_conditional hcondition hchosen, place, evalStmts_append] at hends
  have hstatements := hends.of_bind_pure
  simp only [Eval.bind_apply, hbefore, evalStmts, evalStmt, hvalue, Eval.assign,
    Eval.pure_apply] at hstatements
  refine local?_of_sparing hrest ?_ hstatements
  rw [Frames.local?_set_eq, if_pos ⟨rfl, rfl, hsize⟩]

/-- A block that ends with a value ends with that of its last statement. -/
lemma exists_reachesLet {letToken : Token} {id : Ident} {value : Expr} {before : List Stmt}
    {b : Block} {c : Value} {s₁ : State}
    (hcondition : evalExpr table (apply table depth) condition scope s = .value c s₁)
    (hchosen : Block.chosen c consequence alternative = some b)
    (place : b.statements = before ++ [.letStmt letToken id value])
    (h : evalExpr table (apply table depth)
      (.conditional token condition consequence alternative) scope s = .value v t) :
    ReachesLet table depth scope s condition consequence alternative id.name v [] := by
  rw [evalExpr_conditional hcondition hchosen, place, evalStmts_append] at h
  simp only [bind_assoc] at h
  obtain ⟨o, s₂, hbefore, h⟩ := Eval.bind_eq_value_iff.1 h
  simp only [evalStmts, evalStmt, bind_assoc, pure_bind] at h
  obtain ⟨u, s₃, hvalue, h⟩ := Eval.bind_eq_value_iff.1 h
  obtain rfl : u = v := by
    injection h
  exact .intro hcondition hchosen place hbefore hvalue rfl

end

/-! ## Locality -/

/-- A call that ends leaves every frame as it was, and an expression every frame but its own, whose
parent stays.  A `let` at the end of the block that a conditional chooses binds its name, to the
value of the conditional, in the frame of the conditional; and so does a `let` anywhere in the block
once the conditional comes to it, whatever the statements behind it do, unless they bind the name
again. -/
theorem evaluation_writes_locally (table : BuiltinTable) (depth : Nat) :
    (∀ f args s t, (apply table depth f args s).EndsIn t →
      ∀ i, i < s.frames.size → t.frames[i]? = s.frames[i]?) ∧
    (∀ e scope s t, (evalExpr table (apply table depth) e scope s).EndsIn t →
      ∀ i, i < s.frames.size → (i ≠ scope → t.frames[i]? = s.frames[i]?) ∧
        (t.frames[i]?).map Frame.parent = (s.frames[i]?).map Frame.parent) ∧
    (∀ t₁ t₂ t₃ condition consequence alternative ss name value scope c v s s₁ t,
      scope < s.frames.size →
      evalExpr table (apply table depth) condition scope s = .value c s₁ →
      Block.chosen c consequence alternative = some (.mk t₂ (ss ++ [.letStmt t₃ name value])) →
      evalExpr table (apply table depth) (.conditional t₁ condition consequence alternative)
        scope s = .value v t →
      t.frames.local? name.name scope = some v) ∧
    (∀ token condition consequence alternative name v rest scope s t, scope < s.frames.size →
      ReachesLet table depth scope s condition consequence alternative name v rest →
      WithinStmts (.sparing name) rest →
      (evalExpr table (apply table depth) (.conditional token condition consequence alternative)
        scope s).EndsIn t →
      t.frames.local? name scope = some v) := by
  refine ⟨?_, ?_, ?_, ?_⟩
  · intro f args s t hends i hi
    exact (preserved_apply hends).frame i hi id
  · intro e scope s t hends i hi
    have hkept := preserved_evalExpr hends
    exact ⟨hkept.frame i hi, hkept.parent i hi⟩
  · intro t₁ t₂ t₃ condition consequence alternative ss name value scope c v s s₁ t hscope
      hcondition hchosen h
    have hreaches := exists_reachesLet hcondition hchosen rfl h
    exact hreaches.local?_eq hscope trivial (.inl ⟨v, h⟩)
  · intro token condition consequence alternative name v rest scope s t hscope hreaches hrest hends
    exact hreaches.local?_eq hscope hrest hends

/-- A function that binds a name that is visible around it, called in a frame that binds the name
too: by itself, by a `let` that ends an `else` branch, and by one in front of a statement that
fails. -/
theorem evaluation_writes_locally_shadowing :
    let x : Ident := ⟨default, "x"⟩
    let y : Ident := ⟨default, "y"⟩
    let f : Value := .function ⟨0, [x], .mk default [.letStmt default y (.ident x)], 0⟩
    let call : Expr := .call default (.ident ⟨default, "f"⟩) [.integer default 5]
    let ending : Expr := .conditional default (.boolean default false) (.mk default [])
      (some (.mk default ([] ++ [.letStmt default x call])))
    let failing : Expr := .conditional default (.boolean default true)
      (.mk default [.letStmt default y call, .exprStmt default (.ident x)]) none
    let s : State := ⟨#[⟨[("y", .integer 1), ("f", f)], none⟩], 1, "", []⟩
    ∃ t u w, apply [] 1 f [.integer 5] s = .value (.integer 5) t ∧ t.frames[0]? = s.frames[0]? ∧
      evalExpr [] (apply [] 1) ending 0 s = .value (.integer 5) u ∧
      (u.frames[0]?).map Frame.parent = (s.frames[0]?).map Frame.parent ∧
      u.frames.local? "x" 0 = some (.integer 5) ∧
      evalExpr [] (apply [] 1) failing 0 s = .signal (.failed (.identifierNotFound "x")) w ∧
      w.frames.local? "y" 0 = some (.integer 5) := by
  intro x y f call ending failing s
  let callee : Frame := ⟨[("x", .integer 5), ("y", .integer 5)], some 0⟩
  let after (b : Bindings) : State := ⟨#[⟨b, none⟩, callee], 1, "", [.functionCall]⟩
  let t : State := after [("y", .integer 1), ("f", f)]
  let u : State := after [("y", .integer 1), ("f", f), ("x", .integer 5)]
  let w : State := after [("y", .integer 5), ("f", f)]
  have ht : apply [] 1 f [.integer 5] s = .value (.integer 5) t := by cbv
  have hu : evalExpr [] (apply [] 1) ending 0 s = .value (.integer 5) u := by cbv
  have hw : evalExpr [] (apply [] 1) failing 0 s =
      .signal (.failed (.identifierNotFound "x")) w := by cbv
  have hfalse :
      evalExpr [] (apply [] 1) (.boolean default false) 0 s = .value (.boolean false) s := by cbv
  have htrue :
      evalExpr [] (apply [] 1) (.boolean default true) 0 s = .value (.boolean true) s := by cbv
  have hcall : evalExpr [] (apply [] 1) call 0 s = .value (.integer 5) t := by cbv
  obtain ⟨happly, hexpr, hlast, hbehind⟩ := evaluation_writes_locally [] 1
  refine ⟨t, u, w, ht, ?_, hu, ?_, ?_, hw, ?_⟩
  · exact happly f [.integer 5] s t (.inl ⟨_, ht⟩) 0 Nat.zero_lt_one
  · exact (hexpr ending 0 s u (.inl ⟨_, hu⟩) 0 Nat.zero_lt_one).2
  · exact hlast default default default (.boolean default false) (.mk default []) _ [] x call 0
      (.boolean false) (.integer 5) s s u Nat.zero_lt_one hfalse rfl hu
  · have hreached : ReachesLet [] 1 0 s (.boolean default true)
        (.mk default [.letStmt default y call, .exprStmt default (.ident x)]) none "y"
        (.integer 5) [.exprStmt default (.ident x)] :=
      .intro htrue rfl (List.nil_append _).symm rfl hcall rfl
    exact hbehind default (.boolean default true) _ none "y" (.integer 5) _ 0 s w Nat.zero_lt_one
      hreached ⟨trivial, trivial⟩ (.inr ⟨_, hw⟩)

end MonkeyLang
