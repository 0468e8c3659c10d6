import Mathlib.Data.List.Forall2
import MonkeyLang.Evaluation.Builtin
import MonkeyLang.Evaluation.Operation

/-!
# Related values

Two values are related when they are the same data with related functions in the same places.
Which functions are related, and which errors may stand in values at all, is left open: `Leaves`
says it.  Every operation on values takes related operands to related results, or fails on both
with the same error.
-/

namespace MonkeyLang

/-! ## The relation -/

/-- What relates the parts of values that are no data. -/
structure Leaves where
  closures : Closure → Closure → Prop
  /-- The errors that may stand in values. -/
  errors : RuntimeError → Prop

mutual

/-- The values are the same data with related functions in it. -/
inductive Value.Related (leaves : Leaves) : Value → Value → Prop where
  | integer {n : Int64} : Value.Related leaves (.integer n) (.integer n)
  | boolean {b : Bool} : Value.Related leaves (.boolean b) (.boolean b)
  | string {s : String} : Value.Related leaves (.string s) (.string s)
  | null : Value.Related leaves .null .null
  | array {xs ys : List Value} (elements : RelatedElements leaves xs ys) :
      Value.Related leaves (.array xs) (.array ys)
  | hash {xs ys : List (Entry Value)} (entries : RelatedEntries leaves xs ys) :
      Value.Related leaves (.hash xs) (.hash ys)
  | function {f g : Closure} (closures : leaves.closures f g) :
      Value.Related leaves (.function f) (.function g)
  | builtin {b : Builtin} : Value.Related leaves (.builtin b) (.builtin b)
  | error {e : RuntimeError} (allowed : leaves.errors e) :
      Value.Related leaves (.error e) (.error e)

/-- Lists of values that are related in order. -/
inductive RelatedElements (leaves : Leaves) : List Value → List Value → Prop where
  | nil : RelatedElements leaves [] []
  | cons {x y : Value} {xs ys : List Value} (first : Value.Related leaves x y)
      (others : RelatedElements leaves xs ys) : RelatedElements leaves (x :: xs) (y :: ys)

/-- Tables with the same hash keys and with related keys and values under them. -/
inductive RelatedEntries (leaves : Leaves) : List (Entry Value) → List (Entry Value) → Prop where
  | nil : RelatedEntries leaves [] []
  | cons {d e : Entry Value} {ds es : List (Entry Value)} (hashKey : d.hashKey = e.hashKey)
      (key : Value.Related leaves d.key e.key) (value : Value.Related leaves d.value e.value)
      (others : RelatedEntries leaves ds es) : RelatedEntries leaves (d :: ds) (e :: es)

end

/-- Both are missing, or both are there and related. -/
inductive OptionRelated {α β : Type} (R : α → β → Prop) : Option α → Option β → Prop where
  | none : OptionRelated R none none
  | some {a : α} {b : β} (related : R a b) : OptionRelated R (some a) (some b)

lemma OptionRelated.imp {α β : Type} {R S : α → β → Prop} (himp : ∀ a b, R a b → S a b)
    {o : Option α} {o' : Option β} (h : OptionRelated R o o') : OptionRelated S o o' := by
  cases h with
  | none => exact .none
  | some related => exact .some (himp _ _ related)

/-- Both results are there and related, or the errors are the same. -/
inductive ExceptRelated {α β : Type} (R : α → β → Prop) :
    Except RuntimeError α → Except RuntimeError β → Prop where
  | ok {a : α} {b : β} (related : R a b) : ExceptRelated R (.ok a) (.ok b)
  | error {e : RuntimeError} : ExceptRelated R (.error e) (.error e)

lemma ExceptRelated.refl_eq {α : Type} (x : Except RuntimeError α) : ExceptRelated Eq x x := by
  cases x with
  | ok a => exact .ok rfl
  | error e => exact .error

lemma ExceptRelated.bind {α β α' β' : Type} {R : α → β → Prop} {S : α' → β' → Prop}
    {x : Except RuntimeError α} {y : Except RuntimeError β} {f : α → Except RuntimeError α'}
    {g : β → Except RuntimeError β'} (h : ExceptRelated R x y)
    (hf : ∀ a b, R a b → ExceptRelated S (f a) (g b)) : ExceptRelated S (x >>= f) (y >>= g) := by
  cases h with
  | ok related => exact hf _ _ related
  | error => exact .error

section

variable {leaves leaves' : Leaves}

/-! ## Weaker leaves -/

mutual

lemma Value.Related.mono (hclosures : ∀ f g, leaves.closures f g → leaves'.closures f g)
    (herrors : ∀ e, leaves.errors e → leaves'.errors e) {v v' : Value}
    (h : v.Related leaves v') : v.Related leaves' v' := by
  cases h with
  | integer => exact .integer
  | boolean => exact .boolean
  | string => exact .string
  | null => exact .null
  | array elements => exact .array (elements.mono hclosures herrors)
  | hash entries => exact .hash (entries.mono hclosures herrors)
  | function closures => exact .function (hclosures _ _ closures)
  | builtin => exact .builtin
  | error allowed => exact .error (herrors _ allowed)

lemma RelatedElements.mono (hclosures : ∀ f g, leaves.closures f g → leaves'.closures f g)
    (herrors : ∀ e, leaves.errors e → leaves'.errors e) {xs ys : List Value}
    (h : RelatedElements leaves xs ys) : RelatedElements leaves' xs ys := by
  cases h with
  | nil => exact .nil
  | cons first others =>
    exact .cons (first.mono hclosures herrors) (others.mono hclosures herrors)

lemma RelatedEntries.mono (hclosures : ∀ f g, leaves.closures f g → leaves'.closures f g)
    (herrors : ∀ e, leaves.errors e → leaves'.errors e) {ds es : List (Entry Value)}
    (h : RelatedEntries leaves ds es) : RelatedEntries leaves' ds es := by
  cases h with
  | nil => exact .nil
  | cons hashKey key value others =>
    exact .cons hashKey (key.mono hclosures herrors) (value.mono hclosures herrors)
      (others.mono hclosures herrors)

end

/-! ## Equal values -/

mutual

/-- Every value is related to itself, if every function is and every error may stand in values. -/
lemma Value.Related.refl (hclosures : ∀ f, leaves.closures f f) (herrors : ∀ e, leaves.errors e)
    (v : Value) : v.Related leaves v := by
  match v with
  | .integer _ => exact .integer
  | .boolean _ => exact .boolean
  | .string _ => exact .string
  | .null => exact .null
  | .array elements => exact .array (RelatedElements.refl hclosures herrors elements)
  | .hash entries => exact .hash (RelatedEntries.refl hclosures herrors entries)
  | .function f => exact .function (hclosures f)
  | .builtin _ => exact .builtin
  | .error e => exact .error (herrors e)

lemma RelatedElements.refl (hclosures : ∀ f, leaves.closures f f)
    (herrors : ∀ e, leaves.errors e) (vs : List Value) : RelatedElements leaves vs vs := by
  match vs with
  | [] => exact .nil
  | v :: vs =>
    exact .cons (Value.Related.refl hclosures herrors v) (RelatedElements.refl hclosures herrors vs)

lemma RelatedEntries.refl (hclosures : ∀ f, leaves.closures f f)
    (herrors : ∀ e, leaves.errors e) (es : List (Entry Value)) : RelatedEntries leaves es es := by
  match es with
  | [] => exact .nil
  | ⟨_, key, value⟩ :: es =>
    exact .cons rfl (Value.Related.refl hclosures herrors key)
      (Value.Related.refl hclosures herrors value) (RelatedEntries.refl hclosures herrors es)

end

mutual

/-- Related values are equal, if related functions are. -/
lemma Value.Related.eq (hclosures : ∀ f g, leaves.closures f g → f = g) {v v' : Value}
    (h : v.Related leaves v') : v = v' := by
  cases h with
  | array elements => rw [elements.eq hclosures]
  | hash entries => rw [entries.eq hclosures]
  | function closures => rw [hclosures _ _ closures]
  | _ => rfl

lemma RelatedElements.eq (hclosures : ∀ f g, leaves.closures f g → f = g) {xs ys : List Value}
    (h : RelatedElements leaves xs ys) : xs = ys := by
  cases h with
  | nil => rfl
  | cons first others => rw [first.eq hclosures, others.eq hclosures]

lemma RelatedEntries.eq (hclosures : ∀ f g, leaves.closures f g → f = g)
    {ds es : List (Entry Value)} (h : RelatedEntries leaves ds es) : ds = es := by
  cases h with
  | nil => rfl
  | @cons d e _ _ hashKey key value others =>
    have hentry : d = e := by
      obtain ⟨h, k, v⟩ := d
      obtain ⟨h', k', v'⟩ := e
      simp only [Entry.mk.injEq]
      exact ⟨hashKey, key.eq hclosures, value.eq hclosures⟩
    rw [hentry, others.eq hclosures]

end

/-! ## What related values share -/

lemma Value.Related.type_eq {v v' : Value} (h : v.Related leaves v') : v.type = v'.type := by
  cases h <;> rfl

lemma Value.Related.isTruthy_eq {v v' : Value} (h : v.Related leaves v') :
    v.isTruthy = v'.isTruthy := by
  cases h <;> rfl

lemma Value.Related.requireHashKey_eq {v v' : Value} (h : v.Related leaves v') :
    v.requireHashKey = v'.requireHashKey := by
  cases h <;> rfl

mutual

/-- Related values have one printed form, if related functions do. -/
lemma Value.Related.display_eq
    (hclosures : ∀ f g, leaves.closures f g → f.display = g.display) {v v' : Value}
    (h : v.Related leaves v') : v.display = v'.display := by
  cases h with
  | array elements => rw [Value.display, Value.display, elements.displayElements_eq hclosures]
  | hash entries => rw [Value.display, Value.display, entries.displayEntries_eq hclosures]
  | function closures => rw [Value.display, Value.display, hclosures _ _ closures]
  | _ => rfl

lemma RelatedElements.displayElements_eq
    (hclosures : ∀ f g, leaves.closures f g → f.display = g.display) {xs ys : List Value}
    (h : RelatedElements leaves xs ys) : Value.displayElements xs = Value.displayElements ys := by
  cases h with
  | nil => rfl
  | cons first others =>
    rw [Value.displayElements, Value.displayElements, first.display_eq hclosures,
      others.displayElements_eq hclosures]

lemma RelatedEntries.displayEntries_eq
    (hclosures : ∀ f g, leaves.closures f g → f.display = g.display) {ds es : List (Entry Value)}
    (h : RelatedEntries leaves ds es) : Value.displayEntries ds = Value.displayEntries es := by
  cases h with
  | nil => rfl
  | cons hashKey key value others =>
    rw [Value.displayEntries, Value.displayEntries, key.display_eq hclosures,
      value.display_eq hclosures, others.displayEntries_eq hclosures]

end

/-! ## Lists and tables -/

lemma relatedElements_iff {xs ys : List Value} :
    RelatedElements leaves xs ys ↔ List.Forall₂ (Value.Related leaves) xs ys := by
  constructor
  · intro h
    induction xs generalizing ys with
    | nil =>
      cases h
      exact .nil
    | cons x xs ih =>
      cases h with
      | cons first others => exact .cons first (ih others)
  · intro h
    induction h with
    | nil => exact .nil
    | cons first _ ih => exact .cons first ih

lemma RelatedElements.length_eq {xs ys : List Value} (h : RelatedElements leaves xs ys) :
    xs.length = ys.length :=
  (relatedElements_iff.1 h).length_eq

lemma RelatedElements.append {xs xs' ys ys' : List Value} (h : RelatedElements leaves xs ys)
    (h' : RelatedElements leaves xs' ys') : RelatedElements leaves (xs ++ xs') (ys ++ ys') := by
  rw [relatedElements_iff] at h h' ⊢
  exact List.rel_append h h'

lemma RelatedElements.getElem? {xs ys : List Value} (h : RelatedElements leaves xs ys) (n : Nat) :
    OptionRelated (Value.Related leaves) xs[n]? ys[n]? := by
  rw [relatedElements_iff] at h
  induction h generalizing n with
  | nil => exact .none
  | cons first _ ih =>
    cases n with
    | zero => exact .some first
    | succ n => exact ih n

lemma RelatedElements.getLast? {xs ys : List Value} (h : RelatedElements leaves xs ys) :
    OptionRelated (Value.Related leaves) xs.getLast? ys.getLast? := by
  rw [List.getLast?_eq_getElem?, List.getLast?_eq_getElem?, h.length_eq]
  exact h.getElem? _

lemma OptionRelated.getD_null {o o' : Option Value}
    (h : OptionRelated (Value.Related leaves) o o') :
    (o.getD .null).Related leaves (o'.getD .null) := by
  cases h with
  | none => exact .null
  | some related => exact related

lemma RelatedEntries.find? {ds es : HashTable Value} (h : RelatedEntries leaves ds es)
    (k : HashKey) : OptionRelated (fun d e => d.value.Related leaves e.value)
      (ds.find? k) (es.find? k) := by
  induction ds generalizing es with
  | nil =>
    cases h
    exact .none
  | cons d ds ih =>
    cases h with
    | cons hashKey key value others =>
      rw [HashTable.find?_cons, HashTable.find?_cons, hashKey]
      split
      · exact .some value
      · exact ih others

lemma RelatedEntries.insert {ds es : HashTable Value} {d e : Entry Value}
    (h : RelatedEntries leaves ds es) (hashKey : d.hashKey = e.hashKey)
    (key : d.key.Related leaves e.key) (value : d.value.Related leaves e.value) :
    RelatedEntries leaves (HashTable.insert d ds) (HashTable.insert e es) := by
  induction ds generalizing es with
  | nil =>
    cases h
    exact .cons hashKey key value .nil
  | cons d' ds ih =>
    cases h with
    | cons hashKey' key' value' others =>
      rw [HashTable.insert, HashTable.insert, hashKey, hashKey']
      split
      · exact .cons hashKey key value others
      · split
        · exact .cons hashKey key value (.cons hashKey' key' value' others)
        · exact .cons hashKey' key' value' (ih others)

/-! ## Operations -/

lemma UnaryOp.apply_related (op : UnaryOp) {v v' : Value} (h : v.Related leaves v') :
    ExceptRelated (Value.Related leaves) (op.apply v) (op.apply v') := by
  cases op with
  | bang =>
    rw [apply, apply, h.isTruthy_eq]
    exact .ok .boolean
  | minus =>
    cases h with
    | integer => exact .ok .integer
    | _ => exact .error

lemma BinaryOp.refuse_eq (op : BinaryOp) {l l' r r' : Value} (hl : l.Related leaves l')
    (hr : r.Related leaves r') : op.refuse l r = op.refuse l' r' := by
  rw [refuse, refuse, hl.type_eq, hr.type_eq]

lemma BinaryOp.applyIntegers_related (op : BinaryOp) (m n : Int64) :
    ExceptRelated (Value.Related leaves) (op.applyIntegers m n) (op.applyIntegers m n) := by
  cases op with
  | plus | minus | times => exact .ok .integer
  | lt | gt | eq | notEq => exact .ok .boolean
  | divide =>
    rw [applyIntegers]
    split
    · exact .error
    · exact .ok .integer

/-- Related values are the same value, or both have parts that may differ. -/
lemma Value.Related.eq_or_composite {v v' : Value} (h : v.Related leaves v') :
    v = v' ∨ v.type ∈ [.array, .hash, .function] := by
  cases h with
  | array | hash | function => exact .inr (by simp [Value.type])
  | _ => exact .inl rfl

/-- Binary operators are defined on integers, booleans and strings only. -/
lemma BinaryOp.apply_eq_refuse (op : BinaryOp) {l r : Value}
    (h : l.type ∉ [.integer, .boolean, .string] ∨ r.type ∉ [.integer, .boolean, .string]) :
    op.apply l r = .error (op.refuse l r) := by
  unfold apply
  split <;> simp_all [Value.type]

/-- What an operator computes has no parts. -/
lemma BinaryOp.apply_refl (op : BinaryOp) (l r : Value) :
    ExceptRelated (Value.Related leaves) (op.apply l r) (op.apply l r) := by
  unfold apply
  split
  · exact op.applyIntegers_related _ _
  · exact .ok .string
  · exact .ok .boolean
  · exact .ok .boolean
  · exact .error

lemma BinaryOp.apply_related (op : BinaryOp) {l l' r r' : Value} (hl : l.Related leaves l')
    (hr : r.Related leaves r') :
    ExceptRelated (Value.Related leaves) (op.apply l r) (op.apply l' r') := by
  by_cases h : l.type ∈ [.array, .hash, .function] ∨ r.type ∈ [.array, .hash, .function]
  · have hcomposite : ∀ t : ValueType, t ∈ [.array, .hash, .function] →
        t ∉ [.integer, .boolean, .string] := by
      intro t
      cases t <;> simp
    have hrefused := h.imp (hcomposite _) (hcomposite _)
    have hrefused' := hrefused
    rw [hl.type_eq, hr.type_eq] at hrefused'
    rw [op.apply_eq_refuse hrefused, op.apply_eq_refuse hrefused', op.refuse_eq hl hr]
    exact .error
  · obtain ⟨hlne, hrne⟩ := not_or.1 h
    obtain rfl := hl.eq_or_composite.resolve_right hlne
    obtain rfl := hr.eq_or_composite.resolve_right hrne
    exact op.apply_refl l r

lemma Value.elementAt_related {xs ys : List Value} (h : RelatedElements leaves xs ys)
    (i : Int64) : (elementAt xs i).Related leaves (elementAt ys i) := by
  rw [elementAt, elementAt]
  split
  · exact .null
  · rw [List.getD_eq_getElem?_getD, List.getD_eq_getElem?_getD]
    exact (h.getElem? _).getD_null

lemma Value.index_related {b b' i i' : Value} (hb : b.Related leaves b')
    (hi : i.Related leaves i') :
    ExceptRelated (Value.Related leaves) (b.index i) (b'.index i') := by
  cases hb with
  | array elements =>
    cases hi with
    | integer => exact .ok (elementAt_related elements _)
    | _ => exact .error
  | hash entries =>
    rw [index, index, hi.requireHashKey_eq]
    cases i'.requireHashKey with
    | error => exact .error
    | ok k =>
      have hfind := entries.find? k
      refine .ok ?_
      generalize HashTable.find? _ k = o at hfind ⊢
      generalize HashTable.find? _ k = o' at hfind ⊢
      cases hfind with
      | none => exact .null
      | some related => exact related
  | _ => exact .error

lemma Primitive.length_related {v v' : Value} (h : v.Related leaves v') :
    ExceptRelated (Value.Related leaves) (length v) (length v') := by
  cases h with
  | array elements =>
    rw [length, length, elements.length_eq]
    exact .ok .integer
  | string | null => exact .ok .integer
  | _ => exact .error

lemma Primitive.oneArgument_related {vs vs' : List Value} (h : RelatedElements leaves vs vs') :
    ExceptRelated (Value.Related leaves) (oneArgument vs) (oneArgument vs') := by
  cases h with
  | nil => exact .error
  | cons first others =>
    cases others with
    | nil => exact .ok first
    | cons second others =>
      simp only [oneArgument, List.length_cons, others.length_eq]
      exact .error

lemma Primitive.requireArray_related (p : Primitive) {v v' : Value} (h : v.Related leaves v') :
    ExceptRelated (RelatedElements leaves) (p.requireArray v) (p.requireArray v') := by
  cases h with
  | array elements => exact .ok elements
  | _ => exact .error

lemma Primitive.tail_related {vs vs' : List Value} (h : RelatedElements leaves vs vs') :
    (tail vs).Related leaves (tail vs') := by
  cases h with
  | nil => exact .null
  | cons first others =>
    cases others with
    | nil => exact .null
    | cons second others => exact .array (.cons second others)

lemma Primitive.lines_eq (hclosures : ∀ f g, leaves.closures f g → f.display = g.display)
    {vs vs' : List Value} (h : RelatedElements leaves vs vs') : lines vs = lines vs' := by
  rw [lines, lines, ← Value.displayElements_eq_map, ← Value.displayElements_eq_map,
    h.displayElements_eq hclosures]

end

end MonkeyLang
