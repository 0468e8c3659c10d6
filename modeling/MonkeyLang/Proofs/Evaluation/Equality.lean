import MonkeyLang.Proofs.Evaluation.Relation
import MonkeyLang.Value.Equality

/-!
# Equality as an equivalence

Standard functions are equal when they are registered under one name, so equal values need not be
the same.  They are the same once there is one and the same standard function under every name
(`Value.nominal`), at any depth in arrays and hashes, and this is all there is to equality
(`Value.equal_iff`).  Hence it is an equivalence relation.

It is a congruence, since no operation looks at what a standard function does: operators and
indexing give the same of values as of their nominal forms.
-/

namespace MonkeyLang

/-! ## Nominal forms -/

mutual

/-- The value with one and the same standard function under every name. -/
def Value.nominal : Value → Value
  | .array elements => .array (nominalElements elements)
  | .hash table => .hash (nominalEntries table)
  | .builtin b => .builtin { b with primitive := .len }
  | .integer n => .integer n
  | .boolean b => .boolean b
  | .string s => .string s
  | .null => .null
  | .function f => .function f
  | .error e => .error e

def nominalElements : List Value → List Value
  | [] => []
  | v :: vs => v.nominal :: nominalElements vs

def nominalEntries : List (Entry Value) → List (Entry Value)
  | [] => []
  | ⟨hashKey, key, value⟩ :: es => ⟨hashKey, key.nominal, value.nominal⟩ :: nominalEntries es

end

lemma nominalElements_eq_map (vs : List Value) : nominalElements vs = vs.map Value.nominal := by
  induction vs with
  | nil => rfl
  | cons v vs ih => rw [nominalElements, ih, List.map_cons]

namespace Value

mutual

/-- Values are equal exactly if they have one nominal form. -/
theorem equal_iff : ∀ a b : Value, a.equal b = true ↔ a.nominal = b.nominal
  | .integer _, b | .boolean _, b | .string _, b | .null, b | .function _, b | .builtin _, b
  | .error _, b => by cases b <;> simp [equal, nominal]
  | .array vs, b => by cases b <;> simp [equal, nominal, equalElements_iff vs]
  | .hash es, b => by cases b <;> simp [equal, nominal, equalEntries_iff es]

lemma equalElements_iff : ∀ vs ws : List Value,
    equalElements vs ws = true ↔ nominalElements vs = nominalElements ws
  | [], ws => by cases ws <;> simp [equalElements, nominalElements]
  | v :: vs, ws => by
    cases ws <;> simp [equalElements, nominalElements, equal_iff v, equalElements_iff vs]

lemma equalEntries_iff : ∀ ds es : List (Entry Value),
    equalEntries ds es = true ↔ nominalEntries ds = nominalEntries es
  | [], es => by cases es <;> simp [equalEntries, nominalEntries]
  | ⟨_, k, v⟩ :: ds, es => by
    cases es <;>
      simp [equalEntries, nominalEntries, equal_iff k, equal_iff v, equalEntries_iff ds, and_assoc]

end

/-! ## What values share with their nominal forms -/

lemma type_nominal (v : Value) : v.nominal.type = v.type := by
  cases v <;> rfl

lemma isTruthy_nominal (v : Value) : v.nominal.isTruthy = v.isTruthy := by
  cases v <;> rfl

lemma hashKey?_nominal (v : Value) : v.nominal.hashKey? = v.hashKey? := by
  cases v <;> rfl

lemma requireHashKey_nominal (v : Value) : v.nominal.requireHashKey = v.requireHashKey := by
  rw [requireHashKey, requireHashKey, hashKey?_nominal, type_nominal]

mutual

lemma display_nominal : ∀ v : Value, v.nominal.display = v.display
  | .integer _ | .boolean _ | .string _ | .null | .function _ | .builtin _ | .error _ => rfl
  | .array vs => by rw [nominal, display, display, displayElements_nominal vs]
  | .hash es => by rw [nominal, display, display, displayEntries_nominal es]

lemma displayElements_nominal : ∀ vs : List Value,
    displayElements (nominalElements vs) = displayElements vs
  | [] => rfl
  | v :: vs => by
    rw [nominalElements, displayElements, displayElements, display_nominal v,
      displayElements_nominal vs]

lemma displayEntries_nominal : ∀ es : List (Entry Value),
    displayEntries (nominalEntries es) = displayEntries es
  | [] => rfl
  | ⟨_, k, v⟩ :: es => by
    rw [nominalEntries, displayEntries, displayEntries, display_nominal k, display_nominal v,
      displayEntries_nominal es]

end

/-! ## Operations on nominal forms -/

lemma elementAt_nominal (vs : List Value) (i : Int64) :
    elementAt (nominalElements vs) i = (elementAt vs i).nominal := by
  rw [elementAt, elementAt]
  split
  · rfl
  · rw [nominalElements_eq_map, List.getD_eq_getElem?_getD, List.getD_eq_getElem?_getD,
      List.getElem?_map]
    cases vs[i.toInt.toNat]? <;> rfl

lemma find?_nominal (es : HashTable Value) (k : HashKey) :
    (HashTable.find? (nominalEntries es) k).map Entry.value =
      (HashTable.find? es k).map fun e => e.value.nominal := by
  induction es with
  | nil => rfl
  | cons e es ih =>
    rw [nominalEntries, HashTable.find?_cons, HashTable.find?_cons]
    split
    · rfl
    · exact ih

/-- Indexing selects from nominal forms what it selects from the values, in nominal form. -/
lemma index_nominal (b i : Value) : b.nominal.index i.nominal = (b.index i).map nominal := by
  cases b with
  | array vs =>
    cases i with
    | integer n => exact congrArg Except.ok (elementAt_nominal vs n)
    | _ => rfl
  | hash es =>
    rw [nominal, index, index, requireHashKey_nominal]
    cases i.requireHashKey with
    | error => rfl
    | ok k =>
      refine congrArg Except.ok ?_
      change ((HashTable.find? (nominalEntries es) k).map Entry.value).getD null = _
      rw [find?_nominal]
      cases HashTable.find? es k <;> rfl
  | _ => rfl

end Value

lemma UnaryOp.apply_nominal (op : UnaryOp) (v : Value) : op.apply v.nominal = op.apply v := by
  cases op with
  | bang => rw [apply, apply, v.isTruthy_nominal]
  | minus => cases v <;> rfl

lemma BinaryOp.apply_nominal (op : BinaryOp) (l r : Value) :
    op.apply l.nominal r.nominal = op.apply l r := by
  by_cases h : l.type ∉ [.integer, .boolean, .string] ∨ r.type ∉ [.integer, .boolean, .string]
  · have h' := h
    rw [← l.type_nominal, ← r.type_nominal] at h'
    rw [op.apply_eq_refuse h, op.apply_eq_refuse h', refuse, refuse, l.type_nominal, r.type_nominal]
  · have hsame : ∀ v : Value, v.type ∈ [.integer, .boolean, .string] → v.nominal = v := by
      intro v
      cases v <;> simp [Value.type, Value.nominal]
    obtain ⟨hl, hr⟩ := not_or.1 h
    rw [hsame l (not_not.1 hl), hsame r (not_not.1 hr)]

/-! ## Equality -/

/-- Results with one nominal form are equal values or the same error. -/
lemma exceptRelated_of_map_nominal {x y : Except RuntimeError Value}
    (h : x.map Value.nominal = y.map Value.nominal) :
    ExceptRelated (fun v w => v.equal w = true) x y := by
  cases x with
  | error d =>
    cases y with
    | error e =>
      obtain rfl : d = e := Except.error.inj h
      exact .error
    | ok => cases h
  | ok v =>
    cases y with
    | error => cases h
    | ok w => exact .ok ((v.equal_iff w).2 (Except.ok.inj h))

/-- Equality of values is an equivalence relation.  Equal values have the same type, truth, hash key
and printed form; indexing takes equal values and equal indices to equal values or the same error,
and every operator takes equal operands to the same value or error. -/
theorem Value.equality_congruence :
    Equivalence (fun a b : Value => a.equal b = true) ∧
    ∀ a b : Value, a.equal b = true →
      a.type = b.type ∧ a.isTruthy = b.isTruthy ∧ a.hashKey? = b.hashKey? ∧
      a.display = b.display ∧
      (∀ i j : Value, i.equal j = true →
        ExceptRelated (fun v w => v.equal w = true) (a.index i) (b.index j)) ∧
      (∀ op : UnaryOp, op.apply a = op.apply b) ∧
      ∀ (op : BinaryOp) (c d : Value), c.equal d = true → op.apply a c = op.apply b d := by
  refine ⟨⟨equal_self, ?_, ?_⟩, fun a b h => ?_⟩
  · intro a b h
    rw [equal_iff] at h ⊢
    exact h.symm
  · intro a b c hab hbc
    rw [equal_iff] at hab hbc ⊢
    exact hab.trans hbc
  · rw [equal_iff] at h
    refine ⟨?_, ?_, ?_, ?_, ?_, ?_, ?_⟩
    · rw [← a.type_nominal, h, b.type_nominal]
    · rw [← a.isTruthy_nominal, h, b.isTruthy_nominal]
    · rw [← a.hashKey?_nominal, h, b.hashKey?_nominal]
    · rw [← a.display_nominal, h, b.display_nominal]
    · intro i j hij
      rw [equal_iff] at hij
      exact exceptRelated_of_map_nominal (by rw [← index_nominal, h, hij, index_nominal])
    · intro op
      rw [← op.apply_nominal a, h, op.apply_nominal b]
    · intro op c d hcd
      rw [equal_iff] at hcd
      rw [← op.apply_nominal a c, h, hcd, op.apply_nominal b d]

/-- Builtin functions of one name are equal, and so are arrays and hashes of them, which index
alike. -/
theorem Value.equality_congruence_builtins :
    let hash (p : Primitive) : Value := .hash [⟨.integer 1, .integer 1, .builtin ⟨"f", p⟩⟩]
    let a : Value := .array [.builtin ⟨"f", .len⟩, hash .len]
    let b : Value := .array [.builtin ⟨"f", .puts⟩, hash .puts]
    a ≠ b ∧ a.equal b = true ∧ b.equal a = true ∧ a.display = b.display ∧
    ExceptRelated (fun v w => v.equal w = true) (a.index (.integer 1)) (b.index (.integer 1)) ∧
    BinaryOp.eq.apply a b = BinaryOp.eq.apply b a := by
  intro hash a b
  obtain ⟨equiv, congr⟩ := Value.equality_congruence
  have hab : a.equal b = true := by decide +kernel
  have hba : b.equal a = true := equiv.symm hab
  have hne : a ≠ b := by
    intro h
    injection h with h
    injection h with h _
    cases h
  obtain ⟨-, -, -, hdisplay, hindex, -, hoperator⟩ := congr a b hab
  exact ⟨hne, hab, hba, hdisplay, hindex _ _ (equiv.refl _), hoperator .eq b a hba⟩

end MonkeyLang
