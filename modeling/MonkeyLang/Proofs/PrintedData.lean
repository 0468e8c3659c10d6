import MonkeyLang.Proofs.Evaluation.HashLiterals
import MonkeyLang.Proofs.Syntax.Rereading
import MonkeyLang.Session

/-!
# Printed data

Data is what is built from integers and booleans with arrays and hashes.  Its printed form is a
program, whose value is the data again.

The least integer is no data: its numeral is read as an operator before a number that is out of
range.  A hash keeps its entries in ascending order of their hash keys, each under the hash key of
its own key, so entries that are inserted in the order in which they were printed make up the same
table.
-/

namespace MonkeyLang

/-! ## Data -/

/-- The integers but the least one, and the booleans: what can be a key of data. -/
inductive Value.IsScalar : Value → Prop where
  | integer {n : Int64} (bound : n ≠ Int64.minValue) : IsScalar (.integer n)
  | boolean {b : Bool} : IsScalar (.boolean b)

/-- Scalars, and arrays and hashes of data with scalar keys. -/
inductive Value.IsData : Value → Prop where
  | scalar {v : Value} (scalar : v.IsScalar) : IsData v
  | array {elements : List Value} (items : ∀ v ∈ elements, IsData v) : IsData (.array elements)
  | hash {table : HashTable Value} (filed : table.Filed) (keys : ∀ e ∈ table, e.key.IsScalar)
      (values : ∀ e ∈ table, IsData e.value) : IsData (.hash table)

/-! ## Numerals -/

/-- A number that is not negative is written with the numeral of its size. -/
lemma eq_ofNat_of_toInt {n : Int64} {k : Nat} (h : n.toInt = k) : n = Int64.ofNat k := by
  rw [← Int64.ofInt_toInt n, h, Int64.ofInt_eq_ofNat]

/-- A negative number is written with a minus sign before the numeral of its size. -/
lemma eq_neg_ofNat_of_toInt {n : Int64} {k : Nat} (h : n.toInt = Int.negSucc k) :
    n = -Int64.ofNat (k + 1) := by
  rw [← Int64.ofInt_toInt n, h, Int.negSucc_eq, Int64.ofInt_neg, ← Int64.ofInt_eq_ofNat]
  rfl

/-! ## Trees of data -/

/-- Wherever the expression is evaluated it has the value, and nothing else happens. -/
def Expr.Denotes (e : Expr) (v : Value) : Prop :=
  ∀ table call scope (s : State), evalExpr table call e scope s = .value v s

/-- The parts of an array are evaluated one after the other. -/
lemma Expr.denotes_array {t : Token} {vs : List Value} {trees : List Expr}
    (h : List.Forall₂ (fun v tree => Denotes tree v) vs trees) :
    (Expr.array t trees).Denotes (.array vs) := by
  intro table call scope s
  have hvalues : evalExprs table call trees scope s = .value vs s := by
    induction h with
    | nil => rfl
    | cons first _ ih =>
      rw [evalExprs, Eval.bind_apply, first table call scope s]
      simp only [Eval.bind_apply, ih]
      rfl
  rw [evalExpr, Eval.bind_apply, hvalues]
  rfl

/-- Trees of the key and of the value of an entry. -/
abbrev Entry.Denoted (e : Entry Value) (pair : Expr × Expr) : Prop :=
  Grammar.GoodPair (fun e tree => Expr.Denotes tree e.key) (fun e tree => Expr.Denotes tree e.value)
    e pair

/-- The pairs of entries evaluate to the keys and values of the entries. -/
lemma pairsEvaluate_of_denoted {entries : HashTable Value} {pairs : List (Expr × Expr)}
    (h : List.Forall₂ Entry.Denoted entries pairs)
    (hashKey_eq : ∀ e ∈ entries, e.key.hashKey? = some e.hashKey) (table : BuiltinTable)
    (call : Value → List Value → Eval Value) (scope : FrameId) (s : State) :
    PairsEvaluate table call scope pairs s (entries.map fun e => (e.key, e.value)) s := by
  induction h with
  | nil => exact .nil
  | @cons e pair entries pairs first _ ih =>
    obtain ⟨key, value⟩ := pair
    obtain ⟨hkey, hvalue⟩ := first
    obtain ⟨hfirst, hothers⟩ := List.forall_mem_cons.1 hashKey_eq
    have hashable : e.key.hashKey?.isSome := Option.isSome_of_eq_some hfirst
    exact .cons (hkey table call scope s) hashable (hvalue table call scope s) (ih hothers)

lemma Expr.denotes_hash {t : Token} {entries : HashTable Value} {pairs : List (Expr × Expr)}
    (filed : entries.Filed) (h : List.Forall₂ Entry.Denoted entries pairs) :
    (Expr.hash t pairs).Denotes (.hash entries) := by
  intro table call scope s
  have hpairs := pairsEvaluate_of_denoted h filed.hashKey_eq table call scope s
  rw [hpairs.evalExpr_eq t, filed.filePairs_entries]

/-! ## Texts of data -/

lemma Value.displayEntries_eq_map (es : List (Entry Value)) : displayEntries es =
    es.map (Grammar.pairText ": " (fun e => e.key.display) fun e => e.value.display) := by
  induction es with
  | nil => rfl
  | cons e es ih =>
    rw [displayEntries, List.map_cons, ih]
    rfl

namespace Grammar

open Token

lemma rereads_decimal {k : Nat} (h : k ≤ Nat.pow 2 63 - 1) :
    Rereads .primary (Text.decimal k) fun tree => tree.Denotes (.integer (.ofNat k)) := by
  have hdigits : Text.ofDigits (Text.decimal k).toList = k := by
    rw [Text.decimal, String.toList_ofList, Text.ofDigits_digits]
  intro offset rest hrest
  rw [scanFrom_numeral (Text.consistsOf_decimal k) hrest]
  have hrange : Text.ofDigits (Text.decimal k).toList ≤ Nat.pow 2 63 - 1 := hdigits.symm ▸ h
  refine ⟨_, .integer _ (.ofNat (Text.ofDigits (Text.decimal k).toList)),
    ⟨.int rfl hrange, rfl⟩, fun table call scope s => ?_⟩
  rw [hdigits, evalExpr]
  rfl

lemma rereads_boolean (b : Bool) :
    Rereads .primary (Value.boolean b).display fun tree => tree.Denotes (.boolean b) := by
  intro offset rest hrest
  cases b with
  | true =>
    have hrun : ConsistsOf isWordChar (Value.boolean true).display :=
      ⟨by decide, by simp [Value.display, isWordChar]⟩
    rw [scanFrom_word hrun hrest]
    exact ⟨_, .boolean _ true, ⟨.trueWord rfl, rfl⟩, fun _ _ _ _ => rfl⟩
  | false =>
    have hrun : ConsistsOf isWordChar (Value.boolean false).display :=
      ⟨by decide, by simp [Value.display, isWordChar]⟩
    rw [scanFrom_word hrun hrest]
    exact ⟨_, .boolean _ false, ⟨.falseWord rfl, rfl⟩, fun _ _ _ _ => rfl⟩

/-- Scalars are read again as an operand with an operator before it or without one. -/
lemma rereads_scalar {v : Value} (h : v.IsScalar) :
    Rereads .expression v.display fun tree => tree.Denotes v := by
  cases h with
  | boolean => exact (rereads_boolean _).primary.expression
  | @integer n bound =>
    have hrange := n.toInt_lt
    have hleast := n.le_toInt
    have hbound : n.toInt ≠ -2 ^ 63 := fun heq =>
      bound (Int64.toInt_inj.1 (heq.trans Int64.toInt_minValue.symm))
    have hpow : Nat.pow 2 63 = 2 ^ 63 := rfl
    rw [Value.display]
    cases hn : n.toInt with
    | ofNat k =>
      have hcast : n.toInt = (k : Int) := hn
      have hk : k ≤ Nat.pow 2 63 - 1 := by omega
      rw [Text.signedDecimal, eq_ofNat_of_toInt hn]
      exact (rereads_decimal hk).primary.expression
    | negSucc k =>
      have hk : k + 1 ≤ Nat.pow 2 63 - 1 := by omega
      rw [Text.signedDecimal, eq_neg_ofNat_of_toInt hn]
      refine Rereads.expression (((rereads_decimal hk).primary.atLevel .unary).unary .minus
        (head_of_consistsOf (Text.consistsOf_decimal (k + 1)) (by decide)) fun t tree htree => ?_)
      intro table call scope s
      rw [evalExpr, Eval.bind_apply, htree]
      rfl

/-- The printed form of data is read as an expression that has the data as its value. -/
lemma rereads_data {v : Value} (h : v.IsData) :
    Rereads .expression v.display fun tree => tree.Denotes v := by
  induction h with
  | scalar scalar => exact rereads_scalar scalar
  | array items ih =>
    rw [Value.display, Value.displayElements_eq_map]
    exact (Rereads.array ih fun t trees htrees => Expr.denotes_array htrees).primary.expression
  | hash filed keys values ih =>
    have hcolon : TokenKind.colon.IsSign ": " :=
      TokenKind.isSign_of (c := ':') rfl (by decide) (.inr rfl)
    rw [Value.display, Value.displayEntries_eq_map]
    exact (Rereads.hash hcolon (fun e he => rereads_scalar (keys e he)) ih
      fun t pairs hpairs => Expr.denotes_hash filed hpairs).primary.expression

end Grammar

/-! ## Sessions -/

/-- The printed form of data is a text that every session answers with the data, printing nothing
and keeping all bindings. -/
theorem Session.eval_display_of_isData {v : Value} (h : v.IsData) (depth : Nat) (s : Session) :
    ∃ x w, s.eval depth v.display = some x ∧ x.response = .evaluated (some w) ∧ w = v ∧
      w.equal v = true ∧ x.printed = "" ∧
      x.next.interpreter.builtins = s.interpreter.builtins ∧
      x.next.interpreter.state.frames = s.interpreter.state.frames ∧
      x.next.interpreter.state.functions = s.interpreter.state.functions := by
  obtain ⟨t, tree, hparse, hdenotes⟩ := (Grammar.rereads_data h).parse
  have hstatements : ∀ table call scope (st : State),
      evalStmts table call [.exprStmt t tree] scope none st = .value (some v) st := by
    intro table call scope st
    rw [evalStmts, Eval.bind_apply, evalStmt, hdenotes]
    rfl
  let state : State := { s.interpreter.state with printed := "", events := [] }
  have heval : s.eval depth v.display =
      some ⟨.evaluated (some v), "", [], ⟨{ s.interpreter with state := state }⟩⟩ := by
    simp only [Session.eval, hparse, Interpreter.run, Interpreter.perform, evalProgram, settle,
      hstatements]
    rfl
  exact ⟨_, v, heval, rfl, rfl, v.equal_self, rfl, rfl, rfl, rfl⟩

/-- A hash with keys on both sides of zero, and an array in it. -/
theorem Session.eval_display_of_isData_nested :
    let v : Value := .hash [⟨.integer (-1), .integer (-1), .array [.integer 0, .boolean false]⟩,
      ⟨.integer 2, .integer 2, .hash []⟩, ⟨.boolean true, .boolean true, .integer (-7)⟩]
    v.IsData ∧ v.display = "\x7b-1: [0, false], 2: \x7b\x7d, true: -7\x7d" ∧
      ∃ x w, Session.new.eval 0 v.display = some x ∧ x.response = .evaluated (some w) ∧ w = v ∧
        w.equal v = true ∧ x.printed = "" ∧ x.next.interpreter.state.frames = #[⟨[], none⟩] := by
  intro v
  have hinteger : ∀ n : Int64, n ≠ Int64.minValue → (Value.integer n).IsScalar := fun _ => .integer
  have hfalse : (Value.boolean false).IsData := .scalar .boolean
  have hzero : (Value.integer 0).IsData := .scalar (hinteger 0 (by decide))
  have hempty : (Value.hash []).IsData :=
    .hash ⟨.nil, List.forall_mem_nil _⟩ (List.forall_mem_nil _) (List.forall_mem_nil _)
  have hdata : v.IsData := by
    refine .hash ⟨by decide, ?_⟩ ?_ ?_
    · simp [Value.hashKey?]
    · simp only [List.forall_mem_cons]
      exact ⟨hinteger _ (by decide), hinteger _ (by decide), .boolean, List.forall_mem_nil _⟩
    · simp only [List.forall_mem_cons]
      refine ⟨.array ?_, hempty, .scalar (hinteger _ (by decide)), List.forall_mem_nil _⟩
      simp only [List.forall_mem_cons]
      exact ⟨hzero, hfalse, List.forall_mem_nil _⟩
  obtain ⟨x, w, heval, hresponse, hw, hequal, hprinted, -, hframes, -⟩ :=
    Session.eval_display_of_isData hdata 0 .new
  exact ⟨hdata, by decide +kernel, x, w, heval, hresponse, hw, hequal, hprinted, hframes⟩

end MonkeyLang
