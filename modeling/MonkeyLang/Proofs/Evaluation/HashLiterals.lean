import Mathlib.Tactic.Lemma
import MonkeyLang.Evaluation.Basic
import MonkeyLang.Interpreter
import MonkeyLang.Value.Equality

/-!
# Hash literals

A hash literal files its pairs one after the other, each under the hash key of its key, in place of
what was filed there.  So its table is a finite map in which the last pair under a hash key wins.
The order of the pairs shows in the table only through pairs with one hash key, since entries are
kept in ascending order of their hash keys.

The main definitions are `PairsEvaluate`, the keys and values that the pairs of a literal have, and
`HashTable.Files`, what a table keeps of them.  Nothing here depends on how the hash keys of strings
are made.
-/

namespace MonkeyLang

/-! ## The order of hash keys -/

namespace HashKey

lemma lt_asymm {a b : HashKey} (h : a < b) : ¬ b < a := by
  intro h'
  rcases h with hgroup | ⟨hgroup, hnumber⟩
  · rcases h' with hgroup' | ⟨hgroup', -⟩
    · exact Nat.lt_asymm hgroup hgroup'
    · exact absurd hgroup' (Nat.ne_of_gt hgroup)
  · rcases h' with hgroup' | ⟨-, hnumber'⟩
    · exact absurd hgroup (Nat.ne_of_gt hgroup')
    · exact Int64.lt_asymm hnumber hnumber'

lemma ne_of_lt {a b : HashKey} (h : a < b) : a ≠ b := by
  rintro rfl
  exact lt_asymm h h

lemma lt_trans {a b c : HashKey} (hab : a < b) (hbc : b < c) : a < c := by
  rcases hab with hgroup | ⟨hgroup, hnumber⟩
  · rcases hbc with hgroup' | ⟨hgroup', -⟩
    · exact .inl (Nat.lt_trans hgroup hgroup')
    · exact .inl (hgroup' ▸ hgroup)
  · rcases hbc with hgroup' | ⟨hgroup', hnumber'⟩
    · exact .inl (hgroup ▸ hgroup')
    · exact .inr ⟨hgroup.trans hgroup', Int64.lt_trans hnumber hnumber'⟩

/-- A hash key is known from its group and its number. -/
lemma eq_of_group_number {a b : HashKey} (hgroup : a.group = b.group)
    (hnumber : a.number = b.number) : a = b := by
  have hboolean : ∀ a b : Bool, (boolean a).number = (boolean b).number → a = b := by decide
  cases a <;> cases b <;> try cases hgroup
  · exact congrArg integer hnumber
  · exact congrArg boolean (hboolean _ _ hnumber)
  · exact congrArg string hnumber

lemma lt_of_not_lt {a b : HashKey} (hne : a ≠ b) (h : ¬ a < b) : b < a := by
  rcases Nat.lt_trichotomy a.group b.group with hgroup | hgroup | hgroup
  · exact absurd (.inl hgroup) h
  · rcases Int64.lt_or_lt_of_ne (fun hnumber => hne (eq_of_group_number hgroup hnumber))
      with hnumber | hnumber
    · exact absurd (.inr ⟨hgroup, hnumber⟩) h
    · exact .inr ⟨hgroup.symm, hnumber⟩
  · exact .inl hgroup

end HashKey

/-! ## Tables in order -/

namespace HashTable

/-- Every entry is filed under the hash key of its key, in ascending order. -/
structure Filed (table : HashTable Value) : Prop where
  ascending : table.Pairwise (·.hashKey < ·.hashKey)
  hashKey_eq : ∀ e ∈ table, e.key.hashKey? = some e.hashKey

variable {table table' : HashTable Value} {entry e : Entry Value}

lemma mem_insert (h : e ∈ table.insert entry) : e = entry ∨ e ∈ table := by
  induction table with
  | nil => exact .inl (List.mem_singleton.1 h)
  | cons d table ih =>
    rw [insert] at h
    split at h
    · exact (List.mem_cons.1 h).imp_right (List.mem_cons_of_mem d)
    · split at h
      · exact List.mem_cons.1 h
      · rcases List.mem_cons.1 h with rfl | h
        · exact .inr List.mem_cons_self
        · exact (ih h).imp_right (List.mem_cons_of_mem d)

lemma ascending_insert (h : table.Pairwise (·.hashKey < ·.hashKey)) :
    (table.insert entry).Pairwise (·.hashKey < ·.hashKey) := by
  induction table with
  | nil => exact List.pairwise_singleton _ _
  | cons d table ih =>
    obtain ⟨hfirst, hothers⟩ := List.pairwise_cons.1 h
    rw [insert]
    split
    · next heq =>
      rw [← heq] at hfirst
      exact List.pairwise_cons.2 ⟨hfirst, hothers⟩
    · next hne =>
      split
      · next hlt =>
        have hbefore : ∀ e ∈ d :: table, entry.hashKey < e.hashKey :=
          List.forall_mem_cons.2 ⟨hlt, fun e he => HashKey.lt_trans hlt (hfirst e he)⟩
        exact List.pairwise_cons.2 ⟨hbefore, h⟩
      · next hlt =>
        refine List.pairwise_cons.2 ⟨fun e he => ?_, ih hothers⟩
        rcases mem_insert he with rfl | he
        · exact HashKey.lt_of_not_lt hne hlt
        · exact hfirst e he

lemma Filed.insert (h : table.Filed) (hentry : entry.key.hashKey? = some entry.hashKey) :
    Filed (table.insert entry) where
  ascending := ascending_insert h.ascending
  hashKey_eq e he := by
    rcases mem_insert he with rfl | he
    · exact hentry
    · exact h.hashKey_eq e he

/-- In ascending order every entry is the one under its hash key. -/
lemma find?_of_mem (h : table.Pairwise (·.hashKey < ·.hashKey)) (he : e ∈ table) :
    table.find? e.hashKey = some e := by
  induction table with
  | nil => cases he
  | cons d table ih =>
    obtain ⟨hfirst, hothers⟩ := List.pairwise_cons.1 h
    rw [find?_cons]
    rcases List.mem_cons.1 he with rfl | he
    · exact if_pos rfl
    · rw [if_neg (HashKey.ne_of_lt (hfirst e he)), ih hothers he]

/-- What is found is an entry with the hash key. -/
lemma mem_of_find? {k : HashKey} (h : table.find? k = some e) : e ∈ table ∧ e.hashKey = k :=
  ⟨List.mem_of_find?_eq_some h, by simpa using List.find?_some h⟩

/-- Tables in ascending order are known from their entries. -/
lemma eq_of_mem_iff (h : table.Pairwise (·.hashKey < ·.hashKey))
    (h' : table'.Pairwise (·.hashKey < ·.hashKey)) (hmem : ∀ e, e ∈ table ↔ e ∈ table') :
    table = table' := by
  have hnodup : ∀ es : HashTable Value, es.Pairwise (·.hashKey < ·.hashKey) → es.Nodup :=
    fun es hes => hes.imp fun hlt heq => HashKey.ne_of_lt hlt (congrArg Entry.hashKey heq)
  refine List.Perm.eq_of_pairwise (fun d e _ _ hlt hgt => absurd hgt (HashKey.lt_asymm hlt)) h h' ?_
  exact (List.perm_ext_iff_of_nodup (hnodup _ h) (hnodup _ h')).2 hmem

/-! ## Filing pairs -/

/-- The table with pairs of keys and values filed one after the other.  A pair whose key cannot be
a key is passed over. -/
def filePairs : List (Value × Value) → HashTable Value → HashTable Value
  | [], filed => filed
  | (key, value) :: pairs, filed =>
    match key.hashKey? with
    | none => filePairs pairs filed
    | some k => filePairs pairs (filed.insert ⟨k, key, value⟩)

/-- The pair is the last one with a key of the hash key. -/
def IsLast (pairs : List (Value × Value)) (k : HashKey) (pair : Value × Value) : Prop :=
  ∃ before after, pairs = before ++ pair :: after ∧ pair.1.hashKey? = some k ∧
    ∀ p ∈ after, p.1.hashKey? ≠ some k

variable {pairs : List (Value × Value)} {pair : Value × Value} {k : HashKey}
  {filed : HashTable Value}

lemma filePairs_append (xs ys : List (Value × Value)) (filed : HashTable Value) :
    filePairs (xs ++ ys) filed = filePairs ys (filePairs xs filed) := by
  induction xs generalizing filed with
  | nil => rfl
  | cons x xs ih =>
    obtain ⟨key, value⟩ := x
    rw [List.cons_append, filePairs, filePairs]
    cases key.hashKey? <;> exact ih _

lemma Filed.filePairs (h : filed.Filed) (pairs : List (Value × Value)) :
    Filed (HashTable.filePairs pairs filed) := by
  induction pairs generalizing filed with
  | nil => exact h
  | cons p pairs ih =>
    obtain ⟨key, value⟩ := p
    rw [HashTable.filePairs]
    cases hkey : key.hashKey? with
    | none => exact ih h
    | some k => exact ih (h.insert hkey)

/-- Pairs with other hash keys do not change what is found. -/
lemma find?_filePairs_of_ne (h : ∀ p ∈ pairs, p.1.hashKey? ≠ some k) :
    (filePairs pairs filed).find? k = filed.find? k := by
  induction pairs generalizing filed with
  | nil => rfl
  | cons p pairs ih =>
    obtain ⟨key, value⟩ := p
    obtain ⟨hfirst, hothers⟩ := List.forall_mem_cons.1 h
    rw [filePairs]
    cases hkey : key.hashKey? with
    | none => exact ih hothers
    | some k' =>
      have hne : k' ≠ k := fun heq => hfirst (heq ▸ hkey)
      dsimp only
      rw [ih hothers, find?_insert, if_neg hne]

/-- The last pair under a hash key is found there. -/
lemma IsLast.find? (h : IsLast pairs k pair) (filed : HashTable Value) :
    (filePairs pairs filed).find? k = some ⟨k, pair.1, pair.2⟩ := by
  obtain ⟨before, after, rfl, hkey, hafter⟩ := h
  obtain ⟨key, value⟩ := pair
  rw [filePairs_append, filePairs]
  simp only at hkey
  rw [hkey]
  dsimp only
  rw [find?_filePairs_of_ne hafter, find?_insert, if_pos rfl]

/-- Of the pairs under a hash key one is the last. -/
lemma exists_isLast (h : ∃ p ∈ pairs, p.1.hashKey? = some k) : ∃ last, IsLast pairs k last := by
  induction pairs with
  | nil =>
    obtain ⟨p, hp, -⟩ := h
    cases hp
  | cons first pairs ih =>
    by_cases hbehind : ∃ p ∈ pairs, p.1.hashKey? = some k
    · obtain ⟨last, before, after, rfl, hlast⟩ := ih hbehind
      exact ⟨last, first :: before, after, rfl, hlast⟩
    · obtain ⟨p, hp, hkey⟩ := h
      rcases List.mem_cons.1 hp with rfl | hp
      · exact ⟨p, [], pairs, rfl, hkey, fun q hq hq' => hbehind ⟨q, hq, hq'⟩⟩
      · exact absurd ⟨p, hp, hkey⟩ hbehind

lemma IsLast.mem (h : IsLast pairs k pair) : pair ∈ pairs := by
  obtain ⟨before, after, rfl, -⟩ := h
  exact List.mem_append_right before List.mem_cons_self

/-- If no two pairs have one hash key, every pair is the last one under its own. -/
lemma isLast_iff_of_nodup (hnodup : (pairs.map (·.1.hashKey?)).Nodup) :
    IsLast pairs k pair ↔ pair ∈ pairs ∧ pair.1.hashKey? = some k := by
  constructor
  · intro h
    have hmem := h.mem
    obtain ⟨-, -, -, hkey, -⟩ := h
    exact ⟨hmem, hkey⟩
  · rintro ⟨hmem, hkey⟩
    obtain ⟨before, after, rfl⟩ := List.append_of_mem hmem
    refine ⟨before, after, rfl, hkey, fun p hp hp' => ?_⟩
    rw [List.map_append, List.map_cons] at hnodup
    have hbehind := (List.nodup_cons.1 (List.nodup_append.1 hnodup).2.1).1
    exact hbehind (List.mem_map.2 ⟨p, hp, hp'.trans hkey.symm⟩)

/-! ## The table of a literal -/

/-- What a table keeps of pairs that were filed one after the other. -/
structure Files (table : HashTable Value) (pairs : List (Value × Value)) : Prop where
  /-- There is one entry for each hash key, and they are in order. -/
  ascending : table.Pairwise (·.hashKey < ·.hashKey)
  hashKeys : ∀ k, (∃ e ∈ table, e.hashKey = k) ↔ ∃ p ∈ pairs, p.1.hashKey? = some k
  /-- An entry keeps the key and the value of the last pair under its hash key. -/
  last : ∀ e ∈ table, IsLast pairs e.hashKey (e.key, e.value)
  /-- An index selects the value of the last pair with its hash key. -/
  index_last : ∀ q k p, q.hashKey? = some k → IsLast pairs k p →
    (Value.hash table).index q = .ok p.2
  /-- Without such a pair it selects `null`. -/
  index_none : ∀ q k, q.hashKey? = some k → (∀ p ∈ pairs, p.1.hashKey? ≠ some k) →
    (Value.hash table).index q = .ok .null

lemma index_eq {q : Value} (h : q.hashKey? = some k) :
    (Value.hash table).index q = .ok (((table.find? k).map (·.value)).getD .null) := by
  rw [Value.index, Value.requireHashKey, h]
  rfl

/-- The table of pairs that are filed one after the other, in the beginning in no table. -/
lemma files_filePairs (pairs : List (Value × Value)) : Files (filePairs pairs []) pairs := by
  have hfiled : Filed (filePairs pairs []) := Filed.filePairs ⟨.nil, nofun⟩ pairs
  have hlast : ∀ e ∈ filePairs pairs [], IsLast pairs e.hashKey (e.key, e.value) := by
    intro e he
    have hfind := find?_of_mem hfiled.ascending he
    by_cases hsome : ∃ p ∈ pairs, p.1.hashKey? = some e.hashKey
    · obtain ⟨last, hlast⟩ := exists_isLast hsome
      have heq := Option.some.inj (hfind.symm.trans (hlast.find? []))
      have hpair : (e.key, e.value) = last := by rw [heq]
      exact hpair ▸ hlast
    · have hnone : ∀ p ∈ pairs, p.1.hashKey? ≠ some e.hashKey := fun p hp hp' => hsome ⟨p, hp, hp'⟩
      rw [find?_filePairs_of_ne hnone] at hfind
      cases hfind
  refine ⟨hfiled.ascending, fun k => ⟨?_, fun hsome => ?_⟩, hlast, ?_, ?_⟩
  · rintro ⟨e, he, rfl⟩
    exact ⟨_, (hlast e he).mem, hfiled.hashKey_eq e he⟩
  · obtain ⟨last, hlast⟩ := exists_isLast hsome
    exact ⟨_, mem_of_find? (hlast.find? [])⟩
  · intro q k p hq hp
    rw [index_eq hq, hp.find?]
    rfl
  · intro q k hq hnone
    rw [index_eq hq, find?_filePairs_of_ne hnone]
    rfl

/-- Without two pairs under one hash key there is an entry for every pair that can be filed. -/
lemma mem_filePairs_iff (hnodup : (pairs.map (·.1.hashKey?)).Nodup) :
    e ∈ filePairs pairs [] ↔ (e.key, e.value) ∈ pairs ∧ e.key.hashKey? = some e.hashKey := by
  rw [← isLast_iff_of_nodup hnodup]
  constructor
  · exact fun he => (files_filePairs pairs).last e he
  · exact fun he => (mem_of_find? (he.find? [])).1

/-- Without two pairs under one hash key, the order of the pairs does not matter. -/
lemma filePairs_perm {pairs' : List (Value × Value)} (h : pairs.Perm pairs')
    (hnodup : (pairs.map (·.1.hashKey?)).Nodup) : filePairs pairs [] = filePairs pairs' [] := by
  have hnodup' : (pairs'.map (·.1.hashKey?)).Nodup := (h.map _).nodup_iff.1 hnodup
  refine eq_of_mem_iff (files_filePairs pairs).ascending (files_filePairs pairs').ascending
    fun e => ?_
  rw [mem_filePairs_iff hnodup, mem_filePairs_iff hnodup', h.mem_iff]

/-- The entries of a table, filed one after the other, make up the same table. -/
lemma Filed.filePairs_entries (h : table.Filed) :
    HashTable.filePairs (table.map fun e => (e.key, e.value)) [] = table := by
  have hnodup : ((table.map fun e => (e.key, e.value)).map (·.1.hashKey?)).Nodup := by
    have hkeys : (table.map fun e => (e.key, e.value)).map (·.1.hashKey?) =
        table.map fun e => some e.hashKey := by
      rw [List.map_map]
      exact List.map_congr_left h.hashKey_eq
    rw [hkeys]
    refine List.pairwise_map.2 (h.ascending.imp fun hlt heq => ?_)
    exact HashKey.ne_of_lt hlt (Option.some.inj heq)
  refine eq_of_mem_iff (files_filePairs _).ascending h.ascending fun e => ?_
  rw [mem_filePairs_iff hnodup, List.mem_map]
  constructor
  · rintro ⟨⟨⟨k, key, value⟩, hd, heq⟩, hkey⟩
    obtain ⟨rfl, rfl⟩ := Prod.mk.inj heq
    have hk : k = e.hashKey := Option.some.inj ((h.hashKey_eq _ hd).symm.trans hkey)
    rwa [hk] at hd
  · exact fun he => ⟨⟨e, he, rfl⟩, h.hashKey_eq e he⟩

end HashTable

/-! ## Scalar keys -/

/-- Values with one hash key have one type, and apart from strings they are the same value. -/
lemma Value.eq_of_hashKey? {v w : Value} {k : HashKey} (hv : v.hashKey? = some k)
    (hw : w.hashKey? = some k) : v.type = w.type ∧ (w.type ≠ .string → v = w) := by
  have hsame : v.hashKey? = w.hashKey? := hv.trans hw.symm
  have hsome : w.hashKey?.isSome := Option.isSome_of_eq_some hw
  clear hv hw
  cases v <;> cases w <;> simp_all [hashKey?, type]

/-- A table of filed pairs has an entry under the hash key of a value that is no string exactly if
the value is one of the keys. -/
lemma HashTable.Files.isSome_find?_iff {table : HashTable Value} {pairs : List (Value × Value)}
    (h : table.Files pairs) {q : Value} {k : HashKey} (hq : q.hashKey? = some k)
    (hstring : q.type ≠ .string) : (table.find? k).isSome ↔ ∃ p ∈ pairs, p.1 = q := by
  constructor
  · intro hsome
    obtain ⟨e, he⟩ := Option.isSome_iff_exists.1 hsome
    obtain ⟨hmem, rfl⟩ := mem_of_find? he
    obtain ⟨p, hp, hkey⟩ := (h.hashKeys e.hashKey).1 ⟨e, hmem, rfl⟩
    exact ⟨p, hp, (Value.eq_of_hashKey? hkey hq).2 hstring⟩
  · rintro ⟨p, hp, rfl⟩
    obtain ⟨e, he, rfl⟩ := (h.hashKeys k).2 ⟨p, hp, hq⟩
    rw [find?_of_mem h.ascending he]
    rfl

/-! ## Evaluation -/

section

variable {table : BuiltinTable} {call : Value → List Value → Eval Value} {scope : FrameId}

/-- Every key of the pairs has a value that can be a key, and behind it the value has a value. -/
inductive PairsEvaluate (table : BuiltinTable) (call : Value → List Value → Eval Value)
    (scope : FrameId) : List (Expr × Expr) → State → List (Value × Value) → State → Prop where
  | nil {s : State} : PairsEvaluate table call scope [] s [] s
  | cons {key value : Expr} {pairs : List (Expr × Expr)} {k v : Value}
      {kvs : List (Value × Value)} {s s₁ s₂ t : State}
      (evaluatesKey : evalExpr table call key scope s = .value k s₁)
      (hashable : k.hashKey?.isSome)
      (evaluatesValue : evalExpr table call value scope s₁ = .value v s₂)
      (others : PairsEvaluate table call scope pairs s₂ kvs t) :
      PairsEvaluate table call scope ((key, value) :: pairs) s ((k, v) :: kvs) t

lemma PairsEvaluate.evalPairs_eq {pairs : List (Expr × Expr)} {kvs : List (Value × Value)}
    {s t : State} (h : PairsEvaluate table call scope pairs s kvs t) (filed : HashTable Value) :
    evalPairs table call pairs scope filed s = .value (HashTable.filePairs kvs filed) t := by
  induction h generalizing filed with
  | nil => rfl
  | cons evaluatesKey hashable evaluatesValue _ ih =>
    obtain ⟨k, hk⟩ := Option.isSome_iff_exists.1 hashable
    rw [evalPairs, Eval.bind_apply, evaluatesKey]
    simp only [Eval.bind_apply, Value.requireHashKey, hk, Eval.ofExcept, Eval.pure_apply,
      evaluatesValue, ih, HashTable.filePairs]

lemma PairsEvaluate.evalExpr_eq {pairs : List (Expr × Expr)} {kvs : List (Value × Value)}
    {s t : State} (h : PairsEvaluate table call scope pairs s kvs t) (token : Token) :
    evalExpr table call (.hash token pairs) scope s =
      .value (.hash (HashTable.filePairs kvs [])) t := by
  rw [evalExpr, Eval.bind_apply, h.evalPairs_eq []]
  rfl

/-- The value of a hash literal is a finite map of its pairs in which the last pair under a hash key
wins.  Under the hash key of an integer or a boolean only that very value is found, and under that
of any value only values of its type.  If no two pairs have one hash key, the same pairs in any
order make up an equal hash. -/
theorem hash_literal_files_last {pairs : List (Expr × Expr)} {kvs : List (Value × Value)}
    {s t : State} (h : PairsEvaluate table call scope pairs s kvs t) (token : Token) :
    ∃ entries : HashTable Value,
      evalExpr table call (.hash token pairs) scope s = .value (.hash entries) t ∧
      entries.Files kvs ∧
      (∀ q k, q.hashKey? = some k →
        (∀ e, entries.find? k = some e →
          e.key.type = q.type ∧ (q.type = .integer ∨ q.type = .boolean → e.key = q)) ∧
        (q.type = .integer ∨ q.type = .boolean →
          ((entries.find? k).isSome ↔ ∃ p ∈ kvs, p.1 = q))) ∧
      ∀ kvs' pairs' token' s' t', kvs.Perm kvs' → (kvs.map (·.1.hashKey?)).Nodup →
        PairsEvaluate table call scope pairs' s' kvs' t' → ∃ entries',
          evalExpr table call (.hash token' pairs') scope s' = .value (.hash entries') t' ∧
          (Value.hash entries').equal (.hash entries) = true ∧
          (Value.hash entries').display = (Value.hash entries).display := by
  have hfiles := HashTable.files_filePairs kvs
  have hstring : ∀ q : Value, q.type = .integer ∨ q.type = .boolean → q.type ≠ .string := by
    rintro q (hq | hq) <;> rw [hq] <;> decide
  refine ⟨_, h.evalExpr_eq token, hfiles, fun q k hq => ⟨fun e he => ?_, fun hscalar => ?_⟩,
    fun kvs' pairs' token' s' t' hperm hnodup h' => ?_⟩
  · obtain ⟨hmem, rfl⟩ := HashTable.mem_of_find? he
    obtain ⟨-, -, -, hkey, -⟩ := hfiles.last e hmem
    obtain ⟨htype, heq⟩ := Value.eq_of_hashKey? hkey hq
    exact ⟨htype, fun hscalar => heq (hstring q hscalar)⟩
  · exact hfiles.isSome_find?_iff hq (hstring q hscalar)
  · refine ⟨_, h'.evalExpr_eq token', ?_, ?_⟩
    · rw [HashTable.filePairs_perm hperm hnodup]
      exact Value.equal_self _
    · rw [HashTable.filePairs_perm hperm hnodup]

/-- A key that comes twice, beside keys of other types; and two pairs in either order. -/
theorem hash_literal_files_last_twice :
    let t := Token.endOfText 0
    let s := Interpreter.standard.state
    let evaluates := PairsEvaluate .standard (apply .standard 0) globalFrame
    let first : Expr × Expr := (.integer t 1, .integer t 2)
    let second : Expr × Expr := (.boolean t true, .integer t 3)
    let last : Expr × Expr := (.integer t 1, .string t "x")
    let kvs : List (Value × Value) :=
      [(.integer 1, .integer 2), (.boolean true, .integer 3), (.integer 1, .string "x")]
    evaluates [first, second, last] s kvs s ∧
      (∃ entries : HashTable Value,
        evalExpr .standard (apply .standard 0) (.hash t [first, second, last]) globalFrame s =
          .value (.hash entries) s ∧
        entries.Files kvs ∧ (Value.hash entries).index (.integer 1) = .ok (.string "x")) ∧
      ∃ entries entries' : HashTable Value,
        evalExpr .standard (apply .standard 0) (.hash t [second, first]) globalFrame s =
          .value (.hash entries) s ∧
        evalExpr .standard (apply .standard 0) (.hash t [first, second]) globalFrame s =
          .value (.hash entries') s ∧
        (Value.hash entries').equal (.hash entries) = true := by
  intro t s evaluates first second last kvs
  have hthree : evaluates [first, second, last] s kvs s :=
    .cons rfl rfl rfl (.cons rfl rfl rfl (.cons rfl rfl rfl .nil))
  have htwo : evaluates [second, first] s
      [(.boolean true, .integer 3), (.integer 1, .integer 2)] s :=
    .cons rfl rfl rfl (.cons rfl rfl rfl .nil)
  have hswapped : evaluates [first, second] s
      [(.integer 1, .integer 2), (.boolean true, .integer 3)] s :=
    .cons rfl rfl rfl (.cons rfl rfl rfl .nil)
  obtain ⟨entries, heval, hfiles, -⟩ := hash_literal_files_last hthree t
  obtain ⟨entries₂, heval₂, -, -, hperm⟩ := hash_literal_files_last htwo t
  obtain ⟨entries', heval', hequal, -⟩ :=
    hperm _ _ t _ _ (List.Perm.swap _ _ []) (by decide) hswapped
  refine ⟨hthree, ⟨entries, heval, hfiles, ?_⟩, entries₂, entries', heval₂, heval', hequal⟩
  exact hfiles.index_last (.integer 1) (.integer 1) (.integer 1, .string "x") rfl
    ⟨kvs.take 2, [], rfl, rfl, nofun⟩

end

end MonkeyLang
