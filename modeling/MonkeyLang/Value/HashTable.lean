/-!
# Hash tables

A hash table files its entries under hash keys, in ascending order of the keys: first integers,
then booleans, then fingerprints of strings, each group by its signed number.  An entry keeps the
key that it was made with beside the hash key, since different keys can have one hash key.
-/

namespace MonkeyLang

/-! ## Hash keys -/

/-- What an entry is filed under. -/
inductive HashKey where
  | integer (n : Int64)
  | boolean (b : Bool)
  | string (fingerprint : Int64)
deriving DecidableEq

namespace HashKey

/-- The position of a key's group in the order. -/
def group : HashKey → Nat
  | integer _ => 0
  | boolean _ => 1
  | string _ => 2

/-- The number that orders a key within its group. -/
def number : HashKey → Int64
  | integer n => n
  | boolean b => if b then 1 else 0
  | string fingerprint => fingerprint

instance : LT HashKey :=
  ⟨fun a b => a.group < b.group ∨ (a.group = b.group ∧ a.number < b.number)⟩

instance (a b : HashKey) : Decidable (a < b) :=
  inferInstanceAs (Decidable (a.group < b.group ∨ (a.group = b.group ∧ a.number < b.number)))

end HashKey

/-! ## Entries -/

/-- A value with the key that it was stored with and the hash key that it is filed under. -/
structure Entry (α : Type) where
  hashKey : HashKey
  key : α
  value : α

/-- The entries of a table in ascending order of their hash keys. -/
abbrev HashTable (α : Type) := List (Entry α)

namespace HashTable

variable {α : Type}

/-- The table with an entry filed in its place; it replaces the entry with the same hash key. -/
def insert (entry : Entry α) : HashTable α → HashTable α
  | [] => [entry]
  | e :: es =>
    if entry.hashKey = e.hashKey then entry :: es
    else if entry.hashKey < e.hashKey then entry :: e :: es
    else e :: insert entry es

/-- The entry under a hash key. -/
def find? (table : HashTable α) (hashKey : HashKey) : Option (Entry α) :=
  List.find? (fun e => e.hashKey = hashKey) table

theorem find?_cons (e : Entry α) (es : HashTable α) (k : HashKey) :
    find? (e :: es) k = if e.hashKey = k then some e else find? es k := by
  by_cases h : e.hashKey = k <;> simp [find?, h]

/-- An entry is found under its own hash key, and all others are found as before. -/
theorem find?_insert (entry : Entry α) (table : HashTable α) (k : HashKey) :
    find? (insert entry table) k = if entry.hashKey = k then some entry else find? table k := by
  induction table with
  | nil => exact find?_cons entry [] k
  | cons e es ih =>
    rw [insert]
    split
    · rename_i he
      rw [find?_cons, find?_cons, ← he]
      split <;> rfl
    · rename_i he
      split
      · exact find?_cons entry (e :: es) k
      · rw [find?_cons, find?_cons, ih]
        by_cases hk : e.hashKey = k
        · rw [if_pos hk, if_pos hk, if_neg (hk ▸ he)]
        · rw [if_neg hk, if_neg hk]

end HashTable

end MonkeyLang
