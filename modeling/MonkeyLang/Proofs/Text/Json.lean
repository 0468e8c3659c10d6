import MonkeyLang.Proofs.Syntax.Lexing
import MonkeyLang.Text.Json

/-!
# The text of a document determines it

Documents with the same text are the same (`Json.pretty_injective`), whatever their strings contain.
Behind a document in a longer text stands a comma or a line break, if anything, so the text is cut
up without a choice: a string ends at the first quote that is not escaped (`quote_append_inj`), a
numeral with its digits (`signedDecimal_append_inj`), an array or an object with its last item, and
the first characters tell which of these comes (`Json.Form`).
-/

namespace MonkeyLang

/-! ## Numerals -/

namespace Text

variable {r s : List Char}

/-- A run of characters of a class is told from the text behind it, which begins otherwise. -/
lemma append_inj_of_consistsOf {p : Char → Bool} {a b : String} (ha : ConsistsOf p a)
    (hb : ConsistsOf p b) (hr : ∀ d ∈ r.head?, p d = false) (hs : ∀ d ∈ s.head?, p d = false)
    (h : a.toList ++ r = b.toList ++ s) : a = b ∧ r = s := by
  have hcut : ∀ {text : String} {rest : List Char}, ConsistsOf p text →
      (∀ d ∈ rest.head?, p d = false) → (text.toList ++ rest).takeWhile p = text.toList := by
    intro text rest htext hrest
    obtain ⟨c, cs, hcs⟩ := List.exists_cons_of_ne_nil htext.ne_nil
    obtain ⟨hc, htake, -⟩ := htext.cut hcs hrest
    rw [hcs, List.cons_append, List.takeWhile_cons_of_pos hc, htake]
  have hsame : a.toList = b.toList := by rw [← hcut ha hr, h, hcut hb hs]
  rw [hsame] at h
  exact ⟨String.toList_injective hsame, List.append_cancel_left h⟩

lemma decimal_injective {m n : Nat} (h : decimal m = decimal n) : m = n := by
  have hdigits := congrArg String.toList h
  rw [decimal, decimal, String.toList_ofList, String.toList_ofList] at hdigits
  rw [← ofDigits_digits m, ← ofDigits_digits n, hdigits]

/-- The numeral of a natural number is told from the text behind it. -/
lemma decimal_append_inj {m n : Nat} (hr : ∀ d ∈ r.head?, d.isDigit = false)
    (hs : ∀ d ∈ s.head?, d.isDigit = false)
    (h : (decimal m).toList ++ r = (decimal n).toList ++ s) : m = n ∧ r = s := by
  obtain ⟨hsame, hrest⟩ :=
    append_inj_of_consistsOf (consistsOf_decimal m) (consistsOf_decimal n) hr hs h
  exact ⟨decimal_injective hsame, hrest⟩

lemma exists_digit_decimal (n : Nat) :
    ∃ c cs, (decimal n).toList = c :: cs ∧ c.isDigit = true := by
  obtain ⟨c, cs, hcs⟩ := List.exists_cons_of_ne_nil (consistsOf_decimal n).ne_nil
  exact ⟨c, cs, hcs, (consistsOf_decimal n).all c (by simp [hcs])⟩

lemma decimal_append_ne_minus (n : Nat) : (decimal n).toList ++ r ≠ '-' :: s := by
  intro h
  obtain ⟨c, cs, hcs, hc⟩ := exists_digit_decimal n
  rw [hcs, List.cons_append, List.cons_eq_cons] at h
  rw [h.1] at hc
  exact absurd hc (by decide)

lemma toList_signedDecimal_negSucc (n : Nat) :
    (signedDecimal (.negSucc n)).toList = '-' :: (decimal (n + 1)).toList := by
  simp [signedDecimal]

/-- The numeral of an integer is told from the text behind it. -/
theorem signedDecimal_append_inj {m n : Int} (hr : ∀ d ∈ r.head?, d.isDigit = false)
    (hs : ∀ d ∈ s.head?, d.isDigit = false)
    (h : (signedDecimal m).toList ++ r = (signedDecimal n).toList ++ s) : m = n ∧ r = s := by
  cases m with
  | ofNat k =>
    cases n with
    | ofNat l =>
      obtain ⟨rfl, hrest⟩ := decimal_append_inj hr hs h
      exact ⟨rfl, hrest⟩
    | negSucc l =>
      rw [toList_signedDecimal_negSucc] at h
      exact absurd h (decimal_append_ne_minus k)
  | negSucc k =>
    cases n with
    | ofNat l =>
      rw [toList_signedDecimal_negSucc] at h
      exact absurd h.symm (decimal_append_ne_minus l)
    | negSucc l =>
      rw [toList_signedDecimal_negSucc, toList_signedDecimal_negSucc] at h
      obtain ⟨hsame, hrest⟩ := decimal_append_inj hr hs (List.tail_eq_of_cons_eq h)
      exact ⟨by rw [Nat.succ.inj hsame], hrest⟩

end Text

namespace Json

/-! ## Strings -/

/-- The value of a lower-case hexadecimal digit. -/
def hexValue (c : Char) : Nat := if c.isDigit then c.toNat - 48 else c.toNat - 87

/-- The character that comes first between the quotes of a string, and the text behind it. -/
def unescape? : List Char → Option (Char × List Char)
  | '\\' :: '"' :: r => some ('"', r)
  | '\\' :: '\\' :: r => some ('\\', r)
  | '\\' :: 'n' :: r => some ('\n', r)
  | '\\' :: 't' :: r => some ('\t', r)
  | '\\' :: 'r' :: r => some ('\r', r)
  | '\\' :: 'b' :: r => some ('\x08', r)
  | '\\' :: 'f' :: r => some ('\x0c', r)
  | '\\' :: 'u' :: '0' :: '0' :: a :: b :: r =>
    some (.ofNat (16 * hexValue a + hexValue b), r)
  | '\\' :: _ => none
  | '"' :: _ => none
  | c :: r => some (c, r)
  | [] => none

lemma hexValue_hexDigit {n : Nat} (h : n < 16) : hexValue (Text.hexDigit n) = n := by
  have hall : ∀ n < 16, hexValue (Text.hexDigit n) = n := by decide
  exact hall n h

/-- What stands for a character is read as that character. -/
lemma unescape?_escape (c : Char) (r : List Char) :
    unescape? (escape c ++ r) = some (c, r) := by
  unfold escape
  repeat' split
  -- The characters with a name of their own are closed here, then the other controls and the rest.
  all_goals try (subst c; rfl)
  · next hcontrol =>
    have hhigh := hexValue_hexDigit (n := c.toNat / 16) (by omega)
    have hlow := hexValue_hexDigit (n := c.toNat % 16) (by omega)
    have hvalue : Char.ofNat (16 * (c.toNat / 16) + c.toNat % 16) = c := by
      rw [Nat.div_add_mod, Char.ofNat_toNat]
    simp [unescape?, hhigh, hlow, hvalue]
  · rw [List.singleton_append, unescape?.eq_def]
    split <;> simp_all

variable {r s : List Char}

lemma escape_append_inj {c d : Char} (h : escape c ++ r = escape d ++ s) : c = d ∧ r = s := by
  have hread := congrArg unescape? h
  rw [unescape?_escape, unescape?_escape, Option.some.injEq, Prod.mk.injEq] at hread
  exact hread

/-- What stands for a character does not begin with the quote that ends a string. -/
lemma escape_append_ne_quote (c : Char) : escape c ++ r ≠ '"' :: s := by
  intro h
  have hread := congrArg unescape? h
  rw [unescape?_escape] at hread
  cases hread

/-- A string ends at the first quote that stands for no character. -/
lemma escapes_append_inj {cs ds : List Char}
    (h : cs.flatMap escape ++ '"' :: r = ds.flatMap escape ++ '"' :: s) : cs = ds ∧ r = s := by
  induction cs generalizing ds with
  | nil =>
    cases ds with
    | nil => exact ⟨rfl, List.tail_eq_of_cons_eq h⟩
    | cons d ds =>
      rw [List.flatMap_cons, List.append_assoc] at h
      exact absurd h.symm (escape_append_ne_quote d)
  | cons c cs ih =>
    cases ds with
    | nil =>
      rw [List.flatMap_cons, List.append_assoc] at h
      exact absurd h (escape_append_ne_quote c)
    | cons d ds =>
      rw [List.flatMap_cons, List.flatMap_cons, List.append_assoc, List.append_assoc] at h
      obtain ⟨rfl, hothers⟩ := escape_append_inj h
      obtain ⟨rfl, hrest⟩ := ih hothers
      exact ⟨rfl, hrest⟩

/-- A string in quotes is told from the text behind it. -/
theorem quote_append_inj {a b : String} (h : (quote a).toList ++ r = (quote b).toList ++ s) :
    a = b ∧ r = s := by
  rw [quote, quote, String.toList_ofList, String.toList_ofList] at h
  simp only [List.cons_append, List.append_assoc] at h
  obtain ⟨hsame, hrest⟩ := escapes_append_inj (List.tail_eq_of_cons_eq h)
  exact ⟨String.toList_injective hsame, hrest⟩

/-! ## The form of a document -/

/-- The forms of documents. -/
inductive Form where
  | null
  | boolean (b : Bool)
  | integer | string
  | noItems | items
  | noFields | fields

/-- The form of the document whose text begins with the characters. -/
def Form.ofText : List Char → Form
  | 'n' :: _ => null
  | 't' :: _ => boolean true
  | 'f' :: _ => boolean false
  | '"' :: _ => string
  | '[' :: ']' :: _ => noItems
  | '[' :: _ => items
  | '\x7b' :: '\x7d' :: _ => noFields
  | '\x7b' :: _ => fields
  | _ => integer

/-- The form of a document. -/
def form : Json → Form
  | .null => .null
  | .boolean b => .boolean b
  | .integer _ => .integer
  | .string _ => .string
  | .array [] => .noItems
  | .array (_ :: _) => .items
  | .object [] => .noFields
  | .object (_ :: _) => .fields

/-- The document is of the form. -/
def Form.Fits : Form → Json → Prop
  | null, j => j = .null
  | boolean b, j => j = .boolean b
  | integer, j => ∃ n, j = .integer n
  | string, j => ∃ s, j = .string s
  | noItems, j => j = .array []
  | items, j => ∃ item items, j = .array (item :: items)
  | noFields, j => j = .object []
  | fields, j => ∃ key value fields, j = .object ((key, value) :: fields)

lemma fits_form (j : Json) : j.form.Fits j := by
  rcases j with _ | _ | _ | _ | ⟨_ | _⟩ | ⟨_ | ⟨⟨_, _⟩, _⟩⟩ <;> simp [form, Form.Fits]

/-- The text of an integer begins with a digit or a minus sign. -/
lemma Form.ofText_signedDecimal (n : Int) :
    ofText ((Text.signedDecimal n).toList ++ r) = integer := by
  cases n with
  | ofNat k =>
    obtain ⟨c, cs, hcs, hc⟩ := Text.exists_digit_decimal k
    rw [Text.signedDecimal, hcs, List.cons_append, ofText.eq_def]
    split <;> simp_all
  | negSucc k =>
    rw [Text.signedDecimal, String.toList_append]
    rfl

section

variable (depth : Nat) (item : Json) (items : List Json) (key : String)
  (fields : List (String × Json)) (r : List Char)

lemma prettyAt_array_append : (prettyAt depth (.array (item :: items))).toList ++ r =
    '[' :: ((newline (depth + 1)).toList ++ ((prettyAt (depth + 1) item).toList ++
      ((prettyItems (depth + 1) items).toList ++ ((newline depth).toList ++ ']' :: r)))) := by
  simp [prettyAt]

lemma prettyAt_object_append : (prettyAt depth (.object ((key, item) :: fields))).toList ++ r =
    '\x7b' :: ((newline (depth + 1)).toList ++ ((quote key).toList ++ ':' :: ' ' ::
      ((prettyAt (depth + 1) item).toList ++ ((prettyFields (depth + 1) fields).toList ++
        ((newline depth).toList ++ '\x7d' :: r))))) := by
  simp [prettyAt]

lemma prettyItems_append : (prettyItems depth (item :: items)).toList ++ r =
    ',' :: ((newline depth).toList ++ ((prettyAt depth item).toList ++
      ((prettyItems depth items).toList ++ r))) := by
  simp [prettyItems]

lemma prettyFields_append : (prettyFields depth ((key, item) :: fields)).toList ++ r =
    ',' :: ((newline depth).toList ++ ((quote key).toList ++ ':' :: ' ' ::
      ((prettyAt depth item).toList ++ ((prettyFields depth fields).toList ++ r)))) := by
  simp [prettyFields]

/-- The first characters of its text tell the form of a document. -/
lemma ofText_prettyAt (j : Json) : Form.ofText ((prettyAt depth j).toList ++ r) = j.form := by
  cases j with
  | null =>
    rw [prettyAt]
    rfl
  | boolean b =>
    rw [prettyAt]
    cases b <;> rfl
  | integer n =>
    rw [prettyAt]
    exact Form.ofText_signedDecimal n
  | string s =>
    rw [prettyAt, quote, String.toList_ofList]
    rfl
  | array items =>
    cases items with
    | nil =>
      rw [prettyAt]
      rfl
    | cons item items =>
      rw [prettyAt_array_append, newline, String.toList_ofList]
      rfl
  | object fields =>
    cases fields with
    | nil =>
      rw [prettyAt]
      rfl
    | cons field fields =>
      rw [prettyAt_object_append, newline, String.toList_ofList]
      rfl

end

/-- Documents with the same text are of the same form. -/
lemma fits_of_prettyAt {depth : Nat} {j k : Json}
    (h : (prettyAt depth j).toList ++ r = (prettyAt depth k).toList ++ s) : j.form.Fits k := by
  rw [← ofText_prettyAt depth r j, h, ofText_prettyAt]
  exact k.fits_form

/-! ## Documents -/

/-- Behind a document: a comma or a line break, if anything. -/
def Follows (r : List Char) : Prop := ∀ d ∈ r.head?, d = ',' ∨ d = '\n'

lemma Follows.isDigit (h : Follows r) : ∀ d ∈ r.head?, d.isDigit = false := by
  intro d hd
  rcases h d hd with rfl | rfl <;> rfl

lemma head_newline (depth : Nat) (r : List Char) :
    ((newline depth).toList ++ r).head? = some '\n' := by
  rw [newline, String.toList_ofList]
  rfl

lemma follows_of_head (h : r.head? = some '\n') : Follows r := by
  simp [Follows, h]

lemma follows_newline (depth : Nat) (r : List Char) :
    Follows ((newline depth).toList ++ r) :=
  follows_of_head (head_newline depth r)

lemma follows_prettyItems (depth : Nat) (items : List Json) (hr : Follows r) :
    Follows ((prettyItems depth items).toList ++ r) := by
  cases items with
  | nil => exact hr
  | cons item items =>
    rw [prettyItems_append]
    simp [Follows]

lemma follows_prettyFields (depth : Nat) (fields : List (String × Json)) (hr : Follows r) :
    Follows ((prettyFields depth fields).toList ++ r) := by
  cases fields with
  | nil => exact hr
  | cons field fields =>
    rw [prettyFields_append]
    simp [Follows]

-- By induction on the first document; the second is of its form, by `fits_of_prettyAt`.
mutual

/-- A document is told from the text behind it. -/
lemma prettyAt_append_inj (depth : Nat) : ∀ (j k : Json) (r s : List Char),
    Follows r → Follows s → (prettyAt depth j).toList ++ r = (prettyAt depth k).toList ++ s →
      j = k ∧ r = s
  | .null, k, r, s => by
    intro _ _ h
    obtain rfl : k = .null := fits_of_prettyAt h
    exact ⟨rfl, List.append_cancel_left h⟩
  | .boolean b, k, r, s => by
    intro _ _ h
    obtain rfl : k = .boolean b := fits_of_prettyAt h
    exact ⟨rfl, List.append_cancel_left h⟩
  | .integer m, k, r, s => by
    intro hr hs h
    obtain ⟨n, rfl⟩ : ∃ n, k = .integer n := fits_of_prettyAt h
    rw [prettyAt, prettyAt] at h
    obtain ⟨rfl, hrest⟩ := Text.signedDecimal_append_inj hr.isDigit hs.isDigit h
    exact ⟨rfl, hrest⟩
  | .string a, k, r, s => by
    intro _ _ h
    obtain ⟨b, rfl⟩ : ∃ b, k = .string b := fits_of_prettyAt h
    rw [prettyAt, prettyAt] at h
    obtain ⟨rfl, hrest⟩ := quote_append_inj h
    exact ⟨rfl, hrest⟩
  | .array [], k, r, s => by
    intro _ _ h
    obtain rfl : k = .array [] := fits_of_prettyAt h
    exact ⟨rfl, List.append_cancel_left h⟩
  | .array (j :: js), k, r, s => by
    intro _ _ h
    obtain ⟨item, items, rfl⟩ : ∃ item items, k = .array (item :: items) := fits_of_prettyAt h
    rw [prettyAt_array_append, prettyAt_array_append] at h
    obtain ⟨rfl, htail⟩ := prettyAt_append_inj (depth + 1) j item _ _
      (follows_prettyItems _ js (follows_newline _ _))
      (follows_prettyItems _ items (follows_newline _ _))
      (List.append_cancel_left (List.tail_eq_of_cons_eq h))
    obtain ⟨rfl, hclose⟩ := prettyItems_append_inj (depth + 1) js items _ _
      (head_newline _ _) (head_newline _ _) htail
    exact ⟨rfl, List.tail_eq_of_cons_eq (List.append_cancel_left hclose)⟩
  | .object [], k, r, s => by
    intro _ _ h
    obtain rfl : k = .object [] := fits_of_prettyAt h
    exact ⟨rfl, List.append_cancel_left h⟩
  | .object ((key, j) :: fields), k, r, s => by
    intro _ _ h
    obtain ⟨key', j', fields', rfl⟩ :
        ∃ key' j' fields', k = .object ((key', j') :: fields') := fits_of_prettyAt h
    rw [prettyAt_object_append, prettyAt_object_append] at h
    obtain ⟨rfl, hvalue⟩ := quote_append_inj (List.append_cancel_left (List.tail_eq_of_cons_eq h))
    obtain ⟨rfl, htail⟩ := prettyAt_append_inj (depth + 1) j j' _ _
      (follows_prettyFields _ fields (follows_newline _ _))
      (follows_prettyFields _ fields' (follows_newline _ _))
      (List.tail_eq_of_cons_eq (List.tail_eq_of_cons_eq hvalue))
    obtain ⟨rfl, hclose⟩ := prettyFields_append_inj (depth + 1) fields fields' _ _
      (head_newline _ _) (head_newline _ _) htail
    exact ⟨rfl, List.tail_eq_of_cons_eq (List.append_cancel_left hclose)⟩

/-- The further items of an array are told from the line break behind them. -/
lemma prettyItems_append_inj (depth : Nat) : ∀ (js ks : List Json) (r s : List Char),
    r.head? = some '\n' → s.head? = some '\n' →
      (prettyItems depth js).toList ++ r = (prettyItems depth ks).toList ++ s → js = ks ∧ r = s
  | [], [], r, s => fun _ _ h => ⟨rfl, List.append_cancel_left h⟩
  | [], k :: ks, r, s => by
    intro hr _ h
    rw [prettyItems_append, prettyItems, String.toList_empty, List.nil_append] at h
    rw [h] at hr
    cases hr
  | j :: js, [], r, s => by
    intro _ hs h
    rw [prettyItems_append, prettyItems, String.toList_empty, List.nil_append] at h
    rw [← h] at hs
    cases hs
  | j :: js, k :: ks, r, s => by
    intro hr hs h
    rw [prettyItems_append, prettyItems_append] at h
    obtain ⟨rfl, htail⟩ := prettyAt_append_inj depth j k _ _
      (follows_prettyItems _ js (follows_of_head hr)) (follows_prettyItems _ ks (follows_of_head hs))
      (List.append_cancel_left (List.tail_eq_of_cons_eq h))
    obtain ⟨rfl, hrest⟩ := prettyItems_append_inj depth js ks _ _ hr hs htail
    exact ⟨rfl, hrest⟩

/-- The further fields of an object are told from the line break behind them. -/
lemma prettyFields_append_inj (depth : Nat) : ∀ (js ks : List (String × Json)) (r s : List Char),
    r.head? = some '\n' → s.head? = some '\n' →
      (prettyFields depth js).toList ++ r = (prettyFields depth ks).toList ++ s → js = ks ∧ r = s
  | [], [], r, s => fun _ _ h => ⟨rfl, List.append_cancel_left h⟩
  | [], (_, _) :: _, r, s => by
    intro hr _ h
    rw [prettyFields_append, prettyFields, String.toList_empty, List.nil_append] at h
    rw [h] at hr
    cases hr
  | (_, _) :: _, [], r, s => by
    intro _ hs h
    rw [prettyFields_append, prettyFields, String.toList_empty, List.nil_append] at h
    rw [← h] at hs
    cases hs
  | (key, j) :: js, (key', k) :: ks, r, s => by
    intro hr hs h
    rw [prettyFields_append, prettyFields_append] at h
    obtain ⟨rfl, hvalue⟩ := quote_append_inj (List.append_cancel_left (List.tail_eq_of_cons_eq h))
    obtain ⟨rfl, htail⟩ := prettyAt_append_inj depth j k _ _
      (follows_prettyFields _ js (follows_of_head hr))
      (follows_prettyFields _ ks (follows_of_head hs))
      (List.tail_eq_of_cons_eq (List.tail_eq_of_cons_eq hvalue))
    obtain ⟨rfl, hrest⟩ := prettyFields_append_inj depth js ks _ _ hr hs htail
    exact ⟨rfl, hrest⟩

end

/-- Documents with the same text are the same. -/
theorem pretty_injective : Function.Injective pretty := by
  intro j k h
  have hnil : Follows [] := by simp [Follows]
  refine (prettyAt_append_inj 0 j k [] [] hnil hnil ?_).1
  rw [List.append_nil, List.append_nil]
  exact congrArg String.toList h

end Json

end MonkeyLang
