import MonkeyLang.Proofs.Syntax.Lexing
import MonkeyLang.Proofs.Syntax.Soundness

/-!
# Plain programs

The canonical form of a string is not a string, and that of a block has no braces.  Plain
expressions have neither, and in a plain program only the last statement can be without a
semicolon.

A plain tree that was read from a text is printable: its names, literals and keywords are spelled
in such a way that they become the same tokens again.
-/

namespace MonkeyLang

/-! ## Plain trees -/

mutual

/-- Whether an expression has only names, numbers, truth values, operators, calls, arrays, indexing
and hashes in it. -/
def Expr.isPlain : Expr → Bool
  | .ident _ | .boolean _ _ | .integer _ _ => true
  | .string _ _ | .conditional _ _ _ _ | .function _ _ _ => false
  | .unary _ _ operand => operand.isPlain
  | .binary _ left _ right => left.isPlain && right.isPlain
  | .call _ callee arguments => callee.isPlain && plainExprs arguments
  | .array _ elements => plainExprs elements
  | .index _ base position => base.isPlain && position.isPlain
  | .hash _ pairs => plainPairs pairs

/-- Whether all expressions of a list are plain. -/
def plainExprs : List Expr → Bool
  | [] => true
  | e :: es => e.isPlain && plainExprs es

/-- Whether all keys and values are plain. -/
def plainPairs : List (Expr × Expr) → Bool
  | [] => true
  | (key, value) :: pairs => key.isPlain && value.isPlain && plainPairs pairs

end

/-- Whether the canonical form of a statement ends with a semicolon. -/
def Stmt.isClosed : Stmt → Bool
  | .letStmt _ _ _ | .returnStmt _ _ => true
  | .exprStmt _ _ => false

/-- Whether all expressions are plain and all statements but the last bind or return a value. -/
def Program.isPlain (p : Program) : Bool :=
  p.statements.all (·.value.isPlain) && p.statements.dropLast.all Stmt.isClosed

lemma plainExprs_eq_true {es : List Expr} :
    plainExprs es = true ↔ ∀ e ∈ es, e.isPlain = true := by
  induction es with
  | nil => simp [plainExprs]
  | cons e es ih => rw [plainExprs, Bool.and_eq_true, ih, List.forall_mem_cons]

lemma plainPairs_eq_true {pairs : List (Expr × Expr)} :
    plainPairs pairs = true ↔ ∀ pair ∈ pairs, pair.1.isPlain = true ∧ pair.2.isPlain = true := by
  induction pairs with
  | nil => simp [plainPairs]
  | cons pair pairs ih =>
    rw [plainPairs, Bool.and_eq_true, Bool.and_eq_true, ih, List.forall_mem_cons]

/-! ## Printable trees -/

/-- The text is a word of a kind. -/
structure IsWord (kind : TokenKind) (text : String) : Prop where
  run : ConsistsOf isWordChar text
  kind_eq : .ofWord text = kind

/-- The plain expressions whose names and literals are spelled as in a text. -/
inductive Expr.Printable : Expr → Prop where
  | ident {id : Ident} (name : IsWord .ident id.name) : Printable (.ident id)
  | boolean {t : Token} {value : Bool}
      (word : IsWord (if value then .trueWord else .falseWord) t.literal) :
      Printable (.boolean t value)
  | integer {t : Token} (digits : ConsistsOf Char.isDigit t.literal)
      (range : Text.ofDigits t.literal.toList ≤ Nat.pow 2 63 - 1) :
      Printable (.integer t (.ofNat (Text.ofDigits t.literal.toList)))
  | unary {t : Token} {op : UnaryOp} {operand : Expr} (inner : Printable operand) :
      Printable (.unary t op operand)
  | binary {t : Token} {left : Expr} {op : BinaryOp} {right : Expr} (first : Printable left)
      (second : Printable right) : Printable (.binary t left op right)
  | call {t : Token} {callee : Expr} {arguments : List Expr} (base : Printable callee)
      (items : ∀ e ∈ arguments, Printable e) : Printable (.call t callee arguments)
  | array {t : Token} {elements : List Expr} (items : ∀ e ∈ elements, Printable e) :
      Printable (.array t elements)
  | index {t : Token} {base position : Expr} (first : Printable base)
      (second : Printable position) : Printable (.index t base position)
  | hash {t : Token} {pairs : List (Expr × Expr)} (keys : ∀ pair ∈ pairs, Printable pair.1)
      (values : ∀ pair ∈ pairs, Printable pair.2) : Printable (.hash t pairs)

/-- The statements with a printable expression whose keywords and names are spelled as in a
text. -/
inductive Stmt.Printable : Stmt → Prop where
  | letStmt {t : Token} {id : Ident} {value : Expr} (word : IsWord .letWord t.literal)
      (name : IsWord .ident id.name) (printable : value.Printable) :
      Printable (.letStmt t id value)
  | returnStmt {t : Token} {value : Expr} (word : IsWord .returnWord t.literal)
      (printable : value.Printable) : Printable (.returnStmt t value)
  | exprStmt {t : Token} {value : Expr} (printable : value.Printable) :
      Printable (.exprStmt t value)

/-! ## Trees of texts -/

namespace Grammar

/-- Whether the tree is printable as far as it is plain.  What follows an operand keeps an operand
printable. -/
def Nonterminal.Prints : (A : Nonterminal) → A.Tree → Prop
  | statements, ss => ∀ s ∈ ss, s.value.isPlain = true → s.Printable
  | statement, s => s.value.isPlain = true → s.Printable
  | block, _ | alternative, _ | parameters, _ | moreParameters, _ => True
  | expr _, e | primary, e => e.isPlain = true → e.Printable
  | chain _, extend | suffixes, extend => ∀ left : Expr, (extend left).isPlain = true →
    left.isPlain = true ∧ (left.Printable → (extend left).Printable)
  | arguments _, es | moreArguments _, es => ∀ e ∈ es, e.isPlain = true → e.Printable
  | pairs, ps | morePairs, ps => ∀ pair ∈ ps, (pair.1.isPlain = true → pair.1.Printable) ∧
    (pair.2.isPlain = true → pair.2.Printable)

lemma isWord_of_kind {t : Token} {kind : TokenKind} (ht : t.WellSpelled) (h : t.kind = kind)
    (hkind : kind.isWord = true) : IsWord kind t.literal := by
  obtain ⟨hrun, hof⟩ := ht.word (h ▸ hkind)
  exact ⟨hrun, hof.trans h⟩

/-- The tree of a derivation from well-spelled tokens is printable as far as it is plain. -/
theorem Derivation.prints {A : Nonterminal} {s r : List Token} (d : Derivation A s r)
    (hs : ∀ t ∈ s, t.WellSpelled) : A.Prints d.tree := by
  have htail : ∀ {t : Token} {ts : List Token}, (∀ u ∈ t :: ts, u.WellSpelled) →
      ∀ u ∈ ts, u.WellSpelled := fun h u hu => h u (List.mem_cons_of_mem _ hu)
  have hrest : ∀ {B : Nonterminal} {ts m : List Token}, Derivation B ts m →
      (∀ u ∈ ts, u.WellSpelled) → ∀ u ∈ m, u.WellSpelled :=
    fun e h u hu => h u (e.isSuffix.mem hu)
  induction d with
  | noStatement | noArgument | argumentsEnd | noPair | pairsEnd | pairsEndComma =>
    exact fun _ h => nomatch h
  | closedStatement first semicolon others ihfirst ihothers =>
    have hothers := ihothers (htail (hrest first hs))
    exact List.forall_mem_cons.2 ⟨ihfirst hs, hothers⟩
  | openStatement first separate others ihfirst ihothers =>
    have hothers := ihothers (hrest first hs)
    exact List.forall_mem_cons.2 ⟨ihfirst hs, hothers⟩
  | letStatement word name assign value ih =>
    intro hplain
    have hword := isWord_of_kind (hs _ List.mem_cons_self) word rfl
    have hname := isWord_of_kind (htail hs _ List.mem_cons_self) name rfl
    exact .letStmt hword hname (ih (htail (htail (htail hs))) hplain)
  | returnStatement word value ih =>
    intro hplain
    have hword := isWord_of_kind (hs _ List.mem_cons_self) word rfl
    exact .returnStmt hword (ih (htail hs) hplain)
  | exprStatement value ih => exact fun hplain => .exprStmt (ih hs hplain)
  | closedBlock | openBlock | noAlternative | elseBlock | noParameter | someParameters
  | parametersEnd | nextParameter => trivial
  | binary first others ihfirst ihothers | suffixed first others ihfirst ihothers =>
    intro hplain
    obtain ⟨hleft, hkeep⟩ := ihothers (hrest first hs) _ hplain
    exact hkeep (ihfirst hs hleft)
  | chainEnd | suffixEnd => exact fun _ hplain => ⟨hplain, id⟩
  | chainStep op sign member operand others ihoperand ihothers =>
    intro left hplain
    obtain ⟨hnode, hkeep⟩ := ihothers (hrest operand (htail hs)) _ hplain
    obtain ⟨hleft, hright⟩ := Bool.and_eq_true_iff.1 hnode
    exact ⟨hleft, fun h => hkeep (.binary h (ihoperand (htail hs) hright))⟩
  | unary op sign operand ih => exact fun hplain => .unary (ih (htail hs) hplain)
  | noUnary operand ih => exact ih hs
  | call lparen arguments others iharguments ihothers =>
    intro left hplain
    obtain ⟨hnode, hkeep⟩ := ihothers (hrest arguments (htail hs)) _ hplain
    obtain ⟨hleft, hitems⟩ := Bool.and_eq_true_iff.1 hnode
    refine ⟨hleft, fun h => hkeep (.call h fun e he => ?_)⟩
    exact iharguments (htail hs) e he (plainExprs_eq_true.1 hitems e he)
  | index lbracket position rbracket others ihposition ihothers =>
    intro left hplain
    obtain ⟨hnode, hkeep⟩ := ihothers (htail (hrest position (htail hs))) _ hplain
    obtain ⟨hleft, hposition⟩ := Bool.and_eq_true_iff.1 hnode
    exact ⟨hleft, fun h => hkeep (.index h (ihposition (htail hs) hposition))⟩
  | ident word => exact fun _ => .ident (isWord_of_kind (hs _ List.mem_cons_self) word rfl)
  | int digits range => exact fun _ => .integer ((hs _ List.mem_cons_self).numeral digits) range
  | string | conditional | function => exact fun h => nomatch h
  | trueWord word | falseWord word =>
    exact fun _ => .boolean (isWord_of_kind (hs _ List.mem_cons_self) word rfl)
  | grouped lparen inner rparen ih => exact ih (htail hs)
  | array lbracket elements ih =>
    intro hplain
    refine .array fun e he => ?_
    exact ih (htail hs) e he (plainExprs_eq_true.1 hplain e he)
  | hash brace pairs ih =>
    intro hplain
    have hpairs := plainPairs_eq_true.1 hplain
    refine .hash (fun pair hp => ?_) (fun pair hp => ?_)
    · exact (ih (htail hs) pair hp).1 (hpairs pair hp).1
    · exact (ih (htail hs) pair hp).2 (hpairs pair hp).2
  | someArguments first others ihfirst ihothers =>
    have hothers := ihothers (hrest first hs)
    exact List.forall_mem_cons.2 ⟨ihfirst hs, hothers⟩
  | nextArgument comma next others ihnext ihothers =>
    have hothers := ihothers (hrest next (htail hs))
    exact List.forall_mem_cons.2 ⟨ihnext (htail hs), hothers⟩
  | somePairs key sign value others ihkey ihvalue ihothers =>
    have hvalue := htail (hrest key hs)
    have hothers := ihothers (hrest value hvalue)
    exact List.forall_mem_cons.2 ⟨⟨ihkey hs, ihvalue hvalue⟩, hothers⟩
  | nextPair sign key between value others ihkey ihvalue ihothers =>
    have hvalue := htail (hrest key (htail hs))
    have hothers := ihothers (hrest value hvalue)
    exact List.forall_mem_cons.2 ⟨⟨ihkey (htail hs), ihvalue hvalue⟩, hothers⟩

end Grammar

end MonkeyLang
