import MonkeyLang.Proofs.Syntax.Tokens

/-!
# How deep code lies in function literals

Code lies in a number of function literals of its program.  `Program.mark` writes this number into
every token, in place of its span, so that any part of the program says how deep it lies
(`Expr.nesting`), wherever it is met later.  Up to spans, the marked program is the program
(`Program.eraseSpan_mark`).
-/

namespace MonkeyLang

/-! ## Marks -/

/-- The token with a number in place of its span. -/
def Token.mark (depth : Nat) (t : Token) : Token := { t with span := .point depth }

mutual

/-- The expression in whose tokens stands in how many function literals they lie, if it lies in
`depth` of them itself. -/
def Expr.mark (depth : Nat) : Expr → Expr
  | .ident id => .ident (id.mapTokens (.mark depth))
  | .boolean t value => .boolean (t.mark depth) value
  | .integer t value => .integer (t.mark depth) value
  | .string t value => .string (t.mark depth) value
  | .unary t op operand => .unary (t.mark depth) op (operand.mark depth)
  | .binary t left op right => .binary (t.mark depth) (left.mark depth) op (right.mark depth)
  | .conditional t condition consequence alternative =>
    .conditional (t.mark depth) (condition.mark depth) (consequence.mark depth)
      (markAlternative depth alternative)
  | .function t parameters body =>
    .function (t.mark depth) (parameters.map (Ident.mapTokens (.mark (depth + 1))))
      (body.mark (depth + 1))
  | .call t callee arguments =>
    .call (t.mark depth) (callee.mark depth) (markExprs depth arguments)
  | .array t elements => .array (t.mark depth) (markExprs depth elements)
  | .index t base position => .index (t.mark depth) (base.mark depth) (position.mark depth)
  | .hash t pairs => .hash (t.mark depth) (markPairs depth pairs)

def markAlternative (depth : Nat) : Option Block → Option Block
  | none => none
  | some block => some (block.mark depth)

def markExprs (depth : Nat) : List Expr → List Expr
  | [] => []
  | e :: es => e.mark depth :: markExprs depth es

def markPairs (depth : Nat) : List (Expr × Expr) → List (Expr × Expr)
  | [] => []
  | (key, value) :: pairs => (key.mark depth, value.mark depth) :: markPairs depth pairs

def Stmt.mark (depth : Nat) : Stmt → Stmt
  | .letStmt t name value =>
    .letStmt (t.mark depth) (name.mapTokens (.mark depth)) (value.mark depth)
  | .returnStmt t value => .returnStmt (t.mark depth) (value.mark depth)
  | .exprStmt t value => .exprStmt (t.mark depth) (value.mark depth)

def Block.mark (depth : Nat) : Block → Block
  | .mk t statements => .mk (t.mark depth) (markStmts depth statements)

def markStmts (depth : Nat) : List Stmt → List Stmt
  | [] => []
  | s :: ss => s.mark depth :: markStmts depth ss

end

/-- The program in whose tokens stands in how many function literals they lie. -/
def Program.mark (p : Program) : Program := ⟨markStmts 0 p.statements⟩

/-! ## Reading marks -/

/-- The mark of an expression. -/
def Expr.nesting (e : Expr) : Nat := e.token.span.start

/-- The mark of a statement. -/
def Stmt.nesting (s : Stmt) : Nat := s.token.span.start

/-- The mark of a block. -/
def Block.nesting (b : Block) : Nat := b.token.span.start

@[simp] lemma Expr.nesting_mark (depth : Nat) (e : Expr) : (e.mark depth).nesting = depth := by
  cases e <;> rfl

@[simp] lemma Stmt.nesting_mark (depth : Nat) (s : Stmt) : (s.mark depth).nesting = depth := by
  cases s <;> rfl

@[simp] lemma Block.nesting_mark (depth : Nat) (b : Block) : (b.mark depth).nesting = depth := by
  cases b
  rfl

/-! ## Lists -/

lemma markAlternative_eq_map (depth : Nat) (b : Option Block) :
    markAlternative depth b = b.map (Block.mark depth) := by
  cases b <;> rfl

lemma markExprs_eq_map (depth : Nat) (es : List Expr) :
    markExprs depth es = es.map (Expr.mark depth) := by
  induction es with
  | nil => rfl
  | cons e es ih => rw [markExprs, ih, List.map_cons]

lemma markPairs_eq_map (depth : Nat) (pairs : List (Expr × Expr)) :
    markPairs depth pairs = pairs.map (Prod.map (Expr.mark depth) (Expr.mark depth)) := by
  induction pairs with
  | nil => rfl
  | cons pair pairs ih => rw [markPairs, ih, List.map_cons, Prod.map]

lemma markStmts_eq_map (depth : Nat) (ss : List Stmt) :
    markStmts depth ss = ss.map (Stmt.mark depth) := by
  induction ss with
  | nil => rfl
  | cons s ss ih => rw [markStmts, ih, List.map_cons]

@[simp] lemma Block.statements_mark (depth : Nat) (b : Block) :
    (b.mark depth).statements = b.statements.map (Stmt.mark depth) := by
  obtain ⟨_, ss⟩ := b
  exact markStmts_eq_map depth ss

/-! ## Without marks -/

lemma Token.eraseSpan_mark (depth : Nat) (t : Token) : (t.mark depth).eraseSpan = t.eraseSpan :=
  rfl

lemma Ident.eraseSpan_mark (depth : Nat) (parameters : List Ident) :
    (parameters.map (mapTokens (.mark depth))).map (mapTokens .eraseSpan) =
      parameters.map (mapTokens .eraseSpan) :=
  List.map_map

mutual

/-- The marks are in the spans. -/
lemma Expr.eraseSpan_mark (depth : Nat) :
    ∀ e : Expr, (e.mark depth).mapTokens .eraseSpan = e.mapTokens .eraseSpan
  | .ident _ | .boolean _ _ | .integer _ _ | .string _ _ => rfl
  | .unary _ _ operand => by
    rw [Expr.mark, Expr.mapTokens, Expr.mapTokens, operand.eraseSpan_mark, Token.eraseSpan_mark]
  | .binary _ left _ right => by
    rw [Expr.mark, Expr.mapTokens, Expr.mapTokens, left.eraseSpan_mark, right.eraseSpan_mark,
      Token.eraseSpan_mark]
  | .conditional _ condition consequence alternative => by
    rw [Expr.mark, Expr.mapTokens, Expr.mapTokens, condition.eraseSpan_mark,
      consequence.eraseSpan_mark, eraseSpan_markAlternative depth alternative,
      Token.eraseSpan_mark]
  | .function _ parameters body => by
    rw [Expr.mark, Expr.mapTokens, Expr.mapTokens, body.eraseSpan_mark, Ident.eraseSpan_mark,
      Token.eraseSpan_mark]
  | .call _ callee arguments => by
    rw [Expr.mark, Expr.mapTokens, Expr.mapTokens, callee.eraseSpan_mark,
      eraseSpan_markExprs depth arguments, Token.eraseSpan_mark]
  | .array _ elements => by
    rw [Expr.mark, Expr.mapTokens, Expr.mapTokens, eraseSpan_markExprs depth elements,
      Token.eraseSpan_mark]
  | .index _ base position => by
    rw [Expr.mark, Expr.mapTokens, Expr.mapTokens, base.eraseSpan_mark, position.eraseSpan_mark,
      Token.eraseSpan_mark]
  | .hash _ pairs => by
    rw [Expr.mark, Expr.mapTokens, Expr.mapTokens, eraseSpan_markPairs depth pairs,
      Token.eraseSpan_mark]

lemma eraseSpan_markAlternative (depth : Nat) : ∀ b : Option Block,
    mapTokensAlternative .eraseSpan (markAlternative depth b) = mapTokensAlternative .eraseSpan b
  | none => rfl
  | some block => by
    rw [markAlternative, mapTokensAlternative, mapTokensAlternative, block.eraseSpan_mark]

lemma eraseSpan_markExprs (depth : Nat) : ∀ es : List Expr,
    mapTokensExprs .eraseSpan (markExprs depth es) = mapTokensExprs .eraseSpan es
  | [] => rfl
  | e :: es => by
    rw [markExprs, mapTokensExprs, mapTokensExprs, e.eraseSpan_mark, eraseSpan_markExprs depth es]

lemma eraseSpan_markPairs (depth : Nat) : ∀ pairs : List (Expr × Expr),
    mapTokensPairs .eraseSpan (markPairs depth pairs) = mapTokensPairs .eraseSpan pairs
  | [] => rfl
  | (key, value) :: pairs => by
    rw [markPairs, mapTokensPairs, mapTokensPairs, key.eraseSpan_mark, value.eraseSpan_mark,
      eraseSpan_markPairs depth pairs]

lemma Stmt.eraseSpan_mark (depth : Nat) :
    ∀ s : Stmt, (s.mark depth).mapTokens .eraseSpan = s.mapTokens .eraseSpan
  | .letStmt _ _ value | .returnStmt _ value | .exprStmt _ value => by
    rw [Stmt.mark, Stmt.mapTokens, Stmt.mapTokens, value.eraseSpan_mark]
    rfl

lemma Block.eraseSpan_mark (depth : Nat) :
    ∀ b : Block, (b.mark depth).mapTokens .eraseSpan = b.mapTokens .eraseSpan
  | .mk _ statements => by
    rw [Block.mark, Block.mapTokens, Block.mapTokens, eraseSpan_markStmts depth statements,
      Token.eraseSpan_mark]

lemma eraseSpan_markStmts (depth : Nat) : ∀ ss : List Stmt,
    mapTokensStmts .eraseSpan (markStmts depth ss) = mapTokensStmts .eraseSpan ss
  | [] => rfl
  | s :: ss => by
    rw [markStmts, mapTokensStmts, mapTokensStmts, s.eraseSpan_mark, eraseSpan_markStmts depth ss]

end

/-- Up to spans, the marked program is the program. -/
theorem Program.eraseSpan_mark (p : Program) :
    p.mark.mapTokens .eraseSpan = p.mapTokens .eraseSpan :=
  congrArg Program.mk (eraseSpan_markStmts 0 p.statements)

end MonkeyLang
