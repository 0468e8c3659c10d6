import Mathlib.Tactic.Lemma
import MonkeyLang.Syntax.Render

/-!
# Trees with other tokens

`Expr.mapTokens f` is the tree of an expression with `f t` in place of every token `t`; names,
values, operators and shape stay.  Two trees are the same up to their tokens when they become equal
under a function that forgets tokens.
-/

namespace MonkeyLang

/-- The name with another token. -/
def Ident.mapTokens (f : Token → Token) (id : Ident) : Ident := ⟨f id.token, id.name⟩

mutual

/-- The tree of an expression with other tokens. -/
def Expr.mapTokens (f : Token → Token) : Expr → Expr
  | .ident id => .ident (id.mapTokens f)
  | .boolean t value => .boolean (f t) value
  | .integer t value => .integer (f t) value
  | .string t value => .string (f t) value
  | .unary t op operand => .unary (f t) op (operand.mapTokens f)
  | .binary t left op right => .binary (f t) (left.mapTokens f) op (right.mapTokens f)
  | .conditional t condition consequence alternative =>
    .conditional (f t) (condition.mapTokens f) (consequence.mapTokens f)
      (mapTokensAlternative f alternative)
  | .function t parameters body =>
    .function (f t) (parameters.map (Ident.mapTokens f)) (body.mapTokens f)
  | .call t callee arguments => .call (f t) (callee.mapTokens f) (mapTokensExprs f arguments)
  | .array t elements => .array (f t) (mapTokensExprs f elements)
  | .index t base position => .index (f t) (base.mapTokens f) (position.mapTokens f)
  | .hash t pairs => .hash (f t) (mapTokensPairs f pairs)

/-- The tree of an `else` branch with other tokens. -/
def mapTokensAlternative (f : Token → Token) : Option Block → Option Block
  | none => none
  | some block => some (block.mapTokens f)

/-- The trees of a list of expressions with other tokens. -/
def mapTokensExprs (f : Token → Token) : List Expr → List Expr
  | [] => []
  | e :: es => e.mapTokens f :: mapTokensExprs f es

/-- The trees of the pairs of a hash with other tokens. -/
def mapTokensPairs (f : Token → Token) : List (Expr × Expr) → List (Expr × Expr)
  | [] => []
  | (key, value) :: pairs => (key.mapTokens f, value.mapTokens f) :: mapTokensPairs f pairs

/-- The tree of a statement with other tokens. -/
def Stmt.mapTokens (f : Token → Token) : Stmt → Stmt
  | .letStmt t name value => .letStmt (f t) (name.mapTokens f) (value.mapTokens f)
  | .returnStmt t value => .returnStmt (f t) (value.mapTokens f)
  | .exprStmt t value => .exprStmt (f t) (value.mapTokens f)

/-- The tree of a block with other tokens. -/
def Block.mapTokens (f : Token → Token) : Block → Block
  | .mk t statements => .mk (f t) (mapTokensStmts f statements)

/-- The trees of statements with other tokens. -/
def mapTokensStmts (f : Token → Token) : List Stmt → List Stmt
  | [] => []
  | s :: ss => s.mapTokens f :: mapTokensStmts f ss

end

/-- The program with other tokens. -/
def Program.mapTokens (f : Token → Token) (p : Program) : Program := ⟨mapTokensStmts f p.statements⟩

/-! ## The same tokens -/

@[simp] lemma Ident.mapTokens_id : Ident.mapTokens id = id := rfl

mutual

@[simp] lemma Expr.mapTokens_id : ∀ e : Expr, e.mapTokens id = e
  | .ident _ | .boolean _ _ | .integer _ _ | .string _ _ => rfl
  | .unary _ _ operand => by rw [Expr.mapTokens, operand.mapTokens_id, id]
  | .binary _ left _ right => by rw [Expr.mapTokens, left.mapTokens_id, right.mapTokens_id, id]
  | .conditional _ condition consequence alternative => by
    rw [Expr.mapTokens, condition.mapTokens_id, consequence.mapTokens_id,
      mapTokensAlternative_id alternative, id]
  | .function _ parameters body => by
    rw [Expr.mapTokens, body.mapTokens_id, Ident.mapTokens_id, List.map_id, id]
  | .call _ callee arguments => by
    rw [Expr.mapTokens, callee.mapTokens_id, mapTokensExprs_id arguments, id]
  | .array _ elements => by rw [Expr.mapTokens, mapTokensExprs_id elements, id]
  | .index _ base position => by rw [Expr.mapTokens, base.mapTokens_id, position.mapTokens_id, id]
  | .hash _ pairs => by rw [Expr.mapTokens, mapTokensPairs_id pairs, id]

@[simp] lemma mapTokensAlternative_id : ∀ b : Option Block, mapTokensAlternative id b = b
  | none => rfl
  | some block => by rw [mapTokensAlternative, block.mapTokens_id]

@[simp] lemma mapTokensExprs_id : ∀ es : List Expr, mapTokensExprs id es = es
  | [] => rfl
  | e :: es => by rw [mapTokensExprs, e.mapTokens_id, mapTokensExprs_id es]

@[simp] lemma mapTokensPairs_id : ∀ ps : List (Expr × Expr), mapTokensPairs id ps = ps
  | [] => rfl
  | (key, value) :: pairs => by
    rw [mapTokensPairs, key.mapTokens_id, value.mapTokens_id, mapTokensPairs_id pairs]

@[simp] lemma Stmt.mapTokens_id : ∀ s : Stmt, s.mapTokens id = s
  | .letStmt _ _ value => by rw [Stmt.mapTokens, value.mapTokens_id, Ident.mapTokens_id, id, id]
  | .returnStmt _ value => by rw [Stmt.mapTokens, value.mapTokens_id, id]
  | .exprStmt _ value => by rw [Stmt.mapTokens, value.mapTokens_id, id]

@[simp] lemma Block.mapTokens_id : ∀ b : Block, b.mapTokens id = b
  | .mk _ statements => by rw [Block.mapTokens, mapTokensStmts_id statements, id]

@[simp] lemma mapTokensStmts_id : ∀ ss : List Stmt, mapTokensStmts id ss = ss
  | [] => rfl
  | s :: ss => by rw [mapTokensStmts, s.mapTokens_id, mapTokensStmts_id ss]

end

@[simp] lemma Program.mapTokens_id (p : Program) : p.mapTokens id = p :=
  congrArg Program.mk (mapTokensStmts_id p.statements)

/-! ## Lists -/

lemma mapTokensExprs_eq_map (f : Token → Token) (es : List Expr) :
    mapTokensExprs f es = es.map (Expr.mapTokens f) := by
  induction es with
  | nil => rfl
  | cons e es ih => rw [mapTokensExprs, ih, List.map_cons]

lemma mapTokensPairs_eq_map (f : Token → Token) (pairs : List (Expr × Expr)) :
    mapTokensPairs f pairs = pairs.map (Prod.map (Expr.mapTokens f) (Expr.mapTokens f)) := by
  induction pairs with
  | nil => rfl
  | cons pair pairs ih => rw [mapTokensPairs, ih, List.map_cons, Prod.map]

lemma mapTokensStmts_eq_map (f : Token → Token) (ss : List Stmt) :
    mapTokensStmts f ss = ss.map (Stmt.mapTokens f) := by
  induction ss with
  | nil => rfl
  | cons s ss ih => rw [mapTokensStmts, ih, List.map_cons]

lemma Block.statements_mapTokens (f : Token → Token) (b : Block) :
    (b.mapTokens f).statements = b.statements.map (Stmt.mapTokens f) := by
  obtain ⟨_, ss⟩ := b
  exact mapTokensStmts_eq_map f ss

/-! ## Tokens without spans -/

/-- The token with an empty span. -/
def Token.eraseSpan (t : Token) : Token := { t with span := .point 0 }

lemma Token.eraseSpan_eraseSpan (t : Token) : t.eraseSpan.eraseSpan = t.eraseSpan := rfl

lemma Token.eraseSpan_eq_iff {t u : Token} :
    t.eraseSpan = u.eraseSpan ↔ t.kind = u.kind ∧ t.literal = u.literal := by
  simp [eraseSpan]

@[simp] lemma Token.literal_eraseSpan (t : Token) : t.eraseSpan.literal = t.literal := rfl

/-! ## The canonical form -/

/-- Names are printed alike with other tokens. -/
@[simp] lemma map_name_mapTokens (f : Token → Token) (parameters : List Ident) :
    (parameters.map (Ident.mapTokens f)).map (·.name) = parameters.map (·.name) := by
  rw [List.map_map]
  rfl

section

variable {f : Token → Token}

mutual

/-- The canonical form does not depend on more of a token than its literal. -/
lemma Expr.render_mapTokens (hf : ∀ t, (f t).literal = t.literal) :
    ∀ e : Expr, (e.mapTokens f).render = e.render
  | .ident _ | .string _ _ => rfl
  | .boolean t _ | .integer t _ => hf t
  | .unary _ _ operand => by
    rw [Expr.mapTokens, Expr.render, Expr.render, operand.render_mapTokens hf]
  | .binary _ left _ right => by
    rw [Expr.mapTokens, Expr.render, Expr.render, left.render_mapTokens hf,
      right.render_mapTokens hf]
  | .conditional _ condition consequence alternative => by
    rw [Expr.mapTokens, Expr.render, Expr.render, condition.render_mapTokens hf,
      consequence.render_mapTokens hf, renderAlternative_mapTokens hf alternative]
  | .function t parameters body => by
    rw [Expr.mapTokens, Expr.render, Expr.render, hf, map_name_mapTokens,
      body.render_mapTokens hf]
  | .call _ callee arguments => by
    rw [Expr.mapTokens, Expr.render, Expr.render, callee.render_mapTokens hf,
      renderExprs_mapTokens hf arguments]
  | .array _ elements => by
    rw [Expr.mapTokens, Expr.render, Expr.render, renderExprs_mapTokens hf elements]
  | .index _ base position => by
    rw [Expr.mapTokens, Expr.render, Expr.render, base.render_mapTokens hf,
      position.render_mapTokens hf]
  | .hash _ pairs => by
    rw [Expr.mapTokens, Expr.render, Expr.render, renderPairs_mapTokens hf pairs]

lemma renderAlternative_mapTokens (hf : ∀ t, (f t).literal = t.literal) :
    ∀ b : Option Block, renderAlternative (mapTokensAlternative f b) = renderAlternative b
  | none => rfl
  | some block => by
    rw [mapTokensAlternative, renderAlternative, renderAlternative, block.render_mapTokens hf]

lemma renderExprs_mapTokens (hf : ∀ t, (f t).literal = t.literal) :
    ∀ es : List Expr, renderExprs (mapTokensExprs f es) = renderExprs es
  | [] => rfl
  | e :: es => by
    rw [mapTokensExprs, renderExprs, renderExprs, e.render_mapTokens hf,
      renderExprs_mapTokens hf es]

lemma renderPairs_mapTokens (hf : ∀ t, (f t).literal = t.literal) :
    ∀ ps : List (Expr × Expr), renderPairs (mapTokensPairs f ps) = renderPairs ps
  | [] => rfl
  | (key, value) :: pairs => by
    rw [mapTokensPairs, renderPairs, renderPairs, key.render_mapTokens hf,
      value.render_mapTokens hf, renderPairs_mapTokens hf pairs]

lemma Stmt.render_mapTokens (hf : ∀ t, (f t).literal = t.literal) :
    ∀ s : Stmt, (s.mapTokens f).render = s.render
  | .letStmt t name value => by
    rw [Stmt.mapTokens, Stmt.render, Stmt.render, hf, value.render_mapTokens hf, Ident.mapTokens]
  | .returnStmt t value => by
    rw [Stmt.mapTokens, Stmt.render, Stmt.render, hf, value.render_mapTokens hf]
  | .exprStmt _ value => by
    rw [Stmt.mapTokens, Stmt.render, Stmt.render, value.render_mapTokens hf]

lemma Block.render_mapTokens (hf : ∀ t, (f t).literal = t.literal) :
    ∀ b : Block, (b.mapTokens f).render = b.render
  | .mk _ statements => by
    rw [Block.mapTokens, Block.render, Block.render, renderStmts_mapTokens hf statements]

lemma renderStmts_mapTokens (hf : ∀ t, (f t).literal = t.literal) :
    ∀ ss : List Stmt, renderStmts (mapTokensStmts f ss) = renderStmts ss
  | [] => rfl
  | s :: ss => by
    rw [mapTokensStmts, renderStmts, renderStmts, s.render_mapTokens hf,
      renderStmts_mapTokens hf ss]

end

end

end MonkeyLang
