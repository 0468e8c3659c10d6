import MonkeyLang.Syntax.Tree

/-!
# Equality of syntax trees

Equality of trees is decidable: `Expr.same`, `Stmt.same` and `Block.same` compare node by node.
-/

namespace MonkeyLang

mutual

/-- Whether two expressions are the same tree. -/
def Expr.same : Expr → Expr → Bool
  | .ident a, .ident b => a = b
  | .boolean t v, .boolean t' v' => t = t' && v = v'
  | .integer t v, .integer t' v' => t = t' && v = v'
  | .string t v, .string t' v' => t = t' && v = v'
  | .unary t op e, .unary t' op' e' => t = t' && op = op' && e.same e'
  | .binary t l op r, .binary t' l' op' r' => t = t' && l.same l' && op = op' && r.same r'
  | .conditional t c b a, .conditional t' c' b' a' =>
    t = t' && c.same c' && b.same b' && sameAlternative a a'
  | .function t ps b, .function t' ps' b' => t = t' && ps = ps' && b.same b'
  | .call t f es, .call t' f' es' => t = t' && f.same f' && sameExprs es es'
  | .array t es, .array t' es' => t = t' && sameExprs es es'
  | .index t b p, .index t' b' p' => t = t' && b.same b' && p.same p'
  | .hash t ps, .hash t' ps' => t = t' && samePairs ps ps'
  | _, _ => false

/-- Whether two `else` branches are the same. -/
def sameAlternative : Option Block → Option Block → Bool
  | none, none => true
  | some b, some b' => b.same b'
  | _, _ => false

/-- Whether two lists of expressions are the same. -/
def sameExprs : List Expr → List Expr → Bool
  | [], [] => true
  | e :: es, e' :: es' => e.same e' && sameExprs es es'
  | _, _ => false

/-- Whether two lists of pairs are the same. -/
def samePairs : List (Expr × Expr) → List (Expr × Expr) → Bool
  | [], [] => true
  | (k, v) :: ps, (k', v') :: ps' => k.same k' && v.same v' && samePairs ps ps'
  | _, _ => false

/-- Whether two statements are the same tree. -/
def Stmt.same : Stmt → Stmt → Bool
  | .letStmt t n v, .letStmt t' n' v' => t = t' && n = n' && v.same v'
  | .returnStmt t v, .returnStmt t' v' => t = t' && v.same v'
  | .exprStmt t v, .exprStmt t' v' => t = t' && v.same v'
  | _, _ => false

/-- Whether two blocks are the same tree. -/
def Block.same : Block → Block → Bool
  | .mk t ss, .mk t' ss' => t = t' && sameStmts ss ss'

/-- Whether two lists of statements are the same. -/
def sameStmts : List Stmt → List Stmt → Bool
  | [], [] => true
  | s :: ss, s' :: ss' => s.same s' && sameStmts ss ss'
  | _, _ => false

end

mutual

theorem Expr.same_iff : ∀ a b : Expr, a.same b = true ↔ a = b
  | .ident _, b => by cases b <;> simp [Expr.same]
  | .boolean _ _, b => by cases b <;> simp [Expr.same]
  | .integer _ _, b => by cases b <;> simp [Expr.same]
  | .string _ _, b => by cases b <;> simp [Expr.same]
  | .unary _ _ e, b => by cases b <;> simp [Expr.same, Expr.same_iff e, and_assoc]
  | .binary _ l _ r, b => by
    cases b <;> simp [Expr.same, Expr.same_iff l, Expr.same_iff r, and_assoc]
  | .conditional _ c t a, b => by
    cases b <;>
      simp [Expr.same, Expr.same_iff c, Block.same_iff t, sameAlternative_iff a, and_assoc]
  | .function _ _ t, b => by cases b <;> simp [Expr.same, Block.same_iff t, and_assoc]
  | .call _ f es, b => by
    cases b <;> simp [Expr.same, Expr.same_iff f, sameExprs_iff es, and_assoc]
  | .array _ es, b => by cases b <;> simp [Expr.same, sameExprs_iff es]
  | .index _ l p, b => by
    cases b <;> simp [Expr.same, Expr.same_iff l, Expr.same_iff p, and_assoc]
  | .hash _ ps, b => by cases b <;> simp [Expr.same, samePairs_iff ps]

theorem sameAlternative_iff : ∀ a b : Option Block, sameAlternative a b = true ↔ a = b
  | none, b => by cases b <;> simp [sameAlternative]
  | some t, b => by cases b <;> simp [sameAlternative, Block.same_iff t]

theorem sameExprs_iff : ∀ a b : List Expr, sameExprs a b = true ↔ a = b
  | [], b => by cases b <;> simp [sameExprs]
  | e :: es, b => by cases b <;> simp [sameExprs, Expr.same_iff e, sameExprs_iff es]

theorem samePairs_iff : ∀ a b : List (Expr × Expr), samePairs a b = true ↔ a = b
  | [], b => by cases b <;> simp [samePairs]
  | (k, v) :: ps, b => by
    rcases b with _ | ⟨⟨k', v'⟩, ps'⟩ <;>
      simp [samePairs, Expr.same_iff k, Expr.same_iff v, samePairs_iff ps]

theorem Stmt.same_iff : ∀ a b : Stmt, a.same b = true ↔ a = b
  | .letStmt _ _ v, b => by cases b <;> simp [Stmt.same, Expr.same_iff v, and_assoc]
  | .returnStmt _ v, b => by cases b <;> simp [Stmt.same, Expr.same_iff v]
  | .exprStmt _ v, b => by cases b <;> simp [Stmt.same, Expr.same_iff v]

theorem Block.same_iff : ∀ a b : Block, a.same b = true ↔ a = b
  | .mk _ ss, .mk _ ss' => by simp [Block.same, sameStmts_iff ss ss']

theorem sameStmts_iff : ∀ a b : List Stmt, sameStmts a b = true ↔ a = b
  | [], b => by cases b <;> simp [sameStmts]
  | s :: ss, b => by cases b <;> simp [sameStmts, Stmt.same_iff s, sameStmts_iff ss]

end

instance : DecidableEq Expr := fun a b => decidable_of_iff _ (Expr.same_iff a b)

instance : DecidableEq Stmt := fun a b => decidable_of_iff _ (Stmt.same_iff a b)

instance : DecidableEq Block := fun a b => decidable_of_iff _ (Block.same_iff a b)

end MonkeyLang
