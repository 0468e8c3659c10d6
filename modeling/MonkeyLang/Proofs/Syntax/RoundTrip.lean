import MonkeyLang.Proofs.Syntax.Plain
import MonkeyLang.Proofs.Syntax.Rereading
import MonkeyLang.Proofs.Syntax.Tokens
import MonkeyLang.Syntax.Render

/-!
# Reading canonical forms

The canonical form of a plain program that was read is read again as the same program, up to the
tokens in its nodes.

By induction over a printable expression, its canonical form is derived as an expression of the
strongest level, in front of any text that does not continue its last token: operator expressions
and indexing are in parentheses, and the other forms are primary or calls already.
-/

namespace MonkeyLang

/-! ## Trees alike -/

/-- The token that stands for any token. -/
def Token.forget (_ : Token) : Token := default

/-- Two trees with the same parts and the same canonical form. -/
structure Alike {α β : Type} (parts : α → α) (text : α → β) (a b : α) : Prop where
  parts_eq : parts b = parts a
  text_eq : text b = text a

/-- Expressions that are the same up to their tokens and have the same canonical form. -/
abbrev Expr.Alike : Expr → Expr → Prop := MonkeyLang.Alike (Expr.mapTokens .forget) Expr.render

abbrev AlikeExprs : List Expr → List Expr → Prop := Alike (mapTokensExprs .forget) renderExprs

abbrev AlikePairs : List (Expr × Expr) → List (Expr × Expr) → Prop :=
  Alike (mapTokensPairs .forget) renderPairs

abbrev Stmt.Alike : Stmt → Stmt → Prop := MonkeyLang.Alike (Stmt.mapTokens .forget) Stmt.render

abbrev AlikeStmts : List Stmt → List Stmt → Prop := Alike (mapTokensStmts .forget) renderStmts

namespace Grammar

open Token

/-! ## Forms of expressions -/

section

variable {e left right position : Expr} {t : Token}

lemma Rereads.ident {id : Ident} (h : IsWord .ident id.name) :
    Rereads .primary id.name (Expr.Alike (.ident id)) := by
  intro offset rest hrest
  rw [scanFrom_word h.run hrest]
  exact ⟨_, _, ⟨.ident h.kind_eq, rfl⟩, rfl, rfl⟩

lemma Rereads.boolean {value : Bool}
    (h : IsWord (if value then .trueWord else .falseWord) t.literal) :
    Rereads .primary t.literal (Expr.Alike (.boolean t value)) := by
  intro offset rest hrest
  rw [scanFrom_word h.run hrest]
  cases value with
  | true => exact ⟨_, _, ⟨.trueWord h.kind_eq, rfl⟩, rfl, rfl⟩
  | false => exact ⟨_, _, ⟨.falseWord h.kind_eq, rfl⟩, rfl, rfl⟩

lemma Rereads.integer (digits : ConsistsOf Char.isDigit t.literal)
    (range : Text.ofDigits t.literal.toList ≤ Nat.pow 2 63 - 1) :
    Rereads .primary t.literal
      (Expr.Alike (.integer t (.ofNat (Text.ofDigits t.literal.toList)))) := by
  intro offset rest hrest
  rw [scanFrom_numeral digits hrest]
  exact ⟨_, _, ⟨.int rfl range, rfl⟩, rfl, rfl⟩

lemma Rereads.alikeUnary {op : UnaryOp} (h : Rereads (.expr .unary) e.render e.Alike)
    (hhead : ∃ c, e.render.toList.head? = some c ∧ c ≠ '=') :
    Rereads (.expr .unary) (op.symbol ++ e.render) (Expr.Alike (.unary t op e)) := by
  refine h.unary op hhead fun sign tree halike => ⟨?_, ?_⟩
  · simp only [Expr.mapTokens, halike.parts_eq, Token.forget]
  · simp only [Expr.render, halike.text_eq]

lemma Rereads.binary {op : BinaryOp} (hleft : Rereads (.expr .suffixed) left.render left.Alike)
    (hright : Rereads (.expr .suffixed) right.render right.Alike) :
    Rereads .expression (left.render ++ " " ++ op.symbol ++ " " ++ right.render)
      (Expr.Alike (.binary t left op right)) := by
  refine Rereads.expression (fun offset rest hrest => ?_ :
    Rereads (.expr (.binary (tierOf op))) _ _)
  have htext : (left.render ++ " " ++ op.symbol ++ " " ++ right.render).toList ++ rest =
      left.render.toList ++ ' ' :: (op.symbol.toList ++ ' ' :: (right.render.toList ++ rest)) := by
    simp
  have hblank : Boundary (' ' :: (op.symbol.toList ++ ' ' :: (right.render.toList ++ rest))) :=
    boundary_cons.2 (by decide)
  obtain ⟨middle, tree, hd, hparts, hrender⟩ := hleft.atLevel _ offset _ hblank
  obtain ⟨sign, middle', hsign, hscan⟩ :=
    scanFrom_binarySymbol op (middle + ' '.utf8Size) (right.render.toList ++ rest)
  obtain ⟨offset', tree', hd', hparts', hrender'⟩ := hright.atLevel _ middle' rest hrest
  rw [scanFrom_of_isBlank rfl, hscan] at hd
  rw [htext]
  refine ⟨offset', _, hd.binary hsign (mem_tierOf op).1 hd', ?_, ?_⟩
  · simp only [Expr.mapTokens, hparts, hparts', Token.forget]
  · simp only [Expr.render, hrender, hrender']

lemma Rereads.index (hbase : Rereads (.expr .suffixed) e.render e.Alike)
    (hposition : Rereads .expression position.render position.Alike) :
    Rereads (.expr .suffixed) (e.render ++ "[" ++ position.render ++ "]")
      (Expr.Alike (.index t e position)) := by
  intro offset rest hrest
  have htext : (e.render ++ "[" ++ position.render ++ "]").toList ++ rest =
      e.render.toList ++ '[' :: (position.render.toList ++ ']' :: rest) := by simp
  have hopen : Boundary ('[' :: (position.render.toList ++ ']' :: rest)) :=
    boundary_cons.2 (by decide)
  have hclose : Boundary (']' :: rest) := boundary_cons.2 (by decide)
  obtain ⟨middle, tree, hd, hparts, hrender⟩ := hbase offset _ hopen
  obtain ⟨middle', tree', hd', hparts', hrender'⟩ := hposition (middle + '['.utf8Size) _ hclose
  rw [scanFrom_sign rfl (by simp)] at hd hd'
  rw [htext]
  refine ⟨_, _, hd.index rfl hd' rfl, ?_, ?_⟩
  · simp only [Expr.mapTokens, hparts, hparts', Token.forget]
  · simp only [Expr.render, hrender, hrender']

end

/-! ## Lists -/

lemma renderExprs_eq_map (es : List Expr) : renderExprs es = es.map Expr.render := by
  induction es with
  | nil => rfl
  | cons e es ih => rw [renderExprs, List.map_cons, ih]

lemma renderPairs_eq_map (pairs : List (Expr × Expr)) : renderPairs pairs =
    pairs.map (pairText ":" (fun pair => pair.1.render) fun pair => pair.2.render) := by
  induction pairs with
  | nil => rfl
  | cons pair pairs ih =>
    rw [renderPairs, List.map_cons, ih]
    rfl

lemma alikeExprs_of_forall₂ {es trees : List Expr} (h : List.Forall₂ Expr.Alike es trees) :
    AlikeExprs es trees := by
  induction h with
  | nil => exact ⟨rfl, rfl⟩
  | cons first _ ih =>
    refine ⟨?_, ?_⟩
    · simp only [mapTokensExprs, first.parts_eq, ih.parts_eq]
    · simp only [renderExprs, first.text_eq, ih.text_eq]

lemma alikePairs_of_forall₂ {pairs trees : List (Expr × Expr)}
    (h : List.Forall₂ (GoodPair (fun pair => pair.1.Alike) fun pair => pair.2.Alike) pairs trees) :
    AlikePairs pairs trees := by
  induction h with
  | nil => exact ⟨rfl, rfl⟩
  | cons first _ ih =>
    obtain ⟨hkey, hvalue⟩ := first
    refine ⟨?_, ?_⟩
    · simp only [mapTokensPairs, hkey.parts_eq, hvalue.parts_eq, ih.parts_eq]
    · simp only [renderPairs, hkey.text_eq, hvalue.text_eq, ih.text_eq]

section

variable {t : Token}

lemma Rereads.call {callee : Expr} {arguments : List Expr}
    (hcallee : Rereads (.expr .suffixed) callee.render callee.Alike)
    (harguments : ∀ e ∈ arguments, Rereads .expression e.render e.Alike) :
    Rereads (.expr .suffixed)
      (callee.render ++ "(" ++ ", ".intercalate (renderExprs arguments) ++ ")")
      (Expr.Alike (.call t callee arguments)) := by
  intro offset rest hrest
  have htext : (callee.render ++ "(" ++ ", ".intercalate (renderExprs arguments) ++ ")").toList ++
      rest = callee.render.toList ++ '(' ::
        ((", ".intercalate (renderExprs arguments) ++ Bracket.round.symbol).toList ++ rest) := by
    simp [Bracket.symbol]
  have hopen : Boundary ('(' ::
      ((", ".intercalate (renderExprs arguments) ++ Bracket.round.symbol).toList ++ rest)) :=
    boundary_cons.2 (by decide)
  obtain ⟨middle, tree, hd, hparts, hrender⟩ := hcallee offset _ hopen
  have hitems : Rereads (.arguments .round)
      (", ".intercalate (renderExprs arguments) ++ Bracket.round.symbol) (AlikeExprs arguments) := by
    rw [renderExprs_eq_map]
    exact (Rereads.arguments harguments).imp fun _ => alikeExprs_of_forall₂
  obtain ⟨offset', trees, hd', hparts', hrender'⟩ := hitems (middle + '('.utf8Size) rest hrest
  rw [scanFrom_sign rfl (by simp)] at hd
  rw [htext]
  refine ⟨offset', _, hd.call rfl hd', ?_, ?_⟩
  · simp only [Expr.mapTokens, hparts, hparts', Token.forget]
  · simp only [Expr.render, hrender, hrender']

lemma Rereads.alikeArray {elements : List Expr}
    (h : ∀ e ∈ elements, Rereads .expression e.render e.Alike) :
    Rereads .primary ("[" ++ ", ".intercalate (renderExprs elements) ++ "]")
      (Expr.Alike (.array t elements)) := by
  rw [renderExprs_eq_map]
  refine Rereads.array h fun bracket trees htrees => ?_
  have halike := alikeExprs_of_forall₂ htrees
  refine ⟨?_, ?_⟩
  · simp only [Expr.mapTokens, halike.parts_eq, Token.forget]
  · simp only [Expr.render, halike.text_eq]

lemma Rereads.alikeHash {pairs : List (Expr × Expr)}
    (hkeys : ∀ pair ∈ pairs, Rereads .expression pair.1.render pair.1.Alike)
    (hvalues : ∀ pair ∈ pairs, Rereads .expression pair.2.render pair.2.Alike) :
    Rereads .primary ("\x7b" ++ ", ".intercalate (renderPairs pairs) ++ "\x7d")
      (Expr.Alike (.hash t pairs)) := by
  rw [renderPairs_eq_map]
  refine Rereads.hash TokenKind.isSign_colon hkeys hvalues fun brace trees htrees => ?_
  have halike := alikePairs_of_forall₂ htrees
  refine ⟨?_, ?_⟩
  · simp only [Expr.mapTokens, halike.parts_eq, Token.forget]
  · simp only [Expr.render, halike.text_eq]

end

/-! ## Expressions -/

/-- A canonical form does not make a longer sign of an operator before it. -/
lemma head_render {e : Expr} (h : e.Printable) :
    ∃ c, e.render.toList.head? = some c ∧ c ≠ '=' := by
  induction h with
  | ident name => exact head_of_consistsOf name.run (by decide)
  | boolean word => exact head_of_consistsOf word.run (by decide)
  | integer digits => exact head_of_consistsOf digits (by decide)
  | unary | binary | index => exact ⟨'(', by simp [Expr.render], by decide⟩
  | array => exact ⟨'[', by simp [Expr.render], by decide⟩
  | hash => exact ⟨'\x7b', by simp [Expr.render], by decide⟩
  | call base items ihbase =>
    obtain ⟨c, hc, hne⟩ := ihbase
    exact ⟨c, by simp [Expr.render, hc], hne⟩

/-- The canonical form of a printable expression is read as the same expression. -/
lemma rereads_expr {e : Expr} (h : e.Printable) :
    Rereads (.expr .suffixed) e.render e.Alike := by
  induction h with
  | ident name => exact (Rereads.ident name).primary
  | boolean word => exact (Rereads.boolean word).primary
  | integer digits range => exact (Rereads.integer digits range).primary
  | @unary t op operand inner ih =>
    have htext : "(" ++ op.symbol ++ operand.render ++ ")" =
        "(" ++ (op.symbol ++ operand.render) ++ ")" := by simp only [String.append_assoc]
    rw [Expr.render, htext]
    exact ((ih.atLevel .unary).alikeUnary (head_render inner)).expression.grouped
  | @binary t left op right first second ihfirst ihsecond =>
    have htext : "(" ++ left.render ++ " " ++ op.symbol ++ " " ++ right.render ++ ")" =
        "(" ++ (left.render ++ " " ++ op.symbol ++ " " ++ right.render) ++ ")" := by
      simp only [String.append_assoc]
    rw [Expr.render, htext]
    exact (ihfirst.binary ihsecond).grouped
  | call base items ihbase ihitems =>
    exact Rereads.call ihbase fun e he => (ihitems e he).expression
  | array items ihitems =>
    exact (Rereads.alikeArray fun e he => (ihitems e he).expression).primary
  | @index t base position first second ihfirst ihsecond =>
    have htext : "(" ++ base.render ++ "[" ++ position.render ++ "])" =
        "(" ++ (base.render ++ "[" ++ position.render ++ "]") ++ ")" := by
      have hclose : "])" = "]" ++ ")" := rfl
      simp only [hclose, String.append_assoc]
    rw [Expr.render, htext]
    exact (ihfirst.index ihsecond.expression).expression.grouped
  | hash keys values ihkeys ihvalues =>
    have hkeys := fun pair hp => (ihkeys pair hp).expression
    have hvalues := fun pair hp => (ihvalues pair hp).expression
    exact (Rereads.alikeHash hkeys hvalues).primary

/-! ## Statements -/

/-- The canonical form of a statement without its semicolon. -/
def bare : Stmt → String
  | .letStmt t name value => t.literal ++ " " ++ name.name ++ " = " ++ value.render
  | .returnStmt t value => t.literal ++ " " ++ value.render
  | .exprStmt _ value => value.render

lemma render_of_isClosed {s : Stmt} (h : s.isClosed = true) : s.render = bare s ++ ";" := by
  cases s with
  | letStmt | returnStmt => rfl
  | exprStmt => cases h

lemma render_of_not_isClosed {s : Stmt} (h : ¬ s.isClosed = true) : s.render = bare s := by
  cases s with
  | letStmt | returnStmt => exact absurd rfl h
  | exprStmt => rfl

/-- The canonical form of a printable statement is read as the same statement. -/
lemma rereads_stmt {s : Stmt} (h : s.Printable) : Rereads .statement (bare s) s.Alike := by
  intro offset rest hrest
  cases h with
  | @letStmt t id value word name printable =>
    have hvalue := (rereads_expr printable).expression
    have htext : (t.literal ++ " " ++ id.name ++ " = " ++ value.render).toList ++ rest =
        t.literal.toList ++ ' ' :: (id.name.toList ++ ' ' :: '=' :: ' ' ::
          (value.render.toList ++ rest)) := by simp
    have hblank : ∀ cs, Boundary (' ' :: cs) := fun cs => boundary_cons.2 (by decide)
    rw [bare, htext, scanFrom_word word.run (hblank _), scanFrom_of_isBlank rfl,
      scanFrom_word name.run (hblank _), scanFrom_of_isBlank rfl, scanFrom_sign rfl (by simp),
      scanFrom_of_isBlank rfl]
    obtain ⟨offset', tree, ⟨d, rfl⟩, hparts, hrender⟩ := hvalue _ rest hrest
    refine ⟨offset', .letStmt _ (.ofToken _) d.tree,
      ⟨.letStatement word.kind_eq name.kind_eq rfl d, rfl⟩, ?_, ?_⟩
    · simp only [Stmt.mapTokens, Ident.mapTokens, Ident.ofToken, literal_spelling,
        hparts, Token.forget]
    · simp only [Stmt.render, Ident.ofToken, literal_spelling, hrender]
  | @returnStmt t value word printable =>
    have hvalue := (rereads_expr printable).expression
    have htext : (t.literal ++ " " ++ value.render).toList ++ rest =
        t.literal.toList ++ ' ' :: (value.render.toList ++ rest) := by simp
    have hblank : Boundary (' ' :: (value.render.toList ++ rest)) := boundary_cons.2 (by decide)
    rw [bare, htext, scanFrom_word word.run hblank, scanFrom_of_isBlank rfl]
    obtain ⟨offset', tree, ⟨d, rfl⟩, hparts, hrender⟩ := hvalue _ rest hrest
    refine ⟨offset', .returnStmt _ d.tree, ⟨.returnStatement word.kind_eq d, rfl⟩, ?_, ?_⟩
    · simp only [Stmt.mapTokens, hparts, Token.forget]
    · simp only [Stmt.render, hrender, literal_spelling]
  | @exprStmt t value printable =>
    obtain ⟨offset', tree, hd, hparts, hrender⟩ :=
      (rereads_expr printable).expression offset rest hrest
    obtain ⟨u, ts, hts⟩ := hd.exists_cons
    rw [hts] at hd
    rw [bare, hts]
    obtain ⟨d, rfl⟩ := hd
    refine ⟨offset', .exprStmt u d.tree, ⟨.exprStatement d, rfl⟩, ?_, ?_⟩
    · simp only [Stmt.mapTokens, hparts, Token.forget]
    · simp only [Stmt.render, hrender]

/-- Statements that all have a semicolon, except perhaps the last, are read as they are. -/
lemma rereads_stmts : ∀ {ss : List Stmt}, (∀ s ∈ ss, s.Printable) →
    (∀ s ∈ ss.dropLast, s.isClosed = true) → ∀ offset, ∃ trees : List Stmt,
      Derivable .statements (scanFrom offset (renderStmts ss).toList) [] trees ∧ AlikeStmts ss trees
  | [], _, _ => by
    intro offset
    have htext : scanFrom offset (renderStmts []).toList = [] := by simp [renderStmts, scanFrom]
    rw [htext]
    exact ⟨[], ⟨.noStatement, rfl⟩, rfl, rfl⟩
  | s :: ss, hprintable, hclosed => by
    intro offset
    obtain ⟨hs, hss⟩ := List.forall_mem_cons.1 hprintable
    have hmore : ss ≠ [] → s.isClosed = true ∧ ∀ s' ∈ ss.dropLast, s'.isClosed = true := by
      intro hne
      rw [List.dropLast_cons_of_ne_nil hne] at hclosed
      exact List.forall_mem_cons.1 hclosed
    by_cases hend : s.isClosed = true
    · have htext : (renderStmts (s :: ss)).toList =
          (bare s).toList ++ ';' :: (renderStmts ss).toList := by
        simp [renderStmts, render_of_isClosed hend]
      have hstop : Boundary (';' :: (renderStmts ss).toList) := boundary_cons.2 (by decide)
      have hothers : ∀ s' ∈ ss.dropLast, s'.isClosed = true := fun s' hs' =>
        (hmore (by rintro rfl; cases hs')).2 s' hs'
      obtain ⟨middle, tree, hd, hparts, hrender⟩ := rereads_stmt hs offset _ hstop
      obtain ⟨trees, ⟨d', rfl⟩, hparts', hrender'⟩ :=
        rereads_stmts hss hothers (middle + ';'.utf8Size)
      rw [scanFrom_sign rfl (by simp)] at hd
      obtain ⟨d, rfl⟩ := hd
      rw [htext]
      refine ⟨d.tree :: d'.tree, ⟨.closedStatement d rfl d', rfl⟩, ?_, ?_⟩
      · simp only [mapTokensStmts, hparts, hparts']
      · simp only [renderStmts, hrender, hrender']
    · obtain rfl : ss = [] := Classical.byContradiction fun hne => hend (hmore hne).1
      have htext : (renderStmts [s]).toList = (bare s).toList ++ [] := by
        simp [renderStmts, render_of_not_isClosed hend]
      obtain ⟨offset', tree, hd, hparts, hrender⟩ := rereads_stmt hs offset [] boundary_nil
      rw [scanFrom] at hd
      obtain ⟨d, rfl⟩ := hd
      rw [htext]
      refine ⟨[d.tree], ⟨.openStatement d id .noStatement, rfl⟩, ?_, ?_⟩
      · simp only [mapTokensStmts, hparts]
      · simp only [renderStmts, hrender]

/-- The statements of a plain program that was read are printable. -/
lemma printable_of_parse {source : String} {p : Program} (h : Program.parse source = .ok p)
    (hplain : p.isPlain = true) : (∀ s ∈ p.statements, s.Printable) ∧
      ∀ s ∈ p.statements.dropLast, s.isClosed = true := by
  obtain ⟨d, hd⟩ := (reads_statements_iff (proper_ofText source)).1 (parse_eq_ok_iff.1 h)
  have hprints := d.prints (wellSpelled_of_mem_scanFrom 0 source.toList)
  rw [hd] at hprints
  simp only [Program.isPlain, Bool.and_eq_true, List.all_eq_true] at hplain
  exact ⟨fun s hs => hprints s hs (hplain.1 s hs), hplain.2⟩

/-- The canonical form of a plain program that was read is read as the same program, up to its
tokens. -/
lemma exists_parse_render {source : String} {p : Program} (h : Program.parse source = .ok p)
    (hplain : p.isPlain = true) : ∃ q, Program.parse p.render = .ok q ∧
      q.mapTokens .forget = p.mapTokens .forget ∧ q.render = p.render := by
  obtain ⟨hprintable, hclosed⟩ := printable_of_parse h hplain
  obtain ⟨trees, hd, hparts, hrender⟩ := rereads_stmts hprintable hclosed 0
  refine ⟨⟨trees⟩, ?_, ?_, ?_⟩
  · exact parse_eq_ok_iff.2 ((reads_statements_iff (proper_ofText p.render)).2 hd)
  · exact congrArg Program.mk hparts
  · exact hrender

end Grammar

/-! ## Programs -/

/-- The canonical form of a plain program is read as the same program up to its tokens, with the
same canonical form; so plain programs with the same canonical form are the same up to tokens. -/
theorem Program.parse_render_of_isPlain {source : String} {p : Program}
    (h : parse source = .ok p) (hplain : p.isPlain = true) :
    (∃ q, parse p.render = .ok q ∧ q.mapTokens .forget = p.mapTokens .forget ∧
        q.render = p.render) ∧
      ∀ source' p', parse source' = .ok p' → p'.isPlain = true → p'.render = p.render →
        p'.mapTokens .forget = p.mapTokens .forget := by
  refine ⟨Grammar.exists_parse_render h hplain, ?_⟩
  intro source' p' h' hplain' hrender
  obtain ⟨q, hq, hparts, -⟩ := Grammar.exists_parse_render h hplain
  obtain ⟨q', hq', hparts', -⟩ := Grammar.exists_parse_render h' hplain'
  rw [hrender, hq] at hq'
  injection hq' with heq
  rw [← hparts', ← heq, hparts]

/-- Every plain form at a place where its canonical form needs parentheses or a separator. -/
theorem Program.parse_render_of_isPlain_nested : ∃ p q,
    parse "let a = -f(1, 007)[\x7btrue: [x]\x7d] + 2; return !a; (a < b)(c)[d] == e" = .ok p ∧
      p.isPlain = true ∧
      p.render =
        "let a = ((-(f(1, 007)[\x7btrue:[x]\x7d])) + 2);return (!a);(((a < b)(c)[d]) == e)" ∧
      parse p.render = .ok q ∧ q.mapTokens .forget = p.mapTokens .forget ∧ q.render = p.render := by
  have hparse :
      parse "let a = -f(1, 007)[\x7btrue: [x]\x7d] + 2; return !a; (a < b)(c)[d] == e" = .ok
        (read "let a = -f(1, 007)[\x7btrue: [x]\x7d] + 2; return !a; (a < b)(c)[d] == e").program :=
    if_pos (by decide +kernel)
  obtain ⟨⟨q, hq⟩, -⟩ := parse_render_of_isPlain hparse (by decide +kernel)
  exact ⟨_, q, hparse, by decide +kernel, by decide +kernel, hq⟩

end MonkeyLang
