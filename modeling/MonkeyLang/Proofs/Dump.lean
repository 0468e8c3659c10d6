import MonkeyLang.CommandLine.Report
import MonkeyLang.Proofs.Text.Json
import MonkeyLang.Syntax.Equality

/-!
# Dumps

The command that shows a syntax tree as JSON loses nothing of it: two programs whose dumps are the
same text are the same, down to the spans of their tokens.  A program is told from its document
node by node, since the forms of nodes have different names and no part of a node is left out
(`Expr.toJson_inj`); a document is told from its text (`Json.pretty_injective`).
-/

namespace MonkeyLang

/-! ## Names -/

/-- The kinds of token. -/
def TokenKind.kinds : List TokenKind :=
  [illegal, eof, ident, int, string, assign, plus, minus, bang, asterisk, slash, lt, gt, eq, notEq,
    comma, semicolon, colon, lparen, rparen, lbrace, rbrace, lbracket, rbracket, function, letWord,
    trueWord, falseWord, ifWord, elseWord, returnWord]

/-- No two kinds of token have the same name. -/
@[simp] lemma TokenKind.name_inj {a b : TokenKind} : a.name = b.name ↔ a = b := by
  refine ⟨fun h => ?_, congrArg name⟩
  have hread : ∀ k : TokenKind, kinds.find? (fun l => l.name = k.name) = some k := by
    intro k
    cases k <;> rfl
  rw [← Option.some_inj, ← hread a, ← hread b, h]

/-- No two operators before an operand have the same name. -/
@[simp] lemma UnaryOp.name_inj {a b : UnaryOp} : a.name = b.name ↔ a = b := by
  cases a <;> cases b <;> decide

/-- No two operators between operands have the same name. -/
@[simp] lemma BinaryOp.name_inj {a b : BinaryOp} : a.name = b.name ↔ a = b := by
  cases a <;> cases b <;> decide

/-! ## Tokens -/

@[simp] lemma Span.toJson_inj {s t : Span} : s.toJson = t.toJson ↔ s = t := by
  obtain ⟨start, stop⟩ := s
  obtain ⟨start', stop'⟩ := t
  simp only [toJson, Json.object.injEq, Json.integer.injEq, List.cons.injEq, Prod.mk.injEq,
    Int.ofNat_inj, mk.injEq, true_and, and_true]

@[simp] lemma Token.toJson_inj {t u : Token} : t.toJson = u.toJson ↔ t = u := by
  obtain ⟨kind, literal, span⟩ := t
  obtain ⟨kind', literal', span'⟩ := u
  simp [toJson]

@[simp] lemma Ident.toJson_inj {a b : Ident} : a.toJson = b.toJson ↔ a = b := by
  obtain ⟨token, name⟩ := a
  obtain ⟨token', name'⟩ := b
  simp [toJson]

@[simp] lemma Ident.map_toJson_inj {as bs : List Ident} :
    as.map Ident.toJson = bs.map Ident.toJson ↔ as = bs :=
  List.map_inj_right fun _ _ => Ident.toJson_inj.1

/-! ## Trees -/

lemma Block.toJson_ne_null (b : Block) : b.toJson ≠ .null := by
  obtain ⟨t, ss⟩ := b
  simp [toJson]

mutual

/-- Different expressions have different documents. -/
theorem Expr.toJson_inj : ∀ a b : Expr, a.toJson = b.toJson ↔ a = b
  | .ident _, b => by cases b <;> simp [Expr.toJson, Json.node]
  | .boolean _ _, b => by cases b <;> simp [Expr.toJson, Json.node]
  | .integer _ _, b => by cases b <;> simp [Expr.toJson, Json.node, Int64.toInt_inj]
  | .string _ _, b => by cases b <;> simp [Expr.toJson, Json.node]
  | .unary _ _ e, b => by cases b <;> simp [Expr.toJson, Json.node, Expr.toJson_inj e]
  | .binary _ l _ r, b => by
    cases b <;> simp [Expr.toJson, Json.node, Expr.toJson_inj l, Expr.toJson_inj r]
  | .conditional _ c t a, b => by
    cases b <;>
      simp [Expr.toJson, Json.node, Expr.toJson_inj c, Block.toJson_inj t, alternativeToJson_inj a]
  | .function _ _ t, b => by cases b <;> simp [Expr.toJson, Json.node, Block.toJson_inj t]
  | .call _ f es, b => by
    cases b <;> simp [Expr.toJson, Json.node, Expr.toJson_inj f, exprsToJson_inj es]
  | .array _ es, b => by cases b <;> simp [Expr.toJson, Json.node, exprsToJson_inj es]
  | .index _ l p, b => by
    cases b <;> simp [Expr.toJson, Json.node, Expr.toJson_inj l, Expr.toJson_inj p]
  | .hash _ ps, b => by cases b <;> simp [Expr.toJson, Json.node, pairsToJson_inj ps]

/-- A missing branch is told from one that is there, since no block has the document `null`. -/
lemma alternativeToJson_inj :
    ∀ a b : Option Block, alternativeToJson a = alternativeToJson b ↔ a = b
  | none, b => by cases b <;> simp [alternativeToJson, (Block.toJson_ne_null _).symm]
  | some t, b => by
    cases b <;> simp [alternativeToJson, Block.toJson_ne_null, Block.toJson_inj t]

lemma exprsToJson_inj : ∀ a b : List Expr, exprsToJson a = exprsToJson b ↔ a = b
  | [], b => by cases b <;> simp [exprsToJson]
  | e :: es, b => by cases b <;> simp [exprsToJson, Expr.toJson_inj e, exprsToJson_inj es]

lemma pairsToJson_inj : ∀ a b : List (Expr × Expr), pairsToJson a = pairsToJson b ↔ a = b
  | [], b => by rcases b with _ | ⟨⟨_, _⟩, _⟩ <;> simp [pairsToJson]
  | (k, v) :: ps, b => by
    rcases b with _ | ⟨⟨k', v'⟩, ps'⟩ <;>
      simp [pairsToJson, Expr.toJson_inj k, Expr.toJson_inj v, pairsToJson_inj ps]

lemma Stmt.toJson_inj : ∀ a b : Stmt, a.toJson = b.toJson ↔ a = b
  | .letStmt _ _ v, b => by cases b <;> simp [Stmt.toJson, Json.node, Expr.toJson_inj v]
  | .returnStmt _ v, b => by cases b <;> simp [Stmt.toJson, Json.node, Expr.toJson_inj v]
  | .exprStmt _ v, b => by cases b <;> simp [Stmt.toJson, Json.node, Expr.toJson_inj v]

lemma Block.toJson_inj : ∀ a b : Block, a.toJson = b.toJson ↔ a = b
  | .mk _ ss, .mk _ ss' => by simp [Block.toJson, stmtsToJson_inj ss ss']

lemma stmtsToJson_inj : ∀ a b : List Stmt, stmtsToJson a = stmtsToJson b ↔ a = b
  | [], b => by cases b <;> simp [stmtsToJson]
  | s :: ss, b => by cases b <;> simp [stmtsToJson, Stmt.toJson_inj s, stmtsToJson_inj ss]

end

lemma Program.toJson_inj {p q : Program} : p.toJson = q.toJson ↔ p = q := by
  obtain ⟨ss⟩ := p
  obtain ⟨ss'⟩ := q
  simp [toJson, stmtsToJson_inj]

/-! ## What the command prints -/

/-- The command shows, as JSON, the syntax tree of the program whose text is in a file. -/
def Invocation.Dumps (i : Invocation) (readFile : String → FileContents) (p : Program) : Prop :=
  ∃ file text, i.command = .ast file true ∧ decode (readFile file) = .ok text ∧
    Program.parse text = .ok p

namespace Invocation

variable {i j : Invocation} {readFile readFile' : String → FileContents} {p q : Program}

/-- Whatever is logged, the text of the document is all that is printed. -/
lemma Dumps.stdout_report (h : i.Dumps readFile p) (depth : Nat) (ambient : Option String)
    (stdin : List UInt8) :
    (i.report depth ambient readFile stdin).stdout = p.toJson.pretty ++ "\n" := by
  obtain ⟨file, text, hcommand, hread, hparse⟩ := h
  simp only [report, hcommand, reportOn, hread, hparse]
  rfl

/-- The command prints the same text for two programs only if they are the same, with all their
tokens and spans. -/
theorem stdout_report_inj (hp : i.Dumps readFile p) (hq : j.Dumps readFile' q) (depth : Nat)
    (ambient ambient' : Option String) (stdin : List UInt8) :
    (i.report depth ambient readFile stdin).stdout =
      (j.report depth ambient' readFile' stdin).stdout ↔ p = q := by
  rw [hp.stdout_report, hq.stdout_report, String.append_left_inj, Json.pretty_injective.eq_iff,
    Program.toJson_inj]

/-- A name and a string, of the bytes of `a` and of `"a"`, have the same canonical form, but not
the same dump. -/
theorem stdout_report_inj_quotes :
    let readFile : String → FileContents := fun file =>
      .ok (if file = "name" then [97] else [34, 97, 34])
    let i : Invocation := ⟨none, .ast "name" true⟩
    let j : Invocation := ⟨none, .ast "string" true⟩
    ∃ p q, i.Dumps readFile p ∧ j.Dumps readFile q ∧ p.render = q.render ∧
      (i.report 1 none readFile []).stdout ≠ (j.report 1 none readFile []).stdout := by
  intro readFile i j
  have hname : i.Dumps readFile (Program.read "a").program :=
    ⟨"name", "a", rfl, rfl, if_pos (by decide +kernel)⟩
  have hstring : j.Dumps readFile (Program.read "\"a\"").program :=
    ⟨"string", "\"a\"", rfl, rfl, if_pos (by decide +kernel)⟩
  refine ⟨_, _, hname, hstring, by decide +kernel, fun h => ?_⟩
  have hsame := (stdout_report_inj hname hstring 1 none none []).1 h
  exact absurd (congrArg Program.statements hsame) (by decide +kernel)

end Invocation

end MonkeyLang
