import MonkeyLang.Syntax.Tree

/-!
# The grammar of programs

The grammar is stratified: binary operators stand in four tiers that associate to the left, then
come the operators before an operand, then calls and indexing behind a primary expression.  It
does not mention how programs are read.

`Grammar.Derivation A s r` is the type of derivations of the nonterminal `A` from the tokens of `s`
up to `r`, a tail of `s`; a program is derived from all its tokens, up to no tokens.
`Grammar.Derivation.tree` is the syntax tree of a derivation.
-/

namespace MonkeyLang

namespace Grammar

/-! ## Nonterminals -/

/-- The tiers of binary operators, the weakest first. -/
inductive Tier where
  | equality | comparison | sum | product
deriving DecidableEq

/-- The operators of a tier. -/
def Tier.operators : Tier → List BinaryOp
  | equality => [.eq, .notEq]
  | comparison => [.lt, .gt]
  | sum => [.plus, .minus]
  | product => [.times, .divide]

/-- The levels of expressions, the weakest first. -/
inductive Level where
  | binary (tier : Tier)
  | unary
  | suffixed
deriving DecidableEq

/-- The level of the operands of a tier, which is the next stronger one. -/
def Tier.operand : Tier → Level
  | equality => .binary .comparison
  | comparison => .binary .sum
  | sum => .binary .product
  | product => .unary

/-- The brackets around lists of expressions. -/
inductive Bracket where
  | round | square

/-- The kind of the token that closes a list. -/
def Bracket.close : Bracket → TokenKind
  | round => .rparen
  | square => .rbracket

inductive Nonterminal where
  /-- The statements of a program or of a block. -/
  | statements
  /-- A statement without the semicolon that may close it. -/
  | statement
  | block
  /-- What may stand behind the first block of a conditional. -/
  | alternative
  | expr (level : Level)
  /-- The operators of a tier and their right operands, behind the first operand. -/
  | chain (tier : Tier)
  /-- The calls and indexings behind a primary expression. -/
  | suffixes
  | primary
  /-- Expressions with commas between them, and the bracket that closes them. -/
  | arguments (bracket : Bracket)
  /-- What may stand behind the first of several expressions. -/
  | moreArguments (bracket : Bracket)
  | parameters
  | moreParameters
  /-- The pairs of a hash and the closing brace. -/
  | pairs
  | morePairs

/-- The level of an expression that stands by itself. -/
abbrev Nonterminal.expression : Nonterminal := .expr (.binary .equality)

/-- What a nonterminal stands for.  What follows an operand makes a larger expression of it. -/
abbrev Nonterminal.Tree : Nonterminal → Type
  | statements => List Stmt
  | statement => Stmt
  | block => Block
  | alternative => Option Block
  | expr _ | primary => Expr
  | chain _ | suffixes => Expr → Expr
  | arguments _ | moreArguments _ => List Expr
  | parameters | moreParameters => List Ident
  | pairs | morePairs => List (Expr × Expr)

/-! ## Derivations -/

/-- Whether the first token would continue an expression that stood before it, although it can
begin a statement. -/
def attaches : List Token → Prop
  | [] => False
  | t :: _ => t.kind = .minus ∨ t.kind = .lparen ∨ t.kind = .lbracket

/-- The derivations of a nonterminal from a list of tokens, up to a tail of it. -/
inductive Derivation : Nonterminal → List Token → List Token → Type where
  | noStatement {r : List Token} : Derivation .statements r r
  | closedStatement {t : Token} {s m r : List Token}
      (first : Derivation .statement s (t :: m)) (semicolon : t.kind = .semicolon)
      (others : Derivation .statements m r) : Derivation .statements s r
  | openStatement {s m r : List Token}
      (first : Derivation .statement s m) (separate : ¬ attaches m)
      (others : Derivation .statements m r) : Derivation .statements s r
  | letStatement {t n sign : Token} {s r : List Token}
      (word : t.kind = .letWord) (name : n.kind = .ident) (assign : sign.kind = .assign)
      (value : Derivation .expression s r) : Derivation .statement (t :: n :: sign :: s) r
  | returnStatement {t : Token} {s r : List Token}
      (word : t.kind = .returnWord)
      (value : Derivation .expression s r) : Derivation .statement (t :: s) r
  | exprStatement {t : Token} {s r : List Token}
      (value : Derivation .expression (t :: s) r) : Derivation .statement (t :: s) r
  | closedBlock {t close : Token} {s r : List Token}
      (brace : t.kind = .lbrace) (body : Derivation .statements s (close :: r))
      (rbrace : close.kind = .rbrace) : Derivation .block (t :: s) r
  /-- The closing brace may be missing where the text ends. -/
  | openBlock {t : Token} {s : List Token}
      (brace : t.kind = .lbrace) (body : Derivation .statements s []) :
      Derivation .block (t :: s) []
  | noAlternative {r : List Token} : Derivation .alternative r r
  | elseBlock {t : Token} {s r : List Token}
      (word : t.kind = .elseWord) (body : Derivation .block s r) :
      Derivation .alternative (t :: s) r
  /-- A first operand, and operators of the tier with their right operands. -/
  | binary {tier : Tier} {s m r : List Token}
      (first : Derivation (.expr tier.operand) s m) (others : Derivation (.chain tier) m r) :
      Derivation (.expr (.binary tier)) s r
  | chainEnd {tier : Tier} {r : List Token} : Derivation (.chain tier) r r
  | chainStep {tier : Tier} {t : Token} {s m r : List Token} (op : BinaryOp)
      (sign : BinaryOp.ofKind? t.kind = some op) (member : op ∈ tier.operators)
      (operand : Derivation (.expr tier.operand) s m) (others : Derivation (.chain tier) m r) :
      Derivation (.chain tier) (t :: s) r
  | unary {t : Token} {s r : List Token} (op : UnaryOp)
      (sign : UnaryOp.ofKind? t.kind = some op) (operand : Derivation (.expr .unary) s r) :
      Derivation (.expr .unary) (t :: s) r
  | noUnary {s r : List Token} (operand : Derivation (.expr .suffixed) s r) :
      Derivation (.expr .unary) s r
  | suffixed {s m r : List Token}
      (base : Derivation .primary s m) (others : Derivation .suffixes m r) :
      Derivation (.expr .suffixed) s r
  | suffixEnd {r : List Token} : Derivation .suffixes r r
  | call {t : Token} {s m r : List Token}
      (lparen : t.kind = .lparen) (arguments : Derivation (.arguments .round) s m)
      (others : Derivation .suffixes m r) : Derivation .suffixes (t :: s) r
  | index {t close : Token} {s m r : List Token}
      (lbracket : t.kind = .lbracket) (position : Derivation .expression s (close :: m))
      (rbracket : close.kind = .rbracket) (others : Derivation .suffixes m r) :
      Derivation .suffixes (t :: s) r
  | ident {t : Token} {r : List Token} (word : t.kind = .ident) : Derivation .primary (t :: r) r
  | int {t : Token} {r : List Token} (digits : t.kind = .int)
      (range : Text.ofDigits t.literal.toList ≤ Nat.pow 2 63 - 1) : Derivation .primary (t :: r) r
  | string {t : Token} {r : List Token} (quoted : t.kind = .string) :
      Derivation .primary (t :: r) r
  | trueWord {t : Token} {r : List Token} (word : t.kind = .trueWord) :
      Derivation .primary (t :: r) r
  | falseWord {t : Token} {r : List Token} (word : t.kind = .falseWord) :
      Derivation .primary (t :: r) r
  | grouped {t close : Token} {s r : List Token}
      (lparen : t.kind = .lparen) (inner : Derivation .expression s (close :: r))
      (rparen : close.kind = .rparen) : Derivation .primary (t :: s) r
  | conditional {t lparen rparen : Token} {s m n r : List Token}
      (word : t.kind = .ifWord) (opening : lparen.kind = .lparen)
      (condition : Derivation .expression s (rparen :: m)) (closing : rparen.kind = .rparen)
      (consequence : Derivation .block m n) (alternative : Derivation .alternative n r) :
      Derivation .primary (t :: lparen :: s) r
  | function {t lparen : Token} {s m r : List Token}
      (word : t.kind = .function) (opening : lparen.kind = .lparen)
      (parameters : Derivation .parameters s m) (body : Derivation .block m r) :
      Derivation .primary (t :: lparen :: s) r
  | array {t : Token} {s r : List Token}
      (lbracket : t.kind = .lbracket) (elements : Derivation (.arguments .square) s r) :
      Derivation .primary (t :: s) r
  | hash {t : Token} {s r : List Token}
      (brace : t.kind = .lbrace) (pairs : Derivation .pairs s r) : Derivation .primary (t :: s) r
  | noArgument {bracket : Bracket} {t : Token} {r : List Token} (closing : t.kind = bracket.close) :
      Derivation (.arguments bracket) (t :: r) r
  | someArguments {bracket : Bracket} {s m r : List Token}
      (first : Derivation .expression s m) (others : Derivation (.moreArguments bracket) m r) :
      Derivation (.arguments bracket) s r
  | argumentsEnd {bracket : Bracket} {t : Token} {r : List Token}
      (closing : t.kind = bracket.close) : Derivation (.moreArguments bracket) (t :: r) r
  | nextArgument {bracket : Bracket} {t : Token} {s m r : List Token}
      (comma : t.kind = .comma) (next : Derivation .expression s m)
      (others : Derivation (.moreArguments bracket) m r) :
      Derivation (.moreArguments bracket) (t :: s) r
  | noParameter {t : Token} {r : List Token} (closing : t.kind = .rparen) :
      Derivation .parameters (t :: r) r
  | someParameters {t : Token} {s r : List Token} (first : t.kind = .ident)
      (others : Derivation .moreParameters s r) : Derivation .parameters (t :: s) r
  | parametersEnd {t : Token} {r : List Token} (closing : t.kind = .rparen) :
      Derivation .moreParameters (t :: r) r
  | nextParameter {comma t : Token} {s r : List Token} (sign : comma.kind = .comma)
      (next : t.kind = .ident) (others : Derivation .moreParameters s r) :
      Derivation .moreParameters (comma :: t :: s) r
  | noPair {t : Token} {r : List Token} (closing : t.kind = .rbrace) : Derivation .pairs (t :: r) r
  | somePairs {colon : Token} {s m n r : List Token}
      (key : Derivation .expression s (colon :: m)) (sign : colon.kind = .colon)
      (value : Derivation .expression m n) (others : Derivation .morePairs n r) :
      Derivation .pairs s r
  | pairsEnd {t : Token} {r : List Token} (closing : t.kind = .rbrace) :
      Derivation .morePairs (t :: r) r
  /-- A comma may stand behind the last pair. -/
  | pairsEndComma {comma t : Token} {r : List Token} (sign : comma.kind = .comma)
      (closing : t.kind = .rbrace) : Derivation .morePairs (comma :: t :: r) r
  | nextPair {comma colon : Token} {s m n r : List Token} (sign : comma.kind = .comma)
      (key : Derivation .expression s (colon :: m)) (between : colon.kind = .colon)
      (value : Derivation .expression m n) (others : Derivation .morePairs n r) :
      Derivation .morePairs (comma :: s) r

namespace Derivation

/-- The syntax tree of a derivation.  Parentheses, separators and closing tokens leave no trace. -/
def tree {A : Nonterminal} {s r : List Token} : Derivation A s r → A.Tree
  | noStatement => []
  | closedStatement first _ others | openStatement first _ others => first.tree :: others.tree
  | letStatement (t := t) (n := n) _ _ _ value => .letStmt t (.ofToken n) value.tree
  | returnStatement (t := t) _ value => .returnStmt t value.tree
  | exprStatement (t := t) value => .exprStmt t value.tree
  | closedBlock (t := t) _ body _ | openBlock (t := t) _ body => .mk t body.tree
  | noAlternative => none
  | elseBlock _ body => some body.tree
  | binary first others => others.tree first.tree
  | chainEnd | suffixEnd => id
  | chainStep (t := t) op _ _ operand others => fun left =>
    others.tree (.binary t left op operand.tree)
  | unary (t := t) op _ operand => .unary t op operand.tree
  | noUnary operand => operand.tree
  | suffixed base others => others.tree base.tree
  | call (t := t) _ arguments others => fun left => others.tree (.call t left arguments.tree)
  | index (t := t) _ position _ others => fun left => others.tree (.index t left position.tree)
  | ident (t := t) _ => .ident (.ofToken t)
  | int (t := t) _ _ => .integer t (.ofNat (Text.ofDigits t.literal.toList))
  | string (t := t) _ => .string t t.literal
  | trueWord (t := t) _ => .boolean t true
  | falseWord (t := t) _ => .boolean t false
  | grouped _ inner _ => inner.tree
  | conditional (t := t) _ _ condition _ consequence alternative =>
    .conditional t condition.tree consequence.tree alternative.tree
  | function (t := t) _ _ parameters body => .function t parameters.tree body.tree
  | array (t := t) _ elements => .array t elements.tree
  | hash (t := t) _ pairs => .hash t pairs.tree
  | noArgument _ | argumentsEnd _ => []
  | someArguments first others => first.tree :: others.tree
  | nextArgument _ next others => next.tree :: others.tree
  | noParameter _ | parametersEnd _ => []
  | someParameters (t := t) _ others => .ofToken t :: others.tree
  | nextParameter (t := t) _ _ others => .ofToken t :: others.tree
  | noPair _ | pairsEnd _ | pairsEndComma _ _ => []
  | somePairs key _ value others | nextPair _ key _ value others =>
    (key.tree, value.tree) :: others.tree

end Derivation

/-- The derivations of a list of tokens as a whole program. -/
abbrev ProgramDerivation (tokens : List Token) : Type := Derivation .statements tokens []

/-- The program that a derivation stands for. -/
def ProgramDerivation.program {tokens : List Token} (d : ProgramDerivation tokens) : Program :=
  ⟨d.tree⟩

end Grammar

end MonkeyLang
