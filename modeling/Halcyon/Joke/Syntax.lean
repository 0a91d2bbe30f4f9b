import Halcyon.Joke.VarType

/-!
# Abstract syntax of scripts

The trees the parser of `grammar/LSL.g` builds.  Every node carries what the compiler reads of
its token (`Node`): the text, the position for error messages, and the range of token indices
it spans, which is how the compiler tells whether a declaration precedes a use.

A tree of type `Script Unit` is what the parser delivers.  The definition pass numbers the
variables of each function and the labels of the script; its result is a `Script Nat`, where
each declaration carries its slot, each label its number, and each function or event the number
of slots it needs.

Two conventions.  The root of every expression in a statement is an `EXPR` node, and so is a
parenthesised expression; the former is a `Root`, the latter `Expr.paren`.  An `if` without an
`else` has the empty statement as its `else` part: the compiler's passes treat an absent and an
empty part alike.

`Expr.level` is the rule of the expression grammar a node belongs to, and `Expr.parsed` says
that a tree respects the precedences and the associativity of that grammar; `Stmt.parsed` and
`GlobalStmt.parsed` say it of all expressions of a script, and that its types are types of the
language.
-/

namespace Halcyon.Joke

/-- The data of a tree node that comes from its token. -/
structure Node where
  text : String
  line : Nat := 1
  charPositionInLine : Nat := 0
  tokenStartIndex : Nat := 0
  tokenStopIndex : Nat := 0
  deriving DecidableEq, Repr

/-- The binary operators, assignments apart. -/
inductive BinOp
  | add
  | sub
  | mul
  | div
  | mod
  | lsh
  | rsh
  | boolOr
  | boolAnd
  | bitOr
  | bitAnd
  | bitXor
  | eq
  | neq
  | lt
  | gt
  | lte
  | gte
  deriving DecidableEq, Repr

/-- The assignment operators. -/
inductive AssignOp
  | assign
  | add
  | sub
  | mul
  | div
  | mod
  | lsh
  | rsh
  deriving DecidableEq, Repr

/-- The prefix operators that are not increments. -/
inductive UnaryOp
  | minus
  | boolNot
  | bitNot
  deriving DecidableEq, Repr

/-- The increments and decrements. -/
inductive IncDecOp
  | preInc
  | preDec
  | postInc
  | postDec
  deriving DecidableEq, Repr

/-- Expressions. -/
inductive Expr
  | intLit (n : Node)
  | floatLit (n : Node)
  | stringLit (n : Node)
  | id (n : Node)
  | vecLit (n : Node) (x y z : Expr)
  | rotLit (n : Node) (x y z w : Expr)
  | listLit (n : Node) (es : List Expr)
  | typeCast (n : Node) (type : VarType) (typeNode : Node) (e : Expr)
  | binary (n : Node) (op : BinOp) (l r : Expr)
  | assign (n : Node) (op : AssignOp) (l r : Expr)
  | unary (n : Node) (op : UnaryOp) (e : Expr)
  | incDec (n : Node) (op : IncDecOp) (e : Expr)
  | subscript (n : Node) (e : Expr) (sub : Node)
  | call (n : Node) (callee : Expr) (args : List Expr)
  | paren (n : Node) (e : Expr)

/-- The `EXPR` node at the root of an expression of a statement. -/
structure Root where
  node : Node
  expr : Expr

/-- Statements. -/
inductive Stmt (A : Type)
  | semi
  /-- Assignment to a variable; the left side is the identifier inside its `EXPR` node. -/
  | assign (n : Node) (op : AssignOp) (lhs : Node) (rhs : Root)
  /-- Assignment to a subscript of a variable. -/
  | subAssign (n : Node) (op : AssignOp) (lhs sub : Node) (rhs : Root)
  | ifElse (n : Node) (cond : Root) (thenPart elsePart : Stmt A)
  | whileLoop (n : Node) (cond : Root) (body : Stmt A)
  | doWhile (n : Node) (cond : Root) (body : Stmt A)
  | forLoop (n : Node) (init cond loop : Option Root) (body : Stmt A)
  | varDecl (n : Node) (type : VarType) (name : Node) (init : Option Root) (slot : A)
  /-- A call, an increment or a decrement. -/
  | exprStmt (e : Root)
  | ret (n : Node) (e : Option Root)
  | stateChg (n : Node) (dest : Option Node)
  | label (name : Node) (id : A)
  | jump (n : Node) (name : Node)
  | block (body : List (Stmt A))

/-- A parameter of a function or an event. -/
structure Param where
  type : VarType
  name : Node

/-- A function definition.  `returnType` is `none` for a function without a result. -/
structure FuncDef (A : Type) where
  returnType : Option VarType
  name : Node
  params : List Param
  body : List (Stmt A)
  varCount : A

/-- An event handler. -/
structure EventDef (A : Type) where
  name : Node
  params : List Param
  body : List (Stmt A)
  varCount : A

/-- A state with its event handlers. -/
structure StateDef (A : Type) where
  name : Node
  events : List (EventDef A)

/-- The definitions at the top of a script. -/
inductive GlobalStmt (A : Type)
  | varDecl (n : Node) (type : VarType) (name : Node) (init : Option Root) (slot : A)
  | funcDef (f : FuncDef A)
  | stateDef (s : StateDef A)

/-- A script. -/
abbrev Script (A : Type) := List (GlobalStmt A)

/-! ## Expressions as trees -/

namespace Expr

/-- The node at the root of an expression. -/
def node : Expr → Node
  | intLit n | floatLit n | stringLit n | id n | vecLit n .. | rotLit n .. | listLit n _
  | typeCast n .. | binary n .. | assign n .. | unary n .. | incDec n .. | subscript n ..
  | call n .. | paren n _ => n

/-- Induction over expressions; for the members of a list the property is assumed of every
one of them. -/
@[elab_as_elim]
theorem ind {P : Expr → Prop}
    (intLit : ∀ n, P (intLit n))
    (floatLit : ∀ n, P (floatLit n))
    (stringLit : ∀ n, P (stringLit n))
    (id : ∀ n, P (id n))
    (vecLit : ∀ n x y z, P x → P y → P z → P (vecLit n x y z))
    (rotLit : ∀ n x y z w, P x → P y → P z → P w → P (rotLit n x y z w))
    (listLit : ∀ n es, (∀ e ∈ es, P e) → P (listLit n es))
    (typeCast : ∀ n t tn e, P e → P (typeCast n t tn e))
    (binary : ∀ n op l r, P l → P r → P (binary n op l r))
    (assign : ∀ n op l r, P l → P r → P (assign n op l r))
    (unary : ∀ n op e, P e → P (unary n op e))
    (incDec : ∀ n op e, P e → P (incDec n op e))
    (subscript : ∀ n e sub, P e → P (subscript n e sub))
    (call : ∀ n callee args, P callee → (∀ e ∈ args, P e) → P (call n callee args))
    (paren : ∀ n e, P e → P (paren n e))
    (e : Expr) : P e :=
  @Expr.rec P (fun es => ∀ e ∈ es, P e) intLit floatLit stringLit id vecLit rotLit listLit
    typeCast binary assign unary incDec subscript call paren
    (by simp) (fun e es he hes => by simpa using ⟨he, hes⟩) e

end Expr

namespace Stmt

/-- Induction over statements; for a block the property is assumed of every statement in it. -/
@[elab_as_elim]
theorem ind {A : Type} {P : Stmt A → Prop}
    (semi : P semi)
    (assign : ∀ n op lhs rhs, P (assign n op lhs rhs))
    (subAssign : ∀ n op lhs sub rhs, P (subAssign n op lhs sub rhs))
    (ifElse : ∀ n cond s t, P s → P t → P (ifElse n cond s t))
    (whileLoop : ∀ n cond s, P s → P (whileLoop n cond s))
    (doWhile : ∀ n cond s, P s → P (doWhile n cond s))
    (forLoop : ∀ n init cond loop s, P s → P (forLoop n init cond loop s))
    (varDecl : ∀ n type name init slot, P (varDecl n type name init slot))
    (exprStmt : ∀ e, P (exprStmt e))
    (ret : ∀ n e, P (ret n e))
    (stateChg : ∀ n dest, P (stateChg n dest))
    (label : ∀ name id, P (label name id))
    (jump : ∀ n name, P (jump n name))
    (block : ∀ body, (∀ s ∈ body, P s) → P (block body))
    (s : Stmt A) : P s :=
  @Stmt.rec A P (fun ss => ∀ s ∈ ss, P s) semi assign subAssign ifElse whileLoop doWhile forLoop
    varDecl exprStmt ret stateChg label jump block
    (by simp) (fun s ss hs hss => by simpa using ⟨hs, hss⟩) s

end Stmt

/-! ## Precedence -/

namespace BinOp

/-- The rule of the expression grammar an operator belongs to. -/
def level : BinOp → Nat
  | boolOr | boolAnd => 11
  | bitOr | bitAnd | bitXor => 10
  | eq | neq => 9
  | lt | gt | lte | gte => 8
  | lsh | rsh => 7
  | add | sub => 6
  | mul | div | mod => 5

/-- The operator as scripts write it. -/
def text : BinOp → String
  | add => "+"
  | sub => "-"
  | mul => "*"
  | div => "/"
  | mod => "%"
  | lsh => "<<"
  | rsh => ">>"
  | boolOr => "||"
  | boolAnd => "&&"
  | bitOr => "|"
  | bitAnd => "&"
  | bitXor => "^"
  | eq => "=="
  | neq => "!="
  | lt => "<"
  | gt => ">"
  | lte => "<="
  | gte => ">="

end BinOp

/-- The assignment operator as scripts write it. -/
def AssignOp.text : AssignOp → String
  | assign => "="
  | add => "+="
  | sub => "-="
  | mul => "*="
  | div => "/="
  | mod => "%="
  | lsh => "<<="
  | rsh => ">>="

namespace Expr

/-- The rule of the expression grammar a node belongs to, from `12` for `assignmentExpression`
down to `0` for `primary`. -/
def level : Expr → Nat
  | assign .. => 12
  | binary _ op _ _ => op.level
  | unary .. => 4
  | typeCast .. => 3
  | incDec _ .preInc _ | incDec _ .preDec _ => 2
  | incDec _ .postInc _ | incDec _ .postDec _ | subscript .. | call .. => 1
  | intLit _ | floatLit _ | stringLit _ | id _ | vecLit .. | rotLit .. | listLit .. | paren .. => 0

/-- The tokens `INTEGER_LITERAL`: decimal digits, or `0x` and hexadecimal digits. -/
def isIntegerLiteral (text : String) : Bool :=
  match text.toList with
  | '0' :: 'x' :: ds => !ds.isEmpty && ds.all fun c =>
    ('0' ≤ c && c ≤ '9') || ('a' ≤ c && c ≤ 'f') || ('A' ≤ c && c ≤ 'F')
  | ds => !ds.isEmpty && ds.all fun c => '0' ≤ c && c ≤ '9'

mutual

/-- The tree respects the precedences of the grammar: binary operators associate to the left,
assignments to the right; and its integer literals are tokens of the lexer. -/
def parsed : Expr → Bool
  | intLit n => isIntegerLiteral n.text
  | floatLit _ | stringLit _ | id _ => true
  | vecLit _ x y z => x.parsed && y.parsed && z.parsed
  | rotLit _ x y z w => x.parsed && y.parsed && z.parsed && w.parsed
  | listLit _ es => allParsed es
  | typeCast _ _ _ e => decide (e.level ≤ 4) && e.parsed
  | binary _ op l r =>
    decide (l.level ≤ op.level) && decide (r.level < op.level) && l.parsed && r.parsed
  | assign _ _ l r => decide (l.level ≤ 11) && l.parsed && r.parsed
  | unary _ _ e => decide (e.level ≤ 4) && e.parsed
  | incDec _ _ e => decide (e.level ≤ 1) && e.parsed
  | subscript _ e _ => decide (e.level ≤ 1) && e.parsed
  | call _ callee args => decide (callee.level ≤ 1) && callee.parsed && allParsed args
  | paren _ e => e.parsed

/-- Every member of a list of expressions respects the precedences. -/
def allParsed : List Expr → Bool
  | [] => true
  | e :: es => e.parsed && allParsed es

end

end Expr

/-! ## Parsed scripts -/

/-- An expression a statement may lack. -/
def rootParsed : Option Root → Bool
  | none => true
  | some r => r.expr.parsed

/-- The expressions that can stand as a statement: a call by name, and an increment of a variable
or a subscript. -/
def Expr.isStatement : Expr → Bool
  | .call _ (.id _) _ | .incDec _ _ (.id _) | .incDec _ _ (.subscript _ (.id _) _) => true
  | _ => false

mutual

/-- The statement is one the parser can deliver. -/
def Stmt.parsed {A : Type} : Stmt A → Bool
  | .semi | .stateChg .. | .label .. | .jump .. => true
  | .assign _ _ _ rhs | .subAssign _ _ _ _ rhs => rhs.expr.parsed
  | .ifElse _ cond s t => cond.expr.parsed && s.parsed && t.parsed
  | .whileLoop _ cond s | .doWhile _ cond s => cond.expr.parsed && s.parsed
  | .forLoop _ init cond loop s =>
    rootParsed init && rootParsed cond && rootParsed loop && s.parsed
  | .varDecl _ type _ init _ => type != .void && rootParsed init
  | .exprStmt e => e.expr.isStatement && e.expr.parsed
  | .ret _ e => rootParsed e
  | .block body => Stmt.allParsed body

/-- The statements are ones the parser can deliver. -/
def Stmt.allParsed {A : Type} : List (Stmt A) → Bool
  | [] => true
  | s :: ss => s.parsed && Stmt.allParsed ss

end

/-- No parameter is of the type `void`, which is not a type of the language. -/
def paramsParsed (params : List Param) : Bool := params.all fun p => p.type != .void

/-- The definition is one the parser can deliver. -/
def GlobalStmt.parsed {A : Type} : GlobalStmt A → Bool
  | .varDecl _ type _ init _ => type != .void && rootParsed init
  | .funcDef f => f.returnType != some .void && paramsParsed f.params && Stmt.allParsed f.body
  | .stateDef s => s.events.all fun e => paramsParsed e.params && Stmt.allParsed e.body

end Halcyon.Joke
