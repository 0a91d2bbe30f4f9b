import Halcyon.Joke.Def
import Halcyon.Joke.TypeCheck

/-!
# The type pass over statements

The statement rules of `grammar/Types.g`.  The pass visits the tree from the bottom up and types
every `EXPR` node it meets: those in parentheses first, then the root of the expression, and
then the statement around it, whose rule types the roots once more.  A rule that does not match
is passed over, so a statement whose expression cannot be typed is not checked at all
(`Diag.attempt`).

The assignment to a subscript in a statement has a rule of its own, which takes the left side to
be a float and looks neither at the variable nor at the subscript.
-/

namespace Halcyon.Joke

open Halcyon.Lib Env

/-! ## Expressions of statements -/

mutual

/-- The expressions in parentheses, the inner ones first. -/
def Expr.parens : Expr → List Expr
  | .intLit _ | .floatLit _ | .stringLit _ | .id _ => []
  | .vecLit _ x y z => x.parens ++ y.parens ++ z.parens
  | .rotLit _ x y z w => x.parens ++ y.parens ++ z.parens ++ w.parens
  | .listLit _ es => Expr.allParens es
  | .typeCast _ _ _ e | .unary _ _ e | .incDec _ _ e | .subscript _ e _ => e.parens
  | .binary _ _ l r | .assign _ _ l r => l.parens ++ r.parens
  | .call _ callee args => callee.parens ++ Expr.allParens args
  | .paren _ e => e.parens ++ [e]

/-- The expressions in parentheses in a list of expressions. -/
def Expr.allParens : List Expr → List Expr
  | [] => []
  | e :: es => e.parens ++ Expr.allParens es

end

/-- The visit of the expressions in parentheses. -/
def checkParens (env : Env) : List Expr → Diag String Unit
  | [] => .ok ()
  | e :: es => do
    let _ ← (typeExpr env e).attempt
    checkParens env es

/-- The visit of an expression of a statement; the outcome is the annotation of its root. -/
def checkRoot (env : Env) (r : Root) : Diag String (Option VarType) := do
  checkParens env r.expr.parens
  let t ← (typeExpr env r.expr).attempt
  .ok t.join

/-- The visit of an expression that a statement may lack. -/
def checkRoot? (env : Env) : Option Root → Diag String Unit
  | none => .ok ()
  | some r => do
    let _ ← checkRoot env r
    .ok ()

/-! ## Statements -/

/-- The rule `rootAssign`. -/
def rootAssign (env : Env) (n : Node) (op : AssignOp) (lhs : Node) (rhs : Root) :
    Diag String (Option VarType) := do
  let tl ← typeExpr env (.id lhs)
  let tr ← typeExpr env rhs.expr
  assignOp env n op (.paren lhs (.id lhs)) (.paren rhs.node rhs.expr) tl tr

/-- The rule `rootSubAssign`. -/
def rootSubAssign (env : Env) (n : Node) (op : AssignOp) (lhs sub : Node) (rhs : Root) :
    Diag String (Option VarType) := do
  let tr ← typeExpr env rhs.expr
  assignOp env n op (.subscript lhs (.paren lhs (.id lhs)) sub) (.paren rhs.node rhs.expr)
    (some .float) tr

/-- `SymbolTable.DeclInit`, for the type `tr` of the initialiser. -/
def declInit (env : Env) (n : Node) (type : VarType) (name : Node) (init : Root)
    (tr : VarType) : Diag String Unit :=
  .require (canPass tr type) (location name ++ " " ++
    env.text name.tokenStartIndex name.tokenStopIndex ++ " and " ++
    env.text init.node.tokenStartIndex init.node.tokenStopIndex ++
    " have incompatible types in " ++ env.text n.tokenStartIndex n.tokenStopIndex)

/-- The rule `varDecl`. -/
def checkVarDecl (env : Env) (n : Node) (type : VarType) (name : Node) :
    Option Root → Diag String Unit
  | none => .ok ()
  | some init => do
    match ← checkRoot env init with
    | some tr => declInit env n type name init tr
    | none => .ok ()

/-- `SymbolTable.CheckReturn`, after the rule `returnStmt` has typed the expression. -/
def checkReturn (env : Env) (n : Node) : Option Root → Diag String Unit
  | none => .require (env.returnType == .void) (location n ++ " Function must return a value")
  | some r => do
    match ← typeExpr env r.expr with
    | none => do
      let _ ← unknownType r.node .void
      .ok ()
    | some t =>
      .require (canPass t env.returnType) (location n ++ " Invalid return type " ++ t.name ++
        ", expecting " ++ env.returnType.name)

/-- `SymbolTable.CheckStateChange`. -/
def checkStateChange (env : Env) (n : Node) (dest : Option Node) : Diag String Unit :=
  let name := (dest.map Node.text).getD "default"
  .require (env.states.contains name) (location n ++ " Undefined state " ++ name ++ "(*)")

/-- `SymbolTable.CheckJump`. -/
def checkJump (env : Env) (id : Node) : Diag String Unit :=
  .require (env.resolveLabel id.text).isSome (location id ++ " Undefined label " ++ id.text)

mutual

/-- The type pass over a statement. -/
def checkStmt (env : Env) : Stmt Nat → Diag String Unit
  | .semi => .ok ()
  | .assign n op lhs rhs => do
    let _ ← checkRoot env ⟨lhs, .id lhs⟩
    let _ ← checkRoot env rhs
    let _ ← (rootAssign env n op lhs rhs).attempt
    .ok ()
  | .subAssign n op lhs sub rhs => do
    let _ ← checkRoot env ⟨lhs, .id lhs⟩
    let _ ← checkRoot env rhs
    let _ ← (rootSubAssign env n op lhs sub rhs).attempt
    .ok ()
  | .ifElse _ cond s t => do
    let _ ← checkRoot env cond
    checkStmt env s
    checkStmt env t
  | .whileLoop _ cond s | .doWhile _ cond s => do
    let _ ← checkRoot env cond
    checkStmt env s
  | .forLoop _ init cond loop s => do
    checkStmt env s
    checkRoot? env init
    checkRoot? env cond
    checkRoot? env loop
  | .varDecl n type name init _ => checkVarDecl env n type name init
  | .exprStmt e => do
    let _ ← checkRoot env e
    .ok ()
  | .ret n e => do
    checkRoot? env e
    let _ ← (checkReturn env n e).attempt
    .ok ()
  | .stateChg n dest => checkStateChange env n dest
  | .label _ _ => .ok ()
  | .jump _ name => checkJump env name
  | .block body => checkStmts (env.enterBlock body) body

/-- The type pass over the statements of a block. -/
def checkStmts (env : Env) : List (Stmt Nat) → Diag String Unit
  | [] => .ok ()
  | s :: ss => do
    checkStmt env s
    checkStmts env ss

end

/-! ## Scripts -/

/-- The type pass over the events of a state. -/
def checkEvents (env : Env) (s : StateDef Nat) : List (EventDef Nat) → Diag String Unit
  | [] => .ok ()
  | e :: es => do
    checkStmts ((env.event s e).enterBlock e.body) e.body
    checkEvents env s es

/-- The type pass over a definition at the top of the script. -/
def checkGlobal (env : Env) : GlobalStmt Nat → Diag String Unit
  | .varDecl n type name init _ => checkVarDecl env n type name init
  | .funcDef f => checkStmts ((env.function f).enterBlock f.body) f.body
  | .stateDef s => checkEvents env s s.events

/-- The type pass. -/
def checkScript (env : Env) : Script Nat → Diag String Unit
  | [] => .ok ()
  | g :: gs => do
    checkGlobal env g
    checkScript env gs

end Halcyon.Joke
