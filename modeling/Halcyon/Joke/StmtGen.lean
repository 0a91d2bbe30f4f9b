import Halcyon.Joke.Branch
import Halcyon.Joke.Gen
import Halcyon.Joke.StmtCheck

/-!
# Code generation for scripts

The statement rules of `grammar/Gen.g` and the templates of `grammar/ByteCode.stg` they fill.
Conditionals and loops need labels of their own, which a counter of the generator numbers; a
rule takes its numbers after its parts have taken theirs.

A rule that does not match makes the generation fail (`none`).  A template that is missing from
the tables leaves nothing of its expression behind; the line `Asm.blank` stands for the gap.

`Accepted` puts the passes in front of the generator together.
-/

namespace Halcyon.Joke

open Halcyon.Lib Env

/-! ## Statements -/

/-- The code of an expression of a statement, promoted to the type the statement wants. -/
def genRoot (env : Env) (r : Root) (dest : Option VarType) : Option Code :=
  (genExpr env r.expr).map (doPromotion (dest.bind (promotion env r.expr)))

/-- The code of an expression whose value is not used. -/
def genUnused (env : Env) : Option Root → Option Code
  | none => some []
  | some r => (genRoot env r none).map (· ++ [.op .pop])

/-- The code of a condition: `booleval` makes an integer of what is none. -/
def genCond (env : Env) (r : Root) : Option Code :=
  (genRoot env r none).map
    (· ++ if evalType env r.expr = some .integer then [] else [.op .booleval])

/-- The template `jump`, and the jumps of the other templates. -/
def jumpTo (op : OpCode) (label : String) : Asm := .instr op [.id label]

/-- The labels of the generator. -/
def genLabel (what : String) (labelId : Nat) : String := what ++ toString labelId

/-- The template `ifelse`. -/
def ifElseCode (evalexpr stmt altstmt : Code) (endlabel altlabel : String) : Code :=
  evalexpr ++ [jumpTo .brf altlabel] ++ stmt ++ [jumpTo .jmp endlabel, .label altlabel] ++
    altstmt ++ [.label endlabel]

/-- The template `while`. -/
def whileCode (evalexpr stmt : Code) (loopstartlabel loopoutlabel : String) : Code :=
  [.label loopstartlabel] ++ evalexpr ++ [jumpTo .brf loopoutlabel] ++ stmt ++
    [jumpTo .jmp loopstartlabel, .label loopoutlabel]

/-- The template `dowhile`. -/
def doWhileCode (evalexpr stmt : Code) (loopstartlabel loopoutlabel : String) : Code :=
  [.label loopstartlabel] ++ stmt ++ evalexpr ++
    [jumpTo .brf loopoutlabel, jumpTo .jmp loopstartlabel, .label loopoutlabel]

/-- The template `forloop`; a loop without a condition has no test. -/
def forCode (initexpr : Code) (condexpr : Option Code) (loopexpr stmt : Code)
    (loopstartlabel loopoutlabel : String) : Code :=
  initexpr ++ [.label loopstartlabel] ++
    (match condexpr with
    | some c => c ++ [jumpTo .brf loopoutlabel]
    | none => []) ++
    stmt ++ loopexpr ++ [jumpTo .jmp loopstartlabel, .label loopoutlabel]

/-- The code of the condition of a `for` loop, which may lack one. -/
def genCond? (env : Env) : Option Root → Option (Option Code)
  | none => some none
  | some r => (genCond env r).map some

/-- The rules of the expressions that may stand as a statement. -/
def genExprStmt (env : Env) : Expr → Option Code
  | .call _ (.id n) args => do
    let m ← env.method n
    let exprs ← genArgs env (m.params.map Prod.snd) args
    some (callCode m exprs (m.type != .void))
  | .incDec _ op e => (genIncDec env op e).map (· ++ [.op .pop])
  | _ => none

/-- A variable that is declared: the templates `lstore` and `linit`, and `gstore` and `ginit`
for globals. -/
def genVarDecl (env : Env) (isGlobal : Bool) (type : VarType) (init : Option Root) (slot : Nat) :
    Option Code :=
  match init with
  | some r => (genRoot env r (some type)).map (· ++ [storeVar isGlobal slot none])
  | none => (TemplateMapping.init type).map fun (loc, glob) => [onVar glob loc isGlobal slot]

mutual

/-- The rule `funcBlockContent`; `labelId` is the counter of the generator. -/
def genStmt (env : Env) : Stmt Nat → Nat → Option (Code × Nat)
  | .semi, labelId => some ([], labelId)
  | .assign _ op lhs rhs, labelId => do
    let expr ← genExpr env rhs.expr
    let code ← genAssign env op lhs none (evalType env rhs.expr) expr false
    some (code, labelId)
  | .subAssign _ op lhs sub rhs, labelId => do
    let expr ← genExpr env rhs.expr
    let code ← genAssign env op lhs (some sub) (evalType env rhs.expr) expr false
    some (code, labelId)
  | .ifElse _ cond s t, labelId => do
    let evalexpr ← genCond env cond
    let (stmt, labelId) ← genStmt env s labelId
    let (altstmt, labelId) ← genStmt env t labelId
    some (ifElseCode evalexpr stmt altstmt (genLabel "if_end_" labelId)
      (genLabel "if_else_" (labelId + 1)), labelId + 2)
  | .whileLoop _ cond s, labelId => do
    let evalexpr ← genCond env cond
    let (stmt, labelId) ← genStmt env s labelId
    some (whileCode evalexpr stmt (genLabel "while_start_" labelId)
      (genLabel "while_out_" (labelId + 1)), labelId + 2)
  | .doWhile _ cond s, labelId => do
    let evalexpr ← genCond env cond
    let (stmt, labelId) ← genStmt env s labelId
    some (doWhileCode evalexpr stmt (genLabel "do_while_start_" labelId)
      (genLabel "do_while_out_" (labelId + 1)), labelId + 2)
  | .forLoop _ init cond loop s, labelId => do
    let (stmt, labelId) ← genStmt env s labelId
    let initexpr ← genUnused env init
    let condexpr ← genCond? env cond
    let loopexpr ← genUnused env loop
    some (forCode initexpr condexpr loopexpr stmt (genLabel "forloop_start_" labelId)
      (genLabel "forloop_out_" (labelId + 1)), labelId + 2)
  | .varDecl _ type _ init slot, labelId => do
    let code ← genVarDecl env false type init slot
    some (code, labelId)
  | .exprStmt e, labelId => do
    let code ← genExprStmt env e.expr
    some (code, labelId)
  | .ret _ none, labelId => some ([.op .ret], labelId)
  | .ret _ (some e), labelId => do
    let expression ← genRoot env e (some env.returnType)
    some (expression ++ [.op .ret], labelId)
  | .stateChg _ dest, labelId =>
    some ([.instr .statechg [.stateId ((dest.map Node.text).getD "default")]], labelId)
  | .label name id, labelId => some ([.label (LabelSym.decoratedName ⟨name.text, id⟩)], labelId)
  | .jump _ name, labelId => do
    let label ← env.resolveLabel name.text
    some ([jumpTo .jmp label.decoratedName], labelId)
  | .block body, labelId => genStmts (env.enterBlock body) body labelId

/-- The rule `funcBlock`. -/
def genStmts (env : Env) : List (Stmt Nat) → Nat → Option (Code × Nat)
  | [], labelId => some ([], labelId)
  | s :: ss, labelId => do
    let (code, labelId) ← genStmt env s labelId
    let (rest, labelId) ← genStmts env ss labelId
    some (code ++ rest, labelId)

end

/-! ## Functions, events and scripts -/

/-- The rule `functions` and the template `methoddef`. -/
def genFunction (env : Env) (f : FuncDef Nat) (labelId : Nat) : Option (Code × Nat) := do
  let (content, labelId) ← genStmts ((env.function f).enterBlock f.body) f.body labelId
  let nargs := f.params.length
  some (.function f.name.text nargs (f.varCount - nargs) :: content ++ [.op .ret], labelId)

/-- The rule `eventDef` and the template `eventdef`. -/
def genEvent (env : Env) (s : StateDef Nat) (e : EventDef Nat) (labelId : Nat) :
    Option (Code × Nat) := do
  let (content, labelId) ← genStmts ((env.event s e).enterBlock e.body) e.body labelId
  let nargs := e.params.length
  some (.event s.name.text e.name.text nargs (e.varCount - nargs) :: content ++ [.op .ret],
    labelId)

/-- The events of a state. -/
def genEvents (env : Env) (s : StateDef Nat) : List (EventDef Nat) → Nat → Option (Code × Nat)
  | [], labelId => some ([], labelId)
  | e :: es, labelId => do
    let (code, labelId) ← genEvent env s e labelId
    let (rest, labelId) ← genEvents env s es labelId
    some (code ++ rest, labelId)

/-- The parts of the assembly that the template `file` puts in order. -/
structure Sections where
  globals : Code
  functions : Code
  states : Code

/-- The rule for a definition at the top of the script. -/
def genGlobal (env : Env) : GlobalStmt Nat → Nat → Option (Sections × Nat)
  | .varDecl _ type _ init slot, labelId => do
    let code ← genVarDecl env true type init slot
    some (⟨code, [], []⟩, labelId)
  | .funcDef f, labelId => do
    let (code, labelId) ← genFunction env f labelId
    some (⟨[], code, []⟩, labelId)
  | .stateDef s, labelId => do
    let (code, labelId) ← genEvents env s s.events labelId
    some (⟨[], [], code⟩, labelId)

/-- The rule `script`. -/
def genSections (env : Env) : Script Nat → Nat → Option (Sections × Nat)
  | [], labelId => some (⟨[], [], []⟩, labelId)
  | g :: gs, labelId => do
    let (code, labelId) ← genGlobal env g labelId
    let (rest, labelId) ← genSections env gs labelId
    some (⟨code.globals ++ rest.globals, code.functions ++ rest.functions,
      code.states ++ rest.states⟩, labelId)

/-- The template `file`. -/
def Sections.file (secs : Sections) (globalCount : Nat) (statenames : List String) : Code :=
  [.dataSize globalCount] ++ statenames.map .state ++ secs.globals ++ [.op .halt] ++
    secs.functions ++ secs.states

/-- The generator. -/
def genScript (env : Env) (script : Script Nat) : Option Code := do
  let (secs, _) ← genSections env script 0
  some (secs.file (globalSyms script).length ((statesOf script).map fun s => s.name.text))

/-! ## The compiler -/

/-- The definition pass, the type pass and the branch analysis report no error; `numbered` is
the script with the numbers of the definition pass. -/
structure Accepted (b : Builtins) (src : Source) (script : Script Unit)
    (numbered : Script Nat) : Prop where
  defined : defScript b script = .ok numbered
  typed : checkScript (scriptEnv b src numbered) numbered = .ok ()
  returns : ∀ f ∈ functionsOf numbered, f.returnsChecked = true

end Halcyon.Joke
