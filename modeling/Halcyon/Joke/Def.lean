import Halcyon.Joke.Events
import Halcyon.Joke.Scope

/-!
# The definition pass

`grammar/Def.g` walks the tree once and enters every variable, function, event, state and label
into the scope it belongs to.  What later passes use of it are the numbers it hands out: a
variable gets the next slot of its function, event or of the globals, whatever block it stands
in, and a label gets the next number of the script.  The result is the tree with those numbers,
a `Script Nat`; a declaration that is rejected as a duplicate gets none, which `0` stands for.

The pass reports names that are defined twice in one scope, states in front of the default
state, and event handlers that do not exist or have other parameters.  The remark that a local
variable hides a parameter is not an error and is left out.

The tables of system functions and constants of the compiler are data; `Builtins` is what the
compiler relies on.
-/

namespace Halcyon.Joke

open Halcyon.Lib Env

/-- The names of the built-in symbols in the global scope. -/
def builtinNames (methods : List (MethodSym × Nat)) (constants : List VarSym) : List String :=
  typeNames ++ methods.map (fun m => m.1.name) ++ constants.map VarSym.name

/-- The system functions, each with its number in the table of the virtual machine, and the
constants.  The constructor of the symbol table fails if two of them have one name. -/
structure Builtins where
  methods : List (MethodSym × Nat)
  constants : List VarSym
  isSyscall : ∀ m ∈ methods, m.1.isSyscall = true
  isConstant : ∀ c ∈ constants, c.isConstant = true ∧ c.isGlobal = true ∧ c.scopeIndex = -1
  notList : ∀ c ∈ constants, c.type ≠ .list ∧ c.type ≠ .void
  nodup : (builtinNames methods constants).Nodup

/-- The names in the global scope before the script is read. -/
def Builtins.names (b : Builtins) : List String := builtinNames b.methods b.constants

/-- A compiler without system functions and constants. -/
def Builtins.empty : Builtins := ⟨[], [], by simp, by simp, by simp, by decide⟩

/-! ## Function bodies -/

/-- What the definition pass keeps inside a function: the next slot, the next label, and the
names of the scope it is in. -/
structure DefState where
  varIndex : Nat
  labelIndex : Nat
  names : List String

/-- The message of `TestForDefineErrors`. -/
def alreadyDefined (place name : String) : String :=
  place ++ "Symbol '" ++ name ++ "' already defined"

mutual

/-- The definition pass over a statement. -/
def defStmt (st : DefState) : Stmt Unit → Diag String (Stmt Nat × DefState)
  | .semi => .ok (.semi, st)
  | .assign n op lhs rhs => .ok (.assign n op lhs rhs, st)
  | .subAssign n op lhs sub rhs => .ok (.subAssign n op lhs sub rhs, st)
  | .ifElse n cond s t => do
    let (s, st) ← defStmt st s
    let (t, st) ← defStmt st t
    .ok (.ifElse n cond s t, st)
  | .whileLoop n cond s => do
    let (s, st) ← defStmt st s
    .ok (.whileLoop n cond s, st)
  | .doWhile n cond s => do
    let (s, st) ← defStmt st s
    .ok (.doWhile n cond s, st)
  | .forLoop n init cond loop s => do
    let (s, st) ← defStmt st s
    .ok (.forLoop n init cond loop s, st)
  | .varDecl n type name init _ =>
    if st.names.contains name.text then do
      .report (alreadyDefined (location name ++ " ") name.text)
      .ok (.varDecl n type name init 0, st)
    else
      .ok (.varDecl n type name init st.varIndex,
        { st with varIndex := st.varIndex + 1, names := name.text :: st.names })
  | .exprStmt e => .ok (.exprStmt e, st)
  | .ret n e => .ok (.ret n e, st)
  | .stateChg n dest => .ok (.stateChg n dest, st)
  | .label name _ => do
    let st' := { st with labelIndex := st.labelIndex + 1 }
    if st.names.contains ("@" ++ name.text) then do
      .report (alreadyDefined (location name ++ " ") ("@" ++ name.text))
      .ok (.label name st.labelIndex, st')
    else
      .ok (.label name st.labelIndex, { st' with names := ("@" ++ name.text) :: st.names })
  | .jump n name => .ok (.jump n name, st)
  | .block body => do
    let (body, st') ← defStmts { st with names := [] } body
    .ok (.block body, { st' with names := st.names })

/-- The definition pass over the statements of a block. -/
def defStmts (st : DefState) : List (Stmt Unit) → Diag String (List (Stmt Nat) × DefState)
  | [] => .ok ([], st)
  | s :: ss => do
    let (s, st) ← defStmt st s
    let (ss, st) ← defStmts st ss
    .ok (s :: ss, st)

end

/-- The parameters of a function or an event: the names that are defined. -/
def defParams (names : List String) : List Param → Diag String (List String)
  | [] => .ok names
  | p :: ps =>
    if names.contains p.name.text then do
      .report (alreadyDefined "" p.name.text)
      defParams names ps
    else defParams (names ++ [p.name.text]) ps

/-- The parameters and the body of a function or an event; `labelIndex` is the next label.  The
slots of the body follow those of the parameters. -/
def defBody (labelIndex : Nat) (params : List Param) (body : List (Stmt Unit)) :
    Diag String (List (Stmt Nat) × DefState) := do
  let names ← defParams [] params
  defStmts ⟨names.length, labelIndex, []⟩ body

/-! ## Scripts -/

/-- What the definition pass keeps at the top of the script. -/
structure GlobalDefState where
  varIndex : Nat
  labelIndex : Nat
  names : List String

/-- `SymbolTable.Define` in the global scope. -/
def GlobalDefState.define (st : GlobalDefState) (place name : String) :
    Diag String GlobalDefState :=
  if st.names.contains name then do
    .report (alreadyDefined place name)
    .ok st
  else .ok { st with names := name :: st.names }

/-- `SymbolTable.CheckEvt`. -/
def checkEvt (e : EventDef Unit) : Diag String Unit :=
  match getEventByName e.name.text with
  | none =>
    .report (location e.name ++ " No event evailable with name '" ++ e.name.text ++ "'")
  | some sig =>
    .require (hasEventBySig e.name.text (e.params.map Param.type)) (location e.name ++
      " Incorrect parameters for event " ++ e.name.text ++
      "(" ++ ",".intercalate (sig.paramTypes.map VarType.name) ++ ")")

/-- The definition pass over the events of a state; `names` are those of the state's scope. -/
def defEvents (labelIndex : Nat) (names : List String) :
    List (EventDef Unit) → Diag String (List (EventDef Nat) × Nat)
  | [] => .ok ([], labelIndex)
  | e :: es => do
    let name := e.name.text ++ "()"
    .require (!names.contains name) (alreadyDefined (location e.name ++ " ") name)
    let (body, st) ← defBody labelIndex e.params e.body
    checkEvt e
    let (es, labelIndex) ← defEvents st.labelIndex (name :: names) es
    .ok (⟨e.name, e.params, body, st.varIndex⟩ :: es, labelIndex)

/-- The definition pass over a definition at the top of the script. -/
def defGlobal (st : GlobalDefState) :
    GlobalStmt Unit → Diag String (GlobalStmt Nat × GlobalDefState)
  | .varDecl n type name init _ =>
    if st.names.contains name.text then do
      .report (alreadyDefined (location name ++ " ") name.text)
      .ok (.varDecl n type name init 0, st)
    else
      .ok (.varDecl n type name init st.varIndex,
        { st with varIndex := st.varIndex + 1, names := name.text :: st.names })
  | .funcDef f => do
    let st ← st.define "" (f.name.text ++ "()")
    let (body, st') ← defBody st.labelIndex f.params f.body
    .ok (.funcDef ⟨f.returnType, f.name, f.params, body, st'.varIndex⟩,
      { st with labelIndex := st'.labelIndex })
  | .stateDef s => do
    let name := s.name.text ++ "(*)"
    .require (name == "default(*)" || st.names.contains "default(*)") (location s.name ++
      " State '" ++ name ++ "' cannot be defined yet. Default state must be defined first.")
    let st ← st.define (location s.name ++ " ") name
    let (events, labelIndex) ← defEvents st.labelIndex [] s.events
    .ok (.stateDef ⟨s.name, events⟩, { st with labelIndex := labelIndex })

/-- The definition pass over the definitions of a script. -/
def defGlobals (st : GlobalDefState) :
    Script Unit → Diag String (Script Nat × GlobalDefState)
  | [] => .ok ([], st)
  | g :: gs => do
    let (g, st) ← defGlobal st g
    let (gs, st) ← defGlobals st gs
    .ok (g :: gs, st)

/-- The definition pass. -/
def defScript (b : Builtins) (script : Script Unit) : Diag String (Script Nat) := do
  let (script, _) ← defGlobals ⟨0, 0, b.names⟩ script
  .ok script

/-! ## The scopes of the numbered tree -/

/-- The variables a statement enters into the scope it stands in: blocks inside it have scopes
of their own, the parts of an `if` or a loop that are not blocks do not. -/
def Stmt.decls : Stmt Nat → List VarSym
  | .varDecl n type name _ slot =>
    [⟨name.text, type, slot, false, none, name.tokenStartIndex,
      some (n.tokenStartIndex, n.tokenStopIndex)⟩]
  | .ifElse _ _ s t => s.decls ++ t.decls
  | .whileLoop _ _ s | .doWhile _ _ s | .forLoop _ _ _ _ s => s.decls
  | _ => []

/-- The labels a statement enters into the scope it stands in. -/
def Stmt.labels : Stmt Nat → List LabelSym
  | .label name id => [⟨name.text, id⟩]
  | .ifElse _ _ s t => s.labels ++ t.labels
  | .whileLoop _ _ s | .doWhile _ _ s | .forLoop _ _ _ _ s => s.labels
  | _ => []

/-- The scope of a block. -/
def Env.enterBlock (env : Env) (body : List (Stmt Nat)) : Env :=
  env.enter (body.flatMap Stmt.decls) (body.flatMap Stmt.labels)

/-- The symbols of parameters. -/
def paramSyms (params : List Param) : List VarSym :=
  params.zipIdx.map fun (p, i) =>
    ⟨p.name.text, p.type, i, false, none, p.name.tokenStartIndex, none⟩

/-- The symbol of a function. -/
def FuncDef.symbol {A : Type} (f : FuncDef A) : MethodSym where
  rawName := f.name.text
  type := f.returnType.getD .void
  params := f.params.map fun p => (p.name.text, p.type)
  isSyscall := false

/-- The global variables of a script. -/
def globalSyms (script : Script Nat) : List VarSym :=
  script.filterMap fun g =>
    match g with
    | .varDecl n type name _ slot =>
      some ⟨name.text, type, slot, true, none, name.tokenStartIndex,
        some (n.tokenStartIndex, n.tokenStopIndex)⟩
    | _ => none

/-- The functions of a script. -/
def functionsOf {A : Type} (script : Script A) : List (FuncDef A) :=
  script.filterMap fun g =>
    match g with
    | .funcDef f => some f
    | _ => none

/-- The states of a script. -/
def statesOf {A : Type} (script : Script A) : List (StateDef A) :=
  script.filterMap fun g =>
    match g with
    | .stateDef s => some s
    | _ => none

/-- What the passes need beside the tree: the text between two tokens, and the reading and
printing of float literals. -/
structure Source where
  text : Nat → Nat → String
  formatFloat : String → Option String

/-- The global scope of a script. -/
def scriptEnv (b : Builtins) (src : Source) (script : Script Nat) : Env where
  blocks := []
  params := []
  events := []
  globals := b.constants ++ globalSyms script
  methods := b.methods.map Prod.fst ++ (functionsOf script).map FuncDef.symbol
  states := (statesOf script).map fun s => s.name.text
  returnType := .void
  text := src.text
  formatFloat := src.formatFloat

/-- The scope of a function, without its body. -/
def Env.function (env : Env) (f : FuncDef Nat) : Env :=
  { env with params := paramSyms f.params, returnType := f.symbol.type }

/-- The scope of an event handler of a state, without its body. -/
def Env.event (env : Env) (s : StateDef Nat) (e : EventDef Nat) : Env :=
  { env with params := paramSyms e.params, events := s.events.map fun e => e.name.text }

end Halcyon.Joke
