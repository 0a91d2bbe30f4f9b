import Halcyon.Joke.Numbering
import Halcyon.Joke.StmtGen

/-!
# Routines

The functions and the event handlers of a script are alike to the passes behind the definition
pass: parameters, a body with its scopes, a number of slots, and a line of assembly that declares
it.  `Routine` is what they have in common, and `genScript_eq_some` takes the assembly of a script
apart: the code of the global variables, and the code of each routine, which starts with its
declaration and ends in `ret`.
-/

namespace Halcyon.Joke

open Halcyon.Lib Env

/-- A function or an event handler; `env` are the scopes inside its body. -/
structure Routine where
  env : Env
  header : Asm
  params : List Param
  body : List (Stmt Nat)
  varCount : Nat

namespace Routine

/-- A function of a script with global scope `env`. -/
def ofFunction (env : Env) (f : FuncDef Nat) : Routine where
  env := (env.function f).enterBlock f.body
  header := .function f.name.text f.params.length (f.varCount - f.params.length)
  params := f.params
  body := f.body
  varCount := f.varCount

/-- An event handler of a state of a script with global scope `env`. -/
def ofEvent (env : Env) (s : StateDef Nat) (e : EventDef Nat) : Routine where
  env := (env.event s e).enterBlock e.body
  header := .event s.name.text e.name.text e.params.length (e.varCount - e.params.length)
  params := e.params
  body := e.body
  varCount := e.varCount

/-- The code generated for a routine: the declaration, the statements, and a `ret`.  The numbers
of the labels depend on what was generated before. -/
def Emits (r : Routine) (code : Code) : Prop :=
  ∃ i j content, genStmts r.env r.body i = some (content, j) ∧
    code = r.header :: (content ++ [.op .ret])

end Routine

/-- The functions of a script. -/
def functionRoutines (env : Env) (script : Script Nat) : List Routine :=
  (functionsOf script).map (.ofFunction env)

/-- The event handlers of a script. -/
def eventRoutines (env : Env) (script : Script Nat) : List Routine :=
  (statesOf script).flatMap fun s => s.events.map (.ofEvent env s)

/-- The routines of a script, in the order of the assembly. -/
def routines (env : Env) (script : Script Nat) : List Routine :=
  functionRoutines env script ++ eventRoutines env script

/-- The code of the global variables. -/
def globalInits (env : Env) : Script Nat → Option Code
  | [] => some []
  | .varDecl _ type _ init slot :: gs => do
    let code ← genVarDecl env true type init slot
    let rest ← globalInits env gs
    some (code ++ rest)
  | _ :: gs => globalInits env gs

variable {env : Env} {i j : Nat} {code : Code}

lemma genFunction_eq_some {f : FuncDef Nat} (h : genFunction env f i = some (code, j)) :
    (Routine.ofFunction env f).Emits code := by
  obtain ⟨⟨content, k⟩, hgen, h⟩ := Option.bind_eq_some_iff.mp h
  obtain ⟨rfl, rfl⟩ := Prod.mk.inj (Option.some.inj h)
  exact ⟨i, _, content, hgen, rfl⟩

lemma genEvent_eq_some {s : StateDef Nat} {e : EventDef Nat}
    (h : genEvent env s e i = some (code, j)) : (Routine.ofEvent env s e).Emits code := by
  obtain ⟨⟨content, k⟩, hgen, h⟩ := Option.bind_eq_some_iff.mp h
  obtain ⟨rfl, rfl⟩ := Prod.mk.inj (Option.some.inj h)
  exact ⟨i, _, content, hgen, rfl⟩

lemma genEvents_eq_some {s : StateDef Nat} {es : List (EventDef Nat)}
    (h : genEvents env s es i = some (code, j)) :
    ∃ codes, List.Forall₂ Routine.Emits (es.map (.ofEvent env s)) codes ∧ code = codes.flatten := by
  induction es generalizing i code with
  | nil =>
    obtain ⟨rfl, rfl⟩ := Prod.mk.inj (Option.some.inj h)
    exact ⟨[], .nil, rfl⟩
  | cons e es ih =>
    obtain ⟨⟨c, k⟩, he, h⟩ := Option.bind_eq_some_iff.mp h
    obtain ⟨⟨rest, k'⟩, hes, h⟩ := Option.bind_eq_some_iff.mp h
    obtain ⟨rfl, rfl⟩ := Prod.mk.inj (Option.some.inj h)
    obtain ⟨codes, hcodes, rfl⟩ := ih hes
    exact ⟨c :: codes, .cons (genEvent_eq_some he) hcodes, rfl⟩

/-- The sections of the assembly hold the code of the globals, of the functions and of the event
handlers. -/
structure Emitted (env : Env) (script : Script Nat) (secs : Sections) : Prop where
  globals : globalInits env script = some secs.globals
  functions : ∃ codes, List.Forall₂ Routine.Emits (functionRoutines env script) codes ∧
    secs.functions = codes.flatten
  states : ∃ codes, List.Forall₂ Routine.Emits (eventRoutines env script) codes ∧
    secs.states = codes.flatten

variable {script : Script Nat}

lemma genSections_eq_some {secs : Sections} (h : genSections env script i = some (secs, j)) :
    Emitted env script secs := by
  induction script generalizing i secs with
  | nil =>
    obtain ⟨rfl, rfl⟩ := Prod.mk.inj (Option.some.inj h)
    exact ⟨rfl, ⟨[], .nil, rfl⟩, ⟨[], .nil, rfl⟩⟩
  | cons g gs ih =>
    obtain ⟨⟨c, k⟩, hg, h⟩ := Option.bind_eq_some_iff.mp h
    obtain ⟨⟨rest, k'⟩, hgs, h⟩ := Option.bind_eq_some_iff.mp h
    obtain ⟨rfl, rfl⟩ := Prod.mk.inj (Option.some.inj h)
    obtain ⟨hglobals, ⟨fs, hfs, hfs'⟩, ⟨es, hes, hes'⟩⟩ := ih hgs
    cases g with
    | varDecl n type name init slot =>
      obtain ⟨code, hcode, hc⟩ := Option.bind_eq_some_iff.mp hg
      obtain ⟨rfl, rfl⟩ := Prod.mk.inj (Option.some.inj hc)
      exact ⟨by simp [globalInits, hcode, hglobals], ⟨fs, hfs, hfs'⟩, ⟨es, hes, hes'⟩⟩
    | funcDef f =>
      obtain ⟨⟨code, k''⟩, hcode, hc⟩ := Option.bind_eq_some_iff.mp hg
      obtain ⟨rfl, rfl⟩ := Prod.mk.inj (Option.some.inj hc)
      refine ⟨hglobals, ⟨code :: fs, ?_, by simp [hfs']⟩, ⟨es, hes, hes'⟩⟩
      exact .cons (genFunction_eq_some hcode) hfs
    | stateDef s =>
      obtain ⟨⟨code, k''⟩, hcode, hc⟩ := Option.bind_eq_some_iff.mp hg
      obtain ⟨rfl, rfl⟩ := Prod.mk.inj (Option.some.inj hc)
      obtain ⟨es₁, hes₁, rfl⟩ := genEvents_eq_some hcode
      refine ⟨hglobals, ⟨fs, hfs, hfs'⟩, ⟨es₁ ++ es, ?_, by simp [hes']⟩⟩
      exact List.rel_append hes₁ hes

/-- The lines in front of the code: the number of globals, and the states. -/
def preamble (script : Script Nat) : Code :=
  .dataSize (globalSyms script).length :: (statesOf script).map fun s => .state s.name.text

/-- The assembly of a script. -/
theorem genScript_eq_some (h : genScript env script = some code) :
    ∃ globals codes, globalInits env script = some globals ∧
      List.Forall₂ Routine.Emits (routines env script) codes ∧
      code = preamble script ++ globals ++ [.op .halt] ++ codes.flatten := by
  obtain ⟨⟨secs, k⟩, hsecs, h⟩ := Option.bind_eq_some_iff.mp h
  obtain rfl := Option.some.inj h
  obtain ⟨hglobals, ⟨fs, hfs, hfs'⟩, ⟨es, hes, hes'⟩⟩ := genSections_eq_some hsecs
  refine ⟨secs.globals, fs ++ es, hglobals, List.rel_append hfs hes, ?_⟩
  simp [Sections.file, preamble, hfs', hes', Function.comp_def]

/-! ## Routines of accepted scripts -/

variable {r : Routine}

lemma mem_routines :
    r ∈ routines env script ↔ (∃ f ∈ functionsOf script, r = .ofFunction env f) ∨
      ∃ s ∈ statesOf script, ∃ e ∈ s.events, r = .ofEvent env s e := by
  simp [routines, functionRoutines, eventRoutines, eq_comm]

/-- What the definition pass establishes for the routines. -/
lemma ScriptNumbered.routine {b : Builtins} {script : Script Unit} {numbered : Script Nat}
    (h : ScriptNumbered b script numbered) (hr : r ∈ routines env numbered) :
    BodyNumbered r.params r.body r.varCount := by
  rcases mem_routines.mp hr with ⟨f, hf, rfl⟩ | ⟨s, hs, e, he, rfl⟩
  · exact h.functions f hf
  · exact (h.states s hs).bodies e he

/-- The scopes inside the body of a routine. -/
lemma Routine.env_of_mem (hr : r ∈ routines env script) :
    ∃ env' : Env, r.env = env'.enterBlock r.body ∧ env'.blocks = env.blocks ∧
      env'.params = paramSyms r.params ∧ env'.globals = env.globals ∧
      env'.methods = env.methods := by
  rcases mem_routines.mp hr with ⟨f, hf, rfl⟩ | ⟨s, hs, e, he, rfl⟩ <;>
    exact ⟨_, rfl, rfl, rfl, rfl, rfl⟩

end Halcyon.Joke
