import Halcyon.Lib.Diag
import Halcyon.Joke.Syntax

/-!
# Symbols, scopes and name resolution

The scopes of `Compiler/SymbolTable.cs` and its companions, as they stand once the definition
pass is through.  A use of a name inside a function or an event handler sees, from the inside
out, the blocks around it (`LocalScope`), the parameters (`MethodSymbol` or `EventSymbol`), the
events of the state (`StateSymbol`) and the globals (`GlobalScope`).  The tables of one scope
hold variables, functions, events, labels and states under names that cannot clash, so they are
kept apart here, one list for each kind.

`Env` is that chain of scopes.  A block's table already holds everything the block declares,
also what it declares after the use; `Env.ensureResolve` recovers from the token positions
whether a local variable may be used yet.
-/

namespace Halcyon.Joke

open Halcyon.Lib

/-- A variable, a parameter or a built-in constant (`VariableSymbol`, `ConstantSymbol`).
`constValue` tells constants apart; `scopeIndex` is `-1` for them.  `declRange` is the range of
tokens of the declaration a local variable comes from, initialiser included; parameters have
none. -/
structure VarSym where
  name : String
  type : VarType
  scopeIndex : Int
  isGlobal : Bool
  constValue : Option String
  defStart : Nat
  declRange : Option (Nat × Nat)
  deriving DecidableEq, Repr

/-- The symbol is a `ConstantSymbol`. -/
def VarSym.isConstant (v : VarSym) : Bool := v.constValue.isSome

/-- A function of the script or a system call (`MethodSymbol`), with its parameters. -/
structure MethodSym where
  rawName : String
  type : VarType
  params : List (String × VarType)
  isSyscall : Bool
  deriving DecidableEq, Repr

/-- `MethodSymbol.Name`. -/
def MethodSym.name (m : MethodSym) : String := m.rawName ++ "()"

/-- A label (`LabelSymbol`). -/
structure LabelSym where
  rawName : String
  id : Nat
  deriving DecidableEq, Repr

/-- `LabelSymbol.DecoratedName`. -/
def LabelSym.decoratedName (l : LabelSym) : String :=
  l.rawName ++ "_usrlbl__" ++ toString l.id

/-- The chain of scopes around a use.  `blocks` lists the tables of the enclosing blocks, the
innermost first; each has its variables and its labels.  `text` gives the source text between
two tokens, for error messages.  `formatFloat` is `Gen.FormatFloat`: it reads a float literal
and prints it in the form the assembler expects, or fails for a literal out of range. -/
structure Env where
  blocks : List (List VarSym × List LabelSym)
  params : List VarSym
  events : List String
  globals : List VarSym
  methods : List MethodSym
  states : List String
  returnType : VarType
  text : Nat → Nat → String
  formatFloat : String → Option String

namespace Env

/-- The environment inside a block. -/
def enter (env : Env) (vars : List VarSym) (labels : List LabelSym) : Env :=
  { env with blocks := (vars, labels) :: env.blocks }

/-- Names of the built-in types, which live in the global scope as well.  All but `void` are
keywords. -/
def typeNames : List String :=
  ["integer", "float", "vector", "rotation", "list", "key", "string", "void"]

/-- The symbols a variable name can resolve to. -/
inductive Resolved
  | var (v : VarSym)
  | type
  deriving DecidableEq, Repr

/-- `IScope.Resolve` in one table. -/
def lookup (name : String) (table : List VarSym) : Option VarSym :=
  table.find? fun v => v.name == name

/-- `Globals.Resolve`. -/
def resolveGlobal (env : Env) (name : String) : Option Resolved :=
  if typeNames.contains name then some .type
  else (lookup name env.globals).map .var

/-- The part of `IScope.Resolve` up to the function: blocks from the inside out, then the
parameters. -/
def resolveLocal (env : Env) (name : String) : Option VarSym :=
  (env.blocks.findSome? fun b => lookup name b.1).or (lookup name env.params)

/-- The use stands before the declared name, or inside the declaration: the variable must not
be used there. -/
def notYetUsable (v : VarSym) (n : Node) : Bool :=
  decide (n.tokenStartIndex < v.defStart) ||
    (match v.declRange with
    | some (start, stop) => decide (start ≤ n.tokenStartIndex ∧ n.tokenStartIndex ≤ stop)
    | none => false)

/-- The place of a node in an error message. -/
def location (n : Node) : String :=
  "line " ++ toString n.line ++ ":" ++ toString n.charPositionInLine

/-- `SymbolTable.EnsureResolve`.  The search for another symbol when the nearest one cannot be
used yet goes to the parameters and then straight to the globals. -/
def ensureResolve (env : Env) (n : Node) : Diag String (Option Resolved) :=
  match env.resolveLocal n.text with
  | some v =>
    if notYetUsable v n then
      match ((lookup n.text env.params).map Resolved.var).or (env.resolveGlobal n.text) with
      | some sym => .ok (some sym)
      | none => do
        .report (location n ++ " Symbol '" ++ n.text ++ "' can not be used before it is defined")
        .ok none
    else .ok (some (.var v))
  | none =>
    match env.resolveGlobal n.text with
    | some sym => .ok (some sym)
    | none => do
      .report (location n ++ " Undefined symbol '" ++ n.text ++ "'")
      .ok none

/-- The cast of a resolved symbol to a variable, as the type pass makes it. -/
def resolveVar (env : Env) (n : Node) : Diag String (Option VarSym) := do
  match ← env.ensureResolve n with
  | some (.var v) => .ok (some v)
  | some .type => .abort "Unable to cast object of type 'BuiltInTypeSymbol' to type 'VariableSymbol'."
  | none => .ok none

/-- The label a jump refers to (`IScope.Resolve` of the label's name). -/
def resolveLabel (env : Env) (name : String) : Option LabelSym :=
  env.blocks.findSome? fun b => b.2.find? fun l => l.rawName == name

/-- The function a call refers to.  The events of a state hide functions of their name. -/
def resolveMethod (env : Env) (name : String) : Option (Option MethodSym) :=
  if env.events.contains name then some none
  else (env.methods.find? fun m => m.rawName == name).map some

/-! ## What resolution yields -/

variable {name : String} {v : VarSym}

lemma lookup_mem {table : List VarSym} (h : lookup name table = some v) :
    v ∈ table ∧ v.name = name := by
  have hp := List.find?_some h
  exact ⟨List.mem_of_find?_eq_some h, by simpa using hp⟩

/-- Every variable an environment can resolve a name to. -/
def allVars (env : Env) : List VarSym :=
  env.blocks.flatMap Prod.fst ++ env.params ++ env.globals

variable {env : Env}

lemma mem_allVars :
    v ∈ env.allVars ↔ (∃ b ∈ env.blocks, v ∈ b.1) ∨ v ∈ env.params ∨ v ∈ env.globals := by
  simp [allVars]

lemma resolveLocal_mem (h : env.resolveLocal name = some v) :
    ((∃ b ∈ env.blocks, v ∈ b.1) ∨ v ∈ env.params) ∧ v.name = name := by
  rw [resolveLocal, Option.or_eq_some_iff] at h
  rcases h with h | ⟨-, h⟩
  · obtain ⟨b, hb, hv⟩ := List.exists_of_findSome?_eq_some h
    exact ⟨.inl ⟨b, hb, (lookup_mem hv).1⟩, (lookup_mem hv).2⟩
  · exact ⟨.inr (lookup_mem h).1, (lookup_mem h).2⟩

lemma resolveGlobal_mem (h : env.resolveGlobal name = some (.var v)) :
    v ∈ env.globals ∧ v.name = name := by
  unfold resolveGlobal at h
  split at h
  · simp at h
  · obtain ⟨w, hw, hv⟩ := Option.map_eq_some_iff.mp h
    obtain rfl : w = v := by simpa using hv
    exact lookup_mem hw

/-- A name resolves to a symbol of that name in one of the scopes. -/
lemma ensureResolve_mem {n : Node} (h : env.ensureResolve n = .ok (some (.var v))) :
    v ∈ env.allVars ∧ v.name = n.text := by
  rw [mem_allVars]
  unfold ensureResolve at h
  split at h
  · rename_i w hw
    split at h
    · split at h
      · rename_i sym hsym
        obtain rfl : sym = .var v := by simpa using h
        rcases Option.or_eq_some_iff.mp hsym with hp | ⟨-, hg⟩
        · obtain ⟨u, hu, huv⟩ := Option.map_eq_some_iff.mp hp
          obtain rfl : u = v := by simpa using huv
          exact ⟨.inr (.inl (lookup_mem hu).1), (lookup_mem hu).2⟩
        · obtain ⟨hm, hn⟩ := resolveGlobal_mem hg
          exact ⟨.inr (.inr hm), hn⟩
      · simp [Diag.bind_eq_ok] at h
    · obtain rfl : w = v := by simpa using h
      obtain ⟨hm, hn⟩ := resolveLocal_mem hw
      exact ⟨hm.elim .inl fun hp => .inr (.inl hp), hn⟩
  · split at h
    · rename_i sym hg
      obtain rfl : sym = .var v := by simpa using h
      obtain ⟨hm, hn⟩ := resolveGlobal_mem hg
      exact ⟨.inr (.inr hm), hn⟩
    · simp [Diag.bind_eq_ok] at h

lemma resolveVar_eq_ok {n : Node} :
    env.resolveVar n = .ok (some v) ↔ env.ensureResolve n = .ok (some (.var v)) := by
  unfold resolveVar
  rw [Diag.bind_eq_ok]
  constructor
  · rintro ⟨r, hr, h⟩
    rcases r with - | (w | -)
    · simp at h
    · obtain rfl : w = v := by simpa using h
      exact hr
    · simp at h
  · intro h
    exact ⟨_, h, rfl⟩

lemma resolveMethod_mem {m : MethodSym} (h : env.resolveMethod name = some (some m)) :
    m ∈ env.methods ∧ m.rawName = name := by
  unfold resolveMethod at h
  split at h
  · simp at h
  · obtain ⟨w, hw, hv⟩ := Option.map_eq_some_iff.mp h
    obtain rfl : w = m := by simpa using hv
    exact ⟨List.mem_of_find?_eq_some hw, by simpa using List.find?_some hw⟩

end Env

end Halcyon.Joke
