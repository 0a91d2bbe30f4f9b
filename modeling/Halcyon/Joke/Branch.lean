import Halcyon.Joke.Syntax

/-!
# Branch analysis

`grammar/Analyze.g` builds for every function the tree of `Compiler/Branch.cs`: its `return`
statements, labels, loops and conditionals, and nothing else.  A block is no branch of its own;
its statements belong to the branch around it.  `allCodePathsReturn` then walks the statements of
a branch: once a statement returns on all paths the branch does, and a label takes that back,
because it can be reached by a jump.
-/

namespace Halcyon.Joke

/-- The statements of `Compiler/Branch.cs`. -/
inductive BranchStmt
  /-- `ReturnStatement`. -/
  | ret
  /-- `Label`. -/
  | label
  /-- `LoopStatement`. -/
  | loop (body : List BranchStmt)
  /-- `IfElseStatement`, with its `IfBranch` and `ElseBranch`. -/
  | ifElse (ifBranch elseBranch : List BranchStmt)

mutual

/-- The statements `Analyze` adds to the current branch. -/
def Stmt.branch {A : Type} : Stmt A → List BranchStmt
  | .ret _ _ => [.ret]
  | .label _ _ => [.label]
  | .whileLoop _ _ s | .doWhile _ _ s | .forLoop _ _ _ _ s => [.loop s.branch]
  | .ifElse _ _ s t => [.ifElse s.branch t.branch]
  | .block body => Stmt.branches body
  | _ => []

/-- The statements `Analyze` adds for the statements of a block. -/
def Stmt.branches {A : Type} : List (Stmt A) → List BranchStmt
  | [] => []
  | s :: ss => s.branch ++ Stmt.branches ss

end

mutual

/-- `Statement.AllCodePathsReturn`. -/
def BranchStmt.allCodePathsReturn : BranchStmt → Bool
  | .ret => true
  | .label => false
  | .loop _ => false
  | .ifElse ifBranch elseBranch =>
    branchReturns false ifBranch && branchReturns false elseBranch

/-- The loop of `Branch.AllCodePathsReturn`. -/
def branchReturns (codepathReturns : Bool) : List BranchStmt → Bool
  | [] => codepathReturns
  | .label :: rest => branchReturns false rest
  | curr :: rest => branchReturns (codepathReturns || curr.allCodePathsReturn) rest

end

/-- `FunctionBranch.AllCodePathsReturn`. -/
def FuncDef.allCodePathsReturn {A : Type} (f : FuncDef A) : Bool :=
  branchReturns false (Stmt.branches f.body)

/-- The check `CompilerFrontend.Compile` makes after the analysis: functions without a type are
not looked at. -/
def FuncDef.returnsChecked {A : Type} (f : FuncDef A) : Bool :=
  f.returnType.isNone || f.allCodePathsReturn

/-! ## The analysis on statements -/

lemma branchReturns_append (r : Bool) (bs bs' : List BranchStmt) :
    branchReturns r (bs ++ bs') = branchReturns (branchReturns r bs) bs' := by
  induction bs generalizing r with
  | nil => rfl
  | cons b bs ih => cases b <;> simp only [List.cons_append, branchReturns, ih]

/-- What the analysis knows after a statement, given what it knew before. -/
def Stmt.returns {A : Type} (r : Bool) (s : Stmt A) : Bool := branchReturns r s.branch

section

variable {A : Type} (r : Bool)

@[simp] lemma returns_ret (n : Node) (e : Option Root) :
    (Stmt.ret n e : Stmt A).returns r = true := by
  cases r <;> rfl

@[simp] lemma returns_label (name : Node) (id : A) : (Stmt.label name id).returns r = false := rfl

@[simp] lemma returns_ifElse (n : Node) (cond : Root) (s t : Stmt A) :
    (Stmt.ifElse n cond s t).returns r = (r || (s.returns false && t.returns false)) := rfl

@[simp] lemma returns_whileLoop (n : Node) (cond : Root) (s : Stmt A) :
    (Stmt.whileLoop n cond s).returns r = r := by
  cases r <;> rfl

@[simp] lemma returns_doWhile (n : Node) (cond : Root) (s : Stmt A) :
    (Stmt.doWhile n cond s).returns r = r := by
  cases r <;> rfl

@[simp] lemma returns_forLoop (n : Node) (init cond loop : Option Root) (s : Stmt A) :
    (Stmt.forLoop n init cond loop s).returns r = r := by
  cases r <;> rfl

lemma branches_cons (s : Stmt A) (ss : List (Stmt A)) :
    branchReturns r (Stmt.branches (s :: ss)) = branchReturns (s.returns r) (Stmt.branches ss) := by
  rw [Stmt.branches, branchReturns_append]
  rfl

end

end Halcyon.Joke
