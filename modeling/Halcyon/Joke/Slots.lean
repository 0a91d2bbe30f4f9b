import Halcyon.Joke.Routine
import Halcyon.Lib.Outcome

/-!
# Slots

Two facts about the slots of variables.  The definition pass hands them out consecutively, so
the variables of a routine, whatever block they stand in, have distinct slots within the number
that its declaration announces, and so do the globals (`routine_slots`, `global_slots`).  And the
code generator puts into every instruction on a variable the slot of the variable that the source
names there: `Stmt.touched` are the variables that the code of a statement accesses, one after
the other, and `accesses_genStmt` says that the slots in the code are theirs.

Built-in constants stand in the global scope without a slot; their number there is `-1`.  A plain
use of one is a literal.  But one can be assigned, incremented or subscripted, and the code then
has an instruction on slot `-1`.
-/

namespace Halcyon.Joke

open Halcyon.Lib Env

/-! ## Instructions on variables -/

/-- The opcode loads, stores, increments or initialises a variable or a component of one. -/
def OpCode.onVariable (op : OpCode) : Bool :=
  (op.varAction (F := Unit) ⟨true, 0⟩).isSome || (op.subAction (F := Unit) ⟨true, 0⟩ 0).isSome

/-- The variable an instruction works on. -/
def Asm.varRef? : Asm → Option VarRef
  | .instr op (.num i :: _) => if op.onVariable then some ⟨op.isGlobal, i⟩ else none
  | _ => none

/-- The variables the instructions of some code work on, one after the other. -/
def accesses (code : Code) : List VarRef := code.filterMap Asm.varRef?

@[simp] lemma accesses_nil : accesses [] = [] := rfl

@[simp] lemma accesses_append (c d : Code) : accesses (c ++ d) = accesses c ++ accesses d :=
  List.filterMap_append

lemma accesses_cons_none {i : Asm} (h : i.varRef? = none) (c : Code) :
    accesses (i :: c) = accesses c := List.filterMap_cons_none h

@[simp] lemma accesses_op (op : OpCode) (c : Code) : accesses (.op op :: c) = accesses c :=
  accesses_cons_none rfl c

@[simp] lemma accesses_label (l : String) (c : Code) : accesses (.label l :: c) = accesses c :=
  accesses_cons_none rfl c

@[simp] lemma accesses_jumpTo (op : OpCode) (l : String) (c : Code) :
    accesses (jumpTo op l :: c) = accesses c := accesses_cons_none rfl c

@[simp] lemma accesses_doPromotion (t : Option VarType) (c : Code) :
    accesses (doPromotion t c) = accesses c := by
  unfold doPromotion
  split_ifs <;> simp

lemma accesses_callCode (m : MethodSym) (exprs : Code) (popresult : Bool) :
    accesses (callCode m exprs popresult) = accesses exprs := by
  simp only [callCode, accesses_append]
  cases popresult <;> simp [accesses, Asm.varRef?, Asm.op]

section Templates

variable (v : VarSym) (sub : Option Int) (k : Int)

@[simp] lemma accesses_loadVar (c : Code) :
    accesses (loadVar v.isGlobal v.scopeIndex sub :: c) = v.ref :: accesses c := by
  obtain ⟨_, _, _, g, _, _, _⟩ := v
  cases g <;> cases sub <;> rfl

@[simp] lemma accesses_storeVar (c : Code) :
    accesses (storeVar v.isGlobal v.scopeIndex sub :: c) = v.ref :: accesses c := by
  obtain ⟨_, _, _, g, _, _, _⟩ := v
  cases g <;> cases sub <;> rfl

@[simp] lemma accesses_incDecCode (op : IncDecOp) (isFloat : Bool) (c : Code) :
    accesses (incDecCode op isFloat v.isGlobal v.scopeIndex :: c) = v.ref :: accesses c := by
  obtain ⟨_, _, _, g, _, _, _⟩ := v
  cases g <;> cases op <;> cases isFloat <;> rfl

@[simp] lemma accesses_incDecSubCode (op : IncDecOp) (c : Code) :
    accesses (incDecSubCode op v.isGlobal v.scopeIndex k :: c) = v.ref :: accesses c := by
  obtain ⟨_, _, _, g, _, _, _⟩ := v
  cases g <;> cases op <;> rfl

end Templates

/-! ## The variables the source names -/

/-- The operands of a binary operator, in the order of its template; where there is no template,
no code is left of them. -/
def inOrder {α : Type} (t : Option BinTemplate) (l r : List α) : List α :=
  match t with
  | some t => if t.layout = .swapped then r ++ l else l ++ r
  | none => []

/-- The accesses of an assignment to `v`, around those of its right side. -/
def assignTouched (op : AssignOp) (v : VarSym) (sub : Option Node) (tr : Option VarType)
    (expr : List VarSym) (pushfinal : Bool) : List VarSym :=
  match op, tr with
  | .assign, _ => expr ++ [v] ++ if pushfinal then [v] else []
  | op, some tr =>
    if (TemplateMapping.compound op (targetType v sub) tr).isSome then
      [v] ++ expr ++ [v] ++ if pushfinal then [v] else []
    else []
  | _, none => []

/-- The variable an identifier stands for. -/
def Env.named (env : Env) (n : Node) : List VarSym := (env.symbol n).toList

/-- The variable an expression stands for that is an identifier, possibly with a subscript. -/
def Env.target (env : Env) (e : Expr) : List VarSym :=
  (assignTarget e).toList.flatMap fun (n, _) => env.named n

mutual

/-- The variables that the code of an expression accesses, in the order of the accesses.  A plain
use of a constant is not an access. -/
def Expr.touched (env : Env) : Expr → List VarSym
  | .intLit _ | .floatLit _ | .stringLit _ => []
  | .id n => (env.named n).filter fun v => !v.isConstant
  | .vecLit _ x y z => x.touched env ++ y.touched env ++ z.touched env
  | .rotLit _ x y z w => x.touched env ++ y.touched env ++ z.touched env ++ w.touched env
  | .listLit _ es => Expr.allTouched env es
  | .typeCast _ _ _ e | .unary _ _ e | .paren _ e => e.touched env
  | .binary _ op l r =>
    inOrder ((evalType env l).bind fun tl => (evalType env r).bind (TemplateMapping.binary op tl))
      (l.touched env) (r.touched env)
  | .assign _ op l r => (assignTarget l).toList.flatMap fun (n, sub) =>
    (env.named n).flatMap fun v =>
      assignTouched op v sub (evalType env r) (r.touched env) true
  | .incDec _ _ e => env.target e
  | .subscript n e sub => env.target (.subscript n e sub)
  | .call _ _ args => Expr.allTouched env args

/-- The variables that the code of a list of expressions accesses. -/
def Expr.allTouched (env : Env) : List Expr → List VarSym
  | [] => []
  | e :: es => e.touched env ++ Expr.allTouched env es

end

/-! ## Accesses of expressions -/

variable {v : VarSym}

lemma accesses_loadSymbol {code : Code} (h : loadSymbol v = some code) :
    accesses code = ([v].filter fun v => !v.isConstant).map VarSym.ref := by
  unfold loadSymbol at h
  split at h
  · rename_i hconst
    obtain rfl := Option.some.inj h
    simp [VarSym.isConstant, hconst]
  · rename_i value hconst
    have hv : v.isConstant = true := by simp [VarSym.isConstant, hconst]
    rw [List.filter_cons_of_neg (by simp [hv])]
    split at h <;> cases h <;> rfl

lemma accesses_expandBin (t : Option BinTemplate) (c d : Code) :
    accesses (expandBin t c d) = inOrder t (accesses c) (accesses d) := by
  cases t with
  | none => rfl
  | some t =>
    simp only [expandBin, BinTemplate.expand, inOrder]
    split <;> rename_i hl <;> simp [hl]

lemma map_inOrder {α β : Type} (f : α → β) (t : Option BinTemplate) (l r : List α) :
    (inOrder t l r).map f = inOrder t (l.map f) (r.map f) := by
  unfold inOrder
  split
  · split_ifs <;> simp
  · rfl

variable {env : Env} {op : AssignOp} {n : Node} {sub : Option Node} {tr : Option VarType}
  {pushfinal : Bool}

/-- The accesses of an assignment. -/
lemma accesses_genAssign {expr code : Code} {vs : List VarSym}
    (h : genAssign env op n sub tr expr pushfinal = some code)
    (hexpr : accesses expr = vs.map VarSym.ref) :
    accesses code =
      ((env.named n).flatMap fun v => assignTouched op v sub tr vs pushfinal).map VarSym.ref := by
  obtain ⟨v, hv, h⟩ := Option.bind_eq_some_iff.mp h
  obtain ⟨subindex, -, h⟩ := Option.bind_eq_some_iff.mp h
  rw [Env.named, hv, Option.toList_some, List.flatMap_singleton]
  split_ifs at h with hsub
  cases op with
  | assign =>
    obtain rfl := Option.some.inj h
    cases pushfinal <;> simp [assignCode, assignTouched, hexpr]
  | _ =>
    obtain ⟨tr, rfl, h⟩ := Option.bind_eq_some_iff.mp h
    obtain rfl := Option.some.inj h
    simp only [assignTouched]
    cases ht : TemplateMapping.compound _ (targetType v sub) tr with
    | none => rfl
    | some t =>
      cases hcast : t.cast <;> cases pushfinal <;> simp [expandAssign, xxxa, hexpr, hcast]

variable {e : Expr}

lemma touched_of_floatText {text : String} (h : floatText e = some text) :
    e.touched env = [] := by
  cases e <;> cases h
  rw [Expr.touched]

lemma accesses_genIncDec {op : IncDecOp} {code : Code} (h : genIncDec env op e = some code) :
    accesses code = (env.target e).map VarSym.ref := by
  unfold genIncDec at h
  split at h
  · obtain ⟨v, hv, h⟩ := Option.bind_eq_some_iff.mp h
    rw [Env.target, assignTarget]
    split at h <;> cases h <;> simp [Env.named, hv]
  · obtain ⟨v, hv, h⟩ := Option.bind_eq_some_iff.mp h
    obtain ⟨k, -, h⟩ := Option.bind_eq_some_iff.mp h
    obtain rfl := Option.some.inj h
    simp [Env.target, assignTarget, Env.named, hv]
  · cases h

lemma accesses_genSubscript {sub : Node} {code : Code} (h : genSubscript env e sub = some code) :
    accesses code = (env.target (.subscript n e sub)).map VarSym.ref := by
  unfold genSubscript at h
  split at h
  · obtain ⟨v, hv, h⟩ := Option.bind_eq_some_iff.mp h
    obtain ⟨k, -, h⟩ := Option.bind_eq_some_iff.mp h
    obtain rfl := Option.some.inj h
    simp [Env.target, assignTarget, Env.named, hv]
  · cases h

lemma accesses_genArgs {es : List Expr}
    (ih : ∀ e ∈ es, ∀ code, genExpr env e = some code →
      accesses code = (e.touched env).map VarSym.ref) :
    ∀ {params : List VarType} {code : Code}, genArgs env params es = some code →
      accesses code = (Expr.allTouched env es).map VarSym.ref := by
  induction es with
  | nil =>
    intro params code h
    rw [genArgs] at h
    obtain rfl := Option.some.inj h
    rw [Expr.allTouched]
    rfl
  | cons e es ihs =>
    intro params code h
    simp only [genArgs, Option.bind_eq_bind, Option.bind_eq_some_iff, Option.some.injEq] at h
    obtain ⟨c, hc, cs, hcs, rfl⟩ := h
    rw [Expr.allTouched, accesses_append, accesses_doPromotion, List.map_append,
      ih e List.mem_cons_self c hc, ihs (fun e he => ih e (List.mem_cons_of_mem _ he)) hcs]

/-- The instructions of an expression are on the variables the source names. -/
lemma accesses_genExpr : ∀ code, genExpr env e = some code →
    accesses code = (e.touched env).map VarSym.ref := by
  induction e using Expr.ind with
  | intLit n | stringLit n =>
    intro code h
    rw [genExpr] at h
    obtain rfl := Option.some.inj h
    rw [Expr.touched]
    rfl
  | floatLit n =>
    intro code h
    rw [genExpr] at h
    obtain ⟨text, -, rfl⟩ := Option.map_eq_some_iff.mp h
    rw [Expr.touched]
    rfl
  | id n =>
    intro code h
    rw [genExpr] at h
    obtain ⟨v, hv, h⟩ := Option.bind_eq_some_iff.mp h
    rw [Expr.touched, Env.named, hv]
    exact accesses_loadSymbol h
  | vecLit n x y z ihx ihy ihz =>
    intro code h
    rw [genExpr] at h
    rw [Expr.touched]
    split at h
    · rename_i texts ht
      simp only [constComponents, List.mapM_cons, List.mapM_nil, Option.bind_eq_bind,
        Option.bind_eq_some_iff] at ht
      obtain ⟨_, hx, _, ⟨_, hy, _, ⟨_, hz, -⟩, -⟩, -⟩ := ht
      obtain ⟨cs, -, rfl⟩ := Option.map_eq_some_iff.mp h
      rw [touched_of_floatText hx, touched_of_floatText hy, touched_of_floatText hz]
      rfl
    · simp only [Option.bind_eq_bind, Option.bind_eq_some_iff, Option.some.injEq] at h
      obtain ⟨cx, hx, cy, hy, cz, hz, rfl⟩ := h
      simp [ihx _ hx, ihy _ hy, ihz _ hz]
  | rotLit n x y z w ihx ihy ihz ihw =>
    intro code h
    rw [genExpr] at h
    rw [Expr.touched]
    split at h
    · rename_i texts ht
      simp only [constComponents, List.mapM_cons, List.mapM_nil, Option.bind_eq_bind,
        Option.bind_eq_some_iff] at ht
      obtain ⟨_, hx, _, ⟨_, hy, _, ⟨_, hz, _, ⟨_, hw, -⟩, -⟩, -⟩, -⟩ := ht
      obtain ⟨cs, -, rfl⟩ := Option.map_eq_some_iff.mp h
      rw [touched_of_floatText hx, touched_of_floatText hy, touched_of_floatText hz,
        touched_of_floatText hw]
      rfl
    · simp only [Option.bind_eq_bind, Option.bind_eq_some_iff, Option.some.injEq] at h
      obtain ⟨cx, hx, cy, hy, cz, hz, cw, hw, rfl⟩ := h
      simp [ihx _ hx, ihy _ hy, ihz _ hz, ihw _ hw]
  | listLit n es ih =>
    intro code h
    simp only [genExpr, Option.bind_eq_bind, Option.bind_eq_some_iff, Option.some.injEq] at h
    obtain ⟨cs, hes, rfl⟩ := h
    rw [Expr.touched, accesses_append, accesses_genArgs ih hes,
      accesses_cons_none rfl, accesses_nil, List.append_nil]
  | typeCast n t tn e ih =>
    intro code h
    simp only [genExpr, Option.bind_eq_bind, Option.bind_eq_some_iff, atLevel_eq_some,
      Option.some.injEq] at h
    obtain ⟨c, ⟨-, he⟩, op, -, rfl⟩ := h
    simp [Expr.touched, ih c he]
  | binary n op l r ihl ihr =>
    intro code h
    simp only [genExpr, Option.bind_eq_bind, Option.bind_eq_some_iff, atLevel_eq_some,
      Option.some.injEq] at h
    obtain ⟨cl, ⟨-, hl⟩, cr, ⟨-, hr⟩, tl, htl, tr, htr, rfl⟩ := h
    rw [Expr.touched, accesses_expandBin, map_inOrder, htl, htr]
    split_ifs <;> simp [ihl cl hl, ihr cr hr]
  | assign n op l r _ ih =>
    intro code h
    simp only [genExpr, Option.bind_eq_bind, Option.bind_eq_some_iff] at h
    obtain ⟨⟨m, sub⟩, hl, expr, hr, hgen⟩ := h
    rw [Expr.touched, hl, Option.toList_some, List.flatMap_singleton]
    exact accesses_genAssign hgen (ih expr hr)
  | unary n op e ih =>
    intro code h
    rw [genExpr] at h
    rw [Expr.touched]
    split at h
    · rename_i hneg
      unfold negativeLiteral at hneg
      split at hneg
      · cases hneg
        cases h
        rw [Expr.touched]
        rfl
      · cases hneg
        obtain ⟨text, -, rfl⟩ := Option.map_eq_some_iff.mp h
        rw [Expr.touched]
        rfl
      · cases hneg
    · simp only [Option.bind_eq_bind, Option.bind_eq_some_iff, atLevel_eq_some,
        Option.some.injEq] at h
      obtain ⟨c, ⟨-, he⟩, op, -, rfl⟩ := h
      simp [ih c he]
  | incDec n op e =>
    intro code h
    rw [genExpr] at h
    rw [Expr.touched]
    exact accesses_genIncDec h
  | subscript n e sub =>
    intro code h
    rw [genExpr] at h
    rw [Expr.touched]
    exact accesses_genSubscript h
  | call n callee args _ ih =>
    intro code h
    cases callee <;> simp only [genExpr, reduceCtorEq] at h
    simp only [Option.bind_eq_bind, Option.bind_eq_some_iff] at h
    obtain ⟨m, -, cs, hargs, h⟩ := h
    split_ifs at h with hvoid
    obtain rfl := Option.some.inj h
    rw [Expr.touched, accesses_callCode, accesses_genArgs ih hargs]
  | paren n e ih =>
    intro code h
    rw [genExpr] at h
    rw [Expr.touched]
    exact ih _ h

/-! ## Accesses of statements -/

/-- The variables that the code of an expression accesses which a statement may lack. -/
def rootTouched (env : Env) : Option Root → List VarSym
  | none => []
  | some r => r.expr.touched env

mutual

/-- The variables that the code of a statement accesses, in the order of the accesses. -/
def Stmt.touched (env : Env) : Stmt Nat → List VarSym
  | .semi | .stateChg .. | .label .. | .jump .. => []
  | .assign _ op lhs rhs => (env.named lhs).flatMap fun v =>
    assignTouched op v none (evalType env rhs.expr) (rhs.expr.touched env) false
  | .subAssign _ op lhs sub rhs => (env.named lhs).flatMap fun v =>
    assignTouched op v (some sub) (evalType env rhs.expr) (rhs.expr.touched env) false
  | .ifElse _ cond s t => cond.expr.touched env ++ s.touched env ++ t.touched env
  | .whileLoop _ cond s => cond.expr.touched env ++ s.touched env
  | .doWhile _ cond s => s.touched env ++ cond.expr.touched env
  | .forLoop _ init cond loop s =>
    rootTouched env init ++ rootTouched env cond ++ s.touched env ++ rootTouched env loop
  | .varDecl n type name init slot =>
    rootTouched env init ++ (Stmt.varDecl n type name init slot).decls
  | .exprStmt e => e.expr.touched env
  | .ret _ e => rootTouched env e
  | .block body => Stmt.allTouched (env.enterBlock body) body

/-- The variables that the code of the statements of a block accesses. -/
def Stmt.allTouched (env : Env) : List (Stmt Nat) → List VarSym
  | [] => []
  | s :: ss => s.touched env ++ Stmt.allTouched env ss

end

lemma accesses_genRoot {r : Root} {dest : Option VarType} {code : Code}
    (h : genRoot env r dest = some code) :
    accesses code = (r.expr.touched env).map VarSym.ref := by
  obtain ⟨c, hc, rfl⟩ := Option.map_eq_some_iff.mp h
  rw [accesses_doPromotion, accesses_genExpr c hc]

lemma accesses_genUnused {r : Option Root} {code : Code} (h : genUnused env r = some code) :
    accesses code = (rootTouched env r).map VarSym.ref := by
  cases r with
  | none =>
    obtain rfl := Option.some.inj h
    rfl
  | some r =>
    obtain ⟨c, hc, rfl⟩ := Option.map_eq_some_iff.mp h
    simp [rootTouched, accesses_genRoot hc]

lemma accesses_genCond {r : Root} {code : Code} (h : genCond env r = some code) :
    accesses code = (r.expr.touched env).map VarSym.ref := by
  obtain ⟨c, hc, rfl⟩ := Option.map_eq_some_iff.mp h
  split_ifs <;> simp [accesses_genRoot hc]

lemma accesses_genExprStmt {code : Code} (h : genExprStmt env e = some code) :
    accesses code = (e.touched env).map VarSym.ref := by
  unfold genExprStmt at h
  split at h
  · simp only [Option.bind_eq_bind, Option.bind_eq_some_iff, Option.some.injEq] at h
    obtain ⟨m, -, cs, hargs, rfl⟩ := h
    rw [Expr.touched, ← accesses_genArgs (fun e _ => accesses_genExpr) hargs]
    exact accesses_callCode m cs _
  · obtain ⟨c, hc, rfl⟩ := Option.map_eq_some_iff.mp h
    rw [Expr.touched]
    simp [accesses_genIncDec hc]
  · cases h

/-- The declaration of the variable `v`. -/
lemma accesses_genVarDecl {type : VarType} {init : Option Root} {slot : Nat} {code : Code}
    (h : genVarDecl env v.isGlobal type init slot = some code) (hslot : v.scopeIndex = slot) :
    accesses code = (rootTouched env init ++ [v]).map VarSym.ref := by
  cases init with
  | some r =>
    obtain ⟨c, hc, rfl⟩ := Option.map_eq_some_iff.mp h
    simp [rootTouched, accesses_genRoot hc, ← hslot]
  | none =>
    obtain ⟨⟨loc, glob⟩, hops, rfl⟩ := Option.map_eq_some_iff.mp h
    obtain ⟨_, _, i, g, _, _, _⟩ := v
    obtain rfl : i = slot := hslot
    cases type <;> cases hops <;> cases g <;> rfl

mutual

/-- The instructions of a statement are on the variables the source names. -/
theorem accesses_genStmt {env : Env} : ∀ (s : Stmt Nat) {i j : Nat} {code : Code},
    genStmt env s i = some (code, j) → accesses code = (s.touched env).map VarSym.ref
  | .semi, i, j, code, h | .stateChg .., i, j, code, h | .label .., i, j, code, h
  | .ret _ none, i, j, code, h => by
    rw [genStmt] at h
    cases h
    rw [Stmt.touched]
    rfl
  | .assign _ op lhs rhs, i, j, code, h | .subAssign _ op lhs sub rhs, i, j, code, h => by
    simp only [genStmt, Option.bind_eq_bind, Option.bind_eq_some_iff, Option.some.injEq,
      Prod.mk.injEq] at h
    obtain ⟨expr, hexpr, c, hc, rfl, -⟩ := h
    rw [Stmt.touched]
    exact accesses_genAssign hc (accesses_genExpr expr hexpr)
  | .ifElse _ cond s t, i, j, code, h => by
    simp only [genStmt, Option.bind_eq_bind, Option.bind_eq_some_iff, Option.some.injEq,
      Prod.mk.injEq, Prod.exists] at h
    obtain ⟨c, hc, cs, k, hs, ct, k', ht, rfl, -⟩ := h
    simp [Stmt.touched, ifElseCode, accesses_genCond hc, accesses_genStmt s hs,
      accesses_genStmt t ht]
  | .whileLoop _ cond s, i, j, code, h => by
    simp only [genStmt, Option.bind_eq_bind, Option.bind_eq_some_iff, Option.some.injEq,
      Prod.mk.injEq, Prod.exists] at h
    obtain ⟨c, hc, cs, k, hs, rfl, -⟩ := h
    simp [Stmt.touched, whileCode, accesses_genCond hc, accesses_genStmt s hs]
  | .doWhile _ cond s, i, j, code, h => by
    simp only [genStmt, Option.bind_eq_bind, Option.bind_eq_some_iff, Option.some.injEq,
      Prod.mk.injEq, Prod.exists] at h
    obtain ⟨c, hc, cs, k, hs, rfl, -⟩ := h
    simp [Stmt.touched, doWhileCode, accesses_genCond hc, accesses_genStmt s hs]
  | .forLoop _ init cond loop s, i, j, code, h => by
    simp only [genStmt, Option.bind_eq_bind, Option.bind_eq_some_iff, Option.some.injEq,
      Prod.mk.injEq, Prod.exists] at h
    obtain ⟨cs, k, hs, ci, hi, cc, hc, cl, hl, rfl, -⟩ := h
    cases cond with
    | none =>
      obtain rfl := Option.some.inj hc
      simp [Stmt.touched, rootTouched, forCode, accesses_genUnused hi, accesses_genUnused hl,
        accesses_genStmt s hs]
    | some cond =>
      obtain ⟨c, hcond, rfl⟩ := Option.map_eq_some_iff.mp hc
      simp [Stmt.touched, rootTouched, forCode, accesses_genUnused hi, accesses_genUnused hl,
        accesses_genCond hcond, accesses_genStmt s hs]
  | .varDecl n type name init slot, i, j, code, h => by
    simp only [genStmt, Option.bind_eq_bind, Option.bind_eq_some_iff, Option.some.injEq,
      Prod.mk.injEq] at h
    obtain ⟨c, hc, rfl, -⟩ := h
    rw [Stmt.touched, Stmt.decls]
    exact accesses_genVarDecl hc rfl
  | .exprStmt e, i, j, code, h => by
    simp only [genStmt, Option.bind_eq_bind, Option.bind_eq_some_iff, Option.some.injEq,
      Prod.mk.injEq] at h
    obtain ⟨c, hc, rfl, -⟩ := h
    rw [Stmt.touched]
    exact accesses_genExprStmt hc
  | .ret _ (some e), i, j, code, h => by
    simp only [genStmt, Option.bind_eq_bind, Option.bind_eq_some_iff, Option.some.injEq,
      Prod.mk.injEq] at h
    obtain ⟨c, hc, rfl, -⟩ := h
    simp [Stmt.touched, rootTouched, accesses_genRoot hc]
  | .jump n name, i, j, code, h => by
    simp only [genStmt, Option.bind_eq_bind, Option.bind_eq_some_iff, Option.some.injEq,
      Prod.mk.injEq] at h
    obtain ⟨label, -, rfl, -⟩ := h
    simp [Stmt.touched]
  | .block body, i, j, code, h => by
    rw [genStmt] at h
    rw [Stmt.touched]
    exact accesses_genStmts body h

theorem accesses_genStmts {env : Env} : ∀ (ss : List (Stmt Nat)) {i j : Nat} {code : Code},
    genStmts env ss i = some (code, j) → accesses code = (Stmt.allTouched env ss).map VarSym.ref
  | [], i, j, code, h => by
    rw [genStmts] at h
    cases h
    rw [Stmt.allTouched]
    rfl
  | s :: ss, i, j, code, h => by
    simp only [genStmts, Option.bind_eq_bind, Option.bind_eq_some_iff, Option.some.injEq,
      Prod.mk.injEq, Prod.exists] at h
    obtain ⟨c, k, hs, rest, k', hss, rfl, -⟩ := h
    simp [Stmt.allTouched, accesses_genStmt s hs, accesses_genStmts ss hss]

end

/-! ## The variables of a routine -/

/-- The variable a statement declares. -/
def Stmt.varSym? : Stmt Nat → Option VarSym
  | .varDecl n type name _ slot =>
    some ⟨name.text, type, slot, false, none, name.tokenStartIndex,
      some (n.tokenStartIndex, n.tokenStopIndex)⟩
  | _ => none

/-- The variables declared in some statements and the statements inside them. -/
def declared (ss : List (Stmt Nat)) : List VarSym := (Stmt.allSubs ss).filterMap Stmt.varSym?

lemma declared_cons (s : Stmt Nat) (ss : List (Stmt Nat)) :
    declared (s :: ss) = declared [s] ++ declared ss := by
  simp [declared, Stmt.allSubs]

lemma declared_ifElse (n : Node) (cond : Root) (s t : Stmt Nat) :
    declared [.ifElse n cond s t] = declared [s] ++ declared [t] := by
  simp only [declared, Stmt.allSubs, List.append_nil, ← List.filterMap_append]
  exact List.filterMap_cons_none rfl

lemma declared_block (body : List (Stmt Nat)) : declared [.block body] = declared body := by
  simp only [declared, Stmt.allSubs, List.append_nil]
  exact List.filterMap_cons_none rfl

/-- The variables of a scope are declared in its statements. -/
lemma Stmt.decls_subset : ∀ s : Stmt Nat, s.decls ⊆ declared [s]
  | .varDecl n type name init slot => fun v hv => hv
  | .ifElse n cond s t => by
    rw [declared_ifElse]
    exact List.append_subset.mpr
      ⟨List.Subset.trans (Stmt.decls_subset s) (List.subset_append_left _ _),
        List.Subset.trans (Stmt.decls_subset t) (List.subset_append_right _ _)⟩
  | .whileLoop _ _ s | .doWhile _ _ s | .forLoop _ _ _ _ s => Stmt.decls_subset s
  | .semi | .assign .. | .subAssign .. | .exprStmt _ | .ret .. | .stateChg .. | .label ..
  | .jump .. | .block _ => List.nil_subset _

lemma decls_subset_declared (ss : List (Stmt Nat)) : ss.flatMap Stmt.decls ⊆ declared ss := by
  induction ss with
  | nil => exact List.nil_subset _
  | cons s ss ih =>
    rw [List.flatMap_cons, declared_cons]
    exact List.append_subset.mpr
      ⟨List.Subset.trans (Stmt.decls_subset s) (List.subset_append_left _ _),
        List.Subset.trans ih (List.subset_append_right _ _)⟩

/-- The parameters and the variables of a routine, those of all its blocks together. -/
def Routine.vars (r : Routine) : List VarSym := paramSyms r.params ++ declared r.body

/-- The variables that the code of a routine accesses. -/
def Routine.touched (r : Routine) : List VarSym := Stmt.allTouched r.env r.body

lemma scopeIndex_paramSyms (params : List Param) :
    (paramSyms params).map VarSym.scopeIndex = (List.range params.length).map Int.ofNat := by
  rw [paramSyms, List.map_map]
  apply List.ext_getElem <;> simp

lemma scopeIndex_declared (ss : List (Stmt Nat)) :
    (declared ss).map VarSym.scopeIndex = (slotsOf (Stmt.allSubs ss)).map Int.ofNat := by
  rw [declared, slotsOf, List.map_filterMap, List.map_filterMap]
  congr 1
  funext s
  cases s <;> rfl

variable {r : Routine}

/-- The variables of a routine have the slots from `0` on. -/
lemma BodyNumbered.scopeIndex (h : BodyNumbered r.params r.body r.varCount) :
    r.vars.map VarSym.scopeIndex = (List.range r.varCount).map Int.ofNat := by
  have hparams : Consecutive 0 (List.range r.params.length) r.params.length :=
    ⟨Nat.zero_le _, by rw [List.range_eq_range', Nat.sub_zero]⟩
  rw [Routine.vars, List.map_append, scopeIndex_paramSyms, scopeIndex_declared,
    ← List.map_append, (hparams.append h.slots).2, Nat.sub_zero, List.range_eq_range']

/-- The number of slots a declaration announces: arguments and locals. -/
def Asm.slots : Asm → Nat
  | .function _ nargs nlocals | .event _ _ nargs nlocals => nargs + nlocals
  | _ => 0

lemma slots_header {script : Script Nat} (hr : r ∈ routines env script)
    (h : BodyNumbered r.params r.body r.varCount) :
    r.header.slots = r.varCount := by
  have hle := h.slots.1
  rcases mem_routines.mp hr with ⟨f, -, rfl⟩ | ⟨s, -, e, -, rfl⟩ <;>
    exact Nat.add_sub_of_le hle

lemma isGlobal_vars (hv : v ∈ r.vars) :
    v.isGlobal = false ∧ v.isConstant = false := by
  rcases List.mem_append.mp hv with hv | hv
  · obtain ⟨p, -, rfl⟩ := List.mem_map.mp hv
    exact ⟨rfl, rfl⟩
  · obtain ⟨s, -, hs⟩ := List.mem_filterMap.mp hv
    cases s <;> cases hs
    exact ⟨rfl, rfl⟩

lemma nodup_map_ref {vs : List VarSym} (h : (vs.map VarSym.scopeIndex).Nodup) :
    (vs.map VarSym.ref).Nodup := by
  refine List.Nodup.of_map VarRef.index ?_
  rwa [List.map_map]

/-- The slots of the variables of a routine are distinct, and within what is announced. -/
lemma BodyNumbered.routine_slots (h : BodyNumbered r.params r.body r.varCount) :
    (r.vars.map VarSym.ref).Nodup ∧
      ∀ v ∈ r.vars, 0 ≤ v.scopeIndex ∧ v.scopeIndex < r.varCount := by
  constructor
  · have hnodup : (r.vars.map VarSym.scopeIndex).Nodup := by
      rw [h.scopeIndex]
      exact List.nodup_range.map fun _ _ => Int.ofNat.inj
    exact nodup_map_ref hnodup
  · intro v hv
    have hmem := List.mem_map_of_mem (f := VarSym.scopeIndex) hv
    rw [h.scopeIndex] at hmem
    obtain ⟨i, hi, heq⟩ := List.mem_map.mp hmem
    have := List.mem_range.mp hi
    rw [← heq, Int.ofNat_eq_natCast]
    omega

lemma isGlobal_globalSyms {script : Script Nat} (hv : v ∈ globalSyms script) :
    v.isGlobal = true ∧ v.isConstant = false := by
  obtain ⟨g, -, hg⟩ := List.mem_filterMap.mp hv
  cases g <;> cases hg
  exact ⟨rfl, rfl⟩

/-- The slots of the globals are distinct, and within their number. -/
lemma ScriptNumbered.global_slots {b : Builtins} {script : Script Unit} {numbered : Script Nat}
    (h : ScriptNumbered b script numbered) : ((globalSyms numbered).map VarSym.ref).Nodup ∧
      ∀ v ∈ globalSyms numbered,
        0 ≤ v.scopeIndex ∧ v.scopeIndex < (globalSyms numbered).length := by
  have hindex := map_scopeIndex_globalSyms numbered
  constructor
  · have hnodup : ((globalSyms numbered).map VarSym.scopeIndex).Nodup := by
      rw [hindex]
      exact h.slots.nodup.map fun _ _ => Int.ofNat.inj
    exact nodup_map_ref hnodup
  · intro v hv
    have hmem := List.mem_map_of_mem (f := VarSym.scopeIndex) hv
    rw [hindex] at hmem
    obtain ⟨i, hi, heq⟩ := List.mem_map.mp hmem
    have := h.slots.mem.mp hi
    omega

/-! ## Touched variables are in scope -/

lemma named_subset (env : Env) (n : Node) : env.named n ⊆ env.allVars := by
  intro v hv
  rw [Env.named, Option.mem_toList] at hv
  exact (ensureResolve_mem (symbol_eq_some hv)).1

lemma target_subset (env : Env) (e : Expr) : env.target e ⊆ env.allVars := by
  intro v hv
  obtain ⟨⟨n, sub⟩, -, hv⟩ := List.mem_flatMap.mp hv
  exact named_subset env n hv

lemma inOrder_subset {α : Type} (t : Option BinTemplate) (l r : List α) :
    inOrder t l r ⊆ l ++ r := by
  unfold inOrder
  split
  · split_ifs
    · exact List.append_subset.mpr ⟨List.subset_append_right _ _, List.subset_append_left _ _⟩
    · exact List.Subset.refl _
  · exact List.nil_subset _

lemma assignTouched_subset {expr : List VarSym} :
    assignTouched op v sub tr expr pushfinal ⊆ v :: expr := by
  intro w hw
  unfold assignTouched at hw
  split at hw
  · cases pushfinal <;> simp at hw ⊢ <;> tauto
  · split_ifs at hw <;> simp at hw ⊢ <;> tauto
  · exact absurd hw List.not_mem_nil

lemma Expr.allTouched_subset {es : List Expr} (ih : ∀ e ∈ es, e.touched env ⊆ env.allVars) :
    Expr.allTouched env es ⊆ env.allVars := by
  induction es with
  | nil =>
    rw [Expr.allTouched]
    exact List.nil_subset _
  | cons e es ihs =>
    rw [Expr.allTouched]
    exact List.append_subset.mpr ⟨ih e List.mem_cons_self,
      ihs fun e he => ih e (List.mem_cons_of_mem _ he)⟩

/-- The variables of an assignment are in scope if those of its right side are. -/
lemma flatMap_assignTouched_subset {expr : List VarSym} (h : expr ⊆ env.allVars) :
    ((env.named n).flatMap fun v => assignTouched op v sub tr expr pushfinal) ⊆ env.allVars := by
  intro w hw
  obtain ⟨v, hv, hw⟩ := List.mem_flatMap.mp hw
  rcases List.mem_cons.mp (assignTouched_subset hw) with rfl | hw
  · exact named_subset env n hv
  · exact h hw

lemma Expr.touched_subset (env : Env) (e : Expr) : e.touched env ⊆ env.allVars := by
  induction e using Expr.ind with
  | intLit | floatLit | stringLit =>
    rw [Expr.touched]
    exact List.nil_subset _
  | id n =>
    rw [Expr.touched]
    exact List.Subset.trans (List.filter_subset_self _) (named_subset env n)
  | vecLit n x y z ihx ihy ihz =>
    rw [Expr.touched]
    simp only [List.append_subset]
    exact ⟨⟨ihx, ihy⟩, ihz⟩
  | rotLit n x y z w ihx ihy ihz ihw =>
    rw [Expr.touched]
    simp only [List.append_subset]
    exact ⟨⟨⟨ihx, ihy⟩, ihz⟩, ihw⟩
  | listLit n es ih | call n callee es _ ih =>
    rw [Expr.touched]
    exact Expr.allTouched_subset ih
  | typeCast n t tn e ih | unary n op e ih | paren n e ih =>
    rw [Expr.touched]
    exact ih
  | binary n op l r ihl ihr =>
    rw [Expr.touched]
    exact List.Subset.trans (inOrder_subset _ _ _) (List.append_subset.mpr ⟨ihl, ihr⟩)
  | assign n op l r _ ih =>
    rw [Expr.touched]
    intro w hw
    obtain ⟨⟨m, sub⟩, -, hw⟩ := List.mem_flatMap.mp hw
    exact flatMap_assignTouched_subset ih hw
  | incDec n op e =>
    rw [Expr.touched]
    exact target_subset env e
  | subscript n e sub =>
    rw [Expr.touched]
    exact target_subset env _

lemma rootTouched_subset (env : Env) (r : Option Root) : rootTouched env r ⊆ env.allVars := by
  cases r with
  | none => exact List.nil_subset _
  | some r => exact Expr.touched_subset env r.expr

/-- The variables of the blocks and of the parameters of an environment are among `vars`. -/
def LocalsIn (vars : List VarSym) (env : Env) : Prop :=
  env.blocks.flatMap Prod.fst ++ env.params ⊆ vars

lemma LocalsIn.enterBlock {vars : List VarSym} (h : LocalsIn vars env) {body : List (Stmt Nat)}
    (hbody : declared body ⊆ vars) : LocalsIn vars (env.enterBlock body) := by
  simp only [LocalsIn, List.append_subset] at h ⊢
  refine ⟨?_, h.2⟩
  rw [Env.enterBlock, Env.enter, List.flatMap_cons]
  exact List.append_subset.mpr ⟨List.Subset.trans (decls_subset_declared body) hbody, h.1⟩

lemma LocalsIn.allVars {vars : List VarSym} (h : LocalsIn vars env) :
    env.allVars ⊆ vars ++ env.globals := by
  rw [Env.allVars]
  exact List.append_subset.mpr ⟨List.Subset.trans h (List.subset_append_left _ _),
    List.subset_append_right _ _⟩

mutual

/-- The variables the code of a statement accesses are variables of the routine or globals. -/
lemma Stmt.touched_subset {vars : List VarSym} {env : Env} (h : LocalsIn vars env) :
    ∀ s : Stmt Nat, declared [s] ⊆ vars → s.touched env ⊆ vars ++ env.globals
  | .semi, hs | .stateChg .., hs | .label .., hs | .jump .., hs => by
    rw [Stmt.touched]
    exact List.nil_subset _
  | .assign _ op lhs rhs, hs | .subAssign _ op lhs sub rhs, hs => by
    rw [Stmt.touched]
    exact List.Subset.trans (flatMap_assignTouched_subset (Expr.touched_subset env _)) h.allVars
  | .ifElse n cond s t, hs => by
    rw [declared_ifElse, List.append_subset] at hs
    rw [Stmt.touched, List.append_subset, List.append_subset]
    exact ⟨⟨List.Subset.trans (Expr.touched_subset env _) h.allVars, Stmt.touched_subset h s hs.1⟩,
      Stmt.touched_subset h t hs.2⟩
  | .whileLoop _ cond s, hs => by
    rw [Stmt.touched, List.append_subset]
    exact ⟨List.Subset.trans (Expr.touched_subset env _) h.allVars, Stmt.touched_subset h s hs⟩
  | .doWhile _ cond s, hs => by
    rw [Stmt.touched, List.append_subset]
    exact ⟨Stmt.touched_subset h s hs, List.Subset.trans (Expr.touched_subset env _) h.allVars⟩
  | .forLoop _ init cond loop s, hs => by
    have hroot := fun r => List.Subset.trans (rootTouched_subset env r) h.allVars
    simp only [Stmt.touched, List.append_subset]
    exact ⟨⟨⟨hroot init, hroot cond⟩, Stmt.touched_subset h s hs⟩, hroot loop⟩
  | .varDecl n type name init slot, hs => by
    rw [Stmt.touched, List.append_subset]
    exact ⟨List.Subset.trans (rootTouched_subset env init) h.allVars,
      List.Subset.trans hs (List.subset_append_left _ _)⟩
  | .exprStmt e, hs => by
    rw [Stmt.touched]
    exact List.Subset.trans (Expr.touched_subset env _) h.allVars
  | .ret _ e, hs => by
    rw [Stmt.touched]
    exact List.Subset.trans (rootTouched_subset env e) h.allVars
  | .block body, hs => by
    rw [declared_block] at hs
    rw [Stmt.touched]
    exact Stmt.allTouched_subset (h.enterBlock hs) body hs

lemma Stmt.allTouched_subset {vars : List VarSym} {env : Env} (h : LocalsIn vars env) :
    ∀ ss : List (Stmt Nat), declared ss ⊆ vars → Stmt.allTouched env ss ⊆ vars ++ env.globals
  | [], hss => by
    rw [Stmt.allTouched]
    exact List.nil_subset _
  | s :: ss, hss => by
    rw [declared_cons, List.append_subset] at hss
    rw [Stmt.allTouched, List.append_subset]
    exact ⟨Stmt.touched_subset h s hss.1, Stmt.allTouched_subset h ss hss.2⟩

end

/-! ## Slots of a script -/

/-- The variables that the code of the globals accesses. -/
def globalTouched (env : Env) (script : Script Nat) : List VarSym :=
  script.flatMap fun g =>
    match g with
    | .varDecl n type name init slot =>
      rootTouched env init ++ globalSyms [.varDecl n type name init slot]
    | _ => []

/-- The variables that the code of a script accesses: those it loads, stores, increments,
subscripts and initialises.  A constant is among them only if it is assigned, incremented or
subscripted. -/
def scriptTouched (env : Env) (script : Script Nat) : List VarSym :=
  globalTouched env script ++ (routines env script).flatMap Routine.touched

/-- The slots of a routine, whose code is `code`, are sound. -/
structure RoutineSlots (globals : List VarSym) (r : Routine) (code : Code) : Prop where
  emits : r.Emits code
  nodup : (r.vars.map VarSym.ref).Nodup
  range : ∀ v ∈ r.vars,
    v.isGlobal = false ∧ 0 ≤ v.scopeIndex ∧ v.scopeIndex < r.header.slots
  accesses : accesses code = r.touched.map VarSym.ref
  named : ∀ v ∈ r.touched, v ∈ r.vars ∨ v ∈ globals

/-- Slot allocation is sound for a script and its code: the variables of each routine, and the
globals, have distinct slots within what the code announces, and every instruction on a variable
carries the slot of the variable that the source names there, one of the routine or a global. -/
structure SlotsSound (env : Env) (script : Script Nat) (code : Code) : Prop where
  nodup : ((globalSyms script).map VarSym.ref).Nodup
  range : ∃ n, code.head? = some (.dataSize n) ∧ ∀ v ∈ globalSyms script,
    v.isGlobal = true ∧ 0 ≤ v.scopeIndex ∧ v.scopeIndex < n
  parts : ∃ globals codes, code = preamble script ++ globals ++ [.op .halt] ++ codes.flatten ∧
    accesses globals = (globalTouched env script).map VarSym.ref ∧
    (∀ v ∈ globalTouched env script, v ∈ globalSyms script) ∧
    List.Forall₂ (RoutineSlots (globalSyms script)) (routines env script) codes

lemma accesses_globalInits {script : Script Nat} {code : Code}
    (h : globalInits env script = some code) :
    accesses code = (globalTouched env script).map VarSym.ref := by
  induction script generalizing code with
  | nil =>
    obtain rfl := Option.some.inj h
    rfl
  | cons g gs ih =>
    cases g with
    | varDecl n type name init slot =>
      simp only [globalInits, Option.bind_eq_bind, Option.bind_eq_some_iff,
        Option.some.injEq] at h
      obtain ⟨c, hc, rest, hrest, rfl⟩ := h
      have hdecl := accesses_genVarDecl (v := ⟨name.text, type, slot, true, none,
        name.tokenStartIndex, some (n.tokenStartIndex, n.tokenStopIndex)⟩) hc rfl
      simp only [accesses_append, hdecl, ih hrest, globalTouched, List.flatMap_cons,
        List.map_append]
      rfl
    | funcDef f | stateDef s => exact ih h

/-- The variables the initialisers of the globals access are in the global scope. -/
lemma globalTouched_subset {script : Script Nat} (hblocks : env.blocks = [])
    (hparams : env.params = []) : globalTouched env script ⊆ env.globals ++ globalSyms script := by
  intro v hv
  obtain ⟨g, hg, hv⟩ := List.mem_flatMap.mp hv
  cases g with
  | varDecl n type name init slot =>
    rcases List.mem_append.mp hv with hv | hv
    · have := rootTouched_subset env init hv
      rw [Env.allVars, hblocks, hparams] at this
      exact List.mem_append_left _ this
    · refine List.mem_append_right _ (List.mem_filterMap.mpr ⟨_, hg, ?_⟩)
      simpa [globalSyms, eq_comm] using hv
  | funcDef | stateDef => exact absurd hv List.not_mem_nil

lemma touched_subset_routine {script : Script Nat} (hblocks : env.blocks = [])
    (hr : r ∈ routines env script) :
    r.touched ⊆ r.vars ++ env.globals := by
  obtain ⟨env', hr', hb, hp, hg, -⟩ := Routine.env_of_mem hr
  have hlocals : LocalsIn r.vars env' := by
    rw [LocalsIn, hb, hblocks, hp]
    exact List.subset_append_left _ _
  have hbody : declared r.body ⊆ r.vars := List.subset_append_right _ _
  rw [Routine.touched, ← hg, hr']
  exact Stmt.allTouched_subset (hlocals.enterBlock hbody) r.body hbody

/-- A variable of the global scope that is not a constant is a global of the script. -/
lemma mem_globalSyms {b : Builtins} {src : Source} {script : Script Nat}
    (hv : v ∈ (scriptEnv b src script).globals) (hconst : v.isConstant = false) :
    v ∈ globalSyms script := by
  rcases List.mem_append.mp hv with hv | hv
  · rw [(b.isConstant v hv).1] at hconst
    cases hconst
  · exact hv

/-- Slot allocation is sound exactly for the scripts that do not assign, increment or subscript a
built-in constant. -/
theorem slotsSound_iff {b : Builtins} {src : Source} {script : Script Unit}
    {numbered : Script Nat} {code : Code} (hacc : Accepted b src script numbered)
    (hgen : genScript (scriptEnv b src numbered) numbered = some code) :
    SlotsSound (scriptEnv b src numbered) numbered code ↔
      ∀ v ∈ scriptTouched (scriptEnv b src numbered) numbered, v.isConstant = false := by
  have hnum := scriptNumbered hacc.defined
  constructor
  · rintro ⟨-, -, globals, codes, -, -, hglobals, hcodes⟩ v hv
    rcases List.mem_append.mp hv with hv | hv
    · exact (isGlobal_globalSyms (hglobals v hv)).2
    · obtain ⟨r, hr, hv⟩ := List.mem_flatMap.mp hv
      obtain ⟨c, -, hslots⟩ := exists_of_forall₂ hcodes hr
      exact (hslots.named v hv).elim (fun h => (isGlobal_vars h).2)
        fun h => (isGlobal_globalSyms h).2
  · intro hconst
    obtain ⟨globals, codes, hglobals, hcodes, rfl⟩ := genScript_eq_some hgen
    obtain ⟨hnodup, hrange⟩ := hnum.global_slots
    refine ⟨hnodup, ⟨_, rfl, fun v hv => ⟨(isGlobal_globalSyms hv).1, hrange v hv⟩⟩,
      globals, codes, rfl, accesses_globalInits hglobals, fun v hv => ?_,
      forall₂_of_mem hcodes fun r hr c hc => ?_⟩
    · rcases List.mem_append.mp (globalTouched_subset rfl rfl hv) with hmem | hmem
      · exact mem_globalSyms hmem (hconst v (List.mem_append_left _ hv))
      · exact hmem
    · have hbody := hnum.routine hr
      obtain ⟨hnodup, hrange⟩ := hbody.routine_slots
      refine ⟨hc, hnodup, fun v hv => ⟨(isGlobal_vars hv).1, ?_⟩, ?_, fun v hv => ?_⟩
      · rw [slots_header hr hbody]
        exact hrange v hv
      · obtain ⟨i, j, content, hcontent, rfl⟩ := hc
        have hheader : r.header.varRef? = none := by
          rcases mem_routines.mp hr with ⟨f, -, rfl⟩ | ⟨s, -, e, -, rfl⟩ <;> rfl
        rw [accesses_cons_none hheader, accesses_append, accesses_genStmts r.body hcontent]
        simp [Routine.touched]
      · have hv' := hconst v (List.mem_append_right _ (List.mem_flatMap.mpr ⟨r, hr, hv⟩))
        exact (List.mem_append.mp (touched_subset_routine rfl hr hv)).imp id
          fun h => mem_globalSyms h hv'

namespace SlotSample

/-- A compiler with the constant `PI`. -/
def builtins : Builtins where
  methods := []
  constants := [⟨"PI", .float, -1, true, some "3.14159274", 0, none⟩]
  isSyscall := Builtins.empty.isSyscall
  isConstant := by simp [VarSym.isConstant]
  notList := by simp
  nodup := by decide

def source : Source := ⟨fun _ _ => "", some⟩

def node (text : String) (index : Nat) : Node := ⟨text, 1, 0, index, index⟩

/-- `default { state_entry() { float x; TARGET = PI; } }` -/
def script (A : Type) (number : Nat → A) (target : String) : Script A :=
  [.stateDef ⟨node "default" 0, [⟨node "state_entry" 2, [],
    [.varDecl (node "VAR_DECL" 6) .float (node "x" 7) none (number 0),
      .assign (node "=" 10) .assign (node target 9) ⟨node "EXPR" 11, .id (node "PI" 11)⟩],
    number 1⟩]⟩]

def code (store : Asm) : Code :=
  [.dataSize 0, .state "default", .op .halt, .event "default" "state_entry" 0 1,
    .instr .finitL [.num 0], .instr .fconst [.float "3.14159274"], store, .op .ret]

theorem slotsSound_script :
    SlotsSound (scriptEnv builtins source (script Nat id "x")) (script Nat id "x")
      (code (.instr .store [.num 0])) := by
  have hacc : Accepted builtins source (script Unit (fun _ => ()) "x") (script Nat id "x") :=
    ⟨rfl, rfl, by decide⟩
  exact (slotsSound_iff hacc rfl).mpr (by decide)

/-- The assignment `PI = PI` is accepted and stores to slot `-1`. -/
theorem not_slotsSound_script :
    Accepted builtins source (script Unit (fun _ => ()) "PI") (script Nat id "PI") ∧
      genScript (scriptEnv builtins source (script Nat id "PI")) (script Nat id "PI") =
        some (code (.instr .gstore [.num (-1)])) ∧
      ¬ SlotsSound (scriptEnv builtins source (script Nat id "PI")) (script Nat id "PI")
        (code (.instr .gstore [.num (-1)])) := by
  refine ⟨⟨rfl, rfl, by decide⟩, rfl, ?_⟩
  rintro ⟨-, -, globals, codes, -, -, -, hcodes⟩
  cases hcodes with
  | cons h _ =>
    have hnamed := h.named ⟨"PI", .float, -1, true, some "3.14159274", 0, none⟩ (by decide)
    exact absurd hnamed (by decide)

end SlotSample

end Halcyon.Joke
