import Halcyon.Joke.Gen
import Halcyon.Joke.Typing

/-!
# The code of an expression is typed

The type pass, the promotions, the templates and the actions of the interpreter were written
apart.  `codeTyped` ties them together: the code generated for an expression that the type
pass accepts takes a stack of types `σ` to `τ :: σ`, where `τ` is the annotation of the
expression as a run-time type.  The induction is over the expression; at each operator the
tables are compared entry by entry (`binary_resultTy`, `compound_resultType`).

The code is typed under conditions the tables do not imply.  `Expr.sound` collects them: what is
assigned, incremented or subscripted is a variable, not a built-in constant, and a compound
assignment computes a value of its target's type.
-/

namespace Halcyon.Joke

open Halcyon.Lib Env

/-! ## Types of the templates -/

/-- The type a binary template computes from operands of the given run-time types. -/
def BinTemplate.resultTy (t : BinTemplate) (l r : VarType) : Option VarType :=
  match t.layout with
  | .plain => t.op.opType [r, l]
  | .castLeft => (OpCode.fcast.opType [l]).bind fun l => t.op.opType [r, l]
  | .castRight => (OpCode.fcast.opType [r]).bind fun r => t.op.opType [r, l]
  | .swapped => t.op.opType [l, r]

/-- The type a compound assignment computes, before it is stored. -/
def AssignTemplate.resultTy (t : AssignTemplate) (l r : VarType) : Option VarType :=
  if t.cast then (OpCode.fcast.opType [r]).bind fun r => t.op.opType [r, l]
  else t.op.opType [r, l]

/-- The type of an operand of a binary operator whose other operand has type `b`. -/
def BinOp.operandTy (op : BinOp) (a b : VarType) : VarType :=
  if op.promotes then promoted a (promoteFromTo a b) else a

/-- Every template a binary operator is generated with computes the type the type pass
announces. -/
lemma binary_resultTy {op : BinOp} {tl tr : VarType} {t : BinTemplate}
    (ht : TemplateMapping.binary op tl tr = some t) (ha : binaryAllowed op tl tr = true) :
    t.resultTy (op.operandTy tl tr).runtime (op.operandTy tr tl).runtime =
      some (binaryType op tl tr).runtime := by
  have key : ∀ tl tr, (TemplateMapping.binary op tl tr).all (fun t =>
      !binaryAllowed op tl tr ||
      t.resultTy (op.operandTy tl tr).runtime (op.operandTy tr tl).runtime ==
        some (binaryType op tl tr).runtime) = true := by
    cases op <;> decide
  simpa [ht, ha] using key tl tr

/-- The template of a compound assignment stores what its target can hold. -/
def compoundSound (op : AssignOp) (tl tr : VarType) : Bool :=
  (TemplateMapping.compound op tl tr).all fun t =>
    t.resultTy tl.runtime tr.runtime == some tl.runtime

/-- Where a template exists and stores its target's type, that is the annotation as well. -/
lemma compound_resultType {op : AssignOp} {tl tr : VarType} {t : AssignTemplate}
    (ht : TemplateMapping.compound op tl tr = some t) (hs : compoundSound op tl tr = true) :
    t.resultTy tl.runtime tr.runtime = some tl.runtime ∧ op.resultType tl tr = tl := by
  have key : ∀ tl tr, (TemplateMapping.compound op tl tr).all (fun _ =>
      !compoundSound op tl tr || op.resultType tl tr == tl) = true := by
    cases op <;> decide
  have h := key tl tr
  simp only [ht, hs, Option.all_some, Bool.not_true, Bool.false_or, beq_iff_eq] at h
  refine ⟨?_, h⟩
  simpa [compoundSound, ht] using hs

/-! ## Instructions -/

/-- The call of a function. -/
def MethodSym.callInstr (m : MethodSym) : Asm :=
  .instr (if m.isSyscall then .syscall else .call) [.func m.rawName]

/-- The run-time types of a function's parameters, the last one first, as its arguments lie on
the stack. -/
def MethodSym.argTypes (m : MethodSym) : List VarType :=
  (m.params.map fun p => p.2.runtime).reverse

/-- What a function leaves on the stack. -/
def MethodSym.resultTypes (m : MethodSym) : List VarType :=
  if m.type = .void then [] else [m.type.runtime]

/-- The types of the instructions an expression consists of.  A call is typed by the signature
of the function. -/
inductive InstrTy (F : Type) [FloatArith F] (Γ : VarRef → Option VarType)
    (methods : List MethodSym) : Asm → List VarType → List VarType → Prop
  | act {i a σ σ'} (ha : i.action = some (a : Action F)) (h : ActionTy Γ a σ σ') :
      InstrTy F Γ methods i σ σ'
  | call {m σ} (hm : m ∈ methods) :
      InstrTy F Γ methods m.callInstr (m.argTypes ++ σ) (m.resultTypes ++ σ)

/-- Conversions of the literals of a script to numbers, vectors and rotations. -/
structure TotalConversions (F : Type) [FloatArith F] : Prop where
  toSingle : ∀ text, (FloatArith.toSingle text : Option F).isSome = true
  vectorOfText : ∀ text, (FloatArith.vectorOfText text : Option (Vector3 F)).isSome = true
  quaternionOfText : ∀ text,
    (FloatArith.quaternionOfText text : Option (Quaternion F)).isSome = true

/-- The typing of the slots knows every variable of the environment. -/
def Covers (Γ : VarRef → Option VarType) (env : Env) : Prop :=
  ∀ v ∈ env.allVars, v.isConstant = false → Γ v.ref = some v.type.runtime

section Instructions

variable {F : Type} [FloatArith F] {Γ : VarRef → Option VarType} {methods : List MethodSym}
  {σ : List VarType} {t : VarType}

lemma instrTy_op {op : OpCode} {a : List VarType} (h : op.opType a = some t) :
    InstrTy F Γ methods (.op op) (a ++ σ) (t :: σ) := by
  obtain ⟨f, hf, -⟩ := OpCode.takes_of_opType (F := F) h
  exact .act (Asm.action_of_stackOp hf) (.compute hf h)

lemma action_loadVar (v : VarSym) :
    (loadVar v.isGlobal v.scopeIndex none).action = some (Action.load (F := F) v.ref) := by
  obtain ⟨_, _, _, g, _, _, _⟩ := v
  cases g <;> exact Asm.action_of_varAction rfl

lemma action_loadVar_sub (v : VarSym) (k : Int) :
    (loadVar v.isGlobal v.scopeIndex (some k)).action =
      some (Action.loadSub (F := F) v.ref k) := by
  obtain ⟨_, _, _, g, _, _, _⟩ := v
  cases g <;> exact Asm.action_of_subAction rfl

lemma action_storeVar (v : VarSym) :
    (storeVar v.isGlobal v.scopeIndex none).action = some (Action.store (F := F) v.ref) := by
  obtain ⟨_, _, _, g, _, _, _⟩ := v
  cases g <;> exact Asm.action_of_varAction rfl

lemma action_storeVar_sub (v : VarSym) (k : Int) :
    (storeVar v.isGlobal v.scopeIndex (some k)).action =
      some (Action.storeSub (F := F) v.ref k) := by
  obtain ⟨_, _, _, g, _, _, _⟩ := v
  cases g <;> exact Asm.action_of_subAction rfl

/-- The increment is by one upwards, and not downwards. -/
def IncDecOp.isInc : IncDecOp → Bool
  | .preInc | .postInc => true
  | .preDec | .postDec => false

/-- The value of the increment is the variable's new one. -/
def IncDecOp.isPre : IncDecOp → Bool
  | .preInc | .preDec => true
  | .postInc | .postDec => false

lemma action_incDecCode (op : IncDecOp) (isFloat : Bool) (v : VarSym) :
    (incDecCode op isFloat v.isGlobal v.scopeIndex).action =
      some (Action.incDec (F := F) isFloat op.isPre op.isInc v.ref) := by
  obtain ⟨_, _, _, g, _, _, _⟩ := v
  cases op <;> cases isFloat <;> cases g <;> exact Asm.action_of_varAction rfl

lemma action_incDecSubCode (op : IncDecOp) (v : VarSym) (k : Int) :
    (incDecSubCode op v.isGlobal v.scopeIndex k).action =
      some (Action.incDecSub (F := F) op.isPre op.isInc v.ref k) := by
  obtain ⟨_, _, _, g, _, _, _⟩ := v
  cases op <;> cases g <;> exact Asm.action_of_subAction rfl

/-- A valid subscript of a type has an index, and it is one of the type's components. -/
lemma hasComponent_calcSubIndex {sub : String} {k : Int} (hs : sub ∈ subscriptNames t)
    (hk : calcSubIndex sub = some k) : hasComponent t.runtime k = true := by
  cases t <;> simp only [subscriptNames, List.mem_cons, List.not_mem_nil, or_false] at hs
  case vector =>
    rcases hs with rfl | rfl | rfl <;> obtain rfl := Option.some.inj hk <;> rfl
  case rotation =>
    rcases hs with rfl | rfl | rfl | rfl <;> obtain rfl := Option.some.inj hk <;> rfl

variable {code lexpr rexpr : Code} {l r : VarType}

/-- A binary template, around code for the operands that works on any stack. -/
lemma path_expand {tmpl : BinTemplate} (ht : tmpl.resultTy l r = some t)
    (hl : ∀ σ, Path (InstrTy F Γ methods) σ lexpr (l :: σ))
    (hr : ∀ σ, Path (InstrTy F Γ methods) σ rexpr (r :: σ)) :
    Path (InstrTy F Γ methods) σ (tmpl.expand lexpr rexpr) (t :: σ) := by
  unfold BinTemplate.resultTy at ht
  unfold BinTemplate.expand
  revert ht
  cases tmpl.layout <;> intro ht
  · exact ((hl σ).append (hr _)).append (.single (instrTy_op ht))
  · obtain ⟨l', hl', ht⟩ := Option.bind_eq_some_iff.mp ht
    exact (((hl σ).append (.single (instrTy_op hl'))).append (hr _)).append
      (.single (instrTy_op ht))
  · obtain ⟨r', hr', ht⟩ := Option.bind_eq_some_iff.mp ht
    exact ((hl σ).append (hr _)).append
      (.cons (instrTy_op hr') (.single (instrTy_op ht)))
  · exact ((hr σ).append (hl _)).append (.single (instrTy_op ht))

/-- The promotion of an expression's value. -/
lemma path_doPromotion (dest : VarType)
    (h : ∀ σ, Path (InstrTy F Γ methods) σ code (t.runtime :: σ)) (σ : List VarType) :
    Path (InstrTy F Γ methods) σ (doPromotion (promoteFromTo t dest) code)
      ((promoted t (promoteFromTo t dest)).runtime :: σ) := by
  unfold doPromotion
  split_ifs with hp
  · obtain rfl : t = .integer := by
      revert hp
      cases t <;> cases dest <;> decide
    rw [hp]
    exact (h σ).append (.single (instrTy_op (a := [.integer]) rfl))
  · have he : (promoted t (promoteFromTo t dest)).runtime = t.runtime := by
      revert hp
      cases t <;> cases dest <;> decide
    rw [he]
    exact h σ

/-! ## Assignments -/

/-- The left side of an assignment as a slot: its variable is known to `Γ`, and a subscript on it
is one of its components. -/
structure TargetTy (Γ : VarRef → Option VarType) (v : VarSym) (sub : Option Node)
    (subindex : Option Int) : Prop where
  slot : Γ v.ref = some v.type.runtime
  index : targetIndex sub = some subindex
  component : ∀ x, sub = some x → x.text ∈ subscriptNames v.type

variable {v : VarSym} {sub : Option Node} {subindex : Option Int}

lemma TargetTy.load (h : TargetTy Γ v sub subindex) :
    InstrTy F Γ methods (loadVar v.isGlobal v.scopeIndex subindex) σ
      ((targetType v sub).runtime :: σ) := by
  rcases sub with - | x
  · obtain rfl := Option.some.inj h.index
    exact .act (action_loadVar v) (.load h.slot)
  · obtain ⟨k, hk, rfl⟩ := Option.map_eq_some_iff.mp h.index
    exact .act (action_loadVar_sub v k)
      (.loadSub h.slot (hasComponent_calcSubIndex (h.component x rfl) hk))

lemma TargetTy.store (h : TargetTy Γ v sub subindex) :
    InstrTy F Γ methods (storeVar v.isGlobal v.scopeIndex subindex)
      ((targetType v sub).runtime :: σ) σ := by
  rcases sub with - | x
  · obtain rfl := Option.some.inj h.index
    exact .act (action_storeVar v) (.store h.slot)
  · obtain ⟨k, hk, rfl⟩ := Option.map_eq_some_iff.mp h.index
    exact .act (action_storeVar_sub v k)
      (.storeSub h.slot (hasComponent_calcSubIndex (h.component x rfl) hk))

/-- The types an assignment leaves on the stack. -/
def finalTypes (v : VarSym) (sub : Option Node) (pushfinal : Bool) : List VarType :=
  if pushfinal then [(targetType v sub).runtime] else []

lemma TargetTy.final (h : TargetTy Γ v sub subindex) (pushfinal : Bool) :
    Path (InstrTy F Γ methods) σ
      (if pushfinal then [loadVar v.isGlobal v.scopeIndex subindex] else [])
      (finalTypes v sub pushfinal ++ σ) := by
  cases pushfinal
  · exact .nil _
  · exact .single h.load

lemma path_assignCode (h : TargetTy Γ v sub subindex) {pushfinal : Bool}
    (hc : Path (InstrTy F Γ methods) σ code ((targetType v sub).runtime :: σ)) :
    Path (InstrTy F Γ methods) σ (assignCode v.isGlobal v.scopeIndex subindex code pushfinal)
      (finalTypes v sub pushfinal ++ σ) :=
  (hc.append (.single h.store)).append (h.final pushfinal)

lemma path_xxxa (h : TargetTy Γ v sub subindex) {tmpl : AssignTemplate} {pushfinal : Bool}
    (ht : tmpl.resultTy (targetType v sub).runtime r = some (targetType v sub).runtime)
    (hc : ∀ σ, Path (InstrTy F Γ methods) σ code (r :: σ)) :
    Path (InstrTy F Γ methods) σ
      (xxxa v.isGlobal v.scopeIndex subindex code tmpl.cast tmpl.op pushfinal)
      (finalTypes v sub pushfinal ++ σ) := by
  unfold AssignTemplate.resultTy at ht
  have hstore : Path (InstrTy F Γ methods) ((targetType v sub).runtime :: σ)
      ([storeVar v.isGlobal v.scopeIndex subindex] ++
        if pushfinal then [loadVar v.isGlobal v.scopeIndex subindex] else [])
      (finalTypes v sub pushfinal ++ σ) := (Path.single h.store).append (h.final pushfinal)
  simp only [xxxa, List.append_assoc]
  refine (Path.single h.load).append ((hc _).append ?_)
  by_cases hcast : tmpl.cast = true
  · simp only [hcast, if_true] at ht ⊢
    obtain ⟨r', hr', ht⟩ := Option.bind_eq_some_iff.mp ht
    exact (Path.single (instrTy_op hr')).append ((Path.single (instrTy_op ht)).append hstore)
  · simp only [hcast] at ht ⊢
    exact (Path.single (instrTy_op ht)).append hstore

end Instructions

/-! ## Annotations of accepted expressions -/

section Annotations

variable {env : Env} {e : Expr} {n : Node} {v : VarSym} {t : VarType}

lemma evalType_of_ok {r : Option VarType} (h : typeExpr env e = .ok r) : evalType env e = r := by
  rw [evalType, h]
  cases r <;> rfl

lemma promotion_of_ok (h : typeExpr env e = .ok (some t)) (dest : VarType) :
    promotion env e dest = promoteFromTo t dest := by
  rw [promotion, evalType_of_ok h, Option.bind_some]

lemma symbol_of_ok (h : env.resolveVar n = .ok (some v)) : env.symbol n = some v := by
  rw [Env.symbol, h]
  rfl

lemma resolveVar_mem (h : env.resolveVar n = .ok (some v)) : v ∈ env.allVars :=
  (ensureResolve_mem (resolveVar_eq_ok.mp h)).1

/-- A name that resolves without a message resolves to a variable. -/
lemma resolveVar_ok_some {r : Option VarSym} (h : env.resolveVar n = .ok r) :
    ∃ v, r = some v := by
  unfold resolveVar at h
  obtain ⟨o, ho, hr⟩ := Diag.bind_eq_ok.mp h
  rcases o with - | (v | -)
  · -- an unresolved name is reported
    exfalso
    unfold ensureResolve at ho
    split at ho
    · split at ho
      · split at ho <;> simp [Diag.bind_eq_ok] at ho
      · simp at ho
    · split at ho <;> simp [Diag.bind_eq_ok] at ho
  · exact ⟨v, by simpa using hr.symm⟩
  · simp at hr

lemma typeExpr_id {r : Option VarType} (h : typeExpr env (.id n) = .ok r) :
    ∃ v, env.resolveVar n = .ok (some v) ∧ r = some v.type := by
  rw [typeExpr, Diag.bind_eq_ok] at h
  obtain ⟨o, ho, hr⟩ := h
  obtain ⟨v, rfl⟩ := resolveVar_ok_some ho
  exact ⟨v, ho, by simpa using hr.symm⟩

/-- An expression that is accepted has a type. -/
lemma typeExpr_ok_some : ∀ {e : Expr} {r : Option VarType}, typeExpr env e = .ok r →
    ∃ t, r = some t := by
  intro e
  induction e using Expr.ind with
  | id n =>
    intro r h
    obtain ⟨v, -, rfl⟩ := typeExpr_id h
    exact ⟨_, rfl⟩
  | paren n e ih =>
    intro r h
    rw [typeExpr] at h
    exact ih h
  | call n callee args =>
    intro r h
    cases callee <;> simp only [typeExpr, Diag.mismatch_ne_ok, Diag.bind_eq_ok] at h
    obtain ⟨ts, -, hr⟩ := h
    obtain ⟨m, _, -, -, -, rfl⟩ := methodCall_eq_ok hr
    exact ⟨_, rfl⟩
  | typeCast n t tn e =>
    intro r h
    simp only [typeExpr, Diag.bind_eq_ok] at h
    obtain ⟨a, -, hr⟩ := h
    cases a <;> simp only [typeCast, unknownType_ne_ok, Diag.bind_eq_ok, Diag.require_eq_ok] at hr
    obtain ⟨-, -, hr⟩ := hr
    exact ⟨_, (Diag.ok_inj.mp hr).symm⟩
  | _ =>
    intro r h
    simp only [typeExpr, Diag.bind_eq_ok, Diag.ok_inj, binaryOp_eq_ok, assignOp_eq_ok,
      unaryOp_eq_ok, incDecOp_eq_ok, subScript_eq_ok] at h
    grind

/-- The left side of an accepted assignment. -/
lemma typeExpr_target {sub : Option Node} (ht : typeExpr env e = .ok (some t))
    (he : assignTarget e = some (n, sub)) :
    ∃ v, env.resolveVar n = .ok (some v) ∧ t = targetType v sub ∧
      ∀ x, sub = some x → x.text ∈ subscriptNames v.type := by
  unfold assignTarget at he
  split at he <;> simp only [Option.some.injEq, Prod.mk.injEq, reduceCtorEq] at he <;>
    obtain ⟨rfl, rfl⟩ := he
  · obtain ⟨v, hv, hr⟩ := typeExpr_id ht
    exact ⟨v, hv, Option.some.inj hr, by simp⟩
  · rw [typeExpr] at ht
    obtain ⟨v, hv, hr⟩ := typeExpr_id ht
    exact ⟨v, hv, Option.some.inj hr, by simp⟩
  · rw [typeExpr, Diag.bind_eq_ok] at ht
    obtain ⟨o, ho, hs⟩ := ht
    obtain ⟨m, b, -, rfl, hmem, hr⟩ := subScript_eq_ok.mp hs
    obtain ⟨v, hv, hb⟩ := typeExpr_id ho
    obtain rfl := Option.some.inj hb
    refine ⟨v, hv, (Option.some.inj hr).symm, ?_⟩
    rintro x ⟨⟩
    exact hmem
  · -- a subscript of a variable in parentheses is rejected
    rw [typeExpr, Diag.bind_eq_ok] at ht
    obtain ⟨o, -, hs⟩ := ht
    obtain ⟨m, b, hm, -⟩ := subScript_eq_ok.mp hs
    cases hm

end Annotations

/-! ## Conditions -/

/-- What is assigned, incremented or subscripted is a variable, not a constant. -/
def targetOk (env : Env) (e : Expr) : Bool :=
  match assignTarget e with
  | some (n, _) => (env.symbol n).all fun v => !v.isConstant
  | none => true

/-- A constant that is an integer can be read as one. -/
def constantOk (v : VarSym) : Bool :=
  v.constValue.all fun text => v.type != .integer || (convertToInt text).isSome

/-- A compound assignment computes a value of its target's type. -/
def compoundOk (env : Env) (op : AssignOp) (l r : Expr) : Bool :=
  (evalType env l).all fun tl => (evalType env r).all fun tr => compoundSound op tl tr

mutual

/-- Assignments, increments and subscripts are of variables, and compound assignments keep the
type of their target. -/
def Expr.sound (env : Env) : Expr → Bool
  | .intLit _ | .floatLit _ | .stringLit _ => true
  | .id n => (env.symbol n).all constantOk
  | .vecLit _ x y z => x.sound env && y.sound env && z.sound env
  | .rotLit _ x y z w => x.sound env && y.sound env && z.sound env && w.sound env
  | .listLit _ es => Expr.allSound env es
  | .typeCast _ _ _ e => e.sound env
  | .binary _ _ l r => l.sound env && r.sound env
  | .assign _ op l r => targetOk env l && compoundOk env op l r && r.sound env
  | .unary _ _ e => e.sound env
  | .incDec _ _ e => targetOk env e
  | .subscript n e sub => targetOk env (.subscript n e sub)
  | .call _ _ args => Expr.allSound env args
  | .paren _ e => e.sound env

/-- Every member of a list of expressions is sound. -/
def Expr.allSound (env : Env) : List Expr → Bool
  | [] => true
  | e :: es => e.sound env && Expr.allSound env es

end

-- generated here once, the equations serve all the lemmas below
attribute [local simp] Expr.parsed Expr.sound

lemma Expr.allSound_iff {env : Env} {es : List Expr} :
    Expr.allSound env es = true ↔ ∀ e ∈ es, e.sound env = true := by
  induction es with
  | nil => simp [Expr.allSound]
  | cons e es ih => simp [Expr.allSound, ih]

/-! ## The code of an expression -/

section Soundness

variable {F : Type} [FloatArith F] {Γ : VarRef → Option VarType} {env : Env}

/-- What is proved of every expression: its code, on any stack, pushes a value of its type. -/
def CodeTyped (F : Type) [FloatArith F] (Γ : VarRef → Option VarType) (env : Env) (e : Expr) :
    Prop :=
  ∀ {τ : VarType} {code : Code}, e.parsed = true → e.sound env = true →
    typeExpr env e = .ok (some τ) → genExpr env e = some code → Asm.blank ∉ code →
      ∀ σ, Path (InstrTy F Γ env.methods) σ code (τ.runtime :: σ)

variable {methods : List MethodSym} {σ : List VarType}

variable {op : OpCode}

lemma path_const {o : Operand} {v : Value F}
    (h : (Asm.instr op [o]).action = some (Action.const v)) :
    Path (InstrTy F Γ methods) σ [.instr op [o]] (v.varType :: σ) :=
  .single (.act h .const)

/-- An instruction that pushes the literal its operand denotes. -/
lemma path_constant {o : Operand} {v : Value F} {u : Option (Value F)} (hu : u = some v)
    (h : (Asm.instr op [o]).action = u.map Action.const) :
    Path (InstrTy F Γ methods) σ [.instr op [o]] (v.varType :: σ) :=
  path_const (by rw [h, hu, Option.map_some])

variable {text : String}

lemma path_iconst (h : (convertToInt text).isSome = true) :
    Path (InstrTy F Γ methods) σ [.instr .iconst [.int text]] (.integer :: σ) := by
  obtain ⟨w, hw⟩ := Option.isSome_iff_exists.mp h
  refine path_const (v := .int w) ?_
  -- evaluated: to unfold the table of actions is slow
  change (convertToInt text).map _ = _
  rw [hw, Option.map_some]

lemma path_sconst :
    Path (InstrTy F Γ methods) σ [.instr .sconst [.string text]] (.string :: σ) :=
  path_constant (v := .string (unescapeStringChars text)) rfl rfl

lemma path_fconst (hconv : TotalConversions F) :
    Path (InstrTy F Γ methods) σ [.instr .fconst [.float text]] (.float :: σ) := by
  obtain ⟨x, hx⟩ := Option.isSome_iff_exists.mp (hconv.toSingle text)
  exact path_constant (congrArg (Option.map Value.float) hx) rfl

lemma path_vconst (hconv : TotalConversions F) :
    Path (InstrTy F Γ methods) σ [.instr .vconst [.vector text]] (.vector :: σ) := by
  obtain ⟨x, hx⟩ := Option.isSome_iff_exists.mp (hconv.vectorOfText text)
  exact path_constant (congrArg (Option.map Value.vector) hx) rfl

lemma path_rconst (hconv : TotalConversions F) :
    Path (InstrTy F Γ methods) σ [.instr .rconst [.rotation text]] (.rotation :: σ) := by
  obtain ⟨x, hx⟩ := Option.isSome_iff_exists.mp (hconv.quaternionOfText text)
  exact path_constant (congrArg (Option.map Value.rotation) hx) rfl

lemma codeTyped_id (hconv : TotalConversions F) (hΓ : Covers Γ env) (n : Node) :
    CodeTyped F Γ env (.id n) := by
  intro τ code _ hs ht hg _ σ
  obtain ⟨v, hv, hτ⟩ := typeExpr_id ht
  obtain rfl := Option.some.inj hτ
  simp only [Expr.sound, symbol_of_ok hv, Option.all_some] at hs
  simp only [genExpr, symbol_of_ok hv, Option.bind_some, loadSymbol] at hg
  cases hc : v.constValue with
  | none =>
    simp only [hc, Option.some.injEq] at hg
    subst hg
    exact .single (.act (action_loadVar v)
      (.load (hΓ v (resolveVar_mem hv) (by simp [VarSym.isConstant, hc]))))
  | some text =>
    simp only [hc] at hg
    cases hty : v.type <;> simp only [hty, Option.some.injEq, reduceCtorEq] at hg <;> subst hg
    case integer =>
      refine path_iconst ?_
      simpa [constantOk, hc, hty] using hs
    case float => exact path_fconst hconv
    case string | key => exact path_sconst
    case vector => exact path_vconst hconv
    case rotation => exact path_rconst hconv

variable {x : Expr} {t : VarType} {code : Code}

/-- A component of a vector or a rotation, promoted to float. -/
lemma path_component (ht : typeExpr env x = .ok (some t)) (hx : isFloatComponent t = true)
    (h : ∀ σ, Path (InstrTy F Γ methods) σ code (t.runtime :: σ)) (σ : List VarType) :
    Path (InstrTy F Γ methods) σ (doPromotion (promotion env x .float) code) (.float :: σ) := by
  have hp := path_doPromotion .float h σ
  rw [promoted_of_canAssignTo hx] at hp
  rw [promotion_of_ok ht]
  exact hp

lemma not_mem_doPromotion {p : Option VarType} (h : Asm.blank ∉ doPromotion p code) :
    Asm.blank ∉ code := by
  unfold doPromotion at h
  split_ifs at h <;> simp_all

lemma not_mem_expand {tmpl : BinTemplate} {c : Bool} {p q : Option VarType} {cl cr : Code}
    (h : Asm.blank ∉ tmpl.expand (if c then doPromotion p cl else cl)
      (if c then doPromotion q cr else cr)) : Asm.blank ∉ cl ∧ Asm.blank ∉ cr := by
  have hcr : Asm.blank ∉ (if c then doPromotion p cl else cl) ∧
      Asm.blank ∉ (if c then doPromotion q cr else cr) := by
    unfold BinTemplate.expand at h
    split at h <;> simp_all
  cases c
  · exact hcr
  · exact ⟨not_mem_doPromotion hcr.1, not_mem_doPromotion hcr.2⟩

variable {n : Node}

lemma codeTyped_vecLit (hconv : TotalConversions F) {y z : Expr} (ihx : CodeTyped F Γ env x)
    (ihy : CodeTyped F Γ env y) (ihz : CodeTyped F Γ env z) :
    CodeTyped F Γ env (.vecLit n x y z) := by
  intro τ code hp hs ht hg hb σ
  simp only [Expr.parsed, Expr.sound, Bool.and_eq_true] at hp hs
  simp only [typeExpr, Diag.bind_eq_ok, checkComponents_eq_ok] at ht
  obtain ⟨tx, htx, ty, hty, tz, htz, -, hc, hτ⟩ := ht
  obtain ⟨a, rfl, ha⟩ := hc tx (by simp)
  obtain ⟨b, rfl, hb'⟩ := hc ty (by simp)
  obtain ⟨c, rfl, hc'⟩ := hc tz (by simp)
  obtain rfl : VarType.vector = τ := by simpa using hτ
  rw [genExpr] at hg
  split at hg
  · obtain ⟨cs, -, rfl⟩ := Option.map_eq_some_iff.mp hg
    exact path_vconst hconv
  · simp only [Option.bind_eq_bind, Option.bind_eq_some_iff, Option.some.injEq] at hg
    obtain ⟨cx, hcx, cy, hcy, cz, hcz, rfl⟩ := hg
    simp only [List.mem_append, not_or] at hb
    have px := ihx hp.1.1 hs.1.1 htx hcx (not_mem_doPromotion hb.1.1.1)
    have py := ihy hp.1.2 hs.1.2 hty hcy (not_mem_doPromotion hb.1.1.2)
    have pz := ihz hp.2 hs.2 htz hcz (not_mem_doPromotion hb.1.2)
    exact (((path_component htx ha px σ).append (path_component hty hb' py _)).append
      (path_component htz hc' pz _)).append (.single (instrTy_op (a := [_, _, _]) rfl))

lemma codeTyped_rotLit (hconv : TotalConversions F) {y z w : Expr} (ihx : CodeTyped F Γ env x)
    (ihy : CodeTyped F Γ env y) (ihz : CodeTyped F Γ env z) (ihw : CodeTyped F Γ env w) :
    CodeTyped F Γ env (.rotLit n x y z w) := by
  intro τ code hp hs ht hg hb σ
  simp only [Expr.parsed, Expr.sound, Bool.and_eq_true] at hp hs
  simp only [typeExpr, Diag.bind_eq_ok, checkComponents_eq_ok] at ht
  obtain ⟨tx, htx, ty, hty, tz, htz, tw, htw, -, hc, hτ⟩ := ht
  obtain ⟨a, rfl, ha⟩ := hc tx (by simp)
  obtain ⟨b, rfl, hb'⟩ := hc ty (by simp)
  obtain ⟨c, rfl, hc'⟩ := hc tz (by simp)
  obtain ⟨d, rfl, hd⟩ := hc tw (by simp)
  obtain rfl : VarType.rotation = τ := by simpa using hτ
  rw [genExpr] at hg
  split at hg
  · obtain ⟨cs, -, rfl⟩ := Option.map_eq_some_iff.mp hg
    exact path_rconst hconv
  · simp only [Option.bind_eq_bind, Option.bind_eq_some_iff, Option.some.injEq] at hg
    obtain ⟨cx, hcx, cy, hcy, cz, hcz, cw, hcw, rfl⟩ := hg
    simp only [List.mem_append, not_or] at hb
    have px := ihx hp.1.1.1 hs.1.1.1 htx hcx (not_mem_doPromotion hb.1.1.1.1)
    have py := ihy hp.1.1.2 hs.1.1.2 hty hcy (not_mem_doPromotion hb.1.1.1.2)
    have pz := ihz hp.1.2 hs.1.2 htz hcz (not_mem_doPromotion hb.1.1.2)
    have pw := ihw hp.2 hs.2 htw hcw (not_mem_doPromotion hb.1.2)
    exact ((((path_component htx ha px σ).append (path_component hty hb' py _)).append
      (path_component htz hc' pz _)).append (path_component htw hd pw _)).append
      (.single (instrTy_op (a := [_, _, _, _]) rfl))

/-- The types of the arguments of a call or the members of a list, each after the promotion to
its parameter's type. -/
def argTypesOf : List VarType → List VarType → List VarType
  | _, [] => []
  | params, t :: ts =>
    promoted t (params.head?.bind fun p => promoteFromTo t p) :: argTypesOf params.tail ts

lemma argTypesOf_nil (ts : List VarType) : argTypesOf [] ts = ts := by
  induction ts with
  | nil => rfl
  | cons t ts ih => simp [argTypesOf, promoted, ih]

lemma argTypesOf_of_canPass {ts params : List VarType}
    (h : List.Forall₂ (fun t p => canPass t p = true) ts params) : argTypesOf params ts = params := by
  induction h with
  | nil => rfl
  | cons htp _ ih => simp [argTypesOf, ih, promoted_of_canPass htp]

variable {e : Expr}

lemma path_promoted (ht : typeExpr env e = .ok (some t))
    (h : ∀ σ, Path (InstrTy F Γ methods) σ code (t.runtime :: σ)) (dest : Option VarType)
    (σ : List VarType) :
    Path (InstrTy F Γ methods) σ (doPromotion (dest.bind fun p => promotion env e p) code)
      ((promoted t (dest.bind fun p => promoteFromTo t p)).runtime :: σ) := by
  cases dest with
  | none => exact h σ
  | some p =>
    rw [Option.bind_some, Option.bind_some, promotion_of_ok ht]
    exact path_doPromotion p h σ

lemma typeExprs_ok_some : ∀ {es : List Expr} {ts : List (Node × Option VarType)},
    typeExprs env es = .ok ts →
      ∃ us : List VarType, ts.map Prod.snd = us.map some ∧ us.length = es.length
  | [], ts, h => by
    simp only [typeExprs, Diag.ok_inj] at h
    exact ⟨[], by simp [← h]⟩
  | e :: es, ts, h => by
    simp only [typeExprs, Diag.bind_eq_ok, Diag.ok_inj] at h
    obtain ⟨r, hr, ts', hts', rfl⟩ := h
    obtain ⟨t, rfl⟩ := typeExpr_ok_some hr
    obtain ⟨us, hus, hlen⟩ := typeExprs_ok_some hts'
    exact ⟨t :: us, by simp [hus], by simp [hlen]⟩

/-- Arguments are pushed one after the other. -/
lemma path_genArgs {es : List Expr} (ih : ∀ e ∈ es, CodeTyped F Γ env e) :
    ∀ {params : List VarType} {ts : List (Node × Option VarType)} {code : Code} {us : List VarType},
      Expr.allParsed es = true → Expr.allSound env es = true → typeExprs env es = .ok ts →
      ts.map Prod.snd = us.map some → genArgs env params es = some code → Asm.blank ∉ code →
        ∀ σ, Path (InstrTy F Γ env.methods) σ code
          (((argTypesOf params us).map VarType.runtime).reverse ++ σ) := by
  induction es with
  | nil =>
    intro params ts code us _ _ ht hus hg _ σ
    simp only [typeExprs, Diag.ok_inj] at ht
    subst ht
    obtain rfl : us = [] := by simpa using hus.symm
    simp only [genArgs, Option.some.injEq] at hg
    subst hg
    exact .nil _
  | cons e es ihs =>
    intro params ts code us hp hs ht hus hg hb σ
    simp only [Expr.allParsed, Expr.allSound, Bool.and_eq_true] at hp hs
    simp only [typeExprs, Diag.bind_eq_ok, Diag.ok_inj] at ht
    obtain ⟨r, hr, ts', hts', rfl⟩ := ht
    obtain ⟨t, rfl⟩ := typeExpr_ok_some hr
    obtain ⟨us, rfl, hus'⟩ : ∃ vs, us = t :: vs ∧ ts'.map Prod.snd = vs.map some := by
      rcases us with - | ⟨u, vs⟩ <;> simp_all
    simp only [genArgs, Option.bind_eq_bind, Option.bind_eq_some_iff, Option.some.injEq] at hg
    obtain ⟨c, hc, cs, hcs, rfl⟩ := hg
    simp only [List.mem_append, not_or] at hb
    have pe := ih e List.mem_cons_self hp.1 hs.1 hr hc (not_mem_doPromotion hb.1)
    have ps := ihs (fun e he => ih e (List.mem_cons_of_mem _ he)) hp.2 hs.2 hts' hus' hcs hb.2
    have := (path_promoted hr pe params.head? σ).append (ps _)
    simpa [argTypesOf] using this

lemma codeTyped_listLit {es : List Expr} (ih : ∀ e ∈ es, CodeTyped F Γ env e) :
    CodeTyped F Γ env (.listLit n es) := by
  intro τ code hp hs ht hg hb σ
  simp only [typeExpr, Diag.bind_eq_ok] at ht
  obtain ⟨ts, hts, -, -, hτ⟩ := ht
  obtain rfl : VarType.list = τ := by simpa using hτ
  obtain ⟨us, hus, hlen⟩ := typeExprs_ok_some hts
  simp only [genExpr, Option.bind_eq_bind, Option.bind_eq_some_iff, Option.some.injEq] at hg
  obtain ⟨cs, hcs, rfl⟩ := hg
  simp only [List.mem_append, not_or] at hb
  have pa := path_genArgs ih (by simpa using hp) (by simpa using hs)
    hts hus hcs hb.1 σ
  rw [argTypesOf_nil] at pa
  refine pa.append (.single ?_)
  have hl : es.length = ((us.map VarType.runtime).reverse).length := by simp [hlen]
  rw [hl]
  exact .act rfl .buildList

lemma codeTyped_call {callee : Expr} {args : List Expr} (ih : ∀ e ∈ args, CodeTyped F Γ env e) :
    CodeTyped F Γ env (.call n callee args) := by
  intro τ code hp hs ht hg hb σ
  cases callee <;> simp only [typeExpr, Diag.mismatch_ne_ok, Diag.bind_eq_ok] at ht
  case id n' =>
    obtain ⟨ts, hts, hm⟩ := ht
    obtain ⟨m, us, hres, hus, hpass, hτ⟩ := methodCall_eq_ok hm
    obtain rfl := Option.some.inj hτ
    have hmeth : env.method n' = some m := by rw [Env.method, hres]; rfl
    simp only [genExpr, hmeth, Option.bind_eq_bind, Option.bind_some, Option.bind_eq_some_iff] at hg
    obtain ⟨cs, hcs, hcode⟩ := hg
    split_ifs at hcode with hvoid
    simp only [callCode, Bool.false_eq_true, if_false, List.append_nil, Option.some.injEq] at hcode
    subst hcode
    simp only [List.mem_append, not_or] at hb
    simp only [Expr.parsed, Expr.sound, Bool.and_eq_true] at hp hs
    have pa := path_genArgs ih hp.2 hs hts hus hcs hb.1 σ
    rw [argTypesOf_of_canPass (List.forall₂_map_right_iff.mpr hpass), List.map_map] at pa
    have pc : InstrTy F Γ env.methods m.callInstr (m.argTypes ++ σ) (m.resultTypes ++ σ) :=
      .call (resolveMethod_mem hres).1
    rw [MethodSym.resultTypes, if_neg hvoid] at pc
    exact pa.append (.single pc)

lemma castCode_opType {a b : VarType} (hc : canCast a b = true) (ho : castCode b = some op) :
    op.opType [a.runtime] = some b.runtime := by
  have key : ∀ a b, (castCode b).all (fun op =>
      !canCast a b || op.opType [a.runtime] == some b.runtime) = true := by decide
  simpa [hc, ho] using key a b

lemma unaryCode_opType {uop : UnaryOp} {a : VarType} (ha : unaryAllowed uop a = true)
    (ho : unaryCode uop (some a) = some op) :
    op.opType [a.runtime] = some a.runtime := by
  have key : ∀ a, (unaryCode uop (some a)).all (fun op =>
      !unaryAllowed uop a || op.opType [a.runtime] == some a.runtime) = true := by
    cases uop <;> decide
  simpa [ha, ho] using key a

lemma codeTyped_typeCast {tn : Node} (ih : CodeTyped F Γ env e) :
    CodeTyped F Γ env (.typeCast n t tn e) := by
  intro τ code hp hs ht hg hb σ
  simp only [Expr.parsed, Expr.sound, Bool.and_eq_true, decide_eq_true_eq] at hp hs
  simp only [typeExpr, Diag.bind_eq_ok] at ht
  obtain ⟨r, hr, hcast⟩ := ht
  obtain ⟨a, rfl⟩ := typeExpr_ok_some hr
  simp only [typeCast, Diag.bind_eq_ok, Diag.require_eq_ok, Diag.ok_inj, Option.some.injEq] at hcast
  obtain ⟨-, hcan, rfl⟩ := hcast
  simp only [genExpr, Option.bind_eq_bind, Option.bind_eq_some_iff, Option.some.injEq,
    atLevel_eq_some] at hg
  obtain ⟨c, ⟨-, hc⟩, op, hop, rfl⟩ := hg
  simp only [List.mem_append, not_or] at hb
  exact (ih hp.2 hs hr hc hb.1 σ).append (.single (instrTy_op (castCode_opType hcan hop)))

lemma codeTyped_unary {uop : UnaryOp} (hconv : TotalConversions F) (ih : CodeTyped F Γ env e) :
    CodeTyped F Γ env (.unary n uop e) := by
  intro τ code hp hs ht hg hb σ
  simp only [Expr.parsed, Expr.sound, Bool.and_eq_true, decide_eq_true_eq] at hp hs
  simp only [typeExpr, Diag.bind_eq_ok, unaryOp_eq_ok] at ht
  obtain ⟨_, hr, a, rfl, ha, hτ⟩ := ht
  obtain rfl := Option.some.inj hτ
  rw [genExpr] at hg
  split at hg
  · rename_i c hneg
    subst hg
    unfold negativeLiteral at hneg
    split at hneg <;> simp only [Option.some.injEq, reduceCtorEq] at hneg
    · subst hneg
      obtain rfl : VarType.integer = a := by simpa [typeExpr] using hr
      exact path_iconst (convertToInt_isSome hp.2).2
    · obtain ⟨text, -, rfl⟩ := Option.map_eq_some_iff.mp hneg
      obtain rfl : VarType.float = a := by simpa [typeExpr] using hr
      exact path_fconst hconv
  · simp only [evalType_of_ok hr, Option.bind_eq_bind, Option.bind_eq_some_iff,
      Option.some.injEq, atLevel_eq_some] at hg
    obtain ⟨c, ⟨-, hc⟩, op, hop, rfl⟩ := hg
    simp only [List.mem_append, not_or] at hb
    exact (ih hp.2 hs hr hc hb.1 σ).append (.single (instrTy_op (unaryCode_opType ha hop)))

lemma codeTyped_binary {op : BinOp} {l r : Expr} (ihl : CodeTyped F Γ env l)
    (ihr : CodeTyped F Γ env r) : CodeTyped F Γ env (.binary n op l r) := by
  intro τ code hp hs ht hg hb σ
  simp only [Expr.parsed, Expr.sound, Bool.and_eq_true, decide_eq_true_eq] at hp hs
  simp only [typeExpr, Diag.bind_eq_ok, binaryOp_eq_ok] at ht
  obtain ⟨_, htl, _, htr, a, b, rfl, rfl, hab, hτ⟩ := ht
  obtain rfl := Option.some.inj hτ
  simp only [genExpr, evalType_of_ok htl, evalType_of_ok htr, Option.bind_eq_bind,
    Option.bind_eq_some_iff, Option.bind_some, Option.some.injEq, atLevel_eq_some] at hg
  obtain ⟨cl, ⟨-, hcl⟩, cr, ⟨-, hcr⟩, rfl⟩ := hg
  cases htmpl : TemplateMapping.binary op a b with
  | none => simp [htmpl, expandBin] at hb
  | some tmpl =>
    have hbl : Asm.blank ∉ cl ∧ Asm.blank ∉ cr := by
      rw [htmpl, expandBin] at hb
      exact not_mem_expand hb
    have pl := ihl hp.1.2 hs.1 htl hcl hbl.1
    have pr := ihr hp.2 hs.2 htr hcr hbl.2
    refine path_expand (binary_resultTy htmpl hab) (fun σ => ?_) fun σ => ?_
    · unfold BinOp.operandTy
      split_ifs
      · exact path_doPromotion b pl σ
      · exact pl σ
    · unfold BinOp.operandTy
      split_ifs
      · exact path_doPromotion a pr σ
      · exact pr σ

/-- The code of an assignment, as a statement or inside an expression: it stores a value of the
target's type, and its annotation is that type. -/
lemma path_genAssign {op : AssignOp} {sub : Option Node} {v : VarSym} {tr : VarType} {expr : Code}
    {pushfinal : Bool} (hΓ : Covers Γ env) (hv : env.resolveVar n = .ok (some v))
    (hvar : v.isConstant = false) (hcomp : ∀ x, sub = some x → x.text ∈ subscriptNames v.type)
    (hallow : assignAllowed op (targetType v sub) tr = true)
    (hsound : compoundSound op (targetType v sub) tr = true)
    (hexpr : Asm.blank ∉ expr → ∀ σ, Path (InstrTy F Γ methods) σ expr (tr.runtime :: σ))
    (hg : genAssign env op n sub (some tr) expr pushfinal = some code) (hb : Asm.blank ∉ code)
    (σ : List VarType) :
    Path (InstrTy F Γ methods) σ code (finalTypes v sub pushfinal ++ σ) ∧
      assignType op (targetType v sub) tr = targetType v sub := by
  simp only [genAssign, symbol_of_ok hv, Option.bind_eq_bind, Option.bind_some,
    Option.bind_eq_some_iff] at hg
  obtain ⟨subindex, hidx, hg⟩ := hg
  have hT : TargetTy Γ v sub subindex := ⟨hΓ v (resolveVar_mem hv) hvar, hidx, hcomp⟩
  split_ifs at hg
  by_cases hop : op = .assign
  · subst hop
    simp only [Option.some.injEq] at hg
    subst hg
    simp only [assignAllowed, if_true] at hallow
    simp only [assignCode, List.mem_append, not_or] at hb
    refine ⟨path_assignCode hT ?_, by simp [assignType]⟩
    have hp := path_doPromotion (targetType v sub) (hexpr (not_mem_doPromotion hb.1.1)) σ
    rwa [promoted_of_canPass hallow] at hp
  · have hcode : code = expandAssign (TemplateMapping.compound op (targetType v sub) tr) v.isGlobal
        v.scopeIndex subindex expr pushfinal := by
      cases op <;> simp_all
    subst hcode
    cases htmpl : TemplateMapping.compound op (targetType v sub) tr with
    | none => simp [htmpl, expandAssign] at hb
    | some tmpl =>
      obtain ⟨hres, hty⟩ := compound_resultType htmpl hsound
      refine ⟨path_xxxa hT hres (hexpr ?_), by simp [assignType, hop, hty]⟩
      rw [htmpl, expandAssign, xxxa] at hb
      simp only [List.mem_append, not_or] at hb
      exact hb.1.1.1.1.2

lemma codeTyped_assign {op : AssignOp} {l r : Expr} (hΓ : Covers Γ env) (ih : CodeTyped F Γ env r) :
    CodeTyped F Γ env (.assign n op l r) := by
  intro τ code hp hs ht hg hb σ
  simp only [Expr.parsed, Expr.sound, Bool.and_eq_true] at hp hs
  simp only [typeExpr, Diag.bind_eq_ok, assignOp_eq_ok] at ht
  obtain ⟨_, htl, _, htr, a, b, rfl, rfl, -, hallow, hτ⟩ := ht
  obtain rfl := Option.some.inj hτ
  simp only [genExpr, evalType_of_ok htr, Option.bind_eq_bind, Option.bind_eq_some_iff] at hg
  obtain ⟨⟨m, sub⟩, hm, expr, hexpr, hg⟩ := hg
  obtain ⟨v, hv, rfl, hcomp⟩ := typeExpr_target htl hm
  have hvar : v.isConstant = false := by
    have := hs.1.1
    simpa [targetOk, hm, symbol_of_ok hv] using this
  have hsound : compoundSound op (targetType v sub) b = true := by
    have := hs.1.2
    simpa [compoundOk, evalType_of_ok htl, evalType_of_ok htr] using this
  obtain ⟨hpath, hty⟩ := path_genAssign hΓ hv hvar hcomp hallow hsound
    (fun he => ih hp.2 hs.2 htr hexpr he) hg hb σ
  rw [hty]
  exact hpath

lemma codeTyped_incDec {op : IncDecOp} (hΓ : Covers Γ env) :
    CodeTyped F Γ env (.incDec n op e) := by
  intro τ code _ hs ht hg _ σ
  simp only [Expr.sound] at hs
  simp only [typeExpr, Diag.bind_eq_ok, incDecOp_eq_ok] at ht
  obtain ⟨_, hr, a, rfl, -, ha, hτ⟩ := ht
  obtain rfl := Option.some.inj hτ
  rw [genExpr, genIncDec.eq_def] at hg
  split at hg
  · obtain ⟨v, hv, htv, -⟩ := typeExpr_target hr rfl
    have hvar : v.isConstant = false := by simpa [targetOk, assignTarget, symbol_of_ok hv] using hs
    have hslot := hΓ v (resolveVar_mem hv) hvar
    simp only [targetType, Option.isSome_none, Bool.false_eq_true, if_false] at htv
    simp only [symbol_of_ok hv, Option.bind_eq_bind, Option.bind_some, ← htv] at hg hslot
    rcases ha with rfl | rfl
    · obtain rfl := Option.some.inj hg
      exact .single (.act (action_incDecCode op false v) (.incDec hslot rfl))
    · obtain rfl := Option.some.inj hg
      exact .single (.act (action_incDecCode op true v) (.incDec hslot rfl))
  · obtain ⟨v, hv, htv, hcomp⟩ := typeExpr_target hr rfl
    have hvar : v.isConstant = false := by simpa [targetOk, assignTarget, symbol_of_ok hv] using hs
    simp only [symbol_of_ok hv, Option.bind_eq_bind, Option.bind_some, Option.bind_eq_some_iff,
      Option.some.injEq] at hg
    obtain ⟨k, hk, rfl⟩ := hg
    subst htv
    exact .single (.act (action_incDecSubCode op v k) (.incDecSub
      (hΓ v (resolveVar_mem hv) hvar) (hasComponent_calcSubIndex (hcomp _ rfl) hk)))
  · cases hg

lemma codeTyped_subscript {sub : Node} (hΓ : Covers Γ env) :
    CodeTyped F Γ env (.subscript n e sub) := by
  intro τ code _ hs ht hg _ σ
  simp only [Expr.sound] at hs
  rw [genExpr, genSubscript.eq_def] at hg
  split at hg
  · obtain ⟨v, hv, htv, hcomp⟩ := typeExpr_target ht rfl
    have hvar : v.isConstant = false := by simpa [targetOk, assignTarget, symbol_of_ok hv] using hs
    simp only [symbol_of_ok hv, Option.bind_eq_bind, Option.bind_some, Option.bind_eq_some_iff,
      Option.some.injEq] at hg
    obtain ⟨k, hk, rfl⟩ := hg
    subst htv
    exact .single (.act (action_loadVar_sub v k) (.loadSub
      (hΓ v (resolveVar_mem hv) hvar) (hasComponent_calcSubIndex (hcomp _ rfl) hk)))
  · cases hg

/-- **The code of an expression is typed.**  On any stack it pushes one value of the type the
expression is annotated with. -/
theorem codeTyped (hconv : TotalConversions F) (hΓ : Covers Γ env) (e : Expr) :
    CodeTyped F Γ env e := by
  induction e using Expr.ind with
  | intLit n =>
    intro τ code hp _ ht hg _ σ
    obtain rfl : VarType.integer = τ := by simpa [typeExpr] using ht
    obtain rfl := Option.some.inj (by simpa only [genExpr] using hg)
    exact path_iconst (convertToInt_isSome hp).1
  | floatLit n =>
    intro τ code _ _ ht hg _ σ
    obtain rfl : VarType.float = τ := by simpa [typeExpr] using ht
    obtain ⟨text, -, rfl⟩ := Option.map_eq_some_iff.mp (by simpa only [genExpr] using hg)
    exact path_fconst hconv
  | stringLit n =>
    intro τ code _ _ ht hg _ σ
    obtain rfl : VarType.string = τ := by simpa [typeExpr] using ht
    obtain rfl := Option.some.inj (by simpa only [genExpr] using hg)
    exact path_sconst
  | id n => exact codeTyped_id hconv hΓ n
  | vecLit n x y z ihx ihy ihz => exact codeTyped_vecLit hconv ihx ihy ihz
  | rotLit n x y z w ihx ihy ihz ihw => exact codeTyped_rotLit hconv ihx ihy ihz ihw
  | listLit n es ih => exact codeTyped_listLit ih
  | typeCast n t tn e ih => exact codeTyped_typeCast ih
  | binary n op l r ihl ihr => exact codeTyped_binary ihl ihr
  | assign n op l r _ ih => exact codeTyped_assign hΓ ih
  | unary n op e ih => exact codeTyped_unary hconv ih
  | incDec n op e _ => exact codeTyped_incDec hΓ
  | subscript n e sub _ => exact codeTyped_subscript hΓ
  | call n callee args _ ih => exact codeTyped_call ih
  | paren n e ih =>
    intro τ code hp hs ht hg hb σ
    simp only [Expr.parsed, Expr.sound, typeExpr, genExpr] at hp hs ht hg
    exact ih hp hs ht hg hb σ

end Soundness

end Halcyon.Joke
