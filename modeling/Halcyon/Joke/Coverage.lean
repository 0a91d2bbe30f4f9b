import Halcyon.Joke.ExprTyping
import Halcyon.Joke.Routine

/-!
# What the generator covers

The rules of the generator restate the grammar of expressions, with operands and templates of
their own, and so cover less than the passes in front accept.  `Expr.generable` and
`Stmt.generable` collect what they do not cover, each at the node where it happens: a comparison
whose left operand is a comparison of the same kind, an operator without a template for the types
of its operands, an increment of a variable in parentheses, a call that is not by name, a call
without a result that is used as a value, a float literal that is out of range, and a subscript
that does not exist in an assignment that is a statement.

For a script that parses and is accepted the generator produces code for every part of it exactly
when nothing of that occurs.
-/

namespace Halcyon.Joke

open Halcyon.Lib Env

/-! ## Code without gaps -/

/-- Code was generated, and no template was missing. -/
def Complete (code : Option Code) : Prop := ∃ c, code = some c ∧ Asm.blank ∉ c

lemma complete_some {c : Code} : Complete (some c) ↔ Asm.blank ∉ c := by
  simp [Complete]

lemma not_complete_none : ¬ Complete none := by
  simp [Complete]

lemma complete_bind {α : Type} {o : Option α} {f : α → Option Code} :
    Complete (o.bind f) ↔ ∃ a, o = some a ∧ Complete (f a) := by
  cases o <;> simp [Complete]

/-- Wrapping code in lines that are not blank. -/
lemma complete_map {o : Option Code} {f : Code → Code}
    (hf : ∀ c, Asm.blank ∈ f c ↔ Asm.blank ∈ c) : Complete (o.map f) ↔ Complete o := by
  cases o <;> simp [Complete, hf]

lemma complete_bind_some {o : Option Code} {f : Code → Code}
    (hf : ∀ c, Asm.blank ∈ f c ↔ Asm.blank ∈ c) :
    Complete (o.bind fun c => some (f c)) ↔ Complete o := by
  cases o <;> simp [Complete, hf]

variable {op : OpCode}

@[simp] lemma blank_mem_op : Asm.blank ∈ [Asm.op op] ↔ False := by
  simp [Asm.op]

@[simp] lemma blank_ne_op : Asm.blank ≠ Asm.op op := by
  simp [Asm.op]

@[simp] lemma blank_mem_doPromotion {t : Option VarType} {c : Code} :
    Asm.blank ∈ doPromotion t c ↔ Asm.blank ∈ c := by
  unfold doPromotion
  split_ifs <;> simp

lemma blank_mem_expand {t : BinTemplate} {l r : Code} :
    Asm.blank ∈ t.expand l r ↔ Asm.blank ∈ l ∨ Asm.blank ∈ r := by
  unfold BinTemplate.expand
  split <;> simp [or_comm]

variable {g : Bool} {i : Int}

@[simp] lemma blank_ne_loadVar {sub : Option Int} :
    Asm.blank ≠ loadVar g i sub := by
  cases sub <;> simp [loadVar, onVar, onSub]

@[simp] lemma blank_ne_storeVar {sub : Option Int} :
    Asm.blank ≠ storeVar g i sub := by
  cases sub <;> simp [storeVar, onVar, onSub]

@[simp] lemma blank_ne_incDecCode {op : IncDecOp} {f : Bool} :
    Asm.blank ≠ incDecCode op f g i := by
  cases op <;> cases f <;> simp [incDecCode, onVar]

@[simp] lemma blank_ne_incDecSubCode {op : IncDecOp} {k : Int} :
    Asm.blank ≠ incDecSubCode op g i k := by
  cases op <;> simp [incDecSubCode, onSub]

@[simp] lemma blank_ne_jumpTo {l : String} : Asm.blank ≠ jumpTo op l := by
  simp [jumpTo]

lemma blank_mem_callCode {m : MethodSym} {exprs : Code} {p : Bool} :
    Asm.blank ∈ callCode m exprs p ↔ Asm.blank ∈ exprs := by
  cases p <;> simp [callCode]

/-! ## Expressions the generator covers -/

/-- The left operand is not a comparison of the same kind as the operator, which is one. -/
def BinOp.unchained (op : BinOp) (l : Expr) : Bool :=
  match op with
  | .eq | .neq | .lt | .gt | .lte | .gte => l.level != op.level
  | _ => true

/-- The operator has a template for operands of these types. -/
def BinOp.hasTemplate (op : BinOp) (tl tr : Option VarType) : Bool :=
  tl.any fun tl => tr.any fun tr => (TemplateMapping.binary op tl tr).isSome

/-- A compound assignment has a template for these types. -/
def AssignOp.hasTemplate (op : AssignOp) (tl tr : Option VarType) : Bool :=
  op == .assign || tl.any fun tl => tr.any fun tr => (TemplateMapping.compound op tl tr).isSome

/-- The expression is an identifier, without parentheses. -/
def Expr.isIdentifier : Expr → Bool
  | .id _ => true
  | _ => false

/-- The expression is an identifier or a subscript of one, without parentheses. -/
def Expr.isVariable : Expr → Bool
  | .id _ | .subscript _ (.id _) _ => true
  | _ => false

mutual

/-- Every node of the expression has a rule and a template. -/
def Expr.generable (env : Env) : Expr → Bool
  | .intLit _ | .stringLit _ | .id _ => true
  | .floatLit n => (env.formatFloat n.text).isSome
  | .vecLit _ x y z => x.generable env && y.generable env && z.generable env
  | .rotLit _ x y z w =>
    x.generable env && y.generable env && z.generable env && w.generable env
  | .listLit _ es => Expr.allGenerable env es
  | .typeCast _ _ _ e | .unary _ _ e | .paren _ e => e.generable env
  | .binary _ op l r => op.unchained l && op.hasTemplate (evalType env l) (evalType env r) &&
    l.generable env && r.generable env
  | .assign _ op l r => (assignTarget l).isSome &&
    op.hasTemplate (evalType env l) (evalType env r) && r.generable env
  | .incDec _ _ e => e.isVariable
  | .subscript _ e _ => e.isIdentifier
  | .call _ (.id n) args =>
    (env.method n).any (fun m => m.type != .void) && Expr.allGenerable env args
  | .call _ _ _ => false

/-- Every expression of a list is covered. -/
def Expr.allGenerable (env : Env) : List Expr → Bool
  | [] => true
  | e :: es => e.generable env && Expr.allGenerable env es

end

-- generated here once, the equations serve all the lemmas below
attribute [local simp] Expr.generable

/-- The operators that are accepted without a template: comparisons of order between vectors,
rotations, lists and keys. -/
lemma binary_eq_none {op : BinOp} {tl tr : VarType} (h : binaryAllowed op tl tr = true)
    (hvoid : tl ≠ .void) : TemplateMapping.binary op tl tr = none ↔
      op.level = 8 ∧ (tl = .vector ∨ tl = .rotation ∨ tl = .list ∨ tl = .key) := by
  revert tl tr
  cases op <;> decide

/-- The compound assignments that are accepted without a template. -/
lemma compound_eq_none {op : AssignOp} {tl tr : VarType} (hop : op ≠ .assign)
    (h : assignAllowed op tl tr = true) : TemplateMapping.compound op tl tr = none ↔
      (tl = .integer ∧ tr = .float) ∨ (op = .add ∧ tl ≠ .list ∧ tr = .list) ∨
        (op = .mul ∧ tl ≠ .vector ∧ tr = .vector) := by
  revert tl tr
  cases op <;> first | exact absurd rfl hop | decide

/-! ## The code of an expression -/

/-- The constants in scope have types that literals exist for. -/
def ConstantsHaveTemplates (env : Env) : Prop :=
  ∀ v ∈ env.allVars, v.isConstant = true → v.type ≠ .list ∧ v.type ≠ .void

section Expressions

variable {env : Env} {e l r : Expr} {τ : VarType}

variable {op : BinOp}

lemma operandLevel_left (h : l.level ≤ op.level) :
    l.level ≤ op.operandLevel ↔ op.unchained l = true := by
  cases op <;> simp only [BinOp.level, BinOp.operandLevel, BinOp.unchained, bne_iff_ne] at h ⊢ <;>
    first | omega | simp [h]

lemma operandLevel_right (h : r.level < op.level) : r.level ≤ op.operandLevel := by
  cases op <;> simp only [BinOp.level, BinOp.operandLevel] at h ⊢ <;> omega

lemma complete_atLevel {k : Nat} {code : Option Code} (h : e.level ≤ k) :
    atLevel k e code = code := if_pos h

lemma complete_expandBin {t : Option BinTemplate} {c d : Code} :
    Asm.blank ∉ expandBin t c d ↔ t.isSome = true ∧ Asm.blank ∉ c ∧ Asm.blank ∉ d := by
  cases t with
  | none => simp [expandBin]
  | some t => simp [expandBin, blank_mem_expand]

lemma complete_loadSymbol {v : VarSym}
    (h : v.isConstant = true → v.type ≠ .list ∧ v.type ≠ .void) : Complete (loadSymbol v) := by
  unfold loadSymbol
  split
  · simp [Complete]
  · rename_i value hconst
    have hv := h (by simp [VarSym.isConstant, hconst])
    split <;> first
      | exact complete_some.mpr (by simp)
      | exact absurd ‹_› hv.1
      | exact absurd ‹_› hv.2

variable {n : Node}

/-- An assignment is covered if its template exists and its right side is covered. -/
lemma complete_genAssign {op : AssignOp} {sub : Option Node} {v : VarSym} {tr : VarType}
    {expr : Code} {pushfinal : Bool} (hv : env.symbol n = some v)
    (hsub : (targetIndex sub).isSome = true) (honsub : sub.isSome = true → op.onSubscripts = true) :
    Complete (genAssign env op n sub (some tr) expr pushfinal) ↔
      op.hasTemplate (some (targetType v sub)) (some tr) = true ∧ Asm.blank ∉ expr := by
  obtain ⟨k, hk⟩ := Option.isSome_iff_exists.mp hsub
  have hon : (sub.isSome && !op.onSubscripts) = false := by
    cases hs : sub.isSome
    · rfl
    · simp [honsub hs]
  simp only [genAssign, hv, hk, hon, Option.bind_eq_bind, Option.bind_some, Bool.false_eq_true,
    if_false]
  cases op with
  | assign =>
    rw [complete_some]
    cases pushfinal <;> simp [assignCode, AssignOp.hasTemplate]
  | _ =>
    rw [complete_some]
    simp only [AssignOp.hasTemplate, Option.any_some]
    cases TemplateMapping.compound _ (targetType v sub) tr with
    | none => simp [expandAssign]
    | some t =>
      cases hc : t.cast <;> cases pushfinal <;> simp [expandAssign, xxxa, hc]

/-- The left side of an accepted assignment has a rule. -/
lemma assignTarget_isSome (h : isAssignable l = true) (ht : typeExpr env l = .ok (some τ)) :
    ∃ n sub, assignTarget l = some (n, sub) := by
  cases l with
  | id n => exact ⟨n, none, rfl⟩
  | paren n e =>
    cases e with
    | id m => exact ⟨m, none, rfl⟩
    | _ => cases h
  | subscript n e sub =>
    rw [typeExpr, Diag.bind_eq_ok] at ht
    obtain ⟨o, -, hs⟩ := ht
    obtain ⟨m, b, rfl, -⟩ := subScript_eq_ok.mp hs
    exact ⟨m, some sub, rfl⟩
  | _ => cases h

lemma calcSubIndex_isSome_iff {sub : String} :
    (calcSubIndex sub).isSome = true ↔ ["x", "y", "z", "s"].contains sub = true := by
  unfold calcSubIndex
  split <;> simp_all

variable {t : VarType}

lemma calcSubIndex_isSome {sub : String} (h : sub ∈ subscriptNames t) :
    (calcSubIndex sub).isSome = true := by
  rw [calcSubIndex_isSome_iff, List.contains_iff_mem]
  cases t <;> simp only [subscriptNames, List.mem_cons, List.not_mem_nil, or_false] at h ⊢ <;>
    tauto

/-- No compound assignment is accepted on a subscript that has no rule for it. -/
lemma onSubscripts_of_allowed {op : AssignOp} (h : assignAllowed op .float t = true) :
    op.onSubscripts = true := by
  revert t
  cases op <;> decide

variable {es : List Expr}

variable (env) in
/-- The components of a literal that is a constant are float literals. -/
lemma constComponents_eq_some {texts : List String} (h : constComponents es = some texts) :
    (texts.mapM env.formatFloat).isSome = true ↔ ∀ e ∈ es, e.generable env = true := by
  induction es generalizing texts with
  | nil =>
    obtain rfl : texts = [] := by simpa [constComponents, eq_comm] using h
    simp
  | cons e es ih =>
    simp only [constComponents, List.mapM_cons, Option.bind_eq_bind, Option.bind_eq_some_iff,
      Option.pure_def, Option.some.injEq] at h
    obtain ⟨text, he, texts, hes, rfl⟩ := h
    have hgen : e.generable env = (env.formatFloat text).isSome := by
      cases e <;> cases he
      rw [Expr.generable]
    rw [List.forall_mem_cons, hgen, ← ih hes, List.mapM_cons]
    cases env.formatFloat text with
    | none => simp
    | some c =>
      cases texts.mapM env.formatFloat <;> simp

/-- The arguments of a call, or the members of a list. -/
lemma complete_genArgs {ts : List (Node × Option VarType)}
    (ih : ∀ e ∈ es, ∀ {τ}, e.parsed = true → typeExpr env e = .ok (some τ) →
      (Complete (genExpr env e) ↔ e.generable env = true))
    (hp : Expr.allParsed es = true) (ht : typeExprs env es = .ok ts) (params : List VarType) :
    Complete (genArgs env params es) ↔ Expr.allGenerable env es = true := by
  induction es generalizing ts params with
  | nil =>
    rw [genArgs, Expr.allGenerable, complete_some]
    simp
  | cons e es ihs =>
    simp only [typeExprs, Diag.bind_eq_ok] at ht
    obtain ⟨t, hte, ts', hts, -⟩ := ht
    obtain ⟨τ, rfl⟩ := typeExpr_ok_some hte
    rw [Expr.allParsed, Bool.and_eq_true] at hp
    have he := ih e List.mem_cons_self hp.1 hte
    have hes := ihs (fun e he => ih e (List.mem_cons_of_mem _ he)) hp.2 hts params.tail
    rw [genArgs, Expr.allGenerable, Bool.and_eq_true, ← he, ← hes]
    simp only [Complete, Option.bind_eq_bind, Option.bind_eq_some_iff, Option.some.injEq]
    constructor
    · rintro ⟨c, ⟨ce, hce, cs, hcs, rfl⟩, hblank⟩
      simp only [List.mem_append, blank_mem_doPromotion, not_or] at hblank
      exact ⟨⟨ce, hce, hblank.1⟩, ⟨cs, hcs, hblank.2⟩⟩
    · rintro ⟨⟨ce, hce, hb⟩, ⟨cs, hcs, hb'⟩⟩
      exact ⟨_, ⟨ce, hce, cs, hcs, rfl⟩, by simp [hb, hb']⟩

lemma complete_vecLit {x y z : Expr} (hx : Complete (genExpr env x) ↔ x.generable env = true)
    (hy : Complete (genExpr env y) ↔ y.generable env = true)
    (hz : Complete (genExpr env z) ↔ z.generable env = true) :
    Complete (genExpr env (.vecLit n x y z)) ↔ (Expr.vecLit n x y z).generable env = true := by
  rw [genExpr, Expr.generable, Bool.and_eq_true, Bool.and_eq_true]
  split
  · rename_i texts htexts
    have hc := constComponents_eq_some env htexts
    simp only [List.forall_mem_cons, List.not_mem_nil, false_imp_iff, implies_true,
      and_true] at hc
    rw [and_assoc, ← hc]
    cases texts.mapM env.formatFloat <;> simp [Complete]
  · rw [← hx, ← hy, ← hz]
    simp only [Complete, Option.bind_eq_bind, Option.bind_eq_some_iff, Option.some.injEq]
    constructor
    · rintro ⟨c, ⟨cx, hcx, cy, hcy, cz, hcz, rfl⟩, hb⟩
      simp only [List.mem_append, blank_mem_doPromotion, not_or] at hb
      exact ⟨⟨⟨cx, hcx, hb.1.1.1⟩, cy, hcy, hb.1.1.2⟩, cz, hcz, hb.1.2⟩
    · rintro ⟨⟨⟨cx, hcx, hbx⟩, cy, hcy, hby⟩, cz, hcz, hbz⟩
      exact ⟨_, ⟨cx, hcx, cy, hcy, cz, hcz, rfl⟩, by simp [hbx, hby, hbz]⟩

lemma complete_rotLit {x y z w : Expr} (hx : Complete (genExpr env x) ↔ x.generable env = true)
    (hy : Complete (genExpr env y) ↔ y.generable env = true)
    (hz : Complete (genExpr env z) ↔ z.generable env = true)
    (hw : Complete (genExpr env w) ↔ w.generable env = true) :
    Complete (genExpr env (.rotLit n x y z w)) ↔
      (Expr.rotLit n x y z w).generable env = true := by
  rw [genExpr, Expr.generable, Bool.and_eq_true, Bool.and_eq_true, Bool.and_eq_true]
  split
  · rename_i texts htexts
    have hc := constComponents_eq_some env htexts
    simp only [List.forall_mem_cons, List.not_mem_nil, false_imp_iff, implies_true,
      and_true] at hc
    rw [and_assoc, and_assoc, ← hc]
    cases texts.mapM env.formatFloat <;> simp [Complete]
  · rw [← hx, ← hy, ← hz, ← hw]
    simp only [Complete, Option.bind_eq_bind, Option.bind_eq_some_iff, Option.some.injEq]
    constructor
    · rintro ⟨c, ⟨cx, hcx, cy, hcy, cz, hcz, cw, hcw, rfl⟩, hb⟩
      simp only [List.mem_append, blank_mem_doPromotion, not_or] at hb
      exact ⟨⟨⟨⟨cx, hcx, hb.1.1.1.1⟩, cy, hcy, hb.1.1.1.2⟩, cz, hcz, hb.1.1.2⟩, cw, hcw, hb.1.2⟩
    · rintro ⟨⟨⟨⟨cx, hcx, hbx⟩, cy, hcy, hby⟩, cz, hcz, hbz⟩, cw, hcw, hbw⟩
      exact ⟨_, ⟨cx, hcx, cy, hcy, cz, hcz, cw, hcw, rfl⟩, by simp [hbx, hby, hbz, hbw]⟩

lemma complete_binary {tl tr : VarType} (hpl : l.level ≤ op.level) (hpr : r.level < op.level)
    (htl : evalType env l = some tl) (htr : evalType env r = some tr)
    (hl : Complete (genExpr env l) ↔ l.generable env = true)
    (hr : Complete (genExpr env r) ↔ r.generable env = true) :
    Complete (genExpr env (.binary n op l r)) ↔ (Expr.binary n op l r).generable env = true := by
  have hdest : ∀ (b : Bool) (t : Option VarType) (c : Code),
      Asm.blank ∈ (if b then doPromotion t c else c) ↔ Asm.blank ∈ c := by
    intro b t c
    split_ifs <;> simp
  simp only [genExpr, Expr.generable, Bool.and_eq_true, complete_atLevel (operandLevel_right hpr),
    BinOp.hasTemplate, htl, htr, Option.any_some, ← hl, ← hr]
  by_cases hchain : op.unchained l = true
  · simp only [complete_atLevel ((operandLevel_left hpl).mpr hchain), hchain, true_and, Complete,
      Option.bind_eq_bind, Option.bind_eq_some_iff, Option.some.injEq, exists_eq_left']
    constructor
    · rintro ⟨c, ⟨cl, hcl, cr, hcr, rfl⟩, hb⟩
      rw [complete_expandBin, hdest, hdest] at hb
      exact ⟨⟨hb.1, cl, hcl, hb.2.1⟩, cr, hcr, hb.2.2⟩
    · rintro ⟨⟨ht, cl, hcl, hbl⟩, cr, hcr, hbr⟩
      refine ⟨_, ⟨cl, hcl, cr, hcr, rfl⟩, ?_⟩
      rw [complete_expandBin, hdest, hdest]
      exact ⟨ht, hbl, hbr⟩
  · have hnone : atLevel op.operandLevel l (genExpr env l) = none :=
      if_neg (mt (operandLevel_left hpl).mp hchain)
    simp [hnone, hchain, not_complete_none]

lemma complete_incDec {op : IncDecOp} (ht : typeExpr env e = .ok (some t))
    (ha : isAssignable e = true) (hnum : t = .integer ∨ t = .float) :
    Complete (genExpr env (.incDec n op e)) ↔ (Expr.incDec n op e).generable env = true := by
  rw [genExpr]
  cases e with
  | id m =>
    obtain ⟨v, hv, hr⟩ := typeExpr_id ht
    obtain rfl := Option.some.inj hr
    rw [Expr.generable, genIncDec, symbol_of_ok hv]
    rcases hnum with hnum | hnum <;> simp [hnum, Complete, Expr.isVariable]
  | subscript m e sub =>
    rw [typeExpr, Diag.bind_eq_ok] at ht
    obtain ⟨o, ho, hs⟩ := ht
    obtain ⟨k, b, rfl, rfl, hmem, -⟩ := subScript_eq_ok.mp hs
    obtain ⟨v, hv, hr⟩ := typeExpr_id ho
    obtain ⟨i, hi⟩ := Option.isSome_iff_exists.mp (calcSubIndex_isSome hmem)
    rw [Expr.generable, genIncDec, symbol_of_ok hv]
    simp [hi, Complete, Expr.isVariable]
  | paren m e =>
    rw [Expr.generable, genIncDec]
    · simp [not_complete_none, Expr.isVariable]
    · simp
    · simp
  | _ => cases ha

lemma complete_subscript {sub : Node} {t : Option VarType}
    (ht : typeExpr env (.subscript n e sub) = .ok t) :
    Complete (genExpr env (.subscript n e sub)) ↔
      (Expr.subscript n e sub).generable env = true := by
  rw [typeExpr, Diag.bind_eq_ok] at ht
  obtain ⟨o, ho, hs⟩ := ht
  obtain ⟨k, b, rfl, rfl, hmem, -⟩ := subScript_eq_ok.mp hs
  obtain ⟨v, hv, hr⟩ := typeExpr_id ho
  obtain ⟨i, hi⟩ := Option.isSome_iff_exists.mp (calcSubIndex_isSome hmem)
  rw [genExpr, genSubscript, symbol_of_ok hv, Expr.generable]
  simp [hi, Complete, Expr.isIdentifier]

lemma complete_unary {op : UnaryOp} (hlevel : e.level ≤ 4) (ht : evalType env e = some t)
    (ha : unaryAllowed op t = true) (he : Complete (genExpr env e) ↔ e.generable env = true) :
    Complete (genExpr env (.unary n op e)) ↔ (Expr.unary n op e).generable env = true := by
  obtain ⟨o, ho⟩ : ∃ o, unaryCode op (evalType env e) = some o := by
    rw [ht]
    clear ht
    refine Option.isSome_iff_exists.mp ?_
    revert t
    cases op <;> decide
  rw [genExpr, Expr.generable]
  split
  · rename_i code hneg
    unfold negativeLiteral at hneg
    split at hneg
    · obtain rfl := Option.some.inj hneg
      rw [Expr.generable]
      simp [Complete]
    · obtain rfl := Option.some.inj hneg
      rw [Expr.generable]
      rename_i m
      cases env.formatFloat m.text <;> simp [Complete]
    · cases hneg
  · rw [← he, complete_atLevel hlevel, ho]
    simp only [Option.bind_eq_bind, Option.bind_some]
    exact complete_bind_some fun c => by simp

/-- A call by name whose function is known. -/
lemma complete_call {m : Node} {args : List Expr} {f : MethodSym}
    (hm : env.resolveMethod m.text = some (some f))
    (hargs : ∀ params, Complete (genArgs env params args) ↔ Expr.allGenerable env args = true) :
    Complete (genExpr env (.call n (.id m) args)) ↔
      (Expr.call n (.id m) args).generable env = true := by
  have hmethod : env.method m = some f := by rw [Env.method, hm, Option.join_some]
  rw [genExpr, Expr.generable, hmethod]
  simp only [Option.bind_eq_bind, Option.bind_some, Option.any_some, Bool.and_eq_true, bne_iff_ne,
    ← hargs (f.params.map Prod.snd)]
  by_cases hvoid : f.type = .void
  · simp only [hvoid, if_true, ne_eq, not_true_eq_false, false_and, iff_false, complete_bind]
    rintro ⟨c, -, h⟩
    exact not_complete_none h
  · simp only [hvoid, if_false, ne_eq, not_false_eq_true, true_and]
    exact complete_bind_some fun c => blank_mem_callCode

/-- The generator covers an accepted expression exactly when every node of it has a rule and a
template. -/
theorem complete_genExpr_iff (hconst : ConstantsHaveTemplates env) :
    ∀ {τ : VarType}, e.parsed = true → typeExpr env e = .ok (some τ) →
      (Complete (genExpr env e) ↔ e.generable env = true) := by
  induction e using Expr.ind with
  | intLit n | stringLit n =>
    intro τ _ _
    rw [genExpr, Expr.generable, complete_some]
    simp
  | floatLit n =>
    intro τ _ _
    rw [genExpr, Expr.generable]
    cases env.formatFloat n.text <;> simp [Complete]
  | id n =>
    intro τ _ ht
    obtain ⟨v, hv, -⟩ := typeExpr_id ht
    rw [genExpr, Expr.generable, symbol_of_ok hv, Option.bind_some]
    simp [complete_loadSymbol (hconst v (resolveVar_mem hv))]
  | vecLit n x y z ihx ihy ihz =>
    intro τ hp ht
    simp only [Expr.parsed, Bool.and_eq_true] at hp
    simp only [typeExpr, Diag.bind_eq_ok] at ht
    obtain ⟨tx, htx, ty, hty, tz, htz, -⟩ := ht
    obtain ⟨_, rfl⟩ := typeExpr_ok_some htx
    obtain ⟨_, rfl⟩ := typeExpr_ok_some hty
    obtain ⟨_, rfl⟩ := typeExpr_ok_some htz
    exact complete_vecLit (ihx hp.1.1 htx) (ihy hp.1.2 hty) (ihz hp.2 htz)
  | rotLit n x y z w ihx ihy ihz ihw =>
    intro τ hp ht
    simp only [Expr.parsed, Bool.and_eq_true] at hp
    simp only [typeExpr, Diag.bind_eq_ok] at ht
    obtain ⟨tx, htx, ty, hty, tz, htz, tw, htw, -⟩ := ht
    obtain ⟨_, rfl⟩ := typeExpr_ok_some htx
    obtain ⟨_, rfl⟩ := typeExpr_ok_some hty
    obtain ⟨_, rfl⟩ := typeExpr_ok_some htz
    obtain ⟨_, rfl⟩ := typeExpr_ok_some htw
    exact complete_rotLit (ihx hp.1.1.1 htx) (ihy hp.1.1.2 hty) (ihz hp.1.2 htz) (ihw hp.2 htw)
  | listLit n es ih =>
    intro τ hp ht
    simp only [typeExpr, Diag.bind_eq_ok] at ht
    obtain ⟨ts, hts, -⟩ := ht
    rw [Expr.parsed] at hp
    rw [genExpr, Expr.generable, ← complete_genArgs ih hp hts []]
    exact complete_bind_some fun c => by simp
  | typeCast n t tn e ih =>
    intro τ hp ht
    simp only [Expr.parsed, Bool.and_eq_true, decide_eq_true_eq] at hp
    simp only [typeExpr, Diag.bind_eq_ok] at ht
    obtain ⟨te, hte, hcast⟩ := ht
    obtain ⟨a, rfl⟩ := typeExpr_ok_some hte
    simp only [typeCast, Diag.bind_eq_ok, Diag.require_eq_ok] at hcast
    obtain ⟨-, hcan, -⟩ := hcast
    obtain ⟨o, ho⟩ : ∃ o, castCode t = some o := by
      refine Option.isSome_iff_exists.mp ?_
      clear hte ih hp
      revert t a
      decide
    rw [genExpr, Expr.generable, complete_atLevel hp.1, ho, ← ih hp.2 hte]
    simp only [Option.bind_eq_bind, Option.bind_some]
    exact complete_bind_some fun c => by simp
  | binary n op l r ihl ihr =>
    intro τ hp ht
    simp only [Expr.parsed, Bool.and_eq_true, decide_eq_true_eq] at hp
    simp only [typeExpr, Diag.bind_eq_ok] at ht
    obtain ⟨tl, htl, tr, htr, -⟩ := ht
    obtain ⟨_, rfl⟩ := typeExpr_ok_some htl
    obtain ⟨_, rfl⟩ := typeExpr_ok_some htr
    exact complete_binary hp.1.1.1 hp.1.1.2 (evalType_of_ok htl) (evalType_of_ok htr)
      (ihl hp.1.2 htl) (ihr hp.2 htr)
  | assign n op l r _ ih =>
    intro τ hp ht
    simp only [Expr.parsed, Bool.and_eq_true, decide_eq_true_eq] at hp
    simp only [typeExpr, Diag.bind_eq_ok] at ht
    obtain ⟨tl, htl, tr, htr, hassign⟩ := ht
    obtain ⟨a, b, rfl, rfl, hlhs, hallowed, -⟩ := assignOp_eq_ok.mp hassign
    obtain ⟨m, sub, htarget⟩ := assignTarget_isSome hlhs htl
    obtain ⟨v, hv, rfl, hsub⟩ := typeExpr_target htl htarget
    have hindex : (targetIndex sub).isSome = true := by
      cases sub with
      | none => rfl
      | some x => simpa [targetIndex] using calcSubIndex_isSome (hsub x rfl)
    have honsub : sub.isSome = true → op.onSubscripts = true := by
      intro hs
      rw [targetType, if_pos hs] at hallowed
      exact onSubscripts_of_allowed hallowed
    rw [genExpr, Expr.generable, htarget, evalType_of_ok htl, evalType_of_ok htr,
      Option.isSome_some, Bool.true_and, Bool.and_eq_true, ← ih hp.2 htr]
    simp only [Option.bind_eq_bind, Option.bind_some, complete_bind,
      complete_genAssign (symbol_of_ok hv) hindex honsub]
    simp only [Complete]
    tauto
  | unary n op e ih =>
    intro τ hp ht
    simp only [Expr.parsed, Bool.and_eq_true, decide_eq_true_eq] at hp
    simp only [typeExpr, Diag.bind_eq_ok] at ht
    obtain ⟨te, hte, hop⟩ := ht
    obtain ⟨a, rfl, ha, -⟩ := unaryOp_eq_ok.mp hop
    exact complete_unary hp.1 (evalType_of_ok hte) ha (ih hp.2 hte)
  | incDec n op e =>
    intro τ _ ht
    simp only [typeExpr, Diag.bind_eq_ok] at ht
    obtain ⟨te, hte, hop⟩ := ht
    obtain ⟨b, rfl, ha, hnum, -⟩ := incDecOp_eq_ok.mp hop
    exact complete_incDec hte ha hnum
  | subscript n e sub =>
    exact fun _ ht => complete_subscript ht
  | call n callee args _ ih =>
    intro τ hp ht
    cases callee <;> simp only [typeExpr, Diag.mismatch_ne_ok, Diag.bind_eq_ok] at ht
    obtain ⟨ts, hts, hcall⟩ := ht
    obtain ⟨m, _, hm, -, -, -⟩ := methodCall_eq_ok hcall
    simp only [Expr.parsed, Bool.and_eq_true] at hp
    exact complete_call hm fun params => complete_genArgs ih hp.2 hts params
  | paren n e ih =>
    intro τ hp ht
    rw [typeExpr] at ht
    rw [Expr.parsed] at hp
    rw [genExpr, Expr.generable]
    exact ih hp ht

lemma allCallsNamed_of_allGenerable (ih : ∀ e ∈ es, e.generable env = true → e.callsNamed = true)
    (h : Expr.allGenerable env es = true) : Expr.allCallsNamed es = true := by
  induction es with
  | nil => rfl
  | cons e es ihs =>
    rw [Expr.allGenerable, Bool.and_eq_true] at h
    rw [Expr.allCallsNamed, ih e List.mem_cons_self h.1,
      ihs (fun e he => ih e (List.mem_cons_of_mem _ he)) h.2, Bool.and_self]

/-- Calls that are not by name are not covered. -/
lemma callsNamed_of_generable : e.generable env = true → e.callsNamed = true := by
  induction e using Expr.ind with
  | intLit | floatLit | stringLit | id => exact fun _ => rfl
  | vecLit n x y z ihx ihy ihz =>
    simp only [Expr.generable, Expr.callsNamed, Bool.and_eq_true]
    exact fun h => ⟨⟨ihx h.1.1, ihy h.1.2⟩, ihz h.2⟩
  | rotLit n x y z w ihx ihy ihz ihw =>
    simp only [Expr.generable, Expr.callsNamed, Bool.and_eq_true]
    exact fun h => ⟨⟨⟨ihx h.1.1.1, ihy h.1.1.2⟩, ihz h.1.2⟩, ihw h.2⟩
  | listLit n es ih =>
    rw [Expr.generable, Expr.callsNamed]
    exact allCallsNamed_of_allGenerable ih
  | typeCast n t tn e ih | unary n op e ih | paren n e ih =>
    rw [Expr.generable, Expr.callsNamed]
    exact ih
  | binary n op l r ihl ihr =>
    simp only [Expr.generable, Expr.callsNamed, Bool.and_eq_true]
    exact fun h => ⟨ihl h.1.2, ihr h.2⟩
  | assign n op l r _ ih =>
    simp only [Expr.generable, Expr.callsNamed, Bool.and_eq_true]
    rintro ⟨⟨hl, -⟩, hr⟩
    obtain ⟨target, ht⟩ := Option.isSome_iff_exists.mp hl
    exact ⟨callsNamed_of_assignTarget ht, ih hr⟩
  | incDec n op e =>
    rw [Expr.generable, Expr.callsNamed, Expr.isVariable.eq_def]
    split <;> simp [Expr.callsNamed]
  | subscript n e sub =>
    rw [Expr.generable, Expr.callsNamed]
    cases e <;> simp [Expr.isIdentifier, Expr.callsNamed]
  | call n callee args _ ih =>
    intro h
    cases callee <;> simp only [Expr.generable, Bool.and_eq_true, Bool.false_eq_true] at h
    rw [Expr.callsNamed]
    exact allCallsNamed_of_allGenerable ih h.2

/-- The same for an expression that the type pass passes over without a message. -/
lemma complete_iff_of_silent (hconst : ConstantsHaveTemplates env) (hp : e.parsed = true)
    (h : (typeExpr env e).messages = []) :
    Complete (genExpr env e) ↔ e.generable env = true := by
  by_cases hnamed : e.callsNamed = true
  · obtain ⟨t, ht⟩ := decisive_typeExpr env e hnamed h
    obtain ⟨τ, rfl⟩ := typeExpr_ok_some ht
    exact complete_genExpr_iff hconst hp ht
  · constructor
    · rintro ⟨code, hcode, -⟩
      exact absurd (genExpr_callsNamed code hcode) hnamed
    · exact fun hgen => absurd (callsNamed_of_generable hgen) hnamed

end Expressions

/-! ## Statements the generator covers -/

/-- An expression that a statement may lack is covered. -/
def rootGenerable (env : Env) : Option Root → Bool
  | none => true
  | some r => r.expr.generable env

/-- An expression that stands as a statement is covered; a call need not have a result. -/
def Expr.stmtGenerable (env : Env) : Expr → Bool
  | .call _ _ args => Expr.allGenerable env args
  | e => e.generable env

mutual

/-- Every node of the statement has a rule and a template. -/
def Stmt.generable (env : Env) : Stmt Nat → Bool
  | .semi | .stateChg .. | .label .. | .jump .. => true
  | .assign _ op lhs rhs =>
    op.hasTemplate (evalType env (.id lhs)) (evalType env rhs.expr) && rhs.expr.generable env
  | .subAssign _ op _ sub rhs => ["x", "y", "z", "s"].contains sub.text &&
    op.hasTemplate (some .float) (evalType env rhs.expr) && rhs.expr.generable env
  | .ifElse _ cond s t => cond.expr.generable env && s.generable env && t.generable env
  | .whileLoop _ cond s | .doWhile _ cond s => cond.expr.generable env && s.generable env
  | .forLoop _ init cond loop s =>
    rootGenerable env init && rootGenerable env cond && rootGenerable env loop && s.generable env
  | .varDecl _ _ _ init _ => rootGenerable env init
  | .exprStmt e => e.expr.stmtGenerable env
  | .ret _ e => rootGenerable env e
  | .block body => Stmt.allGenerable (env.enterBlock body) body

/-- Every statement of a block is covered. -/
def Stmt.allGenerable (env : Env) : List (Stmt Nat) → Bool
  | [] => true
  | s :: ss => s.generable env && Stmt.allGenerable env ss

end

section Statements

variable {env : Env}

variable {r : Root}

lemma checkRoot_eq_ok {t : Option VarType} (h : checkRoot env r = .ok t) :
    (typeExpr env r.expr).messages = [] ∧ t = (typeExpr env r.expr).result.join := by
  simp only [checkRoot, Diag.bind_eq_ok, Diag.attempt_eq_ok, Diag.ok_inj] at h
  obtain ⟨-, -, o, ⟨hm, rfl⟩, rfl⟩ := h
  exact ⟨hm, rfl⟩

variable {u : Unit}

lemma checkRoot?_eq_ok (h : checkRoot? env (some r) = .ok u) :
    (typeExpr env r.expr).messages = [] := by
  obtain ⟨t, ht, -⟩ := Diag.bind_eq_ok.mp h
  exact (checkRoot_eq_ok ht).1

lemma complete_genRoot {dest : Option VarType} :
    Complete (genRoot env r dest) ↔ Complete (genExpr env r.expr) :=
  complete_map fun _ => blank_mem_doPromotion

lemma complete_genCond : Complete (genCond env r) ↔ Complete (genExpr env r.expr) := by
  rw [← complete_genRoot]
  exact complete_map fun c => by split_ifs <;> simp

/-- The code of an expression that a statement may lack. -/
lemma complete_genUnused (hconst : ConstantsHaveTemplates env) {r : Option Root}
    (hp : rootParsed r = true) (h : checkRoot? env r = .ok u) :
    Complete (genUnused env r) ↔ rootGenerable env r = true := by
  cases r with
  | none => simp [genUnused, rootGenerable, Complete]
  | some r =>
    rw [rootGenerable, ← complete_iff_of_silent hconst hp (checkRoot?_eq_ok h),
      ← complete_genRoot]
    exact complete_map fun c => by simp

/-- The condition of a loop that may lack one. -/
lemma complete_genCond? (hconst : ConstantsHaveTemplates env) {r : Option Root}
    (hp : rootParsed r = true) (h : checkRoot? env r = .ok u) :
    (∃ c, genCond? env r = some c ∧ ∀ code, c = some code → Asm.blank ∉ code) ↔
      rootGenerable env r = true := by
  cases r with
  | none => simp [genCond?, rootGenerable]
  | some r =>
    rw [rootGenerable, ← complete_iff_of_silent hconst hp (checkRoot?_eq_ok h),
      ← complete_genCond]
    cases hc : genCond env r <;> simp [genCond?, hc, Complete]

variable {n lhs : Node} {op : AssignOp} {rhs : Root}

/-- An assignment of an accepted statement whose right side is typed. -/
lemma rootAssign_eq_ok (h : (rootAssign env n op lhs rhs).messages = [])
    (hnamed : rhs.expr.callsNamed = true) :
    ∃ v tr, env.resolveVar lhs = .ok (some v) ∧ typeExpr env rhs.expr = .ok (some tr) ∧
      assignAllowed op v.type tr = true := by
  have hdec : Diag.Decisive (rootAssign env n op lhs rhs) :=
    (decisive_typeExpr env _ rfl).bind fun _ _ =>
      (decisive_typeExpr env _ hnamed).bind fun _ _ => decisive_assignOp _ _ _ _ _ _
  obtain ⟨t, ht⟩ := hdec h
  simp only [rootAssign, Diag.bind_eq_ok] at ht
  obtain ⟨tl, htl, tr, htr, hassign⟩ := ht
  obtain ⟨a, b, rfl, rfl, -, hallowed, -⟩ := assignOp_eq_ok.mp hassign
  obtain ⟨v, hv, hr⟩ := typeExpr_id htl
  obtain rfl := Option.some.inj hr
  exact ⟨v, b, hv, htr, hallowed⟩

lemma rootSubAssign_eq_ok {sub : Node} (h : (rootSubAssign env n op lhs sub rhs).messages = [])
    (hnamed : rhs.expr.callsNamed = true) :
    ∃ tr, typeExpr env rhs.expr = .ok (some tr) ∧ assignAllowed op .float tr = true := by
  have hdec : Diag.Decisive (rootSubAssign env n op lhs sub rhs) :=
    (decisive_typeExpr env _ hnamed).bind fun _ _ => decisive_assignOp _ _ _ _ _ _
  obtain ⟨t, ht⟩ := hdec h
  simp only [rootSubAssign, Diag.bind_eq_ok] at ht
  obtain ⟨tr, htr, hassign⟩ := ht
  obtain ⟨a, b, ha, rfl, -, hallowed, -⟩ := assignOp_eq_ok.mp hassign
  obtain rfl := Option.some.inj ha
  exact ⟨b, htr, hallowed⟩

/-- The code of a statement without its label counter. -/
def codeOf (o : Option (Code × Nat)) : Option Code := o.map Prod.fst

lemma complete_codeOf {o : Option (Code × Nat)} :
    Complete (codeOf o) ↔ ∃ c j, o = some (c, j) ∧ Asm.blank ∉ c := by
  rcases o with - | ⟨c, j⟩ <;> simp [codeOf, Complete]

/-- A loop is covered when its condition and its body are. -/
lemma complete_loop {x : Option Code} {y : Option (Code × Nat)}
    {f : Code → Code × Nat → Option (Code × Nat)}
    (hf : ∀ ce cs k, ∃ c j, f ce (cs, k) = some (c, j) ∧
      (Asm.blank ∉ c ↔ Asm.blank ∉ ce ∧ Asm.blank ∉ cs)) :
    Complete (codeOf (x.bind fun ce => y.bind (f ce))) ↔ Complete x ∧ Complete (codeOf y) := by
  rcases x with - | ce
  · simp [codeOf, Complete]
  · rcases y with - | ⟨cs, k⟩
    · simp [codeOf, Complete]
    · obtain ⟨c, j, hc, hblank⟩ := hf ce cs k
      simp [codeOf, Complete, hc, hblank]

lemma codeOf_bind (o : Option Code) (i : Nat) : codeOf (o.bind fun c => some (c, i)) = o := by
  cases o <;> rfl

lemma codeOf_assign (o : Option Code) (f : Code → Option Code) (i : Nat) :
    codeOf (o.bind fun e => (f e).bind fun c => some (c, i)) = o.bind f := by
  cases o with
  | none => rfl
  | some e => exact codeOf_bind (f e) i

/-- The code of an assignment that is a statement, given that of its right side. -/
lemma complete_assignStmt {sub : Option Node} {v : VarSym} {tr : VarType}
    (hv : env.symbol lhs = some v) (hsub : (targetIndex sub).isSome = true)
    (honsub : sub.isSome = true → op.onSubscripts = true) (htr : evalType env rhs.expr = some tr) :
    Complete ((genExpr env rhs.expr).bind fun expr =>
      genAssign env op lhs sub (evalType env rhs.expr) expr false) ↔
      op.hasTemplate (some (targetType v sub)) (some tr) = true ∧
        Complete (genExpr env rhs.expr) := by
  simp only [htr, complete_bind, complete_genAssign hv hsub honsub]
  simp only [Complete]
  tauto

lemma complete_genExprStmt (hconst : ConstantsHaveTemplates env) {e : Expr}
    (hs : e.isStatement = true) (hp : e.parsed = true) (h : (typeExpr env e).messages = []) :
    Complete (genExprStmt env e) ↔ e.stmtGenerable env = true := by
  unfold Expr.isStatement at hs
  split at hs
  · rename_i n m args
    by_cases hnamed : Expr.allCallsNamed args = true
    · obtain ⟨t, ht⟩ := decisive_typeExpr env (.call n (.id m) args) hnamed h
      simp only [typeExpr, Diag.bind_eq_ok] at ht
      obtain ⟨ts, hts, hcall⟩ := ht
      obtain ⟨f, _, hf, -, -, -⟩ := methodCall_eq_ok hcall
      simp only [Expr.parsed, Bool.and_eq_true] at hp
      have hmethod : env.method m = some f := by rw [Env.method, hf, Option.join_some]
      rw [genExprStmt, hmethod, Expr.stmtGenerable,
        ← complete_genArgs (fun e _ {_} => complete_genExpr_iff hconst) hp.2 hts
          (f.params.map Prod.snd)]
      simp only [Option.bind_eq_bind, Option.bind_some]
      exact complete_bind_some fun c => blank_mem_callCode
    · constructor
      · rintro ⟨code, hcode, -⟩
        simp only [genExprStmt, Option.bind_eq_bind, Option.bind_eq_some_iff] at hcode
        obtain ⟨f, -, cs, hcs, -⟩ := hcode
        exact absurd (genArgs_callsNamed (fun e _ => genExpr_callsNamed) hcs) hnamed
      · intro hgen
        rw [Expr.stmtGenerable] at hgen
        exact absurd (allCallsNamed_of_allGenerable (fun e _ => callsNamed_of_generable) hgen)
          hnamed
  · rw [genExprStmt, Expr.stmtGenerable, ← complete_iff_of_silent hconst hp h, genExpr]
    · exact complete_map fun c => by simp
    · simp
  · rw [genExprStmt, Expr.stmtGenerable, ← complete_iff_of_silent hconst hp h, genExpr]
    · exact complete_map fun c => by simp
    · simp
  · cases hs

lemma ConstantsHaveTemplates.enterBlock (h : ConstantsHaveTemplates env)
    (body : List (Stmt Nat)) : ConstantsHaveTemplates (env.enterBlock body) := by
  intro v hv hc
  rw [mem_allVars] at hv
  rcases hv with ⟨b, hb, hv⟩ | hv
  · rcases List.mem_cons.mp hb with rfl | hb
    · have hdecl : ∀ s : Stmt Nat, ∀ w ∈ s.decls, w.isConstant = false := by
        intro s
        induction s using Stmt.ind <;> simp_all [Stmt.decls, VarSym.isConstant, or_imp]
      obtain ⟨s, -, hv⟩ := List.mem_flatMap.mp hv
      rw [hdecl s v hv] at hc
      cases hc
    · exact h v (mem_allVars.mpr (.inl ⟨b, hb, hv⟩)) hc
  · exact h v (mem_allVars.mpr (.inr hv)) hc


/-- A statement whose code is that of an expression. -/
lemma complete_codeOf_bind {o : Option Code} {i : Nat} :
    Complete (codeOf (o.bind fun c => some (c, i))) ↔ Complete o := by
  rw [codeOf_bind]

/-- No code is generated for the right side of an assignment that calls something without a
name. -/
lemma genExpr_eq_none {e : Expr} (h : ¬ e.callsNamed = true) : genExpr env e = none := by
  by_contra hne
  obtain ⟨code, hcode⟩ := Option.ne_none_iff_exists'.mp hne
  exact h (genExpr_callsNamed code hcode)

/-- An assignment that is a statement. -/
lemma complete_assign (hconst : ConstantsHaveTemplates env) (hp : rhs.expr.parsed = true)
    (h : checkStmt env (.assign n op lhs rhs) = .ok ()) (i : Nat) :
    Complete (codeOf (genStmt env (.assign n op lhs rhs) i)) ↔
      (Stmt.assign n op lhs rhs).generable env = true := by
  simp only [checkStmt, Diag.bind_eq_ok, Diag.attempt_eq_ok] at h
  obtain ⟨tl, -, tr, hrhs, -, ⟨hm, -⟩, -⟩ := h
  have hexpr := complete_iff_of_silent hconst hp (checkRoot_eq_ok hrhs).1
  rw [genStmt, Stmt.generable, Bool.and_eq_true, ← hexpr]
  refine (Iff.of_eq (congrArg Complete (codeOf_assign _ _ i))).trans ?_
  by_cases hnamed : rhs.expr.callsNamed = true
  · obtain ⟨v, t, hv, ht, -⟩ := rootAssign_eq_ok hm hnamed
    have htl : evalType env (.id lhs) = some v.type := by
      refine evalType_of_ok ?_
      rw [typeExpr, hv]
      rfl
    rw [complete_assignStmt (symbol_of_ok hv) rfl (by simp) (evalType_of_ok ht), htl,
      evalType_of_ok ht]
    rfl
  · simp [genExpr_eq_none hnamed, not_complete_none]

/-- An assignment to a subscript that is a statement. -/
lemma complete_subAssign (hconst : ConstantsHaveTemplates env) {sub : Node}
    (hp : rhs.expr.parsed = true) (h : checkStmt env (.subAssign n op lhs sub rhs) = .ok ())
    (i : Nat) :
    Complete (codeOf (genStmt env (.subAssign n op lhs sub rhs) i)) ↔
      (Stmt.subAssign n op lhs sub rhs).generable env = true := by
  simp only [checkStmt, Diag.bind_eq_ok, Diag.attempt_eq_ok] at h
  obtain ⟨tl, hlhs, tr, hrhs, -, ⟨hm, -⟩, -⟩ := h
  have hexpr := complete_iff_of_silent hconst hp (checkRoot_eq_ok hrhs).1
  rw [genStmt, Stmt.generable, Bool.and_eq_true, Bool.and_eq_true, ← hexpr]
  refine (Iff.of_eq (congrArg Complete (codeOf_assign _ _ i))).trans ?_
  by_cases hnamed : rhs.expr.callsNamed = true
  · obtain ⟨t, ht, hallowed⟩ := rootSubAssign_eq_ok hm hnamed
    obtain ⟨t', ht'⟩ := decisive_typeExpr env (.id lhs) rfl (checkRoot_eq_ok hlhs).1
    obtain ⟨v, hv, -⟩ := typeExpr_id ht'
    by_cases hsub : (calcSubIndex sub.text).isSome = true
    · have hindex : (targetIndex (some sub)).isSome = true := by simpa [targetIndex] using hsub
      rw [complete_assignStmt (symbol_of_ok hv) hindex
        (fun _ => onSubscripts_of_allowed hallowed) (evalType_of_ok ht), evalType_of_ok ht]
      simp only [targetType, Option.isSome_some, if_true, calcSubIndex_isSome_iff.mp hsub,
        true_and]
    · have hindex : targetIndex (some sub) = none := by
        simpa [targetIndex] using hsub
      have hnone : ∀ expr, genAssign env op lhs (some sub) (evalType env rhs.expr) expr false =
          none := by
        intro expr
        simp [genAssign, symbol_of_ok hv, hindex]
      rw [calcSubIndex_isSome_iff, Bool.not_eq_true] at hsub
      simp only [hnone, hsub, complete_bind, not_complete_none, and_false, exists_false,
        Bool.false_eq_true, false_and]
  · simp [genExpr_eq_none hnamed, not_complete_none]

/-- A declaration of a variable. -/
lemma complete_genVarDecl (hconst : ConstantsHaveTemplates env) {g : Bool} {name : Node}
    {type : VarType} {init : Option Root} {slot : Nat} (htype : type ≠ .void)
    (hp : rootParsed init = true) (h : checkVarDecl env n type name init = .ok u) :
    Complete (genVarDecl env g type init slot) ↔ rootGenerable env init = true := by
  cases init with
  | none =>
    have hinit : ∃ ops, TemplateMapping.init type = some ops := by
      cases type <;> first | exact ⟨_, rfl⟩ | exact absurd rfl htype
    obtain ⟨⟨loc, glob⟩, hops⟩ := hinit
    simp [genVarDecl, hops, rootGenerable, Complete, onVar]
  | some r =>
    obtain ⟨t, ht, -⟩ := Diag.bind_eq_ok.mp h
    rw [rootGenerable, ← complete_iff_of_silent hconst hp (checkRoot_eq_ok ht).1,
      ← complete_genRoot]
    exact complete_map fun c => by simp

mutual

/-- The generator covers an accepted statement exactly when every node of it has a rule and a
template. -/
theorem complete_genStmt_iff {env : Env} (hconst : ConstantsHaveTemplates env) :
    ∀ (s : Stmt Nat), s.parsed = true → checkStmt env s = .ok () → ∀ i,
      (Complete (codeOf (genStmt env s i)) ↔ s.generable env = true)
  | .semi, _, _, i | .label .., _, _, i | .stateChg .., _, _, i | .ret _ none, _, _, i => by
    rw [genStmt, Stmt.generable]
    simp [codeOf, Complete, rootGenerable]
  | .assign .., hp, h, i => complete_assign hconst hp h i
  | .subAssign .., hp, h, i => complete_subAssign hconst hp h i
  | .ifElse n cond s t, hp, h, i => by
    simp only [Stmt.parsed, Bool.and_eq_true] at hp
    simp only [checkStmt, Diag.bind_eq_ok] at h
    obtain ⟨tc, hcond, _, hs, ht⟩ := h
    have hc := complete_iff_of_silent hconst hp.1.1 (checkRoot_eq_ok hcond).1
    have ihs := complete_genStmt_iff hconst s hp.1.2 hs
    have iht := complete_genStmt_iff hconst t hp.2 ht
    rw [Stmt.generable, Bool.and_eq_true, Bool.and_eq_true, ← hc, ← complete_genCond]
    simp only [genStmt, complete_codeOf, Option.bind_eq_bind, Option.bind_eq_some_iff,
      Option.some.injEq, Prod.mk.injEq, Prod.exists] at ihs iht ⊢
    constructor
    · rintro ⟨c, j, ⟨ce, hce, cs, k, hcs, ct, k', hct, rfl, rfl⟩, hb⟩
      simp only [ifElseCode, List.mem_append, List.mem_cons, not_or] at hb
      exact ⟨⟨⟨ce, hce, hb.1.1.1.1.1⟩, (ihs i).mp ⟨cs, k, hcs, hb.1.1.1.2⟩⟩,
        (iht k).mp ⟨ct, k', hct, hb.1.2⟩⟩
    · rintro ⟨⟨⟨ce, hce, hbe⟩, hs⟩, ht⟩
      obtain ⟨cs, k, hcs, hbs⟩ := (ihs i).mpr hs
      obtain ⟨ct, k', hct, hbt⟩ := (iht k).mpr ht
      exact ⟨_, _, ⟨ce, hce, cs, k, hcs, ct, k', hct, rfl, rfl⟩,
        by simp [ifElseCode, hbe, hbs, hbt]⟩
  | .whileLoop n cond s, hp, h, i | .doWhile n cond s, hp, h, i => by
    simp only [Stmt.parsed, Bool.and_eq_true] at hp
    simp only [checkStmt, Diag.bind_eq_ok] at h
    obtain ⟨tc, hcond, hs⟩ := h
    have hc := complete_iff_of_silent hconst hp.1 (checkRoot_eq_ok hcond).1
    have ihs := complete_genStmt_iff hconst s hp.2 hs
    rw [genStmt, Stmt.generable, Bool.and_eq_true, ← hc, ← complete_genCond, ← ihs i]
    exact complete_loop fun ce cs k =>
      ⟨_, _, rfl, by simp [whileCode, doWhileCode, and_comm]⟩
  | .forLoop n init cond loop s, hp, h, i => by
    simp only [Stmt.parsed, Bool.and_eq_true] at hp
    simp only [checkStmt, Diag.bind_eq_ok] at h
    obtain ⟨_, hs, _, hinit, _, hcond, hloop⟩ := h
    have hi := complete_genUnused hconst hp.1.1.1 hinit
    have hc := complete_genCond? hconst hp.1.1.2 hcond
    have hl := complete_genUnused hconst hp.1.2 hloop
    have ihs := complete_genStmt_iff hconst s hp.2 hs
    rw [Stmt.generable, Bool.and_eq_true, Bool.and_eq_true, Bool.and_eq_true, ← hi, ← hc, ← hl]
    simp only [genStmt, complete_codeOf, Option.bind_eq_bind, Option.bind_eq_some_iff,
      Option.some.injEq, Prod.mk.injEq, Prod.exists] at ihs ⊢
    constructor
    · rintro ⟨c, j, ⟨cs, k, hcs, ci, hci, cc, hcc, cl, hcl, rfl, rfl⟩, hb⟩
      simp only [forCode, List.mem_append, not_or] at hb
      refine ⟨⟨⟨⟨ci, hci, hb.1.1.1.1.1⟩, cc, hcc, ?_⟩, cl, hcl, hb.1.2⟩,
        (ihs i).mp ⟨cs, k, hcs, hb.1.1.2⟩⟩
      rintro code rfl
      exact fun hmem => hb.1.1.1.2 (List.mem_append_left _ hmem)
    · rintro ⟨⟨⟨⟨ci, hci, hbi⟩, cc, hcc, hbc⟩, cl, hcl, hbl⟩, hs⟩
      obtain ⟨cs, k, hcs, hbs⟩ := (ihs i).mpr hs
      refine ⟨_, _, ⟨cs, k, hcs, ci, hci, cc, hcc, cl, hcl, rfl, rfl⟩, ?_⟩
      cases cc with
      | none => simp [forCode, hbi, hbl, hbs]
      | some code => simp [forCode, hbi, hbl, hbs, hbc code rfl]
  | .varDecl n type name init slot, hp, h, i => by
    simp only [Stmt.parsed, Bool.and_eq_true, bne_iff_ne] at hp
    rw [checkStmt] at h
    rw [genStmt, Stmt.generable]
    exact complete_codeOf_bind.trans (complete_genVarDecl hconst hp.1 hp.2 h)
  | .exprStmt e, hp, h, i => by
    simp only [Stmt.parsed, Bool.and_eq_true] at hp
    simp only [checkStmt, Diag.bind_eq_ok] at h
    obtain ⟨t, ht, -⟩ := h
    rw [genStmt, Stmt.generable]
    exact complete_codeOf_bind.trans
      (complete_genExprStmt hconst hp.1 hp.2 (checkRoot_eq_ok ht).1)
  | .ret n (some e), hp, h, i => by
    simp only [checkStmt, Diag.bind_eq_ok] at h
    obtain ⟨_, hroot, -⟩ := h
    have he := complete_iff_of_silent hconst hp (checkRoot?_eq_ok hroot)
    rw [genStmt, Stmt.generable, rootGenerable, ← he, ← complete_genRoot]
    rw [complete_codeOf]
    simp only [Complete, Option.bind_eq_bind, Option.bind_eq_some_iff, Option.some.injEq,
      Prod.mk.injEq]
    constructor
    · rintro ⟨c, j, ⟨ce, hce, rfl, rfl⟩, hb⟩
      exact ⟨ce, hce, fun hmem => hb (List.mem_append_left _ hmem)⟩
    · rintro ⟨ce, hce, hb⟩
      exact ⟨_, _, ⟨ce, hce, rfl, rfl⟩, by simp [hb]⟩
  | .jump n name, _, h, i => by
    simp only [checkStmt, checkJump, Diag.require_eq_ok] at h
    obtain ⟨label, hlabel⟩ := Option.isSome_iff_exists.mp h
    rw [genStmt, Stmt.generable, hlabel]
    simp [codeOf, Complete]
  | .block body, hp, h, i => by
    rw [checkStmt] at h
    rw [genStmt, Stmt.generable]
    exact complete_genStmts_iff (hconst.enterBlock body) body hp h i

theorem complete_genStmts_iff {env : Env} (hconst : ConstantsHaveTemplates env) :
    ∀ (ss : List (Stmt Nat)), Stmt.allParsed ss = true → checkStmts env ss = .ok () → ∀ i,
      (Complete (codeOf (genStmts env ss i)) ↔ Stmt.allGenerable env ss = true)
  | [], _, _, i => by
    rw [genStmts, Stmt.allGenerable]
    simp [codeOf, Complete]
  | s :: ss, hp, h, i => by
    rw [Stmt.allParsed, Bool.and_eq_true] at hp
    simp only [checkStmts, Diag.bind_eq_ok] at h
    obtain ⟨_, hs, hss⟩ := h
    have ihs := complete_genStmt_iff hconst s hp.1 hs
    have ihss := complete_genStmts_iff hconst ss hp.2 hss
    rw [Stmt.allGenerable, Bool.and_eq_true]
    simp only [genStmts, complete_codeOf, Option.bind_eq_bind, Option.bind_eq_some_iff,
      Option.some.injEq, Prod.mk.injEq, Prod.exists] at ihs ihss ⊢
    constructor
    · rintro ⟨c, j, ⟨cs, k, hcs, css, k', hcss, rfl, rfl⟩, hb⟩
      rw [List.mem_append, not_or] at hb
      exact ⟨(ihs i).mp ⟨cs, k, hcs, hb.1⟩, (ihss k).mp ⟨css, k', hcss, hb.2⟩⟩
    · rintro ⟨hs, hss⟩
      obtain ⟨cs, k, hcs, hbs⟩ := (ihs i).mpr hs
      obtain ⟨css, k', hcss, hbss⟩ := (ihss k).mpr hss
      exact ⟨_, _, ⟨cs, k, hcs, css, k', hcss, rfl, rfl⟩, by simp [hbs, hbss]⟩

end

end Statements

/-! ## Scripts the generator covers -/

/-- Every node of the definition has a rule and a template. -/
def GlobalStmt.generable (env : Env) : GlobalStmt Nat → Bool
  | .varDecl _ _ _ init _ => rootGenerable env init
  | .funcDef f => Stmt.allGenerable ((env.function f).enterBlock f.body) f.body
  | .stateDef s => s.events.all fun e =>
    Stmt.allGenerable ((env.event s e).enterBlock e.body) e.body

/-- Every node of the script has a rule and a template. -/
def scriptGenerable (env : Env) (script : Script Nat) : Bool :=
  script.all (GlobalStmt.generable env)

section Scripts

variable {env : Env}

/-- The sections of a script are generated without a gap. -/
def SectionsComplete (o : Option (Sections × Nat)) : Prop :=
  ∃ secs j, o = some (secs, j) ∧
    Asm.blank ∉ secs.globals ∧ Asm.blank ∉ secs.functions ∧ Asm.blank ∉ secs.states

/-- Parameters are not constants. -/
lemma ConstantsHaveTemplates.params (h : ConstantsHaveTemplates env) (env' : Env)
    {params : List Param} (hb : env'.blocks = env.blocks) (hp : env'.params = paramSyms params)
    (hg : env'.globals = env.globals) : ConstantsHaveTemplates env' := by
  intro v hv hc
  rw [mem_allVars, hb, hp, hg] at hv
  rcases hv with hv | hv | hv
  · exact h v (mem_allVars.mpr (.inl hv)) hc
  · obtain ⟨p, -, rfl⟩ := List.mem_map.mp hv
    cases hc
  · exact h v (mem_allVars.mpr (.inr (.inr hv))) hc

/-- A routine is covered exactly when its body is. -/
lemma complete_routine {o : Option (Code × Nat)} {header : Asm} (hheader : header ≠ .blank) :
    Complete (codeOf (o.bind fun p => some (header :: p.1 ++ [.op .ret], p.2))) ↔
      Complete (codeOf o) := by
  rcases o with - | ⟨c, j⟩
  · rfl
  · simp [codeOf, Complete, hheader.symm]

lemma complete_genFunction (hconst : ConstantsHaveTemplates env) {f : FuncDef Nat}
    (hp : Stmt.allParsed f.body = true)
    (h : checkStmts ((env.function f).enterBlock f.body) f.body = .ok ()) (i : Nat) :
    Complete (codeOf (genFunction env f i)) ↔
      Stmt.allGenerable ((env.function f).enterBlock f.body) f.body = true :=
  have hconst' := (hconst.params (env.function f) rfl rfl rfl).enterBlock f.body
  (complete_routine (by simp)).trans (complete_genStmts_iff hconst' f.body hp h i)

lemma complete_genEvent (hconst : ConstantsHaveTemplates env) {s : StateDef Nat}
    {e : EventDef Nat} (hp : Stmt.allParsed e.body = true)
    (h : checkStmts ((env.event s e).enterBlock e.body) e.body = .ok ()) (i : Nat) :
    Complete (codeOf (genEvent env s e i)) ↔
      Stmt.allGenerable ((env.event s e).enterBlock e.body) e.body = true :=
  have hconst' := (hconst.params (env.event s e) rfl rfl rfl).enterBlock e.body
  (complete_routine (by simp)).trans (complete_genStmts_iff hconst' e.body hp h i)

lemma complete_genEvents (hconst : ConstantsHaveTemplates env) {s : StateDef Nat}
    {es : List (EventDef Nat)} (hp : ∀ e ∈ es, Stmt.allParsed e.body = true)
    (h : checkEvents env s es = .ok ()) (i : Nat) :
    Complete (codeOf (genEvents env s es i)) ↔
      ∀ e ∈ es, Stmt.allGenerable ((env.event s e).enterBlock e.body) e.body = true := by
  induction es generalizing i with
  | nil =>
    rw [genEvents]
    simp [codeOf, Complete]
  | cons e es ih =>
    simp only [checkEvents, Diag.bind_eq_ok] at h
    obtain ⟨_, he, hes⟩ := h
    have hbody := complete_genEvent hconst (hp e List.mem_cons_self) he
    have ihs := ih (fun e he => hp e (List.mem_cons_of_mem _ he)) hes
    rw [List.forall_mem_cons]
    simp only [genEvents, complete_codeOf, Option.bind_eq_bind, Option.bind_eq_some_iff,
      Option.some.injEq, Prod.mk.injEq, Prod.exists] at hbody ihs ⊢
    constructor
    · rintro ⟨c, j, ⟨ce, k, hce, cs, k', hcs, rfl, rfl⟩, hb⟩
      rw [List.mem_append, not_or] at hb
      exact ⟨(hbody i).mp ⟨ce, k, hce, hb.1⟩, (ihs k).mp ⟨cs, k', hcs, hb.2⟩⟩
    · rintro ⟨he, hes⟩
      obtain ⟨ce, k, hce, hbe⟩ := (hbody i).mpr he
      obtain ⟨cs, k', hcs, hbs⟩ := (ihs k).mpr hes
      exact ⟨_, _, ⟨ce, k, hce, cs, k', hcs, rfl, rfl⟩, by simp [hbe, hbs]⟩

lemma complete_genGlobal (hconst : ConstantsHaveTemplates env) {g : GlobalStmt Nat}
    (hp : g.parsed = true) (h : checkGlobal env g = .ok ()) (i : Nat) :
    SectionsComplete (genGlobal env g i) ↔ g.generable env = true := by
  cases g with
  | varDecl n type name init slot =>
    simp only [GlobalStmt.parsed, Bool.and_eq_true, bne_iff_ne] at hp
    rw [checkGlobal] at h
    have hdecl : Complete (genVarDecl env true type init slot) ↔ rootGenerable env init = true :=
      complete_genVarDecl hconst hp.1 hp.2 h
    rw [genGlobal, GlobalStmt.generable, ← hdecl]
    cases genVarDecl env true type init slot <;> simp [SectionsComplete, Complete]
  | funcDef f =>
    simp only [GlobalStmt.parsed, Bool.and_eq_true] at hp
    rw [checkGlobal] at h
    rw [genGlobal, GlobalStmt.generable, ← complete_genFunction hconst hp.2 h i]
    rcases genFunction env f i with - | ⟨c, j⟩ <;> simp [SectionsComplete, codeOf, Complete]
  | stateDef s =>
    simp only [GlobalStmt.parsed, List.all_eq_true, Bool.and_eq_true] at hp
    rw [checkGlobal] at h
    rw [genGlobal, GlobalStmt.generable, List.all_eq_true,
      ← complete_genEvents hconst (fun e he => (hp e he).2) h i]
    rcases genEvents env s s.events i with - | ⟨c, j⟩ <;>
      simp [SectionsComplete, codeOf, Complete]

lemma complete_genSections (hconst : ConstantsHaveTemplates env) {script : Script Nat}
    (hp : ∀ g ∈ script, g.parsed = true) (h : checkScript env script = .ok ()) (i : Nat) :
    SectionsComplete (genSections env script i) ↔ scriptGenerable env script = true := by
  induction script generalizing i with
  | nil =>
    rw [genSections]
    simp [SectionsComplete, scriptGenerable]
  | cons g gs ih =>
    simp only [checkScript, Diag.bind_eq_ok] at h
    obtain ⟨_, hg, hgs⟩ := h
    have hone := complete_genGlobal hconst (hp g List.mem_cons_self) hg
    have ihs := ih (fun g hg => hp g (List.mem_cons_of_mem _ hg)) hgs
    rw [scriptGenerable, List.all_cons, Bool.and_eq_true, ← scriptGenerable]
    simp only [SectionsComplete, genSections, Option.bind_eq_bind, Option.bind_eq_some_iff,
      Option.some.injEq, Prod.mk.injEq, Prod.exists] at hone ihs ⊢
    constructor
    · rintro ⟨secs, j, ⟨s₁, k, hs₁, s₂, k', hs₂, rfl, rfl⟩, hb⟩
      simp only [List.mem_append, not_or] at hb
      exact ⟨(hone i).mp ⟨s₁, k, hs₁, hb.1.1, hb.2.1.1, hb.2.2.1⟩,
        (ihs k).mp ⟨s₂, k', hs₂, hb.1.2, hb.2.1.2, hb.2.2.2⟩⟩
    · rintro ⟨hg, hgs⟩
      obtain ⟨s₁, k, hs₁, hb₁⟩ := (hone i).mpr hg
      obtain ⟨s₂, k', hs₂, hb₂⟩ := (ihs k).mpr hgs
      exact ⟨_, _, ⟨s₁, k, hs₁, s₂, k', hs₂, rfl, rfl⟩, by simp [hb₁, hb₂]⟩

/-- The constants of the compiler have templates. -/
lemma constantsHaveTemplates (b : Builtins) (src : Source) (script : Script Nat) :
    ConstantsHaveTemplates (scriptEnv b src script) := by
  intro v hv hc
  rcases mem_allVars.mp hv with ⟨_, hb, -⟩ | hv | hv
  · exact absurd hb List.not_mem_nil
  · exact absurd hv List.not_mem_nil
  · rcases List.mem_append.mp hv with hv | hv
    · exact b.notList v hv
    · obtain ⟨g, -, hg⟩ := List.mem_filterMap.mp hv
      cases g <;> cases hg
      cases hc

/-- For a script that parses and is accepted, code is generated without a gap exactly when every
node has a rule and a template. -/
theorem complete_genScript_iff {b : Builtins} {src : Source} {script : Script Unit}
    {numbered : Script Nat} (hparsed : ∀ g ∈ script, g.parsed = true)
    (hacc : Accepted b src script numbered) :
    Complete (genScript (scriptEnv b src numbered) numbered) ↔
      scriptGenerable (scriptEnv b src numbered) numbered = true := by
  have hp : ∀ g ∈ numbered, g.parsed = true := by
    intro g hg
    rw [← GlobalStmt.parsed_erase]
    refine hparsed _ ?_
    rw [← (scriptNumbered hacc.defined).erase]
    exact List.mem_map_of_mem hg
  rw [← complete_genSections (constantsHaveTemplates b src numbered) hp hacc.typed 0]
  rcases hsecs : genSections (scriptEnv b src numbered) numbered 0 with - | ⟨secs, j⟩
  · simp [genScript, hsecs, Complete, SectionsComplete]
  · simp [genScript, hsecs, Complete, SectionsComplete, Sections.file, and_assoc]

end Scripts

namespace CoverageSample

def source : Source := ⟨fun _ _ => "", some⟩

def node (text : String) : Node := ⟨text, 1, 0, 20, 20⟩

def int (text : String) : Expr := .intLit (node text)

def less (l r : Expr) : Expr := .binary (node "<") .lt l r

/-- `vector v; f(integer i) { i = e; }` -/
def script (A : Type) (number : Nat → A) (e : Expr) : Script A :=
  [.varDecl ⟨"VAR_DECL", 1, 0, 0, 2⟩ .vector ⟨"v", 1, 0, 1, 1⟩ none (number 0),
    .funcDef ⟨none, ⟨"f", 1, 0, 3, 3⟩, [⟨.integer, ⟨"i", 1, 0, 6, 6⟩⟩],
      [.assign (node "=") .assign (node "i") ⟨node "EXPR", e⟩], number 1⟩]

/-- `1 < (2 < 3)` -/
def nested : Expr := less (int "1") (.paren (node "EXPR") (less (int "2") (int "3")))

theorem complete_nested :
    Complete (genScript (scriptEnv .empty source (script Nat id nested))
      (script Nat id nested)) := by
  have hparsed : ∀ g ∈ script Unit (fun _ => ()) nested, g.parsed = true := by decide
  have hacc : Accepted .empty source (script Unit (fun _ => ()) nested) (script Nat id nested) :=
    ⟨rfl, rfl, by decide⟩
  exact (complete_genScript_iff hparsed hacc).mpr (by decide)

/-- `1 < 2 < 3` -/
def chained : Expr := less (less (int "1") (int "2")) (int "3")

/-- `v < v` -/
def ordered : Expr := less (.id (node "v")) (.id (node "v"))

/-- The script parses and is accepted, but no code is generated for some of its nodes. -/
def Uncovered (e : Expr) : Prop :=
  (∀ g ∈ script Unit (fun _ => ()) e, g.parsed = true) ∧
    Accepted .empty source (script Unit (fun _ => ()) e) (script Nat id e) ∧
    ¬ Complete (genScript (scriptEnv .empty source (script Nat id e)) (script Nat id e))

/-- No rule matches a comparison of a comparison, and there is no template to compare vectors. -/
theorem uncovered_chained_ordered : Uncovered chained ∧ Uncovered ordered := by
  refine ⟨⟨by decide, ⟨rfl, rfl, by decide⟩, not_complete_none⟩,
    by decide, ⟨rfl, rfl, by decide⟩, ?_⟩
  rintro ⟨code, hcode, hblank⟩
  obtain rfl := Option.some.inj hcode
  exact hblank (by decide)

end CoverageSample

end Halcyon.Joke
