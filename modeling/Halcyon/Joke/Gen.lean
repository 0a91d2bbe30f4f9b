import Halcyon.Joke.Templates

/-!
# Code generation for expressions

`grammar/Gen.g` walks the annotated tree and fills the templates.  Its rules restate the
expression grammar: each binary operator accepts operands of certain rules only
(`BinOp.operandLevel`), an increment accepts an identifier or a subscript of one, an assignment
accepts in addition an identifier in parentheses.  A tree that no rule matches, a subscript
without an index and a float literal that cannot be read make the generation fail; that is
`none`.

What the type pass annotates a node with is a function of the node and its environment: the
type is `evalType`, the symbol of an identifier is `Env.symbol`, and the promotion of an operand
is `promotion`.  `DoPromotion` runs once for a node, in the rule that is entered with it; here
the rule that reads the operand's code applies it.
-/

namespace Halcyon.Joke

open Halcyon.Lib Env

/-! ## Annotations -/

/-- The symbol the type pass attached to an identifier. -/
def Env.symbol (env : Env) (n : Node) : Option VarSym :=
  (env.resolveVar n).result.join

/-- A name that stands for a variable resolves to it without a message. -/
lemma symbol_eq_some {env : Env} {n : Node} {v : VarSym} (h : env.symbol n = some v) :
    env.ensureResolve n = .ok (some (.var v)) := by
  have hres : (env.resolveVar n).result = some (some v) := Option.join_eq_some_iff.mp h
  have hcases : (∃ sym, env.ensureResolve n = .ok (some sym)) ∨
      ∃ text, env.ensureResolve n = .report text >>= fun _ => .ok none := by
    unfold ensureResolve
    split
    · split_ifs
      · split
        · exact .inl ⟨_, rfl⟩
        · exact .inr ⟨_, rfl⟩
      · exact .inl ⟨_, rfl⟩
    · split
      · exact .inl ⟨_, rfl⟩
      · exact .inr ⟨_, rfl⟩
  rcases hcases with ⟨sym, hsym⟩ | ⟨text, htext⟩
  · rw [resolveVar, hsym, Diag.ok_bind] at hres
    cases sym with
    | var w =>
      obtain rfl : w = v := by simpa [Diag.ok] using hres
      exact hsym
    | type => simp [Diag.abort] at hres
  · have : (env.resolveVar n).result = some none := by
      rw [resolveVar, htext]
      rfl
    rw [this] at hres
    cases hres

/-- The slot of a variable as instructions name it. -/
def VarSym.ref (v : VarSym) : VarRef := ⟨v.isGlobal, v.scopeIndex⟩

/-- The promotion the type pass attached to an expression whose context has type `dest`. -/
def promotion (env : Env) (e : Expr) (dest : VarType) : Option VarType :=
  (evalType env e).bind fun t => promoteFromTo t dest

/-- `Gen.DoPromotion`: the only promotion that needs code is that to float. -/
def doPromotion (promoteToType : Option VarType) (st : Code) : Code :=
  if promoteToType = some .float then st ++ [.op .fcast] else st

/-! ## Rules without subexpressions -/

/-- The rule of the operands of a binary operator. -/
def BinOp.operandLevel : BinOp → Nat
  | .boolOr | .boolAnd => 11
  | .bitOr | .bitAnd | .bitXor => 10
  | .eq | .neq => 8
  | .lt | .gt | .lte | .gte => 7
  | .lsh | .rsh => 7
  | .add | .sub => 6
  | .mul | .div | .mod => 5

/-- The code of an operand, if the rule that reads it has a place for the operand's node. -/
def atLevel (rule : Nat) (e : Expr) (code : Option Code) : Option Code :=
  if e.level ≤ rule then code else none

lemma atLevel_eq_some {rule : Nat} {e : Expr} {code : Option Code} {c : Code} :
    atLevel rule e code = some c ↔ e.level ≤ rule ∧ code = some c := by
  simp [atLevel]

/-- The operators whose operands the type pass promotes. -/
def BinOp.promotes : BinOp → Bool
  | .eq | .neq | .lt | .gt | .lte | .gte => true
  | _ => false

/-- The load of an identifier: `idload`, or for a constant the template
`ConstantSymbol.TemplateName` names.  There is no template for a constant list. -/
def loadSymbol (v : VarSym) : Option Code :=
  match v.constValue with
  | none => some [loadVar v.isGlobal v.scopeIndex none]
  | some value =>
    match v.type with
    | .integer => some [.instr .iconst [.int value]]
    | .float => some [.instr .fconst [.float value]]
    | .string | .key => some [.instr .sconst [.string value]]
    | .vector => some [.instr .vconst [.vector value]]
    | .rotation => some [.instr .rconst [.rotation value]]
    | .list | .void => none

/-- The text of a string literal without its quotes. -/
def unquote (text : String) : String :=
  String.ofList ((text.toList.drop 1).dropLast)

/-- The text of a float literal. -/
def floatText : Expr → Option String
  | .floatLit n => some n.text
  | _ => none

/-- The components of a constant vector or rotation in angle brackets. -/
def bracketed (components : List String) : String :=
  "<" ++ ",".intercalate components ++ ">"

/-- The rules `vecConst` and `rotConst`: every component is a float literal. -/
def constComponents (components : List Expr) : Option (List String) :=
  components.mapM floatText

/-- The instruction of a unary operator on an operand of the given type. -/
def unaryCode (op : UnaryOp) (t : Option VarType) : Option OpCode :=
  match op, t with
  | .minus, some .integer => some .ineg
  | .minus, some .float => some .fneg
  | .minus, some .vector => some .vneg
  | .minus, some .rotation => some .rneg
  | .minus, _ => none
  | .boolNot, _ => some .ilnot
  | .bitNot, _ => some .ibunot

/-- A minus sign in front of a number is part of the constant. -/
def negativeLiteral (env : Env) (op : UnaryOp) (e : Expr) : Option (Option Code) :=
  match op, e with
  | .minus, .intLit n => some (some [.instr .iconst [.int ("-" ++ n.text)]])
  | .minus, .floatLit n =>
    some ((env.formatFloat n.text).map fun text => [.instr .fconst [.float ("-" ++ text)]])
  | _, _ => none

/-- The instruction of a cast. -/
def castCode : VarType → Option OpCode
  | .integer => some .icast
  | .float => some .fcast
  | .string | .key => some .scast
  | .vector => some .vcast
  | .rotation => some .rcast
  | .list => some .lcast
  | .void => none

/-- The rules of the increments: an identifier of integer or float type, or a subscript of an
identifier. -/
def genIncDec (env : Env) (op : IncDecOp) : Expr → Option Code
  | .id n => do
    let v ← env.symbol n
    match v.type with
    | .integer => some [incDecCode op false v.isGlobal v.scopeIndex]
    | .float => some [incDecCode op true v.isGlobal v.scopeIndex]
    | _ => none
  | .subscript _ (.id n) sub => do
    let v ← env.symbol n
    let subindex ← calcSubIndex sub.text
    some [incDecSubCode op v.isGlobal v.scopeIndex subindex]
  | _ => none

/-- The rule `subscript`. -/
def genSubscript (env : Env) (e : Expr) (sub : Node) : Option Code :=
  match e with
  | .id n => do
    let v ← env.symbol n
    let subidx ← calcSubIndex sub.text
    some [loadVar v.isGlobal v.scopeIndex (some subidx)]
  | _ => none

/-! ## Assignments -/

/-- The left side of an assignment: an identifier, possibly in parentheses, and the subscript
on it. -/
def assignTarget : Expr → Option (Node × Option Node)
  | .id n | .paren _ (.id n) => some (n, none)
  | .subscript _ (.id n) sub | .subscript _ (.paren _ (.id n)) sub => some (n, some sub)
  | _ => none

/-- The type of an assignment's left side. -/
def targetType (v : VarSym) (sub : Option Node) : VarType :=
  if sub.isSome then .float else v.type

/-- The index of the subscript on a left side, if there is one. -/
def targetIndex : Option Node → Option (Option Int)
  | none => some none
  | some sub => (calcSubIndex sub.text).map some

/-- The compound assignments that have a rule for subscripts. -/
def AssignOp.onSubscripts : AssignOp → Bool
  | .mod | .lsh | .rsh => false
  | _ => true

/-- The rules of the assignments, given the code of the right side and its type. -/
def genAssign (env : Env) (op : AssignOp) (n : Node) (sub : Option Node) (tr : Option VarType)
    (expr : Code) (pushfinal : Bool) : Option Code := do
  let v ← env.symbol n
  let subindex ← targetIndex sub
  if sub.isSome && !op.onSubscripts then none
  else
    match op with
    | .assign => some (assignCode v.isGlobal v.scopeIndex subindex
        (doPromotion (tr.bind fun t => promoteFromTo t (targetType v sub)) expr) pushfinal)
    | op => do
      let tr ← tr
      some (expandAssign (TemplateMapping.compound op (targetType v sub) tr) v.isGlobal
        v.scopeIndex subindex expr pushfinal)

/-! ## Expressions -/

/-- The templates of a call: the arguments, the instruction, and a `pop` of a result that is
not used. -/
def callCode (m : MethodSym) (exprs : Code) (popresult : Bool) : Code :=
  exprs ++ [.instr (if m.isSyscall then .syscall else .call) [.func m.rawName]] ++
    (if popresult then [.op .pop] else [])

/-- The function a call refers to, for the passes after the type pass. -/
def Env.method (env : Env) (n : Node) : Option MethodSym :=
  (env.resolveMethod n.text).join

mutual

/-- The rule `expr` of the generator, without the promotion of the expression itself. -/
def genExpr (env : Env) : Expr → Option Code
  | .intLit n => some [.instr .iconst [.int n.text]]
  | .floatLit n => (env.formatFloat n.text).map fun text => [.instr .fconst [.float text]]
  | .stringLit n => some [.instr .sconst [.string (unquote n.text)]]
  | .id n => (env.symbol n).bind loadSymbol
  | .vecLit _ x y z =>
    match constComponents [x, y, z] with
    | some texts => (texts.mapM env.formatFloat).map fun cs =>
      [.instr .vconst [.vector (bracketed cs)]]
    | none => do
      let cx ← genExpr env x
      let cy ← genExpr env y
      let cz ← genExpr env z
      some (doPromotion (promotion env x .float) cx ++ doPromotion (promotion env y .float) cy ++
        doPromotion (promotion env z .float) cz ++ [.op .buildvec])
  | .rotLit _ x y z w =>
    match constComponents [x, y, z, w] with
    | some texts => (texts.mapM env.formatFloat).map fun cs =>
      [.instr .rconst [.rotation (bracketed cs)]]
    | none => do
      let cx ← genExpr env x
      let cy ← genExpr env y
      let cz ← genExpr env z
      let cw ← genExpr env w
      some (doPromotion (promotion env x .float) cx ++ doPromotion (promotion env y .float) cy ++
        doPromotion (promotion env z .float) cz ++ doPromotion (promotion env w .float) cw ++
        [.op .buildrot])
  | .listLit _ es => do
    let cs ← genArgs env [] es
    some (cs ++ [.instr .buildlist [.num es.length]])
  | .typeCast _ type _ e => do
    let c ← atLevel 4 e (genExpr env e)
    let op ← castCode type
    some (c ++ [.op op])
  | .binary _ op l r => do
    let lexpr ← atLevel op.operandLevel l (genExpr env l)
    let rexpr ← atLevel op.operandLevel r (genExpr env r)
    let tl ← evalType env l
    let tr ← evalType env r
    some (expandBin (TemplateMapping.binary op tl tr)
      (if op.promotes then doPromotion (promoteFromTo tl tr) lexpr else lexpr)
      (if op.promotes then doPromotion (promoteFromTo tr tl) rexpr else rexpr))
  | .assign _ op l r => do
    let (n, sub) ← assignTarget l
    let expr ← genExpr env r
    genAssign env op n sub (evalType env r) expr true
  | .unary _ op e =>
    match negativeLiteral env op e with
    | some code => code
    | none => do
      let c ← atLevel 4 e (genExpr env e)
      let op ← unaryCode op (evalType env e)
      some (c ++ [.op op])
  | .incDec _ op e => genIncDec env op e
  | .subscript _ e sub => genSubscript env e sub
  | .call _ callee args =>
    match callee with
    | .id n => do
      let m ← env.method n
      let exprs ← genArgs env (m.params.map Prod.snd) args
      if m.type = .void then none else some (callCode m exprs false)
    | _ => none
  | .paren _ e => genExpr env e

/-- The arguments of a call, each promoted to the type of its parameter; the members of a list
literal have none. -/
def genArgs (env : Env) (params : List VarType) : List Expr → Option Code
  | [] => some []
  | e :: es => do
    let c ← genExpr env e
    let cs ← genArgs env params.tail es
    some (doPromotion (params.head?.bind fun p => promotion env e p) c ++ cs)

end

lemma callsNamed_of_floatText {e : Expr} {text : String} (h : floatText e = some text) :
    e.callsNamed = true := by
  cases e <;> first | rfl | cases h

lemma callsNamed_of_assignTarget {e : Expr} {target : Node × Option Node}
    (h : assignTarget e = some target) : e.callsNamed = true := by
  unfold assignTarget at h
  split at h <;> first | rfl | cases h

lemma genArgs_callsNamed {env : Env} {es : List Expr}
    (ih : ∀ e ∈ es, ∀ code, genExpr env e = some code → e.callsNamed = true) :
    ∀ {params : List VarType} {code : Code}, genArgs env params es = some code →
      Expr.allCallsNamed es = true := by
  induction es with
  | nil => exact fun _ => rfl
  | cons e es ihs =>
    intro params code h
    simp only [genArgs, Option.bind_eq_bind, Option.bind_eq_some_iff] at h
    obtain ⟨_, he, _, hes, -⟩ := h
    rw [Expr.allCallsNamed, ih e List.mem_cons_self _ he, Bool.true_and]
    exact ihs (fun e he => ih e (List.mem_cons_of_mem _ he)) hes

/-- Code is generated for calls by name only. -/
lemma genExpr_callsNamed {env : Env} {e : Expr} :
    ∀ code, genExpr env e = some code → e.callsNamed = true := by
  induction e using Expr.ind with
  | intLit | floatLit | stringLit | id => exact fun _ _ => rfl
  | vecLit n x y z ihx ihy ihz =>
    intro code h
    rw [genExpr] at h
    split at h
    · rename_i texts ht
      simp only [constComponents, List.mapM_cons, List.mapM_nil, Option.bind_eq_bind,
        Option.bind_eq_some_iff] at ht
      obtain ⟨_, hx, _, ⟨_, hy, _, ⟨_, hz, -⟩, -⟩, -⟩ := ht
      simp only [Expr.callsNamed, callsNamed_of_floatText hx, callsNamed_of_floatText hy,
        callsNamed_of_floatText hz, Bool.and_self]
    · simp only [Option.bind_eq_bind, Option.bind_eq_some_iff] at h
      obtain ⟨_, hx, _, hy, _, hz, -⟩ := h
      simp only [Expr.callsNamed, ihx _ hx, ihy _ hy, ihz _ hz, Bool.and_self]
  | rotLit n x y z w ihx ihy ihz ihw =>
    intro code h
    rw [genExpr] at h
    split at h
    · rename_i texts ht
      simp only [constComponents, List.mapM_cons, List.mapM_nil, Option.bind_eq_bind,
        Option.bind_eq_some_iff] at ht
      obtain ⟨_, hx, _, ⟨_, hy, _, ⟨_, hz, _, ⟨_, hw, -⟩, -⟩, -⟩, -⟩ := ht
      simp only [Expr.callsNamed, callsNamed_of_floatText hx, callsNamed_of_floatText hy,
        callsNamed_of_floatText hz, callsNamed_of_floatText hw, Bool.and_self]
    · simp only [Option.bind_eq_bind, Option.bind_eq_some_iff] at h
      obtain ⟨_, hx, _, hy, _, hz, _, hw, -⟩ := h
      simp only [Expr.callsNamed, ihx _ hx, ihy _ hy, ihz _ hz, ihw _ hw, Bool.and_self]
  | listLit n es ih =>
    intro code h
    simp only [genExpr, Option.bind_eq_bind, Option.bind_eq_some_iff] at h
    obtain ⟨_, hes, -⟩ := h
    rw [Expr.callsNamed]
    exact genArgs_callsNamed ih hes
  | typeCast n t tn e ih =>
    intro code h
    simp only [genExpr, Option.bind_eq_bind, Option.bind_eq_some_iff, atLevel_eq_some] at h
    obtain ⟨_, ⟨-, he⟩, -⟩ := h
    rw [Expr.callsNamed]
    exact ih _ he
  | binary n op l r ihl ihr =>
    intro code h
    simp only [genExpr, Option.bind_eq_bind, Option.bind_eq_some_iff, atLevel_eq_some] at h
    obtain ⟨_, ⟨-, hl⟩, _, ⟨-, hr⟩, -⟩ := h
    simp only [Expr.callsNamed, ihl _ hl, ihr _ hr, Bool.and_self]
  | assign n op l r _ ih =>
    intro code h
    simp only [genExpr, Option.bind_eq_bind, Option.bind_eq_some_iff] at h
    obtain ⟨_, hl, _, hr, -⟩ := h
    simp only [Expr.callsNamed, callsNamed_of_assignTarget hl, ih _ hr, Bool.and_self]
  | unary n op e ih =>
    intro code h
    rw [genExpr] at h
    split at h
    · rename_i hneg
      unfold negativeLiteral at hneg
      split at hneg <;> first | rfl | cases hneg
    · simp only [Option.bind_eq_bind, Option.bind_eq_some_iff, atLevel_eq_some] at h
      obtain ⟨_, ⟨-, he⟩, -⟩ := h
      rw [Expr.callsNamed]
      exact ih _ he
  | incDec n op e =>
    intro code h
    rw [genExpr, genIncDec.eq_def] at h
    split at h <;> first | rfl | cases h
  | subscript n e sub =>
    intro code h
    rw [genExpr, genSubscript.eq_def] at h
    split at h <;> first | rfl | cases h
  | call n callee args _ ih =>
    intro code h
    cases callee <;> simp only [genExpr, reduceCtorEq] at h
    simp only [Option.bind_eq_bind, Option.bind_eq_some_iff] at h
    obtain ⟨_, -, _, hargs, -⟩ := h
    rw [Expr.callsNamed]
    exact genArgs_callsNamed ih hargs
  | paren n e ih =>
    intro code h
    rw [genExpr] at h
    rw [Expr.callsNamed]
    exact ih _ h

end Halcyon.Joke
