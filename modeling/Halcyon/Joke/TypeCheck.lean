import Halcyon.Joke.Scope

/-!
# The type pass over expressions

`typeExpr` is the rule `expr` of `grammar/Types.g` with the checks of `Compiler/SymbolTable.cs`
it calls: it computes the type the compiler annotates an expression with and reports what is
wrong with it.  The annotation is absent (`none`) for a name that does not resolve.

The grammar runs as a filter: a tree none of its rules match is passed over without a message.
The one such tree is a call whose callee is not an identifier; `typeExpr` ends there in
`Diag.mismatch`.

Beside each check stands the lemma that says when it passes silently.
-/

namespace Halcyon.Joke

open Halcyon.Lib Env

/-! ## Binary operators -/

/-- The table of an operator of `SymbolTable.Bop`; the operators of the other families have
no table. -/
def BinOp.resultType : BinOp → VarType → VarType → VarType
  | .add => additionResultType
  | .sub => subtractionResultType
  | .mul => multiplicationResultType
  | .div => divisionResultType
  | .mod => modResultType
  | .lsh | .rsh => shiftResultType
  | _ => fun _ _ => .void

/-- The table of a compound assignment. -/
def AssignOp.resultType : AssignOp → VarType → VarType → VarType
  | .assign => fun _ _ => .void
  | .add => additionResultType
  | .sub => subtractionResultType
  | .mul => multiplicationResultType
  | .div => divisionResultType
  | .mod => modResultType
  | .lsh | .rsh => shiftResultType

/-- The message of `HasUnknownTypes` and `HasUnknownType`. -/
def unknownType (n : Node) (t : VarType) : Diag String (Option VarType) := do
  .report (location n ++ " Invalid operation. At least one type is unknown")
  .ok (some t)

/-- `SymbolTable.Bop`. -/
def bop (op : BinOp) (lhs : Node) : Option VarType → Option VarType →
    Diag String (Option VarType)
  | some tl, some tr => do
    .require (op.resultType tl tr != .void) (location lhs ++ " '" ++ op.text ++
      "' is not a valid operation between " ++ tl.name ++ " and " ++ tr.name)
    .ok (some (op.resultType tl tr))
  | _, _ => unknownType lhs .void

/-- `SymbolTable.LogBop`. -/
def logBop (lhs : Node) (tl tr : Option VarType) : Diag String (Option VarType) := do
  .require (tl == some .integer && tr == some .integer) (location lhs ++
    " Type mismatch, logical operators || and && require integer arguments")
  .ok (some .integer)

/-- `SymbolTable.HaveSameTypes`, after both operands were given their promotions. -/
def haveSameTypes (tl tr : VarType) : Bool :=
  let pl := promoteFromTo tl tr
  let pr := promoteFromTo tr tl
  tl == tr || (pl == pr && pl.isSome && pr.isSome) || pr == some tl || pl == some tr

/-- `SymbolTable.RelOp`. -/
def relOp (lhs : Node) : Option VarType → Option VarType → Diag String (Option VarType)
  | some tl, some tr => do
    .require (haveSameTypes tl tr) (location lhs ++
      " Type mismatch, relational operators require arguments of the same type")
    .require (tl != .string && tr != .string) (location lhs ++
      " Type mismatch, strings can not be compared with < or >")
    .ok (some .integer)
  | _, _ => unknownType lhs .void

/-- `SymbolTable.EqOp`. -/
def eqOp (lhs : Node) : Option VarType → Option VarType → Diag String (Option VarType)
  | some tl, some tr => do
    .require (haveSameTypes tl tr) (location lhs ++
      " Type mismatch, equality operators == and != require arguments of the same type")
    .ok (some .integer)
  | _, _ => unknownType lhs .void

/-- `SymbolTable.BitOp`. -/
def bitOp (lhs : Node) : Option VarType → Option VarType → Diag String (Option VarType)
  | some tl, some tr => do
    .require (tl == .integer && tr == .integer) (location lhs ++
      " Type mismatch, bitwise operators require arguments of integral type")
    .ok (some .integer)
  | _, _ => unknownType lhs .integer

/-- The rule `binaryOps`, assignments apart. -/
def binaryOp (op : BinOp) (lhs : Node) (tl tr : Option VarType) : Diag String (Option VarType) :=
  match op with
  | .add | .sub | .mul | .div | .mod | .lsh | .rsh => bop op lhs tl tr
  | .boolOr | .boolAnd => logBop lhs tl tr
  | .bitOr | .bitAnd | .bitXor => bitOp lhs tl tr
  | .eq | .neq => eqOp lhs tl tr
  | .lt | .gt | .lte | .gte => relOp lhs tl tr

/-- The type a binary operator yields, where it is allowed at all. -/
def binaryType (op : BinOp) (tl tr : VarType) : VarType :=
  match op with
  | .add | .sub | .mul | .div | .mod | .lsh | .rsh => op.resultType tl tr
  | _ => .integer

/-- When the check of a binary operator passes. -/
def binaryAllowed (op : BinOp) (tl tr : VarType) : Bool :=
  match op with
  | .add | .sub | .mul | .div | .mod | .lsh | .rsh => op.resultType tl tr != .void
  | .boolOr | .boolAnd | .bitOr | .bitAnd | .bitXor => tl == .integer && tr == .integer
  | .eq | .neq => haveSameTypes tl tr
  | .lt | .gt | .lte | .gte => haveSameTypes tl tr && tl != .string && tr != .string

variable {r : Option VarType}

lemma unknownType_ne_ok {n : Node} {t : VarType} :
    unknownType n t ≠ .ok r := by
  simp [unknownType, Diag.bind_eq_ok]

lemma binaryOp_eq_ok {op : BinOp} {lhs : Node} {tl tr : Option VarType} :
    binaryOp op lhs tl tr = .ok r ↔
      ∃ a b, tl = some a ∧ tr = some b ∧ binaryAllowed op a b = true ∧
        some (binaryType op a b) = r := by
  cases tl <;> cases tr <;> cases op <;>
    simp [binaryOp, bop, logBop, bitOp, eqOp, relOp, binaryAllowed, binaryType,
      unknownType_ne_ok, Diag.bind_eq_ok, and_assoc]

/-! ## Unary operators and subscripts -/

/-- `SymbolTable.IsAssignable`: an identifier, an identifier in parentheses, or a subscript. -/
def isAssignable : Expr → Bool
  | .id _ | .paren _ (.id _) | .subscript .. => true
  | _ => false

/-- `SymbolTable.Uminus`, `UBoolNot` and `UBitNot`. -/
def unaryOp (op : UnaryOp) (a : Node) : Option VarType → Diag String (Option VarType)
  | none => do
    .report (location a ++ " Unknown type in expression " ++
      (if op = .minus then "-" else "!") ++ a.text)
    .ok (some .void)
  | some t =>
    match op with
    | .minus => do
      .require (t == .integer || t == .float || t == .vector || t == .rotation)
        (location a ++ " Unary minus (-N) not valid for type " ++ t.name)
      .ok (some t)
    | .boolNot => do
      .require (t == .integer) (location a ++ " Boolean not (!) not valid for type " ++ t.name)
      .ok (some (if t = .integer then .integer else .void))
    | .bitNot => do
      .require (t == .integer) (location a ++ " Bitwise not (~) not valid for type " ++ t.name)
      .ok (some (if t = .integer then .integer else .void))

/-- The types a unary operator accepts; the result has the operand's type. -/
def unaryAllowed (op : UnaryOp) (t : VarType) : Bool :=
  match op with
  | .minus => t == .integer || t == .float || t == .vector || t == .rotation
  | .boolNot | .bitNot => t == .integer

variable {t : Option VarType}

lemma unaryOp_eq_ok {op : UnaryOp} {a : Node} :
    unaryOp op a t = .ok r ↔ ∃ b, t = some b ∧ unaryAllowed op b = true ∧ some b = r := by
  cases t with
  | none => simp [unaryOp, Diag.bind_eq_ok]
  | some b => cases op <;> cases b <;> simp [unaryOp, unaryAllowed, Diag.bind_eq_ok]

/-- The operator of an increment as it appears in messages. -/
def IncDecOp.text : IncDecOp → String
  | .preInc | .postInc => "++"
  | .preDec | .postDec => "--"

/-- `SymbolTable.PreInc`, `PreDec`, `PostInc` and `PostDec`. -/
def incDecOp (op : IncDecOp) (a : Expr) : Option VarType → Diag String (Option VarType)
  | none => do
    .report (location a.node ++ " (" ++ op.text ++ ") Unknown type in expression " ++ a.node.text)
    .ok (some .void)
  | some t =>
    if !isAssignable a then do
      .report (location a.node ++ " '" ++ a.node.text ++ "' is not assignable")
      .ok (some .void)
    else if t == .integer || t == .float then .ok (some t)
    else do
      .report (location a.node ++ " " ++ op.text ++ " not valid for type " ++ t.name)
      .ok (some .void)

lemma incDecOp_eq_ok {op : IncDecOp} {a : Expr} :
    incDecOp op a t = .ok r ↔
      ∃ b, t = some b ∧ isAssignable a = true ∧ (b = .integer ∨ b = .float) ∧ some b = r := by
  cases t with
  | none => simp [incDecOp, Diag.bind_eq_ok]
  | some b =>
    by_cases ha : isAssignable a = true
    · cases b <;> simp [incDecOp, ha, Diag.bind_eq_ok]
    · simp [incDecOp, ha, Diag.bind_eq_ok]

/-- The subscripts a type has. -/
def subscriptNames : VarType → List String
  | .vector => ["x", "y", "z"]
  | .rotation => ["x", "y", "z", "s"]
  | _ => []

/-- `SymbolTable.SubScript`: the left side must be a variable of vector or rotation type. -/
def subScript (id : Expr) (t : Option VarType) (sub : Node) : Diag String (Option VarType) :=
  match id with
  | .id n =>
    if t == some .vector || t == some .rotation then
      if (subscriptNames (t.getD .void)).contains sub.text then .ok (some .float)
      else do
        .report (location n ++ " Invalid subscript ." ++ sub.text)
        .ok (some .void)
    else do
      .report (location n ++ " Use of subscript ." ++ sub.text ++
        " requires a vector or rotation variable")
      .ok (some .void)
  | e => do
    .report (location e.node ++ " Use of subscript ." ++ sub.text ++
      " requires a vector or rotation variable ")
    .ok (some .void)

lemma subScript_eq_ok {id : Expr} {sub : Node} :
    subScript id t sub = .ok r ↔
      ∃ n b, id = .id n ∧ t = some b ∧ sub.text ∈ subscriptNames b ∧ some .float = r := by
  cases id with
  | id n =>
    rcases t with - | b
    · simp [subScript, Diag.bind_eq_ok]
    · by_cases hs : sub.text ∈ subscriptNames b
      · cases b <;> simp_all [subScript, subscriptNames]
      · cases b <;> simp_all [subScript, subscriptNames, Diag.bind_eq_ok]
  | _ => simp [subScript, Diag.bind_eq_ok]

/-! ## Literals, casts and calls -/

/-- The component may stand in a vector or rotation literal. -/
def isFloatComponent (t : VarType) : Bool :=
  canAssignTo t .float (promoteFromTo t .float)

/-- `SymbolTable.CheckVectorLiteral` and `CheckRotationLiteral`. -/
def checkComponents (what : String) (e1 : Node) (ts : List (Option VarType)) :
    Diag String Unit :=
  if ts.any Option.isNone then
    .report (location e1 ++ " " ++ what ++ " contains expression(s) of unknown type")
  else
    .require (ts.all fun t => t.any isFloatComponent) (location e1 ++ " " ++ what ++
      " components must be float or implicitly convertable to float ")

lemma checkComponents_eq_ok {what : String} {e1 : Node} {ts : List (Option VarType)} {u : Unit} :
    checkComponents what e1 ts = .ok u ↔
      ∀ t ∈ ts, ∃ a, t = some a ∧ isFloatComponent a = true := by
  unfold checkComponents
  split_ifs with h
  · simp only [Diag.report_ne_ok, false_iff, not_forall]
    obtain ⟨t, ht, hn⟩ := List.any_eq_true.mp h
    exact ⟨t, ht, by rintro ⟨a, rfl, -⟩; simp at hn⟩
  · simp only [Diag.require_eq_ok, List.all_eq_true]
    refine forall₂_congr fun t _ => ?_
    cases t <;> simp

/-- `SymbolTable.CheckListLiteral`. -/
def checkListLiteral (start : Node) (ts : List (Option VarType)) : Diag String Unit :=
  .reports ((ts.filter fun t => t == some .list).map fun _ =>
    location start ++ " A list can not contain another list")

/-- `SymbolTable.TypeCast`. -/
def typeCast (e : Node) (toType : VarType) (type : Node) :
    Option VarType → Diag String (Option VarType)
  | none => unknownType e .void
  | some t => do
    .require (canCast t toType) (location type ++ " Can not cast from " ++ t.name ++ " to " ++
      type.text)
    .ok (some toType)

/-- The arguments of a call that cannot be passed, with the parameters they are passed for. -/
def erroredParms (params : List (String × VarType)) (args : List (Node × VarType)) :
    List ((Node × VarType) × (String × VarType)) :=
  (args.zip params).filter fun (a, p) => !canAssignTo a.2 p.2 (promoteFromTo a.2 p.2)

/-- `SymbolTable.MethodCall`. -/
def methodCall (env : Env) (id : Node) (args : List (Node × Option VarType)) :
    Diag String (Option VarType) :=
  match env.resolveMethod id.text with
  | none => do
    .report (location id ++ " Call to undefined function " ++ id.text ++ "()")
    .ok (some .void)
  | some none =>
    .abort "Unable to cast object of type 'EventSymbol' to type 'MethodSymbol'."
  | some (some ms) =>
    if args.any fun a => a.2.isNone then do
      .report (location id ++ " Method call contains expression(s) of unknown type")
      .ok (some ms.type)
    else if args.length ≠ ms.params.length then do
      .report (location id ++ " Function " ++ id.text ++ "() takes " ++
        toString ms.params.length ++ " parameters, " ++ toString args.length ++ " given")
      .ok (some ms.type)
    else
      let bad := erroredParms ms.params (args.map fun a => (a.1, a.2.getD .void))
      do
        .reports (if bad.isEmpty then [] else
          (location id ++ " In call of function " ++ id.text ++ "(): ") ::
            bad.map fun (a, p) => location a.1 ++ " Parameter " ++ p.1 ++ ", expected " ++
              p.2.name ++ " got " ++ a.2.name)
        .ok (some ms.type)

/-- A value of the first type can be passed for, or stored under, the second. -/
def canPass (a p : VarType) : Bool :=
  canAssignTo a p (promoteFromTo a p)

lemma promoted_of_canPass {a p : VarType} (h : canPass a p = true) :
    promoted a (promoteFromTo a p) = p :=
  promoted_of_canAssignTo h

lemma methodCall_eq_ok {env : Env} {id : Node} {args : List (Node × Option VarType)}
    (h : methodCall env id args = .ok r) :
    ∃ m ts, env.resolveMethod id.text = some (some m) ∧ args.map Prod.snd = ts.map some ∧
      List.Forall₂ (fun t p => canPass t p.2 = true) ts m.params ∧ r = some m.type := by
  unfold methodCall at h
  split at h
  · simp [Diag.bind_eq_ok] at h
  · simp at h
  · rename_i m hm
    split_ifs at h with hn hl
    · simp [Diag.bind_eq_ok] at h
    · simp [Diag.bind_eq_ok] at h
    · rw [Diag.bind_eq_ok] at h
      obtain ⟨u, hb, hr⟩ := h
      refine ⟨m, args.map fun a => a.2.getD .void, hm, ?_, ?_, by simpa using hr.symm⟩
      · rw [List.map_map]
        refine List.map_congr_left fun a ha => ?_
        have ha' : a.2.isNone ≠ true := fun h' => hn (List.any_eq_true.mpr ⟨a, ha, h'⟩)
        rcases a with ⟨n, - | t⟩ <;> simp_all
      · have hbad : erroredParms m.params (args.map fun a => (a.1, a.2.getD .void)) = [] := by
          by_contra hne
          simp [List.isEmpty_iff, hne] at hb
        have hl' : args.length = m.params.length := by simpa using hl
        rw [List.forall₂_iff_zip]
        refine ⟨by simpa using hl', fun {t p} htp => ?_⟩
        simp only [erroredParms, List.filter_eq_nil_iff] at hbad
        rw [List.zip_map_left] at htp
        obtain ⟨⟨a, p'⟩, hmem, heq⟩ := List.mem_map.mp htp
        simp only [Prod.map_apply, id_eq, Prod.mk.injEq] at heq
        obtain ⟨rfl, rfl⟩ := heq
        have := hbad ((a.1, a.2.getD .void), p') (by
          rw [List.zip_map_left]
          exact List.mem_map.mpr ⟨(a, p'), hmem, rfl⟩)
        simpa [canPass] using this

/-! ## Assignments -/

/-- `SymbolTable.Assign`.  `n` is the assignment's node, whose text the message of a plain
assignment repeats. -/
def assignOp (env : Env) (n : Node) (op : AssignOp) (lhs rhs : Expr) :
    Option VarType → Option VarType → Diag String (Option VarType)
  | some tl, some tr =>
    if !isAssignable lhs then do
      .report (location lhs.node ++ " '" ++ lhs.node.text ++ "' is not assignable")
      .ok (some .void)
    else if op = .assign then
      if canPass tr tl then .ok (some tl)
      else do
        .report (location lhs.node ++ " " ++
          env.text lhs.node.tokenStartIndex lhs.node.tokenStopIndex ++ " and " ++
          env.text rhs.node.tokenStartIndex rhs.node.tokenStopIndex ++
          " have incompatible types in " ++ env.text n.tokenStartIndex n.tokenStopIndex)
        .ok (some .void)
    else do
      .require (op.resultType tl tr != .void) (location lhs.node ++ " '" ++ op.text ++
        "' is not a valid operation between " ++ tl.name ++ " and " ++ tr.name)
      .ok (some (op.resultType tl tr))
  | _, _ => unknownType lhs.node .void

/-- When the check of an assignment passes. -/
def assignAllowed (op : AssignOp) (tl tr : VarType) : Bool :=
  if op = .assign then canPass tr tl else op.resultType tl tr != .void

/-- The type an assignment is annotated with. -/
def assignType (op : AssignOp) (tl tr : VarType) : VarType :=
  if op = .assign then tl else op.resultType tl tr

lemma assignOp_eq_ok {env : Env} {n : Node} {op : AssignOp} {lhs rhs : Expr}
    {tl tr : Option VarType} :
    assignOp env n op lhs rhs tl tr = .ok r ↔
      ∃ a b, tl = some a ∧ tr = some b ∧ isAssignable lhs = true ∧
        assignAllowed op a b = true ∧ some (assignType op a b) = r := by
  rcases tl with - | a <;> rcases tr with - | b
  · simp [assignOp, unknownType_ne_ok]
  · simp [assignOp, unknownType_ne_ok]
  · simp [assignOp, unknownType_ne_ok]
  · by_cases hl : isAssignable lhs = true
    · by_cases ho : op = .assign
      · by_cases hc : canPass b a = true <;>
          simp [assignOp, assignAllowed, assignType, hl, ho, hc, Diag.bind_eq_ok]
      · simp [assignOp, assignAllowed, assignType, hl, ho, Diag.bind_eq_ok]
    · simp [assignOp, hl, Diag.bind_eq_ok]

/-! ## Expressions -/

mutual

/-- The rule `expr` of the type pass. -/
def typeExpr (env : Env) : Expr → Diag String (Option VarType)
  | .intLit _ => .ok (some .integer)
  | .floatLit _ => .ok (some .float)
  | .stringLit _ => .ok (some .string)
  | .id n => do
    let v ← env.resolveVar n
    .ok (v.map VarSym.type)
  | .vecLit _ x y z => do
    let tx ← typeExpr env x
    let ty ← typeExpr env y
    let tz ← typeExpr env z
    checkComponents "Vector" x.node [tx, ty, tz]
    .ok (some .vector)
  | .rotLit _ x y z w => do
    let tx ← typeExpr env x
    let ty ← typeExpr env y
    let tz ← typeExpr env z
    let tw ← typeExpr env w
    checkComponents "Rotation" x.node [tx, ty, tz, tw]
    .ok (some .rotation)
  | .listLit n es => do
    let ts ← typeExprs env es
    checkListLiteral n (ts.map Prod.snd)
    .ok (some .list)
  | .typeCast _ toType type e => do
    let t ← typeExpr env e
    typeCast e.node toType type t
  | .binary _ op l r => do
    let tl ← typeExpr env l
    let tr ← typeExpr env r
    binaryOp op l.node tl tr
  | .assign n op l r => do
    let tl ← typeExpr env l
    let tr ← typeExpr env r
    assignOp env n op l r tl tr
  | .unary _ op e => do
    let t ← typeExpr env e
    unaryOp op e.node t
  | .incDec _ op e => do
    let t ← typeExpr env e
    incDecOp op e t
  | .subscript _ e sub => do
    let t ← typeExpr env e
    subScript e t sub
  | .call _ (.id n) args => do
    let ts ← typeExprs env args
    methodCall env n ts
  | .call .. => .mismatch
  | .paren _ e => typeExpr env e

/-- The members of a list of expressions, each with its node. -/
def typeExprs (env : Env) : List Expr → Diag String (List (Node × Option VarType))
  | [] => .ok []
  | e :: es => do
    let t ← typeExpr env e
    let ts ← typeExprs env es
    .ok ((e.node, t) :: ts)

end

/-! ## Silence -/

mutual

/-- Every call is of a function by its name. -/
def Expr.callsNamed : Expr → Bool
  | .intLit _ | .floatLit _ | .stringLit _ | .id _ => true
  | .vecLit _ x y z => x.callsNamed && y.callsNamed && z.callsNamed
  | .rotLit _ x y z w => x.callsNamed && y.callsNamed && z.callsNamed && w.callsNamed
  | .listLit _ es => Expr.allCallsNamed es
  | .typeCast _ _ _ e | .unary _ _ e | .incDec _ _ e | .subscript _ e _ | .paren _ e => e.callsNamed
  | .binary _ _ l r | .assign _ _ l r => l.callsNamed && r.callsNamed
  | .call _ callee args =>
    match callee with
    | .id _ => Expr.allCallsNamed args
    | _ => false

/-- Every call in a list of expressions is by name. -/
def Expr.allCallsNamed : List Expr → Bool
  | [] => true
  | e :: es => e.callsNamed && Expr.allCallsNamed es

end

section Decisive

open Diag

variable {env : Env}

lemma decisive_unknownType (n : Node) (t : VarType) : Decisive (unknownType n t) :=
  (decisive_report _).bind fun _ _ => decisive_ok _

lemma decisive_bop (op : BinOp) (n : Node) (tl tr : Option VarType) :
    Decisive (bop op n tl tr) := by
  unfold bop
  split
  · exact (decisive_require _ _).bind fun _ _ => decisive_ok _
  · exact decisive_unknownType _ _

lemma decisive_bitOp (n : Node) (tl tr : Option VarType) : Decisive (bitOp n tl tr) := by
  unfold bitOp
  split
  · exact (decisive_require _ _).bind fun _ _ => decisive_ok _
  · exact decisive_unknownType _ _

lemma decisive_eqOp (n : Node) (tl tr : Option VarType) : Decisive (eqOp n tl tr) := by
  unfold eqOp
  split
  · exact (decisive_require _ _).bind fun _ _ => decisive_ok _
  · exact decisive_unknownType _ _

lemma decisive_relOp (n : Node) (tl tr : Option VarType) : Decisive (relOp n tl tr) := by
  unfold relOp
  split
  · exact (decisive_require _ _).bind fun _ _ =>
      (decisive_require _ _).bind fun _ _ => decisive_ok _
  · exact decisive_unknownType _ _

lemma decisive_binaryOp (op : BinOp) (n : Node) (tl tr : Option VarType) :
    Decisive (binaryOp op n tl tr) := by
  cases op
  case add | sub | mul | div | mod | lsh | rsh => exact decisive_bop _ n tl tr
  case boolOr | boolAnd => exact (decisive_require _ _).bind fun _ _ => decisive_ok _
  case bitOr | bitAnd | bitXor => exact decisive_bitOp n tl tr
  case eq | neq => exact decisive_eqOp n tl tr
  case lt | gt | lte | gte => exact decisive_relOp n tl tr

lemma decisive_unaryOp (op : UnaryOp) (n : Node) (t : Option VarType) :
    Decisive (unaryOp op n t) := by
  unfold unaryOp
  split
  · exact (decisive_report _).bind fun _ _ => decisive_ok _
  · split <;> exact (decisive_require _ _).bind fun _ _ => decisive_ok _

lemma decisive_incDecOp (op : IncDecOp) (a : Expr) (t : Option VarType) :
    Decisive (incDecOp op a t) := by
  unfold incDecOp
  split
  · exact (decisive_report _).bind fun _ _ => decisive_ok _
  · split_ifs
    · exact (decisive_report _).bind fun _ _ => decisive_ok _
    · exact decisive_ok _
    · exact (decisive_report _).bind fun _ _ => decisive_ok _

lemma decisive_subScript (id : Expr) (t : Option VarType) (sub : Node) :
    Decisive (subScript id t sub) := by
  unfold subScript
  split
  · split_ifs
    · exact decisive_ok _
    · exact (decisive_report _).bind fun _ _ => decisive_ok _
    · exact (decisive_report _).bind fun _ _ => decisive_ok _
  · exact (decisive_report _).bind fun _ _ => decisive_ok _

lemma decisive_checkComponents (what : String) (n : Node) (ts : List (Option VarType)) :
    Decisive (checkComponents what n ts) := by
  unfold checkComponents
  split_ifs
  · exact decisive_report _
  · exact decisive_require _ _

lemma decisive_typeCast (e : Node) (toType : VarType) (n : Node) (t : Option VarType) :
    Decisive (typeCast e toType n t) := by
  cases t with
  | none => exact decisive_unknownType _ _
  | some t => exact (decisive_require _ _).bind fun _ _ => decisive_ok _

lemma decisive_methodCall (n : Node) (args : List (Node × Option VarType)) :
    Decisive (methodCall env n args) := by
  unfold methodCall
  split
  · exact (decisive_report _).bind fun _ _ => decisive_ok _
  · exact decisive_abort _
  · split_ifs
    · exact (decisive_report _).bind fun _ _ => decisive_ok _
    · exact (decisive_report _).bind fun _ _ => decisive_ok _
    · exact (decisive_reports _).bind fun _ _ => decisive_ok _

lemma decisive_assignOp (n : Node) (op : AssignOp) (l r : Expr) (tl tr : Option VarType) :
    Decisive (assignOp env n op l r tl tr) := by
  unfold assignOp
  split
  · split_ifs
    · exact (decisive_report _).bind fun _ _ => decisive_ok _
    · exact decisive_ok _
    · exact (decisive_report _).bind fun _ _ => decisive_ok _
    · exact (decisive_require _ _).bind fun _ _ => decisive_ok _
  · exact decisive_unknownType _ _

lemma decisive_resolveVar (n : Node) : Decisive (env.resolveVar n) := by
  refine Decisive.bind ?_ fun o _ => ?_
  · unfold ensureResolve
    repeat' split
    all_goals first | exact decisive_ok _ | exact (decisive_report _).bind fun _ _ => decisive_ok _
  · rcases o with - | (v | -)
    · exact decisive_ok _
    · exact decisive_ok _
    · exact decisive_abort _

mutual

/-- The type pass gives up silently only at a call that is not by name. -/
lemma decisive_typeExpr (env : Env) : ∀ e : Expr, e.callsNamed = true → Decisive (typeExpr env e)
  | .intLit _, _ | .floatLit _, _ | .stringLit _, _ => decisive_ok _
  | .id n, _ => (decisive_resolveVar n).bind fun _ _ => decisive_ok _
  | .vecLit _ x y z, h => by
    simp only [Expr.callsNamed, Bool.and_eq_true] at h
    rw [typeExpr]
    exact (decisive_typeExpr env x h.1.1).bind fun _ _ =>
      (decisive_typeExpr env y h.1.2).bind fun _ _ => (decisive_typeExpr env z h.2).bind fun _ _ =>
      (decisive_checkComponents _ _ _).bind fun _ _ => decisive_ok _
  | .rotLit _ x y z w, h => by
    simp only [Expr.callsNamed, Bool.and_eq_true] at h
    rw [typeExpr]
    exact (decisive_typeExpr env x h.1.1.1).bind fun _ _ =>
      (decisive_typeExpr env y h.1.1.2).bind fun _ _ => (decisive_typeExpr env z h.1.2).bind fun _ _ =>
      (decisive_typeExpr env w h.2).bind fun _ _ =>
      (decisive_checkComponents _ _ _).bind fun _ _ => decisive_ok _
  | .listLit _ es, h => by
    rw [Expr.callsNamed] at h
    rw [typeExpr]
    exact (decisive_typeExprs env es h).bind fun _ _ =>
      (decisive_reports _).bind fun _ _ => decisive_ok _
  | .typeCast _ _ _ e, h => by
    rw [Expr.callsNamed] at h
    rw [typeExpr]
    exact (decisive_typeExpr env e h).bind fun _ _ => decisive_typeCast _ _ _ _
  | .binary _ _ l r, h => by
    simp only [Expr.callsNamed, Bool.and_eq_true] at h
    rw [typeExpr]
    exact (decisive_typeExpr env l h.1).bind fun _ _ =>
      (decisive_typeExpr env r h.2).bind fun _ _ => decisive_binaryOp _ _ _ _
  | .assign _ _ l r, h => by
    simp only [Expr.callsNamed, Bool.and_eq_true] at h
    rw [typeExpr]
    exact (decisive_typeExpr env l h.1).bind fun _ _ =>
      (decisive_typeExpr env r h.2).bind fun _ _ => decisive_assignOp _ _ _ _ _ _
  | .unary _ _ e, h => by
    rw [Expr.callsNamed] at h
    rw [typeExpr]
    exact (decisive_typeExpr env e h).bind fun _ _ => decisive_unaryOp _ _ _
  | .incDec _ _ e, h => by
    rw [Expr.callsNamed] at h
    rw [typeExpr]
    exact (decisive_typeExpr env e h).bind fun _ _ => decisive_incDecOp _ _ _
  | .subscript _ e _, h => by
    rw [Expr.callsNamed] at h
    rw [typeExpr]
    exact (decisive_typeExpr env e h).bind fun _ _ => decisive_subScript _ _ _
  | .call _ callee args, h => by
    rw [Expr.callsNamed.eq_def] at h
    cases callee <;> simp only [Bool.false_eq_true] at h
    rw [typeExpr]
    exact (decisive_typeExprs env args h).bind fun _ _ => decisive_methodCall _ _
  | .paren _ e, h => by
    rw [Expr.callsNamed] at h
    rw [typeExpr]
    exact decisive_typeExpr env e h

lemma decisive_typeExprs (env : Env) :
    ∀ es : List Expr, Expr.allCallsNamed es = true → Decisive (typeExprs env es)
  | [], _ => decisive_ok _
  | e :: es, h => by
    simp only [Expr.allCallsNamed, Bool.and_eq_true] at h
    rw [typeExprs]
    exact (decisive_typeExpr env e h.1).bind fun _ _ =>
      (decisive_typeExprs env es h.2).bind fun _ _ => decisive_ok _

end

end Decisive

/-- The type annotation of an expression, for the passes after the type pass. -/
def evalType (env : Env) (e : Expr) : Option VarType :=
  (typeExpr env e).result.join

end Halcyon.Joke
