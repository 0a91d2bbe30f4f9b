import Halcyon.Joke.Numbering
import Halcyon.Joke.TypeCheck

/-!
# Name resolution is lexical scoping

The tables of a block hold everything the block declares, also what comes after a use, and the
compiler finds out from the positions of the tokens which of it may be used.  Here scoping is
defined along the text instead: `Stmt.uses` walks a body in the order of the text, collects what
each block has declared so far, and pairs every use of a variable with that (`Use.scopes`).
`Use.lexical` is then the innermost declaration among those.  The globals of a script can be used
in its functions and events wherever they are declared.

The link between the two is the position of the tokens.  `Stmt.scan` checks that the tokens of a
tree are in the order of the text, as those of a parsed script are, and `aligned_of_uses` says
that then the test of the compiler splits every block exactly where the text does.

When the nearest declaration of a name comes too late, the compiler looks among the parameters
and the globals, not in the blocks in between; `Use.Skips` says that a declaration there is
passed over.  In all other cases resolution is lexical.
-/

namespace Halcyon.Joke

open Halcyon.Lib Env

/-! ## Uses of variables -/

mutual

/-- The identifiers of an expression that stand for variables, in the order of the text. -/
def Expr.vars : Expr → List Node
  | .intLit _ | .floatLit _ | .stringLit _ => []
  | .id n => [n]
  | .vecLit _ x y z => x.vars ++ y.vars ++ z.vars
  | .rotLit _ x y z w => x.vars ++ y.vars ++ z.vars ++ w.vars
  | .listLit _ es => Expr.allVars es
  | .typeCast _ _ _ e | .unary _ _ e | .incDec _ _ e | .subscript _ e _ | .paren _ e => e.vars
  | .binary _ _ l r | .assign _ _ l r => l.vars ++ r.vars
  | .call _ (.id _) args => Expr.allVars args
  | .call _ callee args => callee.vars ++ Expr.allVars args

/-- The identifiers of a list of expressions that stand for variables. -/
def Expr.allVars : List Expr → List Node
  | [] => []
  | e :: es => e.vars ++ Expr.allVars es

end

/-- The variables of an expression a statement may lack. -/
def rootVars : Option Root → List Node
  | none => []
  | some r => r.expr.vars

/-- A use of a variable: the identifier, the scopes the compiler sees there, and what the blocks
around it have declared in front of it, the innermost block first. -/
structure Use where
  env : Env
  scopes : List (List VarSym)
  node : Node

mutual

/-- The uses of variables in a statement; `cur` is what the block has declared so far, `outer`
what the blocks around it have. -/
def Stmt.uses (env : Env) (cur : List VarSym) (outer : List (List VarSym)) :
    Stmt Nat → List Use
  | .semi | .stateChg .. | .label .. | .jump .. => []
  | .assign _ _ lhs rhs | .subAssign _ _ lhs _ rhs =>
    (lhs :: rhs.expr.vars).map (Use.mk env (cur :: outer))
  | .ifElse _ cond s t =>
    cond.expr.vars.map (Use.mk env (cur :: outer)) ++ s.uses env cur outer ++
      t.uses env (cur ++ s.decls) outer
  | .whileLoop _ cond s =>
    cond.expr.vars.map (Use.mk env (cur :: outer)) ++ s.uses env cur outer
  | .doWhile _ cond s =>
    s.uses env cur outer ++ cond.expr.vars.map (Use.mk env ((cur ++ s.decls) :: outer))
  | .forLoop _ init cond loop s =>
    (rootVars init ++ rootVars cond ++ rootVars loop).map (Use.mk env (cur :: outer)) ++
      s.uses env cur outer
  | .varDecl _ _ _ init _ => (rootVars init).map (Use.mk env (cur :: outer))
  | .exprStmt e => e.expr.vars.map (Use.mk env (cur :: outer))
  | .ret _ e => (rootVars e).map (Use.mk env (cur :: outer))
  | .block body => Stmt.allUses (env.enterBlock body) [] (cur :: outer) body

/-- The uses of variables in the statements of a block. -/
def Stmt.allUses (env : Env) (cur : List VarSym) (outer : List (List VarSym)) :
    List (Stmt Nat) → List Use
  | [] => []
  | s :: ss => s.uses env cur outer ++ Stmt.allUses env (cur ++ s.decls) outer ss

end

/-- The uses of variables in the body of a function or an event with scope `env`. -/
def bodyUses (env : Env) (body : List (Stmt Nat)) : List Use :=
  Stmt.allUses (env.enterBlock body) [] [] body

namespace Use

/-- The innermost declaration in a block around the use and in front of it. -/
def inBlock (u : Use) : Option VarSym := u.scopes.findSome? (lookup u.node.text)

/-- The declaration lexical scoping binds the use to: the innermost one in a block around the use
and in front of it, else a parameter, else a global. -/
def lexical (u : Use) : Option VarSym :=
  (u.inBlock.or (lookup u.node.text u.env.params)).or (lookup u.node.text u.env.globals)

/-- A block around the use declares the name in front of it, but a block inside declares it
again behind it. -/
def Skips (u : Use) : Prop :=
  ∃ v, u.inBlock = some v ∧
    (u.env.blocks.findSome? fun b => lookup u.node.text b.1) ≠ some v

/-- The compiler reports an error for the use. -/
def Rejected (u : Use) : Prop := (u.env.resolveVar u.node).messages ≠ []

end Use

/-! ## Tokens in the order of the text -/

/-- The tokens of some uses are not in front of position `a`; the outcome is the position behind
them. -/
def scanVars (a : Nat) (ns : List Node) : Option Nat :=
  if ∀ n ∈ ns, a ≤ n.tokenStartIndex then
    some (ns.foldl (fun m n => max m (n.tokenStartIndex + 1)) a)
  else none

mutual

/-- The tokens of a statement are in the order of the text from position `a` on; the outcome is
the position behind it. -/
def Stmt.scan {A : Type} (a : Nat) : Stmt A → Option Nat
  | .semi | .stateChg .. | .label .. | .jump .. => some a
  | .assign _ _ lhs rhs | .subAssign _ _ lhs _ rhs => scanVars a (lhs :: rhs.expr.vars)
  | .ifElse _ cond s t => do
    let a ← scanVars a cond.expr.vars
    let a ← s.scan a
    t.scan a
  | .whileLoop _ cond s => do
    let a ← scanVars a cond.expr.vars
    s.scan a
  | .doWhile _ cond s => do
    let a ← s.scan a
    scanVars a cond.expr.vars
  | .forLoop _ init cond loop s => do
    let a ← scanVars a (rootVars init ++ rootVars cond ++ rootVars loop)
    s.scan a
  | .varDecl n _ name init _ =>
    if a ≤ n.tokenStartIndex ∧ n.tokenStartIndex ≤ name.tokenStartIndex ∧
      name.tokenStartIndex ≤ n.tokenStopIndex ∧
      ∀ u ∈ rootVars init, name.tokenStartIndex < u.tokenStartIndex ∧
        u.tokenStartIndex ≤ n.tokenStopIndex
    then some (n.tokenStopIndex + 1) else none
  | .exprStmt e => scanVars a e.expr.vars
  | .ret _ e => scanVars a (rootVars e)
  | .block body => Stmt.scanAll a body

/-- The tokens of the statements of a block are in the order of the text. -/
def Stmt.scanAll {A : Type} (a : Nat) : List (Stmt A) → Option Nat
  | [] => some a
  | s :: ss => do
    let a ← s.scan a
    Stmt.scanAll a ss

end

variable {a b : Nat}

lemma scanVars_eq_some {ns : List Node} (h : scanVars a ns = some b) :
    a ≤ b ∧ ∀ n ∈ ns, a ≤ n.tokenStartIndex ∧ n.tokenStartIndex < b := by
  unfold scanVars at h
  split_ifs at h with hge
  obtain rfl := Option.some.inj h
  have hfold : ∀ (ns : List Node) (a : Nat),
      a ≤ ns.foldl (fun m n => max m (n.tokenStartIndex + 1)) a ∧
        ∀ n ∈ ns, n.tokenStartIndex < ns.foldl (fun m n => max m (n.tokenStartIndex + 1)) a := by
    intro ns
    induction ns with
    | nil => simp
    | cons n ns ih =>
      intro a
      obtain ⟨hle, hlt⟩ := ih (max a (n.tokenStartIndex + 1))
      rw [List.foldl_cons]
      refine ⟨by omega, fun m hm => ?_⟩
      rcases List.mem_cons.mp hm with rfl | hm
      · omega
      · exact hlt m hm
  obtain ⟨hle, hlt⟩ := hfold ns a
  exact ⟨hle, fun n hn => ⟨hge n hn, hlt n hn⟩⟩

/-- The symbol's declaration ends in front of a position. -/
def VarSym.PlacedBefore (v : VarSym) (a : Nat) : Prop :=
  ∃ start stop, v.declRange = some (start, stop) ∧ v.defStart ≤ stop ∧ stop < a

variable {v : VarSym}

lemma VarSym.PlacedBefore.mono (h : v.PlacedBefore a) (hab : a ≤ b) :
    v.PlacedBefore b := by
  obtain ⟨start, stop, hr, hd, hs⟩ := h
  exact ⟨start, stop, hr, hd, by omega⟩

variable {n : Node}

lemma VarSym.PlacedBefore.usable (h : v.PlacedBefore a) (hn : a ≤ n.tokenStartIndex) :
    notYetUsable v n = false := by
  obtain ⟨start, stop, hr, hd, hs⟩ := h
  have h₁ : ¬ n.tokenStartIndex < v.defStart := by omega
  have h₂ : ¬ (start ≤ n.tokenStartIndex ∧ n.tokenStartIndex ≤ stop) := by omega
  simp only [notYetUsable, hr, h₁, h₂, decide_false, Bool.or_self]

lemma notYetUsable_of_lt (h : n.tokenStartIndex < v.defStart) :
    notYetUsable v n = true := by
  simp [notYetUsable, h]

mutual

/-- Where the declarations of a statement stand. -/
lemma Stmt.scan_eq_some {a b : Nat} : ∀ s : Stmt Nat, s.scan a = some b →
    a ≤ b ∧ ∀ v ∈ s.decls, a ≤ v.defStart ∧ v.PlacedBefore b
  | .semi, h | .stateChg .., h | .label .., h | .jump .., h => by
    obtain rfl := Option.some.inj h
    exact ⟨Nat.le_refl _, by simp [Stmt.decls]⟩
  | .assign .., h | .subAssign .., h | .exprStmt _, h | .ret .., h =>
    ⟨(scanVars_eq_some h).1, by simp [Stmt.decls]⟩
  | .ifElse _ cond s t, h => by
    obtain ⟨a₁, hc, h⟩ := Option.bind_eq_some_iff.mp h
    obtain ⟨a₂, hs, ht⟩ := Option.bind_eq_some_iff.mp h
    obtain ⟨hle₁, -⟩ := scanVars_eq_some hc
    obtain ⟨hle₂, hds⟩ := Stmt.scan_eq_some s hs
    obtain ⟨hle₃, hdt⟩ := Stmt.scan_eq_some t ht
    refine ⟨by omega, fun v hv => ?_⟩
    rcases List.mem_append.mp hv with hv | hv
    · exact ⟨hle₁.trans (hds v hv).1, (hds v hv).2.mono hle₃⟩
    · exact ⟨(hle₁.trans hle₂).trans (hdt v hv).1, (hdt v hv).2⟩
  | .whileLoop _ _ s, h | .forLoop _ _ _ _ s, h => by
    obtain ⟨a₁, hc, hs⟩ := Option.bind_eq_some_iff.mp h
    obtain ⟨hle₁, -⟩ := scanVars_eq_some hc
    obtain ⟨hle₂, hds⟩ := Stmt.scan_eq_some s hs
    exact ⟨by omega, fun v hv => ⟨hle₁.trans (hds v hv).1, (hds v hv).2⟩⟩
  | .doWhile _ cond s, h => by
    obtain ⟨a₁, hs, hc⟩ := Option.bind_eq_some_iff.mp h
    obtain ⟨hle₁, -⟩ := scanVars_eq_some hc
    obtain ⟨hle₂, hds⟩ := Stmt.scan_eq_some s hs
    exact ⟨by omega, fun v hv => ⟨(hds v hv).1, (hds v hv).2.mono hle₁⟩⟩
  | .varDecl n type name init slot, h => by
    rw [Stmt.scan] at h
    split_ifs at h with hpos
    obtain rfl := Option.some.inj h
    obtain ⟨h₁, h₂, h₃, -⟩ := hpos
    refine ⟨by omega, fun v hv => ?_⟩
    obtain rfl := List.mem_singleton.mp hv
    exact ⟨by simpa using h₁.trans h₂, _, _, rfl, h₃, Nat.lt_succ_self _⟩
  | .block body, h => ⟨Stmt.le_of_scanAll body h, by simp [Stmt.decls]⟩

lemma Stmt.le_of_scanAll {a b : Nat} : ∀ ss : List (Stmt Nat), Stmt.scanAll a ss = some b → a ≤ b
  | [], h => Nat.le_of_eq (Option.some.inj h)
  | s :: ss, h => by
    obtain ⟨a₁, hs, hss⟩ := Option.bind_eq_some_iff.mp h
    exact (Stmt.scan_eq_some s hs).1.trans (Stmt.le_of_scanAll ss hss)

end

lemma Stmt.scanAll_eq_some {ss : List (Stmt Nat)} (h : Stmt.scanAll a ss = some b) :
    ∀ v ∈ ss.flatMap Stmt.decls, a ≤ v.defStart ∧ v.PlacedBefore b := by
  induction ss generalizing a with
  | nil => simp
  | cons s ss ih =>
    obtain ⟨a₁, hs, hss⟩ := Option.bind_eq_some_iff.mp h
    obtain ⟨hle, hds⟩ := Stmt.scan_eq_some s hs
    have hle' := Stmt.le_of_scanAll ss hss
    intro v hv
    rw [List.flatMap_cons] at hv
    rcases List.mem_append.mp hv with hv | hv
    · exact ⟨(hds v hv).1, (hds v hv).2.mono hle'⟩
    · exact ⟨hle.trans (ih hss v hv).1, (ih hss v hv).2⟩

/-! ## Where the blocks split -/

/-- A block's table splits into what stands in front of a use and what the use may not see. -/
def SplitsAt (n : Node) (block : List VarSym × List LabelSym) (scope : List VarSym) : Prop :=
  ∃ pending, block.1 = scope ++ pending ∧ (∀ v ∈ scope, notYetUsable v n = false) ∧
    ∀ v ∈ pending, notYetUsable v n = true

/-- Every block around a use splits at it. -/
def Use.Aligned (u : Use) : Prop :=
  List.Forall₂ (SplitsAt u.node) u.env.blocks u.scopes

/-- A block's table splits into what ends in front of position `a` and what starts behind
position `b`. -/
def SplitsAround (a b : Nat) (block : List VarSym × List LabelSym) (scope : List VarSym) : Prop :=
  ∃ pending, block.1 = scope ++ pending ∧ (∀ v ∈ scope, v.PlacedBefore a) ∧
    ∀ v ∈ pending, b ≤ v.defStart

lemma SplitsAround.mono {a' b' : Nat} {block : List VarSym × List LabelSym} {scope : List VarSym}
    (h : SplitsAround a b block scope) (ha : a ≤ a') (hb : b' ≤ b) :
    SplitsAround a' b' block scope := by
  obtain ⟨pending, heq, hscope, hpending⟩ := h
  exact ⟨pending, heq, fun v hv => (hscope v hv).mono ha, fun v hv => hb.trans (hpending v hv)⟩

lemma SplitsAround.splitsAt {block : List VarSym × List LabelSym} {scope : List VarSym}
    (h : SplitsAround a b block scope) (ha : a ≤ n.tokenStartIndex) (hb : n.tokenStartIndex < b) :
    SplitsAt n block scope := by
  obtain ⟨pending, heq, hscope, hpending⟩ := h
  exact ⟨pending, heq, fun v hv => (hscope v hv).usable ha,
    fun v hv => notYetUsable_of_lt (Nat.lt_of_lt_of_le hb (hpending v hv))⟩

/-- A statement between positions `a` and `b` that declares `decls`, in a block that has declared
`cur` so far. -/
structure InText (a b : Nat) (env : Env) (cur : List VarSym) (outer : List (List VarSym))
    (decls : List VarSym) : Prop where
  tables : ∃ block blocks, env.blocks = block :: blocks ∧
    (∃ pending, block.1 = cur ++ (decls ++ pending) ∧ ∀ v ∈ pending, b ≤ v.defStart) ∧
    List.Forall₂ (SplitsAround a b) blocks outer
  before : ∀ v ∈ cur, v.PlacedBefore a

namespace InText

variable {a b m : Nat} {env : Env} {cur : List VarSym} {outer : List (List VarSym)}
  {decls decls' : List VarSym}

/-- The first of two parts. -/
lemma left (h : InText a b env cur outer (decls ++ decls')) (hm : m ≤ b)
    (hd : ∀ v ∈ decls', m ≤ v.defStart) : InText a m env cur outer decls := by
  obtain ⟨⟨block, blocks, henv, ⟨pending, hsplit, hpending⟩, houter⟩, hbefore⟩ := h
  refine ⟨⟨block, blocks, henv, ⟨decls' ++ pending, by rw [hsplit, List.append_assoc], ?_⟩, ?_⟩,
    hbefore⟩
  · intro v hv
    rcases List.mem_append.mp hv with hv | hv
    · exact hd v hv
    · exact hm.trans (hpending v hv)
  · exact houter.imp fun _ _ hs => hs.mono (Nat.le_refl _) hm

/-- The second of two parts. -/
lemma right (h : InText a b env cur outer (decls ++ decls')) (hm : a ≤ m)
    (hd : ∀ v ∈ decls, v.PlacedBefore m) : InText m b env (cur ++ decls) outer decls' := by
  obtain ⟨⟨block, blocks, henv, ⟨pending, hsplit, hpending⟩, houter⟩, hbefore⟩ := h
  refine ⟨⟨block, blocks, henv, ⟨pending, by simp [hsplit], hpending⟩, ?_⟩, fun v hv => ?_⟩
  · exact houter.imp fun _ _ hs => hs.mono hm (Nat.le_refl _)
  · rcases List.mem_append.mp hv with hv | hv
    · exact (hbefore v hv).mono hm
    · exact hd v hv

/-- A part in front of the declarations. -/
lemma head (h : InText a b env cur outer decls) (hm : m ≤ b) (hd : ∀ v ∈ decls, m ≤ v.defStart) :
    InText a m env cur outer [] :=
  left (show InText a b env cur outer ([] ++ decls) from h) hm hd

/-- A part in front of which nothing is declared. -/
lemma tail (h : InText a b env cur outer decls) (hm : a ≤ m) : InText m b env cur outer decls := by
  have := right (show InText a b env cur outer ([] ++ decls) from h) hm (by simp)
  simpa using this

/-- A use between the positions. -/
lemma aligned (h : InText a b env cur outer []) {n : Node} (ha : a ≤ n.tokenStartIndex)
    (hb : n.tokenStartIndex < b) : (Use.mk env (cur :: outer) n).Aligned := by
  obtain ⟨⟨block, blocks, henv, ⟨pending, hsplit, hpending⟩, houter⟩, hbefore⟩ := h
  have hblock : SplitsAround a b block cur := ⟨pending, hsplit, hbefore, hpending⟩
  simp only [Use.Aligned, henv]
  exact .cons (hblock.splitsAt ha hb) (houter.imp fun _ _ hs => hs.splitsAt ha hb)

/-- The uses of an expression. -/
lemma aligned_vars (h : InText a b env cur outer []) {ns : List Node}
    (hns : scanVars a ns = some b) : ∀ u ∈ ns.map (Use.mk env (cur :: outer)), u.Aligned := by
  intro u hu
  obtain ⟨n, hn, rfl⟩ := List.mem_map.mp hu
  obtain ⟨-, hpos⟩ := scanVars_eq_some hns
  exact h.aligned (hpos n hn).1 (hpos n hn).2

/-- The inside of a block. -/
lemma block (h : InText a b env cur outer []) (body : List (Stmt Nat)) :
    InText a b (env.enterBlock body) [] (cur :: outer) (body.flatMap Stmt.decls) := by
  obtain ⟨⟨block, blocks, henv, ⟨pending, hsplit, hpending⟩, houter⟩, hbefore⟩ := h
  refine ⟨⟨_, env.blocks, rfl, ⟨[], by simp, by simp⟩, ?_⟩, by simp⟩
  rw [henv]
  exact .cons ⟨pending, hsplit, hbefore, hpending⟩ houter

end InText

/-- The uses in the initialiser of a declaration do not see the variable it declares. -/
lemma aligned_varDecl {env : Env} {cur : List VarSym} {outer : List (List VarSym)} {name : Node}
    {type : VarType} {init : Option Root} {slot : Nat}
    (hscan : (Stmt.varDecl n type name init slot).scan a = some b)
    (h : InText a b env cur outer (Stmt.varDecl n type name init slot).decls) :
    ∀ u ∈ (Stmt.varDecl n type name init slot).uses env cur outer, u.Aligned := by
  rw [Stmt.scan] at hscan
  split_ifs at hscan with hpos
  obtain rfl := Option.some.inj hscan
  obtain ⟨h₁, h₂, h₃, hinit⟩ := hpos
  intro u hu
  obtain ⟨m, hm, rfl⟩ := List.mem_map.mp hu
  obtain ⟨hlo, hhi⟩ := hinit m hm
  obtain ⟨⟨block, blocks, henv, ⟨pending, hsplit, hpending⟩, houter⟩, hbefore⟩ := h
  simp only [Use.Aligned, henv]
  refine .cons ⟨_, hsplit, fun v hv => (hbefore v hv).usable (by omega), fun v hv => ?_⟩
    (houter.imp fun _ _ hs => hs.splitsAt (by omega) (by omega))
  rcases List.mem_append.mp hv with hv | hv
  · obtain rfl := List.mem_singleton.mp hv
    have : n.tokenStartIndex ≤ m.tokenStartIndex := by omega
    simp [notYetUsable, this, hhi]
  · have := hpending v hv
    exact notYetUsable_of_lt (by omega)

mutual

/-- Every use in a statement sees of each block what stands in front of it. -/
theorem aligned_of_uses {a b : Nat} {env : Env} {cur : List VarSym} {outer : List (List VarSym)} :
    ∀ s : Stmt Nat, s.scan a = some b → InText a b env cur outer s.decls →
      ∀ u ∈ s.uses env cur outer, u.Aligned
  | .semi, _, _ | .stateChg .., _, _ | .label .., _, _ | .jump .., _, _ => by simp [Stmt.uses]
  | .assign .., hscan, h | .subAssign .., hscan, h | .exprStmt _, hscan, h | .ret .., hscan, h =>
    h.aligned_vars hscan
  | .ifElse _ cond s t, hscan, h => by
    obtain ⟨a₁, hc, hscan⟩ := Option.bind_eq_some_iff.mp hscan
    obtain ⟨a₂, hs, ht⟩ := Option.bind_eq_some_iff.mp hscan
    obtain ⟨hle₁, -⟩ := scanVars_eq_some hc
    obtain ⟨hle₂, hds⟩ := Stmt.scan_eq_some s hs
    obtain ⟨hle₃, hdt⟩ := Stmt.scan_eq_some t ht
    have hcond : InText a a₁ env cur outer [] := h.head (by omega) fun v hv => by
      rcases List.mem_append.mp hv with hv | hv
      · exact (hds v hv).1
      · exact hle₂.trans (hdt v hv).1
    have hparts : InText a₁ b env cur outer (s.decls ++ t.decls) := h.tail hle₁
    intro u hu
    rw [Stmt.uses] at hu
    rcases List.mem_append.mp hu with hu | hu
    · rcases List.mem_append.mp hu with hu | hu
      · exact hcond.aligned_vars hc u hu
      · exact aligned_of_uses s hs (hparts.left hle₃ fun v hv => (hdt v hv).1) u hu
    · exact aligned_of_uses t ht (hparts.right hle₂ fun v hv => (hds v hv).2) u hu
  | .whileLoop _ _ s, hscan, h | .forLoop _ _ _ _ s, hscan, h => by
    obtain ⟨a₁, hc, hs⟩ := Option.bind_eq_some_iff.mp hscan
    obtain ⟨hle₁, -⟩ := scanVars_eq_some hc
    obtain ⟨hle₂, hds⟩ := Stmt.scan_eq_some s hs
    intro u hu
    rw [Stmt.uses] at hu
    rcases List.mem_append.mp hu with hu | hu
    · exact (h.head hle₂ fun v hv => (hds v hv).1).aligned_vars hc u hu
    · exact aligned_of_uses s hs (h.tail hle₁) u hu
  | .doWhile _ cond s, hscan, h => by
    obtain ⟨a₁, hs, hc⟩ := Option.bind_eq_some_iff.mp hscan
    obtain ⟨hle₁, -⟩ := scanVars_eq_some hc
    obtain ⟨hle₂, hds⟩ := Stmt.scan_eq_some s hs
    have h' : InText a b env cur outer (s.decls ++ []) := by simpa [Stmt.decls] using h
    intro u hu
    rw [Stmt.uses] at hu
    rcases List.mem_append.mp hu with hu | hu
    · exact aligned_of_uses s hs (h'.left hle₁ (by simp)) u hu
    · exact (h'.right hle₂ fun v hv => (hds v hv).2).aligned_vars hc u hu
  | .varDecl .., hscan, h => aligned_varDecl hscan h
  | .block body, hscan, h => aligned_of_allUses body hscan (h.block body)

/-- Every use in the statements of a block sees of each block what stands in front of it. -/
theorem aligned_of_allUses {a b : Nat} {env : Env} {cur : List VarSym}
    {outer : List (List VarSym)} : ∀ ss : List (Stmt Nat), Stmt.scanAll a ss = some b →
      InText a b env cur outer (ss.flatMap Stmt.decls) →
      ∀ u ∈ Stmt.allUses env cur outer ss, u.Aligned
  | [], _, _ => by simp [Stmt.allUses]
  | s :: ss, hscan, h => by
    obtain ⟨a₁, hs, hss⟩ := Option.bind_eq_some_iff.mp hscan
    obtain ⟨hle₁, hds⟩ := Stmt.scan_eq_some s hs
    have hdss := Stmt.scanAll_eq_some hss
    rw [List.flatMap_cons] at h
    intro u hu
    rw [Stmt.allUses] at hu
    rcases List.mem_append.mp hu with hu | hu
    · exact aligned_of_uses s hs
        (h.left (Stmt.le_of_scanAll ss hss) fun v hv => (hdss v hv).1) u hu
    · exact aligned_of_allUses ss hss (h.right hle₁ fun v hv => (hds v hv).2) u hu

end

variable {body : List (Stmt Nat)}

/-- The uses of a body. -/
lemma aligned_bodyUses {env : Env} (hblocks : env.blocks = [])
    (hscan : Stmt.scanAll a body = some b) : ∀ u ∈ bodyUses env body, u.Aligned := by
  refine aligned_of_allUses body hscan ⟨⟨_, env.blocks, rfl, ⟨[], by simp, by simp⟩, ?_⟩, by simp⟩
  rw [hblocks]
  exact .nil

/-! ## Resolution -/

lemma lookup_append (name : String) (vs ws : List VarSym) :
    lookup name (vs ++ ws) = (lookup name vs).or (lookup name ws) := by
  simp [lookup, List.find?_append]

/-- A declaration in front of the use can be used. -/
lemma usable_of_splits {blocks : List (List VarSym × List LabelSym)} {scopes : List (List VarSym)}
    (h : List.Forall₂ (SplitsAt n) blocks scopes) {w : VarSym}
    (hw : scopes.findSome? (lookup n.text) = some w) : notYetUsable w n = false := by
  induction h with
  | nil => cases hw
  | cons hsplit _ ih =>
    obtain ⟨pending, -, hscope, -⟩ := hsplit
    rw [List.findSome?_cons] at hw
    split at hw
    · rename_i v hv
      obtain rfl := Option.some.inj hw
      exact hscope v (lookup_mem hv).1
    · exact ih hw

/-- What the nearest declaration of a name says about the declarations in front of the use. -/
lemma inBlock_of_splits {blocks : List (List VarSym × List LabelSym)} {scopes : List (List VarSym)}
    (h : List.Forall₂ (SplitsAt n) blocks scopes) :
    match blocks.findSome? fun b => lookup n.text b.1 with
    | none => scopes.findSome? (lookup n.text) = none
    | some v => if notYetUsable v n then ∀ w, scopes.findSome? (lookup n.text) = some w → w ≠ v
      else scopes.findSome? (lookup n.text) = some v := by
  induction h with
  | nil => rfl
  | @cons block scope blocks scopes hsplit hrest ih =>
    obtain ⟨pending, heq, hscope, hpending⟩ := hsplit
    have hblock : lookup n.text block.1 = (lookup n.text scope).or (lookup n.text pending) := by
      rw [heq, lookup_append]
    simp only [List.findSome?_cons, hblock]
    cases hs : lookup n.text scope with
    | some v => simp [hscope v (lookup_mem hs).1]
    | none =>
      cases hp : lookup n.text pending with
      | none => simpa using ih
      | some v =>
        -- the block declares the name, but behind the use
        have hv := hpending v (lookup_mem hp).1
        simp only [Option.none_or, hv, if_true]
        rintro w hw rfl
        rw [usable_of_splits hrest hw] at hv
        cases hv

/-- Resolution in the global scope finds the global variables, whose names are not those of
types. -/
lemma resolveGlobal_eq {env : Env} (hglobals : ∀ v ∈ env.globals, v.name ∉ typeNames)
    (name : String) :
    env.resolveGlobal name = (lookup name env.globals).map .var ∨
      (env.resolveGlobal name = some .type ∧ lookup name env.globals = none) := by
  unfold resolveGlobal
  split_ifs with htype
  · refine .inr ⟨rfl, ?_⟩
    cases h : lookup name env.globals with
    | none => rfl
    | some v =>
      obtain ⟨hmem, rfl⟩ := lookup_mem h
      exact absurd (by simpa using htype) (hglobals v hmem)
  · exact .inl rfl

/-- The outcomes of a search that goes on in the global scope. -/
lemma resolved_iff {env : Env} {o : Option VarSym}
    (hglobals : ∀ v ∈ env.globals, v.name ∉ typeNames)
    (h : ∃ msg, env.ensureResolve n =
      match (o.map Resolved.var).or (env.resolveGlobal n.text) with
      | some sym => .ok (some sym)
      | none => do
        .report msg
        .ok none) :
    (∀ v, env.ensureResolve n = .ok (some (.var v)) ↔
      o.or (lookup n.text env.globals) = some v) ∧
    ((env.resolveVar n).messages ≠ [] ↔ o.or (lookup n.text env.globals) = none) := by
  obtain ⟨msg, h⟩ := h
  simp only [resolveVar, h]
  cases o with
  | some w => simp
  | none =>
    simp only [Option.map_none, Option.none_or]
    rcases resolveGlobal_eq hglobals n.text with hg | ⟨hg, hl⟩
    · rw [hg]
      cases lookup n.text env.globals with
      | some w => simp
      | none =>
        refine ⟨fun v => by simp [Diag.bind_eq_ok], ?_⟩
        simp only [Option.map_none, iff_true]
        exact fun hm => absurd (Diag.messages_of_bind hm) (by simp)
    · simp [hg, hl]

/-- Resolution is lexical at a use that passes over no declaration. -/
lemma lexical_of_aligned {u : Use} (hal : u.Aligned) (hskip : ¬ u.Skips)
    (hglobals : ∀ v ∈ u.env.globals, v.name ∉ typeNames) :
    (∀ v, u.env.ensureResolve u.node = .ok (some (.var v)) ↔ u.lexical = some v) ∧
      (u.Rejected ↔ u.lexical = none) := by
  have hsplit := inBlock_of_splits hal
  cases hfirst : u.env.blocks.findSome? fun b => lookup u.node.text b.1 with
  | none =>
    rw [hfirst] at hsplit
    have hin : u.inBlock = none := hsplit
    rw [Use.lexical, hin, Option.none_or]
    cases hp : lookup u.node.text u.env.params with
    | none =>
      refine resolved_iff (o := none) hglobals
        ⟨location u.node ++ " Undefined symbol '" ++ u.node.text ++ "'", ?_⟩
      simp only [ensureResolve, resolveLocal, hfirst, hp, Option.or_none, Option.map_none,
        Option.none_or]
      all_goals rfl
    | some p =>
      refine resolved_iff hglobals ⟨"", ?_⟩
      simp only [ensureResolve, resolveLocal, hfirst, hp, Option.none_or, Option.map_some,
        Option.some_or, ite_self]
  | some v =>
    by_cases husable : notYetUsable v u.node = true
    · simp only [hfirst, husable, if_true] at hsplit
      have hin : u.inBlock = none := by
        by_contra hne
        obtain ⟨w, hw⟩ := Option.ne_none_iff_exists'.mp hne
        refine hskip ⟨w, hw, ?_⟩
        rw [hfirst]
        exact fun heq => hsplit w hw (Option.some.inj heq).symm
      rw [Use.lexical, hin, Option.none_or]
      refine resolved_iff hglobals ⟨location u.node ++ " Symbol '" ++ u.node.text ++
        "' can not be used before it is defined", ?_⟩
      simp only [ensureResolve, resolveLocal, hfirst, Option.some_or, husable, if_true]
      all_goals rfl
    · simp only [hfirst, husable, Bool.false_eq_true, if_false] at hsplit
      have hin : u.inBlock = some v := hsplit
      have hres : u.env.ensureResolve u.node = .ok (some (.var v)) := by
        simp only [ensureResolve, resolveLocal, hfirst, Option.some_or, husable, Bool.false_eq_true,
          if_false]
      rw [Use.lexical, hin, Option.some_or, Option.some_or, Use.Rejected, resolveVar, hres]
      simp

/-! ## Scripts -/

mutual

lemma Stmt.scan_erase {a : Nat} : ∀ s : Stmt Nat, s.erase.scan a = s.scan a
  | .semi | .assign .. | .subAssign .. | .varDecl .. | .exprStmt _ | .ret .. | .stateChg ..
  | .label .. | .jump .. => rfl
  | .ifElse _ _ s t => by
    simp only [Stmt.erase, Stmt.scan, fun a => Stmt.scan_erase (a := a) s,
      fun a => Stmt.scan_erase (a := a) t]
  | .whileLoop _ _ s | .doWhile _ _ s | .forLoop _ _ _ _ s => by
    simp only [Stmt.erase, Stmt.scan, fun a => Stmt.scan_erase (a := a) s]
  | .block body => Stmt.scanAll_eraseAll body

lemma Stmt.scanAll_eraseAll {a : Nat} : ∀ ss : List (Stmt Nat),
    Stmt.scanAll a (Stmt.eraseAll ss) = Stmt.scanAll a ss
  | [] => rfl
  | s :: ss => by
    simp only [Stmt.eraseAll, Stmt.scanAll, Stmt.scan_erase s,
      fun a => Stmt.scanAll_eraseAll (a := a) ss]

end

/-- The tokens of the bodies of a script are in the order of the text. -/
def inTextOrder {A : Type} (script : Script A) : Bool :=
  script.all fun g =>
    match g with
    | .varDecl .. => true
    | .funcDef f => (Stmt.scanAll 0 f.body).isSome
    | .stateDef s => s.events.all fun e => (Stmt.scanAll 0 e.body).isSome

lemma inTextOrder_map_erase (script : Script Nat) :
    inTextOrder (script.map GlobalStmt.erase) = inTextOrder script := by
  simp only [inTextOrder, List.all_map]
  congr 1
  funext g
  cases g with
  | varDecl => rfl
  | funcDef f => simp [GlobalStmt.erase, Stmt.scanAll_eraseAll]
  | stateDef s =>
    simp [GlobalStmt.erase, EventDef.erase, Function.comp_def, Stmt.scanAll_eraseAll]

/-- The bodies of the functions and events of a script, with their scopes. -/
inductive IsBody (env : Env) (script : Script Nat) : Env → List (Stmt Nat) → Prop
  | function {f : FuncDef Nat} (hf : f ∈ functionsOf script) :
      IsBody env script (env.function f) f.body
  | event {s : StateDef Nat} {e : EventDef Nat} (hs : s ∈ statesOf script) (he : e ∈ s.events) :
      IsBody env script (env.event s e) e.body

lemma IsBody.scan {env env' : Env} {script : Script Nat} (h : IsBody env script env' body)
    (htext : inTextOrder script = true) :
    ∃ b, Stmt.scanAll 0 body = some b := by
  rw [inTextOrder, List.all_eq_true] at htext
  cases h with
  | function hf => exact Option.isSome_iff_exists.mp (htext _ (mem_functionsOf.mp hf))
  | event hs he =>
    exact Option.isSome_iff_exists.mp (List.all_eq_true.mp (htext _ (mem_statesOf.mp hs)) _ he)

lemma IsBody.env {env env' : Env} {script : Script Nat} (h : IsBody env script env' body) :
    env'.blocks = env.blocks ∧ env'.globals = env.globals ∧ env'.methods = env.methods := by
  cases h <;> exact ⟨rfl, rfl, rfl⟩

mutual

/-- The scopes of a use differ from those of the statement in the blocks only. -/
lemma Stmt.env_of_uses {env : Env} {cur : List VarSym} {outer : List (List VarSym)} :
    ∀ (s : Stmt Nat) (u : Use), u ∈ s.uses env cur outer →
      u.env = { env with blocks := u.env.blocks }
  | .semi, u, h | .stateChg .., u, h | .label .., u, h | .jump .., u, h => by
    simp [Stmt.uses] at h
  | .assign .., u, h | .subAssign .., u, h | .exprStmt _, u, h | .ret .., u, h
  | .varDecl .., u, h => by
    obtain ⟨n, -, rfl⟩ := List.mem_map.mp h
    rfl
  | .ifElse _ cond s t, u, h => by
    rw [Stmt.uses] at h
    rcases List.mem_append.mp h with h | h
    · rcases List.mem_append.mp h with h | h
      · obtain ⟨n, -, rfl⟩ := List.mem_map.mp h
        rfl
      · exact Stmt.env_of_uses s u h
    · exact Stmt.env_of_uses t u h
  | .whileLoop _ cond s, u, h | .forLoop _ _ cond _ s, u, h => by
    rw [Stmt.uses] at h
    rcases List.mem_append.mp h with h | h
    · obtain ⟨n, -, rfl⟩ := List.mem_map.mp h
      rfl
    · exact Stmt.env_of_uses s u h
  | .doWhile _ cond s, u, h => by
    rw [Stmt.uses] at h
    rcases List.mem_append.mp h with h | h
    · exact Stmt.env_of_uses s u h
    · obtain ⟨n, -, rfl⟩ := List.mem_map.mp h
      rfl
  | .block body, u, h => by
    rw [Stmt.uses] at h
    have hu := Stmt.env_of_allUses body u h
    exact hu

lemma Stmt.env_of_allUses {env : Env} {cur : List VarSym} {outer : List (List VarSym)} :
    ∀ (ss : List (Stmt Nat)) (u : Use), u ∈ Stmt.allUses env cur outer ss →
      u.env = { env with blocks := u.env.blocks }
  | [], u, h => by simp [Stmt.allUses] at h
  | s :: ss, u, h => by
    rw [Stmt.allUses] at h
    rcases List.mem_append.mp h with h | h
    · exact Stmt.env_of_uses s u h
    · exact Stmt.env_of_allUses ss u h

end

/-- The global variables of a script do not have the names of types. -/
lemma ScriptNumbered.globals {b : Builtins} {src : Source} {script : Script Unit}
    {numbered : Script Nat} (h : ScriptNumbered b script numbered) :
    ∀ v ∈ (scriptEnv b src numbered).globals, v.name ∉ typeNames := by
  intro v hv htype
  rcases List.mem_append.mp hv with hv | hv
  · have hnodup := b.nodup
    rw [builtinNames, List.append_assoc] at hnodup
    refine (List.nodup_append.mp hnodup).2.2 v.name htype v.name ?_ rfl
    exact List.mem_append_right _ (List.mem_map_of_mem hv)
  · refine (List.nodup_append.mp h.nodup).2.2 v.name ?_ v.name ?_ rfl
    · exact List.mem_append_left _ (List.mem_append_left _ htype)
    · simp only [globalSyms, List.mem_filterMap] at hv
      obtain ⟨g, hg, hv⟩ := hv
      cases g with
      | varDecl n type name init slot =>
        obtain rfl := Option.some.inj hv
        exact List.mem_map.mpr ⟨_, hg, rfl⟩
      | _ => cases hv

/-- Name resolution is lexical scoping: a use of a variable in a function or an event is bound to
the innermost declaration in front of it, and rejected when there is none. -/
theorem resolution_lexical {b : Builtins} {src : Source} {script : Script Unit}
    {numbered : Script Nat} (hdef : defScript b script = .ok numbered)
    (htext : inTextOrder script = true) {env : Env} {body : List (Stmt Nat)}
    (hbody : IsBody (scriptEnv b src numbered) numbered env body) {u : Use}
    (hu : u ∈ bodyUses env body) (hskip : ¬ u.Skips) :
    (∀ v, u.env.ensureResolve u.node = .ok (some (.var v)) ↔ u.lexical = some v) ∧
      (u.Rejected ↔ u.lexical = none) := by
  have hnum := scriptNumbered hdef
  rw [← hnum.erase, inTextOrder_map_erase] at htext
  obtain ⟨p, hscan⟩ := hbody.scan htext
  obtain ⟨hblocks, hglobals, -⟩ := hbody.env
  refine lexical_of_aligned (aligned_bodyUses hblocks hscan u hu) hskip ?_
  rw [Stmt.env_of_allUses body u hu]
  show ∀ v ∈ env.globals, v.name ∉ typeNames
  rw [hglobals]
  exact hnum.globals

namespace LexicalSample

def source : Source := ⟨fun _ _ => "", some⟩

def node (text : String) (start stop : Nat) : Node := ⟨text, 1, 0, start, stop⟩

def ident (text : String) (start : Nat) : Root :=
  ⟨node "EXPR" start start, .id (node text start start)⟩

/-- `integer g; f(integer p) { integer x = p; { g = x; } }` -/
def script : Script Unit :=
  [.varDecl (node "VAR_DECL" 0 2) .integer (node "g" 1 1) none (),
    .funcDef ⟨none, node "f" 3 3, [⟨.integer, node "p" 6 6⟩],
      [.varDecl (node "VAR_DECL" 9 13) .integer (node "x" 10 10) (some (ident "p" 12)) (),
        .block [.assign (node "=" 15 17) .assign (node "g" 15 15) (ident "x" 17)]], ()⟩]

def function : FuncDef Nat :=
  ⟨none, node "f" 3 3, [⟨.integer, node "p" 6 6⟩],
    [.varDecl (node "VAR_DECL" 9 13) .integer (node "x" 10 10) (some (ident "p" 12)) 1,
      .block [.assign (node "=" 15 17) .assign (node "g" 15 15) (ident "x" 17)]], 2⟩

def numbered : Script Nat :=
  [.varDecl (node "VAR_DECL" 0 2) .integer (node "g" 1 1) none 0, .funcDef function]

def env : Env := (scriptEnv .empty source numbered).function function

/-- The use of `x` in the inner block. -/
def use : Use where
  env := (env.enterBlock function.body).enterBlock
    [.assign (node "=" 15 17) .assign (node "g" 15 15) (ident "x" 17)]
  scopes := [[], [⟨"x", .integer, 1, false, none, 10, some (9, 13)⟩]]
  node := node "x" 17 17

theorem resolution_lexical_use : defScript .empty script = .ok numbered ∧
    use ∈ bodyUses env function.body ∧ ¬ use.Skips ∧
    (∀ v, use.env.ensureResolve use.node = .ok (some (.var v)) ↔ use.lexical = some v) ∧
      (use.Rejected ↔ use.lexical = none) := by
  have hdef : defScript .empty script = .ok numbered := rfl
  have hbody : IsBody (scriptEnv .empty source numbered) numbered env function.body :=
    .function (List.mem_singleton.mpr rfl)
  have hu : use ∈ bodyUses env function.body := List.mem_of_getElem? (i := 2) rfl
  have hskip : ¬ use.Skips := by
    rintro ⟨v, hv, hne⟩
    exact hne hv
  exact ⟨hdef, hu, hskip, resolution_lexical hdef (by decide) hbody hu hskip⟩

/-- Lexical scoping where globals, too, must be declared in front of the use. -/
def lexicalInOrder (u : Use) : Option VarSym :=
  (u.inBlock.or (lookup u.node.text u.env.params)).or
    ((lookup u.node.text u.env.globals).filter fun v =>
      v.isConstant || decide (v.defStart < u.node.tokenStartIndex))

/-- `f() { g = 1; } integer g;` -/
def lateGlobal : Script Unit :=
  [.funcDef ⟨none, node "f" 0 0, [],
      [.assign (node "=" 4 6) .assign (node "g" 4 4) ⟨node "EXPR" 6 6, .intLit (node "1" 6 6)⟩], ()⟩,
    .varDecl (node "VAR_DECL" 9 11) .integer (node "g" 10 10) none ()]

/-- `integer x; f() { integer x; { return x; integer x; } }` -/
def skipped : Script Unit :=
  [.varDecl (node "VAR_DECL" 0 2) .integer (node "x" 1 1) none (),
    .funcDef ⟨none, node "f" 3 3, [],
      [.varDecl (node "VAR_DECL" 7 9) .integer (node "x" 8 8) none (),
        .block [.ret (node "return" 11 13) (some (ident "x" 12)),
          .varDecl (node "VAR_DECL" 14 16) .integer (node "x" 15 15) none ()]], ()⟩]

/-- A use of a variable that is not bound as lexical scoping binds it. -/
def Misbound (script : Script Unit) : Prop :=
  ∃ numbered env body u v, defScript .empty script = .ok numbered ∧
    inTextOrder script = true ∧ IsBody (scriptEnv .empty source numbered) numbered env body ∧
    u ∈ bodyUses env body ∧ u.env.ensureResolve u.node = .ok (some (.var v)) ∧
    lexicalInOrder u ≠ some v

/-- A global can be used in front of its declaration, and when the nearest declaration of a name
is behind the use, a block in between is passed over. -/
theorem misbound_lateGlobal_skipped : Misbound lateGlobal ∧ Misbound skipped :=
  ⟨⟨_, _, _, _, _, rfl, by decide, .function (List.mem_singleton.mpr rfl),
      List.mem_of_getElem? (i := 0) rfl, rfl, by decide⟩,
    ⟨_, _, _, _, _, rfl, by decide, .function (List.mem_singleton.mpr rfl),
      List.mem_of_getElem? (i := 0) rfl, rfl, by decide⟩⟩

end LexicalSample

end Halcyon.Joke
