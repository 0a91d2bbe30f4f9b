import Halcyon.Joke.ExprTyping

/-!
# Type soundness of expressions

The code of an expression contains no jumps, so its execution is a run through a list of
instructions.  Calls leave that list; what they do is a parameter here (`Calls`), and the one
thing assumed of it is that a function called with arguments of its parameters' types returns
one value of its declared type (`CallsReturn`).

The theorem of this module: whatever state an accepted expression is evaluated in, as long
as every variable holds a value of its declared type, the code ends with one more operand of
the annotated type, the others unchanged, or it stops with an arithmetic or out-of-memory fault.
No instruction pops an empty stack and no cast fails.
-/

namespace Halcyon.Joke

open Halcyon.Lib Env

section Variables

variable {F : Type}

/-- What a call does, by the name of the function. -/
abbrev Calls (F : Type) := String → RuntimeState F → Except Fault (RuntimeState F)

/-- Every variable of the environment holds a value of its declared type. -/
def VarsTyped (env : Env) (s : RuntimeState F) : Prop :=
  ∀ v ∈ env.allVars, v.isConstant = false →
    ∃ val : Value F, s.readVar v.ref = .ok (some val) ∧ val.HasType v.type

/-- Functions called with arguments of their parameters' types return one value of their
declared type, or stop with a fault that is the script's own doing; they leave every variable
with a value of its type and the operands below their arguments alone. -/
def CallsReturn (env : Env) (calls : Calls F) : Prop :=
  ∀ m ∈ env.methods, ∀ (s : RuntimeState F) (args rest : List (Value F)),
    VarsTyped env s → s.operands = args ++ rest → args.map Value.varType = m.argTypes →
      Ends Fault.Tolerated (fun s' => VarsTyped env s' ∧
        ∃ result : List (Value F), result.map Value.varType = m.resultTypes ∧
          s'.operands = result ++ rest) (calls m.rawName s)

/-! ## From variables to slots -/

/-- The typing of the slots that the variables of an environment amount to. -/
def Env.slotTypes (env : Env) (r : VarRef) : Option VarType :=
  (env.allVars.find? fun v => !v.isConstant && decide (v.ref = r)).map fun v => v.type.runtime

/-- Two variables that share a slot share its value, hence their run-time type. -/
lemma VarsTyped.covers {env : Env} {s : RuntimeState F} (h : VarsTyped env s) :
    Covers env.slotTypes env := by
  intro v hv hc
  unfold Env.slotTypes
  cases hf : env.allVars.find? fun w => !w.isConstant && decide (w.ref = v.ref) with
  | none =>
    have := List.find?_eq_none.mp hf v hv
    simp [hc] at this
  | some w =>
    have hw := List.find?_some hf
    simp only [Bool.and_eq_true, Bool.not_eq_true', decide_eq_true_eq] at hw
    obtain ⟨a, ha, hta⟩ := h w (List.mem_of_find?_eq_some hf) hw.1
    obtain ⟨b, hb, htb⟩ := h v hv hc
    rw [hw.2, hb] at ha
    obtain rfl : b = a := by simpa using ha
    simp [← Value.hasType_iff.mp hta, ← Value.hasType_iff.mp htb]

/-- Variables have values of their types exactly when the slots conform and none is null. -/
lemma VarsTyped.conforms {env : Env} {s : RuntimeState F} (h : VarsTyped env s) :
    Conforms env.slotTypes s := by
  intro r t hr
  obtain ⟨w, hf, rfl⟩ := Option.map_eq_some_iff.mp hr
  have hw := List.find?_some hf
  simp only [Bool.and_eq_true, Bool.not_eq_true', decide_eq_true_eq] at hw
  obtain ⟨a, ha, hta⟩ := h w (List.mem_of_find?_eq_some hf) hw.1
  rw [hw.2] at ha
  exact ⟨_, ha, fun b hb => Option.some.inj hb ▸ hta⟩

lemma VarsTyped.of_conforms {env : Env} {s s' : RuntimeState F} (h : VarsTyped env s)
    (hc : Conforms env.slotTypes s') (hk : KeepsValues s s') : VarsTyped env s' := by
  intro v hv hvc
  obtain ⟨a, ha, -⟩ := h v hv hvc
  obtain ⟨b, hb⟩ := hk _ _ ha
  obtain ⟨o, ho, hty⟩ := hc _ _ (h.covers v hv hvc)
  rw [hb] at ho
  obtain rfl : some b = o := by simpa using ho
  exact ⟨b, hb, hty b rfl⟩

end Variables

/-! ## Runs -/

section Runs

variable {F : Type} [FloatArith F] {env : Env} {s : RuntimeState F}

/-- Code that is typed by the variables reads no null variable. -/
lemma VarsTyped.not_readsNull (h : VarsTyped env s) {a : Action F} {σ σ' : List VarType}
    (ha : ActionTy env.slotTypes a σ σ') :
    ¬ a.ReadsNull s := by
  rintro ⟨r, hr, hn⟩
  have hslot : ∃ t, env.slotTypes r = some t := by
    cases ha <;> simp only [Action.reads, Option.some.injEq, reduceCtorEq] at hr <;> subst hr <;>
      exact ⟨_, by assumption⟩
  obtain ⟨t, ht⟩ := hslot
  obtain ⟨w, hf, -⟩ := Option.map_eq_some_iff.mp ht
  have hw := List.find?_some hf
  simp only [Bool.and_eq_true, Bool.not_eq_true', decide_eq_true_eq] at hw
  obtain ⟨b, hb, -⟩ := h w (List.mem_of_find?_eq_some hf) hw.1
  rw [hw.2, hn] at hb
  simp at hb

/-- Executes one instruction of straight-line code.  Anything that is not an instruction, or
that jumps, is an unhandled opcode. -/
def Asm.exec (host : Host F) (calls : Calls F) (i : Asm) (s : RuntimeState F) :
    Except Fault (RuntimeState F) :=
  match i with
  | .instr .call [.func f] | .instr .syscall [.func f] => calls f s
  | i =>
    match (i.action : Option (Action F)) with
    | some a => a.exec host s
    | none => .error .unhandledOpcode

lemma Asm.exec_of_action {host : Host F} {calls : Calls F} {i : Asm} {a : Action F}
    (h : i.action = some a) : i.exec host calls s = a.exec host s := by
  unfold Asm.exec
  split
  · simp [Asm.action] at h
  · simp [Asm.action] at h
  · rw [h]

lemma MethodSym.exec_callInstr {host : Host F} {calls : Calls F} (m : MethodSym) :
    m.callInstr.exec host calls s = calls m.rawName s := by
  unfold MethodSym.callInstr
  split_ifs <;> rfl

/-- The states in which code with the stack types `σ` on top of `rest` is at work. -/
structure EvalState (env : Env) (rest : List (Value F)) (σ : List VarType)
    (s : RuntimeState F) : Prop where
  vars : VarsTyped env s
  stack : ∃ vs : List (Value F), vs.map Value.varType = σ ∧ s.operands = vs ++ rest

/-- One instruction. -/
lemma InstrTy.exec {host : Host F} {calls : Calls F} (hcalls : CallsReturn env calls)
    {rest : List (Value F)} {i : Asm} {σ σ' : List VarType}
    (h : InstrTy F env.slotTypes env.methods i σ σ') (hs : EvalState env rest σ s) :
    Ends Fault.Tolerated (EvalState env rest σ') (i.exec host calls s) := by
  cases h with
  | act ha hty =>
    rw [Asm.exec_of_action ha]
    refine (hty.exec host ⟨hs.vars.conforms, hs.stack⟩).mono (fun e he => ?_) fun s' hs' => ?_
    · exact he.resolve_right (hs.vars.not_readsNull hty)
    · exact ⟨hs.vars.of_conforms hs'.1.vars hs'.2, hs'.1.stack⟩
  | call hm =>
    rename_i m σ
    obtain ⟨vs, hvs, ho⟩ := hs.stack
    obtain ⟨args, ws, rfl, hargs, hws⟩ := List.map_eq_append_iff.mp hvs
    rw [List.append_assoc] at ho
    rw [m.exec_callInstr]
    refine (hcalls m hm s args (ws ++ rest) hs.vars ho hargs).mono (fun _ he => he) ?_
    rintro s' ⟨hv, result, hres, ho'⟩
    exact ⟨hv, result ++ ws, by simp [hres, hws], by rw [ho', List.append_assoc]⟩

/-! ## The theorem -/

end Runs

mutual

/-- Expressions over script variables whose only assignments are plain ones. -/
def Expr.plain (env : Env) : Expr → Bool
  | .intLit _ | .floatLit _ | .stringLit _ => true
  | .id n => (env.symbol n).all fun v => !v.isConstant
  | .vecLit _ x y z => x.plain env && y.plain env && z.plain env
  | .rotLit _ x y z w => x.plain env && y.plain env && z.plain env && w.plain env
  | .listLit _ es => Expr.allPlain env es
  | .typeCast _ _ _ e | .unary _ _ e | .incDec _ _ e | .subscript _ e _ | .paren _ e => e.plain env
  | .binary _ _ l r => l.plain env && r.plain env
  | .assign _ op l r => op == .assign && l.plain env && r.plain env
  | .call _ _ args => Expr.allPlain env args

/-- Every member of a list of expressions is plain. -/
def Expr.allPlain (env : Env) : List Expr → Bool
  | [] => true
  | e :: es => e.plain env && Expr.allPlain env es

end

lemma Expr.allPlain_mem {env : Env} {es : List Expr} {e : Expr}
    (h : Expr.allPlain env es = true) (he : e ∈ es) : e.plain env = true := by
  induction es with
  | nil => cases he
  | cons e' es ih =>
    simp only [Expr.allPlain, Bool.and_eq_true] at h
    rcases List.mem_cons.mp he with rfl | he
    · exact h.1
    · exact ih h.2 he

lemma targetOk_of_plain {env : Env} {e : Expr} (h : e.plain env = true) :
    targetOk env e = true := by
  unfold targetOk
  split
  · rename_i n sub he
    unfold assignTarget at he
    split at he <;> simp only [Option.some.injEq, Prod.mk.injEq, reduceCtorEq] at he <;>
      obtain ⟨rfl, -⟩ := he <;> simpa [Expr.plain] using h
  · rfl

lemma sound_of_plain {env : Env} {e : Expr} (h : e.plain env = true) : e.sound env = true := by
  induction e using Expr.ind with
  | intLit | floatLit | stringLit => rfl
  | id n =>
    simp only [Expr.plain, Expr.sound] at h ⊢
    cases hv : env.symbol n with
    | none => rfl
    | some v =>
      have hc : v.constValue = none := by simpa [hv, VarSym.isConstant] using h
      simp [constantOk, hc]
  | vecLit n x y z ihx ihy ihz => simp_all [Expr.plain, Expr.sound]
  | rotLit n x y z w ihx ihy ihz ihw => simp_all [Expr.plain, Expr.sound]
  | listLit n es ih =>
    rw [Expr.plain] at h
    rw [Expr.sound, Expr.allSound_iff]
    exact fun e he => ih e he (Expr.allPlain_mem h he)
  | typeCast n t tn e ih => exact ih h
  | binary n op l r ihl ihr => simp_all [Expr.plain, Expr.sound]
  | assign n op l r _ ih =>
    simp only [Expr.plain, Bool.and_eq_true, beq_iff_eq] at h
    obtain ⟨⟨rfl, hl⟩, hr⟩ := h
    simp only [Expr.sound, targetOk_of_plain hl, ih hr, Bool.true_and, Bool.and_true]
    unfold compoundOk
    cases evalType env l <;> cases evalType env r <;> rfl
  | unary n op e ih => exact ih h
  | incDec n op e => exact targetOk_of_plain h
  | subscript n e sub => exact targetOk_of_plain h
  | call n callee args _ ih =>
    rw [Expr.plain] at h
    rw [Expr.sound, Expr.allSound_iff]
    exact fun e he => ih e he (Expr.allPlain_mem h he)
  | paren n e ih => exact ih h

/-- **Expression type soundness.**  The code of an accepted expression, followed by the promotion
to the type `dest` of its context, ends with one more operand, of the annotated type after
promotion, or stops with an arithmetic or out-of-memory fault. -/
theorem expr_type_sound {F : Type} [FloatArith F] (hconv : TotalConversions F) (host : Host F)
    (calls : Calls F) (env : Env) (hcalls : CallsReturn env calls) (e : Expr) (code : Code)
    (hparsed : e.parsed = true) (hplain : e.plain env = true)
    (htype : (typeExpr env e).messages = []) (hgen : genExpr env e = some code)
    (hblank : Asm.blank ∉ code) (dest : VarType) (s : RuntimeState F) (hs : VarsTyped env s) :
    ∃ τ, evalType env e = some τ ∧
      Ends Fault.Tolerated
        (fun s' => VarsTyped env s' ∧ ∃ v : Value F,
          v.HasType (promoted τ (promotion env e dest)) ∧ s'.operands = v :: s.operands)
        (Path.run (Asm.exec host calls) (doPromotion (promotion env e dest) code) s) := by
  obtain ⟨r, hr⟩ := decisive_typeExpr env e (genExpr_callsNamed code hgen) htype
  obtain ⟨τ, rfl⟩ := typeExpr_ok_some hr
  refine ⟨τ, evalType_of_ok hr, ?_⟩
  have hpath := codeTyped hconv hs.covers e hparsed (sound_of_plain hplain) hr hgen hblank
  have hprom := path_promoted hr hpath (some dest) []
  rw [Option.bind_some, Option.bind_some, ← promotion_of_ok hr] at hprom
  have hrun := Path.runs (Asm.exec host calls) (EvalState env s.operands)
    (fun _ _ _ hi _ hs => hi.exec hcalls hs) hprom s ⟨hs, [], rfl, rfl⟩
  refine hrun.mono (fun _ he => he) fun s' hs' => ⟨hs'.vars, ?_⟩
  obtain ⟨vs, hvs, ho⟩ := hs'.stack
  obtain ⟨v, rfl, hv⟩ : ∃ v, vs = [v] ∧
      v.varType = (promoted τ (promotion env e dest)).runtime := by
    simpa [List.map_eq_singleton_iff] using hvs
  exact ⟨v, hv, ho⟩

namespace ExprSample

/-- Two globals, `float x` and `integer i`, and a function `integer f(integer a)`. -/
def env : Env where
  blocks := []
  params := []
  events := []
  globals := [⟨"x", .float, 0, true, none, 0, none⟩, ⟨"i", .integer, 1, true, none, 0, none⟩]
  methods := [⟨"f", .integer, [("a", .integer)], false⟩]
  states := []
  returnType := .void
  text _ _ := ""
  formatFloat text := some text

/-- `x = f(i) + 2` -/
def expr : Expr :=
  .assign ⟨"=", 1, 0, 0, 0⟩ .assign (.id ⟨"x", 1, 0, 0, 0⟩)
    (.binary ⟨"+", 1, 0, 0, 0⟩ .add
      (.call ⟨"f", 1, 0, 0, 0⟩ (.id ⟨"f", 1, 0, 0, 0⟩) [.id ⟨"i", 1, 0, 0, 0⟩])
      (.intLit ⟨"2", 1, 0, 0, 0⟩))

def code : Code :=
  [.instr .gload [.num 1], .instr .call [.func "f"], .instr .iconst [.int "2"], .op .iadd,
    .op .fcast, .instr .gstore [.num 0], .instr .gload [.num 0]]

def host : Host Unit := ⟨fun _ s => .ok s, fun _ s => .ok s⟩

/-- `f` returns its argument. -/
def calls : Calls Unit := fun _ s => .ok s

def state : RuntimeState Unit where
  ip := 0
  lslState := 0
  globals := [some (.float ()), some (.int 3)]
  operands := [.string "below"]
  calls := []
  memoryUsed := 0
  runState := .running

lemma varsTyped_state : VarsTyped env state := by
  intro v hv _
  simp only [env, allVars, List.flatMap_nil, List.nil_append, List.mem_cons, List.not_mem_nil,
    or_false] at hv
  rcases hv with rfl | rfl
  · exact ⟨.float (), rfl, rfl⟩
  · exact ⟨.int 3, rfl, rfl⟩

lemma callsReturn_calls : CallsReturn env calls := by
  intro m hm s args rest hs ho ht
  obtain rfl := List.mem_singleton.mp hm
  exact ⟨hs, args, ht, ho⟩

theorem type_sound_expr : ∃ τ, evalType env expr = some τ ∧
    Ends Fault.Tolerated
      (fun s' => VarsTyped env s' ∧ ∃ v : Value Unit,
        v.HasType (promoted τ (promotion env expr .float)) ∧ s'.operands = v :: state.operands)
      (Path.run (Asm.exec host calls) (doPromotion (promotion env expr .float) code) state) :=
  expr_type_sound ⟨fun _ => rfl, fun _ => rfl, fun _ => rfl⟩ host calls env callsReturn_calls expr
    code (by decide) (by decide) (by decide) (by decide) (by decide) .float state varsTyped_state

end ExprSample

end Halcyon.Joke
