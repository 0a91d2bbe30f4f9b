import Halcyon.Joke.Run
import Halcyon.Joke.Typing

/-!
# What an action does

Inversions of a successful action, for the proofs about runs.  `Action.taken` is the number of
operands an action takes off the stack and `Action.pushed` the value it then pushes, both read off
the state before the action; `exec_effect` is what becomes of the operand stack.  The
variables change in one of three ways: not at all, by a write that is not charged to the memory
tracker and replaces a value by one of the same size, or by a write that is charged.
-/

namespace Halcyon.Joke

open Halcyon.Lib

variable {F : Type}

namespace RuntimeState

variable {s t : RuntimeState F}

lemma pop_eq_ok {v : Value F} (h : s.pop = .ok (v, t)) :
    s.operands = v :: s.operands.drop 1 ∧ t = { s with operands := s.operands.drop 1 } := by
  rcases ho : s.operands with - | ⟨w, vs⟩
  · simp [pop, ho] at h
  · simp only [pop, ho, Except.ok.injEq, Prod.mk.injEq] at h
    obtain ⟨rfl, rfl⟩ := h
    exact ⟨rfl, rfl⟩

lemma popMany_eq_ok {n : Nat} {vs : List (Value F)} (h : s.popMany n = .ok (vs, t)) :
    vs = (s.operands.take n).reverse ∧ n ≤ s.operands.length ∧
      t = { s with operands := s.operands.drop n } := by
  induction n generalizing s vs with
  | zero =>
    obtain ⟨rfl, rfl⟩ := Prod.mk.inj (Except.ok.inj h)
    simp
  | succ n ih =>
    obtain ⟨⟨v, s₁⟩, hpop, h⟩ := bind_eq_ok.mp h
    obtain ⟨⟨us, s₂⟩, hmany, h⟩ := bind_eq_ok.mp h
    obtain ⟨rfl, rfl⟩ := Prod.mk.inj (Except.ok.inj h)
    obtain ⟨ho, rfl⟩ := pop_eq_ok hpop
    obtain ⟨rfl, hle, rfl⟩ := ih hmany
    rw [ho]
    refine ⟨by simp, ?_, by simp⟩
    simpa using hle

lemma popUnboxed_eq_ok {ts : List OperandType} {xs : Unboxed F ts}
    (h : s.popUnboxed ts = .ok (xs, t)) : t = { s with operands := s.operands.drop ts.length } := by
  induction ts generalizing s with
  | nil =>
    obtain ⟨-, rfl⟩ := Prod.mk.inj (Except.ok.inj h)
    simp
  | cons ty ts ih =>
    obtain ⟨⟨v, s₁⟩, hpop, h⟩ := bind_eq_ok.mp h
    obtain ⟨x, -, h⟩ := bind_eq_ok.mp h
    obtain ⟨⟨ys, s₂⟩, hrest, h⟩ := bind_eq_ok.mp h
    obtain ⟨-, rfl⟩ := Prod.mk.inj (Except.ok.inj h)
    obtain ⟨-, rfl⟩ := pop_eq_ok hpop
    rw [ih hrest]
    simp

lemma checkMemory_eq_ok (h : s.checkMemory = .ok t) : t = s ∧ s.memoryUsed ≤ maxMemory := by
  unfold checkMemory at h
  split at h
  · simp at h
  · obtain rfl := Except.ok.inj h
    exact ⟨rfl, by omega⟩

end RuntimeState

/-! ## The operand stack -/

namespace StackOp

/-- The value an operand-stack action pushes. -/
def value (op : StackOp F) (s : RuntimeState F) : Option (Value F) :=
  match s.popUnboxed op.args with
  | .error _ => none
  | .ok (xs, _) => (op.run xs).toOption.map op.result.box

lemma exec_eq_ok {op : StackOp F} {s s' : RuntimeState F} (h : op.exec s = .ok s') :
    ∃ v, op.value s = some v ∧ s' = { s with operands := v :: s.operands.drop op.args.length } := by
  obtain ⟨⟨xs, t⟩, hpop, h⟩ := bind_eq_ok.mp h
  obtain ⟨r, hr, h⟩ := bind_eq_ok.mp h
  obtain rfl := Except.ok.inj h
  obtain rfl := RuntimeState.popUnboxed_eq_ok hpop
  refine ⟨op.result.box r, ?_, rfl⟩
  simp [value, hpop, hr, Except.toOption]

end StackOp

namespace Action

variable [FloatArith F]

/-- How many operands an action takes off the stack. -/
def taken : Action F → Nat
  | store _ | storeSub _ _ | pop | trace | brt _ | brf _ => 1
  | compute op => op.args.length
  | buildList n => n
  | call fi => fi.numberOfArguments
  | _ => 0

/-- The value an action pushes, system calls apart. -/
def pushed (a : Action F) (s : RuntimeState F) : Option (Value F) :=
  match a with
  | load r => (s.readVar r).toOption.join
  | loadSub r sub => ((s.readVar r).bind fun v => loadSubscript v sub).toOption.map .float
  | const v => some v
  | compute op => op.value s
  | incDec isFloat pre inc r =>
    ((s.readVar r).bind fun v => stepped isFloat inc v).toOption.map fun p =>
      if pre then p.2 else p.1
  | incDecSub pre inc r sub =>
    let step := fun c : F =>
      if inc then FloatArith.add c FloatArith.one else FloatArith.sub c FloatArith.one
    ((s.readVar r).bind fun v => assignSubscript (fun c => .ok (step c)) v sub).toOption.map
      fun p => .float (if pre then step p.2 else p.2)
  | buildList n => some (.list (s.operands.take n).reverse)
  | _ => none

/-- The operand stack after an action. -/
def operandsAfter (a : Action F) (s : RuntimeState F) : List (Value F) :=
  (a.pushed s).toList ++ s.operands.drop a.taken

/-! ## Variables -/

/-- The write that an action charges to the memory tracker. -/
def stored (a : Action F) (s : RuntimeState F) : Option (VarRef × Value F) :=
  match a with
  | store r => s.operands.head?.map fun v => (r, v)
  | init r v => some (r, v)
  | _ => none

/-- The action touches neither the call stack nor anything outside the machine. -/
def isLocal : Action F → Bool
  | call _ | ret | syscall _ | stateChg _ => false
  | _ => true

/-- The frame that a call pushes. -/
def newFrame (fi : FunctionInfo) (s : RuntimeState F) : StackFrame F where
  functionInfo := fi
  returnAddress := s.ip
  locals := (s.operands.take fi.numberOfArguments).reverse.map some ++
    List.replicate fi.numberOfLocals none

/-- What a successful action does to a state. -/
inductive Effect (host : Host F) (s : RuntimeState F) : Action F → RuntimeState F → Prop
  /-- The stack and the control registers change. -/
  | stack {a : Action F} (ip : Nat) (status : Status) (hs : a.stored s = none)
      (hc : a.isLocal = true) :
      Effect host s a { s with ip := ip, runState := status, operands := a.operandsAfter s }
  /-- A variable changes to a value of the same size. -/
  | write {a : Action F} {r : VarRef} {old new : Value F} (hr : s.readVar r = .ok (some old))
      (hsize : new.memSize = old.memSize) (hs : a.stored s = none) (hc : a.isLocal = true) :
      Effect host s a { s.writeVar r new with operands := a.operandsAfter s }
  /-- A write is charged to the memory tracker. -/
  | charge {a : Action F} {r : VarRef} {old : Option (Value F)} {new : Value F}
      (hs : a.stored s = some (r, new)) (hr : s.readVar r = .ok old) {s' : RuntimeState F}
      (hs' : RuntimeState.replaceStored old (some new)
        { s.writeVar r new with operands := a.operandsAfter s } = .ok s') :
      Effect host s a s'
  | call {fi : FunctionInfo} (hn : fi.numberOfArguments ≤ s.operands.length) {s' : RuntimeState F}
      (hs' : RuntimeState.addCall (newFrame fi s)
        { s with
          calls := newFrame fi s :: s.calls, ip := fi.address,
          operands := (call fi).operandsAfter s } = .ok s') :
      Effect host s (call fi) s'
  | ret {f : StackFrame F} {fs : List (StackFrame F)} (status : Status) (hf : s.calls = f :: fs) :
      Effect host s ret
        { RuntimeState.completeCall f { s with calls := fs, ip := f.returnAddress } with
          runState := status }
  | syscall {i : Nat} {s' : RuntimeState F} (h : host.syscall i s = .ok s') :
      Effect host s (syscall i) s'
  | stateChg {i : Nat} {s' : RuntimeState F} (h : host.onStateChg i s = .ok s') :
      Effect host s (stateChg i) s'

lemma stepped_eq_ok {isFloat inc : Bool} {o : Option (Value F)} {old new : Value F}
    (h : stepped isFloat inc o = .ok (old, new)) : o = some old ∧ new.memSize = old.memSize := by
  cases isFloat <;> rcases o with - | v <;> simp only [stepped, unboxVar] at h
  · simp at h
  · cases v <;> simp_all [OperandType.unbox]
    obtain ⟨rfl, rfl⟩ := h
    simp [Value.memSize]
  · simp at h
  · cases v <;> simp_all [OperandType.unbox]
    obtain ⟨rfl, rfl⟩ := h
    simp [Value.memSize]

omit [FloatArith F] in
lemma assignSubscript_eq_ok {f : F → Except Fault F} {o : Option (Value F)} {sub : Int}
    {new : Value F} {c : F} (h : assignSubscript f o sub = .ok (new, c)) :
    ∃ old, o = some old ∧ new.memSize = old.memSize := by
  unfold assignSubscript at h
  split at h
  case h_8 => simp at h
  all_goals
    obtain ⟨x, -, h⟩ := bind_eq_ok.mp h
    obtain ⟨rfl, -⟩ := Prod.mk.inj (Except.ok.inj h)
    exact ⟨_, rfl, by simp [Value.memSize]⟩

section Inversions

attribute [local simp] taken pushed operandsAfter

variable {host : Host F} {s s' : RuntimeState F}

omit [FloatArith F] in
/-- A write of a variable commutes with the change of the operand stack. -/
lemma writeVar_operands (r : VarRef) (v : Value F) (vs : List (Value F)) :
    { s with operands := vs }.writeVar r v = { s.writeVar r v with operands := vs } := by
  unfold RuntimeState.writeVar
  split
  · rfl
  · split <;> simp_all

variable {a : Action F}

lemma Effect.of_stack {ip : Nat} {status : Status} {vs : List (Value F)}
    (hvs : a.operandsAfter s = vs) (hs : a.stored s = none) (hc : a.isLocal = true)
    (h : s' = { s with ip := ip, runState := status, operands := vs }) : Effect host s a s' := by
  subst h hvs
  exact .stack ip status hs hc

variable {r : VarRef}

lemma Effect.of_write {old new : Value F} {vs : List (Value F)} (hr : s.readVar r = .ok (some old))
    (hsize : new.memSize = old.memSize) (hvs : a.operandsAfter s = vs) (hs : a.stored s = none)
    (hc : a.isLocal = true) (h : s' = { s.writeVar r new with operands := vs }) :
    Effect host s a s' := by
  subst h hvs
  exact .write hr hsize hs hc

lemma effect_load (h : (load r).exec host s = .ok s') :
    Effect host s (load r) s' := by
  obtain ⟨o, hr, h⟩ := bind_eq_ok.mp h
  cases o with
  | none => simp at h
  | some v =>
    have hv : (load r).operandsAfter s = v :: s.operands := by
      simp [hr, Except.toOption]
    exact .of_stack hv rfl rfl (Except.ok.inj h).symm

variable {sub : Int}

lemma effect_loadSub (h : (loadSub r sub).exec host s = .ok s') :
    Effect host s (loadSub r sub) s' := by
  obtain ⟨o, hr, h⟩ := bind_eq_ok.mp h
  obtain ⟨c, hc, h⟩ := bind_eq_ok.mp h
  refine .of_stack ?_ rfl rfl (Except.ok.inj h).symm
  simp [hr, hc, Except.bind, Except.toOption]

lemma effect_store (h : execStore r s = .ok s') : Effect host s (store r) s' := by
  obtain ⟨old, hr, h⟩ := bind_eq_ok.mp h
  obtain ⟨⟨v, t⟩, hpop, h⟩ := bind_eq_ok.mp h
  obtain ⟨ho, rfl⟩ := RuntimeState.pop_eq_ok hpop
  have hs : (store r).stored s = some (r, v) := by
    rw [stored, ho]
    rfl
  simp only [writeVar_operands] at h
  exact .charge hs hr h

lemma effect_storeSub (h : execStoreSub r sub s = .ok s') :
    Effect host s (storeSub r sub) s' := by
  obtain ⟨⟨v, t⟩, hpop, h⟩ := bind_eq_ok.mp h
  obtain ⟨old, hr, h⟩ := bind_eq_ok.mp h
  obtain ⟨⟨new, c⟩, hnew, h⟩ := bind_eq_ok.mp h
  obtain rfl := Except.ok.inj h
  obtain ⟨-, rfl⟩ := RuntimeState.pop_eq_ok hpop
  obtain ⟨w, rfl, hsize⟩ := assignSubscript_eq_ok hnew
  exact .of_write hr hsize rfl rfl rfl (writeVar_operands r new _)

lemma effect_incDec {isFloat pre inc : Bool} (h : execIncDec isFloat pre inc r s = .ok s') :
    Effect host s (incDec isFloat pre inc r) s' := by
  obtain ⟨o, hr, h⟩ := bind_eq_ok.mp h
  obtain ⟨⟨old, new⟩, hnew, h⟩ := bind_eq_ok.mp h
  obtain rfl := Except.ok.inj h
  obtain ⟨rfl, hsize⟩ := stepped_eq_ok hnew
  refine .of_write hr hsize ?_ rfl rfl rfl
  simp [hr, hnew, Except.bind, Except.toOption]

lemma effect_incDecSub {pre inc : Bool} (h : execIncDecSub pre inc r sub s = .ok s') :
    Effect host s (incDecSub pre inc r sub) s' := by
  obtain ⟨o, hr, h⟩ := bind_eq_ok.mp h
  obtain ⟨⟨new, c⟩, hnew, h⟩ := bind_eq_ok.mp h
  obtain rfl := Except.ok.inj h
  obtain ⟨w, rfl, hsize⟩ := assignSubscript_eq_ok hnew
  refine .of_write hr hsize ?_ rfl rfl rfl
  simp [hr, hnew, Except.bind, Except.toOption]

lemma effect_buildList {n : Nat} (h : (buildList n).exec host s = .ok s') :
    Effect host s (buildList n) s' := by
  obtain ⟨⟨vs, t⟩, hpop, h⟩ := bind_eq_ok.mp h
  obtain ⟨ms, hms, h⟩ := bind_eq_ok.mp h
  obtain ⟨rfl, -, rfl⟩ := RuntimeState.popMany_eq_ok hpop
  have hm : ms = (s.operands.take n).reverse := by
    unfold checkMemorySize at hms
    split at hms
    · simp at hms
    · exact (Except.ok.inj hms).symm
  subst hm
  exact .of_stack rfl rfl rfl (Except.ok.inj h).symm

/-- The two branches and the actions that only take an operand. -/
lemma effect_popped {v : Value F} {t : RuntimeState F} {ip : Nat} (hpop : s.pop = .ok (v, t))
    (hp : a.pushed s = none) (ht : a.taken = 1) (hs : a.stored s = none) (hc : a.isLocal = true)
    (h : s' = { t with ip := ip }) :
    Effect host s a s' := by
  obtain ⟨-, rfl⟩ := RuntimeState.pop_eq_ok hpop
  refine .of_stack ?_ hs hc h
  rw [operandsAfter, hp, ht]
  rfl

lemma effect_branch {address : Nat} {p : BitVec 32 → Prop} [DecidablePred p]
    (hp : a.pushed s = none) (ht : a.taken = 1) (hs : a.stored s = none) (hc : a.isLocal = true)
    (h : (do
      let (v, t) ← s.pop
      let i ← OperandType.int.unbox v
      .ok (if p i then { t with ip := address } else t)) = .ok s') : Effect host s a s' := by
  obtain ⟨⟨v, t⟩, hpop, h⟩ := bind_eq_ok.mp h
  obtain ⟨i, -, h⟩ := bind_eq_ok.mp h
  obtain rfl := Except.ok.inj h
  split
  · exact effect_popped hpop hp ht hs hc rfl
  · exact effect_popped hpop hp ht hs hc rfl

lemma effect_call {fi : FunctionInfo} (h : execCall fi s = .ok s') :
    Effect host s (call fi) s' := by
  obtain ⟨⟨args, t⟩, hpop, h⟩ := bind_eq_ok.mp h
  obtain ⟨rfl, hn, rfl⟩ := RuntimeState.popMany_eq_ok hpop
  exact .call hn h

lemma effect_ret (h : execRet s = .ok s') : Effect host s ret s' := by
  unfold execRet at h
  split at h
  · simp at h
  · rename_i f fs hf
    obtain rfl := Except.ok.inj h
    split
    · exact .ret .waiting hf
    · exact .ret s.runState hf

/-- The inversion of a successful action. -/
theorem exec_effect (h : a.exec host s = .ok s') : Effect host s a s' := by
  cases a with
  | load r => exact effect_load h
  | loadSub r sub => exact effect_loadSub h
  | store r => exact effect_store h
  | storeSub r sub => exact effect_storeSub h
  | const v => exact .of_stack rfl rfl rfl (Except.ok.inj h).symm
  | compute op =>
    obtain ⟨v, hv, rfl⟩ := StackOp.exec_eq_ok h
    refine .of_stack ?_ rfl rfl rfl
    simp [hv]
  | incDec isFloat pre inc r => exact effect_incDec h
  | incDecSub pre inc r sub => exact effect_incDecSub h
  | init r v =>
    obtain ⟨old, hr, h⟩ := bind_eq_ok.mp h
    refine .charge rfl hr ?_
    rwa [← writeVar_operands]
  | pop =>
    obtain ⟨⟨v, t⟩, hpop, h⟩ := bind_eq_ok.mp h
    exact effect_popped hpop rfl rfl rfl rfl (Except.ok.inj h).symm
  | buildList n => exact effect_buildList h
  | trace =>
    obtain ⟨⟨v, t⟩, hpop, h⟩ := bind_eq_ok.mp h
    exact effect_popped hpop rfl rfl rfl rfl (Except.ok.inj h).symm
  | jmp address => exact .of_stack rfl rfl rfl (Except.ok.inj h).symm
  | brt address => exact effect_branch rfl rfl rfl rfl h
  | brf address => exact effect_branch rfl rfl rfl rfl h
  | call fi => exact effect_call h
  | ret => exact effect_ret h
  | syscall index => exact .syscall h
  | halt => exact .of_stack rfl rfl rfl (Except.ok.inj h).symm
  | stateChg stateId => exact .stateChg h

end Inversions

end Action

end Halcyon.Joke
