import Halcyon.Joke.OpCode
import Halcyon.Joke.Actions

/-!
# Compiled scripts and the interpreter's tick

A `CompiledScript` (`VM/CompiledScript.cs`) is a byte array, a constant pool, and for each
state of the script the events it handles.  `CompiledScript.fetch` reads the opcode at an
address and its operands, `CompiledScript.action` decodes them into the `Action` they stand for,
and `CompiledScript.tick` is `Interpreter.Tick`: one instruction of a script.

The interpreter reads an instruction's operands while it performs the action, and skips the
operand of a branch that is not taken without reading it.  Here all operands are read first;
the two agree on every script whose last instruction is complete.

`RuntimeState.doEvent` starts an event handler.
-/

namespace Halcyon.Joke

/-- `VM/EventInfo.cs`. -/
structure EventInfo where
  stateId : Nat
  eventName : String
  numberOfArguments : Nat
  numberOfLocals : Nat
  address : Nat
  eventType : Nat
  deriving DecidableEq, Repr

/-- `EventInfo.ToFunctionInfo`. -/
def EventInfo.toFunctionInfo (e : EventInfo) : FunctionInfo where
  name := e.eventName
  numberOfArguments := e.numberOfArguments
  numberOfLocals := e.numberOfLocals
  address := e.address

/-- The objects of the constant pool: literals, and the functions of the script. -/
inductive Const (F : Type)
  | value (v : Value F)
  | function (fi : FunctionInfo)

/-- `VM/CompiledScript.cs`. -/
structure CompiledScript (F : Type) where
  byteCode : List (BitVec 8)
  constPool : List (Const F)
  stateEvents : List (List EventInfo)
  numGlobals : Nat

/-! ## Words in the byte code -/

/-- `Encoding.GetInt`: the four bytes from `index` on, highest byte first. -/
def getInt (memory : List (BitVec 8)) (index : Nat) : Option (BitVec 32) := do
  let b1 ← memory[index]?
  let b2 ← memory[index + 1]?
  let b3 ← memory[index + 2]?
  let b4 ← memory[index + 3]?
  some (BitVec.ofNat 32 (b1.toNat * 2 ^ 24 + b2.toNat * 2 ^ 16 + b3.toNat * 2 ^ 8 + b4.toNat))

/-- The four bytes `Encoding.WriteInt` writes. -/
def intBytes (value : BitVec 32) : List (BitVec 8) :=
  [BitVec.ofNat 8 (value.toNat / 2 ^ 24), BitVec.ofNat 8 (value.toNat / 2 ^ 16),
    BitVec.ofNat 8 (value.toNat / 2 ^ 8), BitVec.ofNat 8 value.toNat]

/-- `Encoding.WriteInt`. -/
def writeInt (bytes : List (BitVec 8)) (index : Nat) (value : BitVec 32) : List (BitVec 8) :=
  bytes.take index ++ intBytes value ++ bytes.drop (index + 4)

/-- The operands that follow an opcode, read one after the other. -/
def getInts (memory : List (BitVec 8)) (index : Nat) : Nat → Option (List (BitVec 32))
  | 0 => some []
  | n + 1 => do
    let w ← getInt memory index
    let ws ← getInts memory (index + 4) n
    some (w :: ws)

/-! ## Decoding -/

section Decode

variable {F : Type} [FloatArith F]

/-- The actions without operands that only compute on the operand stack. -/
def OpCode.stackOp : OpCode → Option (StackOp F)
  | .iadd => some opIadd
  | .isub => some opIsub
  | .imul => some opImul
  | .idiv => some opIdiv
  | .imod => some opImod
  | .ibor => some opIbor
  | .iband => some opIband
  | .ibxor => some opIbxor
  | .irsh => some opIrsh
  | .ilsh => some opIlsh
  | .ineg => some opIneg
  | .ilnot => some opIlnot
  | .ilor => some opIlor
  | .iland => some opIland
  | .ilt => some opIlt
  | .igt => some opIgt
  | .ilte => some opIlte
  | .igte => some opIgte
  | .ieq => some opIeq
  | .ineq => some opIneq
  | .fadd => some opFadd
  | .fsub => some opFsub
  | .fmul => some opFmul
  | .fdiv => some opFdiv
  | .fneg => some opFneg
  | .flt => some opFlt
  | .fgt => some opFgt
  | .flte => some opFlte
  | .fgte => some opFgte
  | .feq => some opFeq
  | .fneq => some opFneq
  | .vadd => some opVadd
  | .vsub => some opVsub
  | .vmul => some opVmul
  | .vcross => some opVcross
  | .veq => some opVeq
  | .vneq => some opVneq
  | .sconcat => some opSconcat
  | .seq => some opSeq
  | .sneq => some opSneq
  | .radd => some opRadd
  | .rsub => some opRsub
  | .rmul => some opRmul
  | .rdiv => some opRdiv
  | .req => some opReq
  | .rneq => some opRneq
  | .vrmul => some opVrmul
  | .vimul => some opVimul
  | .vfmul => some opVfmul
  | .listPrepend => some opListPrepend
  | .listAppend => some opListAppend
  | .icast => some opIcast
  | .fcast => some opFcast
  | .scast => some opScast
  | .vcast => some opVcast
  | .rcast => some opRcast
  | .lcast => some opLcast
  | .buildvec => some opBuildVec
  | .buildrot => some opBuildRot
  | .vneg => some opVneg
  | .rneg => some opRneg
  | .ibunot => some opIbunot
  | .vidiv => some opVidiv
  | .vfdiv => some opVfdiv
  | .vrdiv => some opVrdiv
  | .leq => some opLeq
  | .lneq => some opLneq
  | .booleval => some opBooleval
  | _ => none

/-- The actions on one variable, and the value each initialisation stores. -/
def OpCode.varAction (r : VarRef) : OpCode → Option (Action F)
  | .load | .gload => some (.load r)
  | .store | .gstore => some (.store r)
  | .ipreincL | .ipreincG => some (.incDec false true true r)
  | .ipostincL | .ipostincG => some (.incDec false false true r)
  | .ipredecL | .ipredecG => some (.incDec false true false r)
  | .ipostdecL | .ipostdecG => some (.incDec false false false r)
  | .fpreincL | .fpreincG => some (.incDec true true true r)
  | .fpostincL | .fpostincG => some (.incDec true false true r)
  | .fpredecL | .fpredecG => some (.incDec true true false r)
  | .fpostdecL | .fpostdecG => some (.incDec true false false r)
  | .iinitL | .iinitG => some (.init r (.int 0))
  | .finitL | .finitG => some (.init r (.float FloatArith.zero))
  | .vinitL | .vinitG => some (.init r (.vector vectorZero))
  | .rinitL | .rinitG => some (.init r (.rotation quaternionIdentity))
  | .sinitL | .sinitG => some (.init r (.string ""))
  | .kinitL | .kinitG => some (.init r (.string zeroGuid))
  | .linitL | .linitG => some (.init r (.list []))
  | _ => none

/-- The actions on one component of a variable. -/
def OpCode.subAction (r : VarRef) (sub : Int) : OpCode → Option (Action F)
  | .loadSub | .gloadSub => some (.loadSub r sub)
  | .storeSub | .gstoreSub => some (.storeSub r sub)
  | .fpreincLSub | .fpreincGSub => some (.incDecSub true true r sub)
  | .fpostincLSub | .fpostincGSub => some (.incDecSub false true r sub)
  | .fpredecLSub | .fpredecGSub => some (.incDecSub true false r sub)
  | .fpostdecLSub | .fpostdecGSub => some (.incDecSub false false r sub)
  | _ => none

/-- The actions on variables that work on the globals; the others work on the top frame. -/
def OpCode.isGlobal : OpCode → Bool
  | .gload | .gloadSub | .gstore | .gstoreSub
  | .ipreincG | .ipostincG | .ipredecG | .ipostdecG
  | .fpreincG | .fpostincG | .fpredecG | .fpostdecG
  | .fpreincGSub | .fpostincGSub | .fpredecGSub | .fpostdecGSub
  | .iinitG | .finitG | .vinitG | .rinitG | .sinitG | .kinitG | .linitG => true
  | _ => false

namespace CompiledScript

/-- A literal of the constant pool. -/
def constant (sc : CompiledScript F) (index : BitVec 32) : Except Fault (Action F) :=
  match sc.constPool[index.toNat]? with
  | some (.value v) => .ok (.const v)
  | some (.function _) => .error .invalidCast
  | none => .error .indexOutOfRange

/-- A function of the constant pool. -/
def function (sc : CompiledScript F) (index : BitVec 32) : Except Fault (Action F) :=
  match sc.constPool[index.toNat]? with
  | some (.function fi) => .ok (.call fi)
  | some (.value _) => .error .invalidCast
  | none => .error .indexOutOfRange

/-- The action an opcode and its operands stand for. -/
def action (sc : CompiledScript F) (op : OpCode) (args : List (BitVec 32)) :
    Except Fault (Action F) :=
  match op, args with
  | .iconst, [i] => .ok (.const (.int i))
  | .fconst, [i] | .sconst, [i] | .vconst, [i] | .rconst, [i] | .lconst, [i] => sc.constant i
  | .pop, [] => .ok .pop
  | .jmp, [a] => .ok (.jmp a.toNat)
  | .call, [i] => sc.function i
  | .ret, [] => .ok .ret
  | .syscall, [i] => .ok (.syscall i.toNat)
  | .halt, [] => .ok .halt
  | .buildlist, [n] => .ok (.buildList n.toNat)
  | .trace, [] => .ok .trace
  | .brt, [a] => .ok (.brt a.toNat)
  | .brf, [a] => .ok (.brf a.toNat)
  | .statechg, [i] => .ok (.stateChg i.toNat)
  | op, [] =>
    match (op.stackOp : Option (StackOp F)) with
    | some f => .ok (.compute f)
    | none => .error .unhandledOpcode
  | op, [i] =>
    match op.varAction ⟨op.isGlobal, i.toInt⟩ with
    | some a => .ok a
    | none => .error .unhandledOpcode
  | op, [i, sub] =>
    match op.subAction ⟨op.isGlobal, i.toInt⟩ sub.toInt with
    | some a => .ok a
    | none => .error .unhandledOpcode
  | _, _ => .error .unhandledOpcode

/-- An instruction: the opcode at an address, the operands after it, and the address of the
next instruction. -/
def fetch (sc : CompiledScript F) (ip : Nat) :
    Except Fault (OpCode × List (BitVec 32) × Nat) :=
  match sc.byteCode[ip]? with
  | none => .error .indexOutOfRange
  | some b =>
    match OpCode.ofByte b with
    | none => .error .unhandledOpcode
    | some op =>
      match getInts sc.byteCode (ip + 1) op.operandCount with
      | none => .error .indexOutOfRange
      | some args => .ok (op, args, ip + op.size)

/-- The action of the instruction at an address, with the address of the next instruction. -/
def actionAt (sc : CompiledScript F) (ip : Nat) : Except Fault (Action F × Nat) := do
  let (op, args, next) ← sc.fetch ip
  let a ← sc.action op args
  .ok (a, next)

/-- `Interpreter.Tick`. -/
def tick (sc : CompiledScript F) (host : Host F) (s : RuntimeState F) :
    Except Fault (RuntimeState F) := do
  let (a, next) ← sc.actionAt s.ip
  a.exec host { s with ip := next }

/-- `CompiledScript.CalcBaseMemorySize`: literals of the pool have a size, functions do not. -/
def baseMemorySize (sc : CompiledScript F) : Int :=
  int32 (sc.byteCode.length + (sc.constPool.map fun c =>
    match c with
    | .value v => (v.memSize : Int)
    | .function _ => 0).sum)

/-- `CompiledScript.FindEvent`. -/
def findEvent (sc : CompiledScript F) (state eventType : Nat) : Option EventInfo := do
  let evts ← sc.stateEvents[state]?
  evts.find? fun e => e.eventType == eventType

/-- The state of a new interpreter, after `RuntimeState.Reset`. -/
def initial (sc : CompiledScript F) : RuntimeState F where
  ip := 0
  lslState := 0
  globals := List.replicate sc.numGlobals none
  operands := []
  calls := []
  memoryUsed := sc.baseMemorySize
  runState := .running

end CompiledScript

/-- `RuntimeState.DoEvent`: pushes a frame with the event's arguments and moves to the
handler. -/
def RuntimeState.doEvent (info : EventInfo) (args : List (Value F)) (s : RuntimeState F) :
    Except Fault (RuntimeState F) :=
  let size := info.numberOfArguments + info.numberOfLocals
  if args.length ≤ size then
    let f : StackFrame F :=
      { functionInfo := info.toFunctionInfo
        returnAddress := 0
        locals := args.map some ++ List.replicate (size - args.length) none }
    RuntimeState.addCall f
      { s with calls := f :: s.calls, ip := info.address, runState := .running }
  else .error .indexOutOfRange

end Decode

end Halcyon.Joke
