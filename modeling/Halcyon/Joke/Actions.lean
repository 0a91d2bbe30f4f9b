import Halcyon.Joke.Machine

/-!
# The actions of the interpreter

The remaining actions of `VM/Interpreter.Actions.cs`.  Those on floats, vectors and rotations
and the conversions are `StackOp`s over the uninterpreted operations of `FloatArith`.  The
others read or write variables, move the instruction pointer or change the call stack; they are
the constructors of `Action`, with the instruction's operands already decoded, and
`Action.exec` runs them on the state whose instruction pointer is past the instruction.

Code outside the repository enters in two places.  A system call is handed to the
shim, which takes its arguments from the operand stack and leaves its result there; a state
change raises an event that the script engine handles.  Both are the fields of `Host`.
-/

namespace Halcyon.Joke

section StackOps

variable {F : Type} [FloatArith F]

open FloatArith

/-! ## Floats, vectors and rotations -/

/-- Pops two operands `b`, `a` and pushes `f a b`, a computation that cannot fail. -/
def arithOp (ta tb tr : OperandType) (f : ta.denote F → tb.denote F → tr.denote F) :
    StackOp F where
  args := [tb, ta]
  result := tr
  run := fun (b, a, ()) => .ok (f a b)

def opFadd : StackOp F := arithOp .float .float .float add
def opFsub : StackOp F := arithOp .float .float .float sub
def opFmul : StackOp F := arithOp .float .float .float mul
def opFdiv : StackOp F := arithOp .float .float .float div
def opFneg : StackOp F := ⟨[.float], .float, fun (a, ()) => .ok (neg a)⟩
def opFlt : StackOp F := testOp .float fun a b => lt a b
def opFgt : StackOp F := testOp .float fun a b => lt b a
def opFlte : StackOp F := testOp .float fun a b => le a b
def opFgte : StackOp F := testOp .float fun a b => le b a
def opFeq : StackOp F := testOp .float fun a b => eq a b
def opFneq : StackOp F := testOp .float fun a b => !eq a b

def opVadd : StackOp F := arithOp .vector .vector .vector vecAdd
def opVsub : StackOp F := arithOp .vector .vector .vector vecSub
def opVmul : StackOp F := arithOp .vector .vector .float vecDot
def opVcross : StackOp F := arithOp .vector .vector .vector vecCross
def opVeq : StackOp F := testOp .vector fun a b => vecEq a b
def opVneq : StackOp F := testOp .vector fun a b => !vecEq a b
def opVneg : StackOp F := ⟨[.vector], .vector, fun (v, ()) => .ok (vecNeg v)⟩

/-- `Interpreter._QuatMul`. -/
def quatMulNegated (b a : Quaternion F) : Quaternion F :=
  quatNegate (quatMul a b)

/-- `Interpreter._VrMul`. -/
def vrMul (a : Vector3 F) (b : Quaternion F) : Vector3 F :=
  let vq : Quaternion F := ⟨a.x, a.y, a.z, zero⟩
  let nq : Quaternion F := ⟨neg b.x, neg b.y, neg b.z, b.w⟩
  let result := quatMulNegated nq (quatMulNegated vq b)
  ⟨result.x, result.y, result.z⟩

def opRadd : StackOp F := arithOp .quaternion .quaternion .quaternion quatAdd
def opRsub : StackOp F := arithOp .quaternion .quaternion .quaternion quatSub
def opRmul : StackOp F := arithOp .quaternion .quaternion .quaternion quatMulNegated
def opRdiv : StackOp F := arithOp .quaternion .quaternion .quaternion fun a b =>
  quatNegate (quatMulNegated a ⟨b.x, b.y, b.z, neg b.w⟩)
def opReq : StackOp F := testOp .quaternion fun a b => quatEq a b
def opRneq : StackOp F := testOp .quaternion fun a b => !quatEq a b
def opRneg : StackOp F := ⟨[.quaternion], .quaternion, fun (r, ()) => .ok (quatNegate r)⟩

def opVrmul : StackOp F := arithOp .vector .quaternion .vector vrMul
def opVimul : StackOp F := arithOp .vector .int .vector fun a b => vecScale a (ofInt b)
def opVfmul : StackOp F := arithOp .vector .float .vector vecScale
def opVidiv : StackOp F := arithOp .vector .int .vector fun a b => vecDiv a (ofInt b)
def opVfdiv : StackOp F := arithOp .vector .float .vector vecDiv
def opVrdiv : StackOp F := arithOp .vector .quaternion .vector fun a b =>
  vrMul a ⟨b.x, b.y, b.z, neg b.w⟩

def opBuildVec : StackOp F :=
  ⟨[.float, .float, .float], .vector, fun (z, y, x, ()) => .ok ⟨x, y, z⟩⟩

def opBuildRot : StackOp F :=
  ⟨[.float, .float, .float, .float], .quaternion, fun (w, z, y, x, ()) => .ok ⟨x, y, z, w⟩⟩

/-! ## Conversions -/

/-- `Vector3.Zero`. -/
def vectorZero : Vector3 F := ⟨zero, zero, zero⟩

/-- `Quaternion.Identity`. -/
def quaternionIdentity : Quaternion F := ⟨zero, zero, zero, one⟩

/-- The key a script's key variables start with. -/
def zeroGuid : String := "00000000-0000-0000-0000-000000000000"

/-- The only valid types for an integer cast are float, string and integer. -/
def opIcast : StackOp F :=
  ⟨[.object], .int, fun (a, ()) =>
    match a with
    | .string s => .ok (castToInt F s)
    | .float x => .ok (toInt x)
    | .int i => .ok i
    | _ => .error .badConversion⟩

def opFcast : StackOp F :=
  ⟨[.object], .float, fun (a, ()) =>
    match a with
    | .string s => .ok (castToFloat s)
    | .int i => .ok (ofInt i)
    | .float x => .ok x
    | _ => .error .badConversion⟩

/-- All types are valid for a string cast. -/
def opScast : StackOp F :=
  ⟨[.object], .string, fun (a, ()) => .ok a.castToString⟩

def opVcast : StackOp F :=
  ⟨[.object], .vector, fun (a, ()) =>
    match a with
    | .string s => .ok ((vecParse s).getD vectorZero)
    | .vector v => .ok v
    | _ => .error .badConversion⟩

def opRcast : StackOp F :=
  ⟨[.object], .quaternion, fun (a, ()) =>
    match a with
    | .string s => .ok ((quatParse s).getD quaternionIdentity)
    | .rotation q => .ok q
    | _ => .error .badConversion⟩

/-- Whether a condition of any type counts as true. -/
def opBooleval : StackOp F :=
  ⟨[.object], .int, fun (a, ()) =>
    match a with
    | .int i => .ok (truth (i != 0))
    | .float x => .ok (truth (!eq x zero))
    | .list vs => .ok (truth (vs.length != 0))
    | .rotation q => .ok (truth (!quatEq q quaternionIdentity))
    | .string s => .ok (truth (s != "" && s != zeroGuid))
    | .vector v => .ok (truth (!vecEq v vectorZero))⟩

end StackOps

/-! ## Variables -/

namespace RuntimeState

variable {F : Type}

/-- The array an instruction's slot refers to: the globals, or the locals of the top frame. -/
def varList (isGlobal : Bool) (s : RuntimeState F) : Except Fault (List (Option (Value F))) :=
  if isGlobal then .ok s.globals
  else match s.calls with
    | [] => .error .nullReference
    | f :: _ => .ok f.locals

/-- Reads a slot; the outcome `none` is null. -/
def readVar (r : VarRef) (s : RuntimeState F) : Except Fault (Option (Value F)) := do
  let vars ← s.varList r.isGlobal
  if r.index < 0 then .error .indexOutOfRange
  else match vars[r.index.toNat]? with
    | some v => .ok v
    | none => .error .indexOutOfRange

/-- Writes a slot that exists. -/
def writeVar (r : VarRef) (v : Value F) (s : RuntimeState F) : RuntimeState F :=
  if r.isGlobal then { s with globals := s.globals.set r.index.toNat (some v) }
  else match s.calls with
    | [] => s
    | f :: fs => { s with calls := { f with locals := f.locals.set r.index.toNat (some v) } :: fs }

/-- `MemoryInfo.MAX_MEMORY`. -/
def maxMemory : Int := 0x20000

/-- `MemoryCalc.CalcSizeOf` of a variable; null has no size. -/
def slotSize : Option (Value F) → Int
  | none => 0
  | some v => int32 v.memSize

/-- The check that follows every increase of `MemoryUsed`. -/
def checkMemory (s : RuntimeState F) : Except Fault (RuntimeState F) :=
  if s.memoryUsed > maxMemory then .error .outOfMemory else .ok s

/-- `MemoryInfo.ReplaceStored`. -/
def replaceStored (old new : Option (Value F)) (s : RuntimeState F) :
    Except Fault (RuntimeState F) :=
  checkMemory { s with memoryUsed := int32 (s.memoryUsed + (slotSize new - slotSize old)) }

/-- What a frame adds to the memory counter. -/
def frameSize (f : StackFrame F) : Int :=
  (f.locals.map slotSize).sum + StackFrame.memSize

/-- `MemoryInfo.AddCall`. -/
def addCall (f : StackFrame F) (s : RuntimeState F) : Except Fault (RuntimeState F) :=
  checkMemory { s with memoryUsed := int32 (s.memoryUsed + frameSize f) }

/-- `MemoryInfo.CompleteCall`. -/
def completeCall (f : StackFrame F) (s : RuntimeState F) : RuntimeState F :=
  { s with memoryUsed := int32 (s.memoryUsed - frameSize f) }

end RuntimeState

/-! ## Subscripts -/

section Subscripts

variable {F : Type}

/-- The component a subscript names, as `_LoadSub` reads it. -/
def loadSubscript : Option (Value F) → Int → Except Fault F
  | some (.vector v), 0 => .ok v.x
  | some (.vector v), 1 => .ok v.y
  | some (.vector v), 2 => .ok v.z
  | some (.rotation q), 0 => .ok q.x
  | some (.rotation q), 1 => .ok q.y
  | some (.rotation q), 2 => .ok q.z
  | some (.rotation q), 3 => .ok q.w
  | _, _ => .error .badSubscript

/-- `_AssignSubscript`: the variable's new value and the component it had before.  The new
component is `f` of the old one. -/
def assignSubscript (f : F → Except Fault F) :
    Option (Value F) → Int → Except Fault (Value F × F)
  | some (.vector v), 0 => do let c ← f v.x; .ok (.vector { v with x := c }, v.x)
  | some (.vector v), 1 => do let c ← f v.y; .ok (.vector { v with y := c }, v.y)
  | some (.vector v), 2 => do let c ← f v.z; .ok (.vector { v with z := c }, v.z)
  | some (.rotation q), 0 => do let c ← f q.x; .ok (.rotation { q with x := c }, q.x)
  | some (.rotation q), 1 => do let c ← f q.y; .ok (.rotation { q with y := c }, q.y)
  | some (.rotation q), 2 => do let c ← f q.z; .ok (.rotation { q with z := c }, q.z)
  | some (.rotation q), 3 => do let c ← f q.w; .ok (.rotation { q with w := c }, q.w)
  | _, _ => .error .badSubscript

end Subscripts

/-! ## Actions -/

/-- The actions of the interpreter with decoded operands: slots, subscript indices, constants,
addresses and functions. -/
inductive Action (F : Type)
  | load (r : VarRef)
  | loadSub (r : VarRef) (sub : Int)
  | store (r : VarRef)
  | storeSub (r : VarRef) (sub : Int)
  | const (v : Value F)
  | compute (op : StackOp F)
  /-- The sixteen increments and decrements of integer and float variables. -/
  | incDec (isFloat pre inc : Bool) (r : VarRef)
  | incDecSub (pre inc : Bool) (r : VarRef) (sub : Int)
  /-- The initialisation of a variable without an initialiser. -/
  | init (r : VarRef) (v : Value F)
  | pop
  | buildList (n : Nat)
  | trace
  | jmp (address : Nat)
  | brt (address : Nat)
  | brf (address : Nat)
  | call (fi : FunctionInfo)
  | ret
  | syscall (index : Nat)
  | halt
  | stateChg (stateId : Nat)

/-- What the virtual machine calls outside itself: the system call shim, and the handler of the
state change event. -/
structure Host (F : Type) where
  syscall : Nat → RuntimeState F → Except Fault (RuntimeState F)
  onStateChg : Nat → RuntimeState F → Except Fault (RuntimeState F)

namespace Action

variable {F : Type} [FloatArith F]

/-- `_Store`. -/
def execStore (r : VarRef) (s : RuntimeState F) : Except Fault (RuntimeState F) := do
  let old ← s.readVar r
  let (new, s) ← s.pop
  (s.writeVar r new).replaceStored old (some new)

/-- `_StoreSub`. -/
def execStoreSub (r : VarRef) (sub : Int) (s : RuntimeState F) :
    Except Fault (RuntimeState F) := do
  let (v, s) ← s.pop
  let old ← s.readVar r
  let (new, _) ← assignSubscript (fun _ => OperandType.float.unbox v) old sub
  .ok (s.writeVar r new)

/-- Unboxing a variable: null has no type at all. -/
def unboxVar (t : OperandType) : Option (Value F) → Except Fault (t.denote F)
  | none => .error .nullReference
  | some v => t.unbox v

/-- `_IPreinc`, `_FPostDec` and their siblings: the old and the new value of the variable. -/
def stepped (isFloat inc : Bool) (v : Option (Value F)) : Except Fault (Value F × Value F) :=
  if isFloat then do
    let x ← unboxVar .float v
    .ok (.float x, .float (if inc then FloatArith.add x FloatArith.one
      else FloatArith.sub x FloatArith.one))
  else do
    let i ← unboxVar .int v
    .ok (.int i, .int (if inc then i + 1 else i - 1))

/-- The increments and decrements of variables. -/
def execIncDec (isFloat pre inc : Bool) (r : VarRef) (s : RuntimeState F) :
    Except Fault (RuntimeState F) := do
  let v ← s.readVar r
  let (old, new) ← stepped isFloat inc v
  .ok ((s.writeVar r new).push (if pre then new else old))

/-- The increments and decrements of subscripts. -/
def execIncDecSub (pre inc : Bool) (r : VarRef) (sub : Int) (s : RuntimeState F) :
    Except Fault (RuntimeState F) := do
  let step := fun c : F =>
    if inc then FloatArith.add c FloatArith.one else FloatArith.sub c FloatArith.one
  let v ← s.readVar r
  let (new, prevVal) ← assignSubscript (fun c => .ok (step c)) v sub
  .ok ((s.writeVar r new).push (.float (if pre then step prevVal else prevVal)))

/-- `_Call`: the new frame gets its arguments from the operand stack. -/
def execCall (fi : FunctionInfo) (s : RuntimeState F) : Except Fault (RuntimeState F) := do
  let returnAddress := s.ip
  let (args, s) ← s.popMany fi.numberOfArguments
  let f : StackFrame F :=
    { functionInfo := fi
      returnAddress := returnAddress
      locals := args.map some ++ List.replicate fi.numberOfLocals none }
  RuntimeState.addCall f { s with calls := f :: s.calls, ip := fi.address }

/-- `Op_Ret`.  The return address `0` indicates an event call. -/
def execRet (s : RuntimeState F) : Except Fault (RuntimeState F) :=
  match s.calls with
  | [] => .error .stackEmpty
  | f :: fs =>
    let s := RuntimeState.completeCall f { s with calls := fs, ip := f.returnAddress }
    .ok (if f.returnAddress = 0 then { s with runState := .waiting } else s)

/-- Runs an action; the instruction pointer is already past the instruction's operands. -/
def exec (host : Host F) (a : Action F) (s : RuntimeState F) : Except Fault (RuntimeState F) :=
  match a with
  | load r => do
    match ← s.readVar r with
    | none => .error .nullOperand
    | some v => .ok (s.push v)
  | loadSub r sub => do
    let v ← s.readVar r
    let c ← loadSubscript v sub
    .ok (s.push (.float c))
  | store r => execStore r s
  | storeSub r sub => execStoreSub r sub s
  | const v => .ok (s.push v)
  | compute op => op.exec s
  | incDec isFloat pre inc r => execIncDec isFloat pre inc r s
  | incDecSub pre inc r sub => execIncDecSub pre inc r sub s
  | init r v => do
    let old ← s.readVar r
    (s.writeVar r v).replaceStored old (some v)
  | pop => do
    let (_, s) ← s.pop
    .ok s
  | buildList n => do
    let (vs, s) ← s.popMany n
    let members ← checkMemorySize vs
    .ok (s.push (.list members))
  | trace => do
    let (_, s) ← s.pop
    .ok s
  | jmp address => .ok { s with ip := address }
  | brt address => do
    let (v, s) ← s.pop
    let i ← OperandType.int.unbox v
    .ok (if i ≠ 0 then { s with ip := address } else s)
  | brf address => do
    let (v, s) ← s.pop
    let i ← OperandType.int.unbox v
    .ok (if i = 0 then { s with ip := address } else s)
  | call fi => execCall fi s
  | ret => execRet s
  | syscall index => host.syscall index s
  | halt => .ok { s with runState := .waiting }
  | stateChg stateId => host.onStateChg stateId s

end Action

end Halcyon.Joke
