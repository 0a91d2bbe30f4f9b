import Halcyon.Joke.Value

/-!
# The state of the virtual machine and its operand-stack operations

`RuntimeState` (`VM/RuntimeState.cs`) holds what an instruction can read or change: the
instruction pointer, the globals, the operand stack, the call stack and the memory counter.
Every exception an action of `VM/Interpreter.Actions.cs` can raise is a `Fault`; an action is a
function from a state to a state or a fault.

The actions that only compute on the operand stack all have one shape: they pop a fixed number
of operands, unboxing each one as a fixed type, and push one result.  `StackOp` records the
types and the computation, and `StackOp.exec` runs it; the operands are listed in the order in
which they are popped, so that `opIsub` reads like its source (`b` first, then `a`).  Unboxing
as another type than the operand has is the invalid cast of the source.
-/

namespace Halcyon.Joke

/-- The exceptions an interpreter action can end with. -/
inductive Fault
  /-- Integer division by zero, or of the least integer by `-1`. -/
  | arithmetic
  /-- "Out of memory". -/
  | outOfMemory
  /-- `Pop` of an empty stack. -/
  | stackEmpty
  /-- Unboxing an operand or a variable as another type than it has. -/
  | invalidCast
  /-- Use of a null frame, or unboxing a null variable. -/
  | nullReference
  /-- "Attempt to push null operand". -/
  | nullOperand
  /-- A slot, constant or address outside its array. -/
  | indexOutOfRange
  /-- "Invalid subscript index", "Subscript access on non-subscriptable type". -/
  | badSubscript
  /-- "Invalid integer cast", "Invalid floating point cast" and so on. -/
  | badConversion
  /-- "Unhandled opcode". -/
  | unhandledOpcode
  deriving DecidableEq, Repr

/-- `VM/FunctionInfo.cs`. -/
structure FunctionInfo where
  name : String
  numberOfArguments : Nat
  numberOfLocals : Nat
  address : Nat
  deriving DecidableEq, Repr

/-- `VM/StackFrame.cs`. -/
structure StackFrame (F : Type) where
  functionInfo : FunctionInfo
  returnAddress : Nat
  locals : List (Option (Value F))

/-- `StackFrame.MemSize`. -/
def StackFrame.memSize : Nat := 48 + 8

/-- The constructor of `StackFrame`: every local starts as null. -/
def StackFrame.new {F : Type} (funcInfo : FunctionInfo) (returnAddress : Nat) : StackFrame F where
  functionInfo := funcInfo
  returnAddress := returnAddress
  locals := List.replicate (funcInfo.numberOfArguments + funcInfo.numberOfLocals) none

/-- `RuntimeState.Status`. -/
inductive Status
  | running
  | waiting
  | sleeping
  | syscall
  | killed
  deriving DecidableEq, Repr

/-- The part of `VM/RuntimeState.cs` that instructions read or change.  Both stacks have their
top first; the source's `TopFrame` is the top of `calls`. -/
structure RuntimeState (F : Type) where
  ip : Nat
  lslState : Nat
  globals : List (Option (Value F))
  operands : List (Value F)
  calls : List (StackFrame F)
  memoryUsed : Int
  runState : Status

/-- A variable as an instruction names it: one of the two arrays and an index into it. -/
structure VarRef where
  isGlobal : Bool
  index : Int
  deriving DecidableEq, Repr

/-! ## Operand stack -/

/-- The types as which actions unbox operands; `object` leaves the operand as it is. -/
inductive OperandType
  | int
  | float
  | string
  | vector
  | quaternion
  | list
  | object
  deriving DecidableEq, Repr

namespace OperandType

variable {F : Type}

/-- What unboxing yields. -/
@[reducible] def denote (F : Type) : OperandType → Type
  | int => BitVec 32
  | float => F
  | string => String
  | vector => Vector3 F
  | quaternion => Quaternion F
  | list => List (Value F)
  | object => Value F

/-- The cast in front of a `Pop`. -/
def unbox : (t : OperandType) → Value F → Except Fault (t.denote F)
  | int, .int i => .ok i
  | float, .float x => .ok x
  | string, .string s => .ok s
  | vector, .vector v => .ok v
  | quaternion, .rotation q => .ok q
  | list, .list vs => .ok vs
  | object, v => .ok v
  | _, _ => .error .invalidCast

/-- The object a result is pushed as. -/
def box : (t : OperandType) → t.denote F → Value F
  | int, i => .int i
  | float, x => .float x
  | string, s => .string s
  | vector, v => .vector v
  | quaternion, q => .rotation q
  | list, vs => .list vs
  | object, v => v

end OperandType

namespace RuntimeState

variable {F : Type}

/-- `SafeOperandsPush` of an object that is not null. -/
def push (v : Value F) (s : RuntimeState F) : RuntimeState F :=
  { s with operands := v :: s.operands }

/-- `Operands.Pop`. -/
def pop (s : RuntimeState F) : Except Fault (Value F × RuntimeState F) :=
  match s.operands with
  | [] => .error .stackEmpty
  | v :: vs => .ok (v, { s with operands := vs })

/-- Pops `n` operands; the result lists them in the order in which they were pushed. -/
def popMany : Nat → RuntimeState F → Except Fault (List (Value F) × RuntimeState F)
  | 0, s => .ok ([], s)
  | n + 1, s => do
    let (v, s) ← s.pop
    let (vs, s) ← popMany n s
    .ok (vs ++ [v], s)

end RuntimeState

/-- Unboxed operands, the one popped first in front. -/
@[reducible] def Unboxed (F : Type) : List OperandType → Type
  | [] => Unit
  | t :: ts => t.denote F × Unboxed F ts

/-- An action that pops operands of fixed types and pushes one result. -/
structure StackOp (F : Type) where
  args : List OperandType
  result : OperandType
  run : Unboxed F args → Except Fault (result.denote F)

/-- Pops and unboxes operands, the first of the list first. -/
def RuntimeState.popUnboxed {F : Type} :
    (ts : List OperandType) → RuntimeState F → Except Fault (Unboxed F ts × RuntimeState F)
  | [], s => .ok ((), s)
  | t :: ts, s => do
    let (v, s) ← s.pop
    let x ← t.unbox v
    let (xs, s) ← RuntimeState.popUnboxed ts s
    .ok ((x, xs), s)

/-- Runs an operand-stack action. -/
def StackOp.exec {F : Type} (op : StackOp F) (s : RuntimeState F) :
    Except Fault (RuntimeState F) := do
  let (xs, s) ← s.popUnboxed op.args
  let r ← op.run xs
  .ok (s.push (op.result.box r))

/-! ## Integer actions -/

section StackOps

variable {F : Type}

/-- The integer an action pushes for the outcome of a test. -/
def truth (b : Bool) : BitVec 32 := if b then 1 else 0

/-- Pops two integers `b`, `a` and pushes `f a b`. -/
def intOp (f : BitVec 32 → BitVec 32 → Except Fault (BitVec 32)) : StackOp F where
  args := [.int, .int]
  result := .int
  run := fun (b, a, ()) => f a b

/-- Pops two operands `b`, `a` of one type and pushes whether `p a b` holds. -/
def testOp (t : OperandType) (p : t.denote F → t.denote F → Bool) : StackOp F where
  args := [t, t]
  result := .int
  run := fun (b, a, ()) => .ok (truth (p a b))

/-- The quotient of the source's `/` on `int`: truncated, and an exception where it does not
exist or does not fit. -/
def intDiv (a b : BitVec 32) : Except Fault (BitVec 32) :=
  if b = 0 then .error .arithmetic
  else if a = BitVec.intMin 32 ∧ b = -1 then .error .arithmetic
  else .ok (a.sdiv b)

/-- The remainder of the source's `%` on `int`. -/
def intMod (a b : BitVec 32) : Except Fault (BitVec 32) :=
  if b = 0 then .error .arithmetic
  else if a = BitVec.intMin 32 ∧ b = -1 then .error .arithmetic
  else .ok (a.srem b)

/-- `a >> b`: the shift count is taken modulo 32. -/
def intShr (a b : BitVec 32) : BitVec 32 := a.sshiftRight (b.toNat % 32)

/-- `a << b`. -/
def intShl (a b : BitVec 32) : BitVec 32 := a <<< (b.toNat % 32)

def opIadd : StackOp F := intOp fun a b => .ok (a + b)
def opIsub : StackOp F := intOp fun a b => .ok (a - b)
def opImul : StackOp F := intOp fun a b => .ok (a * b)
def opIdiv : StackOp F := intOp intDiv
def opImod : StackOp F := intOp intMod
def opIbor : StackOp F := intOp fun a b => .ok (a ||| b)
def opIband : StackOp F := intOp fun a b => .ok (a &&& b)
def opIbxor : StackOp F := intOp fun a b => .ok (a ^^^ b)
def opIrsh : StackOp F := intOp fun a b => .ok (intShr a b)
def opIlsh : StackOp F := intOp fun a b => .ok (intShl a b)
def opIlor : StackOp F := testOp .int fun a b => b != 0 || a != 0
def opIland : StackOp F := testOp .int fun a b => b != 0 && a != 0
def opIlt : StackOp F := testOp .int fun a b => a.slt b
def opIgt : StackOp F := testOp .int fun a b => b.slt a
def opIlte : StackOp F := testOp .int fun a b => a.sle b
def opIgte : StackOp F := testOp .int fun a b => b.sle a
def opIeq : StackOp F := testOp .int fun a b => a == b
def opIneq : StackOp F := testOp .int fun a b => a != b

def opIneg : StackOp F := ⟨[.int], .int, fun (i, ()) => .ok (-i)⟩
def opIlnot : StackOp F := ⟨[.int], .int, fun (i, ()) => .ok (truth (i == 0))⟩
def opIbunot : StackOp F := ⟨[.int], .int, fun (i, ()) => .ok (~~~i)⟩

def opSconcat : StackOp F := ⟨[.string, .string], .string, fun (b, a, ()) => .ok (a ++ b)⟩
def opSeq : StackOp F := testOp .string fun a b => a == b
def opSneq : StackOp F := testOp .string fun a b => a != b

/-! ## Lists -/

/-- The check every constructor of `LSLList` makes. -/
def checkMemorySize (members : List (Value F)) : Except Fault (List (Value F)) :=
  if int32 (Value.memSizes members) > 0x20000 then .error .outOfMemory else .ok members

/-- The members an object contributes when it is added to a list. -/
def asMembers : Value F → List (Value F)
  | .list vs => vs
  | v => [v]

/-- `LSLList.Prepend`. -/
def opListPrepend : StackOp F :=
  ⟨[.list, .object], .list, fun (b, a, ()) => checkMemorySize (asMembers a ++ b)⟩

/-- `LSLList.Append`. -/
def opListAppend : StackOp F :=
  ⟨[.object, .list], .list, fun (b, a, ()) => checkMemorySize (a ++ asMembers b)⟩

/-- Lists are compared by their lengths. -/
def opLeq : StackOp F := testOp .list fun a b => a.length == b.length
def opLneq : StackOp F := testOp .list fun a b => a.length != b.length

/-- Anything can be cast to a list: the result has the operand as its single element. -/
def opLcast : StackOp F :=
  ⟨[.object], .list, fun (a, ()) =>
    match a with
    | .list vs => .ok vs
    | v => checkMemorySize [v]⟩

end StackOps

end Halcyon.Joke
