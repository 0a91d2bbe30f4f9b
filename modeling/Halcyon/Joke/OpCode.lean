import Halcyon.Joke.VarType

/-!
# Opcodes of the virtual machine

`OpCode` is the enumeration of `Types/OpCodes.cs`, in its order: an opcode's byte in the
compiled script is its position, counted from one.  `OpCode.operandCount` is the number of
32-bit operands `VM/Interpreter.Actions.cs` reads after the opcode byte, and so fixes the size
of an instruction (`OpCode.size`).
-/

namespace Halcyon.Joke

/-- `Types.OpCode`. -/
inductive OpCode
  | load
  | loadSub
  | store
  | storeSub
  | gload
  | gloadSub
  | gstore
  | gstoreSub
  | iconst
  | fconst
  | sconst
  | vconst
  | rconst
  | lconst
  | iadd
  | isub
  | imul
  | idiv
  | imod
  | ibor
  | iband
  | ibxor
  | irsh
  | ilsh
  | ipreincL
  | ipostincL
  | ipredecL
  | ipostdecL
  | ipreincG
  | ipostincG
  | ipredecG
  | ipostdecG
  | fpreincL
  | fpostincL
  | fpredecL
  | fpostdecL
  | fpreincG
  | fpostincG
  | fpredecG
  | fpostdecG
  | fpreincLSub
  | fpostincLSub
  | fpredecLSub
  | fpostdecLSub
  | fpreincGSub
  | fpostincGSub
  | fpredecGSub
  | fpostdecGSub
  | ineg
  | ilnot
  | ilor
  | iland
  | ilt
  | igt
  | ilte
  | igte
  | ieq
  | ineq
  | fadd
  | fsub
  | fmul
  | fdiv
  | fneg
  | flt
  | fgt
  | flte
  | fgte
  | feq
  | fneq
  | vadd
  | vsub
  | vmul
  | vcross
  | veq
  | vneq
  | sconcat
  | seq
  | sneq
  | radd
  | rsub
  | rmul
  | rdiv
  | req
  | rneq
  | vrmul
  | vimul
  | vfmul
  | pop
  | listPrepend
  | listAppend
  | jmp
  | call
  | ret
  | syscall
  | halt
  | icast
  | fcast
  | scast
  | vcast
  | rcast
  | lcast
  | buildvec
  | buildrot
  | buildlist
  | trace
  | brt
  | brf
  | statechg
  | vneg
  | rneg
  | ibunot
  | vidiv
  | vfdiv
  | vrdiv
  | leq
  | iinitG
  | finitG
  | vinitG
  | rinitG
  | sinitG
  | linitG
  | iinitL
  | finitL
  | vinitL
  | rinitL
  | sinitL
  | linitL
  | lneq
  | kinitG
  | kinitL
  | booleval
  deriving DecidableEq, Repr

namespace OpCode

/-- Every opcode, in the order of the enumeration. -/
def all : List OpCode :=
  [.load, .loadSub, .store, .storeSub, .gload, .gloadSub, .gstore, .gstoreSub, .iconst,
    .fconst, .sconst, .vconst, .rconst, .lconst, .iadd, .isub, .imul, .idiv, .imod, .ibor,
    .iband, .ibxor, .irsh, .ilsh, .ipreincL, .ipostincL, .ipredecL, .ipostdecL, .ipreincG,
    .ipostincG, .ipredecG, .ipostdecG, .fpreincL, .fpostincL, .fpredecL, .fpostdecL, .fpreincG,
    .fpostincG, .fpredecG, .fpostdecG, .fpreincLSub, .fpostincLSub, .fpredecLSub,
    .fpostdecLSub, .fpreincGSub, .fpostincGSub, .fpredecGSub, .fpostdecGSub, .ineg, .ilnot,
    .ilor, .iland, .ilt, .igt, .ilte, .igte, .ieq, .ineq, .fadd, .fsub, .fmul, .fdiv, .fneg,
    .flt, .fgt, .flte, .fgte, .feq, .fneq, .vadd, .vsub, .vmul, .vcross, .veq, .vneq, .sconcat,
    .seq, .sneq, .radd, .rsub, .rmul, .rdiv, .req, .rneq, .vrmul, .vimul, .vfmul, .pop,
    .listPrepend, .listAppend, .jmp, .call, .ret, .syscall, .halt, .icast, .fcast, .scast,
    .vcast, .rcast, .lcast, .buildvec, .buildrot, .buildlist, .trace, .brt, .brf, .statechg,
    .vneg, .rneg, .ibunot, .vidiv, .vfdiv, .vrdiv, .leq, .iinitG, .finitG, .vinitG, .rinitG,
    .sinitG, .linitG, .iinitL, .finitL, .vinitL, .rinitL, .sinitL, .linitL, .lneq, .kinitG,
    .kinitL, .booleval]

/-- The byte of an opcode in the compiled script. -/
def toByte (op : OpCode) : BitVec 8 :=
  BitVec.ofNat 8 (op.ctorIdx + 1)

/-- The opcode a byte of the script stands for.  A byte without an opcode is
"Unhandled opcode" to the interpreter. -/
def ofByte (b : BitVec 8) : Option OpCode :=
  if b = 0 then none else all[b.toNat - 1]?

lemma ofByte_toByte (op : OpCode) : ofByte op.toByte = some op := by
  cases op <;> rfl

/-- How many 32-bit operands the interpreter fetches for an opcode. -/
def operandCount : OpCode → Nat
  | .loadSub | .storeSub | .gloadSub | .gstoreSub | .fpreincLSub | .fpostincLSub
  | .fpredecLSub | .fpostdecLSub | .fpreincGSub | .fpostincGSub | .fpredecGSub
  | .fpostdecGSub => 2
  | .load | .store | .gload | .gstore | .iconst | .fconst | .sconst | .vconst | .rconst
  | .lconst | .ipreincL | .ipostincL | .ipredecL | .ipostdecL | .ipreincG | .ipostincG
  | .ipredecG | .ipostdecG | .fpreincL | .fpostincL | .fpredecL | .fpostdecL | .fpreincG
  | .fpostincG | .fpredecG | .fpostdecG | .jmp | .call | .syscall | .buildlist | .brt
  | .brf | .statechg | .iinitG | .finitG | .vinitG | .rinitG | .sinitG | .linitG | .iinitL
  | .finitL | .vinitL | .rinitL | .sinitL | .linitL | .kinitG | .kinitL => 1
  | _ => 0

/-- The number of bytes of an instruction: the opcode and its operands. -/
def size (op : OpCode) : Nat :=
  1 + 4 * op.operandCount

lemma size_pos (op : OpCode) : 0 < op.size := by
  simp only [size]
  omega

end OpCode

end Halcyon.Joke
