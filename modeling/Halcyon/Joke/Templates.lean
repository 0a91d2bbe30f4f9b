import Halcyon.Joke.Asm
import Halcyon.Joke.TypeCheck

/-!
# Templates of the code generator

`Compiler/TemplateMapping.cs` chooses, by the types of the operands, the template an operator is
generated with; `grammar/ByteCode.stg` holds the templates.  Every template of a binary operator
evaluates both operands and ends in one instruction.  They differ in the instruction
(`BinTemplate.op`) and in where a conversion stands and which operand comes first
(`BinTemplate.layout`).  The templates of the compound assignments all go through `xxxa`, with an
instruction and possibly a conversion of the right operand.

A table has no template for some combinations of types.  The text that is rendered for a missing
template is empty, and the code of the operands is lost with it: `expandBin` and `expandAssign`
leave a blank line.
-/

namespace Halcyon.Joke

open VarType

/-- The templates of the binary operators. -/
inductive BinTemplate
  | iimul | ffmul | ifmul | fimul | ivmul | vimul | fvmul | vfmul | vvmul | vrmul | rrmul
  | iidiv | ifdiv | ffdiv | fidiv | vidiv | vfdiv | vrdiv | rrdiv
  | imod | vcross
  | iiadd | ifadd | fiadd | ffadd | lprep | lapp | vvadd | rradd | ssadd
  | iisub | ifsub | fisub | ffsub | vvsub | rrsub
  | lshift | rshift
  | ilt | flt | igt | fgt | ilte | flte | igte | fgte
  | ieq | feq | veq | req | leq | seq
  | ineq | fneq | vneq | rneq | lneq | sneq
  | bitor | bitand | bitxor
  | boolor | booland
  deriving DecidableEq, Repr

/-- The templates of the compound assignments. -/
inductive AssignTemplate
  | iiaa | fiaa | ffaa | vvaa | rraa | laa | ssaa
  | iisa | fisa | vvsa | rrsa | ffsa
  | iima | fima | ffma | vima | vfma | vvma | vrma | rrma
  | iida | fida | ffda | vida | vfda | vrda | rrda
  | iimodassign | vvmodassign
  | iilsa | iirsa
  deriving DecidableEq, Repr

namespace TemplateMapping

/-! ## Tables -/

def multiplication : VarType → VarType → Option BinTemplate
  | .integer, .integer => some .iimul
  | .integer, .float => some .ifmul
  | .integer, .vector => some .ivmul
  | .float, .integer => some .fimul
  | .float, .float => some .ffmul
  | .float, .vector => some .fvmul
  | .vector, .integer => some .vimul
  | .vector, .float => some .vfmul
  | .vector, .vector => some .vvmul
  | .vector, .rotation => some .vrmul
  | .rotation, .rotation => some .rrmul
  | _, _ => none

def division : VarType → VarType → Option BinTemplate
  | .integer, .integer => some .iidiv
  | .integer, .float => some .ifdiv
  | .float, .integer => some .fidiv
  | .float, .float => some .ffdiv
  | .vector, .integer => some .vidiv
  | .vector, .float => some .vfdiv
  | .vector, .rotation => some .vrdiv
  | .rotation, .rotation => some .rrdiv
  | _, _ => none

def mod : VarType → VarType → Option BinTemplate
  | .integer, .integer => some .imod
  | .vector, .vector => some .vcross
  | _, _ => none

def addition : VarType → VarType → Option BinTemplate
  | .integer, .integer => some .iiadd
  | .integer, .float => some .ifadd
  | .integer, .list => some .lprep
  | .float, .integer => some .fiadd
  | .float, .float => some .ffadd
  | .float, .list => some .lprep
  | .vector, .vector => some .vvadd
  | .vector, .list => some .lprep
  | .rotation, .rotation => some .rradd
  | .rotation, .list => some .lprep
  | .list, .integer => some .lapp
  | .list, .float => some .lapp
  | .list, .vector => some .lapp
  | .list, .rotation => some .lapp
  | .list, .list => some .lapp
  | .list, .key => some .lapp
  | .list, .string => some .lapp
  | .key, .list => some .lprep
  | .string, .list => some .lprep
  | .string, .string => some .ssadd
  | _, _ => none

def subtraction : VarType → VarType → Option BinTemplate
  | .integer, .integer => some .iisub
  | .integer, .float => some .ifsub
  | .float, .integer => some .fisub
  | .float, .float => some .ffsub
  | .vector, .vector => some .vvsub
  | .rotation, .rotation => some .rrsub
  | _, _ => none

def equality : VarType → VarType → Option BinTemplate
  | .integer, .integer => some .ieq
  | .integer, .float => some .feq
  | .float, .integer => some .feq
  | .float, .float => some .feq
  | .vector, .vector => some .veq
  | .rotation, .rotation => some .req
  | .list, .list => some .leq
  | .key, .key => some .seq
  | .key, .string => some .seq
  | .string, .key => some .seq
  | .string, .string => some .seq
  | _, _ => none

def inequality : VarType → VarType → Option BinTemplate
  | .integer, .integer => some .ineq
  | .integer, .float => some .fneq
  | .float, .integer => some .fneq
  | .float, .float => some .fneq
  | .vector, .vector => some .vneq
  | .rotation, .rotation => some .rneq
  | .list, .list => some .lneq
  | .key, .key => some .sneq
  | .key, .string => some .sneq
  | .string, .key => some .sneq
  | .string, .string => some .sneq
  | _, _ => none

/-- The four comparison tables differ only in their two templates. -/
def compare (onInt onFloat : BinTemplate) : VarType → VarType → Option BinTemplate
  | .integer, .integer => some onInt
  | .integer, .float => some onFloat
  | .float, .integer => some onFloat
  | .float, .float => some onFloat
  | _, _ => none

def ltCompare : VarType → VarType → Option BinTemplate := compare .ilt .flt
def gtCompare : VarType → VarType → Option BinTemplate := compare .igt .fgt
def lteCompare : VarType → VarType → Option BinTemplate := compare .ilte .flte
def gteCompare : VarType → VarType → Option BinTemplate := compare .igte .fgte

def addAssign : VarType → VarType → Option AssignTemplate
  | .integer, .integer => some .iiaa
  | .float, .integer => some .fiaa
  | .float, .float => some .ffaa
  | .vector, .vector => some .vvaa
  | .rotation, .rotation => some .rraa
  | .list, .integer => some .laa
  | .list, .float => some .laa
  | .list, .vector => some .laa
  | .list, .rotation => some .laa
  | .list, .list => some .laa
  | .list, .key => some .laa
  | .list, .string => some .laa
  | .string, .string => some .ssaa
  | _, _ => none

def subtractAssign : VarType → VarType → Option AssignTemplate
  | .integer, .integer => some .iisa
  | .float, .integer => some .fisa
  | .float, .float => some .ffsa
  | .vector, .vector => some .vvsa
  | .rotation, .rotation => some .rrsa
  | _, _ => none

def multiplicationAssign : VarType → VarType → Option AssignTemplate
  | .integer, .integer => some .iima
  | .float, .integer => some .fima
  | .float, .float => some .ffma
  | .vector, .integer => some .vima
  | .vector, .float => some .vfma
  | .vector, .vector => some .vvma
  | .vector, .rotation => some .vrma
  | .rotation, .rotation => some .rrma
  | _, _ => none

def divisionAssign : VarType → VarType → Option AssignTemplate
  | .integer, .integer => some .iida
  | .float, .integer => some .fida
  | .float, .float => some .ffda
  | .vector, .integer => some .vida
  | .vector, .float => some .vfda
  | .vector, .rotation => some .vrda
  | .rotation, .rotation => some .rrda
  | _, _ => none

def modulusAssign : VarType → VarType → Option AssignTemplate
  | .integer, .integer => some .iimodassign
  | .vector, .vector => some .vvmodassign
  | _, _ => none

def lshAssign : VarType → VarType → Option AssignTemplate
  | .integer, .integer => some .iilsa
  | _, _ => none

def rshAssign : VarType → VarType → Option AssignTemplate
  | .integer, .integer => some .iirsa
  | _, _ => none

/-- The instructions that initialise a variable, for locals and for globals. -/
def init : VarType → Option (OpCode × OpCode)
  | .integer => some (.iinitL, .iinitG)
  | .float => some (.finitL, .finitG)
  | .vector => some (.vinitL, .vinitG)
  | .rotation => some (.rinitL, .rinitG)
  | .list => some (.linitL, .linitG)
  | .key => some (.kinitL, .kinitG)
  | .string => some (.sinitL, .sinitG)
  | .void => none

/-- The template a binary operator is generated with.  The operators on integers only have
a template of their own, not a table. -/
def binary : BinOp → VarType → VarType → Option BinTemplate
  | .add => addition
  | .sub => subtraction
  | .mul => multiplication
  | .div => division
  | .mod => mod
  | .lsh => fun _ _ => some .lshift
  | .rsh => fun _ _ => some .rshift
  | .boolOr => fun _ _ => some .boolor
  | .boolAnd => fun _ _ => some .booland
  | .bitOr => fun _ _ => some .bitor
  | .bitAnd => fun _ _ => some .bitand
  | .bitXor => fun _ _ => some .bitxor
  | .eq => equality
  | .neq => inequality
  | .lt => ltCompare
  | .gt => gtCompare
  | .lte => lteCompare
  | .gte => gteCompare

/-- The template a compound assignment is generated with; a plain assignment has none. -/
def compound : AssignOp → VarType → VarType → Option AssignTemplate
  | .assign => fun _ _ => none
  | .add => addAssign
  | .sub => subtractAssign
  | .mul => multiplicationAssign
  | .div => divisionAssign
  | .mod => modulusAssign
  | .lsh => lshAssign
  | .rsh => rshAssign

end TemplateMapping

/-! ## Bodies -/

/-- Where the conversion to float stands in a template, and which operand comes first. -/
inductive Layout
  | plain
  | castLeft
  | castRight
  | swapped
  deriving DecidableEq, Repr

namespace BinTemplate

/-- The instruction a template ends in. -/
def op : BinTemplate → OpCode
  | iimul => .imul
  | ffmul | ifmul | fimul => .fmul
  | ivmul | vimul => .vimul
  | fvmul | vfmul => .vfmul
  | vvmul => .vmul
  | vrmul => .vrmul
  | rrmul => .rmul
  | iidiv => .idiv
  | ifdiv | ffdiv | fidiv => .fdiv
  | vidiv => .vidiv
  | vfdiv => .vfdiv
  | vrdiv => .vrdiv
  | rrdiv => .rdiv
  | imod => .imod
  | vcross => .vcross
  | iiadd => .iadd
  | ifadd | fiadd | ffadd => .fadd
  | lprep => .listPrepend
  | lapp => .listAppend
  | vvadd => .vadd
  | rradd => .radd
  | ssadd => .sconcat
  | iisub => .isub
  | ifsub | fisub | ffsub => .fsub
  | vvsub => .vsub
  | rrsub => .rsub
  | lshift => .ilsh
  | rshift => .irsh
  | ilt => .ilt
  | flt => .flt
  | igt => .igt
  | fgt => .fgt
  | ilte => .ilte
  | flte => .flte
  | igte => .igte
  | fgte => .fgte
  | ieq => .ieq
  | feq => .feq
  | veq => .veq
  | req => .req
  | leq => .leq
  | seq => .seq
  | ineq => .ineq
  | fneq => .fneq
  | vneq => .vneq
  | rneq => .rneq
  | lneq => .lneq
  | sneq => .sneq
  | bitor => .ibor
  | bitand => .iband
  | bitxor => .ibxor
  | boolor => .ilor
  | booland => .iland

/-- How a template is laid out. -/
def layout : BinTemplate → Layout
  | ifmul | ifdiv | ifadd | ifsub => .castLeft
  | fimul | fidiv | fiadd | fisub => .castRight
  | ivmul | fvmul => .swapped
  | _ => .plain

end BinTemplate

/-- An instruction without operands. -/
def Asm.op (op : OpCode) : Asm := .instr op []

/-- The text of a binary operator's template. -/
def BinTemplate.expand (t : BinTemplate) (lexpr rexpr : Code) : Code :=
  match t.layout with
  | .plain => lexpr ++ rexpr ++ [.op t.op]
  | .castLeft => lexpr ++ [.op .fcast] ++ rexpr ++ [.op t.op]
  | .castRight => lexpr ++ rexpr ++ [.op .fcast, .op t.op]
  | .swapped => rexpr ++ lexpr ++ [.op t.op]

/-- A binary operator by the template that was found for it. -/
def expandBin (t : Option BinTemplate) (lexpr rexpr : Code) : Code :=
  match t with
  | some t => t.expand lexpr rexpr
  | none => [.blank]

namespace AssignTemplate

/-- The instruction `xxxa` is given. -/
def op : AssignTemplate → OpCode
  | iiaa => .iadd
  | fiaa | ffaa => .fadd
  | vvaa => .vadd
  | rraa => .radd
  | laa => .listAppend
  | ssaa => .sconcat
  | iisa => .isub
  | fisa | ffsa => .fsub
  | vvsa => .vsub
  | rrsa => .rsub
  | iima => .imul
  | fima | ffma => .fmul
  | vima => .vimul
  | vfma => .vfmul
  | vvma => .vmul
  | vrma => .vrmul
  | rrma => .rmul
  | iida => .idiv
  | fida | ffda => .fdiv
  | vida => .vidiv
  | vfda => .vfdiv
  | vrda => .vrdiv
  | rrda => .rdiv
  | iimodassign => .imod
  | vvmodassign => .vcross
  | iilsa => .ilsh
  | iirsa => .irsh

/-- Whether `xxxa` is given a conversion of the right operand. -/
def cast : AssignTemplate → Bool
  | fiaa | fisa | fima | fida => true
  | _ => false

end AssignTemplate

/-- The instruction of a template that distinguishes globals from locals, on a slot. -/
def onVar (glob loc : OpCode) (isGlobal : Bool) (index : Int) : Asm :=
  .instr (if isGlobal then glob else loc) [.num index]

/-- The same on a subscript of a slot. -/
def onSub (glob loc : OpCode) (isGlobal : Bool) (index subindex : Int) : Asm :=
  .instr (if isGlobal then glob else loc) [.num index, .num subindex]

/-- The loads of `idload` and `loadsub`. -/
def loadVar (isGlobal : Bool) (index : Int) : Option Int → Asm
  | none => onVar .gload .load isGlobal index
  | some sub => onSub .gloadSub .loadSub isGlobal index sub

/-- The stores of `assign` and `subassign`. -/
def storeVar (isGlobal : Bool) (index : Int) : Option Int → Asm
  | none => onVar .gstore .store isGlobal index
  | some sub => onSub .gstoreSub .storeSub isGlobal index sub

/-- The templates `assign` and `subassign`. -/
def assignCode (isGlobal : Bool) (index : Int) (sub : Option Int) (expr : Code)
    (pushfinal : Bool) : Code :=
  expr ++ [storeVar isGlobal index sub] ++
    (if pushfinal then [loadVar isGlobal index sub] else [])

/-- The template `xxxa`: any kind of operation followed by assignment. -/
def xxxa (isGlobal : Bool) (index : Int) (sub : Option Int) (expr : Code) (cast : Bool)
    (op : OpCode) (pushfinal : Bool) : Code :=
  [loadVar isGlobal index sub] ++ expr ++ (if cast then [.op .fcast] else []) ++ [.op op] ++
    [storeVar isGlobal index sub] ++ (if pushfinal then [loadVar isGlobal index sub] else [])

/-- A compound assignment by the template that was found for it. -/
def expandAssign (t : Option AssignTemplate) (isGlobal : Bool) (index : Int) (sub : Option Int)
    (expr : Code) (pushfinal : Bool) : Code :=
  match t with
  | some t => xxxa isGlobal index sub expr t.cast t.op pushfinal
  | none => [.blank]

/-- The instructions of the increments, by operator and type of the variable. -/
def incDecCode (op : IncDecOp) (isFloat isGlobal : Bool) (index : Int) : Asm :=
  match op, isFloat with
  | .preInc, false => onVar .ipreincG .ipreincL isGlobal index
  | .preDec, false => onVar .ipredecG .ipredecL isGlobal index
  | .postInc, false => onVar .ipostincG .ipostincL isGlobal index
  | .postDec, false => onVar .ipostdecG .ipostdecL isGlobal index
  | .preInc, true => onVar .fpreincG .fpreincL isGlobal index
  | .preDec, true => onVar .fpredecG .fpredecL isGlobal index
  | .postInc, true => onVar .fpostincG .fpostincL isGlobal index
  | .postDec, true => onVar .fpostdecG .fpostdecL isGlobal index

/-- The instructions of the increments on a subscript. -/
def incDecSubCode (op : IncDecOp) (isGlobal : Bool) (index subindex : Int) : Asm :=
  match op with
  | .preInc => onSub .fpreincGSub .fpreincLSub isGlobal index subindex
  | .preDec => onSub .fpredecGSub .fpredecLSub isGlobal index subindex
  | .postInc => onSub .fpostincGSub .fpostincLSub isGlobal index subindex
  | .postDec => onSub .fpostdecGSub .fpostdecLSub isGlobal index subindex

/-- `Gen.CalcSubIndex`, which throws for any other subscript. -/
def calcSubIndex (subscript : String) : Option Int :=
  match subscript with
  | "x" => some 0
  | "y" => some 1
  | "z" => some 2
  | "s" => some 3
  | _ => none

end Halcyon.Joke
