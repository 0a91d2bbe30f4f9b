import Halcyon.Joke.Interpreter
import Halcyon.Joke.Syntax

/-!
# Assembly

The language between the code generator and the assembler: a list of declarations, labels and
instructions (`grammar/Assembler.g`).  An instruction's operands are the tokens of that grammar.
A number that the code generator prints (a slot, a count) is `Operand.num`; an integer literal
of the script is `Operand.int`, still as text, and `convertToInt` reads it the way the assembler
does.

`Asm.blank` is the empty line that is left where a template is missing.

`Asm.action` is what an instruction does once it is assembled, for the instructions that neither
jump nor call: their operands are numbers and literals only.
-/

namespace Halcyon.Joke

/-- The operand tokens of the assembler. -/
inductive Operand
  /-- A number printed by the code generator. -/
  | num (i : Int)
  /-- An integer literal. -/
  | int (text : String)
  | float (text : String)
  /-- A string literal, without its quotes. -/
  | string (text : String)
  | vector (text : String)
  | rotation (text : String)
  /-- A function name, without the parentheses. -/
  | func (name : String)
  /-- A label. -/
  | id (name : String)
  | reg (name : String)
  | stateId (name : String)
  deriving DecidableEq, Repr

/-- A line of assembly. -/
inductive Asm
  | dataSize (n : Nat)
  | state (name : String)
  | function (name : String) (nargs nlocals : Nat)
  | event (state name : String) (nargs nlocals : Nat)
  | label (name : String)
  | instr (op : OpCode) (operands : List Operand)
  | blank
  deriving DecidableEq, Repr

/-- A program in assembly. -/
abbrev Code := List Asm

/-! ## Reading operands -/

/-- The value of a digit of a number in base ten or sixteen. -/
def digitValue (base : Nat) (c : Char) : Option Nat :=
  let v :=
    if '0' ≤ c ∧ c ≤ '9' then c.toNat - '0'.toNat
    else if 'a' ≤ c ∧ c ≤ 'f' then c.toNat - 'a'.toNat + 10
    else if 'A' ≤ c ∧ c ≤ 'F' then c.toNat - 'A'.toNat + 10
    else base
  if v < base then some v else none

/-- The value of a sequence of digits, which must not be empty. -/
def parseDigits (base : Nat) (ds : List Char) : Option Nat :=
  if ds.isEmpty then none
  else ds.foldlM (fun acc c => (digitValue base c).map fun d => acc * base + d) 0

/-- `BytecodeGenerator.ConvertToInt`.  A number out of range becomes `-1`; `none` is a format
exception. -/
def convertToInt (text : String) : Option (BitVec 32) :=
  match text.toList with
  | '0' :: 'x' :: ds => (parseDigits 16 ds).map fun n =>
    if n < 2 ^ 32 then BitVec.ofNat 32 n else -1
  | '-' :: '0' :: 'x' :: ds => (parseDigits 16 ds).map fun n =>
    if n < 2 ^ 32 then -BitVec.ofNat 32 n else -1
  | '-' :: ds => (parseDigits 10 ds).map fun n =>
    if n ≤ 2 ^ 31 then -BitVec.ofNat 32 n else -1
  | ds => (parseDigits 10 ds).map fun n =>
    if n < 2 ^ 31 then BitVec.ofNat 32 n else -1

lemma parseDigits_isSome {base : Nat} {ds : List Char} (hne : ds ≠ [])
    (h : ∀ c ∈ ds, (digitValue base c).isSome = true) : (parseDigits base ds).isSome = true := by
  have hfold : ∀ acc, (ds.foldlM (fun acc c => (digitValue base c).map fun d =>
      acc * base + d) acc).isSome = true := by
    clear hne
    induction ds with
    | nil => simp
    | cons c ds ih =>
      intro acc
      obtain ⟨d, hd⟩ := Option.isSome_iff_exists.mp (h c List.mem_cons_self)
      simpa [hd] using ih (fun c hc => h c (List.mem_cons_of_mem _ hc)) _
  simpa [parseDigits, hne] using hfold 0

lemma digitValue_isSome_dec {c : Char} (h : '0' ≤ c ∧ c ≤ '9') :
    (digitValue 10 c).isSome = true := by
  have hle : c.toNat - '0'.toNat < 10 := by
    have h9 : c.toNat ≤ '9'.toNat := h.2
    have : '9'.toNat = 57 ∧ '0'.toNat = 48 := ⟨rfl, rfl⟩
    omega
  simp only [digitValue, if_pos h, if_pos hle, Option.isSome_some]

lemma digitValue_isSome_hex {c : Char}
    (h : ('0' ≤ c ∧ c ≤ '9' ∨ 'a' ≤ c ∧ c ≤ 'f') ∨ 'A' ≤ c ∧ c ≤ 'F') :
    (digitValue 16 c).isSome = true := by
  have hc : '9'.toNat = 57 ∧ '0'.toNat = 48 ∧ 'a'.toNat = 97 ∧ 'f'.toNat = 102 ∧
      'A'.toNat = 65 ∧ 'F'.toNat = 70 := ⟨rfl, rfl, rfl, rfl, rfl, rfl⟩
  unfold digitValue
  split_ifs with h1 h2 h3
  · have : c.toNat ≤ '9'.toNat := h1.2
    simp only [show c.toNat - '0'.toNat < 16 by omega, if_true, Option.isSome_some]
  · have : c.toNat ≤ 'f'.toNat := h2.2
    simp only [show c.toNat - 'a'.toNat + 10 < 16 by omega, if_true, Option.isSome_some]
  · have : c.toNat ≤ 'F'.toNat := h3.2
    simp only [show c.toNat - 'A'.toNat + 10 < 16 by omega, if_true, Option.isSome_some]
  · exact absurd h (by simp only [h1, h2, h3, or_self, not_false_eq_true])

/-- Integer literals can be read, also with a minus sign in front. -/
lemma convertToInt_isSome {text : String} (h : Expr.isIntegerLiteral text = true) :
    (convertToInt text).isSome = true ∧ (convertToInt ("-" ++ text)).isSome = true := by
  have htext : ("-" ++ text).toList = '-' :: text.toList := by simp
  unfold Expr.isIntegerLiteral at h
  unfold convertToInt
  rw [htext]
  split at h
  · rename_i ds hds
    simp only [Bool.and_eq_true, Bool.not_eq_true', List.isEmpty_eq_false_iff,
      List.all_eq_true, Bool.or_eq_true, decide_eq_true_eq] at h
    have := parseDigits_isSome h.1 fun c hc => digitValue_isSome_hex (h.2 c hc)
    simp [hds, this]
  · rename_i ds hds
    simp only [Bool.and_eq_true, Bool.not_eq_true', List.isEmpty_eq_false_iff,
      List.all_eq_true, decide_eq_true_eq] at h
    have hdig := parseDigits_isSome h.1 fun c hc => digitValue_isSome_dec (h.2 c hc)
    constructor
    · split
      · rename_i ds' heq
        exact absurd heq (hds ds')
      · rename_i ds' heq
        exact absurd (h.2 '-' (by rw [heq]; simp)) (by decide)
      · rename_i ds' heq
        exact absurd (h.2 '-' (by rw [heq]; simp)) (by decide)
      · simpa using hdig
    · split
      · rename_i heq
        simp at heq
      · rename_i ds' heq
        exact absurd (List.cons.inj heq).2 (hds ds')
      · rename_i ds' heq
        simpa [← (List.cons.inj heq).2] using hdig
      · rename_i heq
        exact absurd rfl (heq _)

/-- `ConvertToInt` of a printed number. -/
def convertNum (i : Int) : BitVec 32 :=
  if -2 ^ 31 ≤ i ∧ i < 2 ^ 31 then BitVec.ofInt 32 i else -1

/-- The loop of `BytecodeGenerator.UnescapeStringChars`. -/
def unescapeChars : List Char → List Char
  | '\\' :: c :: rest =>
    (match c with
    | 'n' => ['\n']
    | 'r' => ['\r']
    | 't' => [' ', ' ', ' ', ' ']
    | '"' => ['"']
    | '\\' => ['\\']
    | c => ['\\', c]) ++ unescapeChars rest
  | c :: rest => c :: unescapeChars rest
  | [] => []

/-- `BytecodeGenerator.UnescapeStringChars`. -/
def unescapeStringChars (text : String) : String :=
  String.ofList (unescapeChars text.toList)

section Action

variable {F : Type} [FloatArith F]

/-- The literal an operand denotes, for the operands that end up in the constant pool. -/
def Operand.constant : Operand → Option (Value F)
  | float text => (FloatArith.toSingle text).map .float
  | string text => some (.string (unescapeStringChars text))
  | vector text => (FloatArith.vectorOfText text).map .vector
  | rotation text => (FloatArith.quaternionOfText text).map .rotation
  | _ => none

/-- The word an operand denotes, for the operands that are numbers. -/
def Operand.word : Operand → Option (BitVec 32)
  | num i => some (convertNum i)
  | int text => convertToInt text
  | _ => none

/-- What an instruction does whose operands are numbers and literals. -/
def Asm.action : Asm → Option (Action F)
  | instr op operands =>
    match op, operands with
    | .iconst, [o] => o.word.map fun w => .const (.int w)
    | .fconst, [o] | .sconst, [o] | .vconst, [o] | .rconst, [o] => o.constant.map .const
    | .pop, [] => some .pop
    | .ret, [] => some .ret
    | .halt, [] => some .halt
    | .buildlist, [.num n] => some (.buildList n.toNat)
    | op, [] => (op.stackOp : Option (StackOp F)).map .compute
    | op, [.num i] => op.varAction ⟨op.isGlobal, i⟩
    | op, [.num i, .num sub] => op.subAction ⟨op.isGlobal, i⟩ sub
    | _, _ => none
  | _ => none

lemma Asm.action_of_stackOp {op : OpCode} {f : StackOp F} (h : op.stackOp = some f) :
    (instr op []).action = some (Action.compute f) := by
  cases op <;> first | exact congrArg (Option.map Action.compute) h | cases h

lemma Asm.action_of_varAction {op : OpCode} {i : Int} {a : Action F}
    (h : op.varAction ⟨op.isGlobal, i⟩ = some a) : (instr op [.num i]).action = some a := by
  cases op <;> first | exact h | cases h

lemma Asm.action_of_subAction {op : OpCode} {i sub : Int} {a : Action F}
    (h : op.subAction ⟨op.isGlobal, i⟩ sub = some a) :
    (instr op [.num i, .num sub]).action = some a := by
  cases op <;> exact h

end Action

end Halcyon.Joke
