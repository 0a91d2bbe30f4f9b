import Halcyon.Joke.VarType

/-!
# Run-time values of the virtual machine

The interpreter keeps its variables and its operand stack as boxed .NET objects.  `Value` has
one constructor for each class of object the machine can meet: 32-bit integers, single
precision floats, strings (which also represent keys), the vectors and quaternions of the
vector library, and the immutable lists of `Types/LSLList.cs`.

Single precision arithmetic, the vector library and the conversions between numbers and text
are not part of the repository.  They are the operations of `FloatArith`, about which nothing
is assumed beyond their types; every theorem holds for any such operations.

A value's run-time type is `Value.varType`, and `Value.HasType` says that a value may stand in
a variable of a declared type, keys being strings at run time.  `Value.memSize` is the size the
memory tracker charges for a value (`Util/MemoryCalc.cs`).  The source computes sizes with the
unchecked arithmetic of `int`; since that is arithmetic modulo `2 ^ 32`, it is enough to reduce
with `int32` where a size or a sum of sizes is used.
-/

namespace Halcyon.Joke

/-- The `int` that unchecked arithmetic yields for a result that may not fit. -/
def int32 (i : Int) : Int := (BitVec.ofInt 32 i).toInt

/-- A vector of the vector library. -/
structure Vector3 (F : Type) where
  x : F
  y : F
  z : F
  deriving DecidableEq, Repr

/-- A rotation of the vector library. -/
structure Quaternion (F : Type) where
  x : F
  y : F
  z : F
  w : F
  deriving DecidableEq, Repr

/-- Single precision arithmetic, the vector library's operators, and the conversions between
numbers and text.  All of it is uninterpreted. -/
class FloatArith (F : Type) where
  zero : F
  one : F
  add : F → F → F
  sub : F → F → F
  mul : F → F → F
  div : F → F → F
  neg : F → F
  lt : F → F → Bool
  le : F → F → Bool
  eq : F → F → Bool
  ofInt : BitVec 32 → F
  toInt : F → BitVec 32
  /-- `Convert.ToSingle`, which fails out of range. -/
  toSingle : String → Option F
  /-- `Vector3.Parse`. -/
  vectorOfText : String → Option (Vector3 F)
  /-- `Quaternion.Parse`. -/
  quaternionOfText : String → Option (Quaternion F)
  /-- `Util.Encoding.CastToInt`. -/
  castToInt : String → BitVec 32
  /-- `Util.Encoding.CastToFloat`. -/
  castToFloat : String → F
  vecAdd : Vector3 F → Vector3 F → Vector3 F
  vecSub : Vector3 F → Vector3 F → Vector3 F
  vecDot : Vector3 F → Vector3 F → F
  vecCross : Vector3 F → Vector3 F → Vector3 F
  vecScale : Vector3 F → F → Vector3 F
  vecDiv : Vector3 F → F → Vector3 F
  vecNeg : Vector3 F → Vector3 F
  vecEq : Vector3 F → Vector3 F → Bool
  /-- `Vector3.TryParse`. -/
  vecParse : String → Option (Vector3 F)
  quatAdd : Quaternion F → Quaternion F → Quaternion F
  quatSub : Quaternion F → Quaternion F → Quaternion F
  quatMul : Quaternion F → Quaternion F → Quaternion F
  quatNegate : Quaternion F → Quaternion F
  quatEq : Quaternion F → Quaternion F → Bool
  /-- `Quaternion.TryParse`. -/
  quatParse : String → Option (Quaternion F)
  /-- `float.ToString` with the format `0.000000`. -/
  format6 : F → String
  /-- `float.ToString` with the format `0.00000`. -/
  format5 : F → String
  /-- `float.ToString` without a format. -/
  format : F → String

/-- The arithmetic with a single number, in which every conversion succeeds.  Scripts whose
course does not depend on floats run in it. -/
instance : FloatArith Unit where
  zero := ()
  one := ()
  add _ _ := ()
  sub _ _ := ()
  mul _ _ := ()
  div _ _ := ()
  neg _ := ()
  lt _ _ := false
  le _ _ := true
  eq _ _ := true
  ofInt _ := ()
  toInt _ := 0
  toSingle _ := some ()
  vectorOfText _ := some ⟨(), (), ()⟩
  quaternionOfText _ := some ⟨(), (), (), ()⟩
  castToInt _ := 0
  castToFloat _ := ()
  vecAdd v _ := v
  vecSub v _ := v
  vecDot _ _ := ()
  vecCross v _ := v
  vecScale v _ := v
  vecDiv v _ := v
  vecNeg v := v
  vecEq _ _ := true
  vecParse _ := some ⟨(), (), ()⟩
  quatAdd q _ := q
  quatSub q _ := q
  quatMul q _ := q
  quatNegate q := q
  quatEq _ _ := true
  quatParse _ := some ⟨(), (), (), ()⟩
  format6 _ := "0.000000"
  format5 _ := "0.00000"
  format _ := "0"

/-- The objects a variable or an operand of the virtual machine can be. -/
inductive Value (F : Type)
  | int (i : BitVec 32)
  | float (x : F)
  | string (s : String)
  | vector (v : Vector3 F)
  | rotation (q : Quaternion F)
  | list (members : List (Value F))

namespace Value

variable {F : Type}

/-- `RuntimeMirror.VarTypeFromRuntimeType` of the object's class. -/
def varType : Value F → VarType
  | int _ => .integer
  | float _ => .float
  | string _ => .string
  | vector _ => .vector
  | rotation _ => .rotation
  | list _ => .list

/-- The value may stand in a variable declared with type `t`. -/
def HasType (v : Value F) (t : VarType) : Prop :=
  v.varType = t.runtime

instance (v : Value F) (t : VarType) : Decidable (v.HasType t) :=
  inferInstanceAs (Decidable (v.varType = t.runtime))

/-- Length of a .NET string: characters outside the basic plane count twice. -/
def utf16Length (s : String) : Nat :=
  (s.toList.map fun c => if 0x10000 ≤ c.toNat then 2 else 1).sum

/-- `LSLList.MEM_OVERHEAD`. -/
def memOverhead : Nat := 16

mutual

/-- `MemoryCalc.CalcSizeOf` of one object, as a number without bound. -/
def memSize : Value F → Nat
  | int _ => 4
  | float _ => 4
  | string s => 4 + utf16Length s * 2
  | vector _ => 12
  | rotation _ => 16
  | list members => memSizes members + memOverhead

/-- `MemoryCalc.CalcSizeOf` of the members of a list. -/
def memSizes : List (Value F) → Nat
  | [] => 0
  | v :: vs => memSize v + memSizes vs

end

section Text

variable [FloatArith F]

/-- A vector in angle brackets, its components in the given format. -/
def vectorText (fmt : F → String) (v : Vector3 F) : String :=
  "<" ++ fmt v.x ++ ", " ++ fmt v.y ++ ", " ++ fmt v.z ++ ">"

/-- A rotation in angle brackets, its components in the given format. -/
def rotationText (fmt : F → String) (q : Quaternion F) : String :=
  "<" ++ fmt q.x ++ ", " ++ fmt q.y ++ ", " ++ fmt q.z ++ ", " ++ fmt q.w ++ ">"

mutual

/-- `object.ToString`. -/
def toText : Value F → String
  | int i => toString i.toInt
  | float x => FloatArith.format x
  | string s => s
  | vector v => vectorText FloatArith.format v
  | rotation q => rotationText FloatArith.format q
  | list members => "[" ++ toTexts members ++ "]"

/-- The members of `LSLList.ToString`, separated by commas. -/
def toTexts : List (Value F) → String
  | [] => ""
  | [v] => toText v
  | v :: vs => toText v ++ "," ++ toTexts vs

end

/-- `LSLList.GetLSLStringItem` of one member. -/
def lslStringItem : Value F → String
  | string s => s
  | float x => FloatArith.format6 x
  | vector v => vectorText FloatArith.format6 v
  | rotation q => rotationText FloatArith.format6 q
  | v => toText v

/-- The conversions of `Interpreter.Op_Scast`. -/
def castToString : Value F → String
  | int i => toString i.toInt
  | float x => FloatArith.format6 x
  | string s => s
  | vector v => vectorText FloatArith.format5 v
  | rotation q => rotationText FloatArith.format5 q
  | list members => String.join (members.map lslStringItem)

end Text

/-! ## Inverting the run-time type -/

lemma hasType_iff {v : Value F} {t : VarType} : v.HasType t ↔ v.varType = t.runtime := Iff.rfl

end Value

end Halcyon.Joke
