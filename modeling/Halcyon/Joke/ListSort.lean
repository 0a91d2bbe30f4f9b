import Halcyon.Joke.LslList
import Halcyon.Lib.Comparer
import Halcyon.Lib.Utf16

/-!
# Sorting of lists

`Sort` of `Types/LSLList.cs` with the comparison it uses.  A list whose elements have one type is
given to `Array.Sort` when the stride is one; otherwise blocks of `stride` elements are ordered by
their first elements with the exchange loop of the source, which reads and writes single elements
of the array by their index.

`Array.Sort` is a parameter.  Nothing is assumed about the arithmetic of floats beyond its types:
`Math.Sign` fails for a value that is not a number.
-/

namespace Halcyon.Joke

open Halcyon.Lib

/-- What the list functions use of the arithmetic of floats and the vector library. -/
class FloatMath (F : Type) extends FloatArith F where
  /-- `Math.Sign`, which fails if its argument is not a number. -/
  sign : F → Option Int
  /-- `Math.Sqrt` of a float, as a float. -/
  sqrt : F → F
  /-- `Vector3.Mag`. -/
  vecMag : Vector3 F → F

instance : FloatMath Unit where
  sign _ := some 0
  sqrt x := x
  vecMag _ := ()

/-! ## The comparison -/

/-- `String.CompareOrdinal`, on the code units of two strings. -/
def compareUnits : List UInt16 → List UInt16 → Int
  | [], vs => -vs.length
  | us, [] => us.length
  | u :: us, v :: vs => if u = v then compareUnits us vs else u.toNat - v.toNat

/-- The code units of a string. -/
def unitsOf (s : String) : List UInt16 := s.toList.flatMap Utf16.units

/-- `String.CompareOrdinal`. -/
def compareOrdinal (l r : String) : Int := compareUnits (unitsOf l) (unitsOf r)

section Compare

variable {F : Type} [FloatMath F]

/-- `Math.Sign`. -/
def mathSign (x : F) : Except ListFault Int :=
  match FloatMath.sign x with
  | some c => .ok c
  | none => .error .arithmetic

/-- `QuatMag`. -/
def quatMag (q : Quaternion F) : F :=
  FloatMath.sqrt (FloatArith.add (FloatArith.add (FloatArith.add (FloatArith.mul q.x q.x)
    (FloatArith.mul q.y q.y)) (FloatArith.mul q.z q.z)) (FloatArith.mul q.w q.w))

/-- The comparison of two objects of one type. -/
def compareSame : Value F → Value F → Except ListFault Int
  | .string l, .string r => .ok (compareOrdinal l r)
  | .int l, .int r => .ok (l - r).toInt.sign
  | .float l, .float r => mathSign (FloatArith.sub l r)
  | .vector l, .vector r => mathSign (FloatArith.sub (FloatMath.vecMag l) (FloatMath.vecMag r))
  | .rotation l, .rotation r => mathSign (FloatArith.sub (quatMag l) (quatMag r))
  | _, _ => .ok 0

/-- `compare`.  Objects of different types count as equal. -/
def compare (ascending : Int) (left right : Value F) : Except ListFault Int :=
  if left.varType ≠ right.varType then .ok 0
  else do
    let ret ← compareSame left right
    .ok (if ascending = 0 then 0 - ret else ret)

end Compare

/-! ## The exchange loop -/

section Loops

variable {V : Type}

/-- The values of a loop variable that starts at `start`, stays below `bound` and grows by
`stride`. -/
def indices (start bound stride : Nat) : List Nat :=
  List.range' start ((bound - start + stride - 1) / stride) stride

/-- Exchanges two elements of an array. -/
def exchangeAt (i j : Nat) (ret : List V) : Except ListFault (List V) :=
  match ret[i]?, ret[j]? with
  | some a, some b => .ok ((ret.set i b).set j a)
  | _, _ => .error .indexOutOfRange

/-- The innermost loop: exchanges `count` elements from `i` on with those from `j` on. -/
def exchangeBlocks : Nat → Nat → Nat → List V → Except ListFault (List V)
  | _, _, 0, ret => .ok ret
  | i, j, count + 1, ret => do
    let ret ← exchangeAt i j ret
    exchangeBlocks (i + 1) (j + 1) count ret

/-- The body of the loop over `j`. -/
def compareStep (cmp : Comparer ListFault V) (stride i : Nat) (ret : List V) (j : Nat) :
    Except ListFault (List V) :=
  match ret[i]?, ret[j]? with
  | some a, some b => do
    let c ← cmp a b
    if 0 < c then exchangeBlocks i j stride ret else .ok ret
  | _, _ => .error .indexOutOfRange

/-- The two outer loops of `Sort`. -/
def bubbleSort (cmp : Comparer ListFault V) (stride : Nat) (data : List V) :
    Except ListFault (List V) :=
  (indices 0 (data.length - stride) stride).foldlM (fun ret i =>
    (indices (i + stride) data.length stride).foldlM (compareStep cmp stride i) ret) data

end Loops

namespace LSLList

variable {F : Type} [FloatMath F]

/-- All elements of the array have the type of the first. -/
def homogeneous : List (Value F) → Bool
  | [] => true
  | v :: vs => vs.all fun w => v.varType == w.varType

/-- A library's `Array.Sort` with a comparer. -/
abbrev ArraySort (F : Type) :=
  Comparer ListFault (Value F) → List (Value F) → Except ListFault (List (Value F))

/-- The stride `Sort` uses for the one it is given. -/
def strideOf (stride : Int) : Nat := if stride ≤ 0 then 1 else stride.toNat

/-- The case of a homogeneous array with stride one. -/
def fastSort (arraySort : ArraySort F) (ascending : Int) (data : List (Value F)) :
    Except ListFault (List (Value F)) := do
  let ret ← arraySort (compare 1) data
  .ok (if ascending = 0 then ret.reverse else ret)

/-- `Sort`. -/
def sort (arraySort : ArraySort F) (l : LSLList F) (stride ascending : Int) :
    Except ListFault (LSLList F) :=
  if l.data.length = 0 then .ok empty
  else if strideOf stride = 1 ∧ homogeneous l.data then do
    let ret ← fastSort arraySort ascending l.data
    ofArray ret
  else do
    let ret ← bubbleSort (compare ascending) (strideOf stride) l.data
    ofArray ret

end LSLList

end Halcyon.Joke
