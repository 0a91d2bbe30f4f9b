import Halcyon.Joke.ListSort

/-!
# List objects and the arrays they share

In the run-time system a list is an object that refers to an array, and several lists can refer to
one array: the copy constructor takes over the array of the other list, and a list made from an
array keeps that very array, which may be the `Data` of a list.  `Heap` has the arrays and the list
objects that were created; a reference is a position in one of them.  The `List` of members is part
of the object, since no method changes it once the object exists.

`exec` is one operation of `Types/LSLList.cs` on such objects.  Most of them read a list and create
a new one, but `NumericSort` and `AlphaSort` sort the array of the list in place, and so do `Qi` and
`Median`, which call the former.
-/

namespace Halcyon.Joke

open Halcyon.Lib

/-- What the statistical functions use of the libraries. -/
class FloatStats (F : Type) extends FloatMath F where
  /-- `float.TryParse`. -/
  tryParse : String → Option F
  /-- `string.Compare`. -/
  stringCompare : String → String → Int
  positiveInfinity : F
  negativeInfinity : F
  /-- `0.5f`. -/
  half : F
  /-- `(float)Math.Pow(x, 2)`. -/
  square : F → F
  /-- `(float)Math.Exp(Math.Log(x) / n)`. -/
  expLog : F → F → F
  /-- `Math.Ceiling`. -/
  ceiling : F → F

namespace LSLList

variable {F : Type} [FloatStats F]

/-! ## Statistics -/

/-- The elements that can be read as numbers. -/
def numbers (l : LSLList F) : List F := l.data.filterMap fun v => FloatStats.tryParse v.toText

/-- The conversion of a length to a float. -/
def ofNat (n : Nat) : F := FloatArith.ofInt (BitVec.ofNat 32 n)

/-- `ToFloatList`. -/
def toFloatList (l : LSLList F) : Except ListFault (LSLList F) :=
  ofMembersOfSize (l.numbers.map .float) (int32 (l.numbers.length * 4))

/-- `Sum`. -/
def sum (l : LSLList F) : F := l.numbers.foldl FloatArith.add FloatArith.zero

/-- `SumSqrs`. -/
def sumSqrs (l : LSLList F) : F :=
  l.numbers.foldl (fun s x => FloatArith.add s (FloatStats.square x)) FloatArith.zero

/-- `Min`. -/
def min (l : LSLList F) : F :=
  l.numbers.foldl (fun m x => if FloatArith.lt x m then x else m) FloatStats.positiveInfinity

/-- `Max`. -/
def max (l : LSLList F) : F :=
  l.numbers.foldl (fun m x => if FloatArith.lt m x then x else m) FloatStats.negativeInfinity

/-- `Range`. -/
def range (l : LSLList F) : F := FloatArith.div l.max l.min

/-- `NumericLength`. -/
def numericLength (l : LSLList F) : Nat := l.numbers.length

/-- `Mean`. -/
def mean (l : LSLList F) : F := FloatArith.div l.sum (ofNat l.numericLength)

/-- The unboxing of an element as a float. -/
def unbox : Value F → Except ListFault F
  | .float x => .ok x
  | _ => .error .invalidCast

/-- `GeometricMean`, from the result of `ToFloatList`. -/
def geometricMean (nums : LSLList F) : Except ListFault F := do
  let xs ← nums.data.mapM unbox
  .ok (FloatStats.expLog (xs.foldl FloatArith.mul FloatArith.one) (ofNat nums.data.length))

/-- `HarmonicMean`, from the result of `ToFloatList`. -/
def harmonicMean (nums : LSLList F) : Except ListFault F := do
  let xs ← nums.data.mapM unbox
  .ok (FloatArith.div (ofNat nums.data.length)
    (xs.foldl (fun s x => FloatArith.add s (FloatArith.div FloatArith.one x)) FloatArith.zero))

/-- `Variance`, from the result of `ToFloatList`. -/
def variance (nums : LSLList F) : Except ListFault F := do
  let xs ← nums.data.mapM unbox
  let s := xs.foldl (fun s x => FloatArith.add s (FloatStats.square x)) FloatArith.zero
  .ok (FloatArith.div
    (FloatArith.sub s (FloatArith.mul (ofNat nums.data.length) (FloatStats.square nums.mean)))
    (FloatArith.ofInt (BitVec.ofInt 32 (nums.data.length - 1))))

/-- `StdDev`, from the result of `ToFloatList`. -/
def stdDev (nums : LSLList F) : Except ListFault F := do
  .ok (FloatMath.sqrt (← variance nums))

/-- An element of the array. -/
def dataAt (data : List (Value F)) (index : Int) : Except ListFault (Value F) :=
  if 0 ≤ index then
    match data[index.toNat]? with
    | some v => .ok v
    | none => .error .indexOutOfRange
  else .error .indexOutOfRange

/-- What `Qi` returns for an array that it has sorted. -/
def quantile (data : List (Value F)) (i : F) : Except ListFault F :=
  let n : F := FloatArith.mul (ofNat data.length) i
  if FloatArith.eq (FloatStats.ceiling n) n then do
    let a ← unbox (← dataAt data (FloatArith.toInt (FloatArith.sub n FloatArith.one)).toInt)
    let b ← unbox (← dataAt data (FloatArith.toInt n).toInt)
    .ok (FloatArith.div (FloatArith.add a b) (ofNat 2))
  else do
    unbox (← dataAt data ((FloatArith.toInt (FloatStats.ceiling n)).toInt - 1))

/-- The number `NumericComparer` compares an object by. -/
def numberOf (v : Value F) : F := (FloatStats.tryParse v.toText).getD FloatArith.zero

/-- `NumericComparer`. -/
def numericCompare : Comparer ListFault (Value F) := fun x y =>
  if FloatArith.lt (numberOf x) (numberOf y) then .ok (-1)
  else if FloatArith.eq (numberOf x) (numberOf y) then .ok 0
  else .ok 1

/-- `AlphaCompare`. -/
def alphaCompare : Comparer ListFault (Value F) := fun x y =>
  .ok (FloatStats.stringCompare F x.toText y.toText)

end LSLList

/-! ## Objects -/

/-- A list object with a reference to its array. -/
structure ListObject (F : Type) where
  members : List (Value F)
  array : Nat
  memorySize : Int

/-- All arrays and list objects that were created. -/
structure Heap (F : Type) where
  arrays : List (List (Value F))
  objects : List (ListObject F)

/-- What an operation returns. -/
inductive ListResult (F : Type)
  | list (o : Nat)
  | float (x : F)
  | int (n : Nat)
  | nothing

/-- The statistical functions that only read the list. -/
inductive Statistic
  | sum
  | sumSqrs
  | min
  | max
  | range
  | mean
  | numericLength
  deriving DecidableEq, Repr

/-- The statistical functions that make a list of floats first. -/
inductive FloatStatistic
  | geometricMean
  | harmonicMean
  | variance
  | stdDev
  deriving DecidableEq, Repr

/-- The operations on lists. -/
inductive ListOp (F : Type)
  | new
  | ofMembers (members : List (Value F))
  | ofMembersOfSize (members : List (Value F)) (memorySize : Int)
  | copy (other : Nat)
  | ofObject (member : Value F)
  /-- `LSLList(object[])` with an array of its own. -/
  | ofArray (members : List (Value F))
  /-- `LSLList(object[])` with the `Data` of a list. -/
  | ofData (other : Nat)
  | append (l r : Nat)
  | prepend (l r : Nat)
  | appendObject (l : Nat) (v : Value F)
  | prependObject (l : Nat) (v : Value F)
  | getSublist (l : Nat) (start stop : BitVec 32)
  | deleteSublist (l : Nat) (start stop : BitVec 32)
  | sort (l : Nat) (stride ascending : BitVec 32)
  | toFloatList (l : Nat)
  | statistic (s : Statistic) (l : Nat)
  | floatStatistic (s : FloatStatistic) (l : Nat)
  | numericSort (l : Nat)
  | alphaSort (l : Nat)
  | qi (l : Nat) (i : F)
  | median (l : Nat)

namespace Heap

variable {F : Type}

/-- No object was created yet. -/
def start : Heap F := ⟨[], []⟩

/-- A list object with the contents of its array.  Every object a program holds is one. -/
def get? (h : Heap F) (o : Nat) : Option (LSLList F) :=
  match h.objects[o]? with
  | none => none
  | some obj =>
    match h.arrays[obj.array]? with
    | none => none
    | some data =>
      if hl : data.length = obj.members.length ∧ obj.memorySize ≤ maxListMemory then
        some ⟨obj.members, data, obj.memorySize, hl.1, hl.2⟩
      else none

/-- A new object with an array of its own. -/
def alloc (h : Heap F) (l : LSLList F) : Heap F :=
  ⟨h.arrays ++ [l.data], h.objects ++ [⟨l.members, h.arrays.length, l.memorySize⟩]⟩

/-- The end of an operation that creates a list. -/
def create (h : Heap F) : Except ListFault (LSLList F) → Heap F × Except ListFault (ListResult F)
  | .ok l => (h.alloc l, .ok (.list h.objects.length))
  | .error e => (h, .error e)

/-- A new object that shares the array of another one. -/
def share (h : Heap F) (o : Nat) (l : LSLList F) : Heap F × Except ListFault (ListResult F) :=
  match h.objects[o]? with
  | some obj =>
    (⟨h.arrays, h.objects ++ [⟨l.members, obj.array, l.memorySize⟩]⟩,
      .ok (.list h.objects.length))
  | none => (h, .error .indexOutOfRange)

/-- `GetSublist` returns the list itself if both indices lie before it, the second one first. -/
def returnsThis (l : LSLList F) (start stop : Int) : Bool :=
  LSLList.fromEnd l.length start < 0 &&
    LSLList.fromEnd l.length stop < LSLList.fromEnd l.length start

/-- `Array.Sort` of the array of a list. -/
def sortData (arraySort : LSLList.ArraySort F) (cmp : Comparer ListFault (Value F)) (h : Heap F)
    (o : Nat) (l : LSLList F) : Heap F × Except ListFault (List (Value F)) :=
  match arraySort cmp l.data, h.objects[o]? with
  | .ok ret, some obj => ({ h with arrays := h.arrays.set obj.array ret }, .ok ret)
  | .error e, _ => (h, .error e)
  | _, none => (h, .error .indexOutOfRange)

variable [FloatStats F]

/-- The value of a statistical function. -/
def evaluate (l : LSLList F) : Statistic → ListResult F
  | .sum => .float l.sum
  | .sumSqrs => .float l.sumSqrs
  | .min => .float l.min
  | .max => .float l.max
  | .range => .float l.range
  | .mean => .float l.mean
  | .numericLength => .int l.numericLength

/-- The value of a statistical function of a list of floats. -/
def evaluateFloats (nums : LSLList F) : FloatStatistic → Except ListFault F
  | .geometricMean => nums.geometricMean
  | .harmonicMean => nums.harmonicMean
  | .variance => nums.variance
  | .stdDev => nums.stdDev

/-- `Qi`: the list is sorted in place first. -/
def qi (arraySort : LSLList.ArraySort F) (h : Heap F) (o : Nat) (l : LSLList F) (i : F) :
    Heap F × Except ListFault (ListResult F) :=
  let (h', sorted) := h.sortData arraySort LSLList.numericCompare o l
  (h', do .ok (.float (← LSLList.quantile (← sorted) i)))

/-- One operation, and what it returns.  Operations on lists that do not exist are left out. -/
def exec (arraySort : LSLList.ArraySort F) (h : Heap F) :
    ListOp F → Option (Heap F × Except ListFault (ListResult F))
  | .new => some (h.create (.ok .empty))
  | .ofMembers members => some (h.create (LSLList.ofMembers members))
  | .ofMembersOfSize members size => some (h.create (LSLList.ofMembersOfSize members size))
  | .copy o => (h.get? o).map fun l => h.share o l
  | .ofObject v => some (h.create (LSLList.ofObject v))
  | .ofArray members => some (h.create (LSLList.ofArray members))
  | .ofData o => (h.get? o).map fun l =>
    match LSLList.ofArray l.data with
    | .ok r => h.share o r
    | .error e => (h, .error e)
  | .append o p => (h.get? o).bind fun l => (h.get? p).map fun r => h.create (l.append r)
  | .prepend o p => (h.get? o).bind fun l => (h.get? p).map fun r => h.create (l.prepend r)
  | .appendObject o v => (h.get? o).map fun l => h.create (l.appendObject v)
  | .prependObject o v => (h.get? o).map fun l => h.create (l.prependObject v)
  | .getSublist o start stop => (h.get? o).map fun l =>
    if returnsThis l start.toInt stop.toInt then (h, .ok (.list o))
    else h.create (l.getSublist start.toInt stop.toInt)
  | .deleteSublist o start stop => (h.get? o).map fun l =>
    h.create (l.deleteSublist start.toInt stop.toInt)
  | .sort o stride ascending => (h.get? o).map fun l =>
    h.create (l.sort arraySort stride.toInt ascending.toInt)
  | .toFloatList o => (h.get? o).map fun l => h.create l.toFloatList
  | .statistic s o => (h.get? o).map fun l => (h, .ok (evaluate l s))
  | .floatStatistic s o => (h.get? o).map fun l =>
    ((h.create l.toFloatList).1, do .ok (.float (← evaluateFloats (← l.toFloatList) s)))
  | .numericSort o => (h.get? o).map fun l =>
    let (h', sorted) := h.sortData arraySort LSLList.numericCompare o l
    (h', do let _ ← sorted; .ok .nothing)
  | .alphaSort o => (h.get? o).map fun l =>
    let (h', sorted) := h.sortData arraySort LSLList.alphaCompare o l
    (h', do let _ ← sorted; .ok .nothing)
  | .qi o i => (h.get? o).map fun l => h.qi arraySort o l i
  | .median o => (h.get? o).map fun l => h.qi arraySort o l FloatStats.half

/-- The heap after an operation. -/
def step (arraySort : LSLList.ArraySort F) (h : Heap F) (op : ListOp F) : Option (Heap F) :=
  (h.exec arraySort op).map Prod.fst

end Heap

end Halcyon.Joke
