import Halcyon.Joke.Memory

/-!
# LSL lists

The list objects of `Types/LSLList.cs`.  An object keeps its elements twice, in a `List` that its
own methods read (`members`) and in an array for older callers (`data`), together with the sum of
the sizes of its elements, which leaves out the overhead of the list (`memorySize`).

Every constructor compares the size with the limit of 128 kilobytes, and the two copies always have
one length, so both are fields of the structure.  That they hold the same elements and that the
size is right is `Consistent`, which is something to be proved.

The methods modelled here are the constructors, `Append` and `Prepend`, `GetSublist` and
`DeleteSublist`.  Indices are the numbers an `int` can be; no sum of an index and a length leaves
that range, because a length is only added to a negative index.
-/

namespace Halcyon.Joke

open Halcyon.Lib

/-- The exceptions the methods of a list can end with. -/
inductive ListFault
  /-- `CheckException` with the text "Out of memory". -/
  | outOfMemory
  /-- `IndexOutOfRangeException`. -/
  | indexOutOfRange
  /-- `ArgumentException` of a copy outside its source or with a negative count. -/
  | argument
  /-- `ArithmeticException` of `Math.Sign`. -/
  | arithmetic
  /-- `InvalidOperationException` of `Array.Sort`, when the comparer fails. -/
  | invalidOperation
  /-- `InvalidCastException` of an unboxing. -/
  | invalidCast
  /-- The calls are nested too deeply. -/
  | stackOverflow
  deriving DecidableEq, Repr

/-- The constant of `CheckMemorySize`. -/
def maxListMemory : Int := 0x20000

/-- A list object. -/
structure LSLList (F : Type) where
  /-- `_members`. -/
  members : List (Value F)
  /-- `_membersArray`. -/
  data : List (Value F)
  /-- `_memorySize`. -/
  memorySize : Int
  length_data : data.length = members.length
  checked : memorySize ≤ maxListMemory

namespace LSLList

variable {F : Type}

/-- `Length`. -/
def length (l : LSLList F) : Nat := l.members.length

/-- `MemorySize`. -/
def totalSize (l : LSLList F) : Int := int32 (l.memorySize + Value.memOverhead)

/-- The size the list keeps is the size of its elements. -/
def Sized (l : LSLList F) : Prop := l.memorySize = Value.memSizes l.members

/-- The three parts of a list agree. -/
structure Consistent (l : LSLList F) : Prop where
  data_eq : l.data = l.members
  sized : l.Sized

/-! ## Constructors -/

/-- `CheckMemorySize`, at the end of a constructor. -/
def make (members data : List (Value F)) (hlen : data.length = members.length)
    (memorySize : Int) : Except ListFault (LSLList F) :=
  if h : memorySize ≤ maxListMemory then .ok ⟨members, data, memorySize, hlen, h⟩
  else .error .outOfMemory

/-- `LSLList()`. -/
def empty : LSLList F := ⟨[], [], 0, rfl, by decide⟩

/-- `LSLList(List<object>, int)`. -/
def ofMembersOfSize (members : List (Value F)) (memorySize : Int) : Except ListFault (LSLList F) :=
  make members members rfl memorySize

/-- `LSLList(List<object>)`. -/
def ofMembers (members : List (Value F)) : Except ListFault (LSLList F) :=
  make members members rfl (int32 (Value.memSizes members))

/-- `LSLList(object)`. -/
def ofObject (member : Value F) : Except ListFault (LSLList F) := ofMembers [member]

/-- `LSLList(object[])`: the array becomes the list's own. -/
def ofArray (members : List (Value F)) : Except ListFault (LSLList F) :=
  make members members rfl (int32 (Value.memSizes members))

/-- `Append(LSLList)`. -/
def append (l r : LSLList F) : Except ListFault (LSLList F) :=
  ofMembersOfSize (l.members ++ r.members) (int32 (l.memorySize + r.memorySize))

/-- `Prepend(LSLList)`. -/
def prepend (l r : LSLList F) : Except ListFault (LSLList F) :=
  ofMembersOfSize (r.members ++ l.members) (int32 (l.memorySize + r.memorySize))

/-- `Append(object)` for an object that is not a list. -/
def appendObject (l : LSLList F) (v : Value F) : Except ListFault (LSLList F) :=
  ofMembersOfSize (l.members ++ [v]) (int32 (l.memorySize + v.memSize))

/-- `Prepend(object)` for an object that is not a list. -/
def prependObject (l : LSLList F) (v : Value F) : Except ListFault (LSLList F) :=
  ofMembersOfSize (v :: l.members) (int32 (l.memorySize + v.memSize))

/-! ## Selecting and deleting a part -/

/-- `List.CopyTo` into a new array of `count` elements. -/
def copyTo (members : List (Value F)) (index count : Int) :
    Except ListFault (List (Value F)) :=
  if 0 ≤ index ∧ 0 ≤ count ∧ index + count ≤ members.length then
    .ok ((members.drop index.toNat).take count.toNat)
  else .error .argument

/-- An index counted from the end if it is negative. -/
def fromEnd (count : Nat) (index : Int) : Int := if index < 0 then count + index else index

/-- `GetSublist` with at most `depth` nested calls. -/
def getSublistWithin : Nat → LSLList F → Int → Int → Except ListFault (LSLList F)
  | 0, _, _, _ => .error .stackOverflow
  | depth + 1, l, start, stop =>
    let start := fromEnd l.length start
    let stop := fromEnd l.length stop
    if start ≤ stop then
      if (l.length : Int) ≤ start ∨ stop < 0 then .ok empty
      else do
        let stop := if (l.length : Int) ≤ stop then (l.length : Int) - 1 else stop
        let start := if start < 0 then 0 else start
        let ret ← copyTo l.members start (stop - start + 1)
        ofArray ret
    else if stop < 0 ∧ start < 0 then .ok l
    else do
      let result ← (if stop < 0 then .ok empty else getSublistWithin depth l 0 stop)
      if (l.length : Int) ≤ start then .ok result
      else do
        let rest ← getSublistWithin depth l start l.data.length
        append result rest

/-- `GetSublist`; two nested calls are all it makes. -/
def getSublist (l : LSLList F) (start stop : Int) : Except ListFault (LSLList F) :=
  getSublistWithin 2 l start stop

/-- The loop of `DeleteSublist` over the array: the elements outside the interval. -/
def copyOutside (start stop : Int) : Int → List (Value F) → List (Value F)
  | _, [] => []
  | src, v :: vs =>
    if src < start ∨ stop < src then v :: copyOutside start stop (src + 1) vs
    else copyOutside start stop (src + 1) vs

/-- `DeleteSublist`. -/
def deleteSublist (l : LSLList F) (start stop : Int) : Except ListFault (LSLList F) :=
  let count : Int := l.data.length
  let start := if start < 0 then count + start else start
  let start := if start < 0 then 0 else start
  let stop := if stop < 0 then count + stop else stop
  let stop := if stop < 0 then 0 else stop
  if stop < start then
    if count ≤ stop then ofArray []
    else
      let start := if count ≤ start then count - 1 else start
      getSublist l stop start
  else if count ≤ start then ofArray l.data
  else
    let stop := if count ≤ stop then count - 1 else stop
    let remove := stop + 1 - start
    if count - remove = 0 then ofArray []
    else ofArray (copyOutside start stop 0 l.data)

end LSLList

end Halcyon.Joke
