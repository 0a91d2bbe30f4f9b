import Halcyon.Joke.ListHeap
import Halcyon.Joke.SortBlocks
import Halcyon.Joke.Sublist

/-!
# Lists as immutable values

The class is documented as an immutable list.  Two things are to hold whatever operations are
carried out: the contents of a list never change (`Unchanged`), and its array, its members and its
size agree (`Agrees`).

They do not, for two reasons.  `NumericSort` and `AlphaSort`, and with them `Qi` and `Median`, sort
the array in place, and so change the `Data` of every list that shares it, but not the members.
Furthermore the size of new contents is computed in the arithmetic of `int`, and a size of `2 ^ 31`
or more passes the check as a negative number.

`Gentle` leaves out exactly that: the sorts in place are called for arrays that they do not change,
and the size of what a list is made from fits in an `int`.
-/

namespace Halcyon.Joke

open Halcyon.Lib Halcyon.Lib.Transition

variable {F : Type}

/-! ## Constructors -/

namespace Value

/-- No element is smaller than four bytes. -/
lemma four_mul_length_le_memSizes (l : List (Value F)) : 4 * l.length ≤ memSizes l := by
  induction l with
  | nil => simp [memSizes]
  | cons v vs ih =>
    have hv : 4 ≤ memSize v := by cases v <;> simp [memSize, memOverhead]
    rw [memSizes, List.length_cons]
    omega

lemma memSizes_map_float (xs : List F) : memSizes (xs.map .float) = xs.length * 4 := by
  induction xs with
  | nil => rfl
  | cons x xs ih =>
    rw [List.map_cons, memSizes, ih, memSize, List.length_cons]
    omega

end Value

namespace LSLList

variable {members : List (Value F)} {l : LSLList F}

lemma consistent_of_make {size : Int} (hsize : size = Value.memSizes members)
    (h : make members members rfl size = .ok l) :
    l.Consistent := by
  rw [make] at h
  split_ifs at h
  cases h
  exact ⟨rfl, hsize⟩

lemma int32_of_lt {n : Nat} (h : n < 2147483648) : int32 n = n :=
  int32_eq_self (by omega) (by omega)

lemma consistent_of_ofMembers (hsize : Value.memSizes members < 2147483648)
    (h : ofMembers members = .ok l) :
    l.Consistent :=
  consistent_of_make (int32_of_lt hsize) h

lemma consistent_of_ofArray (hsize : Value.memSizes members < 2147483648)
    (h : ofArray members = .ok l) :
    l.Consistent :=
  consistent_of_make (int32_of_lt hsize) h

lemma Sized.lt (h : l.Sized) : Value.memSizes l.members ≤ 131072 := by
  have := h.le
  simp only [maxListMemory] at this
  omega

/-- Two sizes are added, and the sum still fits. -/
lemma consistent_of_ofMembersOfSize {a b : Nat} (hsize : Value.memSizes members = a + b)
    (hlt : a + b < 2147483648) (h : ofMembersOfSize members (int32 (a + b)) = .ok l) :
    l.Consistent := by
  refine consistent_of_make ?_ h
  rw [hsize, ← int32_of_lt hlt]
  push_cast
  rfl

variable {r a : LSLList F}

lemma consistent_of_append (hl : l.Consistent) (hr : r.Consistent) (h : append l r = .ok a) :
    a.Consistent := by
  have hl' := hl.sized.lt
  have hr' := hr.sized.lt
  rw [append, hl.sized, hr.sized] at h
  exact consistent_of_ofMembersOfSize (Value.memSizes_append _ _) (by omega) h

lemma consistent_of_prepend (hl : l.Consistent) (hr : r.Consistent) (h : prepend l r = .ok a) :
    a.Consistent := by
  have hl' := hl.sized.lt
  have hr' := hr.sized.lt
  rw [prepend, hl.sized, hr.sized] at h
  refine consistent_of_ofMembersOfSize ?_ (by omega) h
  rw [Value.memSizes_append, Nat.add_comm]

lemma consistent_of_appendObject {v : Value F} (hl : l.Consistent)
    (hsize : l.memorySize + v.memSize < 2147483648) (h : appendObject l v = .ok a) :
    a.Consistent := by
  rw [hl.sized] at hsize
  rw [appendObject, hl.sized] at h
  refine consistent_of_ofMembersOfSize ?_ (by omega) h
  rw [Value.memSizes_append, Value.memSizes, Value.memSizes, Nat.add_zero]

lemma consistent_of_prependObject {v : Value F} (hl : l.Consistent)
    (hsize : l.memorySize + v.memSize < 2147483648) (h : prependObject l v = .ok a) :
    a.Consistent := by
  rw [hl.sized] at hsize
  rw [prependObject, hl.sized] at h
  refine consistent_of_ofMembersOfSize ?_ (by omega) h
  rw [Value.memSizes, Nat.add_comm]

lemma consistent_of_getSublist (hl : l.Consistent) {start stop : Int}
    (h : getSublist l start stop = .ok r) : r.Consistent := by
  obtain ⟨r', hr', -, -, hcons⟩ := getSublistWithin_add_two hl.sized start stop
  obtain rfl : r' = r := Except.ok.inj ((hr' 0).symm.trans h)
  exact hcons hl

lemma consistent_of_deleteSublist (hl : l.Consistent) {start stop : Int}
    (h : deleteSublist l start stop = .ok r) : r.Consistent := by
  obtain ⟨r', hr', -, hcons⟩ := deleteSublist_eq_ok hl start stop
  obtain rfl : r' = r := Except.ok.inj (hr'.symm.trans h)
  exact hcons

/-- What is used of `Array.Sort`: it sorts, and it only moves elements. -/
structure InPlace (arraySort : ArraySort F) : Prop where
  isSort : IsSort arraySort
  perm : ∀ cmp data ret, arraySort cmp data = .ok ret → ret.Perm data

lemma inPlace_exchange : InPlace (exchange : ArraySort F) :=
  ⟨isSort_exchange, fun _ _ _ h => exchangeSort_perm h⟩

lemma consistent_of_ofArray_perm (hl : l.Consistent) {ret : List (Value F)}
    (hperm : ret.Perm l.members) (h : ofArray ret = .ok r) : r.Consistent := by
  refine consistent_of_ofArray ?_ h
  have := hl.sized.lt
  rw [Value.memSizes_perm hperm]
  omega

lemma consistent_of_sort [FloatMath F] {arraySort : ArraySort F} (harray : InPlace arraySort)
    (hl : l.Consistent) {stride ascending : Int} (h : sort arraySort l stride ascending = .ok r) :
    r.Consistent := by
  rw [sort, hl.data_eq] at h
  split_ifs at h with hempty hfast
  · cases h
    exact consistent_empty
  · obtain ⟨ret, hret, hr⟩ := bind_eq_ok.mp h
    obtain ⟨sorted, hsorted, heq⟩ := bind_eq_ok.mp hret
    have hperm := harray.perm _ _ _ hsorted
    refine consistent_of_ofArray_perm hl ?_ hr
    obtain rfl := Except.ok.inj heq
    split_ifs
    · exact (List.reverse_perm _).trans hperm
    · exact hperm
  · obtain ⟨ret, hret, hr⟩ := bind_eq_ok.mp h
    exact consistent_of_ofArray_perm hl (bubbleSort_perm (strideOf_pos stride) hret) hr

lemma consistent_of_toFloatList [FloatStats F] (hl : l.Consistent) (h : toFloatList l = .ok r) :
    r.Consistent := by
  have hle : l.numbers.length ≤ l.members.length := by
    rw [numbers, ← hl.data_eq]
    exact List.length_filterMap_le _ _
  have hfour := Value.four_mul_length_le_memSizes l.members
  have hmax := hl.sized.lt
  have hsize := int32_of_lt (show l.numbers.length * 4 < 2147483648 by omega)
  refine consistent_of_make ?_ h
  rw [Value.memSizes_map_float]
  push_cast at hsize ⊢
  exact hsize

end LSLList

namespace Heap

variable {h h' : Heap F} {o : Nat} {l : LSLList F}

/-! ## What is to hold -/

/-- The members, the array and the stored size of a list object. -/
def contents (h : Heap F) (o : Nat) : Option (List (Value F) × List (Value F) × Int) :=
  (h.objects[o]?).bind fun obj =>
    (h.arrays[obj.array]?).map fun data => (obj.members, data, obj.memorySize)

/-- No list that existed has other contents. -/
def Unchanged (h h' : Heap F) : Prop := ∀ o c, h.contents o = some c → h'.contents o = some c

/-- In every list the array has the members, and `MemorySize` is the size of all of them together
with the overhead of a list. -/
def Agrees (h : Heap F) : Prop :=
  ∀ o members data size, h.contents o = some (members, data, size) →
    data = members ∧ int32 (size + Value.memOverhead) = Value.memOverhead + Value.memSizes members

/-- Every object has an array with its members, and its size is right and within the limit. -/
def Sound (h : Heap F) : Prop :=
  ∀ obj ∈ h.objects, h.arrays[obj.array]? = some obj.members ∧
    obj.memorySize = Value.memSizes obj.members ∧ obj.memorySize ≤ maxListMemory

lemma sound_start : Sound (start : Heap F) := by
  simp [Sound, start]

lemma Sound.agrees (hs : Sound h) : Agrees h := by
  intro o members data size hc
  obtain ⟨obj, hobj, hdata⟩ := Option.bind_eq_some_iff.mp hc
  obtain ⟨data', hdata', heq⟩ := Option.map_eq_some_iff.mp hdata
  cases heq
  obtain ⟨harray, hsize, hle⟩ := hs obj (List.mem_of_getElem? hobj)
  refine ⟨Option.some.inj (hdata'.symm.trans harray), ?_⟩
  simp only [maxListMemory] at hle
  rw [int32_eq_self] <;> simp only [Value.memOverhead] <;> omega

/-- A list read from a sound heap agrees with itself. -/
lemma Sound.get? (hs : Sound h) (hl : h.get? o = some l) :
    l.Consistent ∧ ∃ obj, h.objects[o]? = some obj ∧ obj.members = l.members ∧
      h.arrays[obj.array]? = some l.data ∧ obj.memorySize = l.memorySize := by
  unfold Heap.get? at hl
  split at hl
  · cases hl
  · rename_i obj hobj
    split at hl
    · cases hl
    · rename_i data hdata
      split_ifs at hl
      cases hl
      obtain ⟨harray, hsize, -⟩ := hs obj (List.mem_of_getElem? hobj)
      exact ⟨⟨Option.some.inj (hdata.symm.trans harray), hsize⟩, obj, hobj, rfl, hdata, rfl⟩

/-! ## Operations that create lists -/

/-- A step that leaves the heap sound and the lists as they were. -/
structure Keeps (h h' : Heap F) : Prop where
  sound : Sound h'
  unchanged : Unchanged h h'

lemma Keeps.refl (hs : Sound h) : Keeps h h := ⟨hs, fun _ _ hc => hc⟩

/-- More arrays and more objects leave the others alone. -/
lemma unchanged_append (h : Heap F) (arrays : List (List (Value F)))
    (objects : List (ListObject F)) :
    Unchanged h ⟨h.arrays ++ arrays, h.objects ++ objects⟩ := by
  intro o c hc
  obtain ⟨obj, hobj, hdata⟩ := Option.bind_eq_some_iff.mp hc
  obtain ⟨data, hdata', heq⟩ := Option.map_eq_some_iff.mp hdata
  refine Option.bind_eq_some_iff.mpr ⟨obj, ?_, Option.map_eq_some_iff.mpr ⟨data, ?_, heq⟩⟩
  · rw [List.getElem?_append_left (List.getElem?_eq_some_iff.mp hobj).1]
    exact hobj
  · rw [List.getElem?_append_left (List.getElem?_eq_some_iff.mp hdata').1]
    exact hdata'

lemma keeps_alloc (hs : Sound h) (hl : l.Consistent) : Keeps h (h.alloc l) := by
  refine ⟨fun obj hobj => ?_, unchanged_append h _ _⟩
  obtain hobj | hobj := List.mem_append.mp hobj
  · obtain ⟨harray, hsize, hle⟩ := hs obj hobj
    refine ⟨?_, hsize, hle⟩
    rw [alloc, List.getElem?_append_left (List.getElem?_eq_some_iff.mp harray).1]
    exact harray
  · obtain rfl := List.mem_singleton.mp hobj
    exact ⟨by simp [alloc, hl.data_eq], hl.sized, l.checked⟩

lemma keeps_create (hs : Sound h) {r : Except ListFault (LSLList F)}
    (hr : ∀ l, r = .ok l → l.Consistent) : Keeps h (h.create r).1 := by
  cases r with
  | error e => exact Keeps.refl hs
  | ok l => exact keeps_alloc hs (hr l rfl)

/-- A list with the array of another one. -/
lemma keeps_share (hs : Sound h) (hl : h.get? o = some l) {r : LSLList F} (hr : r.Consistent)
    (hmembers : r.members = l.members) : Keeps h (h.share o r).1 := by
  obtain ⟨hcons, obj, hobj, -, harray, -⟩ := hs.get? hl
  rw [share, hobj]
  refine ⟨fun obj' hobj' => ?_, ?_⟩
  · obtain hobj' | hobj' := List.mem_append.mp hobj'
    · exact hs obj' hobj'
    · obtain rfl := List.mem_singleton.mp hobj'
      exact ⟨by rw [harray, hcons.data_eq, hmembers], hr.sized, r.checked⟩
  · have := unchanged_append h [] [⟨r.members, obj.array, r.memorySize⟩]
    rwa [List.append_nil] at this

/-! ## Sorting in place -/

/-- The array is in order, and elements that count as equal are the same, so that sorting it
changes nothing. -/
structure Settled (cmp : Comparer ListFault (Value F)) (data : List (Value F)) : Prop where
  preorder : TotalPreorderOn cmp data
  ordered : data.Pairwise cmp.Le
  distinct : ∀ a ∈ data, ∀ b ∈ data, cmp.Le a b → cmp.Le b a → a = b

lemma Settled.arraySort_eq {cmp : Comparer ListFault (Value F)} {data : List (Value F)}
    (hset : Settled cmp data) {arraySort : LSLList.ArraySort F} (hsort : IsSort arraySort) :
    arraySort cmp data = .ok data := by
  obtain ⟨ret, hret, hperm, hpairwise⟩ := hsort cmp data hset.preorder
  have heq : ret = data := List.Perm.eq_of_pairwise
    (fun a b ha hb => hset.distinct a (hperm.mem_iff.mp ha) b hb) hpairwise hset.ordered hperm
  rw [hret, heq]

lemma keeps_sortData {arraySort : LSLList.ArraySort F} (hsort : IsSort arraySort)
    {cmp : Comparer ListFault (Value F)} (hs : Sound h) (hl : h.get? o = some l)
    (hset : Settled cmp l.data) : Keeps h (h.sortData arraySort cmp o l).1 := by
  obtain ⟨-, obj, hobj, -, harray, -⟩ := hs.get? hl
  have hsame : h.arrays.set obj.array l.data = h.arrays := by
    obtain ⟨hlt, hget⟩ := List.getElem?_eq_some_iff.mp harray
    rw [← hget, List.set_getElem_self]
  rw [sortData, hset.arraySort_eq hsort, hobj]
  simp only [hsame]
  exact Keeps.refl hs

/-! ## Runs -/

/-- The heap after an operation on one list. -/
lemma keeps_of_map {f : LSLList F → Heap F × Except ListFault (ListResult F)}
    (hf : ∀ l, h.get? o = some l → Keeps h (f l).1)
    (hstep : ((h.get? o).map f).map Prod.fst = some h') : Keeps h h' := by
  obtain ⟨r, hr, rfl⟩ := Option.map_eq_some_iff.mp hstep
  obtain ⟨l, hl, rfl⟩ := Option.map_eq_some_iff.mp hr
  exact hf l hl

/-- The heap after an operation on two lists. -/
lemma keeps_of_bind {p : Nat} {f : LSLList F → LSLList F → Heap F × Except ListFault (ListResult F)}
    (hf : ∀ l r, h.get? o = some l → h.get? p = some r → Keeps h (f l r).1)
    (hstep : ((h.get? o).bind fun l => (h.get? p).map fun r => f l r).map Prod.fst = some h') :
    Keeps h h' := by
  obtain ⟨r, hr, rfl⟩ := Option.map_eq_some_iff.mp hstep
  obtain ⟨l, hl, hr⟩ := Option.bind_eq_some_iff.mp hr
  obtain ⟨r, hr', rfl⟩ := Option.map_eq_some_iff.mp hr
  exact hf l r hl hr'

variable [FloatStats F]

/-- The operation does not sort an array in place that this would change, and what it makes a list
from has a size that fits in an `int`. -/
def Gentle (h : Heap F) : ListOp F → Prop
  | .ofMembers members => Value.memSizes members < 2147483648
  | .ofMembersOfSize members size => size = Value.memSizes members
  | .ofObject v => v.memSize < 2147483648
  | .ofArray members => Value.memSizes members < 2147483648
  | .appendObject o v => ∀ l, h.get? o = some l → l.memorySize + v.memSize < 2147483648
  | .prependObject o v => ∀ l, h.get? o = some l → l.memorySize + v.memSize < 2147483648
  | .numericSort o => ∀ l, h.get? o = some l → Settled LSLList.numericCompare l.data
  | .alphaSort o => ∀ l, h.get? o = some l → Settled LSLList.alphaCompare l.data
  | .qi o _ => ∀ l, h.get? o = some l → Settled LSLList.numericCompare l.data
  | .median o => ∀ l, h.get? o = some l → Settled LSLList.numericCompare l.data
  | _ => True

variable {arraySort : LSLList.ArraySort F}

/-- A gentle operation keeps every list. -/
lemma keeps_of_step (harray : LSLList.InPlace arraySort) (hs : Sound h) {op : ListOp F}
    (hgentle : Gentle h op) (hstep : step arraySort h op = some h') : Keeps h h' := by
  have hcons : ∀ {o l}, h.get? o = some l → l.Consistent := fun hl => (hs.get? hl).1
  cases op with
  | new =>
    cases hstep
    refine keeps_create hs fun l hl => ?_
    cases hl
    exact LSLList.consistent_empty
  | ofMembers members =>
    cases hstep
    exact keeps_create hs fun l hl => LSLList.consistent_of_ofMembers hgentle hl
  | ofMembersOfSize members size =>
    cases hstep
    exact keeps_create hs fun l hl => LSLList.consistent_of_make hgentle hl
  | copy o => exact keeps_of_map (fun l hl => keeps_share hs hl (hcons hl) rfl) hstep
  | ofObject v =>
    cases hstep
    refine keeps_create hs fun l hl => LSLList.consistent_of_ofMembers ?_ hl
    rw [Value.memSizes, Value.memSizes]
    exact hgentle
  | ofArray members =>
    cases hstep
    exact keeps_create hs fun l hl => LSLList.consistent_of_ofArray hgentle hl
  | ofData o =>
    refine keeps_of_map (fun l hl => ?_) hstep
    obtain ⟨r, hr, hmembers, hr'⟩ := (hcons hl).ofArray
      (Value.memSizes_perm (List.Perm.of_eq (hcons hl).data_eq)).le
    rw [hr]
    exact keeps_share hs hl hr' (hmembers.trans (hcons hl).data_eq)
  | append o p =>
    exact keeps_of_bind (fun l r hl hr => keeps_create hs fun a ha =>
      LSLList.consistent_of_append (hcons hl) (hcons hr) ha) hstep
  | prepend o p =>
    exact keeps_of_bind (fun l r hl hr => keeps_create hs fun a ha =>
      LSLList.consistent_of_prepend (hcons hl) (hcons hr) ha) hstep
  | appendObject o v =>
    exact keeps_of_map (fun l hl => keeps_create hs fun a ha =>
      LSLList.consistent_of_appendObject (hcons hl) (hgentle l hl) ha) hstep
  | prependObject o v =>
    exact keeps_of_map (fun l hl => keeps_create hs fun a ha =>
      LSLList.consistent_of_prependObject (hcons hl) (hgentle l hl) ha) hstep
  | getSublist o start stop =>
    refine keeps_of_map (fun l hl => ?_) hstep
    split
    · exact Keeps.refl hs
    · exact keeps_create hs fun r hr => LSLList.consistent_of_getSublist (hcons hl) hr
  | deleteSublist o start stop =>
    exact keeps_of_map (fun l hl => keeps_create hs fun r hr =>
      LSLList.consistent_of_deleteSublist (hcons hl) hr) hstep
  | sort o stride ascending =>
    exact keeps_of_map (fun l hl => keeps_create hs fun r hr =>
      LSLList.consistent_of_sort harray (hcons hl) hr) hstep
  | toFloatList o =>
    exact keeps_of_map (fun l hl => keeps_create hs fun r hr =>
      LSLList.consistent_of_toFloatList (hcons hl) hr) hstep
  | statistic s o => exact keeps_of_map (fun l hl => Keeps.refl hs) hstep
  | floatStatistic s o =>
    refine keeps_of_map (fun l hl => ?_) hstep
    exact keeps_create hs fun r hr => LSLList.consistent_of_toFloatList (hcons hl) hr
  | numericSort o =>
    exact keeps_of_map (fun l hl => keeps_sortData harray.isSort hs hl (hgentle l hl)) hstep
  | alphaSort o =>
    exact keeps_of_map (fun l hl => keeps_sortData harray.isSort hs hl (hgentle l hl)) hstep
  | qi o i =>
    exact keeps_of_map (fun l hl => keeps_sortData harray.isSort hs hl (hgentle l hl)) hstep
  | median o =>
    exact keeps_of_map (fun l hl => keeps_sortData harray.isSort hs hl (hgentle l hl)) hstep

/-- In every run of gentle operations, no list that exists at some point has other contents later,
and the parts of all lists agree. -/
theorem immutable_of_run (harray : LSLList.InPlace arraySort) {ops later : List (ListOp F)}
    (hrun : run (step arraySort) start ops = some h)
    (hrun' : run (step arraySort) h later = some h')
    (hmeets : Meets (step arraySort) Gentle start (ops ++ later)) :
    Unchanged h h' ∧ Agrees h' := by
  have hs : Sound h := invariant_of_meets
    (fun _ _ _ hs hg hstep => (keeps_of_step harray hs hg hstep).sound) hrun hmeets.append_left
    sound_start
  have hkeeps : Keeps h h' := by
    refine invariant_of_meets (P := Keeps h) ?_ hrun' (hmeets.append_right hrun) (Keeps.refl hs)
    intro a op b ha hg hstep
    have hb := keeps_of_step harray ha.sound hg hstep
    exact ⟨hb.sound, fun o c hc => hb.unchanged o c (ha.unchanged o c hc)⟩
  exact ⟨hkeeps.unchanged, hkeeps.sound.agrees⟩

/-! ## Two numbers -/

/-- An arithmetic with the two numbers `1` and `2`, which are written with one digit. -/
instance : FloatStats Bool where
  zero := false
  one := false
  add a b := a || b
  sub a _ := a
  mul a b := a || b
  div a _ := a
  neg a := a
  lt a b := !a && b
  le a b := !a || b
  eq a b := a == b
  ofInt i := i != 1
  toInt a := if a then 2 else 1
  toSingle _ := none
  vectorOfText _ := none
  quaternionOfText _ := none
  castToInt _ := 0
  castToFloat _ := false
  vecAdd v _ := v
  vecSub v _ := v
  vecDot v _ := v.x
  vecCross v _ := v
  vecScale v _ := v
  vecDiv v _ := v
  vecNeg v := v
  vecEq v w := v == w
  vecParse _ := none
  quatAdd q _ := q
  quatSub q _ := q
  quatMul q _ := q
  quatNegate q := q
  quatEq q r := q == r
  quatParse _ := none
  format6 a := if a then "2.000000" else "1.000000"
  format5 a := if a then "2.00000" else "1.00000"
  format a := if a then "2" else "1"
  sign a := some (if a then 1 else 0)
  sqrt a := a
  vecMag v := v.x
  tryParse s := if s = "1" then some false else if s = "2" then some true else none
  stringCompare s t := compareOrdinal s t
  positiveInfinity := true
  negativeInfinity := false
  half := false
  square a := a
  expLog a _ := a
  ceiling a := a

lemma settled_singleton (v : Value Bool) : Settled LSLList.numericCompare [v] := by
  have hself : LSLList.numericCompare v v = .ok 0 := by
    rw [LSLList.numericCompare]
    cases LSLList.numberOf v <;> rfl
  have hpre : TotalPreorderOn LSLList.numericCompare [v] := by
    refine TotalPreorderOn.of_rel (R := fun _ _ => True) ?_ fun _ _ _ _ _ _ _ _ => trivial
    intro a ha b hb
    obtain rfl := List.mem_singleton.mp ha
    obtain rfl := List.mem_singleton.mp hb
    exact ⟨0, hself, by simp, by simp⟩
  refine ⟨hpre, List.pairwise_singleton _ _, fun a ha b hb _ _ => ?_⟩
  rw [List.mem_singleton.mp ha, List.mem_singleton.mp hb]

/-- Two lists share an array, are put together, and the median of a list with one element is taken:
all of them stay what they were. -/
theorem immutable_sampleRun :
    ∃ h h' : Heap Bool,
      run (step exchange) start [.ofArray [.float true, .float false], .copy 0] = some h ∧
      run (step exchange) h [.append 0 1, .ofObject (.float true), .median 3] = some h' ∧
      Unchanged h h' ∧ Agrees h' := by
  have hsmall : Value.memSizes [Value.float true, .float false] < 2147483648 := by decide
  have hmeets : Meets (step exchange) Gentle start ([.ofArray [.float true, .float false],
      .copy 0] ++ [.append 0 1, .ofObject (.float true), .median 3]) := by
    refine .cons rfl hsmall (.cons rfl trivial (.cons rfl trivial (.cons rfl ?_ (.cons rfl ?_
      trivial))))
    · show 4 < 2147483648
      decide
    · intro l hl
      cases hl
      exact settled_singleton _
  exact ⟨_, _, rfl, rfl, immutable_of_run LSLList.inPlace_exchange rfl rfl hmeets⟩

/-- The median of `2` and `1` sorts the array of the list in place: its `Data` has changed, and is no
longer what its members are. -/
theorem not_immutable_median :
    ∃ h h' : Heap Bool,
      run (step exchange) start [.ofArray [.float true, .float false]] = some h ∧
      run (step exchange) h [.median 0] = some h' ∧
      h.contents 0 =
        some ([.float true, .float false], [.float true, .float false], 8) ∧
      h'.contents 0 =
        some ([.float true, .float false], [.float false, .float true], 8) ∧
      ¬ Unchanged h h' ∧ ¬ Agrees h' := by
  refine ⟨_, _, rfl, rfl, rfl, rfl, fun hsame => ?_, fun hagrees => ?_⟩
  · have h0 := hsame 0 _ rfl
    cases h0
  · have h0 := (hagrees 0 _ _ _ rfl).1
    cases h0

end Heap

end Halcyon.Joke
