import Halcyon.Joke.LslList
import Halcyon.Lib.Positions

/-!
# Selecting and deleting parts of a list

`GetSublist` selects exactly the positions its comments promise.  With the indices counted from the
end once where they are negative, they are the positions between `start` and `stop`, or, when
`start` lies behind `stop`, those up to `stop` and those from `start` on (`selected`).  The parts it
selects are never larger than the list, so that no constructor on its way fails, and the calls it
makes of itself end at once: both of them have their indices in order.

`DeleteSublist` is meant to return the other positions (`remaining`).  It does when the indices are
in order, unless both lie before the list: those are moved to the first position, which is then
deleted.  When `start` lies behind `stop` it returns `GetSublist(stop, start)`, which contains the
two positions at its ends, although `GetSublist(start, stop)` selects them as well.
`Complements` says for which indices and lengths none of this matters.
-/

namespace Halcyon.Joke

open Halcyon.Lib

namespace Value

variable {F : Type}

attribute [local simp] memSizes

lemma memSizes_append (l m : List (Value F)) : memSizes (l ++ m) = memSizes l + memSizes m := by
  induction l with
  | nil => simp
  | cons v vs ih => rw [List.cons_append, memSizes, memSizes, ih, Nat.add_assoc]

lemma memSizes_perm {l m : List (Value F)} (h : l.Perm m) : memSizes l = memSizes m := by
  induction h with
  | nil => rfl
  | cons v _ ih => rw [memSizes, memSizes, ih]
  | swap v w l => simp only [memSizes]; omega
  | trans _ _ ih ih' => exact ih.trans ih'

lemma memSizes_le_of_sublist {l m : List (Value F)} (h : l.Sublist m) :
    memSizes l ≤ memSizes m := by
  induction h with
  | slnil => exact le_refl _
  | cons v _ ih => rw [memSizes]; omega
  | cons_cons v _ ih => rw [memSizes, memSizes]; omega

end Value

namespace LSLList

variable {F : Type}

/-! ## Constructors that succeed -/

lemma consistent_empty : (empty : LSLList F).Consistent := ⟨rfl, rfl⟩

variable {l : LSLList F}

lemma Sized.le (h : l.Sized) : (Value.memSizes l.members : Int) ≤ maxListMemory :=
  h ▸ l.checked

/-- A list of the given elements that agrees with itself. -/
def Holds (members : List (Value F)) (r : LSLList F) : Prop :=
  r.members = members ∧ r.Consistent

variable {members : List (Value F)}

lemma make_eq_ok {size : Int} (hsize : size = Value.memSizes members)
    (hle : (Value.memSizes members : Int) ≤ maxListMemory) :
    ∃ r, make members members rfl size = .ok r ∧ Holds members r := by
  refine ⟨⟨members, members, size, rfl, hsize ▸ hle⟩, ?_, rfl, rfl, hsize⟩
  rw [make, dif_pos (hsize ▸ hle)]

/-- A size within the limit is not changed by the arithmetic of `int`. -/
lemma int32_memSizes (h : (Value.memSizes members : Int) ≤ maxListMemory) :
    int32 (Value.memSizes members) = Value.memSizes members := by
  refine int32_eq_self (by omega) ?_
  simp only [maxListMemory] at h
  omega

lemma ofArray_eq_ok (h : (Value.memSizes members : Int) ≤ maxListMemory) :
    ∃ r, ofArray members = .ok r ∧ Holds members r :=
  make_eq_ok (int32_memSizes h) h

lemma append_eq_ok {r : LSLList F} (hl : l.Sized) (hr : r.Sized)
    (h : (Value.memSizes (l.members ++ r.members) : Int) ≤ maxListMemory) :
    ∃ a, append l r = .ok a ∧ Holds (l.members ++ r.members) a := by
  refine make_eq_ok ?_ h
  have hsum : l.memorySize + r.memorySize = (Value.memSizes (l.members ++ r.members) : Int) := by
    rw [hl, hr, Value.memSizes_append]
    push_cast
    rfl
  rw [hsum, int32_memSizes h]

lemma copyTo_eq_ok {index count : Int} (hindex : 0 ≤ index) (hcount : 0 ≤ count)
    (hle : index + count ≤ members.length) :
    copyTo members index count = .ok ((members.drop index.toNat).take count.toNat) := by
  rw [copyTo, if_pos ⟨hindex, hcount, hle⟩]

/-! ## `GetSublist` -/

/-- The elements `GetSublist` is to select, for indices that are no longer relative to the end. -/
def selected (start stop : Int) (members : List (Value F)) : List (Value F) :=
  if start ≤ stop then keepAt (fun i => start ≤ (i : Int) && (i : Int) ≤ stop) members
  else keepAt (fun i => (i : Int) ≤ stop) members ++ keepAt (fun i => start ≤ (i : Int)) members

variable {start stop : Int}

lemma selected_of_le (h : start ≤ stop) (members : List (Value F)) :
    selected start stop members =
      (members.drop start.toNat).take ((stop + 1).toNat - start.toNat) := by
  rw [selected, if_pos h, keepAt_between]

lemma selected_of_lt (h : stop < start) (members : List (Value F)) :
    selected start stop members = members.take (stop + 1).toNat ++ members.drop start.toNat := by
  rw [selected, if_neg (by omega), keepAt_le, keepAt_ge]

lemma selected_sublist (start stop : Int) (members : List (Value F)) :
    (selected start stop members).Sublist members := by
  rcases lt_or_ge stop start with hlt | hle
  · rw [selected_of_lt hlt]
    exact take_append_drop_sublist (by omega) members
  · rw [selected_of_le hle]
    exact (List.take_sublist _ _).trans (List.drop_sublist _ _)

lemma memSizes_selected_le (hl : l.Sized) (start stop : Int) :
    (Value.memSizes (selected start stop l.members) : Int) ≤ maxListMemory := by
  have hle := Value.memSizes_le_of_sublist (selected_sublist start stop l.members)
  have hmax := hl.le
  omega

lemma fromEnd_of_nonneg {count : Nat} {i : Int} (h : 0 ≤ i) : fromEnd count i = i :=
  if_neg (by omega)

/-- With its indices in order, `GetSublist` makes no call of itself. -/
lemma getSublistWithin_of_le (hl : l.Sized) (h : fromEnd l.length start ≤ fromEnd l.length stop) :
    ∃ r, (∀ depth, getSublistWithin (depth + 1) l start stop = .ok r) ∧
      Holds (selected (fromEnd l.length start) (fromEnd l.length stop) l.members) r := by
  generalize hs : fromEnd l.length start = s at h ⊢
  generalize he : fromEnd l.length stop = e at h ⊢
  by_cases hout : (l.length : Int) ≤ s ∨ e < 0
  · refine ⟨empty, fun depth => ?_, ?_, consistent_empty⟩
    · simp only [getSublistWithin, hs, he, if_pos h, if_pos hout]
    · rw [selected_of_le h]
      have hnil : (l.members.drop s.toNat).take ((e + 1).toNat - s.toNat) = [] := by
        rw [List.take_eq_nil_iff, List.drop_eq_nil_iff]
        simp only [length] at hout
        omega
      exact hnil.symm
  · have hsize := memSizes_selected_le hl s e
    rw [selected_of_le h] at hsize ⊢
    obtain ⟨r, hr, hholds⟩ := ofArray_eq_ok hsize
    refine ⟨r, fun depth => ?_, hholds⟩
    simp only [getSublistWithin, hs, he, if_pos h, if_neg hout]
    have hbounds : 0 ≤ (if s < 0 then 0 else s) ∧
        (if s < 0 then 0 else s) ≤ (if (l.length : Int) ≤ e then (l.length : Int) - 1 else e) + 1 ∧
        (if (l.length : Int) ≤ e then (l.length : Int) - 1 else e) < l.length := by
      split_ifs <;> omega
    rw [copyTo_eq_ok hbounds.1 (by omega) (by simp only [length] at hbounds ⊢; omega), ok_bind]
    have harray : (l.members.drop (if s < 0 then 0 else s).toNat).take
        ((if (l.length : Int) ≤ e then (l.length : Int) - 1 else e) -
          (if s < 0 then 0 else s) + 1).toNat =
        (l.members.drop s.toNat).take ((e + 1).toNat - s.toNat) := by
      have hstart : (if s < 0 then (0 : Int) else s).toNat = s.toNat := by split_ifs <;> omega
      rw [hstart, List.take_eq_take_iff, List.length_drop]
      simp only [length] at hout hbounds ⊢
      split_ifs <;> omega
    rw [harray, hr]

/-- The case in which `GetSublist` calls itself, for the part up to `stop` and the rest. -/
lemma getSublistWithin_of_lt {s e : Int} (hs : fromEnd l.length start = s)
    (he : fromEnd l.length stop = e) (h : e < s) (hneg : ¬ (e < 0 ∧ s < 0)) (depth : Nat) :
    getSublistWithin (depth + 1) l start stop =
      ((if e < 0 then .ok empty else getSublistWithin depth l 0 e) >>= fun result =>
        if (l.length : Int) ≤ s then .ok result
        else getSublistWithin depth l s l.data.length >>= fun rest => append result rest) := by
  have hnle : ¬ s ≤ e := by omega
  rw [getSublistWithin, hs, he]
  simp only [if_neg hnle, if_neg hneg]

/-- `GetSublist` returns the elements it is to select, in two nested calls at most. -/
lemma getSublistWithin_add_two (hl : l.Sized) (start stop : Int) :
    ∃ r, (∀ depth, getSublistWithin (depth + 2) l start stop = .ok r) ∧
      r.members = selected (fromEnd l.length start) (fromEnd l.length stop) l.members ∧
      r.Sized ∧ (l.Consistent → r.Consistent) := by
  rcases lt_or_ge (fromEnd l.length stop) (fromEnd l.length start) with hlt | hle
  swap
  · obtain ⟨r, hr, hmembers, hcons⟩ := getSublistWithin_of_le hl hle
    exact ⟨r, fun depth => hr (depth + 1), hmembers, hcons.sized, fun _ => hcons⟩
  generalize hs : fromEnd l.length start = s at hlt ⊢
  generalize he : fromEnd l.length stop = e at hlt ⊢
  have hnle : ¬ s ≤ e := by omega
  have hsize := memSizes_selected_le hl s e
  rw [selected_of_lt hlt] at hsize ⊢
  by_cases hneg : e < 0 ∧ s < 0
  · refine ⟨l, fun depth => ?_, ?_, hl, id⟩
    · simp only [getSublistWithin, hs, he, if_neg hnle, if_pos hneg]
    · simp [Int.toNat_of_nonpos (show s ≤ 0 by omega),
        Int.toNat_of_nonpos (show e + 1 ≤ 0 by omega)]
  -- the part up to `stop`
  obtain ⟨first, hfirst, hfirstMembers, hfirstCons⟩ : ∃ first : LSLList F,
      (∀ depth, (if e < 0 then .ok empty else getSublistWithin (depth + 1) l 0 e) = .ok first) ∧
      Holds (l.members.take (e + 1).toNat) first := by
    by_cases hempty : e < 0
    · refine ⟨empty, fun _ => if_pos hempty, ?_, consistent_empty⟩
      simp [Int.toNat_of_nonpos (show e + 1 ≤ 0 by omega), empty]
    · have h0 : fromEnd l.length 0 = 0 := fromEnd_of_nonneg (le_refl _)
      have h1 : fromEnd l.length e = e := fromEnd_of_nonneg (by omega)
      obtain ⟨r, hr, hholds⟩ :=
        getSublistWithin_of_le hl (show fromEnd l.length 0 ≤ fromEnd l.length e by omega)
      rw [h0, h1, selected_of_le (by omega)] at hholds
      exact ⟨r, fun depth => by rw [if_neg hempty, hr], by simpa using hholds⟩
  by_cases hbeyond : (l.length : Int) ≤ s
  · refine ⟨first, fun depth => ?_, ?_, hfirstCons.sized, fun _ => hfirstCons⟩
    · rw [getSublistWithin_of_lt hs he hlt hneg, hfirst, ok_bind, if_pos hbeyond]
    · rw [hfirstMembers, List.drop_eq_nil_of_le (by simp only [length] at hbeyond; omega),
        List.append_nil]
  -- the part from `start` on
  have h0 : fromEnd l.length s = s := fromEnd_of_nonneg (by omega)
  have h1 : fromEnd l.length l.data.length = l.data.length := fromEnd_of_nonneg (by omega)
  obtain ⟨rest, hrest, hrestMembers, hrestCons⟩ :=
    getSublistWithin_of_le hl
      (show fromEnd l.length s ≤ fromEnd l.length (l.data.length : Int) by
        rw [h0, h1, l.length_data]; simp only [length] at hbeyond; omega)
  rw [h0, h1, l.length_data, selected_of_le (by simp only [length] at hbeyond; omega),
    List.take_of_length_le (by rw [List.length_drop]; omega)] at hrestMembers
  rw [← hfirstMembers, ← hrestMembers] at hsize ⊢
  obtain ⟨r, hr, hmembers, hcons⟩ := append_eq_ok hfirstCons.sized hrestCons.sized hsize
  refine ⟨r, fun depth => ?_, hmembers, hcons.sized, fun _ => hcons⟩
  rw [getSublistWithin_of_lt hs he hlt hneg, hfirst, ok_bind, if_neg hbeyond, hrest, ok_bind, hr]

/-- Sub-list selection is exact: whatever the indices, `GetSublist` returns the elements it is to
select, without an exception and however deeply calls may be nested beyond two, and a list whose
parts agree gives a list whose parts agree. -/
theorem getSublist_exact (l : LSLList F) (hl : l.Sized) (start stop : BitVec 32) :
    ∃ r, (∀ depth, getSublistWithin (depth + 2) l start.toInt stop.toInt = .ok r) ∧
      r.members = selected (fromEnd l.length start.toInt) (fromEnd l.length stop.toInt) l.members ∧
      r.Sized ∧ (l.Consistent → r.Consistent) :=
  getSublistWithin_add_two hl start.toInt stop.toInt

/-- A list of three numbers. -/
def sampleList : LSLList Unit :=
  ⟨[.int 1, .int 2, .int 3], [.int 1, .int 2, .int 3], 12, rfl, by decide⟩

lemma consistent_sampleList : sampleList.Consistent := ⟨rfl, rfl⟩

/-- Selection from the last element to the first. -/
theorem getSublist_exact_sampleList :
    ∃ r, (∀ depth, getSublistWithin (depth + 2) sampleList (-1) 0 = .ok r) ∧
      r.members = [.int 1, .int 3] ∧ r.Consistent := by
  obtain ⟨r, hr, hmembers, -, hcons⟩ :=
    getSublist_exact sampleList consistent_sampleList.sized (-1) 0
  exact ⟨r, hr, hmembers, hcons consistent_sampleList⟩

/-! ## `DeleteSublist` -/

/-- The positions `GetSublist` selects. -/
def selects (start stop : Int) (i : Nat) : Bool :=
  if start ≤ stop then start ≤ (i : Int) && (i : Int) ≤ stop
  else (i : Int) ≤ stop || start ≤ (i : Int)

lemma selects_of_lt (h : stop < start) (i : Nat) :
    selects start stop i = !(stop + 1 ≤ (i : Int) && (i : Int) ≤ start - 1) := by
  rw [selects, if_neg (by omega), Bool.eq_iff_iff]
  simp only [Bool.or_eq_true, decide_eq_true_eq, Bool.not_eq_true', Bool.and_eq_false_iff,
    decide_eq_false_iff_not]
  omega

lemma selected_eq_keepAt (start stop : Int) (members : List (Value F)) :
    selected start stop members = keepAt (selects start stop) members := by
  rcases lt_or_ge stop start with hlt | hle
  · rw [selected_of_lt hlt, keepAt_congr fun i _ => selects_of_lt hlt i,
      keepAt_outside (by omega)]
    congr 2
    omega
  · rw [selected, if_pos hle]
    refine keepAt_congr fun i _ => ?_
    rw [selects, if_pos hle]

/-- The elements at the positions `GetSublist` does not select. -/
def remaining (start stop : Int) (members : List (Value F)) : List (Value F) :=
  keepAt (fun i => !selects start stop i) members

lemma remaining_of_le (h : start ≤ stop) (members : List (Value F)) :
    remaining start stop members = members.take start.toNat ++ members.drop (stop + 1).toNat := by
  rw [← keepAt_outside (by omega), remaining]
  refine keepAt_congr fun i _ => ?_
  rw [selects, if_pos h]

lemma remaining_of_lt (h : stop < start) (members : List (Value F)) :
    remaining start stop members =
      (members.drop (stop + 1).toNat).take (start.toNat - (stop + 1).toNat) := by
  rw [remaining, keepAt_congr fun i _ => by rw [selects_of_lt h i, Bool.not_not], keepAt_between]
  congr 2
  omega

/-- What `DeleteSublist` returns, for indices that are no longer relative to the end: both are
moved to the first position if they lie before it. -/
def deleted (start stop : Int) (members : List (Value F)) : List (Value F) :=
  if stop.toNat < start.toNat then
    (members.drop stop.toNat).take (start.toNat + 1 - stop.toNat)
  else members.take start.toNat ++ members.drop (stop.toNat + 1)

/-- The loop of `DeleteSublist` keeps the positions outside an interval. -/
lemma copyOutside_eq (start stop src : Int) (data : List (Value F)) :
    copyOutside start stop src data =
      keepAt (fun i => !(start ≤ src + i && src + i ≤ stop)) data := by
  induction data generalizing src with
  | nil => rfl
  | cons v vs ih =>
    have hrest : copyOutside start stop (src + 1) vs =
        keepAt (fun i => !(start ≤ src + ((i + 1 : Nat) : Int) &&
          src + ((i + 1 : Nat) : Int) ≤ stop)) vs := by
      rw [ih]
      refine keepAt_congr fun i _ => ?_
      rw [show src + 1 + (i : Int) = src + ((i + 1 : Nat) : Int) by omega]
    rw [copyOutside, keepAt_cons, hrest]
    refine if_congr ?_ rfl rfl
    simp only [Bool.not_eq_true', Bool.and_eq_false_iff, decide_eq_false_iff_not]
    omega

/-- An index counted from the end if it is negative, and moved to the first position if it is
negative still. -/
lemma clamp_fromEnd {count : Nat} {index : Int} {n : Nat} (h : (fromEnd count index).toNat = n) :
    (if (if index < 0 then (count : Int) + index else index) < 0 then 0
      else if index < 0 then (count : Int) + index else index) = n := by
  rw [fromEnd] at h
  split_ifs at h ⊢ <;> omega

/-- An array that is no larger than a list becomes a list. -/
lemma Consistent.ofArray (hl : l.Consistent) {m : List (Value F)}
    (hm : Value.memSizes m ≤ Value.memSizes l.members) :
    ∃ r, LSLList.ofArray m = .ok r ∧ Holds m r := by
  have hmax := hl.sized.le
  exact ofArray_eq_ok (by omega)

lemma Consistent.ofArray_sublist (hl : l.Consistent) {m : List (Value F)}
    (hm : m.Sublist l.members) : ∃ r, LSLList.ofArray m = .ok r ∧ Holds m r :=
  hl.ofArray (Value.memSizes_le_of_sublist hm)

/-- `DeleteSublist` with `start` behind `stop`. -/
lemma deleteSublist_of_lt (hl : l.Consistent) {s e : Nat} (hs : (fromEnd l.length start).toNat = s)
    (he : (fromEnd l.length stop).toNat = e) (h : e < s) :
    ∃ r, deleteSublist l start stop = .ok r ∧
      Holds ((l.members.drop e).take (s + 1 - e)) r := by
  rw [length] at hs he
  simp only [deleteSublist, hl.data_eq, clamp_fromEnd hs, clamp_fromEnd he, Int.ofNat_lt,
    Int.ofNat_le, if_pos h]
  by_cases hbeyond : l.members.length ≤ e
  · rw [if_pos hbeyond, List.drop_eq_nil_of_le hbeyond, List.take_nil]
    exact hl.ofArray_sublist (List.nil_sublist _)
  rw [if_neg hbeyond]
  generalize hs' : (if l.members.length ≤ s then (l.members.length : Int) - 1 else s) = s'
  have hle : (e : Int) ≤ s' := by rw [← hs']; split_ifs <;> omega
  obtain ⟨r, hr, hmembers, -, hcons⟩ := getSublistWithin_add_two hl.sized e s'
  refine ⟨r, hr 0, ?_, hcons hl⟩
  rw [hmembers, fromEnd_of_nonneg (by omega), fromEnd_of_nonneg (by omega), selected_of_le hle,
    Int.toNat_natCast, List.take_eq_take_iff, List.length_drop, ← hs']
  split_ifs <;> omega

/-- `DeleteSublist` with its indices in order. -/
lemma deleteSublist_of_le (hl : l.Consistent) {s e : Nat} (hs : (fromEnd l.length start).toNat = s)
    (he : (fromEnd l.length stop).toNat = e) (h : s ≤ e) :
    ∃ r, deleteSublist l start stop = .ok r ∧
      Holds (l.members.take s ++ l.members.drop (e + 1)) r := by
  rw [length] at hs he
  simp only [deleteSublist, hl.data_eq, clamp_fromEnd hs, clamp_fromEnd he, Int.ofNat_lt,
    Int.ofNat_le, if_neg (Nat.not_lt.mpr h)]
  by_cases hbeyond : l.members.length ≤ s
  · rw [if_pos hbeyond, List.take_of_length_le hbeyond, List.drop_eq_nil_of_le (by omega),
      List.append_nil]
    exact hl.ofArray_sublist (List.Sublist.refl _)
  rw [if_neg hbeyond]
  generalize he' : (if l.members.length ≤ e then (l.members.length : Int) - 1 else e) = e'
  have hle : (s : Int) ≤ e' ∧ e' < l.members.length := by rw [← he']; split_ifs <;> omega
  have hdrop : l.members.drop (e' + 1).toNat = l.members.drop (e + 1) := by
    rw [List.drop_eq_drop_iff, ← he']
    split_ifs <;> omega
  have houtside : copyOutside s e' 0 l.members = l.members.take s ++ l.members.drop (e + 1) := by
    rw [copyOutside_eq]
    simp only [Int.zero_add]
    rw [keepAt_outside (by omega), hdrop, Int.toNat_natCast]
  by_cases hnone : (l.members.length : Int) - (e' + 1 - s) = 0
  · have hnil : l.members.take s ++ l.members.drop (e + 1) = [] := by
      rw [← hdrop, List.append_eq_nil_iff, List.take_eq_nil_iff, List.drop_eq_nil_iff]
      omega
    rw [if_pos hnone, hnil]
    exact hl.ofArray_sublist (List.nil_sublist _)
  · rw [if_neg hnone, houtside]
    exact hl.ofArray_sublist (take_append_drop_sublist (by omega) _)

/-- What `DeleteSublist` does with a list whose parts agree. -/
lemma deleteSublist_eq_ok (hl : l.Consistent) (start stop : Int) :
    ∃ r, deleteSublist l start stop = .ok r ∧
      Holds (deleted (fromEnd l.length start) (fromEnd l.length stop) l.members) r := by
  by_cases h : (fromEnd l.length stop).toNat < (fromEnd l.length start).toNat
  · rw [deleted, if_pos h]
    exact deleteSublist_of_lt hl rfl rfl h
  · rw [deleted, if_neg h]
    exact deleteSublist_of_le hl rfl rfl (Nat.not_lt.mp h)

/-- The indices for which `DeleteSublist` returns what `GetSublist` leaves out of a list with
`count` elements. -/
def Complements (start stop : Int) (count : Nat) : Prop :=
  start ≤ stop ∧ (0 ≤ stop ∨ count = 0) ∨
  stop < start ∧ (stop < 0 ∧ start ≤ 0 ∧ count ≤ 1 ∨ stop < 0 ∧ count ≤ start ∨ count ≤ stop)

/-- The lengths alone decide whether the elements that are left are the right ones. -/
lemma deleted_eq_remaining_iff (start stop : Int) (members : List (Value F)) :
    deleted start stop members = remaining start stop members ↔
      Complements start stop members.length := by
  have hlength : deleted start stop members = remaining start stop members →
      (deleted start stop members).length = (remaining start stop members).length :=
    congrArg List.length
  unfold Complements
  rcases lt_or_ge stop start with hlt | hle
  · rw [remaining_of_lt hlt] at hlength ⊢
    by_cases h : stop.toNat < start.toNat
    · simp only [deleted, if_pos h, List.length_take, List.length_drop] at hlength ⊢
      refine ⟨fun heq => ?_, fun hc => ?_⟩
      · have := hlength heq
        omega
      · by_cases hneg : stop < 0
        · rw [Int.toNat_of_nonpos (by omega : stop ≤ 0),
            Int.toNat_of_nonpos (by omega : stop + 1 ≤ 0), List.drop_zero,
            List.take_of_length_le (by omega), List.take_of_length_le (by omega)]
        · rw [List.drop_eq_nil_of_le (by omega), List.drop_eq_nil_of_le (by omega), List.take_nil,
            List.take_nil]
    · simp only [deleted, if_neg h, List.length_append, List.length_take, List.length_drop]
        at hlength ⊢
      refine ⟨fun heq => ?_, fun hc => ?_⟩
      · have := hlength heq
        omega
      · rw [Int.toNat_of_nonpos (by omega : start ≤ 0), List.take_zero,
          List.drop_eq_nil_of_le (by omega), Nat.zero_sub, List.take_zero, List.append_nil]
  · rw [remaining_of_le hle] at hlength ⊢
    have h : ¬ stop.toNat < start.toNat := by omega
    simp only [deleted, if_neg h, List.length_append, List.length_take, List.length_drop]
      at hlength ⊢
    refine ⟨fun heq => ?_, fun hc => ?_⟩
    · have := hlength heq
      omega
    · congr 1
      rw [List.drop_eq_drop_iff]
      omega

/-- `DeleteSublist` returns the elements `GetSublist` does not select for exactly these indices.
Otherwise it leaves out a first element that was not selected, or returns elements that were. -/
theorem deleteSublist_complements_iff (l : LSLList F) (hl : l.Consistent)
    (start stop : BitVec 32) :
    (∃ kept rest, getSublist l start.toInt stop.toInt = .ok kept ∧
        deleteSublist l start.toInt stop.toInt = .ok rest ∧
        kept.members = keepAt
          (selects (fromEnd l.length start.toInt) (fromEnd l.length stop.toInt)) l.members ∧
        rest.members = keepAt
          (fun i => !selects (fromEnd l.length start.toInt) (fromEnd l.length stop.toInt) i)
          l.members) ↔
      Complements (fromEnd l.length start.toInt) (fromEnd l.length stop.toInt) l.length := by
  obtain ⟨kept, hkept, hkeptMembers, -⟩ :=
    getSublistWithin_add_two hl.sized start.toInt stop.toInt
  obtain ⟨rest, hrest, hrestMembers, -⟩ := deleteSublist_eq_ok hl start.toInt stop.toInt
  have hiff := deleted_eq_remaining_iff (fromEnd l.length start.toInt)
    (fromEnd l.length stop.toInt) l.members
  rw [selected_eq_keepAt] at hkeptMembers
  constructor
  · rintro ⟨kept', rest', -, hrest', -, heq⟩
    obtain rfl : rest = rest' := Except.ok.inj (hrest.symm.trans hrest')
    exact hiff.mp (hrestMembers.symm.trans heq)
  · intro hc
    exact ⟨kept, rest, hkept 0, hrest, hkeptMembers, hrestMembers.trans (hiff.mpr hc)⟩

/-- The first two of three elements are deleted, and the last is what is left. -/
theorem deleteSublist_complements_sampleList :
    ∃ kept rest, getSublist sampleList 0 1 = .ok kept ∧ deleteSublist sampleList 0 1 = .ok rest ∧
      kept.members = [.int 1, .int 2] ∧ rest.members = [.int 3] := by
  obtain ⟨kept, rest, hkept, hrest, hkeptMembers, hrestMembers⟩ :=
    (deleteSublist_complements_iff sampleList consistent_sampleList 0 1).mpr
      (Or.inl ⟨by decide, Or.inl (by decide)⟩)
  exact ⟨kept, rest, hkept, hrest, hkeptMembers, hrestMembers⟩

/-- With `start` behind `stop`, the first and the last of three elements are selected, and all three
are left after deleting. -/
theorem not_complements_sampleList :
    ∃ kept rest, getSublist sampleList 2 0 = .ok kept ∧ deleteSublist sampleList 2 0 = .ok rest ∧
      kept.members = [.int 1, .int 3] ∧ rest.members = [.int 1, .int 2, .int 3] ∧
      rest.members ≠ keepAt (fun i => !selects 2 0 i) sampleList.members := by
  refine ⟨_, _, rfl, rfl, rfl, rfl, fun h => ?_⟩
  exact absurd (congrArg List.length h) (by decide)

end LSLList

end Halcyon.Joke
