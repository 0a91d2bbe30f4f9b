import Mathlib.Data.List.Basic
import Mathlib.Algebra.Order.Ring.Int

/-!
# The elements of a list at given positions

`keepAt p l` are the elements of `l` whose position satisfies `p`, in order.  A predicate is only
asked about the positions the list has (`keepAt_congr`).  Intervals of positions are what `take`
and `drop` leave (`keepAt_le`, `keepAt_ge`, `keepAt_between`, `keepAt_outside`); there the bounds
are integers, which may lie on either side of the list.
-/

namespace Halcyon.Lib

variable {α : Type*}

/-- The elements of a list whose position satisfies `p`. -/
def keepAt (p : Nat → Bool) : List α → List α
  | [] => []
  | x :: xs =>
    if p 0 then x :: keepAt (fun i => p (i + 1)) xs else keepAt (fun i => p (i + 1)) xs

@[simp] lemma keepAt_nil (p : Nat → Bool) : keepAt p ([] : List α) = [] := rfl

lemma keepAt_cons (p : Nat → Bool) (x : α) (xs : List α) :
    keepAt p (x :: xs) =
      if p 0 then x :: keepAt (fun i => p (i + 1)) xs else keepAt (fun i => p (i + 1)) xs :=
  rfl

lemma keepAt_congr {p q : Nat → Bool} {l : List α} (h : ∀ i < l.length, p i = q i) :
    keepAt p l = keepAt q l := by
  induction l generalizing p q with
  | nil => rfl
  | cons x xs ih =>
    have h0 : p 0 = q 0 := h 0 (by simp)
    have hrest : keepAt (fun i => p (i + 1)) xs = keepAt (fun i => q (i + 1)) xs :=
      ih fun i hi => h (i + 1) (by simpa using hi)
    rw [keepAt_cons, keepAt_cons, h0, hrest]

lemma keepAt_append (p : Nat → Bool) (l m : List α) :
    keepAt p (l ++ m) = keepAt p l ++ keepAt (fun i => p (i + l.length)) m := by
  induction l generalizing p with
  | nil => simp
  | cons x xs ih =>
    rw [List.cons_append, keepAt_cons, keepAt_cons, ih]
    simp only [List.length_cons, Nat.add_assoc]
    split <;> simp

lemma keepAt_eq_self {p : Nat → Bool} {l : List α} (h : ∀ i < l.length, p i = true) :
    keepAt p l = l := by
  induction l generalizing p with
  | nil => rfl
  | cons x xs ih =>
    rw [keepAt_cons, if_pos (h 0 (by simp)), ih fun i hi => h (i + 1) (by simpa using hi)]

lemma keepAt_eq_nil {p : Nat → Bool} {l : List α} (h : ∀ i < l.length, p i = false) :
    keepAt p l = [] := by
  induction l generalizing p with
  | nil => rfl
  | cons x xs ih =>
    rw [keepAt_cons, if_neg (by simp [h 0 (by simp)]),
      ih fun i hi => h (i + 1) (by simpa using hi)]

/-! ## Intervals -/

/-- The positions below `n` are what `take n` leaves, and those from `n` on what `drop n` does. -/
lemma keepAt_split (p : Nat → Bool) (l : List α) (n : Nat) :
    keepAt p l = keepAt p (l.take n) ++ keepAt (fun i => p (i + (l.take n).length)) (l.drop n) := by
  rw [← keepAt_append, List.take_append_drop]

lemma keepAt_le (e : Int) (l : List α) :
    keepAt (fun i => (i : Int) ≤ e) l = l.take (e + 1).toNat := by
  rw [keepAt_split _ l (e + 1).toNat, keepAt_eq_self, keepAt_eq_nil, List.append_nil]
  · intro i hi
    simp only [List.length_drop, List.length_take] at hi ⊢
    simp only [decide_eq_false_iff_not]
    omega
  · intro i hi
    simp only [List.length_take] at hi
    simp only [decide_eq_true_eq]
    omega

lemma keepAt_ge (s : Int) (l : List α) :
    keepAt (fun i => s ≤ (i : Int)) l = l.drop s.toNat := by
  rw [keepAt_split _ l s.toNat, keepAt_eq_nil, keepAt_eq_self, List.nil_append]
  · intro i hi
    simp only [List.length_drop, List.length_take] at hi ⊢
    simp only [decide_eq_true_eq]
    omega
  · intro i hi
    simp only [List.length_take] at hi
    simp only [decide_eq_false_iff_not]
    omega

/-- The positions between two bounds. -/
lemma keepAt_between (s e : Int) (l : List α) :
    keepAt (fun i => s ≤ (i : Int) && (i : Int) ≤ e) l = (l.drop s.toNat).take
      ((e + 1).toNat - s.toNat) := by
  rw [keepAt_split _ l s.toNat, keepAt_eq_nil, List.nil_append]
  · have h : ∀ i < (l.drop s.toNat).length,
        (decide (s ≤ ((i + (l.take s.toNat).length : Nat) : Int)) &&
          decide (((i + (l.take s.toNat).length : Nat) : Int) ≤ e)) =
        decide ((i : Int) ≤ (((e + 1).toNat - s.toNat : Nat) : Int) - 1) := by
      intro i hi
      simp only [List.length_drop, List.length_take] at hi ⊢
      rw [Bool.eq_iff_iff]
      simp only [Bool.and_eq_true, decide_eq_true_eq]
      omega
    rw [keepAt_congr h, keepAt_le]
    congr 1
    omega
  · intro i hi
    simp only [List.length_take] at hi
    simp only [Bool.and_eq_false_iff, decide_eq_false_iff_not]
    omega

/-- The positions that are not between two bounds. -/
lemma keepAt_outside {s e : Int} (h : s ≤ e + 1) (l : List α) :
    keepAt (fun i => !(s ≤ (i : Int) && (i : Int) ≤ e)) l =
      l.take s.toNat ++ l.drop (e + 1).toNat := by
  rw [keepAt_split _ l s.toNat, keepAt_eq_self]
  · have hmove : ∀ i < (l.drop s.toNat).length,
        (!(decide (s ≤ ((i + (l.take s.toNat).length : Nat) : Int)) &&
          decide (((i + (l.take s.toNat).length : Nat) : Int) ≤ e))) =
        decide (e + 1 - s.toNat ≤ (i : Int)) := by
      intro i hi
      simp only [List.length_drop, List.length_take] at hi ⊢
      rw [Bool.eq_iff_iff]
      simp only [Bool.not_eq_true', Bool.and_eq_false_iff, decide_eq_false_iff_not,
        decide_eq_true_eq]
      omega
    rw [keepAt_congr hmove, keepAt_ge, List.drop_drop]
    congr 2
    omega
  · intro i hi
    simp only [List.length_take] at hi
    simp only [Bool.not_eq_true', Bool.and_eq_false_iff, decide_eq_false_iff_not]
    omega

/-- Leaving out an interval of positions. -/
lemma take_append_drop_sublist {a b : Nat} (h : a ≤ b) (l : List α) :
    (l.take a ++ l.drop b).Sublist l := by
  have hdrop : (l.drop b).Sublist (l.drop a) := List.drop_sublist_drop_left l h
  calc (l.take a ++ l.drop b).Sublist (l.take a ++ l.drop a) := hdrop.append_left _
    _ = l := List.take_append_drop _ _

end Halcyon.Lib
