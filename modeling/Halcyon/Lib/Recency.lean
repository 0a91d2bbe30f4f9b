import Halcyon.Lib.Dict
import Mathlib.Algebra.Order.Ring.Int
import Mathlib.Data.List.Infix

/-!
# Caches in order of use

A cache with a budget, as the dictionary of its entries from the most recently used one to the least
recently used.  `touch` is a use of an entry and `put` stores one and keeps of all entries the
longest first part that fits (`fit`).

`recent uses` are the keys that were ever used, in the order of their last use.  A cache that only
drops entries at its end holds the first part of them (`keys_touch_isPrefix`,
`keys_put_isPrefix`): whatever it has dropped was used less recently than whatever it holds.
-/

namespace Halcyon.Lib.Recency

variable {κ δ : Type} [DecidableEq κ]

/-! ## The order of use -/

/-- The keys of a list of uses, of which the last one comes first, each where it was used last. -/
def recent : List κ → List κ
  | [] => []
  | k :: uses => k :: (recent uses).filter fun k' => decide (k' ≠ k)

/-! ## What fits -/

section Fit

variable (weight : δ → Nat)

/-- The weight of all entries together. -/
def total (es : Dict κ δ) : Nat := (es.map fun e => weight e.2).sum

/-- The longest first part of the entries that is within a budget. -/
def fit : Nat → Dict κ δ → Dict κ δ
  | _, [] => []
  | budget, e :: es => if weight e.2 ≤ budget then e :: fit (budget - weight e.2) es else []

-- generated here once, the equations serve all the lemmas below
attribute [local simp] fit

omit [DecidableEq κ]

variable {weight} {budget : Nat} {es : Dict κ δ}

@[simp] lemma total_cons (e : κ × δ) : total weight (e :: es) = weight e.2 + total weight es := by
  simp [total]

lemma total_perm {fs : Dict κ δ} (h : es.Perm fs) : total weight es = total weight fs :=
  (h.map _).sum_nat

lemma total_sublist {fs : Dict κ δ} (h : List.Sublist fs es) : total weight fs ≤ total weight es := by
  induction h with
  | slnil => exact Nat.le_refl _
  | cons e _ ih =>
    rw [total_cons]
    exact Nat.le_add_left_of_le ih
  | cons_cons e _ ih =>
    rw [total_cons, total_cons]
    exact Nat.add_le_add_left ih _

lemma fit_isPrefix (budget : Nat) (es : Dict κ δ) : fit weight budget es <+: es := by
  induction es generalizing budget with
  | nil => exact List.prefix_rfl
  | cons e es ih =>
    rw [fit]
    split
    · exact List.cons_prefix_cons.mpr ⟨rfl, ih _⟩
    · exact List.nil_prefix

lemma total_fit_le (budget : Nat) (es : Dict κ δ) : total weight (fit weight budget es) ≤ budget := by
  induction es generalizing budget with
  | nil => exact Nat.zero_le _
  | cons e es ih =>
    rw [fit]
    split
    · have htail := ih (budget - weight e.2)
      rw [total_cons]
      omega
    · exact Nat.zero_le _

/-- Entries within the budget are all kept. -/
lemma fit_eq_self (h : total weight es ≤ budget) : fit weight budget es = es := by
  induction es generalizing budget with
  | nil => rfl
  | cons e es ih =>
    rw [total_cons] at h
    rw [fit, if_pos (by omega), ih (by omega)]

/-- As long as the entries are above the budget, the last one can be dropped. -/
lemma fit_concat {e : κ × δ} (h : budget < total weight (es ++ [e])) :
    fit weight budget (es ++ [e]) = fit weight budget es := by
  induction es generalizing budget with
  | nil =>
    rw [List.nil_append, total_cons] at h
    exact if_neg (by simpa [total] using h)
  | cons e' es ih =>
    rw [List.cons_append, total_cons] at h
    rw [List.cons_append, fit, fit]
    split
    · rw [ih (by omega)]
    · rfl

end Fit

/-! ## The operations -/

/-- An entry is used. -/
def touch (es : Dict κ δ) (k : κ) : Dict κ δ :=
  match es.get? k with
  | none => es
  | some d => (k, d) :: es.erase k

/-- An entry is stored. -/
def put (weight : δ → Nat) (budget : Nat) (es : Dict κ δ) (k : κ) (d : δ) : Dict κ δ :=
  fit weight budget ((k, d) :: es.erase k)

variable {es : Dict κ δ} {uses : List κ} {k : κ}

/-- A key that is used moves to the front of both. -/
lemma cons_keys_erase_isPrefix (h : es.keys <+: recent uses) (k : κ) :
    k :: (es.erase k).keys <+: recent (k :: uses) := by
  rw [Dict.keys_erase, recent]
  exact List.cons_prefix_cons.mpr ⟨rfl, h.filter _⟩

lemma keys_touch_isPrefix (h : es.keys <+: recent uses) (hk : k ∈ es.keys) :
    (touch es k).keys <+: recent (k :: uses) := by
  rw [touch]
  cases hget : es.get? k with
  | none => exact absurd hk (Dict.get?_eq_none_iff.mp hget)
  | some d => exact cons_keys_erase_isPrefix h k

lemma keys_put_isPrefix (h : es.keys <+: recent uses) (weight : δ → Nat) (budget : Nat) (k : κ)
    (d : δ) : (put weight budget es k d).keys <+: recent (k :: uses) :=
  ((fit_isPrefix budget _).map Prod.fst).trans (cons_keys_erase_isPrefix h k)

/-- A use changes the order only. -/
lemma perm_touch (hnodup : es.keys.Nodup) (k : κ) : (touch es k).Perm es := by
  rw [touch]
  cases hget : es.get? k with
  | none => exact List.Perm.refl _
  | some d => exact (Dict.perm_erase hnodup hget).symm

lemma mem_put {weight : δ → Nat} {budget : Nat} {d : δ} {e : κ × δ}
    (h : e ∈ put weight budget es k d) : e = (k, d) ∨ e ∈ es := by
  obtain rfl | h := List.mem_cons.mp ((fit_isPrefix budget _).mem h)
  · exact Or.inl rfl
  · exact Or.inr (Dict.mem_erase.mp h).1

end Halcyon.Lib.Recency
