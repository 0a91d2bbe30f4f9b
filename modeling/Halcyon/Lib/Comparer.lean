import Halcyon.Lib.ExchangeSort

/-!
# Comparers and sorts

A comparer returns a number whose sign says how two elements are ordered, or fails.  Whether it is a
total preorder is asked about the elements of one list only (`TotalPreorderOn`).  `IsSort` is what a
library promises of its sort: for such a comparer, a permutation of the elements that is in order.
Exchange sort is one (`isSort_exchange`), and so is a sort that
fails for every other comparer (`isSort_exchangeOr`).
-/

namespace Halcyon.Lib

variable {ε α : Type}

/-- A function that orders two elements by the sign of its result. -/
abbrev Comparer (ε α : Type) := α → α → Except ε Int

/-- The first element is not behind the second. -/
def Comparer.Le (cmp : Comparer ε α) (a b : α) : Prop := ∃ c, cmp a b = .ok c ∧ c ≤ 0

/-- The comparer is a total preorder of the elements of a list. -/
structure TotalPreorderOn (cmp : Comparer ε α) (l : List α) : Prop where
  total : ∀ a ∈ l, ∀ b ∈ l, ∃ c d, cmp a b = .ok c ∧ cmp b a = .ok d ∧ (c ≤ 0 ↔ 0 ≤ d)
  trans : ∀ a ∈ l, ∀ b ∈ l, ∀ c ∈ l, cmp.Le a b → cmp.Le b c → cmp.Le a c

/-- A sort is correct for every comparer that is a total preorder. -/
def IsSort (sort : Comparer ε α → List α → Except ε (List α)) : Prop :=
  ∀ cmp l, TotalPreorderOn cmp l → ∃ sorted, sort cmp l = .ok sorted ∧ sorted.Perm l ∧
    sorted.Pairwise cmp.Le

/-- The test whether the first element is behind the second. -/
def Comparer.greater (cmp : Comparer ε α) (a b : α) : Except ε Bool :=
  cmp a b >>= fun c => .ok (decide (0 < c))

lemma Comparer.greater_eq_ok {cmp : Comparer ε α} {a b : α} {g : Bool} :
    cmp.greater a b = .ok g ↔ ∃ c, cmp a b = .ok c ∧ g = decide (0 < c) := by
  rw [Comparer.greater, bind_eq_ok]
  constructor
  · rintro ⟨c, hc, h⟩
    exact ⟨c, hc, (Except.ok.inj h).symm⟩
  · rintro ⟨c, hc, rfl⟩
    exact ⟨c, hc, rfl⟩

namespace TotalPreorderOn

variable {cmp : Comparer ε α} {l : List α}

lemma refl (h : TotalPreorderOn cmp l) {a : α} (ha : a ∈ l) : cmp.Le a a := by
  obtain ⟨c, d, hc, hd, hiff⟩ := h.total a ha a ha
  obtain rfl : c = d := Except.ok.inj (hc.symm.trans hd)
  exact ⟨c, hc, by omega⟩

/-- A comparer whose results are those of a transitive relation, either way round. -/
lemma of_rel {R : α → α → Prop}
    (hcmp : ∀ a ∈ l, ∀ b ∈ l, ∃ c, cmp a b = .ok c ∧ (c ≤ 0 ↔ R a b) ∧ (0 ≤ c ↔ R b a))
    (htrans : ∀ a ∈ l, ∀ b ∈ l, ∀ c ∈ l, R a b → R b c → R a c) : TotalPreorderOn cmp l := by
  have hle : ∀ a ∈ l, ∀ b ∈ l, cmp.Le a b ↔ R a b := by
    intro a ha b hb
    obtain ⟨c, hc, hiff, -⟩ := hcmp a ha b hb
    constructor
    · rintro ⟨c', hc', hnonpos⟩
      obtain rfl : c = c' := Except.ok.inj (hc.symm.trans hc')
      exact hiff.mp hnonpos
    · intro h
      exact ⟨c, hc, hiff.mpr h⟩
  refine ⟨fun a ha b hb => ?_, fun a ha b hb c hc hab hbc => ?_⟩
  · obtain ⟨c, hc, hiff, -⟩ := hcmp a ha b hb
    obtain ⟨d, hd, -, hiff'⟩ := hcmp b hb a ha
    exact ⟨c, d, hc, hd, hiff.trans hiff'.symm⟩
  · rw [hle a ha b hb] at hab
    rw [hle b hb c hc] at hbc
    exact (hle a ha c hc).mpr (htrans a ha b hb c hc hab hbc)

lemma decides (h : TotalPreorderOn cmp l) : Decides cmp.greater cmp.Le l where
  refl _ ha := h.refl ha
  trans := h.trans
  swap a ha b hb hg := by
    obtain ⟨c, d, hc, hd, -⟩ := h.total a ha b hb
    obtain ⟨d', c', hd', hc', hiff⟩ := h.total b hb a ha
    obtain ⟨c'', hc'', hlt⟩ := Comparer.greater_eq_ok.mp hg
    obtain rfl : c = c'' := Except.ok.inj (hc.symm.trans hc'')
    obtain rfl : c = c' := Except.ok.inj (hc.symm.trans hc')
    have hpos : 0 < c := by simpa using hlt.symm
    exact ⟨d', hd', hiff.mpr (by omega)⟩
  keep a ha b hb hg := by
    obtain ⟨c, hc, hle⟩ := Comparer.greater_eq_ok.mp hg
    have hnpos : ¬ 0 < c := by simpa using hle.symm
    exact ⟨c, hc, by omega⟩

end TotalPreorderOn

/-- Exchange sort with a comparer. -/
def exchange (cmp : Comparer ε α) (l : List α) : Except ε (List α) :=
  exchangeSort cmp.greater l.length l

lemma isSort_exchange : IsSort (exchange : Comparer ε α → List α → Except ε (List α)) := by
  intro cmp l h
  -- all elements have one size here
  have huniform : UniformButLast (fun _ => 0) 0 l := by
    intro n hn
    obtain ⟨_, -, rfl⟩ := List.mem_map.mp (List.dropLast_subset _ hn)
    rfl
  have htest : ∀ a ∈ l, ∀ b ∈ l, 0 = 0 → ∃ g, cmp.greater a b = .ok g := by
    intro a ha b hb _
    obtain ⟨c, d, hc, -, -⟩ := h.total a ha b hb
    exact ⟨_, Comparer.greater_eq_ok.mpr ⟨c, hc, rfl⟩⟩
  obtain ⟨sorted, hs⟩ := exists_exchangeSort_eq_ok (fun _ => 0) (fun _ _ _ => rfl) huniform htest
  exact ⟨sorted, hs, exchangeSort_perm hs, exchangeSort_pairwise (Nat.le_refl _) h.decides hs⟩

/-- A sort that does nothing beyond what is promised of it: it fails unless the comparer is a total
preorder. -/
noncomputable def exchangeOr (fail : ε) (cmp : Comparer ε α) (l : List α) : Except ε (List α) := by
  classical
  exact if TotalPreorderOn cmp l then exchange cmp l else .error fail

lemma isSort_exchangeOr (fail : ε) :
    IsSort (exchangeOr fail : Comparer ε α → List α → Except ε (List α)) := by
  intro cmp l h
  rw [exchangeOr, if_pos h]
  exact isSort_exchange cmp l h

lemma exchangeOr_eq_ok {fail : ε} {cmp : Comparer ε α} {l sorted : List α}
    (h : exchangeOr fail cmp l = .ok sorted) :
    TotalPreorderOn cmp l ∧ sorted.Perm l ∧ sorted.Pairwise cmp.Le := by
  rw [exchangeOr] at h
  split_ifs at h with hpre
  obtain ⟨sorted', hs, hperm, hpairwise⟩ := isSort_exchange cmp l hpre
  obtain rfl : sorted' = sorted := Except.ok.inj (hs.symm.trans h)
  exact ⟨hpre, hperm, hpairwise⟩

end Halcyon.Lib
