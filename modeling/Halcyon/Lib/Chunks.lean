import Halcyon.Lib.ExchangeSort

/-!
# A list in blocks

`chunks n l` are the blocks of `n` elements of `l`, the last of which may be shorter
(`blockSizes_chunks`).  Put together they are the list again (`flatten_chunks`).
-/

namespace Halcyon.Lib

variable {α : Type}

/-- The blocks of `n` elements of a list. -/
def chunks (n : Nat) : List α → List (List α)
  | [] => []
  | x :: xs => (x :: xs.take (n - 1)) :: chunks n (xs.drop (n - 1))
termination_by l => l.length
decreasing_by
  simp only [List.length_drop, List.length_cons]
  omega

@[simp] lemma chunks_nil (n : Nat) : chunks n ([] : List α) = [] := by
  rw [chunks]

lemma chunks_cons (n : Nat) (x : α) (xs : List α) :
    chunks n (x :: xs) = (x :: xs.take (n - 1)) :: chunks n (xs.drop (n - 1)) := by
  rw [chunks]

variable {n : Nat}

/-- An induction that takes off one block at a time. -/
lemma chunks_induction {P : List α → Prop} (hnil : P [])
    (hcons : ∀ x xs, P (xs.drop (n - 1)) → P (x :: xs)) (l : List α) : P l := by
  induction hlen : l.length using Nat.strongRecOn generalizing l with
  | ind k ih =>
    cases l with
    | nil => exact hnil
    | cons x xs =>
      refine hcons x xs (ih (xs.drop (n - 1)).length ?_ _ rfl)
      simp only [List.length_drop, ← hlen, List.length_cons]
      omega

@[simp] lemma flatten_chunks (n : Nat) (l : List α) : (chunks n l).flatten = l := by
  induction l using chunks_induction (n := n) with
  | hnil => simp
  | hcons x xs ih => rw [chunks_cons, List.flatten_cons, ih, List.cons_append,
      List.take_append_drop]

lemma chunks_one (l : List α) : chunks 1 l = l.map fun x => [x] := by
  induction l with
  | nil => simp
  | cons x xs ih => simp [chunks_cons, ih]

variable {bs : List (List α)}

lemma eq_map_singleton (h : ∀ b ∈ bs, ∃ v, b = [v]) :
    bs = bs.flatten.map fun v => [v] := by
  induction bs with
  | nil => rfl
  | cons b bs ih =>
    obtain ⟨v, rfl⟩ := h b (List.mem_cons_self ..)
    rw [List.flatten_cons, List.map_append, ← ih fun c hc => h c (List.mem_cons_of_mem _ hc)]
    rfl

/-- Blocks of one element in another order. -/
lemma eq_map_singleton_of_perm {l : List α} (h : bs.Perm (chunks 1 l)) :
    bs = bs.flatten.map fun v => [v] := by
  refine eq_map_singleton fun b hb => ?_
  rw [chunks_one] at h
  obtain ⟨v, -, rfl⟩ := List.mem_map.mp (h.mem_iff.mp hb)
  exact ⟨v, rfl⟩

/-- Sizes of blocks of `n` elements: only the last may be smaller, and none is empty. -/
def BlockSizes (n : Nat) : List Nat → Prop
  | [] => True
  | k :: ks => 0 < k ∧ k ≤ n ∧ (ks ≠ [] → k = n) ∧ BlockSizes n ks

lemma BlockSizes.uniform (h : BlockSizes n (bs.map List.length)) :
    UniformButLast List.length n bs := by
  intro k hk
  induction bs with
  | nil => simp at hk
  | cons b bs ih =>
    obtain ⟨-, -, hfull, hrest⟩ := h
    cases bs with
    | nil => simp at hk
    | cons c cs =>
      rw [List.map_cons, List.map_cons, List.dropLast_cons_cons, List.mem_cons] at hk
      obtain rfl | hk := hk
      · exact hfull (by simp)
      · exact ih hrest hk

lemma BlockSizes.of_mem (h : BlockSizes n (bs.map List.length)) {b : List α} (hb : b ∈ bs) :
    b ≠ [] ∧ b.length ≤ n := by
  induction bs with
  | nil => simp at hb
  | cons c cs ih =>
    obtain ⟨hpos, hle, -, hrest⟩ := h
    obtain rfl | hb := List.mem_cons.mp hb
    · exact ⟨List.ne_nil_of_length_pos hpos, hle⟩
    · exact ih hrest hb

lemma BlockSizes.exists_head (h : BlockSizes n (bs.map List.length)) {b : List α} (hb : b ∈ bs) :
    ∃ a, b.head? = some a := by
  obtain ⟨a, b', rfl⟩ := List.exists_cons_of_ne_nil (h.of_mem hb).1
  exact ⟨a, rfl⟩

/-- A block that is shorter than another is the last one, and all others have `n` elements. -/
lemma BlockSizes.eq_concat (h : BlockSizes n (bs.map List.length)) {x y : List α} (hx : x ∈ bs)
    (hy : y ∈ bs) (hlt : y.length < x.length) :
    ∃ xs, bs = xs ++ [y] ∧ x ∈ xs ∧ ∀ b ∈ xs, b.length ≠ y.length := by
  have hne : bs ≠ [] := List.ne_nil_of_mem hx
  have hfull : ∀ b ∈ bs.dropLast, b.length = n := by
    intro b hb
    refine h.uniform b.length ?_
    rw [← List.map_dropLast]
    exact List.mem_map_of_mem hb
  have hsplit := List.dropLast_append_getLast hne
  have hmem : ∀ b ∈ bs, b ∈ bs.dropLast ∨ b = bs.getLast hne := by
    intro b hb
    rw [← hsplit, List.mem_append, List.mem_singleton] at hb
    exact hb
  have hxle := (h.of_mem hx).2
  have hylast : y = bs.getLast hne := by
    obtain hyin | hylast := hmem y hy
    · have := hfull y hyin
      omega
    · exact hylast
  have hxin : x ∈ bs.dropLast := by
    obtain hxin | hxlast := hmem x hx
    · exact hxin
    · rw [hxlast, ← hylast] at hlt
      omega
  refine ⟨bs.dropLast, by rw [hylast, hsplit], hxin, fun b hb => ?_⟩
  have := hfull b hb
  omega

lemma blockSizes_chunks (hn : 0 < n) (l : List α) :
    BlockSizes n ((chunks n l).map List.length) := by
  induction l using chunks_induction (n := n) with
  | hnil => simp [BlockSizes]
  | hcons x xs ih =>
    rw [chunks_cons, List.map_cons]
    refine ⟨by simp, by simp only [List.length_cons, List.length_take]; omega, fun hne => ?_, ih⟩
    have hmore : xs.drop (n - 1) ≠ [] := by
      rintro hnil
      simp [hnil] at hne
    rw [ne_eq, List.drop_eq_nil_iff] at hmore
    simp only [List.length_cons, List.length_take]
    omega

end Halcyon.Lib
