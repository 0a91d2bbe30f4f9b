import Halcyon.Joke.ListSort
import Halcyon.Lib.Chunks

/-!
# The loops of `Sort` are an exchange sort of blocks

The source exchanges blocks element by element, by index.  Here its loops are shown to be the
exchange sort of `Lib/ExchangeSort.lean` on the blocks of the array (`bubbleSort_eq`), with a test
that compares the first elements of two blocks.  Exchanging a block with a shorter one leaves the
array, which is where the test fails with `indexOutOfRange`.
-/

namespace Halcyon.Joke

open Halcyon.Lib

variable {V : Type} {cmp : Comparer ListFault V}

/-! ## Loop variables -/

variable {stride : Nat}

lemma indices_of_le {start bound : Nat} (h : bound ≤ start) (hpos : 0 < stride) :
    indices start bound stride = [] := by
  have hcount : (bound - start + stride - 1) / stride = 0 :=
    Nat.div_eq_of_lt (by omega)
  rw [indices, hcount, List.range'_zero]

lemma indices_of_lt {start bound : Nat} (h : start < bound) (hpos : 0 < stride) :
    indices start bound stride = start :: indices (start + stride) bound stride := by
  have hcount : (bound - start + stride - 1) / stride =
      (bound - (start + stride) + stride - 1) / stride + 1 := by
    rcases Nat.lt_or_ge (bound - start) stride with hlt | hge
    · rw [show bound - (start + stride) + stride - 1 = stride - 1 by omega,
        Nat.div_eq_of_lt (by omega : stride - 1 < stride),
        show bound - start + stride - 1 = (bound - start - 1) + stride by omega,
        Nat.add_div_right _ hpos, Nat.div_eq_of_lt (by omega : bound - start - 1 < stride)]
    · rw [← Nat.add_div_right _ hpos]
      congr 1
      omega
  rw [indices, hcount, List.range'_succ, indices]

lemma LSLList.strideOf_pos (stride : Int) : 0 < LSLList.strideOf stride := by
  unfold strideOf
  split_ifs <;> omega

/-! ## Exchanging two blocks -/

lemma getElem?_append_length (A B : List V) (b : V) : (A ++ b :: B)[A.length]? = some b := by
  simp

lemma exchangeAt_eq (A M C : List V) (a b : V) :
    exchangeAt A.length (A.length + 1 + M.length) (A ++ a :: (M ++ b :: C)) =
      .ok (A ++ b :: (M ++ a :: C)) := by
  have hj : A.length + 1 + M.length = (A ++ a :: M).length := by simp; omega
  have hb : (A ++ a :: (M ++ b :: C))[A.length + 1 + M.length]? = some b := by
    rw [hj, show A ++ a :: (M ++ b :: C) = (A ++ a :: M) ++ b :: C by simp,
      getElem?_append_length]
  have hset : ((A ++ a :: (M ++ b :: C)).set A.length b).set (A.length + 1 + M.length) a =
      A ++ b :: (M ++ a :: C) := by
    rw [List.set_append_right _ _ (le_refl _), Nat.sub_self, List.set_cons_zero,
      show A.length + 1 + M.length = (A ++ b :: M).length by simp; omega,
      show A ++ b :: (M ++ b :: C) = (A ++ b :: M) ++ b :: C by simp,
      List.set_append_right _ _ (le_refl _), Nat.sub_self, List.set_cons_zero]
    simp
  rw [exchangeAt, getElem?_append_length, hb]
  simp only [hset]

/-- After the first elements of two blocks are exchanged, the blocks are one element shorter and
the parts before and between them one element longer. -/
lemma exchangeBlocks_cons (A B C x y : List V) (a b : V) :
    exchangeBlocks A.length (A ++ a :: x ++ B).length (a :: x).length
        (A ++ a :: x ++ B ++ b :: y ++ C) =
      exchangeBlocks (A ++ [b]).length ((A ++ [b]) ++ x ++ (B ++ [a])).length x.length
        ((A ++ [b]) ++ x ++ (B ++ [a]) ++ y ++ C) := by
  have hstep := exchangeAt_eq A (x ++ B) (y ++ C) a b
  simp only [List.append_assoc, List.cons_append, List.nil_append, List.length_append,
    List.length_cons, List.length_nil, Nat.zero_add] at hstep ⊢
  rw [exchangeBlocks, show A.length + (x.length + B.length + 1) =
      A.length + 1 + (x.length + B.length) by omega, hstep, ok_bind]
  congr 1
  omega

variable {x y : List V}

lemma exchangeBlocks_eq (h : x.length = y.length) (A B C : List V) :
    exchangeBlocks A.length (A ++ x ++ B).length x.length (A ++ x ++ B ++ y ++ C) =
      .ok (A ++ y ++ B ++ x ++ C) := by
  induction x generalizing y A B with
  | nil =>
    obtain rfl : y = [] := List.length_eq_zero_iff.mp h.symm
    rfl
  | cons a x ih =>
    cases y with
    | nil => simp at h
    | cons b y =>
      rw [exchangeBlocks_cons, ih (by simpa using h)]
      simp

lemma exchangeBlocks_short (h : y.length < x.length) (A B : List V) :
    exchangeBlocks A.length (A ++ x ++ B).length x.length (A ++ x ++ B ++ y ++ []) =
      .error .indexOutOfRange := by
  induction x generalizing y A B with
  | nil => simp at h
  | cons a x ih =>
    cases y with
    | nil =>
      have hnone : (A ++ a :: x ++ B ++ [] ++ [])[(A ++ a :: x ++ B).length]? = none := by simp
      rw [List.length_cons, exchangeBlocks, exchangeAt, hnone]
      cases (A ++ a :: x ++ B ++ [] ++ [])[A.length]? <;> rfl
    | cons b y => rw [exchangeBlocks_cons, ih (by simpa using h)]

/-! ## One round -/

/-- The test of the exchange sort: whether the first element of a block is behind that of
another.  Only blocks of one length can be exchanged. -/
def blockGreater (cmp : Comparer ListFault V) (x y : List V) : Except ListFault Bool :=
  match x.head?, y.head? with
  | some a, some b => do
    let c ← cmp a b
    if 0 < c then if x.length = y.length then .ok true else .error .indexOutOfRange
    else .ok false
  | _, _ => .error .indexOutOfRange

lemma blockGreater_eq_ok {a b : V} {c : Int} (hx : x.head? = some a) (hy : y.head? = some b)
    (hc : cmp a b = .ok c) :
    blockGreater cmp x y =
      if 0 < c then if x.length = y.length then .ok true else .error .indexOutOfRange
      else .ok false := by
  rw [blockGreater, hx, hy]
  simp only [hc, ok_bind]

/-- A test that succeeded has compared the first elements. -/
lemma of_blockGreater_eq_ok {g : Bool} (h : blockGreater cmp x y = .ok g) :
    ∃ a b c, x.head? = some a ∧ y.head? = some b ∧ cmp a b = .ok c ∧ g = decide (0 < c) ∧
      (g = true → x.length = y.length) := by
  rw [blockGreater] at h
  split at h
  · rename_i a b hx hy
    obtain ⟨c, hc, hrest⟩ := bind_eq_ok.mp h
    refine ⟨a, b, c, hx, hy, hc, ?_⟩
    split_ifs at hrest with hpos hlen
    · cases hrest
      exact ⟨by simp [hpos], fun _ => hlen⟩
    · cases hrest
      exact ⟨by simp [hpos], by simp⟩
  · cases h

lemma length_eq_of_blockGreater (h : blockGreater cmp x y = .ok true) :
    x.length = y.length := by
  obtain ⟨-, -, -, -, -, -, -, hlen⟩ := of_blockGreater_eq_ok h
  exact hlen rfl

/-- The body of the loop over `j`, when the array is seen in blocks. -/
lemma compareStep_eq (cmp : Comparer ListFault V) {C : List V} (hx : x ≠ []) (hy : y ≠ [])
    (hle : y.length ≤ x.length) (hC : y.length ≠ x.length → C = []) (A B : List V) :
    compareStep cmp x.length A.length (A ++ x ++ B ++ y ++ C) (A ++ x ++ B).length =
      (blockGreater cmp x y >>= fun g =>
        .ok (if g then A ++ y ++ B ++ x ++ C else A ++ x ++ B ++ y ++ C)) := by
  obtain ⟨a, x', rfl⟩ := List.exists_cons_of_ne_nil hx
  obtain ⟨b, y', rfl⟩ := List.exists_cons_of_ne_nil hy
  have ha : (A ++ a :: x' ++ B ++ b :: y' ++ C)[A.length]? = some a := by simp
  have hb : (A ++ a :: x' ++ B ++ b :: y' ++ C)[(A ++ a :: x' ++ B).length]? = some b := by simp
  rw [compareStep, ha, hb]
  dsimp only
  cases hc : cmp a b with
  | error e => rw [blockGreater, List.head?_cons, List.head?_cons]; simp only [hc, error_bind]
  | ok c =>
    rw [blockGreater_eq_ok rfl rfl hc, ok_bind]
    by_cases hpos : 0 < c
    · rw [if_pos hpos, if_pos hpos]
      by_cases hlen : (a :: x').length = (b :: y').length
      · rw [if_pos hlen, exchangeBlocks_eq hlen]
        rfl
      · obtain rfl := hC (Ne.symm hlen)
        rw [if_neg hlen, exchangeBlocks_short (by omega)]
        rfl
    · rw [if_neg hpos, if_neg hpos]
      rfl

/-- The loop over `j` is one round of the exchange sort. -/
lemma foldlM_compareStep (cmp : Comparer ListFault V) {n j : Nat} (hpos : 0 < stride)
    (hx : x.length = stride) (A B : List V) {ys : List (List V)}
    (hsizes : BlockSizes stride (ys.map List.length)) (hn : n = (A ++ x ++ B ++ ys.flatten).length)
    (hle : (A ++ x ++ B).length ≤ j) (hj : ys ≠ [] → j = (A ++ x ++ B).length) :
    (indices j n stride).foldlM (compareStep cmp stride A.length) (A ++ x ++ B ++ ys.flatten) =
      (pass (blockGreater cmp) x ys >>= fun r => .ok (A ++ r.1 ++ B ++ r.2.flatten)) := by
  induction ys generalizing x B j with
  | nil =>
    have hbound : n ≤ j := by rwa [hn, List.flatten_nil, List.append_nil]
    rw [indices_of_le hbound hpos]
    rfl
  | cons y ys ih =>
    obtain ⟨hy, hyle, hfull, hrest⟩ := hsizes
    obtain rfl := hj (by simp)
    have hlt : (A ++ x ++ B).length < n := by
      rw [hn, List.flatten_cons]
      simp only [List.length_append]
      omega
    have hC : y.length ≠ x.length → ys.flatten = [] := by
      intro hne
      by_contra hnil
      refine hne ((hfull fun he => hnil ?_).trans hx.symm)
      rw [List.map_eq_nil_iff.mp he, List.flatten_nil]
    have hstep := compareStep_eq cmp (List.ne_nil_of_length_pos (hx ▸ hpos))
      (List.ne_nil_of_length_pos hy) (hx ▸ hyle) hC A B
    rw [hx] at hstep
    rw [indices_of_lt hlt hpos, List.foldlM_cons, List.flatten_cons, ← List.append_assoc, hstep,
      pass_cons]
    cases hg : blockGreater cmp x y with
    | error e => rfl
    | ok g =>
      cases g with
      | true =>
        have hxy := length_eq_of_blockGreater hg
        have hgoon := ih (hxy ▸ hx) (B ++ x) (j := (A ++ x ++ B).length + stride) hrest
          (by rw [hn]; simp; omega) (by simp; omega) (fun _ => by simp; omega)
        simp only [ok_bind, if_true]
        rw [show A ++ y ++ B ++ x ++ ys.flatten = A ++ y ++ (B ++ x) ++ ys.flatten by simp, hgoon]
        cases pass (blockGreater cmp) y ys with
        | error e => rfl
        | ok r => simp
      | false =>
        have hgoon := ih hx (B ++ y) (j := (A ++ x ++ B).length + stride) hrest
          (by rw [hn]; simp) (by simp; omega) (fun hne => by
            have := hfull (by simpa using hne)
            simp; omega)
        simp only [ok_bind, Bool.false_eq_true, if_false]
        rw [show A ++ x ++ B ++ y ++ ys.flatten = A ++ x ++ (B ++ y) ++ ys.flatten by simp, hgoon]
        cases pass (blockGreater cmp) x ys with
        | error e => rfl
        | ok r => simp

/-! ## All rounds -/

/-- The loop over `i` are the rounds of the exchange sort. -/
lemma foldlM_rounds (cmp : Comparer ListFault V) {n : Nat} (hpos : 0 < stride) {rounds : Nat}
    (A : List V) {bs : List (List V)} (hrounds : bs.length ≤ rounds)
    (hsizes : BlockSizes stride (bs.map List.length)) (hn : n = (A ++ bs.flatten).length) :
    (indices A.length (n - stride) stride).foldlM (fun ret i =>
        (indices (i + stride) n stride).foldlM (compareStep cmp stride i) ret) (A ++ bs.flatten) =
      (exchangeSort (blockGreater cmp) rounds bs >>= fun r => .ok (A ++ r.flatten)) := by
  induction rounds generalizing A bs with
  | zero =>
    obtain rfl := List.length_eq_zero_iff.mp (Nat.le_zero.mp hrounds)
    rw [indices_of_le (by simp at hn; omega) hpos]
    rfl
  | succ rounds ih =>
    cases bs with
    | nil =>
      rw [indices_of_le (by simp at hn; omega) hpos]
      rfl
    | cons x rest =>
      obtain ⟨hx, hxle, hfull, hrest⟩ := hsizes
      rw [List.flatten_cons, ← List.append_assoc] at hn ⊢
      by_cases hmore : rest = []
      · -- a single block is left
        subst hmore
        rw [indices_of_le (by simp at hn; omega) hpos]
        rw [List.flatten_nil, List.append_nil, exchangeSort, pass_nil, ok_bind, exchangeSort_nil]
        simp [pure, Except.pure]
      · have hxs : x.length = stride := hfull (by simpa using hmore)
        obtain ⟨y, ys, rfl⟩ := List.exists_cons_of_ne_nil hmore
        have hlt : A.length < n - stride := by
          have hy : 0 < y.length := hrest.1
          rw [hn, List.flatten_cons]
          simp only [List.length_append]
          omega
        have hround := foldlM_compareStep cmp (j := A.length + stride) hpos hxs A []
          hrest (by simpa using hn) (by simp; omega) (fun _ => by simp; omega)
        simp only [List.append_nil] at hround
        rw [indices_of_lt hlt hpos, List.foldlM_cons, hround, exchangeSort]
        cases hp : pass (blockGreater cmp) x (y :: ys) with
        | error e => rfl
        | ok r =>
          obtain ⟨z, zs⟩ := r
          obtain ⟨hz, hzs⟩ := pass_size List.length
            (fun _ _ => length_eq_of_blockGreater) hp
          have hgoon := ih (A ++ z) (show zs.length ≤ rounds by
              have := congrArg List.length hzs; simp at this hrounds; omega)
            (hzs ▸ hrest) (by
              have hperm := ((pass_perm hp).flatten).length_eq
              rw [hn]; simp at hperm ⊢; omega)
          simp only [ok_bind]
          rw [List.length_append, hz, hxs] at hgoon
          rw [hgoon]
          cases exchangeSort (blockGreater cmp) rounds zs with
          | error e => rfl
          | ok r => simp

/-- The loops of `Sort` sort the blocks of the array. -/
lemma bubbleSort_eq (hpos : 0 < stride) (data : List V) :
    bubbleSort cmp stride data =
      (exchangeSort (blockGreater cmp) (chunks stride data).length (chunks stride data) >>=
        fun r => .ok r.flatten) := by
  have h := foldlM_rounds cmp hpos [] (le_refl _) (blockSizes_chunks hpos data) rfl
  simp only [List.nil_append, List.length_nil, flatten_chunks] at h
  exact h

/-- Whatever the comparison, the loops only move elements. -/
lemma bubbleSort_perm (hpos : 0 < stride) {data ret : List V}
    (h : bubbleSort cmp stride data = .ok ret) : ret.Perm data := by
  rw [bubbleSort_eq hpos] at h
  obtain ⟨bs, hbs, heq⟩ := bind_eq_ok.mp h
  obtain rfl : bs.flatten = ret := Except.ok.inj heq
  simpa using (exchangeSort_perm hbs).flatten

end Halcyon.Joke
