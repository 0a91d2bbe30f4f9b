import Halcyon.Lib.Outcome
import Mathlib.Data.List.Perm.Basic

/-!
# Exchange sort with a test that can fail

The sort that compares the first element with every later one, exchanges the two whenever the test
`greater` says so, and then does the same with the rest.  `pass` is one round, which carries the
element that is first at the moment, and `exchangeSort` are all rounds.  A test that fails makes the
whole sort fail.

Elements may have a size, and only elements of one size may be exchanged (`hsize` below).  A round
then keeps the sizes at their positions, and a last element of another size stays where it is
(`pass_concat`): since every other element is the carried one at the end of some round, each of them
is tested against the last one (`exchangeSort_concat`).
-/

namespace Halcyon.Lib

variable {ε α : Type} (greater : α → α → Except ε Bool)

/-- One round: the first element and the others after it. -/
def pass : α → List α → Except ε (α × List α)
  | x, [] => .ok (x, [])
  | x, y :: ys => do
    if ← greater x y then
      let r ← pass y ys
      .ok (r.1, x :: r.2)
    else
      let r ← pass x ys
      .ok (r.1, y :: r.2)

/-- The given number of rounds. -/
def exchangeSort : Nat → List α → Except ε (List α)
  | n + 1, x :: rest => do
    let r ← pass greater x rest
    let sorted ← exchangeSort n r.2
    .ok (r.1 :: sorted)
  | _, l => .ok l

variable {greater}

-- generated here once, the equations serve all the lemmas below
attribute [local simp] pass exchangeSort

@[simp] lemma pass_nil (x : α) : pass greater x [] = .ok (x, []) := rfl

lemma pass_cons (x y : α) (ys : List α) :
    pass greater x (y :: ys) = (greater x y >>= fun g =>
      if g then pass greater y ys >>= fun r => .ok (r.1, x :: r.2)
      else pass greater x ys >>= fun r => .ok (r.1, y :: r.2)) := by
  rw [pass]

/-- A round over one more element ends with an exchange or without one. -/
lemma pass_cons_eq_ok {x y z : α} {ys zs : List α} :
    pass greater x (y :: ys) = .ok (z, zs) ↔
      (greater x y = .ok true ∧ ∃ zs', pass greater y ys = .ok (z, zs') ∧ zs = x :: zs') ∨
      (greater x y = .ok false ∧ ∃ zs', pass greater x ys = .ok (z, zs') ∧ zs = y :: zs') := by
  rw [pass_cons, bind_eq_ok]
  constructor
  · rintro ⟨g, hg, h⟩
    cases g with
    | true =>
      obtain ⟨⟨z', zs'⟩, hr, heq⟩ := bind_eq_ok.mp h
      cases heq
      exact Or.inl ⟨hg, zs', hr, rfl⟩
    | false =>
      obtain ⟨⟨z', zs'⟩, hr, heq⟩ := bind_eq_ok.mp h
      cases heq
      exact Or.inr ⟨hg, zs', hr, rfl⟩
  · rintro (⟨hg, zs', hr, rfl⟩ | ⟨hg, zs', hr, rfl⟩)
    · exact ⟨true, hg, by simp [hr]⟩
    · exact ⟨false, hg, by simp [hr]⟩

lemma exchangeSort_cons_eq_ok {n : Nat} {x : α} {rest l : List α} :
    exchangeSort greater (n + 1) (x :: rest) = .ok l ↔
      ∃ z zs sorted, pass greater x rest = .ok (z, zs) ∧
        exchangeSort greater n zs = .ok sorted ∧ l = z :: sorted := by
  rw [exchangeSort, bind_eq_ok]
  constructor
  · rintro ⟨⟨z, zs⟩, hr, h⟩
    obtain ⟨sorted, hs, heq⟩ := bind_eq_ok.mp h
    exact ⟨z, zs, sorted, hr, hs, (Except.ok.inj heq).symm⟩
  · rintro ⟨z, zs, sorted, hr, hs, rfl⟩
    exact ⟨(z, zs), hr, by simp [hs]⟩

@[simp] lemma exchangeSort_nil (n : Nat) : exchangeSort greater n ([] : List α) = .ok [] := by
  cases n <;> rfl

/-! ## Permutation -/

lemma pass_perm {x z : α} {ys zs : List α} (h : pass greater x ys = .ok (z, zs)) :
    (z :: zs).Perm (x :: ys) := by
  induction ys generalizing x z zs with
  | nil =>
    cases h
    exact List.Perm.refl _
  | cons y ys ih =>
    obtain ⟨-, zs', hr, rfl⟩ | ⟨-, zs', hr, rfl⟩ := pass_cons_eq_ok.mp h
    · exact (List.Perm.swap x z zs').trans ((ih hr).cons x)
    · exact ((List.Perm.swap y z zs').trans ((ih hr).cons y)).trans (List.Perm.swap x y ys)

lemma exchangeSort_perm {n : Nat} {l sorted : List α} (h : exchangeSort greater n l = .ok sorted) :
    sorted.Perm l := by
  induction n generalizing l sorted with
  | zero =>
    cases h
    exact List.Perm.refl _
  | succ n ih =>
    cases l with
    | nil =>
      cases h
      exact List.Perm.refl _
    | cons x rest =>
      obtain ⟨z, zs, sorted', hr, hs, rfl⟩ := exchangeSort_cons_eq_ok.mp h
      exact ((ih hs).cons z).trans (pass_perm hr)

/-! ## Order -/

section Order

variable {le : α → α → Prop}

/-- The test agrees with an order on the given elements. -/
structure Decides (greater : α → α → Except ε Bool) (le : α → α → Prop) (l : List α) : Prop where
  refl : ∀ a ∈ l, le a a
  trans : ∀ a ∈ l, ∀ b ∈ l, ∀ c ∈ l, le a b → le b c → le a c
  swap : ∀ a ∈ l, ∀ b ∈ l, greater a b = .ok true → le b a
  keep : ∀ a ∈ l, ∀ b ∈ l, greater a b = .ok false → le a b

lemma Decides.mono {l m : List α} (h : Decides greater le l) (hs : m ⊆ l) :
    Decides greater le m where
  refl a ha := h.refl a (hs ha)
  trans a ha b hb c hc := h.trans a (hs ha) b (hs hb) c (hs hc)
  swap a ha b hb := h.swap a (hs ha) b (hs hb)
  keep a ha b hb := h.keep a (hs ha) b (hs hb)

/-- The element a round ends with is the least. -/
lemma pass_le {x z : α} {ys zs : List α} (hdec : Decides greater le (x :: ys))
    (h : pass greater x ys = .ok (z, zs)) : le z x ∧ ∀ b ∈ zs, le z b := by
  have hz : z ∈ x :: ys := (pass_perm h).mem_iff.mp (List.mem_cons_self ..)
  induction ys generalizing x z zs with
  | nil =>
    cases h
    exact ⟨hdec.refl x (by simp), by simp⟩
  | cons y ys ih =>
    obtain ⟨hg, zs', hr, rfl⟩ | ⟨hg, zs', hr, rfl⟩ := pass_cons_eq_ok.mp h
    · obtain ⟨hy, hrest⟩ := ih (hdec.mono (List.subset_cons_self _ _)) hr
        ((pass_perm hr).mem_iff.mp (List.mem_cons_self ..))
      have hx : le z x := hdec.trans z hz y (by simp) x (by simp) hy
        (hdec.swap x (by simp) y (by simp) hg)
      refine ⟨hx, fun b hb => ?_⟩
      obtain rfl | hb := List.mem_cons.mp hb
      · exact hx
      · exact hrest b hb
    · obtain ⟨hx, hrest⟩ :=
        ih (hdec.mono (List.cons_subset_cons x (List.subset_cons_self _ _))) hr
          ((pass_perm hr).mem_iff.mp (List.mem_cons_self ..))
      refine ⟨hx, fun b hb => ?_⟩
      obtain rfl | hb := List.mem_cons.mp hb
      · exact hdec.trans z hz x (by simp) b (by simp) hx
          (hdec.keep x (by simp) b (by simp) hg)
      · exact hrest b hb

/-- With as many rounds as there are elements, the result is in order. -/
lemma exchangeSort_pairwise {n : Nat} {l sorted : List α} (hn : l.length ≤ n)
    (hdec : Decides greater le l) (h : exchangeSort greater n l = .ok sorted) :
    sorted.Pairwise le := by
  induction n generalizing l sorted with
  | zero =>
    cases h
    rw [List.length_eq_zero_iff.mp (Nat.le_zero.mp hn)]
    exact List.Pairwise.nil
  | succ n ih =>
    cases l with
    | nil =>
      cases h
      exact List.Pairwise.nil
    | cons x rest =>
      obtain ⟨z, zs, sorted', hr, hs, rfl⟩ := exchangeSort_cons_eq_ok.mp h
      have hperm := pass_perm hr
      have hlength : zs.length = rest.length := by simpa using hperm.length_eq
      have hzs : Decides greater le zs :=
        hdec.mono fun a ha => hperm.mem_iff.mp (List.mem_cons_of_mem z ha)
      refine List.Pairwise.cons (fun b hb => ?_) (ih (by simp at hn; omega) hzs hs)
      exact (pass_le hdec hr).2 b ((exchangeSort_perm hs).mem_iff.mp hb)

end Order

/-! ## Sizes -/

section Sizes

variable {size : α → Nat}

lemma pass_size (size : α → Nat)
    (hsize : ∀ a b, greater a b = .ok true → size a = size b) {x z : α} {ys zs : List α}
    (h : pass greater x ys = .ok (z, zs)) :
    size z = size x ∧ zs.map size = ys.map size := by
  induction ys generalizing x z zs with
  | nil =>
    cases h
    exact ⟨rfl, rfl⟩
  | cons y ys ih =>
    obtain ⟨hg, zs', hr, rfl⟩ | ⟨-, zs', hr, rfl⟩ := pass_cons_eq_ok.mp h
    · obtain ⟨hz, hzs⟩ := ih hr
      exact ⟨hz.trans (hsize x y hg).symm, by simp [hzs, hsize x y hg]⟩
    · obtain ⟨hz, hzs⟩ := ih hr
      exact ⟨hz, by simp [hzs]⟩

/-- A round succeeds if the tests of elements of the carried size do. -/
lemma exists_pass_eq_ok (hsize : ∀ a b, greater a b = .ok true → size a = size b) {x : α}
    {ys : List α}
    (htest : ∀ a ∈ x :: ys, ∀ b ∈ ys, size a = size x → ∃ g, greater a b = .ok g) :
    ∃ z zs, pass greater x ys = .ok (z, zs) := by
  induction ys generalizing x with
  | nil => exact ⟨x, [], rfl⟩
  | cons y ys ih =>
    obtain ⟨g, hg⟩ := htest x (by simp) y (by simp) rfl
    cases g with
    | true =>
      obtain ⟨z, zs, hr⟩ := ih (x := y) fun a ha b hb hab =>
        htest a (List.mem_cons_of_mem x ha) b (List.mem_cons_of_mem y hb)
          (hab.trans (hsize x y hg).symm)
      exact ⟨z, x :: zs, pass_cons_eq_ok.mpr (Or.inl ⟨hg, zs, hr, rfl⟩)⟩
    | false =>
      obtain ⟨z, zs, hr⟩ := ih (x := x) fun a ha b hb hab =>
        htest a (List.cons_subset_cons x (List.subset_cons_self y ys) ha) b
          (List.mem_cons_of_mem y hb) hab
      exact ⟨z, y :: zs, pass_cons_eq_ok.mpr (Or.inr ⟨hg, zs, hr, rfl⟩)⟩

/-- All elements but the last have size `s`. -/
def UniformButLast (size : α → Nat) (s : Nat) (l : List α) : Prop :=
  ∀ n ∈ (l.map size).dropLast, n = s

lemma UniformButLast.head {s : Nat} {x y : α} {l : List α}
    (h : UniformButLast size s (x :: y :: l)) : size x = s :=
  h (size x) (by simp)

lemma UniformButLast.tail {s : Nat} {x : α} {l : List α} (h : UniformButLast size s (x :: l)) :
    UniformButLast size s l := by
  cases l with
  | nil => simp [UniformButLast]
  | cons y l =>
    intro n hn
    refine h n ?_
    rw [List.map_cons, List.map_cons, List.dropLast_cons_cons]
    exact List.mem_cons_of_mem _ hn

/-- The sort succeeds if the tests of elements of the common size do. -/
lemma exists_exchangeSort_eq_ok (size : α → Nat)
    (hsize : ∀ a b, greater a b = .ok true → size a = size b) {s n : Nat} {l : List α}
    (huniform : UniformButLast size s l)
    (htest : ∀ a ∈ l, ∀ b ∈ l, size a = s → ∃ g, greater a b = .ok g) :
    ∃ sorted, exchangeSort greater n l = .ok sorted := by
  induction n generalizing l with
  | zero => exact ⟨l, by cases l <;> rfl⟩
  | succ n ih =>
    cases l with
    | nil => exact ⟨[], rfl⟩
    | cons x rest =>
      cases rest with
      | nil => exact ⟨[x], exchangeSort_cons_eq_ok.mpr ⟨x, [], [], rfl, by simp, rfl⟩⟩
      | cons y ys =>
        have hx : size x = s := huniform.head
        obtain ⟨z, zs, hr⟩ := exists_pass_eq_ok hsize
          fun (a : α) (ha : a ∈ x :: y :: ys) b hb hab =>
            htest a ha b (List.mem_cons_of_mem x hb) (hab.trans hx)
        have hmem : ∀ a ∈ zs, a ∈ x :: y :: ys := fun a ha =>
          (pass_perm hr).mem_iff.mp (List.mem_cons_of_mem z ha)
        have hzs : UniformButLast size s zs := by
          rw [UniformButLast, (pass_size size hsize hr).2]
          exact huniform.tail
        obtain ⟨sorted, hs⟩ := ih hzs fun a ha b hb => htest a (hmem a ha) b (hmem b hb)
        exact ⟨z :: sorted, exchangeSort_cons_eq_ok.mpr ⟨z, zs, sorted, hr, hs, rfl⟩⟩

/-- A last element of another size is tested against the element the round ends with, and stays. -/
lemma pass_concat (hsize : ∀ a b, greater a b = .ok true → size a = size b) {x y z : α}
    {ys zs : List α} (hy : size x ≠ size y) (h : pass greater x (ys ++ [y]) = .ok (z, zs)) :
    greater z y = .ok false ∧ ∃ zs', pass greater x ys = .ok (z, zs') ∧ zs = zs' ++ [y] := by
  induction ys generalizing x z zs with
  | nil =>
    obtain ⟨hg, -⟩ | ⟨hg, zs', hr, rfl⟩ := pass_cons_eq_ok.mp h
    · exact absurd (hsize x y hg) hy
    · cases hr
      exact ⟨hg, [], rfl, rfl⟩
  | cons w ys ih =>
    obtain ⟨hg, zs', hr, rfl⟩ | ⟨hg, zs', hr, rfl⟩ := pass_cons_eq_ok.mp h
    · obtain ⟨hz, zs'', hr', rfl⟩ := ih (fun he => hy ((hsize x w hg).trans he)) hr
      exact ⟨hz, x :: zs'', pass_cons_eq_ok.mpr (Or.inl ⟨hg, zs'', hr', rfl⟩), rfl⟩
    · obtain ⟨hz, zs'', hr', rfl⟩ := ih hy hr
      exact ⟨hz, w :: zs'', pass_cons_eq_ok.mpr (Or.inr ⟨hg, zs'', hr', rfl⟩), rfl⟩

/-- Every other element is tested against a last element of another size. -/
lemma exchangeSort_concat (hsize : ∀ a b, greater a b = .ok true → size a = size b) {n : Nat}
    {y : α} {xs sorted : List α} (hn : xs.length ≤ n) (hy : ∀ a ∈ xs, size a ≠ size y)
    (h : exchangeSort greater n (xs ++ [y]) = .ok sorted) :
    ∀ a ∈ xs, greater a y = .ok false := by
  induction n generalizing xs sorted with
  | zero => simp [List.length_eq_zero_iff.mp (Nat.le_zero.mp hn)]
  | succ n ih =>
    cases xs with
    | nil => simp
    | cons x rest =>
      obtain ⟨z, zs, sorted', hr, hs, rfl⟩ := exchangeSort_cons_eq_ok.mp h
      obtain ⟨hz, zs', hr', rfl⟩ := pass_concat hsize (hy x (by simp)) hr
      have hperm := pass_perm hr'
      have hlength : zs'.length = rest.length := by simpa using hperm.length_eq
      have hrest := ih (by simp at hn; omega)
        (fun a ha => hy a (hperm.mem_iff.mp (List.mem_cons_of_mem z ha))) hs
      intro a ha
      obtain rfl | ha := List.mem_cons.mp (hperm.mem_iff.mpr ha)
      · exact hz
      · exact hrest a ha

end Sizes

end Halcyon.Lib
