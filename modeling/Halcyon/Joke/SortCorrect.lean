import Halcyon.Joke.SortBlocks
import Halcyon.Joke.Sublist
import Mathlib.Data.List.Pairwise

/-!
# When sorting is right

`Sort` is to return the blocks of a list in another order, ordered by their first elements where
those are integers, and the fast path is to do what the loop does.  Two things stand in the way.

The comparison of integers takes the sign of a difference in the arithmetic of `int`.  A difference
that does not fit in 32 bits has the wrong sign, so that the comparison is not an order at all.

The loop also compares with a last block that is shorter than the others.  When it exchanges that
block, it reads behind the end of the array.  Every other block is compared with the last one in
some round, so this happens exactly if one of them is to stand behind it.

`Sortable` excludes both, and asks of floats, vectors and rotations that they can be compared; then
`Sort` does what it is to do (`SortsWell`).
-/

namespace Halcyon.Joke

open Halcyon.Lib

/-! ## Integers -/

/-- The difference of two integers is one of the values of `int`. -/
def DifferenceFits (i k : BitVec 32) : Prop :=
  -2147483648 ≤ i.toInt - k.toInt ∧ i.toInt - k.toInt < 2147483648

variable {i k : BitVec 32}

lemma toInt_sub_of_fits (h : DifferenceFits i k) :
    (i - k).toInt = i.toInt - k.toInt := by
  obtain ⟨hle, hlt⟩ := h
  rw [BitVec.toInt_sub, Int.bmod_eq_of_le] <;> omega

/-- Two integers are in the requested order. -/
def InDirection (ascending : Int) (i k : BitVec 32) : Prop :=
  if ascending = 0 then k.toInt ≤ i.toInt else i.toInt ≤ k.toInt

lemma InDirection.refl (ascending : Int) (i : BitVec 32) : InDirection ascending i i := by
  unfold InDirection
  split <;> exact le_refl _

lemma InDirection.trans {ascending : Int} {m : BitVec 32} (h : InDirection ascending i k)
    (h' : InDirection ascending k m) : InDirection ascending i m := by
  unfold InDirection at *
  split_ifs at * <;> omega

lemma InDirection.antisymm {ascending : Int} (h : InDirection ascending i k)
    (h' : InDirection ascending k i) : i = k := by
  unfold InDirection at *
  refine BitVec.eq_of_toInt_eq ?_
  split_ifs at * <;> omega

lemma inDirection_zero : InDirection 0 i k ↔ InDirection 1 k i := by
  simp [InDirection]

section Compare

variable {F : Type} [FloatMath F]

/-- Integers are compared in the requested order as long as their differences fit. -/
lemma compare_int {ascending : Int} {i k : BitVec 32} (h : DifferenceFits i k) :
    ∃ c, compare ascending (Value.int i : Value F) (.int k) = .ok c ∧
      (c ≤ 0 ↔ InDirection ascending i k) ∧ (0 ≤ c ↔ InDirection ascending k i) := by
  refine ⟨if ascending = 0 then 0 - (i - k).toInt.sign else (i - k).toInt.sign, rfl, ?_⟩
  rw [toInt_sub_of_fits h]
  unfold InDirection
  rcases lt_trichotomy (i.toInt - k.toInt) 0 with hneg | hzero | hpos
  · rw [Int.sign_eq_neg_one_of_neg hneg]
    split_ifs <;> constructor <;> omega
  · rw [hzero, Int.sign_zero]
    split_ifs <;> constructor <;> omega
  · rw [Int.sign_eq_one_of_pos hpos]
    split_ifs <;> constructor <;> omega

/-! ## Strings -/

lemma compareUnits_nonpos_iff (us vs : List UInt16) :
    compareUnits us vs ≤ 0 ↔ 0 ≤ compareUnits vs us := by
  induction us generalizing vs with
  | nil => cases vs <;> simp only [compareUnits, List.length_cons, List.length_nil] <;> omega
  | cons u us ih =>
    cases vs with
    | nil => simp only [compareUnits, List.length_cons]; omega
    | cons v vs =>
      by_cases h : u = v
      · subst h
        simp [compareUnits, ih]
      · simp only [compareUnits, if_neg h, if_neg (Ne.symm h)]
        omega

lemma compareUnits_trans {us vs ws : List UInt16} (h : compareUnits us vs ≤ 0)
    (h' : compareUnits vs ws ≤ 0) : compareUnits us ws ≤ 0 := by
  induction us generalizing vs ws with
  | nil => cases ws <;> simp only [compareUnits] <;> omega
  | cons u us ih =>
    cases vs with
    | nil => simp only [compareUnits, List.length_cons] at h; omega
    | cons v vs =>
      cases ws with
      | nil => simp only [compareUnits, List.length_cons] at h'; omega
      | cons w ws =>
        simp only [compareUnits, ← UInt16.toNat_inj] at h h' ⊢
        split_ifs at h h' ⊢ <;> first | omega | exact ih h h'

/-! ## Arrays of one type -/

variable {l : List (Value F)}

/-- Integers whose differences fit are ordered totally. -/
lemma totalPreorderOn_int (hint : ∀ v ∈ l, ∃ i, v = .int i)
    (hfits : ∀ i k, Value.int i ∈ l → Value.int k ∈ l → DifferenceFits i k) :
    TotalPreorderOn (compare 1) l := by
  refine TotalPreorderOn.of_rel
    (R := fun a b => ∀ i k, a = .int i → b = .int k → InDirection 1 i k) ?_ ?_
  · intro a ha b hb
    obtain ⟨i, rfl⟩ := hint a ha
    obtain ⟨k, rfl⟩ := hint b hb
    obtain ⟨c, hc, hle, hge⟩ := compare_int (F := F) (hfits i k ha hb)
    refine ⟨c, hc, hle.trans ⟨?_, fun h => h i k rfl rfl⟩, hge.trans ⟨?_, fun h => h k i rfl rfl⟩⟩
    · rintro h _ _ ⟨⟩ ⟨⟩
      exact h
    · rintro h _ _ ⟨⟩ ⟨⟩
      exact h
  · rintro a - b hb c - hab hbc i m rfl rfl
    obtain ⟨k, rfl⟩ := hint b hb
    exact (hab i k rfl rfl).trans (hbc k m rfl rfl)

lemma totalPreorderOn_string (hstring : ∀ v ∈ l, ∃ s, v = .string s) :
    TotalPreorderOn (compare 1) l := by
  refine TotalPreorderOn.of_rel
    (R := fun a b => ∀ s t, a = .string s → b = .string t → compareOrdinal s t ≤ 0) ?_ ?_
  · intro a ha b hb
    obtain ⟨s, rfl⟩ := hstring a ha
    obtain ⟨t, rfl⟩ := hstring b hb
    refine ⟨compareOrdinal s t, rfl, ⟨?_, fun h => h s t rfl rfl⟩, ⟨?_, fun h => ?_⟩⟩
    · rintro h _ _ ⟨⟩ ⟨⟩
      exact h
    · rintro h _ _ ⟨⟩ ⟨⟩
      exact (compareUnits_nonpos_iff _ _).mpr h
    · exact (compareUnits_nonpos_iff _ _).mp (h t s rfl rfl)
  · rintro a - b hb c - hab hbc s u rfl rfl
    obtain ⟨t, rfl⟩ := hstring b hb
    exact compareUnits_trans (hab s t rfl rfl) (hbc t u rfl rfl)

lemma totalPreorderOn_list (hlist : ∀ v ∈ l, ∃ m, v = .list m) :
    TotalPreorderOn (compare 1) l := by
  refine TotalPreorderOn.of_rel (R := fun _ _ => True) ?_ fun _ _ _ _ _ _ _ _ => trivial
  intro a ha b hb
  obtain ⟨m, rfl⟩ := hlist a ha
  obtain ⟨n, rfl⟩ := hlist b hb
  exact ⟨0, rfl, by simp, by simp⟩

end Compare

/-! ## The loop -/

section Blocks

variable {F : Type} [FloatMath F]

/-- All blocks start with an integer. -/
def IntLeads (bs : List (List (Value F))) : Prop := ∀ b ∈ bs, ∃ i, b.head? = some (.int i)

/-- The integers two blocks start with are in the requested order. -/
def LeadsInOrder (ascending : Int) (x y : List (Value F)) : Prop :=
  ∀ i k, x.head? = some (.int i) → y.head? = some (.int k) → InDirection ascending i k

/-- The blocks can be sorted by the loop: their first elements can be compared, none is to stand
behind a shorter one, and the differences of integers fit. -/
structure SortableBlocks (ascending : Int) (bs : List (List (Value F))) : Prop where
  comparable : ∀ x ∈ bs, ∀ y ∈ bs, ∀ a b, x.head? = some a → y.head? = some b →
    ∃ c, compare ascending a b = .ok c
  whole : ∀ x ∈ bs, ∀ y ∈ bs, y.length < x.length → ∀ a b, x.head? = some a → y.head? = some b →
    Comparer.Le (compare ascending) a b
  fits : ∀ x ∈ bs, ∀ y ∈ bs, ∀ i k, x.head? = some (.int i) → y.head? = some (.int k) →
    DifferenceFits i k

variable {ascending : Int}

lemma SortableBlocks.decides {bs : List (List (Value F))} (h : SortableBlocks ascending bs)
    (hint : IntLeads bs) :
    Decides (blockGreater (compare ascending)) (LeadsInOrder ascending) bs where
  refl x _ := by
    intro i k hi hk
    obtain rfl : i = k := by simpa [hi] using hk
    exact InDirection.refl ascending i
  trans x _ y hy z _ hxy hyz := by
    intro i m hi hm
    obtain ⟨k, hk⟩ := hint y hy
    exact (hxy i k hi hk).trans (hyz k m hk hm)
  swap x hx y hy hg := by
    intro k i hk hi
    obtain ⟨a, b, c, ha, hb, hc, hpos, -⟩ := of_blockGreater_eq_ok hg
    obtain rfl : a = .int i := by simpa [ha] using hi
    obtain rfl : b = .int k := by simpa [hb] using hk
    obtain ⟨c', hc', -, hge⟩ := compare_int (F := F) (h.fits x hx y hy i k hi hk)
    obtain rfl : c = c' := Except.ok.inj (hc.symm.trans hc')
    have hlt : 0 < c := by simpa using hpos.symm
    exact hge.mp (le_of_lt hlt)
  keep x hx y hy hg := by
    intro i k hi hk
    obtain ⟨a, b, c, ha, hb, hc, hpos, -⟩ := of_blockGreater_eq_ok hg
    obtain rfl : a = .int i := by simpa [ha] using hi
    obtain rfl : b = .int k := by simpa [hb] using hk
    obtain ⟨c', hc', hle, -⟩ := compare_int (F := F) (h.fits x hx y hy i k hi hk)
    obtain rfl : c = c' := Except.ok.inj (hc.symm.trans hc')
    have hnlt : ¬ 0 < c := by simpa using hpos.symm
    exact hle.mp (not_lt.mp hnlt)

/-- The loop returns the blocks in another order, and in the requested one. -/
lemma bubbleSort_eq_ok {stride : Nat} (hpos : 0 < stride) {data : List (Value F)}
    (h : SortableBlocks ascending (chunks stride data)) :
    ∃ bs : List (List (Value F)),
      bubbleSort (compare ascending) stride data = .ok bs.flatten ∧
      bs.Perm (chunks stride data) ∧
      (IntLeads (chunks stride data) → bs.Pairwise (LeadsInOrder ascending)) := by
  have hsizes := blockSizes_chunks hpos data
  have htest : ∀ x ∈ chunks stride data, ∀ y ∈ chunks stride data, x.length = stride →
      ∃ g, blockGreater (compare ascending) x y = .ok g := by
    intro x hx y hy hfull
    obtain ⟨a, ha⟩ := hsizes.exists_head hx
    obtain ⟨b, hb⟩ := hsizes.exists_head hy
    obtain ⟨c, hc⟩ := h.comparable x hx y hy a b ha hb
    rw [blockGreater_eq_ok ha hb hc]
    by_cases hlt : 0 < c
    · have hlen : x.length = y.length := by
        by_contra hne
        have hshort : y.length < x.length := by
          have := (hsizes.of_mem hy).2
          omega
        obtain ⟨c', hc', hle⟩ := h.whole x hx y hy hshort a b ha hb
        obtain rfl : c = c' := Except.ok.inj (hc.symm.trans hc')
        omega
      exact ⟨true, by rw [if_pos hlt, if_pos hlen]⟩
    · exact ⟨false, by rw [if_neg hlt]⟩
  obtain ⟨bs, hbs⟩ := exists_exchangeSort_eq_ok List.length
    (fun _ _ => length_eq_of_blockGreater) hsizes.uniform htest
  refine ⟨bs, ?_, exchangeSort_perm hbs, fun hint => ?_⟩
  · rw [bubbleSort_eq hpos, hbs, ok_bind]
  · exact exchangeSort_pairwise (le_refl _) (h.decides hint) hbs

/-- The loop succeeds only if no block is to stand behind a shorter one. -/
lemma whole_of_bubbleSort {stride : Nat} (hpos : 0 < stride) {data ret : List (Value F)}
    (h : bubbleSort (compare ascending) stride data = .ok ret) :
    ∀ x ∈ chunks stride data, ∀ y ∈ chunks stride data, y.length < x.length →
      ∀ a b, x.head? = some a → y.head? = some b → Comparer.Le (compare ascending) a b := by
  intro x hx y hy hlt a b ha hb
  rw [bubbleSort_eq hpos] at h
  obtain ⟨sorted, hsorted, -⟩ := bind_eq_ok.mp h
  obtain ⟨xs, hxs, hxin, hsizes⟩ := (blockSizes_chunks hpos data).eq_concat hx hy hlt
  rw [hxs] at hsorted
  have hsize : ∀ p q : List (Value F), blockGreater (compare ascending) p q = .ok true →
      p.length = q.length := fun _ _ => length_eq_of_blockGreater
  have htested := exchangeSort_concat hsize (by simp) hsizes hsorted x hxin
  obtain ⟨a', b', c, ha', hb', hc, hle, -⟩ := of_blockGreater_eq_ok htested
  obtain rfl : a = a' := Option.some.inj (ha.symm.trans ha')
  obtain rfl : b = b' := Option.some.inj (hb.symm.trans hb')
  have hnlt : ¬ 0 < c := by simpa using hle.symm
  exact ⟨c, hc, not_lt.mp hnlt⟩

end Blocks

namespace LSLList

variable {F : Type} {ascending : Int} {data : List (Value F)}

/-! ## Arrays of integers -/

/-- Two integers are in the requested order. -/
def ValuesInOrder (ascending : Int) (a b : Value F) : Prop :=
  ∀ i k, a = .int i → b = .int k → InDirection ascending i k

variable {a b : Value F}

lemma ValuesInOrder.antisymm (hint : ∃ i, a = .int i) (hint' : ∃ k, b = .int k)
    (h : ValuesInOrder ascending a b) (h' : ValuesInOrder ascending b a) : a = b := by
  obtain ⟨i, rfl⟩ := hint
  obtain ⟨k, rfl⟩ := hint'
  rw [(h i k rfl rfl).antisymm (h' k i rfl rfl)]

lemma valuesInOrder_flip (h : ValuesInOrder 1 a b) : ValuesInOrder 0 b a :=
  fun i k hi hk => inDirection_zero.mpr (h k i hk hi)

lemma valuesInOrder_of_ne (hne : ascending ≠ 0) (h : ValuesInOrder 1 a b) :
    ValuesInOrder ascending a b := by
  intro i k hi hk
  have := h i k hi hk
  simpa [InDirection, hne] using this

/-- Every element is an integer, and the differences fit. -/
structure Integers (data : List (Value F)) : Prop where
  int : ∀ v ∈ data, ∃ i, v = .int i
  fits : ∀ i k, Value.int i ∈ data → Value.int k ∈ data → DifferenceFits i k

lemma intLeads_chunks_one : IntLeads (chunks 1 data) ↔ ∀ v ∈ data, ∃ i, v = .int i := by
  rw [chunks_one]
  simp [IntLeads]

lemma pairwise_singletons {ret : List (Value F)} :
    (ret.map fun v => [v]).Pairwise (LeadsInOrder ascending) ↔
      ret.Pairwise (ValuesInOrder ascending) := by
  rw [List.pairwise_map]
  refine ⟨fun h => h.imp fun hab i k hi hk => hab i k (by rw [hi]; rfl) (by rw [hk]; rfl),
    fun h => h.imp fun hab i k hi hk => hab i k (by simpa using hi) (by simpa using hk)⟩

lemma homogeneous_of_int (hint : ∀ v ∈ data, ∃ i, v = .int i) : homogeneous data = true := by
  cases data with
  | nil => rfl
  | cons w ws =>
    rw [homogeneous, List.all_eq_true]
    intro v hv
    obtain ⟨i, rfl⟩ := hint v (List.mem_cons_of_mem w hv)
    obtain ⟨k, rfl⟩ := hint w (List.mem_cons_self ..)
    rfl

lemma members_of_ofArray {ret : List (Value F)} {r : LSLList F} (h : ofArray ret = .ok r) :
    r.members = ret := by
  rw [ofArray, make] at h
  split_ifs at h
  cases h
  rfl

/-! ## The fast path -/

variable [FloatMath F] {arraySort : ArraySort F}

/-- The fast path returns a permutation, and integers in the requested order. -/
lemma fastSort_eq_ok (ascending : Int) (hsort : IsSort arraySort)
    (h : TotalPreorderOn (compare 1) data) :
    ∃ ret, fastSort arraySort ascending data = .ok ret ∧ ret.Perm data ∧
      (Integers data → ret.Pairwise (ValuesInOrder ascending)) := by
  obtain ⟨sorted, hs, hperm, hpairwise⟩ := hsort (compare 1) data h
  have horder : Integers data → sorted.Pairwise (ValuesInOrder 1) := by
    rintro ⟨hint, hfits⟩
    refine hpairwise.imp_of_mem fun {a b} ha hb hle => ?_
    rintro i k rfl rfl
    obtain ⟨c, hc, hiff, -⟩ :=
      compare_int (F := F) (hfits i k (hperm.mem_iff.mp ha) (hperm.mem_iff.mp hb))
    obtain ⟨c', hc', hnonpos⟩ := hle
    obtain rfl : c = c' := Except.ok.inj (hc.symm.trans hc')
    exact hiff.mp hnonpos
  by_cases hasc : ascending = 0
  · subst hasc
    refine ⟨sorted.reverse, by simp [fastSort, hs], (List.reverse_perm _).trans hperm, ?_⟩
    intro hints
    rw [List.pairwise_reverse]
    exact (horder hints).imp valuesInOrder_flip
  · refine ⟨sorted, by simp [fastSort, hs, hasc], hperm, fun hints => ?_⟩
    exact (horder hints).imp (valuesInOrder_of_ne hasc)

/-- The elements of a homogeneous array are ordered totally: strings always, integers if their
differences fit, and the types that are compared as floats by assumption. -/
lemma totalPreorderOn_of_homogeneous (hhom : homogeneous data = true)
    (hfits : ∀ i k, Value.int i ∈ data → Value.int k ∈ data → DifferenceFits i k)
    (hfloats : ∀ t ∈ [VarType.float, .vector, .rotation], (∀ v ∈ data, v.varType = t) →
      TotalPreorderOn (compare 1) data) : TotalPreorderOn (compare 1) data := by
  cases data with
  | nil => exact ⟨by simp, by simp⟩
  | cons w ws =>
    have htype : ∀ v ∈ w :: ws, v.varType = w.varType := by
      intro v hv
      obtain rfl | hv := List.mem_cons.mp hv
      · rfl
      · rw [homogeneous, List.all_eq_true] at hhom
        exact (beq_iff_eq.mp (hhom v hv)).symm
    cases w with
    | int i =>
      refine totalPreorderOn_int (fun v hv => ?_) hfits
      have hv' := htype v hv
      cases v <;> simp [Value.varType] at hv' ⊢
    | float x => exact hfloats .float (by simp) htype
    | string s =>
      refine totalPreorderOn_string fun v hv => ?_
      have hv' := htype v hv
      cases v <;> simp [Value.varType] at hv' ⊢
    | vector v => exact hfloats .vector (by simp) htype
    | rotation q => exact hfloats .rotation (by simp) htype
    | list m =>
      refine totalPreorderOn_list fun v hv => ?_
      have hv' := htype v hv
      cases v <;> simp [Value.varType] at hv' ⊢

/-! ## `Sort` -/

/-- What `Sort` is to do: return the blocks of the list in another order, in the requested one if
all of them start with an integer, and do for integers with stride one what the loop does. -/
def SortsWell (arraySort : ArraySort F) (l : LSLList F) (stride ascending : Int) : Prop :=
  ∃ (r : LSLList F) (bs : List (List (Value F))),
    sort arraySort l stride ascending = .ok r ∧ r.members = bs.flatten ∧
    bs.Perm (chunks (strideOf stride) l.members) ∧
    (IntLeads (chunks (strideOf stride) l.members) → bs.Pairwise (LeadsInOrder ascending)) ∧
    (strideOf stride = 1 → IntLeads (chunks 1 l.members) →
      fastSort arraySort ascending l.members = bubbleSort (compare ascending) 1 l.members)

/-- The lists that are sorted well. -/
structure Sortable (l : LSLList F) (stride ascending : Int) : Prop where
  blocks : SortableBlocks ascending (chunks (strideOf stride) l.members)
  floats : strideOf stride = 1 → ∀ t ∈ [VarType.float, .vector, .rotation],
    (∀ v ∈ l.members, v.varType = t) → TotalPreorderOn (compare 1) l.members

lemma SortableBlocks.fits_one (h : SortableBlocks ascending (chunks 1 data)) (i k : BitVec 32)
    (hi : Value.int i ∈ data) (hk : Value.int k ∈ data) : DifferenceFits i k := by
  have hmem : ∀ v ∈ data, [v] ∈ chunks 1 data := by
    intro v hv
    rw [chunks_one]
    exact List.mem_map_of_mem hv
  exact h.fits _ (hmem _ hi) _ (hmem _ hk) i k rfl rfl

/-- For integers whose differences fit, both ways of sorting give the one list that is in order. -/
lemma fastSort_eq_bubbleSort (hsort : IsSort arraySort)
    (h : SortableBlocks ascending (chunks 1 data)) (hint : IntLeads (chunks 1 data)) :
    fastSort arraySort ascending data = bubbleSort (compare ascending) 1 data := by
  have hvalues := intLeads_chunks_one.mp hint
  have hints : Integers data := ⟨hvalues, SortableBlocks.fits_one h⟩
  obtain ⟨ret, hret, hperm, horder⟩ :=
    fastSort_eq_ok ascending hsort (totalPreorderOn_int hvalues hints.fits)
  obtain ⟨bs, hbs, hbsPerm, hbsOrder⟩ := bubbleSort_eq_ok Nat.one_pos h
  have horder' : bs.flatten.Pairwise (ValuesInOrder ascending) := by
    rw [← pairwise_singletons, ← eq_map_singleton_of_perm hbsPerm]
    exact hbsOrder hint
  have hperm' : bs.flatten.Perm data := by simpa using hbsPerm.flatten
  have hmem : ∀ v ∈ ret, ∃ i, v = .int i := fun v hv => hvalues v (hperm.mem_iff.mp hv)
  have hmem' : ∀ v ∈ bs.flatten, ∃ i, v = .int i := fun v hv => hvalues v (hperm'.mem_iff.mp hv)
  rw [hret, hbs]
  congr 1
  exact List.Perm.eq_of_pairwise
    (fun a b ha hb hab hba => hab.antisymm (hmem a ha) (hmem' b hb) hba)
    (horder hints) horder' (hperm.trans hperm'.symm)

variable {l : LSLList F} {stride : Int}

/-- A list that can be sorted is sorted well. -/
lemma Sortable.sortsWell (h : Sortable l stride ascending) (hl : l.Consistent)
    (hsort : IsSort arraySort) : SortsWell arraySort l stride ascending := by
  have hpath : strideOf stride = 1 → IntLeads (chunks 1 l.members) →
      fastSort arraySort ascending l.members = bubbleSort (compare ascending) 1 l.members := by
    intro hone hint
    have hblocks := h.blocks
    rw [hone] at hblocks
    exact fastSort_eq_bubbleSort hsort hblocks hint
  unfold SortsWell sort
  rw [hl.data_eq]
  by_cases hempty : l.members.length = 0
  · refine ⟨empty, [], if_pos hempty, rfl, ?_, fun _ => List.Pairwise.nil, hpath⟩
    rw [List.length_eq_zero_iff.mp hempty, chunks_nil]
  rw [if_neg hempty]
  by_cases hfast : strideOf stride = 1 ∧ homogeneous l.members = true
  · obtain ⟨hone, hhom⟩ := hfast
    have hblocks := h.blocks
    rw [hone] at hblocks
    have hfits := SortableBlocks.fits_one hblocks
    obtain ⟨ret, hret, hperm, horder⟩ := fastSort_eq_ok ascending hsort
      (totalPreorderOn_of_homogeneous hhom hfits (h.floats hone))
    obtain ⟨r, hr, hmembers, -⟩ := hl.ofArray (Value.memSizes_perm hperm).le
    refine ⟨r, ret.map fun v => [v], ?_, ?_, ?_, ?_, hpath⟩
    · rw [if_pos ⟨hone, hhom⟩, hret, ok_bind, hr]
    · rw [hmembers, ← List.flatMap_def, List.flatMap_singleton']
    · rw [hone, chunks_one]
      exact hperm.map _
    · rw [hone, pairwise_singletons]
      exact fun hint => horder ⟨intLeads_chunks_one.mp hint, hfits⟩
  · obtain ⟨bs, hbs, hperm, horder⟩ := bubbleSort_eq_ok (strideOf_pos stride) h.blocks
    have hflatten : bs.flatten.Perm l.members := by simpa using hperm.flatten
    obtain ⟨r, hr, hmembers, -⟩ := hl.ofArray (Value.memSizes_perm hflatten).le
    refine ⟨r, bs, ?_, hmembers, hperm, horder, hpath⟩
    rw [if_neg hfast, hbs, ok_bind, hr]

/-! ## What cannot be left out -/

/-- A list that is sorted has no block that is to stand behind a shorter one. -/
lemma SortsWell.whole (h : SortsWell arraySort l stride ascending) (hl : l.Consistent) :
    ∀ x ∈ chunks (strideOf stride) l.members, ∀ y ∈ chunks (strideOf stride) l.members,
      y.length < x.length → ∀ a b, x.head? = some a → y.head? = some b →
      Comparer.Le (compare ascending) a b := by
  obtain ⟨r, -, hr, -⟩ := h
  rw [sort, hl.data_eq] at hr
  by_cases hempty : l.members.length = 0
  · simp [List.length_eq_zero_iff.mp hempty]
  rw [if_neg hempty] at hr
  by_cases hfast : strideOf stride = 1 ∧ homogeneous l.members = true
  · intro x hx y hy hlt
    have hsizes := blockSizes_chunks (strideOf_pos stride) l.members
    have hx' := (hsizes.of_mem hx).2
    have hy' := List.length_pos_of_ne_nil (hsizes.of_mem hy).1
    omega
  · rw [if_neg hfast] at hr
    obtain ⟨ret, hret, -⟩ := bind_eq_ok.mp hr
    exact whole_of_bubbleSort (strideOf_pos stride) hret

/-- Integers whose difference does not fit are never in their own order for the comparison, if that
is a total preorder at all. -/
lemma not_le_of_not_fits {i k : BitVec 32} (h : ¬ DifferenceFits i k) (hle : k.toInt ≤ i.toInt)
    (htotal : TotalPreorderOn (compare 1) data) (hi : Value.int i ∈ data)
    (hk : Value.int k ∈ data) : ¬ Comparer.Le (compare 1) (Value.int k : Value F) (.int i) := by
  rintro ⟨c, hc, hnonpos⟩
  obtain ⟨c', d, hc', hd, hiff⟩ := htotal.total _ hk _ hi
  obtain rfl : c = c' := Except.ok.inj (hc.symm.trans hc')
  obtain rfl : (k - i).toInt.sign = c := Except.ok.inj hc
  obtain rfl : (i - k).toInt.sign = d := Except.ok.inj hd
  have hki : (k - i).toInt = (k.toInt - i.toInt).bmod (2 ^ 32) := BitVec.toInt_sub
  have hik : (i - k).toInt = (i.toInt - k.toInt).bmod (2 ^ 32) := BitVec.toInt_sub
  have hlt : i.toInt < 2 ^ 31 := i.toInt_lt
  have hge : -2 ^ 31 ≤ k.toInt := k.le_toInt
  unfold DifferenceFits at h
  rw [Int.bmod_def] at hki hik
  have hneg : (k - i).toInt ≤ 0 := Int.sign_nonpos_iff.mp hnonpos
  have hpos : 0 ≤ (i - k).toInt := Int.sign_nonneg_iff.mp (hiff.mp hnonpos)
  split_ifs at hki hik <;> omega

/-- What the sort that fails for other comparers returned, when `Sort` has put integers in the
requested order with it. -/
lemma exists_sorted_of_sortsWell (hl : l.Consistent) (hone : strideOf stride = 1)
    (hne : l.members.length ≠ 0) (hint : ∀ v ∈ l.members, ∃ i, v = .int i)
    (h : SortsWell (exchangeOr .invalidOperation) l stride ascending) :
    ∃ sorted : List (Value F), TotalPreorderOn (compare 1) l.members ∧ sorted.Perm l.members ∧
      sorted.Pairwise fun a b => Comparer.Le (compare 1) a b ∧ ValuesInOrder 1 a b := by
  obtain ⟨r, bs, hr, hmembers, hperm, horder, -⟩ := h
  rw [sort, hl.data_eq, if_neg hne, if_pos ⟨hone, homogeneous_of_int hint⟩] at hr
  obtain ⟨ret, hret, harray⟩ := bind_eq_ok.mp hr
  obtain ⟨sorted, hsorted, heq⟩ := bind_eq_ok.mp hret
  obtain ⟨hpre, hsortedPerm, hpairwise⟩ := exchangeOr_eq_ok hsorted
  rw [hone] at hperm horder
  have hflatten : bs.flatten = ret := hmembers.symm.trans (members_of_ofArray harray)
  have hordered : ret.Pairwise (ValuesInOrder ascending) := by
    rw [← pairwise_singletons, ← hflatten, ← eq_map_singleton_of_perm hperm]
    exact horder (intLeads_chunks_one.mpr hint)
  refine ⟨sorted, hpre, hsortedPerm, hpairwise.and ?_⟩
  by_cases hasc : ascending = 0
  · obtain rfl : sorted.reverse = ret := by simpa [hasc] using heq
    subst hasc
    rw [List.pairwise_reverse] at hordered
    exact hordered.imp fun hba i k hi hk => inDirection_zero.mp (hba k i hk hi)
  · obtain rfl : sorted = ret := by simpa [hasc] using heq
    refine hordered.imp fun hab i k hi hk => ?_
    simpa [InDirection, hasc] using hab i k hi hk

/-- Integers sorted with stride one by every correct sort have differences that fit. -/
lemma fits_of_sortsWell (hl : l.Consistent) (hone : strideOf stride = 1)
    (hint : ∀ v ∈ l.members, ∃ i, v = .int i)
    (h : SortsWell (exchangeOr .invalidOperation) l stride ascending) :
    ∀ i k, Value.int i ∈ l.members → Value.int k ∈ l.members → DifferenceFits i k := by
  have hlarger : ∀ i k, Value.int i ∈ l.members → Value.int k ∈ l.members →
      k.toInt ≤ i.toInt → DifferenceFits i k := by
    intro i k hi hk hle
    by_contra hnot
    have hne : l.members.length ≠ 0 := (List.length_pos_of_mem hi).ne'
    obtain ⟨sorted, hpre, hperm, hpairwise⟩ := exists_sorted_of_sortsWell hl hone hne hint h
    let either (a b : Value F) : Prop := (Comparer.Le (compare 1) a b ∧ ValuesInOrder 1 a b) ∨
      (Comparer.Le (compare 1) b a ∧ ValuesInOrder 1 b a)
    have : Std.Symm either := ⟨fun _ _ => Or.symm⟩
    have heither : sorted.Pairwise either := hpairwise.imp Or.inl
    have hdiffer : Value.int i ≠ (Value.int k : Value F) := by
      rintro ⟨⟩
      exact hnot ⟨by omega, by omega⟩
    obtain ⟨-, hik⟩ | ⟨hki, -⟩ :=
      heither.forall (hperm.mem_iff.mpr hi) (hperm.mem_iff.mpr hk) hdiffer
    · have hge : i.toInt ≤ k.toInt := by simpa [InDirection] using hik i k rfl rfl
      exact hnot ⟨by omega, by omega⟩
    · exact not_le_of_not_fits hnot hle hpre hi hk hki
  intro i k hi hk
  rcases le_total k.toInt i.toInt with hle | hle
  · exact hlarger i k hi hk hle
  · have hflip := hlarger k i hk hi hle
    unfold DifferenceFits at hflip ⊢
    omega

lemma chunks_sampleList : chunks 2 sampleList.members = [[.int 1, .int 2], [.int 3]] := by
  simp [chunks_cons, sampleList]

lemma sortable_sampleList : Sortable sampleList 2 1 where
  blocks := by
    rw [show strideOf 2 = 2 from rfl, chunks_sampleList]
    constructor
    · simp [compare, compareSame, Value.varType]
    · intro x hx y hy hlt a b ha hb
      simp only [List.mem_cons, List.not_mem_nil, or_false] at hx hy
      rcases hx with rfl | rfl <;> rcases hy with rfl | rfl
      · simp at hlt
      · cases ha
        cases hb
        exact ⟨_, rfl, by decide⟩
      · simp at hlt
      · simp at hlt
    · simp [DifferenceFits]
  floats h := absurd h (by decide)

end LSLList

end Halcyon.Joke
