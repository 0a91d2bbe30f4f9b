import Halcyon.Lib.Dict
import Mathlib.Data.List.Dedup
import Mathlib.Data.List.Induction

/-!
# Distinct elements, and lists ordered by a key

`firsts l` has the elements of a list without repetitions, in the order in which they come first:
what a program has that adds an element to a list unless it is known.  A later element never moves
an earlier one, so its position is known as soon as it is added (`idxOf_firsts_append`), and a
dictionary can keep it (`Numbering`).

In a list that is ordered by a key, the elements with one key stand together, behind those with a
smaller key (`ordered_split`); `slice_eq_filter` finds them by counting.
-/

namespace Halcyon.Lib

variable {α : Type} [DecidableEq α]

/-- Adds an element that is not there yet. -/
def insertNew (l : List α) (a : α) : List α := if a ∈ l then l else l ++ [a]

/-- The distinct elements, in the order of their first occurrence. -/
def firsts (l : List α) : List α := l.foldl insertNew []

section Firsts

variable {l l' : List α} {a : α}

@[simp] lemma firsts_nil : firsts ([] : List α) = [] := rfl

lemma firsts_concat : firsts (l ++ [a]) = insertNew (firsts l) a := List.foldl_append

lemma mem_insertNew {b : α} : b ∈ insertNew l a ↔ b ∈ l ∨ b = a := by
  unfold insertNew
  split_ifs with h
  · refine ⟨.inl, ?_⟩
    rintro (hb | rfl)
    · exact hb
    · exact h
  · rw [List.mem_append, List.mem_singleton]

lemma insertNew_ne_nil : insertNew l a ≠ [] :=
  List.ne_nil_of_mem (mem_insertNew.mpr (.inr rfl))

@[simp] lemma mem_firsts {b : α} : b ∈ firsts l ↔ b ∈ l := by
  induction l using List.reverseRecOn with
  | nil => exact Iff.rfl
  | append_singleton l a ih =>
    rw [firsts_concat, mem_insertNew, ih, List.mem_append, List.mem_singleton]

lemma firsts_concat_of_mem (h : a ∈ l) : firsts (l ++ [a]) = firsts l := by
  rw [firsts_concat, insertNew, if_pos (mem_firsts.mpr h)]

lemma firsts_concat_of_not_mem (h : a ∉ l) : firsts (l ++ [a]) = firsts l ++ [a] := by
  rw [firsts_concat, insertNew, if_neg (mt mem_firsts.mp h)]

lemma nodup_firsts (l : List α) : (firsts l).Nodup := by
  induction l using List.reverseRecOn with
  | nil => exact List.nodup_nil
  | append_singleton l a ih =>
    by_cases h : a ∈ l
    · rw [firsts_concat_of_mem h]
      exact ih
    · rw [firsts_concat_of_not_mem h, List.nodup_append]
      refine ⟨ih, List.nodup_singleton a, ?_⟩
      rintro b hb c hc rfl
      rw [List.mem_singleton.mp hc] at hb
      exact h (mem_firsts.mp hb)

lemma firsts_sublist (l : List α) : (firsts l).Sublist l := by
  induction l using List.reverseRecOn with
  | nil => exact List.Sublist.refl _
  | append_singleton l a ih =>
    by_cases h : a ∈ l
    · rw [firsts_concat_of_mem h]
      exact ih.trans (List.sublist_append_left l [a])
    · rw [firsts_concat_of_not_mem h]
      exact ih.append (List.Sublist.refl _)

lemma firsts_prefix (l l' : List α) : firsts l <+: firsts (l ++ l') := by
  induction l' using List.reverseRecOn with
  | nil =>
    simp only [List.append_nil, List.prefix_rfl]
  | append_singleton l' a ih =>
    rw [← List.append_assoc, firsts_concat]
    refine ih.trans ?_
    unfold insertNew
    split_ifs
    · exact List.prefix_refl _
    · exact List.prefix_append _ _

/-- Elements that are known add nothing. -/
lemma firsts_append_of_subset (h : ∀ b ∈ l', b ∈ l) : firsts (l ++ l') = firsts l := by
  induction l' using List.reverseRecOn with
  | nil => rw [List.append_nil]
  | append_singleton l' a ih =>
    have ha : a ∈ l ++ l' :=
      List.mem_append_left _ (h a (List.mem_append_right _ List.mem_cons_self))
    rw [← List.append_assoc, firsts_concat_of_mem ha]
    exact ih fun b hb => h b (List.mem_append_left _ hb)

/-- The position of an element stays the same. -/
lemma idxOf_firsts_append (h : a ∈ l) (l' : List α) :
    (firsts (l ++ l')).idxOf a = (firsts l).idxOf a := by
  obtain ⟨t, ht⟩ := firsts_prefix l l'
  rw [← ht, List.idxOf_append_of_mem (mem_firsts.mpr h)]

lemma length_firsts (l : List α) : (firsts l).length = l.dedup.length := by
  refine List.Perm.length_eq ((List.perm_ext_iff_of_nodup (nodup_firsts l) l.nodup_dedup).mpr ?_)
  intro a
  rw [mem_firsts, List.mem_dedup]

lemma idxOf_firsts_concat_of_not_mem (h : a ∉ l) :
    (firsts (l ++ [a])).idxOf a = (firsts l).length := by
  rw [firsts_concat_of_not_mem h, List.idxOf_append_of_notMem (mt mem_firsts.mp h),
    List.idxOf_cons_self, Nat.add_zero]

end Firsts

/-! ## Numbering the distinct elements -/

section Numbering

variable {κ β : Type} [DecidableEq κ] {key : α → κ} {g : Nat → β} {d : Dict κ β} {l : List α} {a : α}

/-- A dictionary that has the position of every element among the distinct ones, as the program
keeps it (`g`), under its key. -/
def Numbering (key : α → κ) (g : Nat → β) (d : Dict κ β) (l : List α) : Prop :=
  ∀ a, d.get? (key a) = if a ∈ l then some (g ((firsts l).idxOf a)) else none

lemma Numbering.of_mem (h : Numbering key g d l) (ha : a ∈ l) : Numbering key g d (l ++ [a]) := by
  intro b
  rw [h b, firsts_concat_of_mem ha]
  have hmem : b ∈ l ++ [a] ↔ b ∈ l := by
    rw [List.mem_append, List.mem_singleton]
    refine ⟨?_, .inl⟩
    rintro (hb | rfl)
    · exact hb
    · exact ha
  simp only [hmem]

lemma Numbering.add (hkey : Function.Injective key) (h : Numbering key g d l) (a : α) :
    Numbering key g (d.add (key a) (g (firsts l).length)) (l ++ [a]) := by
  intro b
  rw [Dict.get?_add, h b]
  by_cases hb : b ∈ l
  · rw [if_pos hb, if_pos (List.mem_append_left _ hb), idxOf_firsts_append hb, Option.some_or]
  · rw [if_neg hb, Option.none_or]
    by_cases hab : a = b
    · subst hab
      rw [if_pos rfl, if_pos (List.mem_append_right _ List.mem_cons_self),
        idxOf_firsts_concat_of_not_mem hb]
    · rw [if_neg (hkey.ne hab), if_neg]
      rw [List.mem_append, List.mem_singleton, not_or]
      exact ⟨hb, fun h => hab h.symm⟩

end Numbering

/-! ## Lists ordered by a key -/

section Ordered

omit [DecidableEq α]

variable {key : α → Nat} {l : List α} (m : Nat)

/-- The list is ordered by its keys. -/
abbrev Ordered (key : α → Nat) (l : List α) : Prop := l.Pairwise fun a b => key a ≤ key b

/-- The elements with smaller keys, those with the key, and those with larger keys. -/
lemma ordered_split (h : Ordered key l) :
    l = l.filter (fun a => key a < m) ++ (l.filter (fun a => key a = m) ++
      l.filter (fun a => m < key a)) := by
  induction l with
  | nil => rfl
  | cons a l ih =>
    obtain ⟨ha, hl⟩ := List.pairwise_cons.mp h
    have ih := ih hl
    have hnone : ∀ p : α → Bool, (∀ b ∈ l, p b = false) → l.filter p = [] := fun p hp =>
      List.filter_eq_nil_iff.mpr fun b hb => by rw [hp b hb]; exact Bool.false_ne_true
    rcases Nat.lt_trichotomy (key a) m with hlt | heq | hgt
    · rw [List.filter_cons_of_pos (by simpa using hlt), List.filter_cons_of_neg (by simp; omega),
        List.filter_cons_of_neg (by simp; omega), List.cons_append, ← ih]
    · have hsmall : l.filter (fun b => key b < m) = [] := hnone _ fun b hb => by
        have := ha b hb
        simp
        omega
      rw [List.filter_cons_of_neg (by simp; omega), List.filter_cons_of_pos (by simpa using heq),
        List.filter_cons_of_neg (by simp; omega), List.cons_append, hsmall, List.nil_append]
      rw [hsmall, List.nil_append] at ih
      rw [← ih]
    · have hsmall : l.filter (fun b => key b < m) = [] := hnone _ fun b hb => by
        have := ha b hb
        simp
        omega
      have hsame : l.filter (fun b => key b = m) = [] := hnone _ fun b hb => by
        have := ha b hb
        simp
        omega
      rw [List.filter_cons_of_neg (by simp; omega), List.filter_cons_of_neg (by simp; omega),
        List.filter_cons_of_pos (by simpa using hgt), hsmall, hsame, List.nil_append,
        List.nil_append]
      rw [hsmall, hsame, List.nil_append, List.nil_append] at ih
      rw [← ih]

/-- The elements with one key are found by counting those with smaller keys and those with it. -/
lemma slice_eq_filter (h : Ordered key l) :
    (l.drop (l.countP fun a => key a < m)).take (l.countP fun a => key a = m) =
      l.filter fun a => key a = m := by
  have hsplit := ordered_split m h
  rw [List.countP_eq_length_filter, List.countP_eq_length_filter]
  generalize l.filter (fun a => key a < m) = small at *
  generalize l.filter (fun a => key a = m) = same at *
  rw [hsplit, List.drop_left, List.take_left]

/-- Counting what has one of two properties that exclude each other. -/
lemma countP_eq_add {p q r : α → Prop} [DecidablePred p] [DecidablePred q] [DecidablePred r]
    (h : ∀ a ∈ l, (r a ↔ p a ∨ q a) ∧ ¬ (p a ∧ q a)) :
    l.countP (fun a => r a) = l.countP (fun a => p a) + l.countP fun a => q a := by
  induction l with
  | nil => rfl
  | cons a l ih =>
    obtain ⟨⟨hr, hpq⟩, hl⟩ := List.forall_mem_cons.mp h
    have ih := ih hl
    rw [List.countP_cons, List.countP_cons, List.countP_cons, ih]
    simp only [decide_eq_true_eq, hr]
    by_cases hp : p a
    · have hq : ¬ q a := fun hq => hpq ⟨hp, hq⟩
      rw [if_pos (Or.inl hp), if_pos hp, if_neg hq]
      omega
    · simp only [hp, false_or, if_false]
      omega

/-- With no larger keys, the elements are those with smaller keys and those with the key. -/
lemma countP_lt_add_countP_eq (h : ∀ a ∈ l, key a ≤ m) :
    l.countP (fun a => key a < m) + l.countP (fun a => key a = m) = l.length := by
  have hall : l.countP (fun a => decide (key a ≤ m)) = l.length :=
    List.countP_eq_length.mpr fun a ha => decide_eq_true (h a ha)
  rw [← hall]
  exact (countP_eq_add fun a _ => by omega).symm

/-- The distinct numbers of a list up to its largest one. -/
lemma firsts_eq_filter_append {ms : List Nat} (h : Ordered id ms) (hm : m ∈ ms)
    (hle : ∀ k ∈ ms, k ≤ m) : firsts ms = (firsts ms).filter (fun k => k < m) ++ [m] := by
  have hsplit := ordered_split m (h.sublist (firsts_sublist ms))
  have hlarge : (firsts ms).filter (fun k => m < k) = [] := by
    refine List.filter_eq_nil_iff.mpr fun k hk => ?_
    have := hle k (mem_firsts.mp hk)
    simpa using this
  have hsame : (firsts ms).filter (fun k => k = m) = [m] := by
    rw [List.filter_eq m, List.count_eq_one_of_mem (nodup_firsts ms) (mem_firsts.mpr hm)]
    rfl
  simp only [id_eq] at hsplit
  rw [hlarge, hsame, List.append_nil] at hsplit
  exact hsplit

/-- An element stands among those with its key. -/
lemma idxOf_mem_slice [DecidableEq α] (h : Ordered key l) {a : α} (ha : a ∈ l) :
    l.countP (fun b => key b < key a) ≤ l.idxOf a ∧
      l.idxOf a < l.countP (fun b => key b < key a) + l.countP fun b => key b = key a := by
  have hsplit := ordered_split (key a) h
  have hnot : a ∉ l.filter fun b => key b < key a := by
    simp
  have hmem : a ∈ l.filter fun b => key b = key a := by
    simpa using ha
  have hidx : l.idxOf a = (l.filter fun b => key b < key a).length +
      (l.filter fun b => key b = key a).idxOf a := by
    conv_lhs => rw [hsplit]
    rw [List.idxOf_append_of_notMem hnot, List.idxOf_append_of_mem hmem]
  rw [hidx, List.countP_eq_length_filter, List.countP_eq_length_filter]
  have hlt := List.idxOf_lt_length_of_mem hmem
  omega

/-- What stands there has the key. -/
lemma key_of_mem_slice (h : Ordered key l) {a : α} {i : Nat} (ha : l[i]? = some a)
    (hge : l.countP (fun b => key b < m) ≤ i)
    (hlt : i < l.countP (fun b => key b < m) + l.countP fun b => key b = m) : key a = m := by
  have hslice : ((l.drop (l.countP fun b => key b < m)).take (l.countP fun b => key b = m))[
      i - l.countP fun b => key b < m]? = some a := by
    rw [List.getElem?_take_of_lt (by omega), List.getElem?_drop, Nat.add_sub_cancel' hge, ha]
  rw [slice_eq_filter m h] at hslice
  exact of_decide_eq_true (List.mem_filter.mp (List.mem_of_getElem? hslice)).2

/-- Elements with keys of one order make a list of that order. -/
lemma ordered_flatMap {β : Type} {f : α → List β} {keyOf : β → Nat} (h : Ordered key l)
    (hf : ∀ a ∈ l, ∀ b ∈ f a, keyOf b = key a) : Ordered keyOf (l.flatMap f) := by
  induction l with
  | nil => exact List.Pairwise.nil
  | cons a l ih =>
    obtain ⟨ha, hl⟩ := List.pairwise_cons.mp h
    obtain ⟨hfa, hfl⟩ := List.forall_mem_cons.mp hf
    rw [List.flatMap_cons]
    refine List.pairwise_append.mpr ⟨?_, ih hl hfl, ?_⟩
    · refine List.pairwise_of_forall_mem_list fun b hb c hc => ?_
      exact Nat.le_of_eq ((hfa b hb).trans (hfa c hc).symm)
    · intro b hb c hc
      obtain ⟨a', ha', hc⟩ := List.mem_flatMap.mp hc
      rw [hfa b hb, hfl a' ha' c hc]
      exact ha a' ha'

/-- The ranges of the keys from `b` on, found by counting, one after the other. -/
lemma flatMap_range'_countP {ms : List Nat} {b : Nat} (hms : ms.Pairwise (· < ·))
    (hb : ∀ k ∈ ms, b ≤ k) (hmem : ∀ a ∈ l, b ≤ key a → key a ∈ ms) :
    ms.flatMap (fun k => List.range' (l.countP fun a => key a < k) (l.countP fun a => key a = k)) =
      List.range' (l.countP fun a => key a < b) (l.countP fun a => b ≤ key a) := by
  induction ms generalizing b with
  | nil =>
    have hnone : l.countP (fun a => b ≤ key a) = 0 := by
      refine List.countP_eq_zero.mpr fun a ha hba => ?_
      exact absurd (hmem a ha (of_decide_eq_true hba)) List.not_mem_nil
    rw [hnone, List.flatMap_nil, List.range'_zero]
  | cons k ms ih =>
    obtain ⟨hk, hms⟩ := List.pairwise_cons.mp hms
    have hbk : b ≤ k := hb k List.mem_cons_self
    -- No key lies between `b` and the first key of the list.
    have hgap : ∀ a ∈ l, b ≤ key a → k ≤ key a := by
      intro a ha hba
      rcases List.mem_cons.mp (hmem a ha hba) with heq | hin
      · exact Nat.le_of_eq heq.symm
      · exact Nat.le_of_lt (hk _ hin)
    have hstart : l.countP (fun a => key a < b) = l.countP fun a => key a < k := by
      refine List.countP_congr fun a ha => ?_
      have := hgap a ha
      simp only [decide_eq_true_eq]
      omega
    have hnext : l.countP (fun a => key a < k + 1) =
        l.countP (fun a => key a < k) + l.countP fun a => key a = k :=
      countP_eq_add fun a _ => by omega
    have hcount : l.countP (fun a => b ≤ key a) =
        l.countP (fun a => key a = k) + l.countP fun a => k + 1 ≤ key a := by
      refine countP_eq_add fun a ha => ?_
      have := hgap a ha
      omega
    rw [List.flatMap_cons, hstart, hcount, ← List.range'_append_1, ← hnext, ih hms hk]
    intro a ha hka
    rcases List.mem_cons.mp (hmem a ha (by omega)) with heq | hin
    · omega
    · exact hin

end Ordered

end Halcyon.Lib
