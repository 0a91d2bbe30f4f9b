import Mathlib.Data.List.Nodup
import Mathlib.Data.List.Perm.Basic

/-!
# Dictionaries

A dictionary as an association list in the order of insertion, the way a program uses one that
looks up, adds under a new key, changes the value under a key it has, and removes a key.  `get?_add`
and `get?_modify` say what a lookup finds afterwards, and `keys_add`, `keys_modify` and `keys_erase`
which keys there are; `perm_erase` takes a dictionary apart at a key.
-/

namespace Halcyon.Lib

open scoped List

/-- An association list. -/
abbrev Dict (κ α : Type) := List (κ × α)

namespace Dict

variable {κ α : Type} [DecidableEq κ]

/-- The value under a key. -/
def get? (d : Dict κ α) (k : κ) : Option α :=
  (d.find? fun p => decide (p.1 = k)).map Prod.snd

/-- Adds a value under a key that the dictionary does not have. -/
def add (d : Dict κ α) (k : κ) (a : α) : Dict κ α := d ++ [(k, a)]

/-- Changes the value under a key. -/
def modify (d : Dict κ α) (k : κ) (f : α → α) : Dict κ α :=
  d.map fun p => if p.1 = k then (p.1, f p.2) else p

/-- Removes a key. -/
def erase (d : Dict κ α) (k : κ) : Dict κ α := d.filter fun p => decide (p.1 ≠ k)

/-- The keys. -/
def keys (d : Dict κ α) : List κ := d.map Prod.fst

variable {d : Dict κ α} {k k' : κ} {a : α}

@[simp] lemma get?_nil : get? ([] : Dict κ α) k = none := rfl

lemma get?_cons (p : κ × α) :
    get? (p :: d) k = if p.1 = k then some p.2 else get? d k := by
  unfold get?
  by_cases h : p.1 = k <;> simp [h]

lemma get?_add :
    get? (add d k a) k' = (get? d k').or (if k = k' then some a else none) := by
  induction d with
  | nil => simp [add, get?_cons]
  | cons p d ih =>
    have hcons : add (p :: d) k a = p :: add d k a := rfl
    rw [hcons, get?_cons, get?_cons, ih]
    split_ifs <;> simp

lemma get?_modify (f : α → α) :
    get? (modify d k f) k' = if k = k' then (get? d k').map f else get? d k' := by
  induction d with
  | nil => simp [modify]
  | cons p d ih =>
    have hcons : modify (p :: d) k f = (if p.1 = k then (p.1, f p.2) else p) :: modify d k f := rfl
    rw [hcons, get?_cons, get?_cons, ih]
    by_cases hk : k = k' <;> by_cases hp : p.1 = k <;> by_cases hp' : p.1 = k' <;> simp_all

lemma get?_erase_of_ne (hk : k ≠ k') : get? (erase d k) k' = get? d k' := by
  induction d with
  | nil => rfl
  | cons p d ih =>
    by_cases hp : p.1 = k
    · have herase : erase (p :: d) k = erase d k := by simp [erase, hp]
      rw [herase, ih, get?_cons, if_neg (hp.symm ▸ hk)]
    · have herase : erase (p :: d) k = p :: erase d k := by simp [erase, hp]
      rw [herase, get?_cons, get?_cons, ih]

lemma mem_erase {p : κ × α} : p ∈ erase d k ↔ p ∈ d ∧ p.1 ≠ k := by
  rw [erase, List.mem_filter, decide_eq_true_eq]

lemma get?_erase : get? (erase d k) k' = if k = k' then none else get? d k' := by
  by_cases hk : k = k'
  · subst hk
    rw [if_pos rfl, get?, Option.map_eq_none_iff, List.find?_eq_none]
    intro p hp
    simpa using (mem_erase.mp hp).2
  · rw [if_neg hk, get?_erase_of_ne hk]

lemma erase_modify (f : α → α) : erase (modify d k f) k = erase d k := by
  induction d with
  | nil => rfl
  | cons p d ih =>
    have hcons : modify (p :: d) k f = (if p.1 = k then (p.1, f p.2) else p) :: modify d k f := rfl
    rw [hcons]
    by_cases hp : p.1 = k
    · rw [if_pos hp, erase, List.filter_cons_of_neg (by simpa using hp), ← erase, ih, erase, erase,
        List.filter_cons_of_neg (by simpa using hp)]
    · rw [if_neg hp, erase, List.filter_cons_of_pos (by simpa using hp), ← erase, ih, erase, erase,
        List.filter_cons_of_pos (by simpa using hp)]

lemma mem_of_get? (h : get? d k = some a) : (k, a) ∈ d := by
  obtain ⟨⟨k', a'⟩, hf, rfl⟩ := Option.map_eq_some_iff.mp h
  have hk : k' = k := by simpa using List.find?_some hf
  exact hk ▸ List.mem_of_find?_eq_some hf

/-- With its keys different, a lookup finds every entry. -/
lemma get?_of_mem (hd : (keys d).Nodup) (h : (k, a) ∈ d) : get? d k = some a := by
  induction d with
  | nil => cases h
  | cons p d ih =>
    obtain ⟨hp, hd⟩ := List.nodup_cons.mp hd
    rw [get?_cons]
    rcases List.mem_cons.mp h with rfl | h
    · exact if_pos rfl
    · have hne : p.1 ≠ k := fun heq => hp (heq ▸ List.mem_map_of_mem h)
      rw [if_neg hne, ih hd h]

lemma get?_eq_none_iff : get? d k = none ↔ k ∉ keys d := by
  simp only [get?, keys, Option.map_eq_none_iff, List.find?_eq_none, List.mem_map,
    decide_eq_true_eq]
  refine ⟨fun h ⟨p, hp, hk⟩ => h p hp hk, fun h p hp hk => h ⟨p, hp, hk⟩⟩

omit [DecidableEq κ] in
lemma keys_add : keys (add d k a) = keys d ++ [k] := by
  simp [keys, add]

lemma keys_modify (f : α → α) : keys (modify d k f) = keys d := by
  simp only [keys, modify, List.map_map]
  refine List.map_congr_left fun p _ => ?_
  by_cases hp : p.1 = k <;> simp [hp]

lemma keys_erase : keys (erase d k) = (keys d).filter fun k' => decide (k' ≠ k) := by
  rw [keys, keys, erase, List.filter_map]
  rfl

lemma erase_of_not_mem (h : k ∉ keys d) : erase d k = d := by
  refine List.filter_eq_self.mpr fun p hp => ?_
  have hne : p.1 ≠ k := fun heq => h (heq ▸ List.mem_map_of_mem hp)
  simp [hne]

lemma erase_concat (h : k ∉ keys d) : erase (d ++ [(k, a)]) k = d := by
  have hd : erase d k = d := erase_of_not_mem h
  rw [erase] at hd
  rw [erase, List.filter_append, hd]
  simp

/-- With its keys different, a dictionary is one entry and the others. -/
lemma perm_erase (hd : (keys d).Nodup) (h : get? d k = some a) : d ~ (k, a) :: erase d k := by
  induction d with
  | nil => cases h
  | cons p d ih =>
    obtain ⟨hp, hd⟩ := List.nodup_cons.mp hd
    rw [get?_cons] at h
    by_cases heq : p.1 = k
    · rw [if_pos heq] at h
      obtain rfl := Option.some.inj h
      subst heq
      have herase : erase (p :: d) p.1 = erase d p.1 := by simp [erase]
      rw [herase, erase_of_not_mem hp]
    · rw [if_neg heq] at h
      have herase : erase (p :: d) k = p :: erase d k := by simp [erase, heq]
      rw [herase]
      exact ((ih hd h).cons p).trans (.swap ..)

lemma modify_perm (hd : (keys d).Nodup) (h : get? d k = some a) (f : α → α) :
    modify d k f ~ (k, f a) :: erase d k := by
  have herase : (erase d k).map (fun p => if p.1 = k then (p.1, f p.2) else p) = erase d k := by
    refine (List.map_congr_left (g := id) fun p hp => ?_).trans (List.map_id _)
    have hne : p.1 ≠ k := by simpa using (List.mem_filter.mp hp).2
    simp [hne]
  have hmap := (perm_erase hd h).map fun p => if p.1 = k then (p.1, f p.2) else p
  rwa [List.map_cons, herase, if_pos rfl] at hmap

lemma mem_modify {f : α → α} {p : κ × α} (h : p ∈ modify d k f) :
    (∃ b, p = (k, f b) ∧ (k, b) ∈ d) ∨ p ∈ d := by
  obtain ⟨q, hq, rfl⟩ := List.mem_map.mp h
  by_cases hk : q.1 = k
  · subst hk
    exact .inl ⟨q.2, by simp, hq⟩
  · exact .inr (by simpa [hk] using hq)

end Dict

end Halcyon.Lib
