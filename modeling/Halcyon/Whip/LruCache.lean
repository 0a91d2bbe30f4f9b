import Halcyon.Lib.Outcome
import Halcyon.Lib.Recency

/-!
# The cache with a budget

`lru_cache.h` keeps the entries of a cache in a linked list, from the most recently used one on, and
an index from keys to the nodes of that list.  A calculator is told about every entry that is added
or removed and keeps their size, a 64-bit number; an insertion removes entries at the end of the
list while the size is above the maximum.

The nodes of the list have addresses, and the iterators in the index are these addresses.  What C++
leaves undefined is a fault: an iterator whose node is gone, and the use of an end iterator.

For a well-formed cache there are no faults, and each operation does to the entries what
`Halcyon.Lib.Recency` says (`fetch_spec`, `insert_spec`).
-/

namespace Halcyon.Whip

open Halcyon.Lib Halcyon.Lib.Recency

inductive LRUFault
  | danglingIterator
  | endIterator
  /-- The loop of an insertion runs more often than the list has entries. -/
  | running
  deriving DecidableEq, Repr

/-- `LRUCache`. -/
structure LRUCache (κ δ : Type) where
  /-- `_list`: the pairs with the addresses of their nodes. -/
  list : Dict Nat (κ × δ)
  index : Dict κ Nat
  maxSize : BitVec 64
  /-- The size the calculator has. -/
  size : BitVec 64
  /-- The address of the next node. -/
  fresh : Nat
  deriving DecidableEq

namespace LRUCache

variable {κ δ : Type}

/-- The constructor. -/
def empty (maxSize : BitVec 64) : LRUCache κ δ := ⟨[], [], maxSize, 0, 0⟩

/-- The pair an iterator points to. -/
def deref (c : LRUCache κ δ) (a : Nat) : Except LRUFault (κ × δ) :=
  match c.list.get? a with
  | none => .error .danglingIterator
  | some p => .ok p

section Operations

variable [DecidableEq κ]

/-- `exists`. -/
def contains (c : LRUCache κ δ) (key : κ) : Bool := (c.index.get? key).isSome

/-- `_touch`. -/
def touch (c : LRUCache κ δ) (key : κ) : Except LRUFault (LRUCache κ δ) :=
  match c.index.get? key with
  | none => .ok c
  | some a => do
    let p ← c.deref a
    return { c with list := (a, p) :: c.list.erase a }

/-- `fetch` with its default, which is to touch the entry. -/
def fetch (c : LRUCache κ δ) (key : κ) : Except LRUFault (Option δ × LRUCache κ δ) :=
  match c.index.get? key with
  | none => .ok (none, c)
  | some a => do
    let p ← c.deref a
    let c ← c.touch key
    return (some p.2, c)

section Calculator

/- What `on_add` adds to the size and `on_remove` takes off. -/
variable (weight : δ → BitVec 64)

/-- `_remove` of an iterator of the index. -/
def removeAt (c : LRUCache κ δ) (key : κ) (a : Nat) : Except LRUFault (LRUCache κ δ) := do
  let p ← c.deref a
  return { c with
    size := c.size - weight p.2, list := c.list.erase a, index := c.index.erase key }

/-- `_remove` of a key. -/
def remove (c : LRUCache κ δ) (key : κ) : Except LRUFault (LRUCache κ δ) :=
  match c.index.get? key with
  | none => .error .endIterator
  | some a => c.removeAt weight key a

/-- An insertion first removes the entry that is there. -/
def removeOld (c : LRUCache κ δ) (key : κ) : Except LRUFault (LRUCache κ δ) :=
  match c.index.get? key with
  | none => .ok c
  | some a => c.removeAt weight key a

/-- The loop of `insert`, which removes entries until the size is within the maximum. -/
def evict : Nat → LRUCache κ δ → Except LRUFault (LRUCache κ δ)
  | 0, c => if c.maxSize < c.size then .error .running else .ok c
  | n + 1, c =>
    if c.maxSize < c.size then
      match c.list.getLast? with
      | none => .error .endIterator
      | some last => do
        let c ← c.remove weight last.2.1
        evict n c
    else .ok c

/-- A new node at the head of the list; `std::map::insert` does not replace an entry. -/
def pushFront (c : LRUCache κ δ) (key : κ) (data : δ) : LRUCache κ δ :=
  { c with
    list := (c.fresh, (key, data)) :: c.list
    index := if c.contains key then c.index else c.index.add key c.fresh
    size := c.size + weight data
    fresh := c.fresh + 1 }

/-- `insert`. -/
def insert (c : LRUCache κ δ) (key : κ) (data : δ) : Except LRUFault (LRUCache κ δ) := do
  let c ← c.touch key
  let c ← c.removeOld weight key
  let c := c.pushFront weight key data
  c.evict weight c.list.length

end Calculator

end Operations

/-! ## Well-formed caches -/

/-- The entries, from the most recently used one on. -/
def entries (c : LRUCache κ δ) : Dict κ δ := c.list.map Prod.snd

/-- Index and list have the same keys, each once, the index points to the nodes of the list, and the
size is that of the entries. -/
structure WellFormed (weight : δ → BitVec 64) (c : LRUCache κ δ) : Prop where
  index_perm : c.index.Perm (c.list.map fun n => (n.2.1, n.1))
  keys_nodup : c.entries.keys.Nodup
  addresses_nodup : c.list.keys.Nodup
  fresh : ∀ a ∈ c.list.keys, a < c.fresh
  size : c.size.toNat = total (fun d => (weight d).toNat) c.entries

variable {weight : δ → BitVec 64} {c : LRUCache κ δ} {key : κ} {a : Nat} {d : δ}

lemma wellFormed_empty (maxSize : BitVec 64) : WellFormed weight (empty maxSize : LRUCache κ δ) :=
  ⟨List.Perm.nil, List.nodup_nil, List.nodup_nil, (fun _ h => nomatch h), rfl⟩

namespace WellFormed

lemma keys_index_perm (h : WellFormed weight c) : c.index.keys.Perm c.entries.keys := by
  have hperm := h.index_perm.map Prod.fst
  rw [List.map_map] at hperm
  rw [Dict.keys, Dict.keys, entries, List.map_map]
  exact hperm

lemma mem_entries (hn : (a, (key, d)) ∈ c.list) : (key, d) ∈ c.entries :=
  List.mem_map_of_mem hn

lemma deref_eq (h : WellFormed weight c) (hn : (a, (key, d)) ∈ c.list) :
    c.deref a = .ok (key, d) := by
  rw [deref, Dict.get?_of_mem h.addresses_nodup hn]

/-- The order of the list does not matter. -/
lemma of_perm (h : WellFormed weight c) {list : Dict Nat (κ × δ)} (hperm : list.Perm c.list) :
    WellFormed weight { c with list := list } where
  index_perm := h.index_perm.trans (hperm.map _).symm
  keys_nodup := ((hperm.map Prod.snd).map Prod.fst).nodup_iff.mpr h.keys_nodup
  addresses_nodup := (hperm.map Prod.fst).nodup_iff.mpr h.addresses_nodup
  fresh := fun a ha => h.fresh a ((hperm.map Prod.fst).mem_iff.mp ha)
  size := h.size.trans (total_perm (hperm.map Prod.snd)).symm

/-- Without entries there is nothing to evict. -/
lemma not_lt_size_of_nil (h : WellFormed weight c) (hlist : c.list = []) : ¬ c.maxSize < c.size := by
  have hsize := h.size
  rw [entries, hlist] at hsize
  rw [BitVec.lt_def, hsize]
  exact Nat.not_lt_zero _

variable [DecidableEq κ]

lemma get?_index (h : WellFormed weight c) :
    c.index.get? key = some a ↔ ∃ d, (a, (key, d)) ∈ c.list := by
  have hmem : (key, a) ∈ c.index ↔ ∃ d, (a, (key, d)) ∈ c.list := by
    rw [h.index_perm.mem_iff, List.mem_map]
    constructor
    · rintro ⟨⟨a', key', d⟩, hn, heq⟩
      obtain ⟨rfl, rfl⟩ := Prod.mk.inj heq
      exact ⟨d, hn⟩
    · rintro ⟨d, hn⟩
      exact ⟨_, hn, rfl⟩
  rw [← hmem]
  have hnodup : c.index.keys.Nodup := h.keys_index_perm.nodup_iff.mpr h.keys_nodup
  exact ⟨Dict.mem_of_get?, Dict.get?_of_mem hnodup⟩

lemma get?_index_eq_none (h : WellFormed weight c) :
    c.index.get? key = none ↔ key ∉ c.entries.keys := by
  rw [Dict.get?_eq_none_iff, h.keys_index_perm.mem_iff]

/-- A node is gone exactly when its key is. -/
lemma list_erase (h : WellFormed weight c) (hn : (a, (key, d)) ∈ c.list) :
    c.list.erase a = c.list.filter fun m => decide (m.2.1 ≠ key) := by
  rw [Dict.erase]
  refine List.filter_congr fun m hm => ?_
  have haddress : m.1 = a → m = (a, (key, d)) := fun heq =>
    List.inj_on_of_nodup_map h.addresses_nodup hm hn heq
  have hkeys : (c.list.map fun n => n.2.1).Nodup := by
    have hnodup := h.keys_nodup
    rwa [entries, Dict.keys, List.map_map] at hnodup
  have hkey : m.2.1 = key → m = (a, (key, d)) := fun heq =>
    List.inj_on_of_nodup_map hkeys hm hn heq
  simp only [decide_eq_decide, ne_eq, not_iff_not]
  exact ⟨fun heq => by rw [haddress heq], fun heq => by rw [hkey heq]⟩

lemma entries_erase (h : WellFormed weight c) (hn : (a, (key, d)) ∈ c.list) :
    (c.list.erase a).map Prod.snd = c.entries.erase key := by
  rw [h.list_erase hn, entries, Dict.erase, List.filter_map]
  rfl

lemma index_erase_perm (h : WellFormed weight c) (hn : (a, (key, d)) ∈ c.list) :
    (c.index.erase key).Perm ((c.list.erase a).map fun n => (n.2.1, n.1)) := by
  have hfilter := h.index_perm.filter fun p => decide (p.1 ≠ key)
  rw [List.filter_map] at hfilter
  rw [h.list_erase hn]
  exact hfilter

lemma get?_entries (h : WellFormed weight c) (hn : (a, (key, d)) ∈ c.list) :
    c.entries.get? key = some d :=
  Dict.get?_of_mem h.keys_nodup (mem_entries hn)

/-! ## What each operation does -/

lemma touch_spec (h : WellFormed weight c) (key : κ) :
    ∃ c', c.touch key = .ok c' ∧ WellFormed weight c' ∧
      c'.entries = Recency.touch c.entries key ∧ c'.maxSize = c.maxSize := by
  rw [LRUCache.touch, Recency.touch]
  cases hindex : c.index.get? key with
  | none =>
    rw [Dict.get?_eq_none_iff.mpr (h.get?_index_eq_none.mp hindex)]
    exact ⟨c, rfl, h, rfl, rfl⟩
  | some a =>
    obtain ⟨d, hn⟩ := h.get?_index.mp hindex
    have hget := Dict.get?_of_mem h.addresses_nodup hn
    refine ⟨{ c with list := (a, (key, d)) :: c.list.erase a }, ?_,
      h.of_perm (Dict.perm_erase h.addresses_nodup hget).symm, ?_, rfl⟩
    · simp only [h.deref_eq hn, ok_bind]
      rfl
    · rw [h.get?_entries hn, entries, List.map_cons, h.entries_erase hn]

lemma fetch_spec (h : WellFormed weight c) (key : κ) :
    ∃ c', c.fetch key = .ok (c.entries.get? key, c') ∧ WellFormed weight c' ∧
      c'.entries = Recency.touch c.entries key ∧ c'.maxSize = c.maxSize := by
  obtain ⟨c', htouch, hspec⟩ := h.touch_spec key
  refine ⟨c', ?_, hspec⟩
  rw [fetch]
  cases hindex : c.index.get? key with
  | none =>
    rw [LRUCache.touch, hindex] at htouch
    obtain rfl := Except.ok.inj htouch
    rw [Dict.get?_eq_none_iff.mpr (h.get?_index_eq_none.mp hindex)]
  | some a =>
    obtain ⟨d, hn⟩ := h.get?_index.mp hindex
    simp only [h.deref_eq hn, ok_bind, htouch, h.get?_entries hn]
    rfl

lemma remove_spec (h : WellFormed weight c) (hn : (a, (key, d)) ∈ c.list) :
    ∃ c', c.removeAt weight key a = .ok c' ∧ WellFormed weight c' ∧
      c'.entries = c.entries.erase key ∧ c'.maxSize = c.maxSize := by
  have hperm := Dict.perm_erase h.addresses_nodup (Dict.get?_of_mem h.addresses_nodup hn)
  have hentries := h.entries_erase hn
  refine ⟨{ c with
    size := c.size - weight d, list := c.list.erase a, index := c.index.erase key }, ?_, ?_,
    hentries, rfl⟩
  · simp only [removeAt, h.deref_eq hn, ok_bind]
    rfl
  · refine ⟨h.index_erase_perm hn, ?_, ?_, ?_, ?_⟩
    · rw [entries, hentries, Dict.keys_erase]
      exact h.keys_nodup.filter _
    · rw [Dict.keys_erase]
      exact h.addresses_nodup.filter _
    · intro b hb
      rw [Dict.keys_erase] at hb
      exact h.fresh b (List.mem_filter.mp hb).1
    · have htotal : c.size.toNat = (weight d).toNat +
          total (fun d => (weight d).toNat) (c.entries.erase key) := by
        rw [h.size, total_perm (Dict.perm_erase h.keys_nodup (h.get?_entries hn)), total_cons]
      rw [entries, hentries, BitVec.toNat_sub_of_le]
      · omega
      · rw [BitVec.le_def]
        omega

lemma pushFront_spec (h : WellFormed weight c) (hkey : key ∉ c.entries.keys)
    (hfits : total (fun d => (weight d).toNat) c.entries + (weight d).toNat < 2 ^ 64) :
    WellFormed weight (c.pushFront weight key d) := by
  have hcontains : c.contains key = false := by
    rw [contains, h.get?_index_eq_none.mpr hkey]
    rfl
  refine ⟨?_, ?_, ?_, ?_, ?_⟩
  · simp only [pushFront, hcontains]
    rw [if_neg (by simp), List.map_cons, Dict.add]
    exact (List.perm_append_singleton _ _).trans (h.index_perm.cons _)
  · exact List.nodup_cons.mpr ⟨hkey, h.keys_nodup⟩
  · exact List.nodup_cons.mpr ⟨fun hmem => Nat.lt_irrefl _ (h.fresh _ hmem), h.addresses_nodup⟩
  · intro a ha
    obtain rfl | ha := List.mem_cons.mp ha
    · exact Nat.lt_succ_self _
    · exact Nat.lt_succ_of_lt (h.fresh a ha)
  · have hcons : (c.pushFront weight key d).entries = (key, d) :: c.entries := rfl
    rw [hcons, total_cons, pushFront, BitVec.toNat_add_of_lt]
    · rw [h.size, Nat.add_comm]
    · rw [h.size]
      exact hfits

/-- The loop ends within as many rounds as there are entries, and what it leaves is the longest
first part within the maximum. -/
lemma evict_spec (h : WellFormed weight c) {n : Nat} (hn : c.list.length ≤ n) :
    ∃ c', c.evict weight n = .ok c' ∧ WellFormed weight c' ∧
      c'.entries = fit (fun d => (weight d).toNat) c.maxSize.toNat c.entries ∧
      c'.maxSize = c.maxSize := by
  have hstop : ∀ c : LRUCache κ δ, WellFormed weight c → ¬ c.maxSize < c.size →
      c.entries = fit (fun d => (weight d).toNat) c.maxSize.toNat c.entries := by
    intro c h hle
    rw [BitVec.lt_def, h.size] at hle
    exact (fit_eq_self (Nat.le_of_not_lt hle)).symm
  induction n generalizing c with
  | zero =>
    have hle := h.not_lt_size_of_nil (List.length_eq_zero_iff.mp (Nat.le_zero.mp hn))
    exact ⟨c, if_neg hle, h, hstop c h hle, rfl⟩
  | succ n ih =>
    by_cases hle : c.maxSize < c.size
    · obtain hlist | ⟨init, ⟨a, key, d⟩, hlist⟩ := List.eq_nil_or_concat c.list
      · exact absurd hle (h.not_lt_size_of_nil hlist)
      · rw [List.concat_eq_append] at hlist
        have hlast : (a, (key, d)) ∈ c.list := by simp [hlist]
        obtain ⟨c₁, hremove, hc₁, hentries, hmax⟩ := h.remove_spec hlast
        have hsplit : c.entries = init.map Prod.snd ++ [(key, d)] := by
          rw [entries, hlist, List.map_append, List.map_singleton]
        have hinit : c₁.entries = init.map Prod.snd := by
          have hnodup := h.keys_nodup
          rw [hsplit, Dict.keys, List.map_append] at hnodup
          rw [hentries, hsplit]
          refine Dict.erase_concat fun hmem => ?_
          exact List.disjoint_of_nodup_append hnodup hmem (List.mem_singleton_self key)
        have hlength : c₁.list.length ≤ n := by
          have hsame : c₁.entries.length = c₁.list.length := List.length_map ..
          rw [hinit, List.length_map] at hsame
          rw [hlist, List.length_append, List.length_singleton] at hn
          omega
        obtain ⟨c₂, hevict, hc₂, hfit, hmax₂⟩ := ih hc₁ hlength
        refine ⟨c₂, ?_, hc₂, ?_, hmax₂.trans hmax⟩
        · have hkey : c.remove weight key = .ok c₁ := by
            rw [LRUCache.remove, h.get?_index.mpr ⟨d, hlast⟩]
            exact hremove
          rw [evict, if_pos hle, hlist, List.getLast?_concat]
          simp only [hkey, ok_bind]
          exact hevict
        · rw [hfit, hmax, hinit, hsplit]
          rw [BitVec.lt_def, h.size, hsplit] at hle
          exact (fit_concat hle).symm
    · exact ⟨c, if_neg hle, h, hstop c h hle, rfl⟩

lemma removeOld_spec (h : WellFormed weight c) (key : κ) :
    ∃ c', c.removeOld weight key = .ok c' ∧ WellFormed weight c' ∧
      c'.entries = c.entries.erase key ∧ c'.maxSize = c.maxSize := by
  rw [removeOld]
  cases hindex : c.index.get? key with
  | none =>
    have herase := Dict.erase_of_not_mem (h.get?_index_eq_none.mp hindex)
    exact ⟨c, rfl, h, herase.symm, rfl⟩
  | some a =>
    obtain ⟨d, hn⟩ := h.get?_index.mp hindex
    exact h.remove_spec hn

/-- The entries of which one is touched, without it. -/
lemma erase_touch (es : Dict κ δ) (key : κ) : (Recency.touch es key).erase key = es.erase key := by
  rw [Recency.touch]
  cases es.get? key with
  | none => rfl
  | some d => simp [Dict.erase]

lemma insert_spec (h : WellFormed weight c) (key : κ) (d : δ)
    (hfits : total (fun d => (weight d).toNat) c.entries + (weight d).toNat < 2 ^ 64) :
    ∃ c', c.insert weight key d = .ok c' ∧ WellFormed weight c' ∧
      c'.entries = put (fun d => (weight d).toNat) c.maxSize.toNat c.entries key d ∧
      c'.maxSize = c.maxSize := by
  obtain ⟨c₁, htouch, hc₁, hentries₁, hmax₁⟩ := h.touch_spec key
  obtain ⟨c₂, hremove, hc₂, hentries₂, hmax₂⟩ := hc₁.removeOld_spec key
  rw [hentries₁, erase_touch] at hentries₂
  have hkey : key ∉ c₂.entries.keys := by
    rw [hentries₂, Dict.keys_erase]
    simp
  have hfits₂ : total (fun d => (weight d).toNat) c₂.entries + (weight d).toNat < 2 ^ 64 := by
    have hle : total (fun d => (weight d).toNat) (c.entries.erase key) ≤
        total (fun d => (weight d).toNat) c.entries := total_sublist List.filter_sublist
    rw [hentries₂]
    omega
  have hpush := hc₂.pushFront_spec hkey hfits₂
  obtain ⟨c₃, hevict, hc₃, hentries₃, hmax₃⟩ := hpush.evict_spec (Nat.le_refl _)
  refine ⟨c₃, ?_, hc₃, ?_, ?_⟩
  · simp only [insert, htouch, ok_bind, hremove]
    exact hevict
  · have hcons : (c₂.pushFront weight key d).entries = (key, d) :: c.entries.erase key := by
      rw [← hentries₂]
      rfl
    have hmax : (c₂.pushFront weight key d).maxSize = c.maxSize := hmax₂.trans hmax₁
    rw [hentries₃, hcons, hmax]
    rfl
  · exact hmax₃.trans (hmax₂.trans hmax₁)

end WellFormed

end LRUCache

end Halcyon.Whip
