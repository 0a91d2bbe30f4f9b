import Halcyon.Lib.Dict
import Mathlib.Data.List.Induction

/-!
# The linked hash map

`LinkedHashMap` keeps its values in a linked list, in the order in which they were added, and a
dictionary from keys to the nodes of that list.  A node is an object; it is given by an address, and
removing it from the list removes that one.

`Op.apply` says what the operations are for: the entries of an ordered map.  `Coherent` compares the
two structures with the entries that the operations so far have left.  An addition under a key that
is there, or under null, throws, and a caller may go on; but it has appended its node to the list by
then, and the node stays.  So the structures are coherent throughout exactly when no addition
throws.
-/

namespace Halcyon.Joke

open Halcyon.Lib
open scoped List

/-- `LinkedListNode`. -/
structure LinkedListNode (τ : Type) where
  address : Nat
  value : τ
  deriving DecidableEq

/-- `LinkedHashMap`. -/
structure LinkedHashMap (κ τ : Type) where
  itemList : List (LinkedListNode τ)
  itemIndex : Dict κ (LinkedListNode τ)
  /-- The address of the next node. -/
  fresh : Nat

/-- The exceptions of the dictionary and of the list. -/
inductive MapException
  | argumentNull
  | argument
  | keyNotFound
  | invalidOperation
  deriving DecidableEq

namespace LinkedHashMap

variable {κ τ : Type}

/-- The constructor. -/
def new : LinkedHashMap κ τ := ⟨[], [], 0⟩

/-- `Count`. -/
def count (m : LinkedHashMap κ τ) : Nat := m.itemList.length

/-- `Keys`. -/
def keys (m : LinkedHashMap κ τ) : List κ := m.itemIndex.keys

/-- `GetEnumerator`, and `Values`. -/
def enumerate (m : LinkedHashMap κ τ) : List τ := m.itemList.map LinkedListNode.value

/-- `Clear`. -/
def clear (m : LinkedHashMap κ τ) : LinkedHashMap κ τ := { m with itemIndex := [], itemList := [] }

variable [DecidableEq κ]

/-- `_itemIndex.TryGetValue`; a key is null or not. -/
def node? (m : LinkedHashMap κ τ) : Option κ → Except MapException (Option (LinkedListNode τ))
  | none => .error .argumentNull
  | some key => .ok (m.itemIndex.get? key)

/-- `ContainsKey`, and `Contains`. -/
def containsKey (m : LinkedHashMap κ τ) (key : Option κ) : Except MapException Bool :=
  (m.node? key).map Option.isSome

/-- `TryGetValue`. -/
def tryGetValue (m : LinkedHashMap κ τ) (key : Option κ) : Except MapException (Option τ) :=
  (m.node? key).map (Option.map LinkedListNode.value)

/-- The indexer. -/
def item (m : LinkedHashMap κ τ) (key : Option κ) : Except MapException τ :=
  match m.node? key with
  | .error e => .error e
  | .ok none => .error .keyNotFound
  | .ok (some node) => .ok node.value

/-- `Add`: the node is in the list when the dictionary throws. -/
def add (m : LinkedHashMap κ τ) (key : Option κ) (value : τ) :
    Except MapException Unit × LinkedHashMap κ τ :=
  let node : LinkedListNode τ := ⟨m.fresh, value⟩
  let m := { m with itemList := m.itemList ++ [node], fresh := m.fresh + 1 }
  match key with
  | none => (.error .argumentNull, m)
  | some key =>
    if (m.itemIndex.get? key).isSome then (.error .argument, m)
    else (.ok (), { m with itemIndex := m.itemIndex.add key node })

/-- `Remove`: the list throws when the node is none of its own. -/
def remove (m : LinkedHashMap κ τ) (key : Option κ) :
    Except MapException Bool × LinkedHashMap κ τ :=
  match key, m.node? key with
  | some key, .ok (some node) =>
    if node.address ∈ m.itemList.map LinkedListNode.address then
      (.ok true, { m with
        itemList := m.itemList.filter fun n => decide (n.address ≠ node.address)
        itemIndex := m.itemIndex.erase key })
    else (.error .invalidOperation, m)
  | _, .error e => (.error e, m)
  | _, .ok _ => (.ok false, m)

end LinkedHashMap

/-! ## Sequences of operations -/

/-- The operations; an exception is caught by the caller, who goes on. -/
inductive MapOp (κ τ : Type)
  | add (key : Option κ) (value : τ)
  | remove (key : Option κ)
  | containsKey (key : Option κ)
  | tryGetValue (key : Option κ)
  | item (key : Option κ)
  | clear

namespace LinkedHashMap

variable {κ τ : Type} [DecidableEq κ]

/-- The map after an operation. -/
def step (m : LinkedHashMap κ τ) : MapOp κ τ → LinkedHashMap κ τ
  | .add key value => (m.add key value).2
  | .remove key => (m.remove key).2
  | .containsKey _ | .tryGetValue _ | .item _ => m
  | .clear => m.clear

/-- The map after a sequence of operations. -/
def run (ops : List (MapOp κ τ)) : LinkedHashMap κ τ := ops.foldl step new

end LinkedHashMap

namespace MapOp

variable {κ τ : Type} [DecidableEq κ]

/-- What an operation does to the entries of an ordered map. -/
def apply (entries : Dict κ τ) : MapOp κ τ → Dict κ τ
  | add (some key) value => if (entries.get? key).isSome then entries else entries.add key value
  | remove (some key) => entries.erase key
  | clear => []
  | _ => entries

/-- The entries after a sequence of operations, in the order of insertion. -/
def entries (ops : List (MapOp κ τ)) : Dict κ τ := ops.foldl apply []

/-- If the operation is an addition, its key is not null and not there. -/
def Fresh (m : LinkedHashMap κ τ) : MapOp κ τ → Prop
  | add key _ => ∃ k, key = some k ∧ m.itemIndex.get? k = none
  | _ => True

end MapOp

namespace LinkedHashMap

variable {κ τ : Type} [DecidableEq κ] {m : LinkedHashMap κ τ} {entries : Dict κ τ}

/-- The list consists of the nodes of the index, each once, and both agree with the entries. -/
structure Coherent (m : LinkedHashMap κ τ) (entries : Dict κ τ) : Prop where
  nodes : m.itemIndex.map Prod.snd ~ m.itemList
  once : (m.itemList.map LinkedListNode.address).Nodup
  enumerated : m.enumerate = entries.map Prod.snd
  present : m.keys ~ entries.keys
  found : ∀ key, m.tryGetValue (some key) = .ok (entries.get? key)
  counted : m.count = m.keys.length

/-! ## Additions that do not throw -/

/-- Both structures hold the entries in the same order; the addresses of the nodes have been given
out before and differ. -/
structure Linked (m : LinkedHashMap κ τ) (entries : Dict κ τ) : Prop where
  list : m.itemList = m.itemIndex.map Prod.snd
  entries : entries = m.itemIndex.map fun p => (p.1, p.2.value)
  once : (m.itemList.map LinkedListNode.address).Nodup
  bounded : ∀ n ∈ m.itemList, n.address < m.fresh
  keys : m.itemIndex.keys.Nodup

omit [DecidableEq κ] in
lemma linked_new : Linked (new : LinkedHashMap κ τ) [] :=
  ⟨rfl, rfl, List.nodup_nil, fun _ hn => absurd hn List.not_mem_nil, List.nodup_nil⟩

namespace Linked

/-- A key is found in the entries exactly when it is in the index. -/
lemma get?_eq (h : m.Linked entries) (key : κ) :
    entries.get? key = (m.itemIndex.get? key).map LinkedListNode.value := by
  rw [h.entries]
  induction m.itemIndex with
  | nil => rfl
  | cons p d ih =>
    rw [List.map_cons, Dict.get?_cons, Dict.get?_cons, ih]
    split_ifs <;> rfl

omit [DecidableEq κ] in
lemma keys_eq (h : m.Linked entries) : entries.keys = m.keys := by
  rw [h.entries, Dict.keys, List.map_map]
  rfl

lemma coherent (h : m.Linked entries) : m.Coherent entries where
  nodes := List.Perm.of_eq h.list.symm
  once := h.once
  enumerated := by
    rw [enumerate, h.list, h.entries, List.map_map, List.map_map]
    rfl
  present := List.Perm.of_eq h.keys_eq.symm
  found key := by
    rw [h.get?_eq]
    rfl
  counted := by
    rw [count, h.list, LinkedHashMap.keys, Dict.keys, List.length_map, List.length_map]

/-- An addition under a new key. -/
lemma add (h : m.Linked entries) {key : κ} (hnew : m.itemIndex.get? key = none) (value : τ) :
    (m.add (some key) value).2.Linked ((MapOp.add (some key) value).apply entries) := by
  have hadd : (m.add (some key) value).2 = { m with
      itemList := m.itemList ++ [⟨m.fresh, value⟩]
      itemIndex := m.itemIndex.add key ⟨m.fresh, value⟩
      fresh := m.fresh + 1 } := by
    simp [LinkedHashMap.add, hnew]
  have happly : (MapOp.add (some key) value).apply entries = entries.add key value := by
    simp [MapOp.apply, h.get?_eq, hnew]
  rw [hadd, happly]
  refine ⟨?_, ?_, ?_, ?_, ?_⟩
  · simp [Dict.add, h.list]
  · simp [Dict.add, h.entries]
  · rw [List.map_append, List.nodup_append]
    refine ⟨h.once, List.nodup_singleton _, ?_⟩
    intro a ha b hb
    obtain ⟨n, hn, rfl⟩ := List.mem_map.mp ha
    obtain rfl := List.mem_singleton.mp hb
    exact Nat.ne_of_lt (h.bounded n hn)
  · intro n hn
    rcases List.mem_append.mp hn with hn | hn
    · exact Nat.lt_succ_of_lt (h.bounded n hn)
    · obtain rfl := List.mem_singleton.mp hn
      exact Nat.lt_succ_self _
  · rw [Dict.keys_add, List.nodup_append]
    refine ⟨h.keys, List.nodup_singleton _, ?_⟩
    intro k hk k' hk'
    obtain rfl := List.mem_singleton.mp hk'
    exact fun heq => Dict.get?_eq_none_iff.mp hnew (heq ▸ hk)

/-- The node under a key has an address of its own. -/
lemma address_ne_iff (h : m.Linked entries) {key : κ} {node : LinkedListNode τ}
    (hnode : m.itemIndex.get? key = some node) {p : κ × LinkedListNode τ}
    (hp : p ∈ m.itemIndex) : p.2.address ≠ node.address ↔ p.1 ≠ key := by
  refine not_congr ⟨fun heq => ?_, fun heq => ?_⟩
  · have hmem := Dict.mem_of_get? hnode
    have hnodup : (m.itemIndex.map fun p => p.2.address).Nodup := by
      have := h.once
      rwa [h.list, List.map_map] at this
    exact congrArg Prod.fst (List.inj_on_of_nodup_map hnodup hp hmem heq)
  · obtain ⟨k, n⟩ := p
    subst heq
    obtain rfl := Option.some.inj (hnode.symm.trans (Dict.get?_of_mem h.keys hp))
    rfl

lemma remove (h : m.Linked entries) (key : Option κ) :
    (m.remove key).2.Linked ((MapOp.remove key : MapOp κ τ).apply entries) := by
  cases key with
  | none => exact h
  | some key =>
    rcases hnode : m.itemIndex.get? key with - | node
    · have hremove : (m.remove (some key)).2 = m := by simp [LinkedHashMap.remove, node?, hnode]
      have habsent : key ∉ entries.keys := by
        rw [h.keys_eq]
        exact Dict.get?_eq_none_iff.mp hnode
      rw [hremove, MapOp.apply, Dict.erase_of_not_mem habsent]
      exact h
    · have hmem : node ∈ m.itemList := by
        rw [h.list]
        exact List.mem_map_of_mem (Dict.mem_of_get? hnode)
      have hremove : (m.remove (some key)).2 = { m with
          itemList := m.itemList.filter fun n => decide (n.address ≠ node.address)
          itemIndex := m.itemIndex.erase key } := by
        simp only [LinkedHashMap.remove, node?, hnode, if_pos (List.mem_map_of_mem hmem)]
      have hsub : (m.itemList.filter fun n => decide (n.address ≠ node.address)) <+ m.itemList :=
        List.filter_sublist
      rw [hremove, MapOp.apply]
      refine ⟨?_, ?_, h.once.sublist (hsub.map _), fun n hn => h.bounded n (hsub.subset hn), ?_⟩
      · simp only [h.list, List.filter_map, Dict.erase]
        refine congrArg _ (List.filter_congr fun p hp => ?_)
        exact decide_eq_decide.mpr (h.address_ne_iff hnode hp)
      · rw [h.entries, Dict.erase, List.filter_map]
        rfl
      · rw [Dict.keys_erase]
        exact h.keys.filter _

omit [DecidableEq κ] in
lemma clear (m : LinkedHashMap κ τ) : m.clear.Linked [] :=
  ⟨rfl, rfl, List.nodup_nil, fun _ hn => absurd hn List.not_mem_nil, List.nodup_nil⟩

lemma step (h : m.Linked entries) {op : MapOp κ τ} (hop : op.Fresh m) :
    (m.step op).Linked (op.apply entries) := by
  cases op with
  | add key value =>
    obtain ⟨k, rfl, hnew⟩ := hop
    exact h.add hnew value
  | remove key => exact h.remove key
  | containsKey key | tryGetValue key | item key => exact h
  | clear => exact .clear m

end Linked

lemma run_concat (ops : List (MapOp κ τ)) (op : MapOp κ τ) : run (ops ++ [op]) = (run ops).step op :=
  List.foldl_concat ..

lemma entries_concat (ops : List (MapOp κ τ)) (op : MapOp κ τ) :
    MapOp.entries (ops ++ [op]) = op.apply (MapOp.entries ops) :=
  List.foldl_concat ..

lemma linked_run {ops : List (MapOp κ τ)}
    (h : ∀ first op rest, ops = first ++ op :: rest → op.Fresh (run first)) :
    (run ops).Linked (MapOp.entries ops) := by
  induction ops using List.reverseRecOn with
  | nil => exact linked_new
  | append_singleton ops op ih =>
    rw [run_concat, entries_concat]
    refine (ih fun first op' rest heq => ?_).step (h ops op [] rfl)
    exact h first op' (rest ++ [op]) (by rw [heq, List.append_assoc, List.cons_append])

/-! ## Additions that throw -/

/-- The node of an addition that throws stays in the list. -/
lemma Coherent.fresh {ops : List (MapOp κ τ)} {op : MapOp κ τ}
    (h : (run ops).Coherent (MapOp.entries ops))
    (hop : (run (ops ++ [op])).Coherent (MapOp.entries (ops ++ [op]))) : op.Fresh (run ops) := by
  have hlen := h.nodes.length_eq
  have hlen' := hop.nodes.length_eq
  rw [run_concat] at hlen'
  cases op with
  | add key value =>
    cases key with
    | none =>
      simp only [step, LinkedHashMap.add, List.length_append, List.length_map,
        List.length_singleton] at hlen hlen'
      omega
    | some key =>
      refine ⟨key, rfl, Option.not_isSome_iff_eq_none.mp fun hsome => ?_⟩
      simp only [step, LinkedHashMap.add, hsome, if_true, List.length_append, List.length_map,
        List.length_singleton] at hlen hlen'
      omega
  | _ => trivial

/-- The structures are coherent after every part of a sequence of operations exactly when each
addition is under a key that is neither null nor there. -/
theorem coherent_iff_fresh (ops : List (MapOp κ τ)) :
    (∀ first rest, ops = first ++ rest → (run first).Coherent (MapOp.entries first)) ↔
      ∀ first op rest, ops = first ++ op :: rest → op.Fresh (run first) := by
  constructor
  · intro h first op rest heq
    exact (h first (op :: rest) heq).fresh (h (first ++ [op]) rest (by simpa using heq))
  · intro h first rest heq
    refine (linked_run fun first' op rest' heq' => ?_).coherent
    exact h first' op (rest' ++ rest) (by rw [heq, heq', List.append_assoc, List.cons_append])

/-- A second addition under a key throws, and two values are enumerated for one key. -/
theorem not_coherent_readded :
    ((run [(MapOp.add (some 0) 7 : MapOp Nat Nat)]).add (some 0) 8).1 = .error .argument ∧
      (run [MapOp.add (some 0) 7, MapOp.add (some 0) 8]).enumerate = [7, 8] ∧
      ¬ (run [MapOp.add (some 0) 7, MapOp.add (some 0) 8]).Coherent
        (MapOp.entries [MapOp.add (some 0) 7, MapOp.add (some 0) 8]) := by
  refine ⟨rfl, rfl, fun h => ?_⟩
  exact absurd h.counted (by decide)

end LinkedHashMap

end Halcyon.Joke
