import Halcyon.Lib.Dict

/-!
# Who waits for an answer

A component that is asked something and answers later gives every question the next number as a
ticket.  `Ledger n waiting served` says that the first `n` tickets are out and that each is either
still waiting or served, and only once.  Questions for the same key may join, so that one answer
serves all of them: `Waiters` is a dictionary from keys to the tickets that wait for them.
-/

namespace Halcyon.Lib

open scoped List

/-! ## The ledger of tickets -/

/-- Every ticket below `n` is waiting or served, exactly once. -/
def Ledger (n : Nat) (waiting served : List Nat) : Prop := waiting ++ served ~ List.range n

namespace Ledger

variable {n t : Nat} {waiting waiting' served ts : List Nat}

lemma start : Ledger 0 [] [] := .nil

/-- The next ticket is given out. -/
lemma issue (h : Ledger n waiting served) (hw : waiting' ~ n :: waiting) :
    Ledger (n + 1) waiting' served := by
  have hnext : n :: List.range n ~ List.range (n + 1) := by
    rw [List.range_succ]
    exact (List.perm_append_singleton n _).symm
  exact (hw.append_right served).trans ((h.cons n).trans hnext)

/-- Some of the tickets that wait are served. -/
lemma serve (h : Ledger n waiting served) (hw : waiting ~ ts ++ waiting') :
    Ledger n waiting' (served ++ ts) := by
  have hmove : waiting' ++ (served ++ ts) ~ ts ++ waiting' ++ served := by
    rw [← List.append_assoc, List.append_assoc ts]
    exact List.perm_append_comm
  exact hmove.trans ((hw.append_right served).symm.trans h)

lemma perm (h : Ledger n waiting served) (hw : waiting' ~ waiting) : Ledger n waiting' served :=
  (hw.append_right served).trans h

lemma count (h : Ledger n waiting served) (ht : t < n) : waiting.count t + served.count t = 1 := by
  have hcount := List.Perm.count_eq h t
  rw [List.count_append, List.count_range] at hcount
  simpa [ht] using hcount

lemma lt_of_mem_served (h : Ledger n waiting served) (ht : t ∈ served) : t < n :=
  List.mem_range.mp (h.subset (List.mem_append_right _ ht))

end Ledger

/-! ## Waiting for a key -/

/-- The tickets that wait for each key. -/
abbrev Waiters (κ : Type) := Dict κ (List Nat)

namespace Waiters

variable {κ : Type} [DecidableEq κ] {w : Waiters κ} {k : κ} {t : Nat} {ts : List Nat}

/-- All tickets that wait. -/
def tickets (w : Waiters κ) : List Nat := w.flatMap Prod.snd

omit [DecidableEq κ] in
lemma tickets_add : tickets (Dict.add w k ts) ~ ts ++ tickets w := by
  simp only [tickets, Dict.add, List.flatMap_append, List.flatMap_singleton]
  exact List.perm_append_comm

/-- The tickets of a key, and the others. -/
lemma tickets_erase (hw : (Dict.keys w).Nodup) (hk : Dict.get? w k = some ts) :
    tickets w ~ ts ++ tickets (Dict.erase w k) :=
  (Dict.perm_erase hw hk).flatMap_right Prod.snd

/-- A ticket joins those that wait for a key. -/
lemma tickets_join (hw : (Dict.keys w).Nodup) (hk : Dict.get? w k = some ts) :
    tickets (Dict.modify w k (· ++ [t])) ~ t :: tickets w := by
  calc tickets (Dict.modify w k (· ++ [t]))
      ~ (ts ++ [t]) ++ tickets (Dict.erase w k) :=
        (Dict.modify_perm hw hk _).flatMap_right Prod.snd
    _ ~ (t :: ts) ++ tickets (Dict.erase w k) :=
        (List.perm_append_singleton t ts).append_right _
    _ ~ t :: tickets w := ((tickets_erase hw hk).symm).cons t

end Waiters

end Halcyon.Lib
