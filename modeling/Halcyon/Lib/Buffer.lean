import Mathlib.Data.List.Basic

/-!
# Reading memory without checks

A program that indexes an array without comparing the index with the length either reads what is
there or leaves the array, and then nothing is known about what it does.  An `Access` is the
outcome of such a program: it returns a value, throws an exception, or has left the buffer.  The
last outcome absorbs everything after it, so a program stays inside the buffer if and only if each
of its reads does on the values read before (`inside_bind`).
-/

namespace Halcyon.Lib

/-- The outcome of a program that reads a buffer without checks. -/
inductive Access (ε α : Type)
  | done (value : α)
  | throws (error : ε)
  | outside
  deriving DecidableEq

namespace Access

variable {ε α β : Type} {x : Access ε α} {f : α → Access ε β}

/-- The rest of the program runs on the value of the first part. -/
def bind (x : Access ε α) (f : α → Access ε β) : Access ε β :=
  match x with
  | done a => f a
  | throws e => throws e
  | outside => outside

instance : Monad (Access ε) where
  pure := done
  bind := bind

instance : MonadExceptOf ε (Access ε) where
  throw := throws
  tryCatch x handler := match x with
    | throws e => handler e
    | x => x

/-- Every byte that was read lies in the buffer. -/
def Inside (x : Access ε α) : Prop := x ≠ outside

instance : (x : Access ε α) → Decidable x.Inside
  | done _ | throws _ => isTrue nofun
  | outside => isFalse fun h => h rfl

@[simp] lemma inside_done (a : α) : (done a : Access ε α).Inside := nofun

@[simp] lemma inside_pure (a : α) : (pure a : Access ε α).Inside := nofun

@[simp] lemma inside_throw (e : ε) : (throw e : Access ε α).Inside := nofun

@[simp] lemma not_inside_outside : ¬ (outside : Access ε α).Inside := fun h => h rfl

@[simp] lemma done_bind (a : α) : (done a >>= f) = f a := rfl

@[simp] lemma throws_bind (e : ε) : (throws e >>= f) = throws e := rfl

@[simp] lemma outside_bind : ((outside : Access ε α) >>= f) = outside := rfl

lemma inside_bind : (x >>= f).Inside ↔ x.Inside ∧ ∀ a, x = done a → (f a).Inside := by
  cases x with
  | done a => simp
  | throws e => exact ⟨fun _ => ⟨nofun, nofun⟩, fun _ => nofun⟩
  | outside => simp

end Access

/-! ## Reads -/

section Reads

variable {ε β : Type} (buf : List β)

/-- The element at an index. -/
def readAt (i : Nat) : Access ε β :=
  match buf[i]? with
  | some b => .done b
  | none => .outside

/-- `n` elements from an address on; where `n` is zero nothing is read. -/
def readRange (i n : Nat) : Access ε (List β) :=
  if n = 0 then .done []
  else if i + n ≤ buf.length then .done ((buf.drop i).take n)
  else .outside

variable {buf} {i n : Nat}

lemma inside_readAt : (readAt buf i : Access ε β).Inside ↔ i < buf.length := by
  rw [readAt]
  cases h : buf[i]? with
  | none => simpa using List.getElem?_eq_none_iff.mp h
  | some b => simpa using (List.getElem?_eq_some_iff.mp h).1

lemma readAt_eq_done {b : β} : (readAt buf i : Access ε β) = .done b ↔ buf[i]? = some b := by
  rw [readAt]
  cases buf[i]? <;> simp

lemma inside_readRange :
    (readRange buf i n : Access ε (List β)).Inside ↔ n = 0 ∨ i + n ≤ buf.length := by
  rw [readRange]
  by_cases hn : n = 0
  · simp [hn]
  · rw [if_neg hn]
    split_ifs with h <;> simp [hn, h]

/-- A range inside the buffer is read as it stands there. -/
lemma readRange_eq (h : i + n ≤ buf.length) :
    (readRange buf i n : Access ε (List β)) = .done ((buf.drop i).take n) := by
  rw [readRange]
  split_ifs with hn
  · rw [hn, List.take_zero]
  · rfl

end Reads

end Halcyon.Lib
