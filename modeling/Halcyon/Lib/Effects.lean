import Mathlib.Tactic.Common

/-!
# Computations that fail and leave their effects behind

A computation in `EStateM` changes a state and may fail, and what it has changed before the failure
stays.  `Leaves E Q x s` says of a computation started in a state that it ends with a result and a
state that satisfy `Q`, or fails in a state that satisfies `E`.  `Leaves.bind` follows a sequence of
steps: every state between two steps is one in which the second can fail.
-/

namespace Halcyon.Lib

variable {ε σ α β : Type}

/-- The computation ends as `Q` says, or fails and leaves a state as `E` says. -/
def Leaves (E : σ → Prop) (Q : α → σ → Prop) (x : EStateM ε σ α) (s : σ) : Prop :=
  match x s with
  | .ok a s' => Q a s'
  | .error _ s' => E s'

variable {E E' : σ → Prop} {Q Q' : α → σ → Prop} {R : β → σ → Prop} {x : EStateM ε σ α} {s : σ}

variable {f : α → EStateM ε σ β}

lemma Leaves.bind (h : Leaves E Q x s) (hf : ∀ a s', Q a s' → Leaves E R (f a) s') :
    Leaves E R (x >>= f) s := by
  change Leaves E R (EStateM.bind x f) s
  unfold Leaves EStateM.bind at *
  cases hx : x s with
  | ok a s' =>
    rw [hx] at h
    exact hf a s' h
  | error e s' =>
    rw [hx] at h
    exact h

/-! ## Running a computation -/

variable {s' : σ}

lemma bind_of_ok {a : α} (h : x s = .ok a s') :
    (x >>= f) s = f a s' := by
  change EStateM.bind x f s = f a s'
  rw [EStateM.bind, h]

variable {e : ε}

lemma bind_of_error (h : x s = .error e s') :
    (x >>= f) s = .error e s' := by
  change EStateM.bind x f s = .error e s'
  rw [EStateM.bind, h]

lemma tryCatch_of_error {f : ε → EStateM ε σ α} (h : x s = .error e s') :
    (tryCatch x f : EStateM ε σ α) s = f e s' := by
  change EStateM.tryCatch x f s = f e s'
  rw [EStateM.tryCatch, h]
  rfl

/-! ## Following a computation -/

/-- What is caught is handled in the state that the failure left. -/
lemma Leaves.tryCatch {f : ε → EStateM ε σ α} (h : Leaves E Q x s)
    (hf : ∀ e s', E s' → Leaves E' Q (f e) s') : Leaves E' Q (tryCatch x f) s := by
  change Leaves E' Q (EStateM.tryCatch x f) s
  unfold Leaves EStateM.tryCatch at *
  cases hx : x s with
  | ok a s' =>
    rw [hx] at h
    exact h
  | error e s' =>
    rw [hx] at h
    exact hf e s' h

lemma leaves_pure {a : α} (h : Q a s) : Leaves E Q (pure a : EStateM ε σ α) s := h

lemma leaves_throw (h : E s) : Leaves E Q (throw e : EStateM ε σ α) s := h

lemma leaves_get : Leaves E (fun a s' => a = s ∧ s' = s) (get : EStateM ε σ σ) s := ⟨rfl, rfl⟩

lemma leaves_modify (f : σ → σ) :
    Leaves E (fun _ s' => s' = f s) (modify f : EStateM ε σ PUnit) s := rfl

/-- A test, and what is done unless it fails. -/
lemma leaves_unless {c : Prop} [Decidable c] {f : PUnit → EStateM ε σ β} (h : E s)
    (hf : ¬ c → Leaves E R (f ⟨⟩) s) : Leaves E R (if c then throw e >>= f else f ⟨⟩) s := by
  split_ifs with hc
  · exact h
  · exact hf hc

end Halcyon.Lib
