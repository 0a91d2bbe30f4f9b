import Mathlib.Data.List.Forall2

/-!
# Outcomes of fallible computations

Rewriting with the sequencing of `Except` and with loops of `Option`, and the predicate
`Ends allowed P`, which holds of an outcome that is an allowed error or a result with the property
`P`.  `Ends.bind` sequences such facts, so that a proof about a computation that can fail in
several places follows its steps.
-/

namespace Halcyon.Lib

variable {ε α β : Type}

@[simp] lemma ok_bind (a : α) (f : α → Except ε β) : (Except.ok a >>= f) = f a := rfl

@[simp] lemma error_bind (e : ε) (f : α → Except ε β) :
    ((Except.error e : Except ε α) >>= f) = .error e := rfl

variable {f : α → Except ε β}

lemma bind_eq_ok {x : Except ε α} {b : β} :
    (x >>= f) = .ok b ↔ ∃ a, x = .ok a ∧ f a = .ok b := by
  cases x with
  | error e => simp
  | ok a => simp

lemma toOption_eq_some {x : Except ε α} {a : α} : x.toOption = some a ↔ x = .ok a := by
  cases x <;> simp [Except.toOption]

/-- The outcome is an allowed error or a result that satisfies the property. -/
def Ends (allowed : ε → Prop) (P : α → Prop) (r : Except ε α) : Prop :=
  match r with
  | .error e => allowed e
  | .ok a => P a

variable {allowed allowed' : ε → Prop} {P P' : α → Prop} {Q : β → Prop} {r : Except ε α}

@[simp] lemma ends_ok {a : α} : Ends allowed P (.ok a) ↔ P a := Iff.rfl

@[simp] lemma ends_error {e : ε} : Ends allowed P (.error e) ↔ allowed e := Iff.rfl

lemma Ends.bind (h : Ends allowed P r) (hf : ∀ a, P a → Ends allowed Q (f a)) :
    Ends allowed Q (r >>= f) := by
  cases r with
  | error e => exact h
  | ok a => exact hf a h

lemma Ends.mono (h : Ends allowed P r) (he : ∀ e, allowed e → allowed' e)
    (hP : ∀ a, P a → P' a) : Ends allowed' P' r := by
  cases r with
  | error e => exact he e h
  | ok a => exact hP a h

lemma forall₂_of_mem {α β : Type} {R S : α → β → Prop} {as : List α} {bs : List β}
    (h : List.Forall₂ R as bs) (hS : ∀ a ∈ as, ∀ b, R a b → S a b) : List.Forall₂ S as bs := by
  induction h with
  | nil => exact .nil
  | cons hab _ ih =>
    exact .cons (hS _ List.mem_cons_self _ hab) (ih fun a ha => hS a (List.mem_cons_of_mem _ ha))

lemma exists_of_forall₂ {α β : Type} {R : α → β → Prop} {as : List α} {bs : List β}
    (h : List.Forall₂ R as bs) {a : α} (ha : a ∈ as) : ∃ b ∈ bs, R a b := by
  induction h with
  | nil => exact absurd ha List.not_mem_nil
  | cons hab _ ih =>
    rcases List.mem_cons.mp ha with rfl | ha
    · exact ⟨_, List.mem_cons_self, hab⟩
    · obtain ⟨b, hb, hR⟩ := ih ha
      exact ⟨b, List.mem_cons_of_mem _ hb, hR⟩

/-! ## Loops whose steps succeed under a test -/

section Tested

variable {f : α → Option β} {g : α → β} {p : α → Bool}

variable {xs : List α}

lemma mapM_of_tested (h : ∀ a ∈ xs, f a = if p a then some (g a) else none) :
    xs.mapM f = if xs.all p then some (xs.map g) else none := by
  induction xs with
  | nil => rfl
  | cons x xs ih =>
    obtain ⟨hx, hxs⟩ := List.forall_mem_cons.mp h
    rw [List.mapM_cons, hx, ih hxs, List.all_cons]
    cases p x <;> cases xs.all p <;> rfl

/-- Pushing the results of a list from the last to the first yields a stack in its order. -/
lemma foldlM_push_of_tested (h : ∀ a ∈ xs, f a = if p a then some (g a) else none) :
    xs.reverse.foldlM (fun stack x => (f x).map fun y => y :: stack) [] =
      if xs.all p then some (xs.map g) else none := by
  rw [List.foldlM_reverse]
  induction xs with
  | nil => rfl
  | cons x xs ih =>
    obtain ⟨hx, hxs⟩ := List.forall_mem_cons.mp h
    rw [List.foldrM_cons, ih hxs, hx, List.all_cons]
    cases p x <;> cases xs.all p <;> rfl

/-- Appending the results of a list one by one. -/
lemma foldlM_append_of_tested (h : ∀ a ∈ xs, f a = if p a then some (g a) else none)
    (queue : List β) :
    xs.foldlM (fun queue x => (f x).map fun y => queue ++ [y]) queue =
      if xs.all p then some (queue ++ xs.map g) else none := by
  induction xs generalizing queue with
  | nil => simp
  | cons x xs ih =>
    obtain ⟨hx, hxs⟩ := List.forall_mem_cons.mp h
    rw [List.foldlM_cons, hx, List.all_cons]
    cases p x with
    | false => rfl
    | true => simpa using ih hxs (queue ++ [g x])

end Tested

end Halcyon.Lib
