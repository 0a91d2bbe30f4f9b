import Mathlib.Data.List.Induction

/-!
# Chained hashes

A hash that is computed piece by piece, each piece with the hash of those before it.  `ChainHash`
is such a hash without collisions: a step takes different pieces or different hashes to different
hashes, and never to the seed.  The hash of a list then determines the list (`digest_injective`).
-/

namespace Halcyon.Lib

/-- The chaining step of a hash without collisions, and the seed that a chain starts from. -/
structure ChainHash (δ η : Type) where
  step : δ → η → η
  seed : η
  step_inj : ∀ d h d' h', step d h = step d' h' → d = d' ∧ h = h'
  step_ne_seed : ∀ d h, step d h ≠ seed

namespace ChainHash

variable {δ η : Type} (C : ChainHash δ η)

/-- The hash of further pieces. -/
def extend (h : η) (ds : List δ) : η := ds.foldl (fun h d => C.step d h) h

/-- The hash of a list of pieces. -/
def digest (ds : List δ) : η := C.extend C.seed ds

lemma extend_append (h : η) (ds es : List δ) :
    C.extend h (ds ++ es) = C.extend (C.extend h ds) es :=
  List.foldl_append

lemma extend_concat (h : η) (ds : List δ) (d : δ) :
    C.extend h (ds ++ [d]) = C.step d (C.extend h ds) :=
  C.extend_append h ds [d]

/-- The hash of a list determines the list. -/
theorem digest_injective : Function.Injective C.digest := by
  intro ds
  induction ds using List.reverseRecOn with
  | nil =>
    intro es h
    cases es using List.reverseRecOn with
    | nil => rfl
    | append_singleton es e =>
      rw [digest, digest, extend_concat] at h
      exact absurd h.symm (C.step_ne_seed _ _)
  | append_singleton ds d ih =>
    intro es h
    cases es using List.reverseRecOn with
    | nil =>
      rw [digest, digest, extend_concat] at h
      exact absurd h (C.step_ne_seed _ _)
    | append_singleton es e =>
      rw [digest, digest, extend_concat, extend_concat] at h
      obtain ⟨rfl, hinit⟩ := C.step_inj _ _ _ _ h
      rw [ih hinit]

/-- The hash that keeps its pieces. -/
def free (δ : Type) : ChainHash δ (List δ) where
  step := List.cons
  seed := []
  step_inj := fun _ _ _ _ h => List.cons.inj h
  step_ne_seed := fun _ _ h => List.cons_ne_nil _ _ h

end ChainHash

end Halcyon.Lib
