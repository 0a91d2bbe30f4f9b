import Mathlib.Data.Option.Basic
import Mathlib.Tactic.Common

/-!
# Transition systems

A system is given by a partial function `step` from a state and an event to the next state; an
event that cannot happen in a state has no next state.  Whatever the system does not decide for
itself (the schedule, the answer of a component outside, a failure) is part of the event, so that
a list of events determines the run.

An invariant is proved from the step function once (`invariant`).  Where a step keeps it only
under a condition on the state before the step and on the event, `Meets` says that a run satisfies
the condition at every step (`invariant_of_meets`).
-/

namespace Halcyon.Lib.Transition

variable {σ ε : Type} (step : σ → ε → Option σ)

/-- The state after a list of events, if all of them can happen. -/
def run : σ → List ε → Option σ
  | s, [] => some s
  | s, e :: es => (step s e).bind fun s' => run s' es

/-- The state can be reached from another one. -/
def Reachable (s s' : σ) : Prop :=
  ∃ es, run step s es = some s'

/-- Every event of a run satisfies a condition in the state in which it happens. -/
def Meets (cond : σ → ε → Prop) : σ → List ε → Prop
  | _, [] => True
  | s, e :: es => cond s e ∧ ∀ s', step s e = some s' → Meets cond s' es

variable {step} {s s' : σ} {e : ε} {es fs : List ε}

lemma run_cons_eq_some :
    run step s (e :: es) = some s' ↔ ∃ t, step s e = some t ∧ run step t es = some s' :=
  Option.bind_eq_some_iff

/-- A step that is possible under a condition. -/
lemma guarded_eq_some {c : Prop} [Decidable c] :
    (if c then some s else none) = some s' ↔ c ∧ s' = s := by
  rw [Option.ite_none_right_eq_some, Option.some_inj, eq_comm (a := s)]

lemma run_append : run step s (es ++ fs) = (run step s es).bind fun t => run step t fs := by
  induction es generalizing s with
  | nil => rfl
  | cons e es ih =>
    rw [List.cons_append, run, run]
    cases step s e with
    | none => rfl
    | some t => exact ih

variable {cond : σ → ε → Prop}

lemma Meets.cons {t : σ} (ht : step s e = some t) (hcond : cond s e)
    (hmeets : Meets step cond t es) : Meets step cond s (e :: es) := by
  refine ⟨hcond, fun s' hs' => ?_⟩
  obtain rfl := Option.some.inj (ht.symm.trans hs')
  exact hmeets

instance Meets.instDecidable {cond : σ → ε → Prop} [∀ s e, Decidable (cond s e)] :
    ∀ (s : σ) (es : List ε), Decidable (Meets step cond s es)
  | _, [] => isTrue trivial
  | s, e :: es =>
    have : Decidable (∀ s', step s e = some s' → Meets step cond s' es) :=
      match step s e with
      | none => isTrue nofun
      | some t => @decidable_of_iff _ (Meets step cond t es)
          ⟨fun h _ hs' => Option.some.inj hs' ▸ h, fun h => h t rfl⟩ (Meets.instDecidable t es)
    inferInstanceAs (Decidable (_ ∧ _))

lemma meets_of_forall_mem {cond : ε → Prop} (h : ∀ e ∈ es, cond e) :
    Meets step (fun _ e => cond e) s es := by
  induction es generalizing s with
  | nil => trivial
  | cons e es ih =>
    obtain ⟨he, hes⟩ := List.forall_mem_cons.mp h
    exact ⟨he, fun t _ => ih hes⟩

lemma Meets.append_right (h : Meets step cond s (es ++ fs)) (hrun : run step s es = some s') :
    Meets step cond s' fs := by
  induction es generalizing s with
  | nil =>
    obtain rfl := Option.some.inj hrun
    exact h
  | cons e es ih =>
    obtain ⟨t, ht, hrun⟩ := run_cons_eq_some.mp hrun
    exact ih (h.2 t ht) hrun

lemma Meets.append_left (h : Meets step cond s (es ++ fs)) :
    Meets step cond s es := by
  induction es generalizing s with
  | nil => trivial
  | cons e es ih => exact ⟨h.1, fun t ht => ih (h.2 t ht)⟩

lemma Meets.and {cond' : σ → ε → Prop} (h : Meets step cond s es) (h' : Meets step cond' s es) :
    Meets step (fun s e => cond s e ∧ cond' s e) s es := by
  induction es generalizing s with
  | nil => trivial
  | cons e es ih =>
    exact ⟨⟨h.1, h'.1⟩, fun t ht => ih (h.2 t ht) (h'.2 t ht)⟩

/-- A property that holds at the start and that every step preserves under a condition holds at
the end of every run that meets the condition. -/
theorem invariant_of_meets {P : σ → Prop}
    (hstep : ∀ s e s', P s → cond s e → step s e = some s' → P s') (hrun : run step s es = some s')
    (hmeets : Meets step cond s es) (hs : P s) : P s' := by
  induction es generalizing s with
  | nil => exact Option.some.inj hrun ▸ hs
  | cons e es ih =>
    obtain ⟨t, ht, hrun⟩ := run_cons_eq_some.mp hrun
    obtain ⟨hcond, hmeets⟩ := hmeets
    exact ih hrun (hmeets t ht) (hstep s e t hs hcond ht)

/-- A property that holds at the start and that every step preserves holds in every run. -/
theorem invariant {P : σ → Prop} (hstep : ∀ s e s', P s → step s e = some s' → P s')
    (hrun : run step s es = some s') (hs : P s) : P s' := by
  induction es generalizing s with
  | nil => exact Option.some.inj hrun ▸ hs
  | cons e es ih =>
    obtain ⟨t, ht, hrun⟩ := run_cons_eq_some.mp hrun
    exact ih hrun (hstep s e t hs ht)

end Halcyon.Lib.Transition
