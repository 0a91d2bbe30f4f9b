import Halcyon.Lib.Outcome

/-!
# Annotated straight-line code

A list of instructions, each of which relates an annotation before it to an annotation after it:
the types on a stack, the variables that are initialised, anything a checker computes along the
code.  `Path R a code b` says that the annotations fit together from `a` to `b`.

Two uses.  `Path.append` puts code together, which is how an annotation is assigned to every
point of a program.  `Path.runs` is the soundness rule: if every instruction, started in a state
that its first annotation describes, ends in one its second annotation describes or stops with an
allowed error, then so does the whole list.
-/

namespace Halcyon.Lib

/-- The annotations `a` and `b` fit the ends of a list of instructions, and every instruction
fits the annotations around it. -/
inductive Path {ι α : Type} (R : ι → α → α → Prop) : α → List ι → α → Prop
  | nil (a : α) : Path R a [] a
  | cons {i : ι} {is : List ι} {a b c : α} (step : R i a b) (rest : Path R b is c) :
      Path R a (i :: is) c

namespace Path

variable {ι α : Type} {R : ι → α → α → Prop} {a b c : α} {i : ι} {is js : List ι}

lemma single (h : R i a b) : Path R a [i] b := cons h (nil b)

lemma append (h : Path R a is b) (h' : Path R b js c) : Path R a (is ++ js) c := by
  induction h with
  | nil => exact h'
  | cons step _ ih => exact cons step (ih h')

section Runs

variable {σ ε : Type}

/-- Runs instructions one after the other. -/
def run (exec : ι → σ → Except ε σ) : List ι → σ → Except ε σ
  | [], s => .ok s
  | i :: is, s => exec i s >>= run exec is

variable {allowed : ε → Prop}

/-- Soundness of annotations: what every instruction keeps, the whole list keeps. -/
theorem runs (exec : ι → σ → Except ε σ) (Inv : α → σ → Prop)
    (hstep : ∀ i a b, R i a b → ∀ s, Inv a s → Ends allowed (Inv b) (exec i s))
    (h : Path R a is b) : ∀ s, Inv a s → Ends allowed (Inv b) (run exec is s) := by
  induction h with
  | nil => exact fun s hs => hs
  | cons step _ ih => exact fun s hs => (hstep _ _ _ step s hs).bind ih

end Runs

end Path

end Halcyon.Lib
