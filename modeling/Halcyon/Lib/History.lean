import Mathlib.Data.List.Basic

/-!
# Histories

A history is a list of entries, the oldest first.  `AtEach P l` says of every entry of `l` what
holds when it is made: `P` relates the entries made before it to the entry itself.  A history only
grows at its end, so what was shown of the entries already made is never lost
(`atEach_append`).
-/

namespace Halcyon.Lib.History

variable {α : Type} {P : List α → α → Prop} {l l' : List α} {e : α}

/-- Every entry is related to the entries before it. -/
def AtEach (P : List α → α → Prop) (l : List α) : Prop :=
  ∀ a e b, l = a ++ e :: b → P a e

lemma atEach_nil : AtEach P [] := fun a _ _ h => by
  cases a <;> cases h

lemma atEach_cons : AtEach P (e :: l) ↔ P [] e ∧ AtEach (fun a => P (e :: a)) l := by
  constructor
  · intro h
    exact ⟨h [] e l rfl, fun a e' b hl => h (e :: a) e' b (by rw [hl, List.cons_append])⟩
  · rintro ⟨he, hl⟩ a e' b h
    cases a with
    | nil =>
      obtain ⟨rfl, rfl⟩ := List.cons.inj h
      exact he
    | cons x a =>
      obtain ⟨rfl, rfl⟩ := List.cons.inj h
      exact hl a e' b rfl

lemma atEach_append :
    AtEach P (l ++ l') ↔ AtEach P l ∧ AtEach (fun a => P (l ++ a)) l' := by
  induction l generalizing P with
  | nil => exact ⟨fun h => ⟨atEach_nil, h⟩, fun h => h.2⟩
  | cons x l ih => rw [List.cons_append, atEach_cons, atEach_cons, ih, and_assoc]; rfl

lemma atEach_concat : AtEach P (l ++ [e]) ↔ AtEach P l ∧ P l e := by
  rw [atEach_append, atEach_cons, List.append_nil]
  exact and_congr_right fun _ => and_iff_left atEach_nil

end Halcyon.Lib.History
