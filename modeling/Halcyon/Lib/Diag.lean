import Mathlib.Tactic.Lemma

/-!
# Computations that report

`Diag ε α` is a computation that collects messages of type `ε` and may give up.  Unlike an
exception, a message does not stop the computation: a checker reports a problem and goes on
with the next part of its input.  A computation can also end without a result and without a
message, which is how a pattern that does not match ends.

The one thing clients need is when such a computation succeeds *silently*: `bind_eq_ok` takes a
silent success of a sequence apart into silent successes of its parts.
-/

namespace Halcyon.Lib

/-- A computation with messages; `result` is `none` when it gave up. -/
structure Diag (ε α : Type) where
  result : Option α
  messages : List ε

namespace Diag

variable {ε α β : Type}

/-- Success without a message. -/
def ok (a : α) : Diag ε α := ⟨some a, []⟩

/-- Giving up without a message. -/
def mismatch : Diag ε α := ⟨none, []⟩

/-- A message, after which the computation goes on. -/
def report (e : ε) : Diag ε Unit := ⟨some (), [e]⟩

/-- A message, after which the computation gives up. -/
def abort (e : ε) : Diag ε α := ⟨none, [e]⟩

/-- A message if a condition fails. -/
def require (c : Bool) (e : ε) : Diag ε Unit := if c then ok () else report e

/-- Several messages, after which the computation goes on. -/
def reports (es : List ε) : Diag ε Unit := ⟨some (), es⟩

/-- Runs a computation and goes on whether or not it has a result. -/
def attempt (x : Diag ε α) : Diag ε (Option α) := ⟨some x.result, x.messages⟩

protected def bind (x : Diag ε α) (f : α → Diag ε β) : Diag ε β :=
  match x.result with
  | none => ⟨none, x.messages⟩
  | some a => ⟨(f a).result, x.messages ++ (f a).messages⟩

instance : Monad (Diag ε) where
  pure := ok
  bind := Diag.bind

@[simp] lemma pure_eq_ok (a : α) : (pure a : Diag ε α) = ok a := rfl

@[simp] lemma ok_bind (a : α) (f : α → Diag ε β) : (ok a >>= f) = f a := by
  show Diag.bind (ok a) f = f a
  simp [Diag.bind, ok]

variable {a : α}

@[simp] lemma ok_inj {b : α} : (ok a : Diag ε α) = ok b ↔ a = b := by
  simp [ok]

@[simp] lemma messages_ok (a : α) : (ok a : Diag ε α).messages = [] := rfl

@[simp] lemma messages_abort (e : ε) : (abort e : Diag ε α).messages = [e] := rfl

@[simp] lemma messages_report_bind (e : ε) (f : Unit → Diag ε β) :
    (report e >>= f).messages = e :: (f ()).messages := rfl

variable {x : Diag ε α} {f : α → Diag ε β}

/-- A sequence succeeds silently exactly when its parts do. -/
lemma bind_eq_ok {b : β} :
    (x >>= f) = ok b ↔ ∃ a, x = ok a ∧ f a = ok b := by
  obtain ⟨r, ms⟩ := x
  show Diag.bind ⟨r, ms⟩ f = ok b ↔ _
  cases r with
  | none => simp [Diag.bind, ok]
  | some a =>
    rcases hf : f a with ⟨r', ms'⟩
    simp only [Diag.bind, hf, ok, Diag.mk.injEq, List.append_eq_nil_iff, Option.some.injEq]
    constructor
    · rintro ⟨hr, hms, hms'⟩
      exact ⟨a, ⟨rfl, hms⟩, by rw [hf, hr, hms']⟩
    · rintro ⟨a', ⟨rfl, hms⟩, h⟩
      rw [hf] at h
      simp only [Diag.mk.injEq] at h
      exact ⟨h.1, hms, h.2⟩

/-- A sequence without messages begins with a part without messages. -/
lemma messages_of_bind (h : (x >>= f).messages = []) :
    x.messages = [] := by
  have h' : (Diag.bind x f).messages = [] := h
  unfold Diag.bind at h'
  split at h'
  · exact h'
  · exact (List.append_eq_nil_iff.mp h').1

variable {e : ε} {u : Unit}

@[simp] lemma report_ne_ok : (report e : Diag ε Unit) ≠ ok u := by
  simp [report, ok]

@[simp] lemma abort_ne_ok : (abort e : Diag ε α) ≠ ok a := by
  simp [abort, ok]

@[simp] lemma mismatch_ne_ok : (mismatch : Diag ε α) ≠ ok a := by
  simp [mismatch, ok]

@[simp] lemma require_eq_ok {c : Bool} :
    require c e = ok u ↔ c = true := by
  cases c <;> simp [require]

@[simp] lemma reports_eq_ok {es : List ε} : reports es = ok u ↔ es = [] := by
  simp [reports, ok]

@[simp] lemma attempt_eq_ok {r : Option α} :
    attempt x = ok r ↔ x.messages = [] ∧ x.result = r := by
  simp [attempt, ok, and_comm]

lemma eq_ok_iff : x = ok a ↔ x.result = some a ∧ x.messages = [] := by
  obtain ⟨r, ms⟩ := x
  simp [ok]

/-! ## Computations that do not give up silently -/

/-- The computation says why whenever it does not succeed. -/
def Decisive (x : Diag ε α) : Prop := x.messages = [] → ∃ a, x = ok a

lemma decisive_ok (a : α) : Decisive (ok a : Diag ε α) := fun _ => ⟨a, rfl⟩

lemma decisive_report (e : ε) : Decisive (report e) := fun h => by simp [report] at h

lemma decisive_abort (e : ε) : Decisive (abort e : Diag ε α) := fun h => by simp [abort] at h

lemma decisive_require (c : Bool) (e : ε) : Decisive (require c e) := by
  cases c
  · exact decisive_report e
  · exact decisive_ok ()

lemma decisive_reports (es : List ε) : Decisive (reports es) := by
  intro h
  exact ⟨(), reports_eq_ok.mpr h⟩

lemma Decisive.bind (hx : Decisive x) (hf : ∀ a, x = ok a → Decisive (f a)) :
    Decisive (x >>= f) := by
  intro h
  obtain ⟨a, rfl⟩ := hx (messages_of_bind h)
  rw [ok_bind] at h ⊢
  exact hf a rfl h

end Diag

end Halcyon.Lib
