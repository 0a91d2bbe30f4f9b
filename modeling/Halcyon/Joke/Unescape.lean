import Halcyon.Joke.Asm
import Halcyon.Joke.Lexeme

/-!
# Unescaping string literals

`UnescapeStringChars` goes through the text of a literal with an index that jumps from backslash to
backslash.  Every access by index is checked by the run time system, so the loop could end with an
exception, and nothing but the index bounds the number of its rounds.

`unescapeLoop` is that loop, with the accesses as computations that may fail and a bound on the
rounds.  The invariant that separates what is done from what is left is `unescapeLoop_eq`: from an
index on, the loop appends what the recursion `unescapeChars` makes of the rest of the text.  So it
always ends, and never with an exception.  `escapeChars` writes a text as the body of a literal; the
lexer takes it whole, and unescaping gives the text back.
-/

namespace Halcyon.Joke

/-! ## The loop -/

/-- `IndexOutOfRangeException` and `ArgumentOutOfRangeException`. -/
inductive IndexError
  | outOfRange
  deriving DecidableEq

section Loop

variable (txt : List Char)

/-- `txt.IndexOf('\\', ix)`; not found is `none`. -/
def indexOfBackslash (ix : Nat) : Except IndexError (Option Nat) :=
  if txt.length < ix then .error .outOfRange
  else .ok (((txt.drop ix).findIdx? (· = '\\')).map (ix + ·))

/-- The part of the text that `Append(txt, ix, count)` appends. -/
def slice (ix count : Nat) : Except IndexError (List Char) :=
  if txt.length < ix + count then .error .outOfRange else .ok ((txt.drop ix).take count)

/-- `txt[ix]`. -/
def charAt (ix : Nat) : Except IndexError Char :=
  match txt[ix]? with
  | some c => .ok c
  | none => .error .outOfRange

/-- What is appended for an escape sequence; one that is not recognised is copied. -/
def unescaped (c : Char) : List Char :=
  match c with
  | 'n' => ['\n']
  | 'r' => ['\r']
  | 't' => [' ', ' ', ' ', ' ']
  | '"' => ['"']
  | '\\' => ['\\']
  | c => ['\\', c]

/-- Where a round stops to copy: at the next backslash, but not at one that ends the text. -/
def stopAt (found : Option Nat) : Nat :=
  match found with
  | none => txt.length
  | some jx => if jx = txt.length - 1 then txt.length else jx

/-- The loop of `UnescapeStringChars`, for a bounded number of rounds. -/
def unescapeLoop : Nat → Nat → List Char → Option (Except IndexError (List Char))
  | 0, _, _ => none
  | fuel + 1, ix, retval =>
    if ix < txt.length then
      match indexOfBackslash txt ix with
      | .error e => some (.error e)
      | .ok found =>
        let jx := stopAt txt found
        match slice txt ix (jx - ix) with
        | .error e => some (.error e)
        | .ok piece =>
          if txt.length ≤ jx then some (.ok (retval ++ piece))
          else
            match charAt txt (jx + 1) with
            | .error e => some (.error e)
            | .ok c => unescapeLoop fuel (jx + 2) (retval ++ piece ++ unescaped c)
    else some (.ok retval)

/-- The result of the whole function: with enough rounds the loop returns it. -/
def Unescapes (out : List Char) : Prop :=
  ∃ rounds, ∀ fuel, rounds ≤ fuel → unescapeLoop txt fuel 0 [] = some (.ok out)

end Loop

/-! ## The recursion -/

-- generated here once, the equations serve all the lemmas below
attribute [local simp] unescapeChars unescapeLoop

lemma unescapeChars_escape (c : Char) (rest : List Char) :
    unescapeChars ('\\' :: c :: rest) = unescaped c ++ unescapeChars rest := by
  conv_lhs => unfold unescapeChars
  rfl

lemma unescapeChars_cons {c : Char} (hc : c ≠ '\\') (rest : List Char) :
    unescapeChars (c :: rest) = c :: unescapeChars rest := by
  rw [unescapeChars]
  rintro c' rest' rfl
  exact absurd rfl hc

/-- A part without a backslash is copied. -/
lemma unescapeChars_append {pre : List Char} (hpre : ∀ c ∈ pre, c ≠ '\\') (rest : List Char) :
    unescapeChars (pre ++ rest) = pre ++ unescapeChars rest := by
  induction pre with
  | nil => rfl
  | cons c pre ih =>
    rw [List.cons_append, unescapeChars_cons (hpre c List.mem_cons_self),
      ih fun c' hc' => hpre c' (List.mem_cons_of_mem _ hc'), List.cons_append]

/-- A backslash that ends the text is copied as well. -/
lemma unescapeChars_last {pre : List Char} (hpre : ∀ c ∈ pre, c ≠ '\\') :
    unescapeChars (pre ++ ['\\']) = pre ++ ['\\'] := by
  rw [unescapeChars_append hpre]
  rfl

/-- How the rest of a text looks to a round: no backslash, one at the very end, or an escape
sequence behind a part without one. -/
lemma rest_cases (rest : List Char) :
    (∀ c ∈ rest, c ≠ '\\') ∨
      (∃ pre, rest = pre ++ ['\\'] ∧ ∀ c ∈ pre, c ≠ '\\') ∨
      ∃ pre c tail, rest = pre ++ '\\' :: c :: tail ∧ ∀ c ∈ pre, c ≠ '\\' := by
  induction rest with
  | nil => exact .inl fun c hc => absurd hc List.not_mem_nil
  | cons a rest ih =>
    by_cases ha : a = '\\'
    · subst ha
      cases rest with
      | nil => exact .inr (.inl ⟨[], rfl, fun c hc => absurd hc List.not_mem_nil⟩)
      | cons c tail => exact .inr (.inr ⟨[], c, tail, rfl, fun c hc => absurd hc List.not_mem_nil⟩)
    · have hcons : ∀ {pre : List Char}, (∀ c ∈ pre, c ≠ '\\') → ∀ c ∈ a :: pre, c ≠ '\\' :=
        fun hpre => List.forall_mem_cons.mpr ⟨ha, hpre⟩
      obtain hnone | ⟨pre, rfl, hpre⟩ | ⟨pre, c, tail, rfl, hpre⟩ := ih
      · exact .inl (hcons hnone)
      · exact .inr (.inl ⟨a :: pre, rfl, hcons hpre⟩)
      · exact .inr (.inr ⟨a :: pre, c, tail, rfl, hcons hpre⟩)

/-! ## The loop follows the recursion -/

section Rounds

variable {txt pre tail : List Char} {c : Char} {ix : Nat}

/-- The next backslash, when the part in front of it has none. -/
lemma indexOfBackslash_eq (hix : ix ≤ txt.length) (hrest : txt.drop ix = pre ++ '\\' :: tail)
    (hpre : ∀ c ∈ pre, c ≠ '\\') : indexOfBackslash txt ix = .ok (some (ix + pre.length)) := by
  have hnone : pre.findIdx? (· = '\\') = none := by
    rw [List.findIdx?_eq_none_iff]
    exact fun c hc => decide_eq_false (hpre c hc)
  rw [indexOfBackslash, if_neg (Nat.not_lt.mpr hix), hrest, List.findIdx?_append, hnone,
    List.findIdx?_cons]
  simp

lemma indexOfBackslash_eq_none (hix : ix ≤ txt.length) (hrest : ∀ c ∈ txt.drop ix, c ≠ '\\') :
    indexOfBackslash txt ix = .ok none := by
  have hnone : (txt.drop ix).findIdx? (· = '\\') = none := by
    rw [List.findIdx?_eq_none_iff]
    exact fun c hc => decide_eq_false (hrest c hc)
  rw [indexOfBackslash, if_neg (Nat.not_lt.mpr hix), hnone]
  rfl

/-- The part of a text from an index on, up to the given length. -/
lemma slice_eq (hix : ix ≤ txt.length) (hrest : txt.drop ix = pre ++ tail) :
    slice txt ix pre.length = .ok pre := by
  have hlen : txt.length - ix = pre.length + tail.length := by
    rw [← List.length_drop, hrest, List.length_append]
  rw [slice, if_neg (by omega), hrest, List.take_left]

/-- A round that stops at the end of the text. -/
lemma unescapeLoop_end {found : Option Nat} (hix : ix < txt.length)
    (hfound : indexOfBackslash txt ix = .ok found) (hstop : stopAt txt found = txt.length)
    (fuel : Nat) (retval : List Char) :
    unescapeLoop txt (fuel + 1) ix retval = some (.ok (retval ++ txt.drop ix)) := by
  have hslice : slice txt ix (txt.length - ix) = .ok (txt.drop ix) := by
    rw [← List.length_drop]
    exact slice_eq (Nat.le_of_lt hix) (List.append_nil _).symm
  simp only [unescapeLoop, if_pos hix, hfound, hstop, hslice, Nat.le_refl, if_true]

/-- A round that takes an escape sequence. -/
lemma unescapeLoop_escape (hix : ix ≤ txt.length)
    (hrest : txt.drop ix = pre ++ '\\' :: c :: tail) (hpre : ∀ c ∈ pre, c ≠ '\\')
    (fuel : Nat) (retval : List Char) :
    unescapeLoop txt (fuel + 1) ix retval =
      unescapeLoop txt fuel (ix + pre.length + 2) (retval ++ pre ++ unescaped c) := by
  have hlen : txt.length - ix = pre.length + (tail.length + 2) := by
    rw [← List.length_drop, hrest, List.length_append]
    rfl
  have hstop : stopAt txt (some (ix + pre.length)) = ix + pre.length := if_neg (by omega)
  have hslice : slice txt ix (ix + pre.length - ix) = .ok pre := by
    rw [Nat.add_sub_cancel_left]
    exact slice_eq hix hrest
  have hchar : charAt txt (ix + pre.length + 1) = .ok c := by
    have hget : txt[ix + pre.length + 1]? = some c := by
      rw [Nat.add_assoc, ← List.getElem?_drop, hrest,
        List.getElem?_append_right (Nat.le_add_right _ _), Nat.add_sub_cancel_left]
      rfl
    rw [charAt, hget]
  simp only [unescapeLoop, if_pos (show ix < txt.length by omega),
    indexOfBackslash_eq hix hrest hpre, hstop, hslice,
    if_neg (show ¬ txt.length ≤ ix + pre.length by omega), hchar]

/-- From an index on, the loop appends what the recursion makes of the rest. -/
lemma unescapeLoop_eq (txt : List Char) {fuel : Nat} :
    ∀ {ix : Nat}, txt.length - ix < fuel → ∀ retval : List Char,
      unescapeLoop txt fuel ix retval = some (.ok (retval ++ unescapeChars (txt.drop ix))) := by
  induction fuel with
  | zero => exact fun h => absurd h (Nat.not_lt_zero _)
  | succ fuel ih =>
    intro ix hfuel retval
    by_cases hix : ix < txt.length
    · have hle := Nat.le_of_lt hix
      obtain hnone | ⟨pre, hrest, hpre⟩ | ⟨pre, c, tail, hrest, hpre⟩ := rest_cases (txt.drop ix)
      · have hcopy : unescapeChars (txt.drop ix) = txt.drop ix := by
          have := unescapeChars_append hnone []
          rwa [List.append_nil, show unescapeChars [] = [] from rfl, List.append_nil] at this
        rw [unescapeLoop_end hix (indexOfBackslash_eq_none hle hnone) rfl, hcopy]
      · have hstop : stopAt txt (some (ix + pre.length)) = txt.length := by
          have hlen : txt.length - ix = pre.length + 1 := by
            rw [← List.length_drop, hrest, List.length_append]
            rfl
          exact if_pos (by omega)
        rw [unescapeLoop_end hix (indexOfBackslash_eq hle hrest hpre) hstop, hrest,
          unescapeChars_last hpre]
      · have hdrop : txt.drop (ix + pre.length + 2) = tail := by
          rw [Nat.add_assoc, ← List.drop_drop, hrest, ← List.drop_drop, List.drop_left]
          rfl
        have hlen : 0 < txt.length - ix := by omega
        rw [unescapeLoop_escape hle hrest hpre, ih (by omega), hdrop, hrest,
          unescapeChars_append hpre, unescapeChars_escape]
        simp only [List.append_assoc]
    · rw [unescapeLoop, if_neg hix, List.drop_eq_nil_of_le (Nat.not_lt.mp hix)]
      exact congrArg (fun l => some (Except.ok l)) (List.append_nil retval).symm

/-- The function returns what the recursion computes, on every text. -/
lemma unescapes_unescapeChars (txt : List Char) : Unescapes txt (unescapeChars txt) :=
  ⟨txt.length + 1, fun fuel hfuel => unescapeLoop_eq txt (by omega) []⟩

end Rounds

/-! ## Escaping -/

/-- A text as the body of a string literal. -/
def escapeChars : List Char → List Char
  | [] => []
  | '\\' :: rest => '\\' :: '\\' :: escapeChars rest
  | '"' :: rest => '\\' :: '"' :: escapeChars rest
  | '\n' :: rest => '\\' :: 'n' :: escapeChars rest
  | c :: rest => c :: escapeChars rest

/-- The recursion undoes the escapes one by one. -/
lemma unescapeChars_escapeChars (s : List Char) : unescapeChars (escapeChars s) = s := by
  fun_induction escapeChars s with
  | case1 => rfl
  | case2 rest ih | case3 rest ih | case4 rest ih =>
    rw [unescapeChars_escape, ih]
    rfl
  | case5 c rest hbackslash _ _ ih => rw [unescapeChars_cons hbackslash, ih]

/-- The lexer takes the body of the literal for what it is. -/
lemma scanString_escapeChars (s rest : List Char) :
    scanString (escapeChars s ++ '"' :: rest) = some (escapeChars s, rest) := by
  fun_induction escapeChars s with
  | case1 => rfl
  | case2 tail ih | case3 tail ih | case4 tail ih =>
    simp only [List.cons_append]
    rw [scanString, ih]
    rfl
  | case5 c tail hbackslash hquote _ ih =>
    simp only [List.cons_append]
    rw [scanString, if_neg hbackslash, ih]
    · rfl
    · exact hquote
    · exact fun _ _ heq => absurd heq hbackslash

/-- Unescaping ends on every text without an error of an index, and gives back every text that was
written as the body of a literal, which the lexer reads up to the quote that ends it. -/
theorem unescape_total_inverse :
    (∀ txt, ∃ out, Unescapes txt out) ∧
      ∀ s, (∀ rest, scanString (escapeChars s ++ '"' :: rest) = some (escapeChars s, rest)) ∧
        Unescapes (escapeChars s) s := by
  refine ⟨fun txt => ⟨_, unescapes_unescapeChars txt⟩, fun s => ⟨scanString_escapeChars s, ?_⟩⟩
  have hrun := unescapes_unescapeChars (escapeChars s)
  rwa [unescapeChars_escapeChars] at hrun

end Halcyon.Joke
