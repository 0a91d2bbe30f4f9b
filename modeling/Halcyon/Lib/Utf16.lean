import Mathlib.Data.List.Basic

/-!
# Text in UTF-16 and in UTF-8

A text is a list of 16-bit code units.  A unit that is no surrogate is a character by itself, a
high surrogate and a low one behind it are a character together, and any other surrogate stands for
no character.  `scalars` reads the characters, with the replacement character for such a lone
surrogate; `units` are the code units of a character.  Reading a text and writing it again gives
the same text exactly if it is well formed (`flatMap_units_scalars`).

`toUtf8` is the encoding of a text in UTF-8, and `ofUtf8` reads the characters of one.
-/

namespace Halcyon.Lib.Utf16

/-- The first half of a pair. -/
def isHigh (u : UInt16) : Bool := 0xD800 ≤ u.toNat && u.toNat < 0xDC00

/-- The second half of a pair. -/
def isLow (u : UInt16) : Bool := 0xDC00 ≤ u.toNat && u.toNat < 0xE000

/-- The character of a pair. -/
def pair (u v : UInt16) : Char :=
  Char.ofNat (0x10000 + (u.toNat - 0xD800) * 0x400 + (v.toNat - 0xDC00))

/-- The replacement character. -/
def replacement : Char := Char.ofNat 0xFFFD

/-- The character of a unit that is not part of a pair. -/
def single (u : UInt16) : Char :=
  if isHigh u || isLow u then replacement else Char.ofNat u.toNat

/-- The characters of a text. -/
def scalars : List UInt16 → List Char
  | [] => []
  | [u] => [single u]
  | u :: v :: rest =>
    if isHigh u && isLow v then pair u v :: scalars rest else single u :: scalars (v :: rest)

/-- The code units of a character. -/
def units (c : Char) : List UInt16 :=
  if c.toNat < 0x10000 then [UInt16.ofNat c.toNat]
  else [UInt16.ofNat (0xD800 + (c.toNat - 0x10000) / 0x400),
    UInt16.ofNat (0xDC00 + (c.toNat - 0x10000) % 0x400)]

/-- The test that every surrogate of a text belongs to a pair. -/
def isWellFormed : List UInt16 → Bool
  | [] => true
  | [u] => !(isHigh u || isLow u)
  | u :: v :: rest =>
    if isHigh u && isLow v then isWellFormed rest
    else !(isHigh u || isLow u) && isWellFormed (v :: rest)

/-- Every surrogate of a text belongs to a pair. -/
def WellFormed (s : List UInt16) : Prop := isWellFormed s = true

instance : DecidablePred WellFormed := fun s =>
  inferInstanceAs (Decidable (isWellFormed s = true))

variable {u v : UInt16} {s : List UInt16}

lemma toNat_ofNat_of_valid {n : Nat} (h : n.isValidChar) : (Char.ofNat n).toNat = n := by
  rw [Char.ofNat, dif_pos h]
  rfl

lemma units_replacement : units replacement = [0xFFFD] := by decide

/-- A character that is one unit. -/
lemma units_single (h : (isHigh u || isLow u) = false) : units (single u) = [u] := by
  have hlt := u.toNat_lt
  have hvalid : u.toNat.isValidChar := by
    simp only [isHigh, isLow, Bool.or_eq_false_iff, Bool.and_eq_false_iff,
      decide_eq_false_iff_not] at h
    unfold Nat.isValidChar
    omega
  rw [single, h, if_neg Bool.false_ne_true, units, toNat_ofNat_of_valid hvalid, if_pos hlt,
    UInt16.ofNat_toNat]

/-- A character that is a pair. -/
lemma units_pair (hu : isHigh u = true) (hv : isLow v = true) : units (pair u v) = [u, v] := by
  simp only [isHigh, isLow, Bool.and_eq_true, decide_eq_true_eq] at hu hv
  have hvalid : (0x10000 + (u.toNat - 0xD800) * 0x400 + (v.toNat - 0xDC00)).isValidChar := by
    unfold Nat.isValidChar
    omega
  have hhigh : 0xD800 + ((0x10000 + (u.toNat - 0xD800) * 0x400 + (v.toNat - 0xDC00)) - 0x10000) /
      0x400 = u.toNat := by omega
  have hlow : 0xDC00 + ((0x10000 + (u.toNat - 0xD800) * 0x400 + (v.toNat - 0xDC00)) - 0x10000) %
      0x400 = v.toNat := by omega
  rw [units, pair, toNat_ofNat_of_valid hvalid, if_neg (by omega), hhigh, hlow,
    UInt16.ofNat_toNat, UInt16.ofNat_toNat]

/-- A lone surrogate is not read as itself. -/
lemma units_single_ne (h : (isHigh u || isLow u) = true) : units (single u) ≠ [u] := by
  rw [single, h, if_pos rfl, units_replacement]
  intro heq
  obtain rfl := (List.cons.inj heq).1
  exact absurd h (by decide)

lemma length_units_single (u : UInt16) : (units (single u)).length = 1 := by
  cases h : (isHigh u || isLow u) with
  | false => rw [units_single h]; rfl
  | true => rw [single, h, if_pos rfl, units_replacement]; rfl

/-- A unit by itself is read back exactly if it is no surrogate. -/
lemma units_single_append_iff (rest rest' : List UInt16) :
    units (single u) ++ rest = u :: rest' ↔ (isHigh u || isLow u) = false ∧ rest = rest' := by
  constructor
  · intro heq
    obtain ⟨hu, hrest⟩ := List.append_inj (show _ = [u] ++ rest' from heq) (length_units_single u)
    refine ⟨?_, hrest⟩
    by_contra hne
    exact units_single_ne (Bool.not_eq_false _ ▸ hne) hu
  · rintro ⟨hu, rfl⟩
    rw [units_single hu]
    rfl

/-- Reading a text and writing it again gives the same text exactly if it is well formed. -/
theorem flatMap_units_scalars (s : List UInt16) :
    (scalars s).flatMap units = s ↔ WellFormed s := by
  rw [WellFormed]
  fun_induction scalars s with
  | case1 => exact iff_of_true rfl rfl
  | case2 u =>
    rw [List.flatMap_cons, List.flatMap_nil, units_single_append_iff, isWellFormed,
      Bool.not_eq_true']
    exact and_iff_left rfl
  | case3 u v rest hpair ih =>
    obtain ⟨hu, hv⟩ := Bool.and_eq_true_iff.mp hpair
    rw [List.flatMap_cons, units_pair hu hv, isWellFormed, if_pos hpair, ← ih]
    simp only [List.cons_append, List.nil_append, List.cons.injEq, true_and]
  | case4 u v rest hpair ih =>
    rw [List.flatMap_cons, units_single_append_iff, isWellFormed, if_neg hpair,
      Bool.and_eq_true_iff, Bool.not_eq_true', ih]

/-! ## UTF-8 -/

/-- The UTF-8 encoding of a text. -/
def toUtf8 (s : List UInt16) : List UInt8 := (scalars s).flatMap String.utf8EncodeChar

/-- The characters of a UTF-8 encoding. -/
def ofUtf8 (bytes : List UInt8) : Option (List Char) :=
  bytes.toByteArray.utf8Decode?.map Array.toList

lemma ofUtf8_toUtf8 (s : List UInt16) : ofUtf8 (toUtf8 s) = some (scalars s) := by
  have hbytes : (toUtf8 s).toByteArray = (scalars s).utf8Encode := rfl
  rw [ofUtf8, hbytes, List.utf8Decode?_utf8Encode]
  rfl

end Halcyon.Lib.Utf16
