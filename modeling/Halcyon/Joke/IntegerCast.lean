import Halcyon.Joke.Asm
import Halcyon.Joke.Lexeme
import Mathlib.Data.List.TakeWhile

/-!
# Strings as integers

`Encoding.CastToInt` is the conversion of a string to an integer at run time.  It takes what a
regular expression matches at the start of the string, after an optional plus sign: blanks, and then
either a hexadecimal number or a decimal number with an optional minus sign; anything else counts as
zero.  The library's `int.Parse` reads what was matched, and a number that is too large becomes `-1`.

A hexadecimal number is given to the library without its first two characters, which are meant to be
the `0x`.  If there are blanks before it, they are other characters, and the library raises a
`FormatException`, which nobody catches.  `BlankHex` are the strings for which this happens.

Apart from that the conversion has a value for every string, and for an integer literal the one the
assembler gives it.
-/

namespace Halcyon.Joke.Encoding

/-! ## The library's `int.Parse` -/

/-- The white space the library skips around a number. -/
def isWhite (c : Char) : Bool := c == ' ' || ('\t' ≤ c && c ≤ '\r')

/-- A text without the white space around it. -/
def trimWhite (cs : List Char) : List Char :=
  ((cs.dropWhile isWhite).reverse.dropWhile isWhite).reverse

/-- `int.Parse` with `NumberStyles.HexNumber`, where an overflow becomes `-1`; `none` is a format
exception. -/
def parseHexNumber (cs : List Char) : Option (BitVec 32) :=
  (parseDigits 16 (trimWhite cs)).map fun n => if n < 2 ^ 32 then BitVec.ofNat 32 n else -1

/-- `int.Parse` with `NumberStyles.Integer`, where an overflow becomes `-1`; `none` is a format
exception. -/
def parseInteger (cs : List Char) : Option (BitVec 32) :=
  match trimWhite cs with
  | '-' :: ds => (parseDigits 10 ds).map fun n => if n ≤ 2 ^ 31 then -BitVec.ofNat 32 n else -1
  | '+' :: ds => (parseDigits 10 ds).map fun n => if n < 2 ^ 31 then BitVec.ofNat 32 n else -1
  | ds => (parseDigits 10 ds).map fun n => if n < 2 ^ 31 then BitVec.ofNat 32 n else -1

/-! ## `CastToInt` -/

def isBlank (c : Char) : Bool := c == ' '

/-- The first alternative of the regular expression, `^[ ]*0[xX][0-9A-Fa-f][0-9A-Fa-f]*`. -/
def hexMatch (s : List Char) : Option (List Char) :=
  match s.dropWhile isBlank with
  | '0' :: x :: cs =>
    if (x = 'x' ∨ x = 'X') ∧ cs.takeWhile isHexDigit ≠ [] then
      some (s.takeWhile isBlank ++ '0' :: x :: cs.takeWhile isHexDigit)
    else none
  | _ => none

/-- The second alternative, `^[ ]*-?[0-9][0-9]*`. -/
def decimalMatch (s : List Char) : Option (List Char) :=
  match s.dropWhile isBlank with
  | '-' :: cs =>
    if cs.takeWhile isDigit ≠ [] then
      some (s.takeWhile isBlank ++ '-' :: cs.takeWhile isDigit)
    else none
  | cs =>
    if cs.takeWhile isDigit ≠ [] then some (s.takeWhile isBlank ++ cs.takeWhile isDigit)
    else none

/-- `m.Groups[0].Value`, which is empty if there is no match. -/
def matchedText (s : List Char) : List Char := ((hexMatch s).or (decimalMatch s)).getD []

/-- The text without a plus sign at its start. -/
def withoutPlus : List Char → List Char
  | '+' :: cs => cs
  | cs => cs

/-- `CastToInt`; `none` is a format exception. -/
def castToInt (text : String) : Option (BitVec 32) :=
  let v := matchedText (withoutPlus text.toList)
  if v = [] then some 0
  else if v.contains 'x' || v.contains 'X' then parseHexNumber (v.drop 2)
  else parseInteger v

/-- After an optional plus sign, there are blanks in front of a hexadecimal number. -/
def BlankHex (text : String) : Prop :=
  ∃ n x d rest, (x = 'x' ∨ x = 'X') ∧ isHexDigit d = true ∧
    withoutPlus text.toList = List.replicate (n + 1) ' ' ++ '0' :: x :: d :: rest

/-! ## Reading digits -/

variable {ds : List Char} {c : Char}

lemma foldlM_eq_none {base : Nat} (hc : c ∈ ds) (h : digitValue base c = none) (acc : Nat) :
    ds.foldlM (fun acc c => (digitValue base c).map fun d => acc * base + d) acc = none := by
  induction ds generalizing acc with
  | nil => simp at hc
  | cons d ds ih =>
    obtain rfl | hc := List.mem_cons.mp hc
    · simp [h]
    · cases hd : digitValue base d with
      | none => simp [hd]
      | some v => simpa [hd] using ih hc _

lemma parseDigits_eq_none {base : Nat} (hc : c ∈ ds) (h : digitValue base c = none) :
    parseDigits base ds = none := by
  rw [parseDigits]
  split
  · rfl
  · exact foldlM_eq_none hc h 0

lemma isSome_parseDigits_hex (hne : ds ≠ []) (h : ∀ c ∈ ds, isHexDigit c = true) :
    (parseDigits 16 ds).isSome = true := by
  refine parseDigits_isSome hne fun c hc => digitValue_isSome_hex ?_
  simpa [isHexDigit, isDigit] using h c hc

lemma isSome_parseDigits_dec (hne : ds ≠ []) (h : ∀ c ∈ ds, isDigit c = true) :
    (parseDigits 10 ds).isSome = true := by
  refine parseDigits_isSome hne fun c hc => digitValue_isSome_dec ?_
  simpa [isDigit] using h c hc

/-! ## White space -/

variable {cs : List Char}

/-- Text without white space stands behind blanks. -/
lemma trimWhite_replicate (n : Nat) (h : ∀ c ∈ cs, isWhite c = false) :
    trimWhite (List.replicate n ' ' ++ cs) = cs := by
  have hdrop : ∀ ds : List Char, (∀ c ∈ ds, isWhite c = false) → ds.dropWhile isWhite = ds := by
    intro ds hds
    cases ds with
    | nil => rfl
    | cons d ds => rw [List.dropWhile_cons_of_neg (by simp [hds d])]
  have hblanks : (List.replicate n ' ' ++ cs).dropWhile isWhite = cs := by
    induction n with
    | zero => exact hdrop cs h
    | succ n ih =>
      rw [List.replicate_succ, List.cons_append, List.dropWhile_cons_of_pos (by rfl)]
      exact ih
  rw [trimWhite, hblanks, hdrop _ (by simpa using h), List.reverse_reverse]

/-- Other characters are not skipped. -/
lemma mem_trimWhite (hc : c ∈ cs) (h : isWhite c = false) :
    c ∈ trimWhite cs := by
  have hdrop : ∀ ds : List Char, c ∈ ds → c ∈ ds.dropWhile isWhite := by
    intro ds hds
    rw [← List.takeWhile_append_dropWhile (p := isWhite) (l := ds), List.mem_append] at hds
    obtain hin | hin := hds
    · rw [List.mem_takeWhile_imp hin] at h
      cases h
    · exact hin
  rw [trimWhite, List.mem_reverse]
  exact hdrop _ (List.mem_reverse.mpr (hdrop _ hc))

/-! ## What is matched -/

/-- Every text is a number of blanks before something that does not start with one. -/
lemma exists_blanks (s : List Char) :
    ∃ n rest, s = List.replicate n ' ' ++ rest ∧ rest.head? ≠ some ' ' := by
  induction s with
  | nil => exact ⟨0, [], rfl, by simp⟩
  | cons c s ih =>
    by_cases hc : c = ' '
    · obtain ⟨n, rest, rfl, hrest⟩ := ih
      exact ⟨n + 1, rest, by rw [hc, List.replicate_succ, List.cons_append], hrest⟩
    · exact ⟨0, c :: s, rfl, by simpa using hc⟩

variable {rest : List Char}

lemma dropWhile_blanks (n : Nat) (h : rest.head? ≠ some ' ') :
    (List.replicate n ' ' ++ rest).dropWhile isBlank = rest := by
  induction n with
  | zero =>
    cases rest with
    | nil => rfl
    | cons c rest =>
      exact List.dropWhile_cons_of_neg (by simpa [isBlank] using h)
  | succ n ih =>
    rw [List.replicate_succ, List.cons_append, List.dropWhile_cons_of_pos rfl]
    exact ih

lemma takeWhile_blanks (n : Nat) (h : rest.head? ≠ some ' ') :
    (List.replicate n ' ' ++ rest).takeWhile isBlank = List.replicate n ' ' := by
  have hall := List.takeWhile_append_dropWhile (p := isBlank) (l := List.replicate n ' ' ++ rest)
  rw [dropWhile_blanks n h] at hall
  exact List.append_cancel_right hall

variable {x d : Char}

/-- The first alternative takes a hexadecimal number with all its digits. -/
lemma hexMatch_hex (n : Nat) (hx : x = 'x' ∨ x = 'X') (hd : isHexDigit d = true) :
    hexMatch (List.replicate n ' ' ++ '0' :: x :: d :: rest) =
      some (List.replicate n ' ' ++ '0' :: x :: (d :: rest).takeWhile isHexDigit) := by
  rw [hexMatch, dropWhile_blanks n (by simp), takeWhile_blanks n (by simp)]
  have hne : (d :: rest).takeWhile isHexDigit ≠ [] := by
    rw [List.takeWhile_cons_of_pos hd]
    exact List.cons_ne_nil _ _
  exact if_pos ⟨hx, hne⟩

/-- The first alternative takes nothing else. -/
lemma eq_of_hexMatch_ne_none {s : List Char} (h : hexMatch s ≠ none) :
    ∃ n x d rest, (x = 'x' ∨ x = 'X') ∧ isHexDigit d = true ∧
      s = List.replicate n ' ' ++ '0' :: x :: d :: rest := by
  obtain ⟨n, rest, rfl, hrest⟩ := exists_blanks s
  rw [hexMatch, dropWhile_blanks n hrest] at h
  split at h
  case h_2 => exact absurd rfl h
  case h_1 x cs =>
    split at h
    case isFalse => exact absurd rfl h
    case isTrue hcond =>
      cases cs with
      | nil => exact absurd rfl hcond.2
      | cons d rest =>
        refine ⟨n, x, d, rest, hcond.1, ?_, rfl⟩
        by_contra hd
        exact hcond.2 (List.takeWhile_cons_of_neg hd)

/-- The second alternative takes blanks and decimal digits, perhaps with a minus sign between
them. -/
lemma eq_of_decimalMatch {s v : List Char} (h : decimalMatch s = some v) :
    ∃ n sign ds, v = List.replicate n ' ' ++ (sign ++ ds) ∧ (sign = [] ∨ sign = ['-']) ∧ ds ≠ [] ∧
      ∀ c ∈ ds, isDigit c = true := by
  obtain ⟨n, rest, rfl, hrest⟩ := exists_blanks s
  rw [decimalMatch, dropWhile_blanks n hrest, takeWhile_blanks n hrest] at h
  split at h
  case h_1 cs =>
    obtain ⟨hne, hv⟩ := Option.ite_none_right_eq_some.mp h
    exact ⟨n, ['-'], cs.takeWhile isDigit, (Option.some.inj hv).symm, Or.inr rfl, hne,
      fun c hc => List.mem_takeWhile_imp hc⟩
  case h_2 =>
    obtain ⟨hne, hv⟩ := Option.ite_none_right_eq_some.mp h
    exact ⟨n, [], rest.takeWhile isDigit, (Option.some.inj hv).symm, Or.inl rfl, hne,
      fun c hc => List.mem_takeWhile_imp hc⟩

/-! ## What the library reads -/

lemma not_isWhite_of_isHexDigit (h : isHexDigit c = true) : isWhite c = false := by
  simp only [isHexDigit, isDigit, Bool.or_eq_true, Bool.and_eq_true, decide_eq_true_eq,
    Char.le_def, UInt32.le_iff_toNat_le] at h
  simp only [isWhite, Bool.or_eq_false_iff, beq_eq_false_iff_ne, ne_eq, Bool.and_eq_false_iff,
    decide_eq_false_iff_not, Char.le_def, UInt32.le_iff_toNat_le]
  refine ⟨?_, ?_⟩
  · rintro rfl
    revert h
    decide
  · have h48 : '0'.val.toNat = 48 := rfl
    have h97 : 'a'.val.toNat = 97 := rfl
    have h65 : 'A'.val.toNat = 65 := rfl
    have h13 : '\r'.val.toNat = 13 := rfl
    omega

lemma isHexDigit_of_isDigit (h : isDigit c = true) : isHexDigit c = true := by
  simp [isHexDigit, h]

lemma not_isWhite_of_isDigit (h : isDigit c = true) : isWhite c = false :=
  not_isWhite_of_isHexDigit (isHexDigit_of_isDigit h)

lemma not_isHexDigit_x (hx : x = 'x' ∨ x = 'X') :
    isHexDigit x = false ∧ isWhite x = false ∧ digitValue 16 x = none := by
  obtain rfl | rfl := hx <;> decide

/-- Digits are read without white space being skipped. -/
lemma parseHexNumber_digits (h : ∀ c ∈ ds, isHexDigit c = true) :
    parseHexNumber ds =
      (parseDigits 16 ds).map fun n => if n < 2 ^ 32 then BitVec.ofNat 32 n else -1 := by
  have htrim := trimWhite_replicate 0 fun c hc => not_isWhite_of_isHexDigit (h c hc)
  rw [List.replicate_zero, List.nil_append] at htrim
  rw [parseHexNumber, htrim]

/-- The library rejects a text with an `x` in it. -/
lemma parseHexNumber_eq_none (hx : x = 'x' ∨ x = 'X') (hmem : x ∈ cs) :
    parseHexNumber cs = none := by
  obtain ⟨-, hwhite, hvalue⟩ := not_isHexDigit_x hx
  rw [parseHexNumber, parseDigits_eq_none (mem_trimWhite hmem hwhite) hvalue, Option.map_none]

lemma parseInteger_digits (n : Nat) (h : ∀ c ∈ ds, isDigit c = true) :
    parseInteger (List.replicate n ' ' ++ ds) =
      (parseDigits 10 ds).map fun n => if n < 2 ^ 31 then BitVec.ofNat 32 n else -1 := by
  rw [parseInteger, trimWhite_replicate n fun c hc => not_isWhite_of_isDigit (h c hc)]
  split
  case h_1 => simpa [isDigit] using h '-' List.mem_cons_self
  case h_2 => simpa [isDigit] using h '+' List.mem_cons_self
  case h_3 => rfl

lemma parseInteger_minus (n : Nat) (h : ∀ c ∈ ds, isDigit c = true) :
    parseInteger (List.replicate n ' ' ++ '-' :: ds) =
      (parseDigits 10 ds).map fun n => if n ≤ 2 ^ 31 then -BitVec.ofNat 32 n else -1 := by
  have hwhite : ∀ c ∈ '-' :: ds, isWhite c = false := by
    intro c hc
    obtain rfl | hc := List.mem_cons.mp hc
    · rfl
    · exact not_isWhite_of_isDigit (h c hc)
  rw [parseInteger, trimWhite_replicate n hwhite]
  rfl

variable {n : Nat}

/-- What the second alternative takes is a number for the library. -/
lemma isSome_parseInteger {sign : List Char} (hsign : sign = [] ∨ sign = ['-']) (hne : ds ≠ [])
    (h : ∀ c ∈ ds, isDigit c = true) :
    (parseInteger (List.replicate n ' ' ++ (sign ++ ds))).isSome = true := by
  obtain rfl | rfl := hsign
  · rw [List.nil_append, parseInteger_digits n h, Option.isSome_map]
    exact isSome_parseDigits_dec hne h
  · rw [List.singleton_append, parseInteger_minus n h, Option.isSome_map]
    exact isSome_parseDigits_dec hne h

/-! ## The conversion, form by form -/

variable {text : String}

/-- A hexadecimal number after blanks is given to the library without its first two characters. -/
lemma castToInt_hex (hx : x = 'x' ∨ x = 'X') (hd : isHexDigit d = true)
    (h : withoutPlus text.toList = List.replicate n ' ' ++ '0' :: x :: d :: rest) :
    castToInt text = parseHexNumber
      ((List.replicate n ' ' ++ '0' :: x :: (d :: rest).takeWhile isHexDigit).drop 2) := by
  have hmatch : matchedText (withoutPlus text.toList) =
      List.replicate n ' ' ++ '0' :: x :: (d :: rest).takeWhile isHexDigit := by
    rw [matchedText, h, hexMatch_hex n hx hd]
    rfl
  have hne : List.replicate n ' ' ++ '0' :: x :: (d :: rest).takeWhile isHexDigit ≠ [] := by simp
  simp only [castToInt, hmatch]
  rw [if_neg hne, if_pos]
  obtain rfl | rfl := hx <;> simp

/-- With blanks before it, an `x` is left in the text. -/
lemma castToInt_blankHex (h : BlankHex text) : castToInt text = none := by
  obtain ⟨n, x, d, rest, hx, hd, htext⟩ := h
  rw [castToInt_hex hx hd htext]
  refine parseHexNumber_eq_none hx ?_
  cases n with
  | zero => exact List.mem_cons_self
  | succ n =>
    rw [List.replicate_succ, List.replicate_succ, List.cons_append, List.cons_append,
      List.drop_succ_cons, List.drop_succ_cons, List.drop_zero]
    simp

/-- Without blanks, its digits are left. -/
lemma castToInt_plainHex (hx : x = 'x' ∨ x = 'X') (hd : isHexDigit d = true)
    (h : withoutPlus text.toList = '0' :: x :: d :: rest) :
    castToInt text = (parseDigits 16 ((d :: rest).takeWhile isHexDigit)).map fun n =>
      if n < 2 ^ 32 then BitVec.ofNat 32 n else -1 := by
  rw [castToInt_hex (n := 0) hx hd h]
  exact parseHexNumber_digits fun c hc => List.mem_takeWhile_imp hc

lemma contains_x_eq_false {sign : List Char} (hsign : sign = [] ∨ sign = ['-'])
    (h : ∀ c ∈ ds, isDigit c = true) (hx : x = 'x' ∨ x = 'X') :
    (List.replicate n ' ' ++ (sign ++ ds)).contains x = false := by
  have hds : x ∉ ds := by
    intro hmem
    have hdigit := isHexDigit_of_isDigit (h x hmem)
    rw [(not_isHexDigit_x hx).1] at hdigit
    cases hdigit
  have hblanks : x ∉ List.replicate n ' ' := by
    intro hmem
    rw [List.eq_of_mem_replicate hmem] at hx
    revert hx
    decide
  have hsigns : x ∉ sign := by
    obtain rfl | rfl := hsign
    · exact List.not_mem_nil
    · obtain rfl | rfl := hx <;> decide
  rw [List.contains_eq_mem, decide_eq_false_iff_not, List.mem_append, List.mem_append]
  rintro (hmem | hmem | hmem)
  · exact hblanks hmem
  · exact hsigns hmem
  · exact hds hmem

/-- Without a hexadecimal number, the library is given what the second alternative takes. -/
lemma castToInt_decimal {v : List Char} (hhex : hexMatch (withoutPlus text.toList) = none)
    (hdec : decimalMatch (withoutPlus text.toList) = some v) :
    castToInt text = parseInteger v := by
  have hmatch : matchedText (withoutPlus text.toList) = v := by
    rw [matchedText, hhex, hdec]
    rfl
  obtain ⟨n, sign, ds, rfl, hsign, hne, hds⟩ := eq_of_decimalMatch hdec
  have hv : List.replicate n ' ' ++ (sign ++ ds) ≠ [] := by simp [hne]
  simp only [castToInt, hmatch]
  rw [if_neg hv, contains_x_eq_false hsign hds (Or.inl rfl),
    contains_x_eq_false hsign hds (Or.inr rfl)]
  rfl

/-- `CastToInt` raises an exception for no other string. -/
lemma isSome_castToInt (h : ¬ BlankHex text) : (castToInt text).isSome = true := by
  cases hhex : hexMatch (withoutPlus text.toList) with
  | some v =>
    obtain ⟨n, x, d, rest, hx, hd, htext⟩ :=
      eq_of_hexMatch_ne_none (s := withoutPlus text.toList) (by simp [hhex])
    cases n with
    | succ n => exact absurd ⟨n, x, d, rest, hx, hd, htext⟩ h
    | zero =>
      rw [castToInt_plainHex hx hd htext, Option.isSome_map]
      refine isSome_parseDigits_hex ?_ fun c hc => List.mem_takeWhile_imp hc
      rw [List.takeWhile_cons_of_pos hd]
      exact List.cons_ne_nil _ _
  | none =>
    cases hdec : decimalMatch (withoutPlus text.toList) with
    | none => simp [castToInt, matchedText, hhex, hdec]
    | some v =>
      rw [castToInt_decimal hhex hdec]
      obtain ⟨n, sign, ds, rfl, hsign, hne, hds⟩ := eq_of_decimalMatch hdec
      exact isSome_parseInteger hsign hne hds

/-! ## Integer literals -/

variable {t : String}

/-- The two forms of an integer literal. -/
lemma forms_of_isIntegerLiteral (h : Expr.isIntegerLiteral t = true) :
    (∃ d ds, t.toList = '0' :: 'x' :: d :: ds ∧ ∀ c ∈ d :: ds, isHexDigit c = true) ∨
      (∃ d ds, t.toList = d :: ds ∧ ∀ c ∈ d :: ds, isDigit c = true) := by
  rw [Expr.isIntegerLiteral] at h
  split at h
  case h_1 ds heq =>
    cases ds with
    | nil => simp at h
    | cons d ds =>
      refine Or.inl ⟨d, ds, heq, ?_⟩
      simpa [isHexDigit, isDigit, or_assoc] using h
  case h_2 =>
    cases heq : t.toList with
    | nil => simp [heq] at h
    | cons d ds =>
      rw [heq] at h
      exact Or.inr ⟨d, ds, rfl, by simpa [isDigit] using h⟩

lemma isDigit_ne (h : isDigit c = true) : c ≠ ' ' ∧ c ≠ '-' ∧ c ≠ '+' ∧ c ≠ 'x' ∧
    c ≠ 'X' := by
  refine ⟨?_, ?_, ?_, ?_, ?_⟩ <;>
  · rintro rfl
    revert h
    decide

/-- The assembler reads the digits of a decimal literal. -/
lemma convertToInt_digits (ht : t.toList = d :: ds) (h : ∀ c ∈ d :: ds, isDigit c = true) :
    convertToInt t = (parseDigits 10 (d :: ds)).map fun n =>
      if n < 2 ^ 31 then BitVec.ofNat 32 n else -1 := by
  have hd := isDigit_ne (h d List.mem_cons_self)
  rw [convertToInt, ht]
  split
  case h_1 ds' heq => exact absurd rfl (isDigit_ne (h 'x' (by simp [heq]))).2.2.2.1
  case h_2 ds' heq => exact absurd (List.cons.inj heq).1 hd.2.1
  case h_3 ds' _ heq => exact absurd (List.cons.inj heq).1 hd.2.1
  case h_4 => rfl

/-- Decimal digits after blanks are not taken by the first alternative. -/
lemma hexMatch_digits (n : Nat) (h : ∀ c ∈ d :: ds, isDigit c = true) :
    hexMatch (List.replicate n ' ' ++ d :: ds) = none := by
  have hd := (isDigit_ne (h d List.mem_cons_self)).1
  rw [hexMatch, dropWhile_blanks n (by simpa using hd)]
  split
  case h_2 => rfl
  case h_1 x cs heq =>
    have hx := isDigit_ne (h x (by simp [heq]))
    exact if_neg fun hcond => hcond.1.elim hx.2.2.2.1 hx.2.2.2.2

/-- The second alternative takes all of them. -/
lemma decimalMatch_digits (n : Nat) (h : ∀ c ∈ d :: ds, isDigit c = true) :
    decimalMatch (List.replicate n ' ' ++ d :: ds) = some (List.replicate n ' ' ++ d :: ds) := by
  have hd := isDigit_ne (h d List.mem_cons_self)
  have htake : (d :: ds).takeWhile isDigit = d :: ds := List.takeWhile_eq_self_iff.mpr h
  rw [decimalMatch, dropWhile_blanks n (by simpa using hd.1), takeWhile_blanks n (by simpa using hd.1)]
  split
  case h_1 cs heq => exact absurd (List.cons.inj heq).1 hd.2.1
  case h_2 =>
    rw [htake]
    exact if_pos (List.cons_ne_nil _ _)

lemma withoutPlus_blanks (n : Nat) (hd : d ≠ '+') (ds : List Char) :
    withoutPlus (List.replicate n ' ' ++ d :: ds) = List.replicate n ' ' ++ d :: ds := by
  cases n with
  | zero =>
    rw [List.replicate_zero, List.nil_append, withoutPlus]
    intro cs heq
    exact hd (List.cons.inj heq).1
  | succ n => rfl

/-- A literal after blanks has the value the assembler gives it, unless it is a hexadecimal number
with a blank before it. -/
lemma castToInt_literal (ht : Expr.isIntegerLiteral t = true)
    (htext : text.toList = List.replicate n ' ' ++ t.toList) (h : ¬ BlankHex text) :
    castToInt text = convertToInt t := by
  obtain ⟨d, ds, hform, hds⟩ | ⟨d, ds, hform, hds⟩ := forms_of_isIntegerLiteral ht
  · rw [hform] at htext
    have hplus : withoutPlus text.toList = List.replicate n ' ' ++ '0' :: 'x' :: d :: ds := by
      rw [htext]
      exact withoutPlus_blanks n (by decide) _
    have hd : isHexDigit d = true := hds d List.mem_cons_self
    cases n with
    | succ n => exact absurd ⟨n, 'x', d, ds, Or.inl rfl, hd, hplus⟩ h
    | zero =>
      rw [castToInt_plainHex (Or.inl rfl) hd hplus, List.takeWhile_eq_self_iff.mpr hds, convertToInt,
        hform]
      rfl
  · rw [hform] at htext
    have hplus : withoutPlus text.toList = List.replicate n ' ' ++ d :: ds := by
      rw [htext]
      exact withoutPlus_blanks n (isDigit_ne (hds d List.mem_cons_self)).2.2.1 _
    have hhex : hexMatch (withoutPlus text.toList) = none := by
      rw [hplus]
      exact hexMatch_digits n hds
    have hdec : decimalMatch (withoutPlus text.toList) =
        some (List.replicate n ' ' ++ d :: ds) := by
      rw [hplus]
      exact decimalMatch_digits n hds
    rw [castToInt_decimal hhex hdec, parseInteger_digits n hds, convertToInt_digits hform hds]

/-- The conversion of a string agrees with that of literals: it has a value, and the value the
assembler gives to a literal, if the string is a literal with or without blanks before it. -/
structure Agrees (text : String) : Prop where
  returns : (castToInt text).isSome = true
  literal : ∀ (n : Nat) (t : String), Expr.isIntegerLiteral t = true →
    text.toList = List.replicate n ' ' ++ t.toList → castToInt text = convertToInt t

/-- **Strings as integers**: the conversion agrees with that of literals for exactly the strings in
which no blanks stand before a hexadecimal number. -/
theorem castToInt_agrees_iff (text : String) : Agrees text ↔ ¬ BlankHex text := by
  constructor
  · intro h hblank
    have hreturns := h.returns
    rw [castToInt_blankHex hblank] at hreturns
    cases hreturns
  · intro h
    exact ⟨isSome_castToInt h, fun n t ht htext => castToInt_literal ht htext h⟩

/-- For a hexadecimal literal after a blank the conversion raises an exception, while the assembler
takes the literal. -/
theorem not_agrees_blankHex :
    Expr.isIntegerLiteral "0x1F" = true ∧ convertToInt "0x1F" = some 31 ∧
      castToInt " 0x1F" = none ∧ ¬ Agrees " 0x1F" := by
  have hnone : castToInt " 0x1F" = none := by decide
  refine ⟨by decide, by decide, hnone, ?_⟩
  intro h
  have hreturns := h.returns
  rw [hnone] at hreturns
  cases hreturns

end Halcyon.Joke.Encoding
