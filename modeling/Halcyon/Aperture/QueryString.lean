import Halcyon.Aperture.Handler
import Mathlib.Data.List.ReduceOption

/-!
# Query strings and their encoding

`decode_query_string` is a scanner with two states of a parameter, its name and its value, and
`url_decode` undoes the percent encoding of each.  `percentEncode` and `Param.encode` are the
standard encoding; the bytes of a text are the characters with their codes.

`url_decode` inverts the encoding of every byte string.  The scanner inverts that of at most one
parameter: behind the `&` that ends a parameter it waits for another `?`, skips the name that
follows, and gives up at its `=`.  A path with one of the separators in it ends the scan at once.

A malformed escape is not always reported, since `std::hex` reads a number from two characters in
more ways than one: it skips blanks, takes a sign, and stops behind the first digit.
-/

namespace Halcyon.Aperture

open Lib
open Whip (Bytes)

/-! ## Escapes -/

/-- A hexadecimal digit. -/
def isHex (c : Char) : Bool := (hexDigit c).isSome

/-- Two characters behind a percent sign that are no two digits, from which `std::hex` reads a
number all the same. -/
def Misread (a b : Char) : Prop :=
  (isHex a = true ∧ isHex b = false ∧ ¬ (a = '0' ∧ (b = 'x' ∨ b = 'X'))) ∨
    ((isSpace a = true ∨ a = '-' ∨ a = '+') ∧ isHex b = true)

/-- Every percent sign is followed by two digits. -/
def wellFormed : Text → Bool
  | [] => true
  | '%' :: a :: b :: rest => isHex a && isHex b && wellFormed rest
  | '%' :: _ => false
  | _ :: rest => wellFormed rest

/-- Behind some percent sign there are not two characters from which a number is read; the escapes
are taken from the left. -/
def Unreadable : Text → Prop
  | [] => False
  | '%' :: a :: b :: rest => ¬ (isHex a = true ∧ isHex b = true ∨ Misread a b) ∨ Unreadable rest
  | '%' :: _ => True
  | _ :: rest => Unreadable rest

-- generated here once, the equations serve all the lemmas below
attribute [local simp] urlDecode decodeLoop

lemma hexNumber_of_none {a : Char} (ha : hexDigit a = none) (rest : Text) :
    hexNumber (a :: rest) = none := by
  simp [hexNumber, ha]

lemma hexNumber_single {a : Char} : hexNumber [a] = hexDigit a := by
  cases ha : hexDigit a <;> simp [hexNumber, ha]

lemma hexNumber_pair {a b : Char} {m : Nat} (ha : hexDigit a = some m) :
    hexNumber [a, b] = some ((hexDigit b).elim m fun n => 16 * m + n) := by
  cases hb : hexDigit b <;> simp [hexNumber, ha, hb]

/-- The codes of the digits. -/
lemma isHex_iff {c : Char} : isHex c = true ↔
    (48 ≤ c.toNat ∧ c.toNat ≤ 57) ∨ (97 ≤ c.toNat ∧ c.toNat ≤ 102) ∨
      (65 ≤ c.toNat ∧ c.toNat ≤ 70) := by
  have hle : ∀ a b : Char, a ≤ b ↔ a.toNat ≤ b.toNat := fun _ _ => Iff.rfl
  simp only [isHex, hexDigit, hle]
  split_ifs <;> simp_all

/-- A digit is neither a blank nor a sign. -/
lemma not_skipped_of_isHex {c : Char} (h : isHex c = true) :
    isSpace c = false ∧ c ≠ '-' ∧ c ≠ '+' := by
  rw [isHex_iff] at h
  refine ⟨?_, ?_, ?_⟩
  · have hne : c ≠ ' ' := by
      rintro rfl
      revert h
      decide
    simp only [isSpace, hne, decide_false, Bool.false_or, Bool.and_eq_false_iff,
      decide_eq_false_iff_not]
    omega
  · rintro rfl
    revert h
    decide
  · rintro rfl
    revert h
    decide

section HexValue

variable {a b : Char}

/-- A blank in front is skipped. -/
lemma hexValue_space (ha : isSpace a = true) : (hexValue [a, b]).isSome = isHex b := by
  unfold hexValue
  rw [List.dropWhile_cons_of_pos ha]
  cases hb : isSpace b with
  | true =>
    have hhex : isHex b = false := by
      by_contra hne
      have := (not_skipped_of_isHex (Bool.eq_true_of_not_eq_false hne)).1
      rw [hb] at this
      cases this
    rw [List.dropWhile_cons_of_pos hb, hhex]
    rfl
  | false =>
    rw [List.dropWhile_cons_of_neg (by simp [hb])]
    split
    · simp_all
    · simp_all
    · rename_i heq
      obtain ⟨rfl, rfl⟩ := List.cons.inj heq
      rfl
    · rename_i heq
      obtain ⟨rfl, rfl⟩ := List.cons.inj heq
      rfl
    · rw [hexNumber_single, Option.isSome_map]
      rfl

/-- A sign in front is read. -/
lemma hexValue_sign (ha : a = '-' ∨ a = '+') : (hexValue [a, b]).isSome = isHex b := by
  rcases ha with rfl | rfl
  · cases hb : hexDigit b <;> simp [hexValue, isSpace, hexNumber_single, isHex, hb]
  · cases hb : hexDigit b <;> simp [hexValue, isSpace, hexNumber_single, isHex, hb]

/-- What starts with anything else is read from its first character on. -/
lemma hexValue_eq (hspace : isSpace a = false) (hminus : a ≠ '-') (hplus : a ≠ '+')
    (hbase : ¬ (a = '0' ∧ (b = 'x' ∨ b = 'X'))) :
    hexValue [a, b] = (hexNumber [a, b]).map Int.ofNat := by
  unfold hexValue
  rw [List.dropWhile_cons_of_neg (by simp [hspace])]
  split <;> simp_all

lemma hexValue_of_isHex {m n : Nat} (ha : hexDigit a = some m) (hb : hexDigit b = some n) :
    hexValue [a, b] = some ((16 * m + n : Nat) : Int) := by
  have hhex : isHex a = true := by simp [isHex, ha]
  obtain ⟨hspace, hminus, hplus⟩ := not_skipped_of_isHex hhex
  have hbase : ¬ (a = '0' ∧ (b = 'x' ∨ b = 'X')) := by
    rintro ⟨-, rfl | rfl⟩ <;> cases hb
  rw [hexValue_eq hspace hminus hplus hbase, hexNumber_pair ha, hb]
  rfl

/-- From which two characters a number is read. -/
lemma hexValue_isSome_iff :
    (hexValue [a, b]).isSome = true ↔ isHex a = true ∧ isHex b = true ∨ Misread a b := by
  cases ha : isHex a with
  | true =>
    obtain ⟨hspace, hminus, hplus⟩ := not_skipped_of_isHex ha
    obtain ⟨m, hm⟩ := Option.isSome_iff_exists.mp ha
    by_cases hbase : a = '0' ∧ (b = 'x' ∨ b = 'X')
    · obtain ⟨rfl, rfl | rfl⟩ := hbase <;> simp [hexValue, isSpace, Misread, isHex, hexDigit]
    · rw [hexValue_eq hspace hminus hplus hbase, hexNumber_pair hm]
      simp only [Option.map_some, Option.isSome_some, true_iff, Misread, ha, true_and, hbase,
        not_false_eq_true, and_true]
      cases isHex b <;> simp
  | false =>
    have hnone : hexDigit a = none := by simpa [isHex] using ha
    by_cases hsign : a = '-' ∨ a = '+'
    · rw [hexValue_sign hsign]
      simp [Misread, ha, hsign]
    · cases hspace : isSpace a with
      | true =>
        rw [hexValue_space hspace]
        simp [Misread, ha, hspace]
      | false =>
        rw [not_or] at hsign
        have hbase : ¬ (a = '0' ∧ (b = 'x' ∨ b = 'X')) := by
          rintro ⟨rfl, -⟩
          exact absurd ha (by decide)
        rw [hexValue_eq hspace hsign.1 hsign.2 hbase, hexNumber_of_none hnone]
        simp [Misread, ha, hspace, hsign.1, hsign.2]

end HexValue

/-! ## The decoding of a text -/

lemma urlDecode_cons {c : Char} (hpercent : c ≠ '%') (hplus : c ≠ '+') (rest : Text) :
    urlDecode (c :: rest) = (urlDecode rest).map (c :: ·) := by
  rw [urlDecode]
  · rintro a b rest' rfl
    exact absurd rfl hpercent
  · exact hpercent
  · exact hplus

/-- Failure is reported exactly for an escape from which no number is read. -/
lemma urlDecode_eq_none_iff (t : Text) : urlDecode t = none ↔ Unreadable t := by
  fun_induction urlDecode t with
  | case1 => simp [Unreadable]
  | case2 a b rest ih =>
    rw [Unreadable, ← ih, ← hexValue_isSome_iff]
    cases hexValue [a, b] <;> cases urlDecode rest <;> simp
  | case3 rest h =>
    rw [Unreadable]
    · exact iff_of_true rfl trivial
    · exact h
  | case4 rest ih =>
    rw [Unreadable, Option.map_eq_none_iff, ih]
    · exact fun _ _ _ heq => absurd heq (by decide)
    · decide
  | case5 c rest _ hpercent _ ih =>
    rw [Unreadable, Option.map_eq_none_iff, ih]
    · exact fun _ _ _ heq => absurd heq hpercent
    · exact hpercent

/-! ## The encoding -/

/-- The character of a byte. -/
def byteChar (b : UInt8) : Char := Char.ofNat b.toNat

/-- A byte string as the text that the code handles. -/
def byteText (bytes : Bytes) : Text := bytes.map byteChar

/-- The characters that stand for themselves. -/
def isUnreserved (c : Char) : Bool :=
  c.isAlphanum || c = '-' || c = '.' || c = '_' || c = '~'

/-- The digits of the encoding. -/
def hexText (n : Nat) : Char := "0123456789ABCDEF".toList.getD n '0'

/-- Percent encoding. -/
def percentEncode (bytes : Bytes) : Text :=
  bytes.flatMap fun b =>
    if isUnreserved (byteChar b) then [byteChar b]
    else ['%', hexText (b.toNat / 16), hexText (b.toNat % 16)]

/-- A parameter of a query. -/
structure Param where
  name : Bytes
  value : Bytes

namespace Param

/-- `name=value`. -/
def encode (p : Param) : Text := percentEncode p.name ++ '=' :: percentEncode p.value

/-- The entry that decoding it should give. -/
def entry (p : Param) : Text × Text := ((byteText p.name).map Char.toLower, byteText p.value)

end Param

/-- The part of a URL in front of its query. -/
structure UrlPath where
  text : Text
  noQuery : '?' ∉ text

/-- The parameters are appended to the path. -/
def appendQuery (path : UrlPath) (params : List Param) : Text :=
  path.text ++ '?' :: ['&'].intercalate (params.map Param.encode)

/-- A character that the scanner does not look at. -/
def isPlain (c : Char) : Bool := c ≠ '?' && c ≠ '&' && c ≠ ';' && c ≠ '='

lemma hexDigit_hexText {n : Nat} (h : n < 16) : hexDigit (hexText n) = some n := by
  revert n
  decide

lemma isPlain_of_isUnreserved {c : Char} (h : isUnreserved c = true) :
    isPlain c = true ∧ c ≠ '%' ∧ c ≠ '+' := by
  refine ⟨?_, ?_, ?_⟩
  · simp only [isPlain, Bool.and_eq_true, decide_eq_true_eq]
    refine ⟨⟨⟨?_, ?_⟩, ?_⟩, ?_⟩ <;> (rintro rfl; revert h; decide)
  all_goals
    rintro rfl
    revert h
    decide

/-- The scanner takes encoded text as it is. -/
lemma isPlain_percentEncode (bytes : Bytes) : ∀ c ∈ percentEncode bytes, isPlain c = true := by
  intro c hc
  obtain ⟨b, -, hc⟩ := List.mem_flatMap.mp hc
  split_ifs at hc with hb
  · obtain rfl := List.mem_singleton.mp hc
    exact (isPlain_of_isUnreserved hb).1
  · have hplain : ∀ n, n < 16 → isPlain (hexText n) = true := by decide
    have hlt : b.toNat < 256 := b.toNat_lt
    simp only [List.mem_cons, List.not_mem_nil, or_false] at hc
    rcases hc with rfl | rfl | rfl
    · decide
    · exact hplain _ (by omega)
    · exact hplain _ (by omega)

/-- `url_decode` inverts the encoding. -/
lemma urlDecode_percentEncode (bytes : Bytes) :
    urlDecode (percentEncode bytes) = some (byteText bytes) := by
  induction bytes with
  | nil => rfl
  | cons b bytes ih =>
    have hcons : percentEncode (b :: bytes) = (if isUnreserved (byteChar b) then [byteChar b]
        else ['%', hexText (b.toNat / 16), hexText (b.toNat % 16)]) ++ percentEncode bytes := rfl
    rw [hcons]
    split_ifs with hb
    · obtain ⟨-, hpercent, hplus⟩ := isPlain_of_isUnreserved hb
      rw [List.singleton_append, urlDecode_cons hpercent hplus, ih]
      rfl
    · have hlt : b.toNat < 256 := b.toNat_lt
      have hvalue : hexValue [hexText (b.toNat / 16), hexText (b.toNat % 16)] =
          some (b.toNat : Int) := by
        rw [hexValue_of_isHex (hexDigit_hexText (by omega)) (hexDigit_hexText (by omega)),
          Nat.div_add_mod]
      have hchar : charOf (b.toNat : Int) = byteChar b := by
        rw [charOf, byteChar]
        congr 1
        omega
      simp only [List.cons_append, List.nil_append, urlDecode, hvalue, ih, Option.bind_eq_bind,
        Option.bind_some, hchar]
      rfl

/-! ## The scanner -/

section Scanner

variable {query : Dict Text Text} {state : DecodeState} {name val part rest : Text}

/-- A parameter that the scanner has read. -/
lemma setParam_nil (name val : Text) : setParam [] name val = [(name.map Char.toLower, val)] := rfl

/-- Text that holds no separator is skipped, or is part of the name or of the value. -/
lemma decodeLoop_plain (hpart : ∀ c ∈ part, isPlain c = true) :
    decodeLoop query state name val (part ++ rest) =
      match state with
      | .begin => decodeLoop query state name val rest
      | .inParamName => decodeLoop query state (name ++ part) val rest
      | .inParamVal => decodeLoop query state name (val ++ part) rest := by
  induction part generalizing name val with
  | nil => cases state <;> simp
  | cons c part ih =>
    obtain ⟨hc, hpart⟩ := List.forall_mem_cons.mp hpart
    simp only [isPlain, Bool.and_eq_true, decide_eq_true_eq] at hc
    obtain ⟨⟨⟨hquestion, hand⟩, hsemicolon⟩, hequals⟩ := hc
    rw [List.cons_append]
    cases state <;>
      rw [decodeLoop, if_neg hquestion, if_neg (by simp [hand, hsemicolon]), if_neg hequals] <;>
      simp only [ih hpart, List.append_assoc, List.cons_append, List.nil_append]

/-- In front of the query a separator ends the scan. -/
lemma decodeLoop_separator (hquery : '?' ∉ part) (hpart : ∃ c ∈ part, isPlain c = false) :
    decodeLoop query .begin name val (part ++ rest) = query := by
  induction part with
  | nil =>
    obtain ⟨c, hc, -⟩ := hpart
    exact absurd hc List.not_mem_nil
  | cons c part ih =>
    rw [List.mem_cons, not_or] at hquery
    have hquestion : c ≠ '?' := fun heq => hquery.1 heq.symm
    rw [List.cons_append, decodeLoop, if_neg hquestion]
    by_cases hand : c = '&' ∨ c = ';'
    · rw [if_pos hand, if_pos (.inl rfl)]
    · rw [if_neg hand]
      by_cases hequals : c = '='
      · rw [if_pos hequals, if_pos (.inl rfl)]
      · rw [if_neg hequals]
        refine ih hquery.2 ?_
        obtain ⟨d, hd, hplain⟩ := hpart
        rcases List.mem_cons.mp hd with rfl | hd
        · simp [isPlain, hquestion, not_or.mp hand, hequals] at hplain
        · exact ⟨d, hd, hplain⟩

/-- One parameter, up to its end. -/
lemma decodeLoop_param (p : Param) :
    decodeLoop query .inParamName [] [] (p.encode ++ rest) =
      decodeLoop query .inParamVal (percentEncode p.name) (percentEncode p.value) rest := by
  rw [Param.encode, List.append_assoc, decodeLoop_plain (isPlain_percentEncode _)]
  simp only [List.nil_append, List.cons_append]
  rw [decodeLoop, if_neg (by decide), if_neg (by decide), if_pos rfl, if_neg (by decide),
    decodeLoop_plain (isPlain_percentEncode _)]
  rfl

/-- Behind a parameter the scanner skips the name of the next one and ends. -/
lemma decodeLoop_next (p : Param) :
    decodeLoop query .begin [] [] (p.encode ++ rest) = query := by
  rw [Param.encode, List.append_assoc, decodeLoop_plain (isPlain_percentEncode _)]
  simp only [List.cons_append]
  rw [decodeLoop, if_neg (by decide), if_neg (by decide), if_pos rfl, if_pos (.inl rfl)]

/-- The query behind a path without separators. -/
lemma decodeQueryString_plain {path : UrlPath} (hpath : ∀ c ∈ path.text, isPlain c = true)
    (rest : Text) :
    decodeQueryString (path.text ++ '?' :: rest) = decodeLoop [] .inParamName [] [] rest := by
  rw [decodeQueryString, decodeLoop_plain hpath]
  simp only
  rw [decodeLoop, if_pos rfl]

end Scanner

/-! ## The result -/

/-- The parameters come out as they were encoded, with their names in lower case. -/
def Decodes (path : UrlPath) (params : List Param) : Prop :=
  decodeQueryString (appendQuery path params) = params.map Param.entry

/-- A malformed escape is reported. -/
def Reports (text : Text) : Prop := wellFormed text = false → urlDecode text = none

lemma decodes_nil (path : UrlPath) : Decodes path [] := by
  by_cases hpath : ∀ c ∈ path.text, isPlain c = true
  · exact decodeQueryString_plain hpath _
  · push Not at hpath
    obtain ⟨c, hc, hplain⟩ := hpath
    exact decodeLoop_separator path.noQuery ⟨c, hc, Bool.eq_false_of_not_eq_true hplain⟩

lemma decodes_single (path : UrlPath) (p : Param) (hpath : ∀ c ∈ path.text, isPlain c = true) :
    Decodes path [p] := by
  have hquery : appendQuery path [p] = path.text ++ '?' :: (p.encode ++ []) := by
    simp [appendQuery]
  rw [Decodes, hquery, decodeQueryString_plain hpath, decodeLoop_param, decodeLoop, if_pos rfl,
    urlDecode_percentEncode, urlDecode_percentEncode]
  rfl

/-- The scan of several parameters ends behind the first. -/
lemma not_decodes_several (path : UrlPath) (p q : Param) (params : List Param) :
    ¬ Decodes path (p :: q :: params) := by
  intro h
  have hlen := congrArg List.length h
  by_cases hpath : ∀ c ∈ path.text, isPlain c = true
  · obtain ⟨rest, hquery⟩ : ∃ rest, appendQuery path (p :: q :: params) =
        path.text ++ '?' :: (p.encode ++ '&' :: (q.encode ++ rest)) := by
      cases params with
      | nil => exact ⟨[], by simp [appendQuery, List.intercalate]⟩
      | cons r params => exact ⟨_, by simp [appendQuery, List.intercalate]; rfl⟩
    rw [hquery, decodeQueryString_plain hpath, decodeLoop_param, decodeLoop, if_neg (by decide),
      if_pos (.inl rfl), if_neg (by decide), urlDecode_percentEncode, urlDecode_percentEncode]
      at hlen
    simp only [decodeLoop_next, setParam_nil, List.length_nil, List.length_map,
      List.length_cons] at hlen
    omega
  · push Not at hpath
    obtain ⟨c, hc, hplain⟩ := hpath
    have hnil : decodeQueryString (appendQuery path (p :: q :: params)) = [] :=
      decodeLoop_separator path.noQuery ⟨c, hc, Bool.eq_false_of_not_eq_true hplain⟩
    rw [hnil] at hlen
    cases hlen

/-- When the parameters come out of the query. -/
lemma decodes_iff (path : UrlPath) (params : List Param) : Decodes path params ↔
    params = [] ∨ params.length = 1 ∧ ∀ c ∈ path.text, isPlain c = true := by
  match params with
  | [] => exact iff_of_true (decodes_nil path) (.inl rfl)
  | [p] =>
    refine ⟨fun h => .inr ⟨rfl, ?_⟩, fun h => ?_⟩
    · by_contra hpath
      push Not at hpath
      obtain ⟨c, hc, hplain⟩ := hpath
      have hnil : decodeQueryString (appendQuery path [p]) = [] :=
        decodeLoop_separator path.noQuery ⟨c, hc, Bool.eq_false_of_not_eq_true hplain⟩
      exact absurd (hnil.symm.trans h) (by simp)
    · obtain h | h := h
      · cases h
      · exact decodes_single path p h.2
  | p :: q :: params =>
    refine iff_of_false (not_decodes_several path p q params) ?_
    simp

/-- When malformed escapes are reported. -/
lemma reports_iff (text : Text) : Reports text ↔ wellFormed text = true ∨ Unreadable text := by
  rw [Reports, urlDecode_eq_none_iff]
  cases wellFormed text <;> simp

/-- Decoding inverts the encoding of every byte string.  It gives back the parameters of a query
exactly when there is none, or one behind a path without separators, and reports the malformed
escapes of a text exactly when there are none or some of them is not read as a number. -/
theorem decoding_inverts_iff (path : UrlPath) (params : List Param) (bytes : Bytes) (text : Text) :
    (Decodes path params ∧ urlDecode (percentEncode bytes) = some (byteText bytes) ∧
        Reports text) ↔
      (params = [] ∨ params.length = 1 ∧ ∀ c ∈ path.text, isPlain c = true) ∧
        (wellFormed text = true ∨ Unreadable text) := by
  rw [decodes_iff, reports_iff]
  exact ⟨fun h => ⟨h.1, h.2.2⟩, fun h => ⟨h.1, urlDecode_percentEncode bytes, h.2⟩⟩

/-- `/a?x=1&y=2` yields the first parameter only, and `%1g` is read as the byte 1. -/
theorem decoding_fails :
    ¬ Decodes ⟨"/a".toList, by decide⟩ [⟨[120], [49]⟩, ⟨[121], [50]⟩] ∧
      decodeQueryString "/a?x=1&y=2".toList = [(['x'], ['1'])] ∧
      ¬ Reports "%1g".toList := by
  refine ⟨not_decodes_several _ _ _ _, by decide, fun h => ?_⟩
  exact absurd (h (by decide)) (by decide)

end Halcyon.Aperture
