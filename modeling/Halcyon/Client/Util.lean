import Halcyon.Client.Message
import Halcyon.Lib.Utf16

/-!
# Texts and buffers of the .NET client

The client builds what it sends in an `AppendableByteArray`: an array of a size that is computed in
advance, and the position up to which it has been written.  Nothing keeps the size and what is
appended in step but the code that does both; where they differ, an append throws, or the end of
the array stays zero.  `written` is an array in which they do agree so far.

Texts are strings of UTF-16 code units.  Ids are written in ASCII, names in UTF-8.
-/

namespace Halcyon.Client

open Halcyon.Lib Halcyon.Whip

/-- `String`: the code units. -/
abbrev Text := List UInt16

/-! ## `Util` -/

/-- `FixUuid`: without dashes. -/
def fixUuid (uuid : Text) : Text := uuid.filter fun u => u ≠ 45

/-- `ASCIIEncoding.GetBytes`: a question mark for every other unit. -/
def asciiBytes (s : Text) : Bytes :=
  s.map fun u => if u.toNat < 128 then UInt8.ofNat u.toNat else 63

/-- `ASCIIEncoding.GetString`. -/
def asciiString (bytes : Bytes) : Text :=
  bytes.map fun b => if b.toNat < 128 then UInt16.ofNat b.toNat else 63

/-- `UuidToAscii`. -/
def uuidToAscii (uuid : Text) : Bytes := asciiBytes (fixUuid uuid)

/-- `LimitByteLength2`: the longest prefix that is encoded in at most `maxLength` bytes, tried from
the whole input down. -/
def limitByteLength2 (input : Text) (maxLength : Nat) : Text :=
  go input.length
where
  go : Nat → Text
    | 0 => []
    | i + 1 =>
      if (Utf16.toUtf8 (input.take (i + 1))).length ≤ maxLength then input.take (i + 1) else go i

/-- The units of a text are ASCII characters. -/
def IsAscii (s : Text) : Prop := ∀ u ∈ s, u.toNat < 128

lemma asciiString_asciiBytes (s : Text) : asciiString (asciiBytes s) = s ↔ IsAscii s := by
  induction s with
  | nil => exact iff_of_true rfl fun u hu => by cases hu
  | cons u s ih =>
    have hhead : (if (if u.toNat < 128 then UInt8.ofNat u.toNat else 63).toNat < 128 then
        UInt16.ofNat (if u.toNat < 128 then UInt8.ofNat u.toNat else 63).toNat else 63) = u ↔
        u.toNat < 128 := by
      by_cases hu : u.toNat < 128
      · have hmod : u.toNat % 256 = u.toNat := Nat.mod_eq_of_lt (by omega)
        simp only [hu, if_true, UInt8.toNat_ofNat', Nat.reducePow, hmod, UInt16.ofNat_toNat]
      · simp only [hu, if_false, iff_false]
        intro heq
        rw [← heq] at hu
        exact hu (by decide)
    rw [IsAscii, List.forall_mem_cons, ← hhead, ← IsAscii, ← ih]
    exact List.cons_eq_cons

@[simp] lemma length_asciiBytes (s : Text) : (asciiBytes s).length = s.length :=
  List.length_map _

@[simp] lemma fixUuid_fixUuid (uuid : Text) : fixUuid (fixUuid uuid) = fixUuid uuid := by
  simp only [fixUuid, List.filter_filter, Bool.and_self]

/-- What is left of a name fits into the limit. -/
lemma length_toUtf8_limitByteLength2 (input : Text) (maxLength : Nat) :
    (Utf16.toUtf8 (limitByteLength2 input maxLength)).length ≤ maxLength := by
  suffices h : ∀ n, (Utf16.toUtf8 (limitByteLength2.go input maxLength n)).length ≤ maxLength from
    h _
  intro n
  induction n with
  | zero => exact Nat.zero_le _
  | succ n ih =>
    rw [limitByteLength2.go]
    split_ifs with hfits
    · exact hfits
    · exact ih

/-! ## `AppendableByteArray` -/

/-- The largest array of bytes that the runtime allocates. -/
def maxArrayLength : Nat := 0x7FFFFFC7

/-- `AppendableByteArray`. -/
structure AppendableByteArray where
  data : Bytes
  insertPos : Nat
  deriving DecidableEq

namespace AppendableByteArray

/-- The constructor; an array that is too long, or whose length is no `int`, is not allocated. -/
def create (size : Nat) : Except ClientException AppendableByteArray :=
  if size ≤ maxArrayLength then .ok ⟨List.replicate size 0, 0⟩ else .error .outOfMemoryException

/-- `Append` of a byte. -/
def appendByte (moreData : UInt8) (a : AppendableByteArray) :
    Except ClientException AppendableByteArray :=
  if a.insertPos < a.data.length then
    .ok ⟨a.data.set a.insertPos moreData, a.insertPos + 1⟩
  else .error .indexOutOfRangeException

/-- `Append` of an array. -/
def append (moreData : Bytes) (a : AppendableByteArray) :
    Except ClientException AppendableByteArray :=
  if moreData.length > 0 then
    if a.insertPos + moreData.length ≤ a.data.length then
      .ok ⟨a.data.take a.insertPos ++ moreData ++ a.data.drop (a.insertPos + moreData.length),
        a.insertPos + moreData.length⟩
    else .error .argumentException
  else .ok a

/-- An array with room behind what has been written. -/
def written (bytes : Bytes) (room : Nat) : AppendableByteArray :=
  ⟨bytes ++ List.replicate room 0, bytes.length⟩

variable {bytes : Bytes} {room : Nat}

lemma create_eq_written {size : Nat} (h : size ≤ maxArrayLength) :
    create size = .ok (written [] size) := if_pos h

lemma appendByte_written (b : UInt8) (bytes : Bytes) (room : Nat) :
    (written bytes (room + 1)).appendByte b = .ok (written (bytes ++ [b]) room) := by
  rw [appendByte, if_pos (by simp [written])]
  simp [written, List.replicate_succ, List.set_append_right]

lemma append_written (moreData bytes : Bytes) (room : Nat) :
    (written bytes (moreData.length + room)).append moreData =
      .ok (written (bytes ++ moreData) room) := by
  rw [append]
  split_ifs with hpos hfits
  · simp [written]
  · exact absurd (by simp [written]) hfits
  · obtain rfl := List.eq_nil_of_length_eq_zero (Nat.eq_zero_of_not_pos hpos)
    simp [written]

end AppendableByteArray

end Halcyon.Client
