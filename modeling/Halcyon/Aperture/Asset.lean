import Halcyon.Lib.Buffer
import Halcyon.Whip.Message

/-!
# Assets as aperture reads them

`whip::Asset` keeps the byte array that the asset server sent and finds the data in it by three
variable-length fields: the byte at `NAME_FIELD_SZ_LOC` is the length of the name, the byte behind
the name the length of the description, and the four bytes behind that the length of the data.
None of the three reads is compared with the length of the array.  `CloudFilesAsset` keeps the data
alone.  Both hand out all of it or a range with inclusive ends (`copyAssetData`), and both change a
range that does not fit in the same way.

An `unsigned int` has 32 bits and the sum of two wraps; the width of a `size_t` is a parameter, of
at least 32 bits, and a vector or a string is shorter than `size_t` can count.
-/

namespace Halcyon.Aperture

open Halcyon.Lib Halcyon.Whip

/-- The width of `size_t`. -/
structure Platform where
  sizeBits : Nat
  atLeast : 32 ≤ sizeBits

/-- A 64-bit build. -/
def Platform.x64 : Platform := ⟨64, by decide⟩

/-- The standard exceptions the code throws, with what `what()` says. -/
inductive Exn
  | runtimeError (what : String)
  | rangeError (what : String)
  | badLexicalCast
  deriving DecidableEq

/-- The sum of two values of type `unsigned int`. -/
def uintAdd (a b : Nat) : Nat := (a + b) % 2 ^ 32

/-- The sum of two values of type `size_t`. -/
def sizeAdd (P : Platform) (a b : Nat) : Nat := (a + b) % 2 ^ P.sizeBits

lemma uintAdd_of_lt {a b : Nat} (h : a + b < 2 ^ 32) : uintAdd a b = a + b := Nat.mod_eq_of_lt h

lemma sizeAdd_of_lt {P : Platform} {a b : Nat} (h : a + b < 2 ^ P.sizeBits) :
    sizeAdd P a b = a + b := Nat.mod_eq_of_lt h

lemma Platform.le_size (P : Platform) : 2 ^ 32 ≤ 2 ^ P.sizeBits :=
  Nat.pow_le_pow_right (by decide) P.atLeast

/-! ## Ranges -/

/-- What both `copyAssetData` make of an inclusive range of data that is not empty: the end is
clamped, and a range that starts behind the data or is flipped becomes the whole of it. -/
def clampRange (dataSz rngStart rngEnd : Nat) : Nat × Nat :=
  let rngEnd := if rngEnd > dataSz - 1 then dataSz - 1 else rngEnd
  let (rngStart, rngEnd) :=
    if rngStart > dataSz - 1 then (0, dataSz - 1) else (rngStart, rngEnd)
  if rngEnd < rngStart then (0, dataSz - 1) else (rngStart, rngEnd)

section Clamp

variable {dataSz : Nat} (rngStart rngEnd : Nat)

/-- The clamped range is a range of the data. -/
lemma clampRange_valid (h : dataSz ≠ 0) :
    (clampRange dataSz rngStart rngEnd).1 ≤ (clampRange dataSz rngStart rngEnd).2 ∧
      (clampRange dataSz rngStart rngEnd).2 < dataSz := by
  unfold clampRange
  dsimp only
  split_ifs <;> dsimp only at * <;> omega

variable {rngStart rngEnd}

/-- A range that starts in the data and is not flipped keeps its start. -/
lemma clampRange_of_le (hstart : rngStart < dataSz) (hle : rngStart ≤ rngEnd) :
    clampRange dataSz rngStart rngEnd = (rngStart, min rngEnd (dataSz - 1)) := by
  have hmin : (if rngEnd > dataSz - 1 then dataSz - 1 else rngEnd) = min rngEnd (dataSz - 1) := by
    split_ifs <;> omega
  have hstay : ¬ rngStart > dataSz - 1 := by omega
  have horder : ¬ min rngEnd (dataSz - 1) < rngStart := by omega
  simp only [clampRange, hmin, if_neg hstay, if_neg horder]

/-- Any other range becomes the whole of the data. -/
lemma clampRange_of_not_le (h : ¬ (rngStart < dataSz ∧ rngStart ≤ rngEnd)) (hne : dataSz ≠ 0) :
    clampRange dataSz rngStart rngEnd = (0, dataSz - 1) := by
  unfold clampRange
  dsimp only
  split_ifs <;> dsimp only at * <;> simp only [Prod.mk.injEq] <;> omega

end Clamp

/-! ## Assets of the asset server -/

/-- `whip::Asset`: the array holds the data and what is known about it. -/
structure Asset (P : Platform) where
  data : Bytes
  size_lt : data.length < 2 ^ P.sizeBits

namespace Asset

variable {P : Platform} (a : Asset P)

/-- `NAME_FIELD_SZ_LOC`. -/
def nameFieldSzLoc : Nat := 39

/-- `getType`. -/
def getType : Access Exn UInt8 := readAt a.data 32

/-- `findDataLocationAndSize`. -/
def findDataLocationAndSize : Access Exn (Nat × Nat) := do
  let currLoc := nameFieldSzLoc
  let nameFieldSz ← readAt a.data currLoc
  let currLoc := uintAdd currLoc (nameFieldSz.toNat + 1)
  let descFieldSz ← readAt a.data currLoc
  let currLoc := uintAdd currLoc (descFieldSz.toNat + 1)
  let arrayPart ← readRange a.data currLoc 4
  return (uintAdd currLoc 4, ntohl arrayPart)

/-- `getBinaryDataSize`. -/
def getBinaryDataSize : Access Exn Nat := do
  let (_, size) ← a.findDataLocationAndSize
  return size

/-- `copyAssetData` of the whole data: the size it returns and the storage after the copy. -/
def copyAssetData (storage : Bytes) : Access Exn (Nat × Bytes) := do
  let (dataLoc, dataSz) ← a.findDataLocationAndSize
  if uintAdd dataLoc dataSz > a.data.length then
    throw <| .runtimeError
      "Asset::copyAssetData(): Copying the full reported data size would overflow buffer"
  else
    let copied ← readRange a.data dataLoc dataSz
    return (dataSz, storage ++ copied)

/-- `copyAssetData` of a range. -/
def copyAssetDataRange (storage : Bytes) (rngStart rngEnd : Nat) : Access Exn (Nat × Bytes) := do
  let (dataLoc, dataSz) ← a.findDataLocationAndSize
  if dataSz = 0 then
    return (0, storage)
  else
    let (rngStart, rngEnd) := clampRange dataSz rngStart rngEnd
    if sizeAdd P dataLoc rngEnd ≥ a.data.length then
      throw <| .rangeError
        "Asset::copyAssetData(): Invalid range sepecification, end of range would overflow buffer"
    else
      let copied ← readRange a.data (sizeAdd P dataLoc rngStart) (rngEnd - rngStart + 1)
      return (dataSz, storage ++ copied)

/-! ### Where the data lies -/

/-- The two lengths before the size of the data stand in the array, and so does the size. -/
structure Fields (name desc : UInt8) : Prop where
  nameSz : a.data[39]? = some name
  descSz : a.data[40 + name.toNat]? = some desc
  dataSz : 45 + name.toNat + desc.toNat ≤ a.data.length

/-- The length of the data according to the four bytes behind the description. -/
def reportedSize (name desc : UInt8) : Nat :=
  ntohl ((a.data.drop (41 + name.toNat + desc.toNat)).take 4)

variable {a}

lemma ntohl_lt (bytes : Bytes) : ntohl bytes < 2 ^ 32 := by
  unfold ntohl
  split
  · rename_i x y z t
    have := x.toNat_lt
    have := y.toNat_lt
    have := z.toNat_lt
    have := t.toNat_lt
    omega
  · decide

lemma reportedSize_lt (name desc : UInt8) : a.reportedSize name desc < 2 ^ 32 := ntohl_lt _

/-- The sums of the two lengths do not wrap: both are bytes. -/
lemma uintAdd_fields (name desc : UInt8) :
    uintAdd nameFieldSzLoc (name.toNat + 1) = 40 + name.toNat ∧
      uintAdd (40 + name.toNat) (desc.toNat + 1) = 41 + name.toNat + desc.toNat ∧
      uintAdd (41 + name.toNat + desc.toNat) 4 = 45 + name.toNat + desc.toNat := by
  have := name.toNat_lt
  have := desc.toNat_lt
  simp only [uintAdd, nameFieldSzLoc]
  omega

lemma findDataLocationAndSize_of_fields {name desc : UInt8} (h : a.Fields name desc) :
    a.findDataLocationAndSize =
      .done (45 + name.toNat + desc.toNat, a.reportedSize name desc) := by
  obtain ⟨hname, hdesc, hsize⟩ := uintAdd_fields name desc
  have hread : (readRange a.data (41 + name.toNat + desc.toNat) 4 : Access Exn Bytes) =
      .done ((a.data.drop (41 + name.toNat + desc.toNat)).take 4) :=
    readRange_eq (by have := h.dataSz; omega)
  simp only [findDataLocationAndSize]
  rw [(readAt_eq_done (i := nameFieldSzLoc)).mpr h.nameSz, Access.done_bind, hname,
    readAt_eq_done.mpr h.descSz, Access.done_bind, hdesc, hread, Access.done_bind, hsize]
  rfl

/-- The location is found if and only if all three fields stand in the array. -/
lemma inside_findDataLocationAndSize :
    a.findDataLocationAndSize.Inside ↔ ∃ name desc, a.Fields name desc := by
  constructor
  · intro h
    simp only [findDataLocationAndSize, Access.inside_bind, inside_readAt] at h
    obtain ⟨hlen, h⟩ := h
    obtain ⟨name, hname⟩ : ∃ name, a.data[39]? = some name :=
      ⟨_, List.getElem?_eq_getElem hlen⟩
    obtain ⟨hlen, h⟩ := h name (readAt_eq_done.mpr hname)
    rw [(uintAdd_fields name 0).1] at hlen h
    obtain ⟨desc, hdesc⟩ : ∃ desc, a.data[40 + name.toNat]? = some desc :=
      ⟨_, List.getElem?_eq_getElem hlen⟩
    obtain ⟨hsize, -⟩ := h desc (readAt_eq_done.mpr hdesc)
    rw [(uintAdd_fields name desc).2.1, inside_readRange] at hsize
    exact ⟨name, desc, hname, hdesc, by omega⟩
  · rintro ⟨name, desc, h⟩
    rw [findDataLocationAndSize_of_fields h]
    exact Access.inside_done _

/-! ### The copies -/

section Copies

variable {name desc : UInt8} {storage : Bytes}

/-- With the fields in the array, the whole copy stays inside if and only if the end of the data
does not wrap or lies in the array. -/
lemma inside_copyAssetData (h : a.Fields name desc) :
    (a.copyAssetData storage).Inside ↔
      45 + name.toNat + desc.toNat + a.reportedSize name desc < 2 ^ 32 ∨
        45 + name.toNat + desc.toNat + a.reportedSize name desc ≤ a.data.length := by
  have hsize := reportedSize_lt (a := a) name desc
  have hfields := h.dataSz
  simp only [copyAssetData, findDataLocationAndSize_of_fields h, Access.done_bind]
  generalize 45 + name.toNat + desc.toNat = dataLoc at *
  generalize a.reportedSize name desc = dataSz at *
  by_cases hwrap : dataLoc + dataSz < 2 ^ 32
  · rw [uintAdd_of_lt hwrap]
    refine iff_of_true ?_ (Or.inl hwrap)
    split_ifs with hover
    · exact Access.inside_throw _
    · rw [readRange_eq (by omega), Access.done_bind]
      exact Access.inside_pure _
  · -- the wrapped end lies before the data, so the test lets the copy through
    have hend : uintAdd dataLoc dataSz ≤ a.data.length := by
      unfold uintAdd
      omega
    rw [if_neg (by omega), Access.inside_bind, inside_readRange]
    constructor
    · rintro ⟨hread, -⟩
      omega
    · intro hread
      exact ⟨by omega, fun _ _ => Access.inside_pure _⟩

/-- Where the end of the data does not wrap or lies in the array, no range leaves it. -/
lemma inside_copyAssetDataRange (h : a.Fields name desc)
    (hend : 45 + name.toNat + desc.toNat + a.reportedSize name desc < 2 ^ 32 ∨
      45 + name.toNat + desc.toNat + a.reportedSize name desc ≤ a.data.length)
    (rngStart rngEnd : Nat) : (a.copyAssetDataRange storage rngStart rngEnd).Inside := by
  have hsize := a.size_lt
  have hbits := P.le_size
  simp only [copyAssetDataRange, findDataLocationAndSize_of_fields h, Access.done_bind]
  generalize 45 + name.toNat + desc.toNat = dataLoc at *
  generalize a.reportedSize name desc = dataSz at *
  split_ifs with hzero hover
  · exact Access.inside_pure _
  · exact Access.inside_throw _
  · obtain ⟨hle, hlt⟩ := clampRange_valid rngStart rngEnd hzero
    rw [sizeAdd_of_lt (by omega)] at hover
    rw [sizeAdd_of_lt (by omega), readRange_eq (by omega), Access.done_bind]
    exact Access.inside_pure _

end Copies

end Asset

/-- Computing the location and the size of the data, copying all of it and copying any range read
only bytes of the array, or throw. -/
structure StaysInside {P : Platform} (a : Asset P) : Prop where
  location : a.findDataLocationAndSize.Inside
  size : a.getBinaryDataSize.Inside
  whole : ∀ storage, (a.copyAssetData storage).Inside
  range : ∀ storage rngStart rngEnd, (a.copyAssetDataRange storage rngStart rngEnd).Inside

/-- The array reaches to the end of its size field, and the end of the data is a 32-bit number or
lies in the array. -/
def LengthsFit (data : Bytes) : Prop :=
  ∃ name desc : UInt8, data[39]? = some name ∧ data[40 + name.toNat]? = some desc ∧
    45 + name.toNat + desc.toNat ≤ data.length ∧
    (45 + name.toNat + desc.toNat +
        ntohl ((data.drop (41 + name.toNat + desc.toNat)).take 4) < 2 ^ 32 ∨
      45 + name.toNat + desc.toNat +
        ntohl ((data.drop (41 + name.toNat + desc.toNat)).take 4) ≤ data.length)

/-- An asset whose lengths fit is parsed inside its array. -/
lemma staysInside_of_lengthsFit {P : Platform} {a : Asset P} (h : LengthsFit a.data) :
    StaysInside a := by
  obtain ⟨name, desc, hname, hdesc, hsize, hend⟩ := h
  have hf : a.Fields name desc := ⟨hname, hdesc, hsize⟩
  refine ⟨Asset.inside_findDataLocationAndSize.mpr ⟨name, desc, hf⟩, ?_,
    fun storage => (Asset.inside_copyAssetData hf).mpr hend,
    fun storage => Asset.inside_copyAssetDataRange hf hend⟩
  rw [Asset.getBinaryDataSize, Asset.findDataLocationAndSize_of_fields hf]
  exact Access.inside_done _

/-- An asset is parsed inside its array exactly when its lengths fit. -/
theorem staysInside_iff {P : Platform} (a : Asset P) : StaysInside a ↔ LengthsFit a.data := by
  constructor
  · intro h
    obtain ⟨name, desc, hf⟩ := Asset.inside_findDataLocationAndSize.mp h.location
    exact ⟨name, desc, hf.nameSz, hf.descSz, hf.dataSz,
      (Asset.inside_copyAssetData hf).mp (h.whole [])⟩
  · exact staysInside_of_lengthsFit

/-- The first 39 bytes of an asset, then the lengths of an empty name and description, then the
bytes of the size. -/
def sampleHeader (size : Nat) : Bytes := List.replicate 39 0 ++ [0, 0] ++ htonl size

/-- An array that ends before the length of the name, and one whose size field makes the end of the
data wrap to its own length: both are read beyond their end. -/
theorem not_staysInside_samples :
    ¬ StaysInside (P := .x64) ⟨List.replicate 39 0, by decide⟩ ∧
      ¬ StaysInside (P := .x64) ⟨sampleHeader (2 ^ 32 - 45), by decide⟩ := by
  refine ⟨fun h => ?_, fun h => ?_⟩
  · exact absurd h.location (by decide)
  · exact absurd (h.whole []) (by decide)

/-! ## Assets of cloud files -/

/-- `CloudFilesAsset`: `data` and `type` are members of the `StratusAsset` it was read from. -/
structure CloudFilesAsset (P : Platform) where
  assetId : List Char
  type : Int
  data : Bytes
  size_lt : data.length < 2 ^ P.sizeBits

namespace CloudFilesAsset

variable {P : Platform} (a : CloudFilesAsset P)

/-- `getType`: the cast keeps the last eight bits. -/
def getType : UInt8 := UInt8.ofNat (a.type % 256).toNat

/-- `getBinaryDataSize`. -/
def getBinaryDataSize : Nat := a.data.length

/-- `copyAssetData` of the whole data: unlike the other asset it replaces the storage. -/
def copyAssetData (_storage : Bytes) : Nat × Bytes := (a.data.length, a.data)

/-- `copyAssetData` of a range. -/
def copyAssetDataRange (storage : Bytes) (rngStart rngEnd : Nat) : Access Exn (Nat × Bytes) := do
  let dataSz := a.data.length
  if dataSz = 0 then
    return (0, storage)
  else
    let (rngStart, rngEnd) := clampRange dataSz rngStart rngEnd
    let copied ← readRange a.data rngStart (rngEnd - rngStart + 1)
    return (dataSz, storage ++ copied)

end CloudFilesAsset

/-! ## Both -/

/-- `IAsset`. -/
inductive IAsset (P : Platform)
  | whip (a : Asset P)
  | cloudFiles (a : CloudFilesAsset P)

namespace IAsset

variable {P : Platform}

/-- `getType`. -/
def getType : IAsset P → Access Exn UInt8
  | whip a => a.getType
  | cloudFiles a => .done a.getType

/-- `getBinaryDataSize`. -/
def getBinaryDataSize : IAsset P → Access Exn Nat
  | whip a => a.getBinaryDataSize
  | cloudFiles a => .done a.getBinaryDataSize

/-- `copyAssetData` of the whole data. -/
def copyAssetData (storage : Bytes) : IAsset P → Access Exn (Nat × Bytes)
  | whip a => a.copyAssetData storage
  | cloudFiles a => .done (a.copyAssetData storage)

/-- `copyAssetData` of a range. -/
def copyAssetDataRange (storage : Bytes) (rngStart rngEnd : Nat) :
    IAsset P → Access Exn (Nat × Bytes)
  | whip a => a.copyAssetDataRange storage rngStart rngEnd
  | cloudFiles a => a.copyAssetDataRange storage rngStart rngEnd

end IAsset

end Halcyon.Aperture
