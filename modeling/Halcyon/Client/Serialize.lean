import Halcyon.Aperture.Asset
import Halcyon.Client.Util

/-!
# Assets of the .NET client on the wire

The client holds an asset with its name and description as texts, which the constructor cuts so
that their UTF-8 encodings have at most 255 bytes.  `serialize` writes it into an array whose size
it has computed before, and `parse` makes an asset of such bytes again; the servers find the fields
they need by fixed offsets and by the two length bytes.

Cutting a text at a code unit can leave the first half of a surrogate pair at its end.  It is
encoded as the replacement character, so that the asset that is read is not the one that was
written: an asset makes the round trip exactly if both texts are well formed as they are held, the
id has 32 ASCII characters, and the array can be allocated.
-/

namespace Halcyon.Client

open Halcyon.Lib Halcyon.Whip

/-- `Asset`, as the client holds it. -/
structure HeldAsset where
  uuid : Text
  type : UInt8
  isLocal : Bool
  temporary : Bool
  createTime : Int32
  name : Text
  description : Text
  data : Bytes
  deriving DecidableEq

namespace HeldAsset

/-- The constructor with the members of an asset. -/
def create (uuid : Text) (type : UInt8) (isLocal temporary : Bool) (createTime : Int32)
    (name description : Text) (data : Bytes) : HeldAsset where
  uuid := fixUuid uuid
  type := type
  isLocal := isLocal
  temporary := temporary
  createTime := createTime
  name := limitByteLength2 name 255
  description := limitByteLength2 description 255
  data := data

/-- A text in the message of an exception. -/
def shown (s : Text) : String := String.ofList (Utf16.scalars s)

/-- `Serialize`. -/
def serialize (a : HeldAsset) : Except ClientException AppendableByteArray := do
  let nameBytes := Utf16.toUtf8 a.name
  let descBytes := Utf16.toUtf8 a.description
  if nameBytes.length > 255 then
    throw <| .assetProtocolError ("Serialized asset name would be too long after encoding " ++
      shown a.name ++ " " ++ shown a.uuid)
  if descBytes.length > 255 then
    throw <| .assetProtocolError ("Serialized asset description would be too long after encoding "
      ++ shown a.description ++ " " ++ shown a.uuid)
  let retArray ← AppendableByteArray.create
    (39 + 1 + nameBytes.length + 1 + descBytes.length + 4 + a.data.length)
  let retArray ← retArray.append (uuidToAscii a.uuid)
  let retArray ← retArray.appendByte a.type
  let retArray ← retArray.appendByte (if a.isLocal then 1 else 0)
  let retArray ← retArray.appendByte (if a.temporary then 1 else 0)
  let retArray ← retArray.append (htonl a.createTime.toUInt32.toNat)
  let retArray ← retArray.appendByte (UInt8.ofNat nameBytes.length)
  let retArray ← retArray.append nameBytes
  let retArray ← retArray.appendByte (UInt8.ofNat descBytes.length)
  let retArray ← retArray.append descBytes
  let retArray ← retArray.append (htonl a.data.length)
  retArray.append a.data

/-- `UTF8Encoding.GetString`; what it makes of bytes that are not valid is left open. -/
def getString (invalid : Bytes → Text) (bytes : Bytes) : Text :=
  match Utf16.ofUtf8 bytes with
  | some cs => cs.flatMap Utf16.units
  | none => invalid bytes

/-- The constructor for what the server has sent, with its texts decoded. -/
def parse (invalid : Bytes → Text) (bytes : Bytes) : Except ClientException HeldAsset := do
  let a ← constructAsset bytes
  return {
    uuid := asciiString a.uuid
    type := a.type
    isLocal := a.isLocal
    temporary := a.temporary
    createTime := Int32.ofInt a.createTime
    name := getString invalid a.name
    description := getString invalid a.description
    data := a.data }

/-! ## What is written -/

/-- The size of the array. -/
def size (a : HeldAsset) : Nat :=
  39 + 1 + (Utf16.toUtf8 a.name).length + 1 + (Utf16.toUtf8 a.description).length + 4 +
    a.data.length

/-- The texts of an asset fit, as those of every constructed asset do. -/
structure TextsFit (a : HeldAsset) : Prop where
  name : (Utf16.toUtf8 a.name).length ≤ 255
  description : (Utf16.toUtf8 a.description).length ≤ 255

/-- The fields in their order. -/
def layout (a : HeldAsset) : Bytes :=
  uuidToAscii a.uuid ++ [a.type] ++ [if a.isLocal then 1 else 0] ++
    [if a.temporary then 1 else 0] ++ htonl a.createTime.toUInt32.toNat ++
    [UInt8.ofNat (Utf16.toUtf8 a.name).length] ++ Utf16.toUtf8 a.name ++
    [UInt8.ofNat (Utf16.toUtf8 a.description).length] ++ Utf16.toUtf8 a.description ++
    htonl a.data.length ++ a.data

variable {a : HeldAsset} {buf : AppendableByteArray} {invalid : Bytes → Text}

lemma textsFit_create (uuid : Text) (type : UInt8) (isLocal temporary : Bool) (createTime : Int32)
    (name description : Text) (data : Bytes) :
    (create uuid type isLocal temporary createTime name description data).TextsFit :=
  ⟨length_toUtf8_limitByteLength2 _ _, length_toUtf8_limitByteLength2 _ _⟩

/-- With an id of 32 characters the array is filled with the fields exactly. -/
lemma serialize_eq (hfit : a.TextsFit) (huuid : (uuidToAscii a.uuid).length = 32)
    (hsize : a.size ≤ maxArrayLength) : a.serialize = .ok (.written a.layout 0) := by
  have hroom : a.size = (uuidToAscii a.uuid).length +
      ((htonl a.createTime.toUInt32.toNat).length + ((Utf16.toUtf8 a.name).length +
        ((Utf16.toUtf8 a.description).length + ((htonl a.data.length).length +
          (a.data.length + 0)) + 1) + 1) + 1 + 1 + 1) := by
    rw [huuid, length_htonl, length_htonl, size]
    omega
  rw [serialize]
  simp only [if_neg (Nat.not_lt.mpr hfit.name), if_neg (Nat.not_lt.mpr hfit.description), gt_iff_lt]
  rw [← size, AppendableByteArray.create_eq_written hsize, hroom]
  simp only [ok_bind, AppendableByteArray.append_written,
    AppendableByteArray.appendByte_written, List.nil_append]
  rfl

/-- Where an array has been written up to. -/
def UpTo (pos size : Nat) (buf : AppendableByteArray) : Prop :=
  buf.insertPos = pos ∧ buf.data.length = size

lemma ends_create (n : Nat) : Ends (fun _ => True) (fun buf => UpTo 0 n buf ∧ n ≤ maxArrayLength)
    (AppendableByteArray.create n) := by
  rw [AppendableByteArray.create]
  split_ifs with h
  · exact ⟨⟨rfl, List.length_replicate⟩, h⟩
  · trivial

lemma UpTo.append {pos size : Nat} (h : UpTo pos size buf) (bytes : Bytes) :
    Ends (fun _ => True) (UpTo (pos + bytes.length) size) (buf.append bytes) := by
  obtain ⟨rfl, rfl⟩ := h
  rw [AppendableByteArray.append]
  split_ifs with hpos hfits
  · refine ⟨rfl, ?_⟩
    simp only [List.length_append, List.length_take, List.length_drop]
    omega
  · trivial
  · exact ⟨by omega, rfl⟩

lemma UpTo.appendByte {pos size : Nat} (h : UpTo pos size buf) (b : UInt8) :
    Ends (fun _ => True) (UpTo (pos + 1) size) (buf.appendByte b) := by
  obtain ⟨rfl, rfl⟩ := h
  rw [AppendableByteArray.appendByte]
  split_ifs with hfits
  · exact ⟨rfl, List.length_set⟩
  · trivial

/-- Whatever the id is, the array is written up to the end of the fields. -/
lemma ends_serialize (hfit : a.TextsFit) :
    Ends (fun _ => True) (fun buf => a.size ≤ maxArrayLength ∧
      UpTo ((uuidToAscii a.uuid).length + 13 + (Utf16.toUtf8 a.name).length +
        (Utf16.toUtf8 a.description).length + a.data.length) a.size buf) a.serialize := by
  rw [serialize]
  simp only [if_neg (Nat.not_lt.mpr hfit.name), if_neg (Nat.not_lt.mpr hfit.description), gt_iff_lt]
  refine (ends_create _).bind fun b0 h0 => (h0.1.append _).bind fun b1 h1 =>
    (h1.appendByte _).bind fun b2 h2 => (h2.appendByte _).bind fun b3 h3 =>
    (h3.appendByte _).bind fun b4 h4 => (h4.append _).bind fun b5 h5 =>
    (h5.appendByte _).bind fun b6 h6 => (h6.append _).bind fun b7 h7 =>
    (h7.appendByte _).bind fun b8 h8 => (h8.append _).bind fun b9 h9 =>
    (h9.append _).bind fun b10 h10 => (h10.append _).mono (fun _ _ => trivial) fun b h => ?_
  refine ⟨h0.2, h.1.trans ?_, h.2⟩
  simp only [length_htonl]
  omega

/-! ## What is read -/

section Reading

variable (pre : Bytes) {field post bytes : Bytes} {i n : Nat} {b : UInt8}

lemma elementsAt_middle (hpre : pre.length = i) (hfield : field.length = n)
    (h : bytes = pre ++ (field ++ post)) : elementsAt bytes i n = .ok field := by
  subst h hpre hfield
  rw [elementsAt_of_le (by simp only [List.length_append]; omega), List.drop_left, List.take_left]

lemma fieldAt_middle (hpre : pre.length = i) (hfield : field.length = n)
    (h : bytes = pre ++ (field ++ post)) : fieldAt bytes i n = .ok field := by
  subst h hpre hfield
  rw [fieldAt_of_le (by simp only [List.length_append]; omega), List.drop_left, List.take_left]

lemma elementAt_middle (hpre : pre.length = i) (h : bytes = pre ++ b :: post) :
    elementAt bytes i = .ok b := by
  subst h hpre
  rw [elementAt_eq_ok, List.getElem?_append_right (Nat.le_refl _), Nat.sub_self]
  rfl

end Reading

/-- A flag is written as one byte and read back. -/
lemma flag_eq_one (flag : Bool) : decide ((if flag then (1 : UInt8) else 0) = 1) = flag := by
  cases flag <;> rfl

/-- A length of at most 255 is read back from its byte. -/
lemma toNat_length {k : Nat} (h : k ≤ 255) : (UInt8.ofNat k).toNat = k := by
  rw [UInt8.toNat_ofNat', Nat.mod_eq_of_lt (by omega)]

/-- Bytes that consist of the fields of an asset. -/
structure FieldsOf (bytes uuid : Bytes) (type isLocal temporary : UInt8)
    (time name desc data : Bytes) : Prop where
  length_uuid : uuid.length = 32
  length_time : time.length = 4
  length_name : name.length ≤ 255
  length_desc : desc.length ≤ 255
  length_data : data.length < 2 ^ 31
  bytes_eq : bytes = uuid ++ type :: isLocal :: temporary :: (time ++ UInt8.ofNat name.length ::
    (name ++ UInt8.ofNat desc.length :: (desc ++ (htonl data.length ++ data))))

namespace FieldsOf

variable {bytes uuid time name desc data : Bytes} {type isLocal temporary : UInt8}
  (h : FieldsOf bytes uuid type isLocal temporary time name desc data)
include h

lemma type_at : elementAt bytes 32 = .ok type := elementAt_middle uuid h.length_uuid h.bytes_eq

lemma isLocal_at : elementAt bytes 33 = .ok isLocal :=
  elementAt_middle (uuid ++ [type]) (by simp [h.length_uuid]) (by simpa using h.bytes_eq)

lemma nameSize_at : elementAt bytes 39 = .ok (UInt8.ofNat name.length) :=
  elementAt_middle (uuid ++ [type, isLocal, temporary] ++ time) (by simp [h.length_uuid, h.length_time])
    (by simpa using h.bytes_eq)

lemma descSize_at : elementAt bytes (40 + name.length) = .ok (UInt8.ofNat desc.length) :=
  elementAt_middle
    (uuid ++ [type, isLocal, temporary] ++ time ++ [UInt8.ofNat name.length] ++ name)
    (by simp [h.length_uuid, h.length_time]; omega) (by simpa using h.bytes_eq)

lemma dataSize_at :
    elementsAt bytes (41 + name.length + desc.length) 4 = .ok (htonl data.length) :=
  elementsAt_middle (uuid ++ [type, isLocal, temporary] ++ time ++ [UInt8.ofNat name.length] ++
      name ++ [UInt8.ofNat desc.length] ++ desc)
    (by simp [h.length_uuid, h.length_time]; omega) (length_htonl _) (by simpa using h.bytes_eq)

/-- The data is what is behind its size. -/
lemma data_eq : bytes = uuid ++ [type, isLocal, temporary] ++ time ++ [UInt8.ofNat name.length] ++
    name ++ [UInt8.ofNat desc.length] ++ desc ++ htonl data.length ++ (data ++ []) := by
  simpa using h.bytes_eq

lemma length_eq : bytes.length = 45 + name.length + desc.length + data.length := by
  rw [h.bytes_eq]
  simp only [List.length_append, List.length_cons, length_htonl, h.length_uuid, h.length_time]
  omega

/-- The client finds every field as it was written. -/
lemma constructAsset_eq : constructAsset bytes =
    .ok ⟨uuid, type, isLocal = 1, temporary = 1, ntohlInt time, name, desc, data⟩ := by
  have hloc : nameSizeTagLoc = 39 := rfl
  have hnameLen := toNat_length h.length_name
  have hdescLen := toNat_length h.length_desc
  have hsize : (ntohlInt (htonl data.length)).toNat = data.length := by
    rw [ntohlInt_htonl h.length_data, Int.toNat_natCast]
  have huuid : elementsAt bytes 0 32 = .ok uuid := elementsAt_middle [] rfl h.length_uuid h.bytes_eq
  have htemporary : elementAt bytes 34 = .ok temporary :=
    elementAt_middle (uuid ++ [type, isLocal]) (by simp [h.length_uuid]) (by simpa using h.bytes_eq)
  have htime : elementsAt bytes 35 4 = .ok time :=
    elementsAt_middle (uuid ++ [type, isLocal, temporary]) (by simp [h.length_uuid]) h.length_time
      (by simpa using h.bytes_eq)
  have hname : fieldAt bytes 40 name.length = .ok name :=
    fieldAt_middle (uuid ++ [type, isLocal, temporary] ++ time ++ [UInt8.ofNat name.length])
      (by simp [h.length_uuid, h.length_time]) rfl (by simpa using h.bytes_eq)
  have hdesc : fieldAt bytes (41 + name.length) desc.length = .ok desc :=
    fieldAt_middle (uuid ++ [type, isLocal, temporary] ++ time ++ [UInt8.ofNat name.length] ++
        name ++ [UInt8.ofNat desc.length])
      (by simp [h.length_uuid, h.length_time]; omega) rfl (by simpa using h.bytes_eq)
  have hdata : fieldAt bytes (45 + name.length + desc.length) data.length = .ok data :=
    fieldAt_middle _ (by simp [h.length_uuid, h.length_time]; omega) rfl h.data_eq
  have hloc1 : nameSizeTagLoc + name.length + 1 = 40 + name.length := by omega
  have hloc2 : 40 + name.length + 1 = 41 + name.length := by omega
  have hloc3 : 40 + name.length + desc.length + 1 = 41 + name.length + desc.length := by omega
  have hloc4 : 41 + name.length + desc.length + 4 = 45 + name.length + desc.length := by omega
  rw [constructAsset, huuid, ok_bind, h.type_at, ok_bind, h.isLocal_at, ok_bind, htemporary,
    ok_bind, htime, ok_bind, hloc, h.nameSize_at, ok_bind, hnameLen, hname, ok_bind]
  dsimp only
  rw [← hloc, hloc1, h.descSize_at, ok_bind, hdescLen, hloc2, hdesc, ok_bind, hloc3,
    h.dataSize_at, ok_bind, hloc4, hsize, hdata]
  rfl

/-- And so do the servers, which look for the data only. -/
lemma apertureFields {P : Aperture.Platform} {asset : Aperture.Asset P}
    (hasset : asset.data = bytes) :
    asset.Fields (UInt8.ofNat name.length) (UInt8.ofNat desc.length) where
  nameSz := by
    rw [hasset]
    exact elementAt_eq_ok.mp h.nameSize_at
  descSz := by
    rw [hasset, toNat_length h.length_name]
    exact elementAt_eq_ok.mp h.descSize_at
  dataSz := by
    rw [hasset, toNat_length h.length_name, toNat_length h.length_desc, h.length_eq]
    omega

lemma findDataLocationAndSize_eq {P : Aperture.Platform} {asset : Aperture.Asset P}
    (hasset : asset.data = bytes) :
    asset.findDataLocationAndSize = .done (45 + name.length + desc.length, data.length) := by
  have hsize := h.dataSize_at
  have hlen := h.length_eq
  rw [elementsAt_of_le (by omega)] at hsize
  rw [Aperture.Asset.findDataLocationAndSize_of_fields (h.apertureFields hasset),
    Aperture.Asset.reportedSize, toNat_length h.length_name, toNat_length h.length_desc, hasset,
    Except.ok.inj hsize, ntohl_htonl (lt_trans h.length_data (by decide))]

lemma copyAssetData_eq {P : Aperture.Platform} {asset : Aperture.Asset P}
    (hasset : asset.data = bytes) : asset.copyAssetData [] = .done (data.length, data) := by
  have hlen := h.length_eq
  have hdrop : (bytes.drop (45 + name.length + desc.length)).take data.length = data := by
    have hdata : elementsAt bytes (45 + name.length + desc.length) data.length = .ok data :=
      elementsAt_middle _ (by simp [h.length_uuid, h.length_time]; omega) rfl h.data_eq
    rw [elementsAt_of_le (by omega)] at hdata
    exact Except.ok.inj hdata
  have hdata := h.length_data
  have hname := h.length_name
  have hdesc := h.length_desc
  have hassetLen := congrArg List.length hasset
  rw [Aperture.Asset.copyAssetData, h.findDataLocationAndSize_eq hasset, Access.done_bind]
  dsimp only
  rw [Aperture.uintAdd_of_lt (by omega), if_neg (by omega), readRange_eq (by omega), hasset, hdrop]
  rfl

end FieldsOf

/-- The time of creation is read back. -/
lemma ofInt_ntohlInt_htonl (time : Int32) :
    Int32.ofInt (ntohlInt (htonl time.toUInt32.toNat)) = time := by
  have hint : ntohlInt (htonl time.toUInt32.toNat) = time.toInt := by
    have hnat : time.toBitVec.toNat = time.toUInt32.toNat := rfl
    rw [ntohlInt, ntohl_htonl time.toUInt32.toNat_lt, Int32.toInt, BitVec.toInt_eq_toNat_cond, hnat]
    split_ifs <;> omega
  rw [hint, Int32.ofInt_toInt]

@[simp] lemma getString_toUtf8 (s : Text) :
    getString invalid (Utf16.toUtf8 s) = (Utf16.scalars s).flatMap Utf16.units := by
  rw [getString, Utf16.ofUtf8_toUtf8]

lemma fieldsOf_layout (hfit : a.TextsFit) (huuid : (uuidToAscii a.uuid).length = 32)
    (hsize : a.size ≤ maxArrayLength) :
    FieldsOf a.layout (uuidToAscii a.uuid) a.type (if a.isLocal then 1 else 0)
      (if a.temporary then 1 else 0) (htonl a.createTime.toUInt32.toNat) (Utf16.toUtf8 a.name)
      (Utf16.toUtf8 a.description) a.data where
  length_uuid := huuid
  length_time := length_htonl _
  length_name := hfit.name
  length_desc := hfit.description
  length_data := by
    have hmax : maxArrayLength = 2147483591 := rfl
    rw [size] at hsize
    omega
  bytes_eq := by simp [layout]

/-- What comes back from the bytes of an asset: the texts with lone surrogates replaced, and the
id with every character that is not ASCII replaced. -/
lemma parse_layout (hfit : a.TextsFit) (huuid : (uuidToAscii a.uuid).length = 32)
    (hsize : a.size ≤ maxArrayLength) :
    parse invalid a.layout = .ok { a with
      uuid := asciiString (uuidToAscii a.uuid)
      name := (Utf16.scalars a.name).flatMap Utf16.units
      description := (Utf16.scalars a.description).flatMap Utf16.units } := by
  rw [parse, (fieldsOf_layout hfit huuid hsize).constructAsset_eq, ok_bind]
  simp only [flag_eq_one, getString_toUtf8, ofInt_ntohlInt_htonl]
  rfl

/-! ## The round trip -/

/-- What the servers find in the bytes of an asset: the type and the flag at their offsets, and the
data behind the two texts. -/
structure UnderstoodByServers (a : HeldAsset) (bytes : Bytes) : Prop where
  type : assetType bytes = some a.type
  isLocal : assetIsLocal bytes = some a.isLocal
  data : ∀ (P : Aperture.Platform) (asset : Aperture.Asset P), asset.data = bytes →
    asset.getType = .done a.type ∧ asset.getBinaryDataSize = .done a.data.length ∧
      asset.copyAssetData [] = .done (a.data.length, a.data)

lemma understood_layout (hfit : a.TextsFit) (huuid : (uuidToAscii a.uuid).length = 32)
    (hsize : a.size ≤ maxArrayLength) : a.UnderstoodByServers a.layout := by
  have hfields := fieldsOf_layout hfit huuid hsize
  have htype : assetType a.layout = some a.type := elementAt_eq_ok.mp hfields.type_at
  refine ⟨htype, ?_, fun P asset hasset => ⟨?_, ?_, hfields.copyAssetData_eq hasset⟩⟩
  · rw [assetIsLocal, elementAt_eq_ok.mp hfields.isLocal_at, Option.map_some, flag_eq_one]
  · rw [Aperture.Asset.getType, readAt_eq_done, hasset]
    exact htype
  · rw [Aperture.Asset.getBinaryDataSize, hfields.findDataLocationAndSize_eq hasset]
    rfl

/-- An asset makes the round trip: its array is filled exactly, parsing it gives the asset back,
and the servers understand it. -/
def RoundTrips (invalid : Bytes → Text) (a : HeldAsset) : Prop :=
  ∃ buf, a.serialize = .ok buf ∧ buf.insertPos = buf.data.length ∧
    parse invalid buf.data = .ok a ∧ a.UnderstoodByServers buf.data

/-- The members of an asset that survive the round trip. -/
structure Portable (a : HeldAsset) : Prop where
  length_uuid : a.uuid.length = 32
  uuid : IsAscii a.uuid
  name : Utf16.WellFormed a.name
  description : Utf16.WellFormed a.description
  size : a.size ≤ maxArrayLength

lemma Portable.roundTrips (hfit : a.TextsFit) (hfixed : fixUuid a.uuid = a.uuid)
    (h : a.Portable) : a.RoundTrips invalid := by
  have huuid : (uuidToAscii a.uuid).length = 32 := by
    rw [uuidToAscii, hfixed, length_asciiBytes, h.length_uuid]
  refine ⟨_, serialize_eq hfit huuid h.size, ?_⟩
  rw [AppendableByteArray.written, List.replicate_zero, List.append_nil]
  refine ⟨rfl, ?_, understood_layout hfit huuid h.size⟩
  rw [parse_layout hfit huuid h.size, uuidToAscii, hfixed, (asciiString_asciiBytes _).mpr h.uuid,
    (Utf16.flatMap_units_scalars _).mpr h.name, (Utf16.flatMap_units_scalars _).mpr h.description]

/-- Only portable assets come back. -/
lemma RoundTrips.portable (hfit : a.TextsFit) (hfixed : fixUuid a.uuid = a.uuid)
    (h : a.RoundTrips invalid) : a.Portable := by
  obtain ⟨buf, hbuf, hfilled, hparse, -⟩ := h
  have hends := ends_serialize hfit
  rw [hbuf] at hends
  obtain ⟨hsize, hpos, hlen⟩ := hends
  -- an array that is filled exactly had an id of the right length
  have huuid : (uuidToAscii a.uuid).length = 32 := by
    rw [size] at hlen
    omega
  have hlayout := serialize_eq hfit huuid hsize
  rw [hbuf, AppendableByteArray.written, List.replicate_zero, List.append_nil] at hlayout
  obtain rfl := Except.ok.inj hlayout
  rw [parse_layout hfit huuid hsize, uuidToAscii, hfixed] at hparse
  have heq := Except.ok.inj hparse
  refine ⟨?_, ?_, ?_, ?_, hsize⟩
  · rw [← huuid, uuidToAscii, hfixed, length_asciiBytes]
  · exact (asciiString_asciiBytes _).mp (congrArg HeldAsset.uuid heq)
  · exact (Utf16.flatMap_units_scalars _).mp (congrArg HeldAsset.name heq)
  · exact (Utf16.flatMap_units_scalars _).mp (congrArg HeldAsset.description heq)

section Constructed

variable (invalid : Bytes → Text) (uuid : Text) (type : UInt8) (isLocal temporary : Bool)
  (createTime : Int32) (name description : Text) (data : Bytes)

/-- What the constructor makes is portable exactly if it makes the round trip. -/
lemma roundTrips_create_iff_portable :
    (create uuid type isLocal temporary createTime name description data).RoundTrips invalid ↔
      (create uuid type isLocal temporary createTime name description data).Portable := by
  have hfit := textsFit_create uuid type isLocal temporary createTime name description data
  have hfixed : fixUuid (create uuid type isLocal temporary createTime name description data).uuid =
      (create uuid type isLocal temporary createTime name description data).uuid :=
    fixUuid_fixUuid uuid
  exact ⟨fun h => h.portable hfit hfixed, fun h => h.roundTrips hfit hfixed⟩

/-- What makes the result of the constructor portable. -/
lemma portable_create_iff :
    (create uuid type isLocal temporary createTime name description data).Portable ↔
      (fixUuid uuid).length = 32 ∧ IsAscii (fixUuid uuid) ∧
        Utf16.WellFormed (limitByteLength2 name 255) ∧
        Utf16.WellFormed (limitByteLength2 description 255) ∧
        45 + (Utf16.toUtf8 (limitByteLength2 name 255)).length +
          (Utf16.toUtf8 (limitByteLength2 description 255)).length + data.length ≤
            maxArrayLength := by
  constructor
  · rintro ⟨hlen, huuid, hname, hdesc, hsize⟩
    refine ⟨hlen, huuid, hname, hdesc, ?_⟩
    simp only [size, create] at hsize
    omega
  · rintro ⟨hlen, huuid, hname, hdesc, hsize⟩
    refine ⟨hlen, huuid, hname, hdesc, ?_⟩
    simp only [size, create]
    omega

/-- An asset that was constructed makes the round trip exactly if its id has 32 ASCII characters
beside the dashes, cutting the name and the description has left no half of a pair in them, and the
array is not too long to be allocated. -/
theorem roundTrips_create_iff :
    (create uuid type isLocal temporary createTime name description data).RoundTrips invalid ↔
      (fixUuid uuid).length = 32 ∧ IsAscii (fixUuid uuid) ∧
        Utf16.WellFormed (limitByteLength2 name 255) ∧
        Utf16.WellFormed (limitByteLength2 description 255) ∧
        45 + (Utf16.toUtf8 (limitByteLength2 name 255)).length +
          (Utf16.toUtf8 (limitByteLength2 description 255)).length + data.length ≤
            maxArrayLength :=
  (roundTrips_create_iff_portable invalid uuid type isLocal temporary createTime name description
    data).trans (portable_create_iff uuid type isLocal temporary createTime name description data)

end Constructed

/-- A name of 252 letters and a character outside of the basic plane: 256 bytes, of which the first
half of the pair is kept. -/
def splitName : Text := List.replicate 252 97 ++ [0xD83D, 0xDE00]

/-- The name is cut in the middle of a pair, and the asset does not come back. -/
theorem not_roundTrips_splitName :
    Utf16.WellFormed splitName ∧ ∀ invalid,
      ¬ (create (List.replicate 32 48) 0 false false 0 splitName [] []).RoundTrips invalid := by
  have hcut : ¬ Utf16.WellFormed (limitByteLength2 splitName 255) := by decide +kernel
  refine ⟨by decide +kernel, fun invalid h => ?_⟩
  rw [roundTrips_create_iff_portable, portable_create_iff] at h
  exact hcut h.2.2.1

end HeldAsset

end Halcyon.Client
