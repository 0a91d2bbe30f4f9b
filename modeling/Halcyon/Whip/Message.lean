import Mathlib.Algebra.Order.Ring.Int
import Mathlib.Data.List.Basic

/-!
# The messages of the asset service

A request and a response both start with a header of 37 bytes: a code, the 32 characters of an
asset id, and the length of the data that follows, as a 32-bit number in network byte order
(`ClientRequestMsg`, `ServerResponseMsg`).  The codes of requests and responses are enumerations;
a byte that is none of them is a `RequestError` or an invalid header.

Both constructors of a response with data convert the length with `numeric_cast`, which throws
where it does not fit: `withData` is then `none`.
-/

namespace Halcyon.Whip

/-- `whip::byte_array`. -/
abbrev Bytes := List UInt8

/-! ## Numbers in headers -/

/-- The bytes of a 32-bit number in network byte order. -/
def htonl (n : Nat) : Bytes :=
  [UInt8.ofNat (n / 2 ^ 24), UInt8.ofNat (n / 2 ^ 16), UInt8.ofNat (n / 2 ^ 8), UInt8.ofNat n]

/-- The number with these bytes. -/
def ntohl : Bytes → Nat
  | [a, b, c, d] => ((a.toNat * 256 + b.toNat) * 256 + c.toNat) * 256 + d.toNat
  | _ => 0

@[simp] lemma length_htonl (n : Nat) : (htonl n).length = 4 := rfl

lemma ntohl_htonl {n : Nat} (h : n < 2 ^ 32) : ntohl (htonl n) = n := by
  simp only [htonl, ntohl, UInt8.toNat_ofNat']
  omega

/-! ## Requests -/

/-- `ClientRequestMsg::RequestType`. -/
inductive RequestType
  | get
  | put
  | purge
  | test
  | maintPurgeLocals
  | statusGet
  | storedAssetIdsGet
  | getDontCache
  deriving DecidableEq, Repr

namespace RequestType

/-- The numbers of the enumeration. -/
def code : RequestType → UInt8
  | get => 10
  | put => 11
  | purge => 12
  | test => 13
  | maintPurgeLocals => 14
  | statusGet => 15
  | storedAssetIdsGet => 16
  | getDontCache => 17

/-- The type with a number, in the range that `getType` accepts. -/
def ofCode (b : UInt8) : Option RequestType :=
  [get, put, purge, test, maintPurgeLocals, statusGet, storedAssetIdsGet, getDontCache].find?
    fun t => t.code = b

@[simp] lemma ofCode_code (t : RequestType) : ofCode t.code = some t := by
  cases t <;> rfl

end RequestType

/-- `HEADER_SIZE` of both messages. -/
def headerSize : Nat := 37

/-- The header of a message: `DATA_SIZE_MARKER_LOC` and `DATA_LEN_MARKER_LOC` are both 33, right
behind an id of 32 characters. -/
def setupHeader (code : UInt8) (uuid : Bytes) (dataLen : Nat) : Bytes :=
  code :: (uuid ++ htonl dataLen)

/-- `getUUID` of both messages. -/
def getUUID (header : Bytes) : Bytes := (header.drop 1).take 32

/-- `getDataSize` of both messages. -/
def getDataSize (header : Bytes) : Nat := ntohl ((header.drop 33).take 4)

/-- `ClientRequestMsg::getType`; `none` is the `RequestError`. -/
def getType (header : Bytes) : Option RequestType :=
  header.head?.bind RequestType.ofCode

/-- `ClientRequestMsg`: the header, and the data of a put. -/
structure ClientRequestMsg where
  header : Bytes
  data : Bytes
  deriving DecidableEq

/-- What is written for a request: the header, and the data of a put behind it. -/
def ClientRequestMsg.bytes (m : ClientRequestMsg) : Bytes := m.header ++ m.data

/-- `Asset::getUUID`: an asset starts with its id. -/
def assetUUID (asset : Bytes) : Bytes := asset.take 32

/-- `Asset::getType`; outside of the array there is no byte to read. -/
def assetType (asset : Bytes) : Option UInt8 := asset[32]?

/-- `Asset::isLocal`. -/
def assetIsLocal (asset : Bytes) : Option Bool := asset[33]?.map fun b => b = 1

/-- The constructor for requests without data. -/
def ClientRequestMsg.ofType (type : RequestType) (uuid : Bytes) : ClientRequestMsg where
  header := setupHeader type.code uuid 0
  data := []

/-- The constructor for a put. -/
def ClientRequestMsg.ofAsset (asset : Bytes) : ClientRequestMsg where
  header := setupHeader RequestType.put.code (assetUUID asset) asset.length
  data := asset

section Header

variable {code : UInt8} {uuid : Bytes} {dataLen : Nat}

lemma length_setupHeader (h : uuid.length = 32) :
    (setupHeader code uuid dataLen).length = headerSize := by
  simp [setupHeader, h, headerSize]

lemma getUUID_setupHeader (h : uuid.length = 32) :
    getUUID (setupHeader code uuid dataLen) = uuid := by
  simp [getUUID, setupHeader, ← h]

lemma getDataSize_setupHeader (h : uuid.length = 32) (hlen : dataLen < 2 ^ 32) :
    getDataSize (setupHeader code uuid dataLen) = dataLen := by
  have hdrop : (setupHeader code uuid dataLen).drop 33 = htonl dataLen := by
    simp [setupHeader, ← h]
  rw [getDataSize, hdrop, List.take_of_length_le (by simp), ntohl_htonl hlen]

lemma getType_setupHeader (t : RequestType) : getType (setupHeader t.code uuid dataLen) = some t :=
  RequestType.ofCode_code t

end Header

/-! ## Responses -/

/-- `ServerResponseMsg::ResponseCode`. -/
inductive ResponseCode
  | found
  | notFound
  | error
  | ok
  deriving DecidableEq, Repr

namespace ResponseCode

/-- The numbers of the enumeration. -/
def code : ResponseCode → UInt8
  | found => 10
  | notFound => 11
  | error => 12
  | ok => 13

/-- The code with a number. -/
def ofCode (b : UInt8) : Option ResponseCode :=
  [found, notFound, error, ok].find? fun t => t.code = b

@[simp] lemma ofCode_code (t : ResponseCode) : ofCode t.code = some t := by
  cases t <;> rfl

end ResponseCode

/-- `validateHeader` and `getResponseCode`: the code of a valid header. -/
def getResponseCode (header : Bytes) : Option ResponseCode :=
  header.head?.bind ResponseCode.ofCode

/-- `ServerResponseMsg` as the server sends it: the data may be missing, which is not the same as
being empty. -/
structure ServerResponseMsg where
  header : Bytes
  data : Option Bytes
  deriving DecidableEq

namespace ServerResponseMsg

/-- The constructor for a response without data. -/
def plain (code : ResponseCode) (uuid : Bytes) : ServerResponseMsg where
  header := setupHeader code.code uuid 0
  data := none

/-- The constructors for a response with data. -/
def withData (code : ResponseCode) (uuid data : Bytes) : Option ServerResponseMsg :=
  if data.length < 2 ^ 32 then
    some ⟨setupHeader code.code uuid data.length, some data⟩
  else none

/-- What a response puts on the wire. -/
def bytes (r : ServerResponseMsg) : Bytes := r.header ++ r.data.getD []

end ServerResponseMsg

lemma getResponseCode_setupHeader (c : ResponseCode) (uuid : Bytes) (n : Nat) :
    getResponseCode (setupHeader c.code uuid n) = some c :=
  ResponseCode.ofCode_code c

/-! ## Ids -/

/-- A character of an id: `0` to `9` or `a` to `f`. -/
def isUUIDChar (b : UInt8) : Bool :=
  (48 ≤ b && b ≤ 57) || (97 ≤ b && b ≤ 102)

/-- `Validator::IsValidUUID`. -/
def isValidUUID (uuid : Bytes) : Bool :=
  uuid.length = 32 && uuid.all isUUIDChar

lemma length_of_isValidUUID {uuid : Bytes} (h : isValidUUID uuid = true) : uuid.length = 32 :=
  of_decide_eq_true (Bool.and_eq_true_iff.mp h).1

/-- The id of responses that are about no asset: 32 zeros. -/
def nullUUID : Bytes := List.replicate 32 48

/-- "Invalid asset UUID: " and the id. -/
def invalidUUIDMessage (uuid : Bytes) : Bytes :=
  "Invalid asset UUID: ".toUTF8.data.toList ++ uuid

end Halcyon.Whip
