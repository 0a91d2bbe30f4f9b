import Halcyon.Client.Util
import Halcyon.Whip.IntraMeshMsg

/-!
# The formats of requests and responses on both sides

Requests are written by the .NET client (`ClientRequestMsg`, in an array of its own) and by the
servers themselves, and read by the server, which decodes the header alone and then as many bytes
as the header says.  Responses are written by the server and read by the other servers and by the
.NET client, whose lengths are signed and limited.  Here each writer is compared with every reader:
for one id, `EncodingsAgree` says what each of them makes of the bytes.
-/

namespace Halcyon.Client

open Halcyon.Lib Halcyon.Whip

/-! ## Requests of the .NET client -/

namespace ClientRequestMsg

/-- `SetupHeader`. -/
def setupHeader (type : RequestType) (assetUUID : Text) (dataSize : Nat) :
    Except ClientException AppendableByteArray := do
  let data ← AppendableByteArray.create (headerSize + dataSize)
  let data ← data.appendByte type.code
  let data ← data.append (uuidToAscii assetUUID)
  data.append (htonl dataSize)

/-- The constructor for requests without data. -/
def ofType (type : RequestType) (assetUUID : Text) :
    Except ClientException AppendableByteArray :=
  setupHeader type assetUUID 0

/-- The constructor for requests with data. -/
def ofData (type : RequestType) (assetUUID : Text) (data : Bytes) :
    Except ClientException AppendableByteArray := do
  let msg ← setupHeader type assetUUID data.length
  msg.append data

open AppendableByteArray in
/-- With an id of 32 characters the header of the client is that of the servers, followed by the
room for the data. -/
lemma setupHeader_eq {type : RequestType} {uuid : Text} {dataSize : Nat}
    (huuid : (fixUuid uuid).length = 32) (hsize : headerSize + dataSize ≤ maxArrayLength) :
    setupHeader type uuid dataSize =
      .ok (written (Whip.setupHeader type.code (uuidToAscii uuid) dataSize) dataSize) := by
  have hlen : (uuidToAscii uuid).length = 32 := by rw [uuidToAscii, length_asciiBytes, huuid]
  have hroom : headerSize + dataSize = (32 + (4 + dataSize)) + 1 := by unfold headerSize; omega
  rw [setupHeader, create_eq_written hsize, ok_bind, hroom, appendByte_written, ok_bind, ← hlen,
    append_written, ok_bind, ← length_htonl dataSize, append_written, List.nil_append,
    List.append_assoc]
  rfl

open AppendableByteArray in
/-- The array of a request with data is filled exactly. -/
lemma ofData_eq {type : RequestType} {uuid : Text} {data : Bytes}
    (huuid : (fixUuid uuid).length = 32) (hsize : headerSize + data.length ≤ maxArrayLength) :
    ofData type uuid data =
      .ok (written (Whip.setupHeader type.code (uuidToAscii uuid) data.length ++ data) 0) := by
  have happend := append_written data
    (Whip.setupHeader type.code (uuidToAscii uuid) data.length) 0
  rw [Nat.add_zero] at happend
  rw [ofData, setupHeader_eq huuid hsize, ok_bind, happend]

end ClientRequestMsg

/-! ## What is read from a request and from a response -/

/-- What the server reads from the header of a request, and that the data of this length is all
that follows. -/
structure ReadAs (bytes : Bytes) (type : RequestType) (uuid data : Bytes) : Prop where
  type : getType (bytes.take headerSize) = some type
  uuid : getUUID (bytes.take headerSize) = uuid
  dataSize : getDataSize (bytes.take headerSize) = data.length
  rest : bytes.drop headerSize = data

/-- A response as the servers read it from a stream: a header, and if it is valid, as much data as
it says.  What is left of the stream comes second. -/
def readResponse (stream : Bytes) : Option ((ResponseCode × Bytes × Bytes) × Bytes) := do
  guard (headerSize ≤ stream.length)
  let header := stream.take headerSize
  let body := stream.drop headerSize
  let code ← getResponseCode header
  guard (getDataSize header ≤ body.length)
  return ((code, getUUID header, body.take (getDataSize header)),
    body.drop (getDataSize header))

section Readers

variable {uuid data : Bytes}

lemma readAs_setupHeader (type : RequestType) (huuid : uuid.length = 32)
    (hdata : data.length < 2 ^ 32) :
    ReadAs (setupHeader type.code uuid data.length ++ data) type uuid data := by
  have hlen : (setupHeader type.code uuid data.length).length = headerSize :=
    length_setupHeader huuid
  have htake : (setupHeader type.code uuid data.length ++ data).take headerSize =
      setupHeader type.code uuid data.length := List.take_left' hlen
  refine ⟨?_, ?_, ?_, List.drop_left' hlen⟩
  · rw [htake, getType_setupHeader]
  · rw [htake, getUUID_setupHeader huuid]
  · rw [htake, getDataSize_setupHeader huuid hdata]

lemma readResponse_setupHeader (code : ResponseCode) (rest : Bytes) (huuid : uuid.length = 32)
    (hdata : data.length < 2 ^ 32) :
    readResponse (setupHeader code.code uuid data.length ++ data ++ rest) =
      some ((code, uuid, data), rest) := by
  have hlen : (setupHeader code.code uuid data.length).length = headerSize :=
    length_setupHeader huuid
  have htake : (setupHeader code.code uuid data.length ++ (data ++ rest)).take headerSize =
      setupHeader code.code uuid data.length := List.take_left' hlen
  have hdrop : (setupHeader code.code uuid data.length ++ (data ++ rest)).drop headerSize =
      data ++ rest := List.drop_left' hlen
  rw [List.append_assoc, readResponse]
  simp only [htake, hdrop, getResponseCode_setupHeader, getDataSize_setupHeader huuid hdata,
    getUUID_setupHeader huuid, List.length_append, hlen, List.take_left, List.drop_left]
  simp [guard]

/-- Reading from a socket that delivers enough bytes, in pieces of any size. -/
lemma appendFromSocket_eq_ok {n : Nat} {pieces : List Bytes} (hne : [] ∉ pieces)
    (hn : n ≤ pieces.flatten.length) :
    ∃ ps, appendFromSocket n pieces = .ok (pieces.flatten.take n, ps) ∧ [] ∉ ps ∧
      ps.flatten = pieces.flatten.drop n := by
  induction pieces generalizing n with
  | nil =>
    obtain rfl : n = 0 := Nat.le_zero.mp hn
    exact ⟨[], rfl, hne, rfl⟩
  | cons p ps ih =>
    obtain ⟨hp, hps⟩ := List.ne_and_not_mem_of_not_mem_cons hne
    cases n with
    | zero => exact ⟨p :: ps, rfl, hne, rfl⟩
    | succ n =>
      rw [List.flatten_cons, List.length_append] at hn
      rw [appendFromSocket, if_neg hp.symm, List.flatten_cons]
      split_ifs with hle
      · obtain ⟨qs, hqs, hne', hrest⟩ := ih (n := n + 1 - p.length) hps (by omega)
        refine ⟨qs, ?_, hne', ?_⟩
        · rw [hqs, ok_bind, List.take_append, List.take_of_length_le hle]
          rfl
        · rw [hrest, List.drop_append, List.drop_of_length_le hle, List.nil_append]
      · have hlt : n + 1 < p.length := by omega
        refine ⟨p.drop (n + 1) :: ps, ?_, ?_, ?_⟩
        · rw [List.take_append_of_le_length hlt.le]
        · rw [List.mem_cons, not_or]
          refine ⟨fun hnil => ?_, hps⟩
          have hlen := congrArg List.length hnil
          rw [List.length_nil, List.length_drop] at hlen
          omega
        · rw [List.flatten_cons, List.drop_append_of_le_length hlt.le]

/-- The .NET client reads a response of the server as it was written. -/
lemma readServerResponseMsg_eq_ok (code : ResponseCode) {rest : Bytes} {pieces : List Bytes}
    (huuid : uuid.length = 32) (hdata : data.length ≤ maxDataSize) (hne : [] ∉ pieces)
    (hpieces : pieces.flatten = setupHeader code.code uuid data.length ++ data ++ rest) :
    ∃ ps, readServerResponseMsg pieces = .ok (⟨code, uuid, data⟩, ps) ∧ ps.flatten = rest := by
  have hlen : (setupHeader code.code uuid data.length).length = headerSize :=
    length_setupHeader huuid
  have hmax : maxDataSize = 50331648 := rfl
  rw [List.append_assoc] at hpieces
  obtain ⟨ps, hheader, hne', hps⟩ := appendFromSocket_eq_ok (n := headerSize) hne (by
    rw [hpieces, List.length_append, hlen]
    omega)
  rw [hpieces, List.drop_left' hlen] at hps
  rw [hpieces, List.take_left' hlen] at hheader
  obtain ⟨qs, hbody, -, hqs⟩ := appendFromSocket_eq_ok (n := data.length) hne' (by
    rw [hps, List.length_append]
    omega)
  rw [hps, List.take_left] at hbody
  rw [hps, List.drop_left] at hqs
  have hsize : ((setupHeader code.code uuid data.length).drop 33).take 4 = htonl data.length := by
    have hdrop : (setupHeader code.code uuid data.length).drop 33 = htonl data.length := by
      simp [setupHeader, ← huuid]
    rw [hdrop, List.take_of_length_le (by simp)]
  refine ⟨qs, ?_, hqs⟩
  rw [readServerResponseMsg, hheader, ok_bind]
  simp only [getResponseCode_setupHeader, hsize, ntohlInt_htonl (by omega : data.length < 2 ^ 31),
    getUUID_setupHeader huuid, Int.toNat_natCast]
  rw [if_neg (by omega), hbody]
  rfl

/-! ## The agreement -/

/-- An id of 32 hexadecimal digits. -/
def IsHexId (id : Text) : Prop :=
  id.length = 32 ∧ ∀ u ∈ id, (48 ≤ u.toNat ∧ u.toNat ≤ 57) ∨ (65 ≤ u.toNat ∧ u.toNat ≤ 70) ∨
    (97 ≤ u.toNat ∧ u.toNat ≤ 102)

instance : DecidablePred IsHexId := fun _ => inferInstanceAs (Decidable (_ ∧ _))

/-- The readers of both sides take a response for the same code, id and data, and leave what follows
it in the stream. -/
structure ReadByBoth (msg : Whip.ServerResponseMsg) (code : ResponseCode) (id : Text)
    (data : Bytes) : Prop where
  server : ∀ rest, readResponse (msg.bytes ++ rest) = some ((code, asciiBytes id, data), rest)
  client : ∀ pieces rest, [] ∉ pieces → pieces.flatten = msg.bytes ++ rest →
    ∃ msg' pieces', readServerResponseMsg pieces = .ok (msg', pieces') ∧
      pieces'.flatten = rest ∧ msg'.status = code ∧ asciiString msg'.assetUUID = id ∧
      msg'.data = data

/-- What the writers and the readers make of messages about one id. -/
structure EncodingsAgree (id : Text) : Prop where
  /-- A request without data is the same on both sides. -/
  request : ∀ type, ∃ msg, ClientRequestMsg.ofType type id = .ok msg ∧
    msg.data = (Whip.ClientRequestMsg.ofType type (asciiBytes id)).bytes ∧
    ReadAs msg.data type (asciiBytes id) []
  /-- A request with data is read as it was written. -/
  requestWithData : ∀ type data, data.length ≤ maxDataSize → ∃ msg,
    ClientRequestMsg.ofData type id data = .ok msg ∧ ReadAs msg.data type (asciiBytes id) data
  /-- The put of an asset with this id is the same on both sides. -/
  put : ∀ asset, asset.length ≤ maxDataSize → assetUUID asset = asciiBytes id → ∃ msg,
    ClientRequestMsg.ofData .put id asset = .ok msg ∧
    msg.data = (Whip.ClientRequestMsg.ofAsset asset).bytes
  /-- A response without data is read by both sides. -/
  response : ∀ code, ReadByBoth (.plain code (asciiBytes id)) code id []
  /-- A response with data is read by both sides. -/
  responseWithData : ∀ code data, data.length ≤ maxDataSize → ∃ msg,
    Whip.ServerResponseMsg.withData code (asciiBytes id) data = some msg ∧
    ReadByBoth msg code id data
  /-- A mesh query is one packet and is read as it was written. -/
  query : (IntraMeshMsg.query (asciiBytes id)).length = IntraMeshMsg.maxPacket ∧
    IntraMeshMsg.getRequestType (IntraMeshMsg.query (asciiBytes id)) = some .meshQuery ∧
    IntraMeshMsg.getAssetUUID (IntraMeshMsg.query (asciiBytes id)) = asciiBytes id
  /-- So is the response to one. -/
  meshResponse : ∀ result,
    (IntraMeshMsg.response (asciiBytes id) result).length = IntraMeshMsg.maxPacket ∧
    IntraMeshMsg.getRequestType (IntraMeshMsg.response (asciiBytes id) result) =
      some .meshResponse ∧
    IntraMeshMsg.getAssetUUID (IntraMeshMsg.response (asciiBytes id) result) = asciiBytes id ∧
    IntraMeshMsg.getQueryResult (IntraMeshMsg.response (asciiBytes id) result) = some result
  /-- And so is a heartbeat. -/
  heartbeat : ∀ mask, (IntraMeshMsg.heartbeat mask).length = IntraMeshMsg.maxPacket ∧
    IntraMeshMsg.getRequestType (IntraMeshMsg.heartbeat mask) = some .statusHeartbeat ∧
    IntraMeshMsg.getHeartbeatFlags (IntraMeshMsg.heartbeat mask) = mask

section HexId

variable {id : Text}

lemma IsHexId.fixUuid_eq (h : IsHexId id) : fixUuid id = id := by
  refine List.filter_eq_self.mpr fun u hu => ?_
  have hdigit := h.2 u hu
  rw [decide_eq_true_eq]
  rintro rfl
  exact absurd hdigit (by decide)

lemma IsHexId.isAscii (h : IsHexId id) : IsAscii id := by
  intro u hu
  have := h.2 u hu
  omega

lemma IsHexId.length_asciiBytes (h : IsHexId id) : (asciiBytes id).length = 32 :=
  (Client.length_asciiBytes id).trans h.1

lemma readByBoth_setupHeader {msg : Whip.ServerResponseMsg} {code : ResponseCode} {data : Bytes}
    (h : IsHexId id) (hdata : data.length ≤ maxDataSize)
    (hmsg : msg.bytes = setupHeader code.code (asciiBytes id) data.length ++ data) :
    ReadByBoth msg code id data where
  server rest := by
    have hmax : maxDataSize = 50331648 := rfl
    rw [hmsg]
    exact readResponse_setupHeader code rest h.length_asciiBytes (by omega)
  client pieces rest hne hpieces := by
    rw [hmsg] at hpieces
    obtain ⟨ps, hread, hrest⟩ :=
      readServerResponseMsg_eq_ok code h.length_asciiBytes hdata hne hpieces
    exact ⟨_, ps, hread, hrest, rfl, (asciiString_asciiBytes id).mpr h.isAscii, rfl⟩

end HexId

/-- All encoders and decoders agree about every id of 32 hexadecimal digits. -/
theorem encodingsAgree_of_isHexId (id : Text) (h : IsHexId id) : EncodingsAgree id := by
  have huuid : uuidToAscii id = asciiBytes id := by rw [uuidToAscii, h.fixUuid_eq]
  have hfix : (fixUuid id).length = 32 := by rw [h.fixUuid_eq, h.1]
  have hmax : maxDataSize = 50331648 := rfl
  have harray : headerSize + maxDataSize ≤ maxArrayLength := by decide
  have hdata : ∀ type data, data.length ≤ maxDataSize →
      ClientRequestMsg.ofData type id data =
        .ok (.written (setupHeader type.code (asciiBytes id) data.length ++ data) 0) := by
    intro type data hlen
    rw [ClientRequestMsg.ofData_eq hfix (by omega), huuid]
  refine ⟨fun type => ?_, fun type data hlen => ?_, fun asset hlen hasset => ?_, fun code => ?_,
    fun code data hlen => ?_, ?_, fun result => ?_, fun mask => ?_⟩
  · refine ⟨_, ClientRequestMsg.setupHeader_eq hfix (by omega), ?_, ?_⟩
    · rw [huuid]
      rfl
    · have hempty : ([] : Bytes).length < 2 ^ 32 := by decide
      rw [huuid]
      exact readAs_setupHeader type h.length_asciiBytes hempty
  · refine ⟨_, hdata type data hlen, ?_⟩
    rw [AppendableByteArray.written, List.replicate_zero, List.append_nil]
    exact readAs_setupHeader type h.length_asciiBytes (by omega)
  · refine ⟨_, hdata .put asset hlen, ?_⟩
    rw [AppendableByteArray.written, List.replicate_zero, List.append_nil, ← hasset]
    rfl
  · exact readByBoth_setupHeader h (Nat.zero_le _) rfl
  · exact ⟨_, if_pos (by omega), readByBoth_setupHeader h hlen rfl⟩
  · exact ⟨IntraMeshMsg.length_query _, IntraMeshMsg.read_query h.length_asciiBytes⟩
  · exact ⟨IntraMeshMsg.length_response _ _,
      IntraMeshMsg.read_response h.length_asciiBytes result⟩
  · exact ⟨IntraMeshMsg.length_heartbeat _, IntraMeshMsg.read_heartbeat mask⟩

/-- An id with digits of both cases. -/
theorem encodingsAgree_sample :
    EncodingsAgree (List.replicate 10 48 ++ List.replicate 11 65 ++ List.replicate 11 102) := by
  refine encodingsAgree_of_isHexId _ ⟨rfl, fun u hu => ?_⟩
  simp only [List.mem_append, List.mem_replicate] at hu
  rcases hu with (⟨-, rfl⟩ | ⟨-, rfl⟩) | ⟨-, rfl⟩ <;> decide

end Readers

end Halcyon.Client
