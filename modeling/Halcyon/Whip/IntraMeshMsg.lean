import Halcyon.Whip.Message

/-!
# The messages between the servers of a mesh

Servers ask each other for assets with messages of one fixed size, `MAX_PACKET`: a query carries an
id, the response to it the id and a result, and a heartbeat a mask of flags as a 32-bit number in
network byte order.  Every constructor pads what it has written with zeros (`_data.resize`), so
that the receiver always reads one packet.

A byte that is no member of an enumeration is `none` here; `validate` takes such a message for
invalid.
-/

namespace Halcyon.Whip

namespace IntraMeshMsg

/-- `RequestType`. -/
inductive RequestType
  | meshQuery
  | meshResponse
  | statusHeartbeat
  deriving DecidableEq, Repr

/-- The numbers of `RequestType`. -/
def RequestType.code : RequestType → UInt8
  | meshQuery => 0
  | meshResponse => 1
  | statusHeartbeat => 2

/-- The type with a number. -/
def RequestType.ofCode (b : UInt8) : Option RequestType :=
  [meshQuery, meshResponse, statusHeartbeat].find? fun t => t.code = b

/-- `QueryResult`. -/
inductive QueryResult
  | notFound
  | found
  | error
  deriving DecidableEq, Repr

/-- The numbers of `QueryResult`. -/
def QueryResult.code : QueryResult → UInt8
  | notFound => 0
  | found => 1
  | error => 2

/-- The result with a number. -/
def QueryResult.ofCode (b : UInt8) : Option QueryResult :=
  [notFound, found, error].find? fun t => t.code = b

@[simp] lemma RequestType.ofCode_code (t : RequestType) : ofCode t.code = some t := by
  cases t <;> rfl

@[simp] lemma QueryResult.ofCode_code (t : QueryResult) : ofCode t.code = some t := by
  cases t <;> rfl

/-- `MAX_PACKET`. -/
def maxPacket : Nat := 38

/-- `MESH_RESPONSE_CODE_LOC`. -/
def meshResponseCodeLoc : Nat := 33

/-- `HEARTBEAT_FLAGS_LOC`. -/
def heartbeatFlagsLoc : Nat := 1

/-- `resize` of a vector: cut off, or filled up with zeros. -/
def resize (n : Nat) (data : Bytes) : Bytes :=
  data.take n ++ List.replicate (n - data.length) 0

/-! ## The constructors -/

/-- The constructor for a mesh query. -/
def query (assetUUID : Bytes) : Bytes :=
  resize maxPacket (RequestType.meshQuery.code :: assetUUID)

/-- The constructor for a mesh response. -/
def response (assetUUID : Bytes) (result : QueryResult) : Bytes :=
  resize maxPacket (RequestType.meshResponse.code :: assetUUID ++ [result.code])

/-- The constructor for a status heartbeat. -/
def heartbeat (heartBeatMask : Int32) : Bytes :=
  resize maxPacket
    (RequestType.statusHeartbeat.code :: htonl heartBeatMask.toUInt32.toNat)

/-! ## The accessors -/

def getRequestType (data : Bytes) : Option RequestType :=
  data.head?.bind RequestType.ofCode

def getQueryResult (data : Bytes) : Option QueryResult :=
  data[meshResponseCodeLoc]?.bind QueryResult.ofCode

def getHeartbeatFlags (data : Bytes) : Int32 :=
  (UInt32.ofNat (ntohl ((data.drop heartbeatFlagsLoc).take 4))).toInt32

/-- The id starts where the flags of a heartbeat do. -/
def getAssetUUID (data : Bytes) : Bytes :=
  (data.drop heartbeatFlagsLoc).take 32

def validate (data : Bytes) : Bool :=
  match getRequestType data with
  | some .meshQuery => data.length = maxPacket && isValidUUID (getAssetUUID data)
  | some .meshResponse => data.length = maxPacket && isValidUUID (getAssetUUID data)
  | some .statusHeartbeat => data.length = maxPacket
  | none => false

/-! ## What is read from a packet -/

@[simp] lemma length_resize (n : Nat) (data : Bytes) : (resize n data).length = n := by
  simp only [resize, List.length_append, List.length_take, List.length_replicate]
  omega

@[simp] lemma length_query (assetUUID : Bytes) : (query assetUUID).length = maxPacket :=
  length_resize _ _

@[simp] lemma length_response (assetUUID : Bytes) (result : QueryResult) :
    (response assetUUID result).length = maxPacket :=
  length_resize _ _

@[simp] lemma length_heartbeat (mask : Int32) : (heartbeat mask).length = maxPacket :=
  length_resize _ _

/-- Whatever fits into a packet is followed by zeros. -/
lemma resize_of_le {n : Nat} {data : Bytes} (h : data.length ≤ n) :
    resize n data = data ++ List.replicate (n - data.length) 0 := by
  rw [resize, List.take_of_length_le h]

section

variable {assetUUID : Bytes}

lemma query_eq (h : assetUUID.length = 32) :
    query assetUUID = RequestType.meshQuery.code :: (assetUUID ++ List.replicate 5 0) := by
  rw [query, resize_of_le (by rw [List.length_cons, h]; decide), List.length_cons, h]
  rfl

lemma response_eq (h : assetUUID.length = 32) (result : QueryResult) :
    response assetUUID result =
      RequestType.meshResponse.code :: (assetUUID ++ result.code :: List.replicate 4 0) := by
  have hlen : (RequestType.meshResponse.code :: assetUUID ++ [result.code]).length = 34 := by
    simp only [List.cons_append, List.length_cons, List.length_append, h, List.length_nil]
  rw [response, resize_of_le (by rw [hlen]; decide), hlen, List.cons_append, List.cons_append,
    List.append_assoc]
  rfl

lemma heartbeat_eq (mask : Int32) :
    heartbeat mask = RequestType.statusHeartbeat.code ::
      (htonl mask.toUInt32.toNat ++ List.replicate 33 0) := by
  rw [heartbeat, resize_of_le (by rw [List.length_cons, length_htonl]; decide)]
  rfl

/-- A query is read as a query for the same asset. -/
lemma read_query (h : assetUUID.length = 32) :
    getRequestType (query assetUUID) = some .meshQuery ∧
      getAssetUUID (query assetUUID) = assetUUID := by
  rw [query_eq h]
  refine ⟨rfl, ?_⟩
  rw [getAssetUUID, heartbeatFlagsLoc, List.drop_one, List.tail_cons, ← h, List.take_left]

/-- A response is read as a response for the same asset with the same result. -/
lemma read_response (h : assetUUID.length = 32) (result : QueryResult) :
    getRequestType (response assetUUID result) = some .meshResponse ∧
      getAssetUUID (response assetUUID result) = assetUUID ∧
      getQueryResult (response assetUUID result) = some result := by
  rw [response_eq h]
  refine ⟨rfl, ?_, ?_⟩
  · rw [getAssetUUID, heartbeatFlagsLoc, List.drop_one, List.tail_cons, ← h, List.take_left]
  · rw [getQueryResult, meshResponseCodeLoc, List.getElem?_cons_succ,
      List.getElem?_append_right (by rw [h]), h]
    exact QueryResult.ofCode_code result

/-- A heartbeat is read as a heartbeat with the same flags. -/
lemma read_heartbeat (mask : Int32) :
    getRequestType (heartbeat mask) = some .statusHeartbeat ∧
      getHeartbeatFlags (heartbeat mask) = mask := by
  rw [heartbeat_eq]
  refine ⟨rfl, ?_⟩
  have htake : ∀ n, ((htonl n ++ List.replicate 33 0).take 4) = htonl n := fun n =>
    List.take_left' (length_htonl n)
  rw [getHeartbeatFlags, heartbeatFlagsLoc, List.drop_one, List.tail_cons, htake,
    ntohl_htonl mask.toUInt32.toNat_lt, UInt32.ofNat_toNat]
  rfl

end

end IntraMeshMsg

end Halcyon.Whip
