import Halcyon.Lib.Transition
import Halcyon.Whip.Message

/-!
# A connection of the asset server

`CSAuthenticated` serves one client at a time: it reads the header of a request, for a put also
the data, asks the storage (and, for an asset that is not there, the other servers of the mesh),
writes the header of the response, then the data if there is any, and reads the next header.
Every one of these is an asynchronous operation that completes with a handler; `pending` holds
the operations that have been started and whose handlers have not run.

The results of the operations, and the answers of the storage and of the mesh, are part of the
events.  An exception that leaves a handler ends the I/O service, so that nothing completes any
more (`escape`).  Three members record what happened: the headers read, the responses sent with the
request each of them answers, and the bytes handed to the socket.
-/

namespace Halcyon.Whip

/-- What a connection can be waiting for. -/
inductive Outstanding
  | readHeader
  | readData (size : Nat)
  /-- The callback of `getAsset` of the storage. -/
  | storageGet
  | storageStore
  /-- A purge in the work queue of the storage. -/
  | storagePurge
  | storageStatus
  | storageAssetIds
  | meshGet
  | writeHeader (response : ServerResponseMsg)
  | writeData (response : ServerResponseMsg)
  deriving DecidableEq

/-- The bytes that the operation writes. -/
def Outstanding.bytes : Outstanding → Bytes
  | writeHeader response => response.header
  | writeData response => response.data.getD []
  | _ => []

/-- The operation uses the socket of the client, and can fail. -/
def Outstanding.usesSocket : Outstanding → Bool
  | readHeader | readData _ | writeHeader _ | writeData _ => true
  | _ => false

/-- `CSAuthenticated`, with the configuration of the storage behind it. -/
structure CSAuthenticated where
  /-- The header of the request that is worked on. -/
  currentRequest : Bytes
  isMeshConnection : Bool
  /-- `cache_enabled`: the storage is an `AssetCache` in front of the disk. -/
  cacheEnabled : Bool
  pending : List Outstanding
  connected : Bool
  requests : List Bytes
  answered : List (Bytes × ServerResponseMsg)
  output : Bytes
  deriving DecidableEq

namespace CSAuthenticated

/-- A handler starts an operation. -/
def start (op : Outstanding) (s : CSAuthenticated) : CSAuthenticated :=
  { s with pending := s.pending ++ [op], output := s.output ++ op.bytes }

/-- `waitForRequest`. -/
def waitForRequest (s : CSAuthenticated) : CSAuthenticated :=
  s.start .readHeader

/-- A connection that has just been authenticated. -/
def accepted (isMeshConnection cacheEnabled : Bool) : CSAuthenticated :=
  waitForRequest
    { currentRequest := [], isMeshConnection := isMeshConnection, cacheEnabled := cacheEnabled,
      pending := [], connected := true, requests := [], answered := [], output := [] }

/-- `handleIoFailure`, and what is done with a header that is no request. -/
def disconnect (s : CSAuthenticated) : CSAuthenticated :=
  { s with connected := false, pending := [] }

/-- An exception leaves a handler. -/
def escape (s : CSAuthenticated) : CSAuthenticated :=
  { s with pending := [] }

/-! ## Responses -/

/-- `sendResponse`. -/
def sendResponse (response : ServerResponseMsg) (s : CSAuthenticated) : CSAuthenticated :=
  { s with answered := s.answered ++ [(s.currentRequest, response)] }.start (.writeHeader response)

/-- `sendResponse` of a response whose length may not fit into the header. -/
def sendData (code : ResponseCode) (uuid data : Bytes) (s : CSAuthenticated) : CSAuthenticated :=
  match ServerResponseMsg.withData code uuid data with
  | some response => s.sendResponse response
  | none => s.escape

/-- `sendError`. -/
def sendError (errorMsg : Bytes) (s : CSAuthenticated) : CSAuthenticated :=
  s.sendData .error (getUUID s.currentRequest) errorMsg

/-- `handleResponseHeaderWrite` without an error.  The length of the data is counted as an `int`
right after its write has been started, and the exception ends the write with everything else. -/
def handleResponseHeaderWrite (response : ServerResponseMsg) (s : CSAuthenticated) :
    CSAuthenticated :=
  match response.data with
  | some data => if data.length < 2 ^ 31 then s.start (.writeData response) else s.escape
  | none => s.waitForRequest

/-- `handleResponseDataWrite` without an error. -/
def handleResponseDataWrite (s : CSAuthenticated) : CSAuthenticated :=
  s.waitForRequest

/-! ## Answers of the storage and the mesh -/

/-- `handleIntrameshGetResponse`. -/
def handleIntrameshGetResponse (foundAsset : Option Bytes) (s : CSAuthenticated) :
    CSAuthenticated :=
  match foundAsset with
  | some asset => s.sendData .found (assetUUID asset) asset
  | none => s.sendResponse (.plain .notFound (getUUID s.currentRequest))

/-- `handleStorageGetResponse`: the error of a failed read is only logged. -/
def handleStorageGetResponse (foundAsset : Option Bytes) (s : CSAuthenticated) :
    CSAuthenticated :=
  match foundAsset with
  | some asset => s.sendData .found (assetUUID asset) asset
  | none =>
    if s.isMeshConnection then s.sendResponse (.plain .notFound (getUUID s.currentRequest))
    else s.start .meshGet

/-- `handleStorageWriteResponse`: a store has succeeded, or failed with a message. -/
def handleStorageWriteResponse (error : Option Bytes) (s : CSAuthenticated) : CSAuthenticated :=
  match error with
  | none => s.sendResponse (.plain .ok (getUUID s.currentRequest))
  | some errorMsg => s.sendError errorMsg

/-- `statusGetCompleted` and `storedAssetIdsGetCompleted`, with what the stream holds. -/
def reportCompleted (text : Bytes) (s : CSAuthenticated) : CSAuthenticated :=
  s.sendData .ok nullUUID text

/-! ## Requests -/

/-- What the handlers do first with the id of the request. -/
def withValidUUID (body : CSAuthenticated → CSAuthenticated) (s : CSAuthenticated) :
    CSAuthenticated :=
  if isValidUUID (getUUID s.currentRequest) then body s
  else s.sendError (invalidUUIDMessage (getUUID s.currentRequest))

/-- `handleGetRequest`; whether the result is cached makes no difference here. -/
def handleGetRequest (s : CSAuthenticated) : CSAuthenticated :=
  s.withValidUUID (start .storageGet)

/-- `purgeAsset` of the storage: `AssetCache` does nothing with it, and `VFSBackend` puts it into
the work queue. -/
def purgeAsset (s : CSAuthenticated) : CSAuthenticated :=
  if s.cacheEnabled then s else s.start .storagePurge

/-- `handlePurgeRequest`. -/
def handlePurgeRequest (s : CSAuthenticated) : CSAuthenticated :=
  s.withValidUUID purgeAsset

/-- `handlePutRequest`. -/
def handlePutRequest (s : CSAuthenticated) : CSAuthenticated :=
  s.start (.readData (getDataSize s.currentRequest))

/-- `handleAssetDataRead` without an error.  The id of the asset is checked, and the message names
the id of the header. -/
def handleAssetDataRead (data : Bytes) (s : CSAuthenticated) : CSAuthenticated :=
  if isValidUUID (assetUUID data) then s.start .storageStore
  else s.sendError (invalidUUIDMessage (getUUID s.currentRequest))

/-- `handleTestRequest`, with the answer of `assetExists`. -/
def handleTestRequest (haveAsset : Bool) (s : CSAuthenticated) : CSAuthenticated :=
  s.withValidUUID fun s =>
    s.sendResponse (.plain (if haveAsset then .found else .notFound) (getUUID s.currentRequest))

/-- `handlePurgeLocals`. -/
def handlePurgeLocals (s : CSAuthenticated) : CSAuthenticated :=
  s.sendResponse (.plain .ok nullUUID)

/-- The `switch` over the type of the request; `haveAsset` is the answer of `assetExists` to a
test. -/
def handleRequest (haveAsset : Bool) (s : CSAuthenticated) : CSAuthenticated :=
  match getType s.currentRequest with
  | some .get => s.handleGetRequest
  | some .purge => s.handlePurgeRequest
  | some .put => s.handlePutRequest
  | some .test => s.handleTestRequest haveAsset
  | some .maintPurgeLocals => s.handlePurgeLocals
  | some .statusGet => s.start .storageStatus
  | some .storedAssetIdsGet => s.start .storageAssetIds
  | some .getDontCache => s.handleGetRequest
  | none => s.disconnect

/-- `handleClientRequestHeaderRead` without an error. -/
def handleClientRequestHeaderRead (header : Bytes) (haveAsset : Bool) (s : CSAuthenticated) :
    CSAuthenticated :=
  { s with currentRequest := header, requests := s.requests ++ [header] }.handleRequest haveAsset

/-! ## Steps -/

/-- How an operation completes. -/
inductive Completion
  | headerRead (header : Bytes) (haveAsset : Bool)
  | dataRead (data : Bytes)
  | storageGet (foundAsset : Option Bytes)
  | storageStore (error : Option Bytes)
  /-- `performDiskPurge`, which does nothing. -/
  | diskPurge
  | status (text : Bytes)
  | assetIds (text : Bytes)
  | meshGet (foundAsset : Option Bytes)
  | headerWritten (response : ServerResponseMsg)
  | dataWritten (response : ServerResponseMsg)
  /-- A read or a write fails. -/
  | failed (op : Outstanding)

/-- The operation that completes. -/
def Completion.op : Completion → Outstanding
  | headerRead _ _ => .readHeader
  | dataRead data => .readData data.length
  | storageGet _ => .storageGet
  | storageStore _ => .storageStore
  | diskPurge => .storagePurge
  | status _ => .storageStatus
  | assetIds _ => .storageAssetIds
  | meshGet _ => .meshGet
  | headerWritten response => .writeHeader response
  | dataWritten response => .writeData response
  | failed op => op

/-- The handler of a completed operation. -/
def handler (c : Completion) (s : CSAuthenticated) : CSAuthenticated :=
  match c with
  | .headerRead header haveAsset => s.handleClientRequestHeaderRead header haveAsset
  | .dataRead data => s.handleAssetDataRead data
  | .storageGet foundAsset => s.handleStorageGetResponse foundAsset
  | .storageStore error => s.handleStorageWriteResponse error
  | .diskPurge => s
  | .status text => s.reportCompleted text
  | .assetIds text => s.reportCompleted text
  | .meshGet foundAsset => s.handleIntrameshGetResponse foundAsset
  | .headerWritten response => s.handleResponseHeaderWrite response
  | .dataWritten _ => s.handleResponseDataWrite
  | .failed _ => s.disconnect

/-- One of the pending operations completes. -/
def step (s : CSAuthenticated) (c : Completion) : Option CSAuthenticated :=
  match c with
  | .failed op =>
    if op ∈ s.pending ∧ op.usesSocket = true then
      some ({ s with pending := s.pending.erase op }.handler c)
    else none
  | c =>
    if c.op ∈ s.pending then some ({ s with pending := s.pending.erase c.op }.handler c)
    else none

end CSAuthenticated

end Halcyon.Whip
