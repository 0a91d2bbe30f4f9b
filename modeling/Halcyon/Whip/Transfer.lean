import Halcyon.Lib.Transition
import Halcyon.Whip.Message

/-!
# The client side of the asset service

`RemoteAssetService` sends requests to the asset service of another server over one connection,
and `MeshServer` has a copy of the same code for gets.  A request is written at once if no write
is under way, and waits in `transferRequestQueue` otherwise; a request that was written waits in
`assetCallbackQueue` for its response.  Responses come in the order of the requests, so the
callback of a response is the first of the queue.

Callbacks run on the stack of the handler that has the result, and the code of the user inside a
callback may make further requests or close the connection before the handler goes on.  `stack`
holds what is left to do when the running callback returns, the innermost first.  Completions of
I/O run as handlers of their own, so they wait for an empty stack.

What the peer sends, and how each operation ends, is part of the events.  Callbacks are numbered
in the order of the calls that pass them in, and `invoked` records each invocation with what the
callback was given.  The objects are taken to live as long as something refers to them, and there
is one attempt to connect.
-/

namespace Halcyon.Whip

/-- The two classes with this code. -/
inductive Flavour
  | remoteAssetService
  | meshServer
  deriving DecidableEq

/-- `PendingTransferRequest`: the id or the requested beginning of ids, the callback, the type of
the request and the asset of a put. -/
structure Transfer where
  uuid : Bytes
  callback : Nat
  type : RequestType
  asset : Bytes
  deriving DecidableEq

/-- What a callback is given: `(Asset::ptr, RASError, std::string)`; a callback of `MeshServer` is
only given the first of the three, null for an error. -/
structure Reply where
  asset : Option Bytes
  isError : Bool
  isFatal : Bool
  text : Bytes
  deriving DecidableEq

namespace Reply

/-- "Connection was terminated". -/
def terminated : Reply :=
  ⟨none, true, true, "Connection was terminated".toUTF8.data.toList⟩

/-- "Connection not established". -/
def notEstablished : Reply :=
  ⟨none, true, false, "Connection not established".toUTF8.data.toList⟩

/-- An asset was returned. -/
def ofAsset (asset : Bytes) : Reply := ⟨some asset, false, false, []⟩

/-- A confirmation, or a list of ids. -/
def ofText (text : Bytes) : Reply := ⟨none, false, false, text⟩

/-- An error that the server has sent. -/
def ofError (text : Bytes) : Reply := ⟨none, true, false, text⟩

end Reply

/-- A read on the socket that is under way; the reads of data remember their header. -/
inductive SocketRead
  | header
  | data (header : Bytes)
  | errorData (header : Bytes)
  deriving DecidableEq

/-- The operations of the connection to the asset service, in their order. -/
inductive ConnectStage
  | connect
  | challenge
  | response
  | status
  deriving DecidableEq

/-- What is left to do when a callback returns. -/
inductive Frame
  /-- The rest of `onConnectionResult`. -/
  | afterConnect
  /-- The first loop of `close`. -/
  | closingTransfers
  /-- The second loop of `close`. -/
  | closingCallbacks
  | popThenListen
  | listenThenPop
  /-- The rest of `MeshServer::onReadResponseHeader`. -/
  | popThenReadRest (header : Bytes)
  /-- Nothing: the callback was posted. -/
  | posted
  deriving DecidableEq

/-- `RemoteAssetService` or the asset side of `MeshServer`. -/
structure TransferClient where
  flavour : Flavour
  assetConnectionEstablished : Bool
  meshQueryConnectionEstablished : Bool
  numConnectResultsRcvd : Nat
  sendActive : Bool
  recvActive : Bool
  transferRequestQueue : List Transfer
  assetCallbackQueue : List Transfer
  /-- The operation of the connection to the asset service under way. -/
  connecting : Option ConnectStage
  /-- The connection to the query service is under way. -/
  queryConnecting : Bool
  writes : List ClientRequestMsg
  reads : List SocketRead
  /-- The callbacks posted with "Connection not established". -/
  posted : List Nat
  stack : List Frame
  invoked : List (Nat × Reply)
  nextCallback : Nat
  /-- The bytes handed to the socket. -/
  output : Bytes
  /-- The front of an empty queue was used. -/
  undefinedBehaviour : Bool

/-! ## Requests -/

/-- The message of a request; a short beginning of ids is filled up with zeros. -/
def Transfer.message (t : Transfer) : ClientRequestMsg :=
  match t.type with
  | .put => .ofAsset t.asset
  | .storedAssetIdsGet =>
    .ofType .storedAssetIdsGet (t.uuid ++ List.replicate (32 - t.uuid.length) 48)
  | type => .ofType type t.uuid

/-- The calls that pass in a callback. -/
inductive Call
  | getAsset (uuid : Bytes) (cache : Bool)
  | putAsset (asset : Bytes)
  | getStoredAssetIDsWithPrefix (pfx : Bytes)
  deriving DecidableEq

/-- The request that a call makes. -/
def Call.transfer (c : Call) (callback : Nat) : Transfer :=
  match c with
  | .getAsset uuid cache => ⟨uuid, callback, if cache then .get else .getDontCache, []⟩
  | .putAsset asset => ⟨assetUUID asset, callback, .put, asset⟩
  | .getStoredAssetIDsWithPrefix pfx => ⟨pfx, callback, .storedAssetIdsGet, []⟩

namespace TransferClient

/-- A client whose connection has been started. -/
def start (flavour : Flavour) : TransferClient where
  flavour := flavour
  assetConnectionEstablished := false
  meshQueryConnectionEstablished := false
  numConnectResultsRcvd := 0
  sendActive := false
  recvActive := false
  transferRequestQueue := []
  assetCallbackQueue := []
  connecting := some .connect
  queryConnecting := flavour = .meshServer
  writes := []
  reads := []
  posted := []
  stack := []
  invoked := []
  nextCallback := 0
  output := []
  undefinedBehaviour := false

/-- No operation is under way, nothing is posted and no callback is running. -/
def Quiet (s : TransferClient) : Prop :=
  s.connecting = none ∧ s.queryConnecting = false ∧ s.writes = [] ∧ s.reads = [] ∧
    s.posted = [] ∧ s.stack = []

/-- `sendGetRequest`, `sendPutRequest`, `sendAssetIdsRequest`. -/
def send (t : Transfer) (s : TransferClient) : TransferClient :=
  { s with
    sendActive := true
    writes := s.writes ++ [t.message]
    output := s.output ++ t.message.bytes
    assetCallbackQueue := s.assetCallbackQueue ++ [t] }

/-- What `getAsset`, `putAsset` and `getStoredAssetIDsWithPrefix` do: without a connection the
callback is posted with an error, and then the request is sent or queued all the same. -/
def request (t : Transfer) (s : TransferClient) : TransferClient :=
  let s := if s.assetConnectionEstablished then s else { s with posted := s.posted ++ [t.callback] }
  if s.sendActive then { s with transferRequestQueue := s.transferRequestQueue ++ [t] }
  else s.send t

/-- A call with a new callback. -/
def call (c : Call) (s : TransferClient) : TransferClient :=
  { s.request (c.transfer s.nextCallback) with nextCallback := s.nextCallback + 1 }

/-! ## Invoking callbacks -/

/-- A callback is invoked; `k` is done after it. -/
def invoke (t : Transfer) (reply : Reply) (k : Frame) (s : TransferClient) : TransferClient :=
  { s with invoked := s.invoked ++ [(t.callback, reply)], stack := k :: s.stack }

/-- The second loop of `close`, from its test on. -/
def closeCallbacks (s : TransferClient) : TransferClient :=
  match s.assetCallbackQueue with
  | t :: _ => s.invoke t .terminated .closingCallbacks
  | [] => s

/-- The first loop of `close`, from its test on. -/
def closeTransfers (s : TransferClient) : TransferClient :=
  match s.transferRequestQueue with
  | t :: _ => s.invoke t .terminated .closingTransfers
  | [] => s.closeCallbacks

/-- `close`: the operations under way end with an error, or have ended already. -/
def close (s : TransferClient) : TransferClient :=
  { s with assetConnectionEstablished := false }.closeTransfers

/-- Uses the request that waits longest for its response. -/
def withFront (body : Transfer → TransferClient → TransferClient) (s : TransferClient) :
    TransferClient :=
  match s.assetCallbackQueue with
  | t :: _ => body t s
  | [] => { s with undefinedBehaviour := true }

/-- `_assetCallbackQueue.pop`. -/
def popCallback (s : TransferClient) : TransferClient :=
  match s.assetCallbackQueue with
  | _ :: ts => { s with assetCallbackQueue := ts }
  | [] => { s with undefinedBehaviour := true }

/-- `_transferRequestQueue.pop`. -/
def popTransfer (s : TransferClient) : TransferClient :=
  match s.transferRequestQueue with
  | _ :: ts => { s with transferRequestQueue := ts }
  | [] => { s with undefinedBehaviour := true }

/-! ## Reading responses -/

/-- A read is started. -/
def startRead (r : SocketRead) (s : TransferClient) : TransferClient :=
  { s with recvActive := true, reads := s.reads ++ [r] }

/-- `listenForServerResponses`, `listenForAssetData`. -/
def listen (s : TransferClient) : TransferClient := s.startRead .header

/-- The handler of a read starts. -/
def readDone (r : SocketRead) (s : TransferClient) : TransferClient :=
  { s with recvActive := false, reads := s.reads.erase r }

/-- What a callback returns to. -/
def resume (k : Frame) (s : TransferClient) : TransferClient :=
  match k with
  | .afterConnect => if s.assetConnectionEstablished then s.listen else s
  | .closingTransfers => s.popTransfer.closeTransfers
  | .closingCallbacks => s.popCallback.closeCallbacks
  | .popThenListen => s.popCallback.listen
  | .listenThenPop => { s.listen with assetCallbackQueue := s.assetCallbackQueue.tail }
  | .popThenReadRest header =>
    if getDataSize header > 0 then s.popCallback.startRead (.errorData header)
    else s.popCallback.listen
  | .posted => s

/-- `RemoteAssetService::onReadResponseHeader` without an error. -/
def remoteReadResponseHeader (header : Bytes) (s : TransferClient) : TransferClient :=
  match getResponseCode header with
  | some .found | some .ok => s.startRead (.data header)
  | some .notFound | some .error =>
    if getDataSize header > 0 then s.startRead (.errorData header)
    else s.withFront fun t s => s.invoke t (.ofError []) .popThenListen
  | none => s.close

/-- `MeshServer::onReadResponseHeader` without an error. -/
def meshReadResponseHeader (header : Bytes) (s : TransferClient) : TransferClient :=
  match getResponseCode header with
  | some .found => s.startRead (.data header)
  | some _ => s.withFront fun t s =>
    if t.uuid = getUUID header then s.invoke t (.ofError []) (.popThenReadRest header)
    else s.close
  | none => s.close

/-- `onReadResponseHeader`. -/
def onReadResponseHeader (result : Option Bytes) (s : TransferClient) : TransferClient :=
  match result, s.flavour with
  | none, _ => s.close
  | some header, .remoteAssetService => s.remoteReadResponseHeader header
  | some header, .meshServer => s.meshReadResponseHeader header

/-- `handleAssetReturned`, `handleConfirmation`, `handleDataReturned`: a response with data
arrived for a request. -/
def handleReturned (data : Bytes) (t : Transfer) (s : TransferClient) : TransferClient :=
  match t.type with
  | .get | .getDontCache =>
    if assetUUID data = t.uuid then s.invoke t (.ofAsset data) .listenThenPop else s.close
  | .maintPurgeLocals | .purge | .put => s.invoke t (.ofText []) .listenThenPop
  | .statusGet | .storedAssetIdsGet => s.invoke t (.ofText data) .listenThenPop
  | .test => s.close

/-- `onReadResponseData`. -/
def onReadResponseData (result : Option Bytes) (s : TransferClient) : TransferClient :=
  match result, s.flavour with
  | none, _ => s.close
  | some data, .remoteAssetService =>
    if s.assetConnectionEstablished then s.withFront (handleReturned data) else s.close
  | some data, .meshServer =>
    if data ≠ [] ∧ s.assetConnectionEstablished = true then
      s.withFront fun t s =>
        if assetUUID data = t.uuid then s.invoke t (.ofAsset data) .popThenListen else s.close
    else s.close

/-- `onHandleRequestErrorData`. -/
def onHandleRequestErrorData (result : Option Bytes) (s : TransferClient) : TransferClient :=
  match result with
  | none | some [] => s.close
  | some data =>
    match s.flavour with
    | .remoteAssetService => s.withFront fun t s => s.invoke t (.ofError data) .popThenListen
    | .meshServer => s.listen

/-! ## Writing requests -/

/-- `doNextQueuedRequest`; `MeshServer` sends the request without going through `getAsset`. -/
def doNextQueuedRequest (s : TransferClient) : TransferClient :=
  match s.transferRequestQueue with
  | t :: _ =>
    match s.flavour with
    | .remoteAssetService => (s.request t).popTransfer
    | .meshServer => (s.send t).popTransfer
  | [] => s

/-- `onAfterWriteAssetRequest`. -/
def onAfterWriteAssetRequest (ok : Bool) (s : TransferClient) : TransferClient :=
  let s := { s with sendActive := false }
  if ok then
    if s.assetConnectionEstablished then s.doNextQueuedRequest else s
  else s.close

/-! ## Connecting -/

/-- `onConnectionResult`.  The callback of a `RemoteAssetService` is code of the user.  That of a
`MeshServer` is `IntraMeshService::onConnectAttemptCompleted`, which closes a server that could
not be reached on both connections. -/
def onConnectionResult (s : TransferClient) : TransferClient :=
  match s.flavour with
  | .remoteAssetService => { s with stack := .afterConnect :: s.stack }
  | .meshServer =>
    let s := { s with numConnectResultsRcvd := s.numConnectResultsRcvd + 1 }
    if s.numConnectResultsRcvd = 2 then
      if s.meshQueryConnectionEstablished && s.assetConnectionEstablished then s.listen
      else s.close
    else s

/-- `onConnect`, `onRecvChallenge`, `onChallengeResponseWrite` and `onAuthenticationStatus`. -/
def onConnectStage (stage : ConnectStage) (ok : Bool) (s : TransferClient) : TransferClient :=
  if ok then
    match stage with
    | .connect => { s with connecting := some .challenge }
    | .challenge => { s with connecting := some .response }
    | .response => { s with connecting := some .status }
    | .status =>
      { s with connecting := none, assetConnectionEstablished := true }.onConnectionResult
  else { s with connecting := none, assetConnectionEstablished := false }.onConnectionResult

/-- `onQueryConnectionConnectResult`. -/
def onQueryConnectionConnectResult (ok : Bool) (s : TransferClient) : TransferClient :=
  { s with queryConnecting := false, meshQueryConnectionEstablished := ok }.onConnectionResult

/-! ## Steps -/

/-- What can happen to a client. -/
inductive Event
  | call (c : Call)
  | close
  /-- The running callback returns. -/
  | returns
  /-- A posted callback runs. -/
  | runPosted (i : Nat)
  | connectStage (ok : Bool)
  | queryConnected (ok : Bool)
  /-- `queryEndpointClosed`. -/
  | queryClosed
  | written (m : ClientRequestMsg) (ok : Bool)
  | headerRead (result : Option Bytes)
  | dataRead (header : Bytes) (result : Option Bytes)
  | errorDataRead (header : Bytes) (result : Option Bytes)

/-- A completion of I/O: no callback is running, and the operation was under way. -/
def completion (underWay : Bool) (handler : TransferClient → TransferClient) (s : TransferClient) :
    Option TransferClient :=
  if s.stack.isEmpty && underWay then some (handler s) else none

lemma completion_eq_some {s s' : TransferClient} {underWay : Bool}
    {handler : TransferClient → TransferClient}
    (h : s.completion underWay handler = some s') :
    s.stack = [] ∧ underWay = true ∧ s' = handler s := by
  simp only [completion, Option.ite_none_right_eq_some, Bool.and_eq_true, List.isEmpty_iff,
    Option.some.injEq] at h
  exact ⟨h.1.1, h.1.2, h.2.symm⟩

/-- `MeshServer` has only gets, which are cached by the server. -/
def hasMethod (s : TransferClient) : Call → Bool
  | .getAsset _ cache => decide (s.flavour = .remoteAssetService) || cache
  | _ => decide (s.flavour = .remoteAssetService)

/-- One event. -/
def step (s : TransferClient) : Event → Option TransferClient
  | .call c => if s.hasMethod c then some (s.call c) else none
  | .close => some s.close
  | .returns =>
    match s.stack with
    | k :: ks => some ({ s with stack := ks }.resume k)
    | [] => none
  | .runPosted i =>
    match s.posted[i]? with
    | some n => s.completion true fun s =>
      { s with
        posted := s.posted.eraseIdx i
        invoked := s.invoked ++ [(n, .notEstablished)]
        stack := [.posted] }
    | none => none
  | .connectStage ok =>
    match s.connecting with
    | some stage => s.completion true (onConnectStage stage ok)
    | none => none
  | .queryConnected ok => s.completion s.queryConnecting (onQueryConnectionConnectResult ok)
  | .queryClosed => s.completion (s.flavour = .meshServer) fun s =>
      { s with meshQueryConnectionEstablished := false }.close
  | .written m ok => s.completion (m ∈ s.writes) fun s =>
      { s with writes := s.writes.erase m }.onAfterWriteAssetRequest ok
  | .headerRead result => s.completion (.header ∈ s.reads) fun s =>
      (s.readDone .header).onReadResponseHeader result
  | .dataRead header result => s.completion (.data header ∈ s.reads) fun s =>
      (s.readDone (.data header)).onReadResponseData result
  | .errorDataRead header result => s.completion (.errorData header ∈ s.reads) fun s =>
      (s.readDone (.errorData header)).onHandleRequestErrorData result

end TransferClient

end Halcyon.Whip
