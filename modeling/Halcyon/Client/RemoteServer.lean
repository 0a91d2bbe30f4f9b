import Halcyon.Client.Message
import Halcyon.Lib.Transition
import Halcyon.Lib.Waiters

/-!
# The .NET client of the asset service

Any number of threads call the client, and a thread of its own receives the responses.  A call makes
a `ResponseWaiter`.  A get whose id another get is waiting for joins the waiters of that id;
every other call takes the lock `_sendSync`, puts its waiter in the queue `_waitingRequests` and
writes the request to the socket.  The receive thread takes a waiter from the queue for every
response it reads, hands it the response, and after a get also hands it to all waiters of the id.
When reading fails it gives the error to all waiters and connects again; when writing fails the
calling thread does the first of the two.

A step is a critical section, or what a thread does between two of them.  The waiters are numbered
in the order of the calls, and a call is named by its waiter.  What the socket delivers, and how the
operations on it end, is part of the events.

Sockets are numbered too.  For each of them it is recorded which requests were written to it, which
messages were read from it and to whom they were handed; `notices` records what the callers and the
callbacks were told, and `servedBy` is the call whose request a get waits for.
-/

namespace Halcyon.Client

open Halcyon.Lib Halcyon.Whip Lib.Transition

/-- What a caller or a callback is told: the response, the asset, and the text of the
`AssetServerError`, if there is one. -/
structure Notice where
  response : Option ServerResponseMsg
  asset : Option Asset
  error : Option Bytes
  deriving DecidableEq

/-- Where the thread of a call is. -/
inductive Stage
  /-- About to take `_sendSync`. -/
  | sendRequest
  /-- In the lock, about to write. -/
  | send
  /-- In `FreeAllWaitersWithError`, before its first lock. -/
  | sendFailed
  /-- Between its two locks. -/
  | freed
  /-- Waiting for the event. -/
  | waitOne
  | returned
  deriving DecidableEq

/-- What a call asks for: the members of its `ResponseWaiter` that never change, and the id.
`servedBy` is the call whose request it waits for. -/
structure Request where
  callBack : Bool
  type : RequestType
  uuid : Bytes
  servedBy : Nat
  deriving DecidableEq

/-- The other members of a `ResponseWaiter`. -/
structure ResponseWaiter where
  waitEvent : Bool
  response : Option ServerResponseMsg
  asset : Option Asset
  error : Option ClientException
  deriving DecidableEq

/-- Where the receive thread is. -/
inductive Receiver
  /-- At the condition of its loop. -/
  | loop
  /-- Reading a response. -/
  | reading
  /-- With a response, about to take a waiter from the queue. -/
  | received (message : ServerResponseMsg)
  /-- With a response to a get that was handed to a waiter, about to hand it to all of them. -/
  | notifying (message : ServerResponseMsg) (asset : Option Asset) (root : Nat)
  /-- In the handler of an `AssetProtocolError`, about to disconnect. -/
  | disconnecting (e : ClientException)
  /-- In `FreeAllWaitersWithError`, before its first lock. -/
  | failed (e : ClientException)
  /-- Between its two locks. -/
  | freed (e : ClientException)
  /-- At the condition of the loop that connects. -/
  | reconnecting
  /-- In `Connect`. -/
  | connecting
  /-- The thread is over, by an exception or the end of its loop. -/
  | ended (e : Option ClientException)
  deriving DecidableEq

/-- `RemoteServer`. -/
structure RemoteServer where
  stopping : Bool
  /-- The number of the socket in `_conn`. -/
  conn : Nat
  getResponseWaiters : Waiters Bytes
  waitingRequests : List Nat
  /-- The call that holds `_sendSync`. -/
  sendSync : Option Nat
  receiver : Receiver
  issued : Nat
  request : Nat → Request
  waiter : Nat → ResponseWaiter
  stage : Nat → Stage
  /-- The requests written to a socket. -/
  written : Nat → List Nat
  /-- The messages read from a socket. -/
  messages : Nat → List ServerResponseMsg
  /-- The waiters that the messages of a socket were handed to. -/
  handed : Nat → List Nat
  notices : List (Nat × Notice)

/-- `DetermineErrorFromStatus`, the text of the error. -/
def determineErrorFromStatus (response : ServerResponseMsg) : Option Bytes :=
  match response.status with
  | .error => some response.data
  | .notFound => some ("Asset ".toUTF8.data.toList ++ response.assetUUID ++
      " was not found".toUTF8.data.toList)
  | _ => none

/-- `TryConstructAsset`. -/
def tryConstructAsset (message : ServerResponseMsg) (type : RequestType) :
    Except ClientException (Option Asset) :=
  if type = .get ∧ message.status = .found then (constructAsset message.data).map some
  else .ok none

lemma tryConstructAsset_isOk {message : ServerResponseMsg} {type : RequestType}
    (h : type = .get → message.status = .found → HoldsAsset message.data) :
    ∃ asset, tryConstructAsset message type = .ok asset := by
  unfold tryConstructAsset
  split_ifs with hget
  · obtain ⟨a, ha⟩ := constructAsset_isOk (h hget.1 hget.2)
    exact ⟨some a, by rw [ha]; rfl⟩
  · exact ⟨none, rfl⟩

/-- What is told about a response. -/
def Notice.ofResponse (message : ServerResponseMsg) (asset : Option Asset) : Notice :=
  ⟨some message, asset, determineErrorFromStatus message⟩

/-- What is told about an error; `message` is the text of the exception. -/
def Notice.ofError (message : Bytes) : Notice := ⟨none, none, some message⟩

/-- `Exception.Message`; that of a `SocketException` is left empty. -/
def ClientException.message : ClientException → Bytes
  | .assetServerError m | .assetProtocolError m | .authException m => m.toUTF8.data.toList
  | _ => []

namespace RemoteServer

/-- Changes some of the waiters. -/
def change (ks : List Nat) (f : ResponseWaiter → ResponseWaiter) (s : RemoteServer) :
    RemoteServer :=
  { s with waiter := fun k => if k ∈ ks then f (s.waiter k) else s.waiter k }

/-- A thread goes on. -/
def goto (k : Nat) (stage : Stage) (s : RemoteServer) : RemoteServer :=
  { s with stage := Function.update s.stage k stage }

/-- What follows `SendRequest`: a call with a callback returns, another waits. -/
def afterSendRequest (k : Nat) (s : RemoteServer) : RemoteServer :=
  s.goto k (if (s.request k).callBack then .returned else .waitOne)

/-- Callers and callbacks are told something. -/
def tell (ks : List Nat) (notice : Notice) (s : RemoteServer) : RemoteServer :=
  { s with notices := s.notices ++ ks.map fun k => (k, notice) }

/-- Those of the waiters that have a callback. -/
def withCallBack (s : RemoteServer) (ks : List Nat) : List Nat :=
  ks.filter fun k => (s.request k).callBack

/-! ## Calls -/

/-- A new waiter for a call. -/
def issue (r : Request) (s : RemoteServer) : RemoteServer :=
  { s with
    issued := s.issued + 1
    request := Function.update s.request s.issued r
    waiter := Function.update s.waiter s.issued ⟨false, none, none, none⟩
    stage := Function.update s.stage s.issued .sendRequest }

/-- A call: a new waiter, and `QueueGetWaiter` for a get. -/
def call (type : RequestType) (uuid : Bytes) (callBack : Bool) (s : RemoteServer) : RemoteServer :=
  let k := s.issued
  if type = .get then
    match Dict.get? s.getResponseWaiters uuid with
    | some ks =>
      { s.issue ⟨callBack, type, uuid, ks.headD k⟩ with
        getResponseWaiters := Dict.modify s.getResponseWaiters uuid (· ++ [k]) }.afterSendRequest k
    | none =>
      { s.issue ⟨callBack, type, uuid, k⟩ with
        getResponseWaiters := Dict.add s.getResponseWaiters uuid [k] }
  else s.issue ⟨callBack, type, uuid, k⟩

/-- The lock `_sendSync` is taken and the waiter enqueued. -/
def enqueue (k : Nat) (s : RemoteServer) : RemoteServer :=
  { s with sendSync := some k, waitingRequests := s.waitingRequests ++ [k] }.goto k .send

/-- `request.Send`, and the end of the lock. -/
def send (k : Nat) (success : Bool) (s : RemoteServer) : RemoteServer :=
  let s := { s with sendSync := none }
  if success then
    { s with written := Function.update s.written s.conn (s.written s.conn ++ [k]) }.afterSendRequest
      k
  else s.goto k .sendFailed

/-- The event is set: the call returns, or throws what `CheckThrowError` does.  An event is set
together with a response or an error. -/
def wake (k : Nat) (s : RemoteServer) : RemoteServer :=
  let w := s.waiter k
  let notice := match w.error, w.response with
    | some e, _ => Notice.ofError e.message
    | none, some message => .ofResponse message w.asset
    | none, none => .ofError []
  (s.goto k .returned).tell [k] notice

/-! ## Freeing the waiters -/

/-- Sets the error of some waiters, and their events. -/
def release (ks : List Nat) (e : ClientException) (s : RemoteServer) : RemoteServer :=
  s.change ks fun w => { w with error := some e, waitEvent := true }

/-- The first lock of `FreeAllWaitersWithError`. -/
def freeWaitingRequests (e : ClientException) (s : RemoteServer) : RemoteServer :=
  { s.release s.waitingRequests e with waitingRequests := [] }

/-- The second lock of `FreeAllWaitersWithError`. -/
def freeGetWaiters (e : ClientException) (s : RemoteServer) : RemoteServer :=
  let ks := Waiters.tickets s.getResponseWaiters
  { (s.release ks e).tell (s.withCallBack ks) (.ofError e.message) with getResponseWaiters := [] }

/-- `HandleSendError` behind its first lock: the call ends with an `AssetServerError`, also where it
has a callback. -/
def endSendError (k : Nat) (s : RemoteServer) : RemoteServer :=
  let s := (s.freeGetWaiters .socketException).goto k .returned
  if (s.request k).callBack then s else s.tell [k] (.ofError ClientException.socketException.message)

/-! ## The receive thread -/

/-- An exception in the loop. -/
def raise (e : ClientException) (s : RemoteServer) : RemoteServer :=
  { s with
    receiver := match e with
      | .socketException | .assetServerError _ => .failed e
      | .assetProtocolError _ => .disconnecting e
      | _ => .ended (some e) }

/-- `new ServerResponseMsg(_conn)`. -/
def read (pieces : List Bytes) (s : RemoteServer) : Option RemoteServer :=
  match readServerResponseMsg pieces with
  | .error e => some (s.raise e)
  | .ok (message, []) =>
    some { s with
      receiver := .received message
      messages := Function.update s.messages s.conn (s.messages s.conn ++ [message]) }
  | .ok (_, _ :: _) => none

/-- Hands a response to some waiters. -/
def hand (ks : List Nat) (message : ServerResponseMsg) (asset : Option Asset) (s : RemoteServer) :
    RemoteServer :=
  s.change ks fun w =>
    { w with response := some message, asset := asset, waitEvent := true }

/-- From the lock of `_waitingRequests` to that of `_getResponseWaiters`. -/
def dequeue (message : ServerResponseMsg) (s : RemoteServer) : RemoteServer :=
  match s.waitingRequests with
  | [] => s.raise .invalidOperationException
  | k :: ks =>
    let s := { s with waitingRequests := ks }
    match tryConstructAsset message (s.request k).type with
    | .error e => s.raise e
    | .ok asset =>
      { s.hand [k] message asset with
        handed := Function.update s.handed s.conn (s.handed s.conn ++ [k])
        receiver := if (s.request k).type = .get then .notifying message asset k else .loop }

/-- The lock of `_getResponseWaiters`, with `CallGetWaiters` and `HandleAsyncResponse`. -/
def callGetWaiters (message : ServerResponseMsg) (asset : Option Asset) (s : RemoteServer) :
    RemoteServer :=
  let s := { s with receiver := .loop }
  match Dict.get? s.getResponseWaiters message.assetUUID with
  | none => s
  | some ks =>
    { (s.hand ks message asset).tell (s.withCallBack ks) (.ofResponse message asset) with
      getResponseWaiters := Dict.erase s.getResponseWaiters message.assetUUID }

/-- `_conn.Disconnect(false)`, and the exception that it throws, if it does. -/
def disconnect (e : ClientException) (exn : Option ClientException) (s : RemoteServer) :
    RemoteServer :=
  { s with receiver := match exn with
      | none => .failed e
      | some e' => .ended (some e') }

/-- The condition of the loop that connects, and the new socket. -/
def checkConnected (connected : Bool) (s : RemoteServer) : RemoteServer :=
  if s.stopping ∨ connected then { s with receiver := .loop }
  else { s with receiver := .connecting, conn := s.conn + 1 }

/-- How an attempt to connect goes. -/
inductive Attempt
  /-- The socket does not connect. -/
  | refused
  /-- It connects, and the server sends these pieces. -/
  | accepted (pieces : List Bytes) (sendFails : Bool)
  deriving DecidableEq

/-- `Connect`. -/
def Attempt.outcome : Attempt → Except ClientException Unit
  | .refused => .error .socketException
  | .accepted pieces sendFails => (authenticate pieces sendFails).map fun _ => ()

/-- `Connect` behind the creation of the socket, in the loop of `HandleReceiveError`. -/
def connect (attempt : Attempt) (s : RemoteServer) : RemoteServer :=
  match attempt.outcome with
  | .ok _ | .error .socketException => { s with receiver := .reconnecting }
  | .error e => { s with receiver := .ended (some e) }

/-! ## Steps -/

inductive Event
  | call (type : RequestType) (uuid : Bytes) (callBack : Bool)
  | enqueue (k : Nat)
  | send (k : Nat) (success : Bool)
  /-- The two locks of `HandleSendError`. -/
  | handleSendError (k : Nat)
  | wake (k : Nat)
  /-- The condition of the receive loop. -/
  | iterate
  | read (pieces : List Bytes)
  | dequeue
  | callGetWaiters
  /-- `_conn.Disconnect(false)`, which may throw. -/
  | disconnect (exn : Option ClientException)
  /-- The two locks of `FreeAllWaitersWithError` in the receive thread. -/
  | freeAllWaiters
  /-- The condition of the loop that connects, with the value of `_conn.Connected`. -/
  | checkConnected (connected : Bool)
  | connect (attempt : Attempt)
  | stop
  deriving DecidableEq

/-- One step. -/
def step (s : RemoteServer) : Event → Option RemoteServer
  -- Only a get can have a callback.
  | .call type uuid callBack =>
    if callBack → type = .get then some (s.call type uuid callBack) else none
  | .enqueue k =>
    if k < s.issued ∧ s.stage k = .sendRequest ∧ s.sendSync = none then some (s.enqueue k)
    else none
  | .send k success =>
    if s.sendSync = some k ∧ s.stage k = .send then some (s.send k success) else none
  | .handleSendError k =>
    if k < s.issued then
      match s.stage k with
      | .sendFailed => some ((s.freeWaitingRequests .socketException).goto k .freed)
      | .freed => some (s.endSendError k)
      | _ => none
    else none
  | .wake k =>
    if k < s.issued ∧ s.stage k = .waitOne ∧ (s.waiter k).waitEvent then some (s.wake k)
    else none
  | .iterate =>
    if s.receiver = .loop then
      some { s with receiver := if s.stopping then .ended none else .reading }
    else none
  | .read pieces => if s.receiver = .reading then s.read pieces else none
  | .dequeue =>
    match s.receiver with
    | .received message => some (s.dequeue message)
    | _ => none
  | .callGetWaiters =>
    match s.receiver with
    | .notifying message asset _ => some (s.callGetWaiters message asset)
    | _ => none
  | .disconnect exn =>
    match s.receiver with
    | .disconnecting e => some (s.disconnect e exn)
    | _ => none
  | .freeAllWaiters =>
    match s.receiver with
    | .failed e => some { s.freeWaitingRequests e with receiver := .freed e }
    | .freed e => some { s.freeGetWaiters e with receiver := .reconnecting }
    | _ => none
  | .checkConnected connected =>
    if s.receiver = .reconnecting then some (s.checkConnected connected) else none
  | .connect attempt => if s.receiver = .connecting then some (s.connect attempt) else none
  | .stop => some { s with stopping := true }

section Inversion

-- generated here once, the equations serve all the lemmas below
attribute [local simp] step

variable {s s' : RemoteServer} {k : Nat}

lemma step_call {type : RequestType} {uuid : Bytes} {callBack : Bool} :
    s.step (.call type uuid callBack) = some s' ↔
      (callBack = true → type = .get) ∧ s' = s.call type uuid callBack :=
  guarded_eq_some

lemma step_enqueue : s.step (.enqueue k) = some s' ↔
    (k < s.issued ∧ s.stage k = .sendRequest ∧ s.sendSync = none) ∧ s' = s.enqueue k :=
  guarded_eq_some

lemma step_send {success : Bool} : s.step (.send k success) = some s' ↔
    (s.sendSync = some k ∧ s.stage k = .send) ∧ s' = s.send k success :=
  guarded_eq_some

lemma step_handleSendError (h : s.step (.handleSendError k) = some s') : k < s.issued ∧
    ((s.stage k = .sendFailed ∧ s' = (s.freeWaitingRequests .socketException).goto k .freed) ∨
      (s.stage k = .freed ∧ s' = s.endSendError k)) := by
  obtain ⟨hk, h⟩ := Option.ite_none_right_eq_some.mp h
  refine ⟨hk, ?_⟩
  split at h
  · next hstage => exact .inl ⟨hstage, (Option.some.inj h).symm⟩
  · next hstage => exact .inr ⟨hstage, (Option.some.inj h).symm⟩
  · cases h

lemma step_wake : s.step (.wake k) = some s' ↔
    (k < s.issued ∧ s.stage k = .waitOne ∧ (s.waiter k).waitEvent = true) ∧ s' = s.wake k :=
  guarded_eq_some

lemma step_iterate : s.step .iterate = some s' ↔ s.receiver = .loop ∧
    s' = { s with receiver := if s.stopping then .ended none else .reading } :=
  guarded_eq_some

lemma step_read {pieces : List Bytes} : s.step (.read pieces) = some s' ↔
    s.receiver = .reading ∧ s.read pieces = some s' :=
  Option.ite_none_right_eq_some

lemma step_dequeue (h : s.step .dequeue = some s') :
    ∃ message, s.receiver = .received message ∧ s' = s.dequeue message := by
  simp only [step] at h
  split at h
  · next message hmessage => exact ⟨message, hmessage, (Option.some.inj h).symm⟩
  · cases h

lemma step_callGetWaiters (h : s.step .callGetWaiters = some s') :
    ∃ message asset root, s.receiver = .notifying message asset root ∧
      s' = s.callGetWaiters message asset := by
  simp only [step] at h
  split at h
  · next message asset root hreceiver =>
    exact ⟨message, asset, root, hreceiver, (Option.some.inj h).symm⟩
  · cases h

lemma step_disconnect {exn : Option ClientException} (h : s.step (.disconnect exn) = some s') :
    ∃ e, s.receiver = .disconnecting e ∧ s' = s.disconnect e exn := by
  simp only [step] at h
  split at h
  · next e he => exact ⟨e, he, (Option.some.inj h).symm⟩
  · cases h

lemma step_freeAllWaiters (h : s.step .freeAllWaiters = some s') :
    ∃ e, (s.receiver = .failed e ∧ s' = { s.freeWaitingRequests e with receiver := .freed e }) ∨
      (s.receiver = .freed e ∧ s' = { s.freeGetWaiters e with receiver := .reconnecting }) := by
  simp only [step] at h
  split at h
  · next e he => exact ⟨e, .inl ⟨he, (Option.some.inj h).symm⟩⟩
  · next e he => exact ⟨e, .inr ⟨he, (Option.some.inj h).symm⟩⟩
  · cases h

lemma step_checkConnected {connected : Bool} : s.step (.checkConnected connected) = some s' ↔
    s.receiver = .reconnecting ∧ s' = s.checkConnected connected :=
  guarded_eq_some

lemma step_connect {attempt : Attempt} : s.step (.connect attempt) = some s' ↔
    s.receiver = .connecting ∧ s' = s.connect attempt :=
  guarded_eq_some

end Inversion

/-- After `Start`: connected, and the receive thread at its loop. -/
def start : RemoteServer where
  stopping := false
  conn := 0
  getResponseWaiters := []
  waitingRequests := []
  sendSync := none
  receiver := .loop
  issued := 0
  request := fun _ => ⟨false, .test, [], 0⟩
  waiter := fun _ => ⟨false, none, none, none⟩
  stage := fun _ => .returned
  written := fun _ => []
  messages := fun _ => []
  handed := fun _ => []
  notices := []

end RemoteServer

end Halcyon.Client
