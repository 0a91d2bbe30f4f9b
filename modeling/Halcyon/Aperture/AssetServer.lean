import Halcyon.Aperture.Reply
import Halcyon.Lib.Transition
import Halcyon.Lib.Waiters

/-!
# The WHIP client of aperture

`AssetServer` keeps one connection to an asset server.  Requests are sent one after the other from a
queue, responses are read one after the other, and the callbacks that wait for an asset are kept in
a map from its id.  When anything goes wrong the connection is closed, every callback is called
without an asset, and a new connection is tried after a delay.

The events are the calls from outside and the completions of the operations on the socket and of the
reconnect timer.  What was outstanding on a socket when it was closed is stale: it completes with an
error, and it does so before the next connection attempt.  Setting the timer again cancels the wait
before it unless that has already expired, so more than one wait may fire; a connection attempt on a
socket that is already in use fails.

A callback is the number of the call of `getAsset` that passed it in.  The ghost fields record the
ids asked for, the requests the server has got and not yet answered, the assets it sent, and the
callbacks called.
-/

namespace Halcyon.Aperture

open Lib Lib.Transition
open Whip (Bytes)
open scoped List

/-! ## Messages -/

/-- The header of a `ServerResponseMsg`. -/
structure ResponseHeader where
  code : Nat
  uuid : Text
  dataSize : Nat
  deriving DecidableEq

namespace ResponseHeader

/-- `RC_FOUND`. -/
def rcFound : Nat := 10

/-- `RC_OK`. -/
def rcOk : Nat := 13

/-- `validateHeader`. -/
def validateHeader (h : ResponseHeader) : Bool := rcFound ≤ h.code && h.code ≤ rcOk

end ResponseHeader

/-! ## The client -/

/-- `ConnectionState`. -/
inductive ConnectionState
  | disconnected
  | connecting
  | connected
  | shutdown
  | reconnectWait
  deriving DecidableEq

/-- The steps of setting up a connection. -/
inductive Handshake
  | connect
  | recvChallenge
  | challengeResponseWrite
  | authenticationStatus
  deriving DecidableEq

namespace Handshake

/-- Reads that the step has outstanding. -/
def reads : Option Handshake → Nat
  | some recvChallenge | some authenticationStatus => 1
  | _ => 0

/-- Writes that the step has outstanding. -/
def writes : Option Handshake → Nat
  | some challengeResponseWrite => 1
  | _ => 0

/-- Connection attempts that the step has outstanding. -/
def connects : Option Handshake → Nat
  | some connect => 1
  | _ => 0

end Handshake

/-- A read of a response. -/
inductive ResponseRead
  | header
  | data (uuid : Text) (size : Nat)
  | errorData (uuid : Text) (size : Nat)
  deriving DecidableEq

/-- `AssetServer`. -/
structure AssetServer where
  connectionState : ConnectionState
  pendingSends : List Text
  pendingTransfers : Waiters Text
  /-- The socket is open. -/
  socketOpen : Bool
  /-- Waits of the reconnect timer. -/
  waits : Nat
  /-- The step of the handshake that is outstanding. -/
  handshake : Option Handshake
  /-- Connection attempts on a socket that is in use. -/
  lateConnects : Nat
  /-- Outstanding writes of requests. -/
  writing : Nat
  /-- Outstanding reads of responses. -/
  reading : List ResponseRead
  /-- Operations outstanding on the socket when it was closed. -/
  staleReads : Nat
  staleWrites : Nat
  staleConnects : Nat
  /-- Ghost: the requests the server has got and not answered. -/
  sent : List Text
  /-- Ghost: the ids of the calls of `getAsset`. -/
  asked : List Text
  /-- Ghost: the assets in the responses. -/
  found : List (Text × Bytes)
  /-- Ghost: the callbacks called, and with what. -/
  calls : List (Nat × Option Bytes)

namespace AssetServer

/-- A new client. -/
def new : AssetServer where
  connectionState := .disconnected
  pendingSends := []
  pendingTransfers := []
  socketOpen := false
  waits := 0
  handshake := none
  lateConnects := 0
  writing := 0
  reading := []
  staleReads := 0
  staleWrites := 0
  staleConnects := 0
  sent := []
  asked := []
  found := []
  calls := []

/-- Outstanding reads. -/
def reads (s : AssetServer) : Nat := s.reading.length + Handshake.reads s.handshake + s.staleReads

/-- Outstanding writes. -/
def writes (s : AssetServer) : Nat := s.writing + Handshake.writes s.handshake + s.staleWrites

/-- The socket is closed; what is outstanding on it becomes stale. -/
def closeSocket (s : AssetServer) : AssetServer :=
  { s with
    socketOpen := false, handshake := none, lateConnects := 0, writing := 0, reading := []
    staleReads := s.reads
    staleWrites := s.writes
    staleConnects := s.lateConnects + Handshake.connects s.handshake + s.staleConnects
    sent := [] }

/-- The calls of all callbacks that wait, without an asset. -/
def failAll (s : AssetServer) : AssetServer :=
  { s with
    calls := s.calls ++ (s.pendingTransfers.tickets).map fun t => (t, none)
    pendingTransfers := [], pendingSends := [] }

/-- `tryReconnect`. -/
def tryReconnect (s : AssetServer) : AssetServer :=
  { s with connectionState := .reconnectWait, waits := s.waits + 1 }

/-- `close`. -/
def close (s : AssetServer) (doShutdown : Bool) : AssetServer :=
  if s.connectionState ≠ .disconnected ∧ s.connectionState ≠ .shutdown then
    if doShutdown then failAll { s.closeSocket with connectionState := .shutdown }
    else tryReconnect (failAll { s.closeSocket with connectionState := .disconnected })
  else s

/-- `connect`. -/
def connect (s : AssetServer) : AssetServer :=
  if s.connectionState ≠ .shutdown then
    if s.socketOpen then
      { s with connectionState := .connecting, lateConnects := s.lateConnects + 1 }
    else
      { s with connectionState := .connecting, socketOpen := true, handshake := some .connect }
  else s

/-- `onConnect`, `onRecvChallenge`, `onChallengeResponseWrite` and `onAuthenticationStatus`, each
with its success or failure. -/
def onHandshake (s : AssetServer) (step : Handshake) (ok : Bool) : AssetServer :=
  if ok then
    match step with
    | .connect => { s with handshake := some .recvChallenge }
    | .recvChallenge => { s with handshake := some .challengeResponseWrite }
    | .challengeResponseWrite => { s with handshake := some .authenticationStatus }
    | .authenticationStatus => { s with connectionState := .connected }
  else s.close false

/-- `processNextSendItem`: the server may get the request from now on. -/
def processNextSendItem (s : AssetServer) : AssetServer :=
  { s with writing := s.writing + 1, sent := s.sent ++ s.pendingSends.head?.toList }

/-- `tryProcessNextSendItem`. -/
def tryProcessNextSendItem (s : AssetServer) : AssetServer :=
  if s.pendingSends.length > 0 then s.processNextSendItem else s

/-- `beginResponseHeaderRead`. -/
def beginResponseHeaderRead (s : AssetServer) : AssetServer :=
  { s with reading := s.reading ++ [.header] }

/-- `getAsset`. -/
def getAsset (s : AssetServer) (uuid : Text) : AssetServer :=
  let callBack := s.asked.length
  let s := { s with asked := s.asked ++ [uuid] }
  match Dict.get? s.pendingTransfers uuid with
  | some _ =>
    { s with pendingTransfers := Dict.modify s.pendingTransfers uuid (· ++ [callBack]) }
  | none =>
    let s := { s with pendingSends := s.pendingSends ++ [uuid] }
    let s := if s.pendingSends.length = 1 then s.processNextSendItem else s
    if s.pendingTransfers.length = 0 then
      beginResponseHeaderRead
        { s with pendingTransfers := Dict.add s.pendingTransfers uuid [callBack] }
    else { s with pendingTransfers := Dict.add s.pendingTransfers uuid [callBack] }

/-- `onWriteAssetRequest`. -/
def onWriteAssetRequest (s : AssetServer) (ok : Bool) : AssetServer :=
  if ok then tryProcessNextSendItem { s with pendingSends := s.pendingSends.tail }
  else s.close false

/-- `fireAssetRcvdCallbacks`: the request for the id is answered. -/
def fireAssetRcvdCallbacks (s : AssetServer) (uuid : Text) (asset : Option Bytes) : AssetServer :=
  let s := { s with sent := s.sent.erase uuid }
  match Dict.get? s.pendingTransfers uuid with
  | some callbacks =>
    { s with
      calls := s.calls ++ callbacks.map fun t => (t, asset)
      pendingTransfers := Dict.erase s.pendingTransfers uuid }
  | none => s

/-- `testContinueRecv`. -/
def testContinueRecv (s : AssetServer) : AssetServer :=
  if s.pendingTransfers.length > 0 then s.beginResponseHeaderRead else s

/-- `onReadResponseHeader` without an error. -/
def onReadResponseHeader (s : AssetServer) (h : ResponseHeader) : AssetServer :=
  if h.validateHeader && h.code = ResponseHeader.rcFound then
    { s with reading := s.reading ++ [.data h.uuid h.dataSize] }
  else if !h.validateHeader then s.close false
  else if h.dataSize > 0 then { s with reading := s.reading ++ [.errorData h.uuid h.dataSize] }
  else (s.fireAssetRcvdCallbacks h.uuid none).testContinueRecv

/-- `onReadResponseData` without an error; nothing read counts as one. -/
def onReadResponseData (s : AssetServer) (uuid : Text) (data : Bytes) : AssetServer :=
  if data.length > 0 then
    (fireAssetRcvdCallbacks { s with found := s.found ++ [(uuid, data)] } uuid
      (some data)).testContinueRecv
  else s.close false

/-- `onHandleRequestErrorData` without an error. -/
def onHandleRequestErrorData (s : AssetServer) (uuid : Text) (data : Bytes) : AssetServer :=
  if data.length > 0 then (s.fireAssetRcvdCallbacks uuid none).testContinueRecv
  else s.close false

end AssetServer

/-- A kind of operation on a socket. -/
inductive SocketOp
  | read
  | write
  | connect
  deriving DecidableEq

/-- What happens to the client. -/
inductive AssetEvent
  | connect
  | shutdown
  | getAsset (uuid : Text)
  | waitDone (aborted : Bool)
  | handshakeDone (ok : Bool)
  | lateConnectFails
  | staleFails (op : SocketOp)
  | wrote (ok : Bool)
  | readHeader (h : ResponseHeader)
  | readData (data : Bytes)
  | readError

namespace AssetServer

/-- Nothing is left of the sockets closed before. -/
def NoneStale (s : AssetServer) : Prop :=
  s.staleReads = 0 ∧ s.staleWrites = 0 ∧ s.staleConnects = 0

instance (s : AssetServer) : Decidable s.NoneStale :=
  inferInstanceAs (Decidable (_ ∧ _ ∧ _))

/-- A stale operation completes. -/
def dropStale (s : AssetServer) : SocketOp → Option AssetServer
  | .read => if s.staleReads = 0 then none else some { s with staleReads := s.staleReads - 1 }
  | .write => if s.staleWrites = 0 then none else some { s with staleWrites := s.staleWrites - 1 }
  | .connect =>
    if s.staleConnects = 0 then none else some { s with staleConnects := s.staleConnects - 1 }

/-- The next state of the client, if the event can happen in it: assets are asked for while the
client is connected, and a response with a valid header answers a request that the server has
got. -/
def step (s : AssetServer) : AssetEvent → Option AssetServer
  | .connect => if s.connectionState = .disconnected then some s.connect else none
  | .shutdown => some (s.close true)
  | .getAsset uuid => if s.connectionState = .connected then some (s.getAsset uuid) else none
  | .waitDone aborted =>
    if s.waits = 0 then none
    else if aborted then some { s with waits := s.waits - 1 }
    else if s.NoneStale then some (connect { s with waits := s.waits - 1 })
    else none
  | .handshakeDone ok =>
    match s.handshake with
    | none => none
    | some h => some (onHandshake { s with handshake := none } h ok)
  | .lateConnectFails =>
    if s.lateConnects = 0 then none
    else some (close { s with lateConnects := s.lateConnects - 1 } false)
  | .staleFails op => (s.dropStale op).map fun s => s.close false
  | .wrote ok =>
    if s.writing = 0 then none
    else some (onWriteAssetRequest { s with writing := s.writing - 1 } ok)
  | .readHeader h =>
    match s.reading with
    | .header :: reading =>
      if h.validateHeader = true → h.uuid ∈ s.sent then
        some (onReadResponseHeader { s with reading := reading } h)
      else none
    | _ => none
  | .readData data =>
    match s.reading with
    | .data uuid size :: reading =>
      if data.length = size then
        some (onReadResponseData { s with reading := reading } uuid data)
      else none
    | .errorData uuid size :: reading =>
      if data.length = size then
        some (onHandleRequestErrorData { s with reading := reading } uuid data)
      else none
    | _ => none
  | .readError =>
    match s.reading with
    | [] => none
    | _ :: reading => some (close { s with reading := reading } false)

end AssetServer

/-! ## The callbacks -/

/-- Every callback waits for the id it was passed in with, or was called once: with an asset that
came in a response for that id, or with none. -/
structure Accounts (asked : List Text) (pending : Waiters Text) (found : List (Text × Bytes))
    (calls : List (Nat × Option Bytes)) : Prop where
  ledger : Ledger asked.length pending.tickets (calls.map Prod.fst)
  keys : (Dict.keys pending).Nodup
  own : ∀ p ∈ pending, ∀ t ∈ p.2, asked[t]? = some p.1
  right : ∀ t a, (t, some a) ∈ calls → ∃ uuid, asked[t]? = some uuid ∧ (uuid, a) ∈ found

namespace Accounts

variable {asked : List Text} {pending pending' : Waiters Text} {found : List (Text × Bytes)}
  {calls : List (Nat × Option Bytes)} {uuid : Text}

lemma start : Accounts [] [] [] [] :=
  ⟨Ledger.start, .nil, by simp, by simp⟩

/-- A new callback. -/
lemma ask (h : Accounts asked pending found calls)
    (htickets : pending'.tickets ~ asked.length :: pending.tickets)
    (hkeys : (Dict.keys pending').Nodup)
    (hown : ∀ p ∈ pending', ∀ t ∈ p.2, p.1 = uuid ∧ t = asked.length ∨
      ∃ q ∈ pending, q.1 = p.1 ∧ t ∈ q.2) :
    Accounts (asked ++ [uuid]) pending' found calls := by
  have hold : ∀ {t : Nat} {u : Text}, asked[t]? = some u → (asked ++ [uuid])[t]? = some u := by
    intro t u ht
    rw [List.getElem?_append_left (List.getElem?_eq_some_iff.mp ht).1, ht]
  refine ⟨?_, hkeys, ?_, ?_⟩
  · rw [List.length_append]
    exact h.ledger.issue htickets
  · intro p hp t ht
    rcases hown p hp t ht with ⟨rfl, rfl⟩ | ⟨q, hq, hqp, htq⟩
    · simp
    · exact hold (hqp ▸ h.own q hq t htq)
  · intro t a hta
    obtain ⟨u, hu, hfound⟩ := h.right t a hta
    exact ⟨u, hold hu, hfound⟩

/-- A response for an id. -/
lemma fire (h : Accounts asked pending found calls) {callbacks : List Nat} {asset : Option Bytes}
    (hget : Dict.get? pending uuid = some callbacks)
    (hasset : ∀ a, asset = some a → (uuid, a) ∈ found) :
    Accounts asked (Dict.erase pending uuid) found (calls ++ callbacks.map fun t => (t, asset)) := by
  refine ⟨?_, ?_, ?_, ?_⟩
  · have hcalled : (calls ++ callbacks.map fun t => (t, asset)).map Prod.fst =
        calls.map Prod.fst ++ callbacks := by
      simp [Function.comp_def]
    rw [hcalled]
    exact h.ledger.serve (Waiters.tickets_erase h.keys hget)
  · rw [Dict.keys_erase]
    exact h.keys.filter _
  · exact fun p hp => h.own p (List.mem_of_mem_filter hp)
  · intro t a hta
    rcases List.mem_append.mp hta with hta | hta
    · exact h.right t a hta
    · obtain ⟨t', ht', heq⟩ := List.mem_map.mp hta
      obtain ⟨rfl, rfl⟩ := Prod.mk.injEq .. ▸ heq
      exact ⟨uuid, h.own _ (Dict.mem_of_get? hget) _ ht', hasset a rfl⟩

/-- All callbacks are called without an asset. -/
lemma failAll (h : Accounts asked pending found calls) :
    Accounts asked [] found (calls ++ pending.tickets.map fun t => (t, none)) := by
  refine ⟨?_, .nil, by simp, ?_⟩
  · have hcalled : (calls ++ pending.tickets.map fun t => (t, (none : Option Bytes))).map Prod.fst =
        calls.map Prod.fst ++ pending.tickets := by
      simp [Function.comp_def]
    have hnone : Waiters.tickets ([] : Waiters Text) = [] := rfl
    rw [hcalled, hnone]
    exact h.ledger.serve (by simp)
  · intro t a hta
    rcases List.mem_append.mp hta with hta | hta
    · exact h.right t a hta
    · simp at hta

lemma addFound (h : Accounts asked pending found calls) (p : Text × Bytes) :
    Accounts asked pending (found ++ [p]) calls := by
  refine ⟨h.ledger, h.keys, h.own, fun t a hta => ?_⟩
  obtain ⟨u, hu, hfound⟩ := h.right t a hta
  exact ⟨u, hu, List.mem_append_left _ hfound⟩

end Accounts

/-! ## The queue, the map and the operations -/

/-- The id whose response is being read. -/
def ResponseRead.uuid? : ResponseRead → Option Text
  | header => none
  | data uuid _ | errorData uuid _ => some uuid

namespace AssetServer

/-- Nothing is asked of the server. -/
def Quiet (s : AssetServer) : Prop :=
  s.pendingTransfers = [] ∧ s.pendingSends = [] ∧ s.reading = [] ∧ s.writing = 0 ∧ s.sent = []

/-- The operations outstanding are those that the queue and the map call for. -/
structure Coherent (s : AssetServer) : Prop where
  /-- On a closed socket nothing is outstanding. -/
  closed : s.socketOpen = false → s.Quiet ∧ s.handshake = none ∧ s.lateConnects = 0
  /-- On an open one nothing is stale. -/
  stale : s.socketOpen = true ∨ s.connectionState = .disconnected → s.NoneStale
  staleOne : s.staleReads ≤ 1 ∧ s.staleWrites ≤ 1
  /-- During the handshake nothing is asked. -/
  setup : s.handshake ≠ none → s.Quiet
  inUse : s.socketOpen = true → s.connectionState = .connecting ∨ s.connectionState = .connected
  connected : s.connectionState = .connected → s.socketOpen = true ∧ s.handshake = none
  /-- The front of the queue is being written. -/
  writing : s.writing = if s.pendingSends = [] then 0 else 1
  /-- A response is being read exactly when a callback waits. -/
  reading : s.reading.length = if s.pendingTransfers = [] then 0 else 1
  readingSent : ∀ r ∈ s.reading, ∀ uuid ∈ r.uuid?, uuid ∈ s.sent
  /-- For every id that is waited for there is one request, with the server or in the queue. -/
  inFlight : Dict.keys s.pendingTransfers ~ s.sent ++ s.pendingSends.tail

section Coherence

variable {s : AssetServer}

lemma Coherent.new : Coherent new := by
  constructor <;> simp [AssetServer.new, Quiet, NoneStale, Dict.keys]

lemma Coherent.reads_le (h : Coherent s) : s.reads ≤ 1 := by
  cases hopen : s.socketOpen with
  | false =>
    obtain ⟨⟨-, -, hreading, -⟩, hhandshake, -⟩ := h.closed hopen
    simpa [reads, hreading, hhandshake, Handshake.reads] using h.staleOne.1
  | true =>
    have hstale := (h.stale (.inl hopen)).1
    cases hh : s.handshake with
    | none =>
      have hreading := h.reading
      simp only [reads, hh, Handshake.reads, hstale, hreading]
      split <;> simp
    | some step =>
      have hquiet := h.setup (by simp [hh])
      simp only [reads, hh, hstale, hquiet.2.2.1]
      cases step <;> simp [Handshake.reads]

lemma Coherent.writes_le (h : Coherent s) : s.writes ≤ 1 := by
  cases hopen : s.socketOpen with
  | false =>
    obtain ⟨⟨-, -, -, hwriting, -⟩, hhandshake, -⟩ := h.closed hopen
    simpa [writes, hwriting, hhandshake, Handshake.writes] using h.staleOne.2
  | true =>
    have hstale := (h.stale (.inl hopen)).2.1
    cases hh : s.handshake with
    | none =>
      have hwriting := h.writing
      simp only [writes, hh, Handshake.writes, hstale, hwriting]
      split <;> simp
    | some step =>
      have hquiet := h.setup (by simp [hh])
      simp only [writes, hh, hstale, hquiet.2.2.2.1]
      cases step <;> simp [Handshake.writes]

/-- Closing the connection leaves nothing but stale operations. -/
lemma coherent_close (hreads : s.reads ≤ 1) (hwrites : s.writes ≤ 1)
    (hs : s.connectionState = .disconnected ∨ s.connectionState = .shutdown → Coherent s)
    (doShutdown : Bool) : Coherent (s.close doShutdown) := by
  unfold close
  split
  · split
    · constructor <;>
        simp [failAll, closeSocket, Quiet, NoneStale, Dict.keys, hreads, hwrites]
    · constructor <;>
        simp [tryReconnect, failAll, closeSocket, Quiet, NoneStale, Dict.keys, hreads, hwrites]
  · rename_i hnot
    refine hs ?_
    by_contra h
    exact hnot (not_or.mp h)

lemma Coherent.close (h : Coherent s) (doShutdown : Bool) : Coherent (s.close doShutdown) :=
  coherent_close h.reads_le h.writes_le (fun _ => h) doShutdown

/-- A connection attempt. -/
lemma Coherent.connect (h : Coherent s) (hstale : s.NoneStale) : Coherent s.connect := by
  unfold AssetServer.connect
  split
  · split
    · rename_i hopen
      exact { h with
        stale := fun _ => hstale
        inUse := fun _ => .inl rfl
        connected := by simp
        closed := by simp [hopen] }
    · rename_i hclosed
      obtain ⟨hquiet, -, hlate⟩ := h.closed (Bool.eq_false_of_not_eq_true hclosed)
      exact { h with
        stale := fun _ => hstale
        closed := by simp
        setup := fun _ => hquiet
        inUse := fun _ => .inl rfl
        connected := by simp }
  · exact h

lemma Coherent.open_of_ne (h : Coherent s)
    (hne : ¬ (s.Quiet ∧ s.handshake = none ∧ s.lateConnects = 0)) :
    s.socketOpen = true := by
  by_contra hclosed
  exact hne (h.closed (Bool.eq_false_of_not_eq_true hclosed))

lemma Coherent.not_idle (h : Coherent s) (hopen : s.socketOpen = true) :
    ¬ (s.connectionState = .disconnected ∨ s.connectionState = .shutdown) := by
  rcases h.inUse hopen with hstate | hstate <;> simp [hstate]

lemma Coherent.onHandshake {step : Handshake} (h : Coherent s) (hs : s.handshake = some step)
    (ok : Bool) : Coherent (onHandshake { s with handshake := none } step ok) := by
  have hquiet := h.setup (by simp [hs])
  have hopen : s.socketOpen = true := h.open_of_ne (by simp [hs])
  unfold AssetServer.onHandshake
  split
  · cases step with
    | connect | recvChallenge | challengeResponseWrite =>
      have hconnecting : s.connectionState ≠ .connected := by
        intro hc
        simp [(h.connected hc).2] at hs
      exact { h with
        closed := by simp [hopen]
        setup := fun _ => hquiet
        connected := fun hc => absurd hc hconnecting }
    | authenticationStatus =>
      exact { h with
        closed := by simp [hopen]
        stale := fun _ => h.stale (.inl hopen)
        setup := fun _ => hquiet
        inUse := fun _ => .inr rfl
        connected := fun _ => ⟨hopen, rfl⟩ }
  · refine coherent_close (s := { s with handshake := none }) ?_ ?_
      (fun hidle => absurd hidle (h.not_idle hopen)) false
    · exact le_trans (by simp [reads, Handshake.reads]) h.reads_le
    · exact le_trans (by simp [writes, Handshake.writes]) h.writes_le

lemma Coherent.dropStale {s' : AssetServer} {op : SocketOp} (h : Coherent s)
    (hs : s.dropStale op = some s') : Coherent s' := by
  obtain ⟨hreads, hwrites⟩ := h.staleOne
  cases op with
  | read =>
    simp only [AssetServer.dropStale] at hs
    split at hs
    · cases hs
    · obtain rfl := Option.some.inj hs
      exact { h with
        stale := fun hn => ⟨by simp [(h.stale hn).1], (h.stale hn).2⟩
        staleOne := ⟨(Nat.sub_le _ _).trans hreads, hwrites⟩ }
  | write =>
    simp only [AssetServer.dropStale] at hs
    split at hs
    · cases hs
    · obtain rfl := Option.some.inj hs
      exact { h with
        stale := fun hn => ⟨(h.stale hn).1, by simp [(h.stale hn).2.1], (h.stale hn).2.2⟩
        staleOne := ⟨hreads, (Nat.sub_le _ _).trans hwrites⟩ }
  | connect =>
    simp only [AssetServer.dropStale] at hs
    split at hs
    · cases hs
    · obtain rfl := Option.some.inj hs
      exact { h with
        stale := fun hn => ⟨(h.stale hn).1, (h.stale hn).2.1, by simp [(h.stale hn).2.2]⟩ }

/-- The next request of the queue is sent. -/
lemma Coherent.tryProcessNextSendItem (h : Coherent s) (hwriting : s.writing ≠ 0) :
    Coherent (tryProcessNextSendItem
      { s with writing := s.writing - 1, pendingSends := s.pendingSends.tail }) := by
  have hopen : s.socketOpen = true := h.open_of_ne (by simp [Quiet, hwriting])
  have hhandshake : s.handshake = none := by
    by_contra hne
    exact hwriting (h.setup hne).2.2.2.1
  have hone : s.writing = 1 := by
    have := h.writing
    split at this
    · exact absurd this hwriting
    · exact this
  unfold AssetServer.tryProcessNextSendItem
  split
  · rename_i hlen
    obtain ⟨uuid, rest, htail⟩ := List.exists_cons_of_length_pos hlen
    dsimp only at htail
    have hinFlight := h.inFlight
    rw [htail] at hinFlight
    exact { h with
      closed := by simp [processNextSendItem, hopen]
      setup := by simp [processNextSendItem, hhandshake]
      writing := by simp [processNextSendItem, hone, htail]
      readingSent := fun r hr uuid hu => List.mem_append_left _ (h.readingSent r hr uuid hu)
      inFlight := by simpa [processNextSendItem, htail] using hinFlight }
  · rename_i hlen
    have htail : s.pendingSends.tail = [] :=
      List.length_eq_zero_iff.mp (Nat.le_zero.mp (Nat.not_lt.mp hlen))
    exact { h with
      closed := by simp [hopen]
      setup := by simp [hhandshake]
      writing := by simp [hone, htail]
      inFlight := by simpa [htail] using h.inFlight }

variable {r : ResponseRead} {rest : List ResponseRead}

/-- The connection is in use when a response is being read. -/
lemma Coherent.of_reading (h : Coherent s) (hr : s.reading = r :: rest) :
    s.socketOpen = true ∧ s.handshake = none ∧ rest = [] ∧ s.pendingTransfers ≠ [] := by
  have hlen := h.reading
  rw [hr, List.length_cons] at hlen
  split at hlen
  · omega
  · rename_i hne
    refine ⟨h.open_of_ne (by simp [Quiet, hr]), ?_, List.length_eq_zero_iff.mp (by omega), hne⟩
    by_contra hhandshake
    simp [(h.setup hhandshake).2.2.1] at hr

/-- The requests with the server or in the queue are for different ids. -/
lemma Coherent.sent_nodup (h : Coherent s) (hkeys : (Dict.keys s.pendingTransfers).Nodup) :
    (s.sent ++ s.pendingSends.tail).Nodup :=
  h.inFlight.nodup_iff.mp hkeys

variable {uuid : Text}

lemma inFlight_erase {keys sent queued : List Text} (hkeys : keys.Nodup) (h : keys ~ sent ++ queued)
    (hsent : uuid ∈ sent) :
    (keys.filter fun k => decide (k ≠ uuid)) ~ sent.erase uuid ++ queued := by
  have hnodup := h.nodup_iff.mp hkeys
  have hnot : uuid ∉ queued := fun hq => (List.nodup_append.mp hnodup).2.2 _ hsent _ hq rfl
  have hsame : queued.filter (fun k => decide (k ≠ uuid)) = queued := by
    refine List.filter_eq_self.mpr fun k hk => ?_
    have hne : k ≠ uuid := fun heq => hnot (heq ▸ hk)
    simpa using hne
  have herase : sent.erase uuid = sent.filter fun k => decide (k ≠ uuid) := by
    rw [(List.nodup_append.mp hnodup).1.erase_eq_filter]
    refine List.filter_congr fun k _ => ?_
    by_cases hk : k = uuid <;> simp [hk]
  have hfilter := h.filter fun k => decide (k ≠ uuid)
  rwa [List.filter_append, hsame, ← herase] at hfilter

/-- A response to a request is handed to the callbacks, and the next one is read if any are
left. -/
lemma Coherent.respond (h : Coherent s) (hkeys : (Dict.keys s.pendingTransfers).Nodup)
    (hr : s.reading = r :: rest) (hsent : uuid ∈ s.sent) (asset : Option Bytes)
    (found : List (Text × Bytes)) :
    Coherent (testContinueRecv (fireAssetRcvdCallbacks { s with reading := rest, found := found }
      uuid asset)) := by
  obtain ⟨hopen, hhandshake, rfl, hne⟩ := h.of_reading hr
  have hmem : uuid ∈ Dict.keys s.pendingTransfers :=
    h.inFlight.mem_iff.mpr (List.mem_append_left _ hsent)
  obtain ⟨callbacks, hget⟩ : ∃ callbacks, Dict.get? s.pendingTransfers uuid = some callbacks := by
    refine Option.ne_none_iff_exists'.mp fun hnone => ?_
    exact Dict.get?_eq_none_iff.mp hnone hmem
  have hinFlight : Dict.keys (Dict.erase s.pendingTransfers uuid) ~
      s.sent.erase uuid ++ s.pendingSends.tail := by
    rw [Dict.keys_erase]
    exact inFlight_erase hkeys h.inFlight hsent
  simp only [fireAssetRcvdCallbacks, hget]
  unfold testContinueRecv
  split
  · rename_i hlen
    have hleft : Dict.erase s.pendingTransfers uuid ≠ [] := List.length_pos_iff.mp hlen
    exact { h with
      closed := by simp [beginResponseHeaderRead, hopen]
      setup := by simp [beginResponseHeaderRead, hhandshake]
      reading := by simp [beginResponseHeaderRead, hleft]
      readingSent := by simp [beginResponseHeaderRead, ResponseRead.uuid?]
      inFlight := hinFlight }
  · rename_i hlen
    have hleft : Dict.erase s.pendingTransfers uuid = [] :=
      List.length_eq_zero_iff.mp (Nat.le_zero.mp (Nat.not_lt.mp hlen))
    exact { h with
      closed := by simp [hopen]
      setup := by simp [hhandshake]
      reading := by simp [hleft]
      readingSent := by simp
      inFlight := hinFlight }

/-- The rest of a response is read. -/
lemma Coherent.readOn {r' : ResponseRead} (h : Coherent s) (hr : s.reading = r :: rest)
    (hsent : ∀ uuid ∈ r'.uuid?, uuid ∈ s.sent) :
    Coherent { s with reading := rest ++ [r'] } := by
  obtain ⟨hopen, hhandshake, rfl, hne⟩ := h.of_reading hr
  exact { h with
    closed := by simp [hopen]
    setup := by simp [hhandshake]
    reading := by simp [hne]
    readingSent := by simpa using hsent }

/-- A read fails. -/
lemma Coherent.closeReading (h : Coherent s) (hr : s.reading = r :: rest) :
    Coherent (AssetServer.close { s with reading := rest } false) := by
  obtain ⟨hopen, -, rfl, -⟩ := h.of_reading hr
  refine coherent_close (s := { s with reading := [] }) ?_ h.writes_le
    (fun hidle => absurd hidle (h.not_idle hopen)) false
  exact le_trans (by simp [reads, hr]) h.reads_le

/-- A request for an id that nobody waits for is queued; it is sent at once if the queue was empty,
and a response is awaited from now on if none was. -/
lemma getAsset_eq (hget : Dict.get? s.pendingTransfers uuid = none) :
    s.getAsset uuid = { s with
      asked := s.asked ++ [uuid]
      pendingSends := s.pendingSends ++ [uuid]
      pendingTransfers := Dict.add s.pendingTransfers uuid [s.asked.length]
      writing := if s.pendingSends = [] then s.writing + 1 else s.writing
      sent := if s.pendingSends = [] then s.sent ++ [uuid] else s.sent
      reading := if s.pendingTransfers = [] then s.reading ++ [.header] else s.reading } := by
  unfold AssetServer.getAsset
  dsimp only
  rw [hget]
  by_cases hsends : s.pendingSends = [] <;> by_cases htransfers : s.pendingTransfers = [] <;>
    simp [processNextSendItem, beginResponseHeaderRead, hsends, htransfers]

lemma Coherent.getAsset (h : Coherent s) (hconnected : s.connectionState = .connected)
    (uuid : Text) : Coherent (s.getAsset uuid) := by
  obtain ⟨hopen, hhandshake⟩ := h.connected hconnected
  cases hget : Dict.get? s.pendingTransfers uuid with
  | some callbacks =>
    -- the id is already asked for
    have heq : s.getAsset uuid = { s with
        asked := s.asked ++ [uuid]
        pendingTransfers := Dict.modify s.pendingTransfers uuid (· ++ [s.asked.length]) } := by
      unfold AssetServer.getAsset
      dsimp only
      rw [hget]
    have hne : s.pendingTransfers ≠ [] := by
      rintro hnil
      simp [hnil] at hget
    have hne' : Dict.modify s.pendingTransfers uuid (· ++ [s.asked.length]) ≠ [] := by
      simpa [Dict.modify] using hne
    rw [heq]
    exact { h with
      closed := by simp [hopen]
      setup := by simp [hhandshake]
      reading := by simpa [hne, hne'] using h.reading
      inFlight := by simpa [Dict.keys_modify] using h.inFlight }
  | none =>
    rw [getAsset_eq hget]
    have hwriting := h.writing
    have hreading := h.reading
    have hinFlight := h.inFlight
    have hadd : Dict.add s.pendingTransfers uuid [s.asked.length] ≠ [] := by simp [Dict.add]
    exact { h with
      closed := by simp [hopen]
      setup := by simp [hhandshake]
      writing := by
        by_cases hsends : s.pendingSends = [] <;> simp_all
      reading := by
        by_cases htransfers : s.pendingTransfers = [] <;> simp_all
      readingSent := by
        intro r hr uuid' huuid
        have hold : r ∈ s.reading → uuid' ∈ s.sent := fun hr => h.readingSent r hr uuid' huuid
        dsimp only at hr ⊢
        split at hr
        · rcases List.mem_append.mp hr with hr | hr
          · split
            · exact List.mem_append_left _ (hold hr)
            · exact hold hr
          · obtain rfl := List.mem_singleton.mp hr
            cases huuid
        · split
          · exact List.mem_append_left _ (hold hr)
          · exact hold hr
      inFlight := by
        rw [Dict.keys_add]
        cases hsends : s.pendingSends with
        | nil => simpa [hsends] using hinFlight.append_right [uuid]
        | cons q qs => simpa [hsends] using hinFlight.append_right [uuid] }

end Coherence

/-! ## Every step -/

section Steps

variable {s s' : AssetServer} {e : AssetEvent}

/-- The callbacks of the client are accounted for. -/
def Accounted (s : AssetServer) : Prop := Accounts s.asked s.pendingTransfers s.found s.calls

lemma Accounted.close (h : Accounted s) (doShutdown : Bool) : Accounted (s.close doShutdown) := by
  unfold AssetServer.close
  split
  · split
    · exact h.failAll
    · exact h.failAll
  · exact h

lemma Accounted.connect (h : Accounted s) : Accounted s.connect := by
  unfold AssetServer.connect
  split
  · split
    · exact h
    · exact h
  · exact h

lemma Accounted.onHandshake (h : Accounted s) (step : Handshake) (ok : Bool) :
    Accounted (s.onHandshake step ok) := by
  unfold AssetServer.onHandshake
  split
  · cases step <;> exact h
  · exact h.close false

lemma Accounted.onWriteAssetRequest (h : Accounted s) (ok : Bool) :
    Accounted (s.onWriteAssetRequest ok) := by
  unfold AssetServer.onWriteAssetRequest AssetServer.tryProcessNextSendItem
  split
  · split
    · exact h
    · exact h
  · exact h.close false

variable {uuid : Text}

lemma Accounted.respond (h : Accounted s) {asset : Option Bytes}
    (hasset : ∀ a, asset = some a → (uuid, a) ∈ s.found) :
    Accounted (testContinueRecv (s.fireAssetRcvdCallbacks uuid asset)) := by
  have hfire : Accounted (s.fireAssetRcvdCallbacks uuid asset) := by
    unfold fireAssetRcvdCallbacks
    dsimp only
    split
    · rename_i callbacks hget
      exact Accounts.fire h hget hasset
    · exact h
  unfold testContinueRecv
  split
  · exact hfire
  · exact hfire

lemma Accounted.getAsset (h : Accounted s) (uuid : Text) : Accounted (s.getAsset uuid) := by
  cases hget : Dict.get? s.pendingTransfers uuid with
  | some callbacks =>
    have heq : Accounted (s.getAsset uuid) = Accounts (s.asked ++ [uuid])
        (Dict.modify s.pendingTransfers uuid (· ++ [s.asked.length])) s.found s.calls := by
      unfold AssetServer.getAsset
      dsimp only
      rw [hget]
      rfl
    rw [heq]
    refine Accounts.ask h (Waiters.tickets_join h.keys hget) ?_ ?_
    · rw [Dict.keys_modify]
      exact h.keys
    · intro p hp t ht
      rcases Dict.mem_modify hp with ⟨ts, rfl, hts⟩ | hp
      · rcases List.mem_append.mp ht with ht | ht
        · exact .inr ⟨(uuid, ts), hts, rfl, ht⟩
        · exact .inl ⟨rfl, List.mem_singleton.mp ht⟩
      · exact .inr ⟨p, hp, rfl, ht⟩
  | none =>
    have hnew := Dict.get?_eq_none_iff.mp hget
    rw [getAsset_eq hget]
    refine Accounts.ask h Waiters.tickets_add ?_ ?_
    · rw [Dict.keys_add]
      exact List.Nodup.append h.keys (List.nodup_singleton _) (by simpa using hnew)
    · intro p hp t ht
      rcases List.mem_append.mp hp with hp | hp
      · exact .inr ⟨p, hp, rfl, ht⟩
      · obtain rfl := List.mem_singleton.mp hp
        exact .inl ⟨rfl, List.mem_singleton.mp ht⟩

/-- The invariant of the client. -/
structure Inv (s : AssetServer) : Prop where
  coherent : Coherent s
  accounted : Accounted s

lemma Inv.new : Inv new := ⟨.new, Accounts.start⟩

variable {rest : List ResponseRead}

lemma Inv.onReadResponseHeader {h : ResponseHeader} (hs : Inv s) (hr : s.reading = .header :: rest)
    (hsent : h.validateHeader = true → h.uuid ∈ s.sent) :
    Inv (onReadResponseHeader { s with reading := rest } h) := by
  have ha : Accounted { s with reading := rest } := hs.accounted
  unfold AssetServer.onReadResponseHeader
  split
  · rename_i hfound
    have hvalid : h.validateHeader = true := (Bool.and_eq_true_iff.mp hfound).1
    refine ⟨hs.coherent.readOn hr fun uuid huuid => ?_, hs.accounted⟩
    cases huuid
    exact hsent hvalid
  · split
    · exact ⟨hs.coherent.closeReading hr, ha.close false⟩
    · rename_i hvalid
      have hvalid : h.validateHeader = true := by simpa using hvalid
      split
      · refine ⟨hs.coherent.readOn hr fun uuid huuid => ?_, hs.accounted⟩
        cases huuid
        exact hsent hvalid
      · exact ⟨hs.coherent.respond ha.keys hr (hsent hvalid) none s.found, ha.respond (by simp)⟩

lemma Inv.onReadResponseData {size : Nat} {data : Bytes} (hs : Inv s)
    (hr : s.reading = .data uuid size :: rest) :
    Inv (onReadResponseData { s with reading := rest } uuid data) := by
  have ha : Accounted { s with reading := rest } := hs.accounted
  have hsent : uuid ∈ s.sent :=
    hs.coherent.readingSent (.data uuid size) (hr ▸ List.mem_cons_self) uuid rfl
  unfold AssetServer.onReadResponseData
  split
  · refine ⟨hs.coherent.respond ha.keys hr hsent _ _, Accounted.respond ?_ ?_⟩
    · exact Accounts.addFound ha _
    · intro a hdata
      obtain rfl := Option.some.inj hdata
      exact List.mem_append_right _ List.mem_cons_self
  · exact ⟨hs.coherent.closeReading hr, ha.close false⟩

lemma Inv.onHandleRequestErrorData {size : Nat} {data : Bytes} (hs : Inv s)
    (hr : s.reading = .errorData uuid size :: rest) :
    Inv (onHandleRequestErrorData { s with reading := rest } uuid data) := by
  have ha : Accounted { s with reading := rest } := hs.accounted
  have hsent : uuid ∈ s.sent :=
    hs.coherent.readingSent (.errorData uuid size) (hr ▸ List.mem_cons_self) uuid rfl
  unfold AssetServer.onHandleRequestErrorData
  split
  · exact ⟨hs.coherent.respond ha.keys hr hsent none s.found, ha.respond (by simp)⟩
  · exact ⟨hs.coherent.closeReading hr, ha.close false⟩

lemma Inv.step (hs : Inv s) (h : s.step e = some s') : Inv s' := by
  obtain ⟨hc, ha⟩ := hs
  cases e with
  | connect =>
    simp only [AssetServer.step] at h
    split at h
    · rename_i hstate
      obtain rfl := Option.some.inj h
      exact ⟨hc.connect (hc.stale (.inr hstate)), ha.connect⟩
    · cases h
  | shutdown =>
    obtain rfl := Option.some.inj h
    exact ⟨hc.close true, ha.close true⟩
  | getAsset uuid =>
    simp only [AssetServer.step] at h
    split at h
    · rename_i hstate
      obtain rfl := Option.some.inj h
      exact ⟨hc.getAsset hstate uuid, ha.getAsset uuid⟩
    · cases h
  | waitDone aborted =>
    simp only [AssetServer.step] at h
    split at h
    · cases h
    · split at h
      · obtain rfl := Option.some.inj h
        exact ⟨{ hc with }, ha⟩
      · split at h
        · rename_i hstale
          obtain rfl := Option.some.inj h
          have hc' : Coherent { s with waits := s.waits - 1 } := { hc with }
          have ha' : Accounted { s with waits := s.waits - 1 } := ha
          exact ⟨hc'.connect hstale, ha'.connect⟩
        · cases h
  | handshakeDone ok =>
    simp only [AssetServer.step] at h
    split at h
    · cases h
    · rename_i step hstep
      obtain rfl := Option.some.inj h
      have ha' : Accounted { s with handshake := none } := ha
      exact ⟨hc.onHandshake hstep ok, ha'.onHandshake step ok⟩
  | lateConnectFails =>
    simp only [AssetServer.step] at h
    split at h
    · cases h
    · rename_i hlate
      obtain rfl := Option.some.inj h
      have hopen : s.socketOpen = true := hc.open_of_ne fun hclosed => hlate hclosed.2.2
      have ha' : Accounted { s with lateConnects := s.lateConnects - 1 } := ha
      refine ⟨?_, ha'.close false⟩
      exact coherent_close (s := { s with lateConnects := s.lateConnects - 1 }) hc.reads_le
        hc.writes_le (fun hidle => absurd hidle (hc.not_idle hopen)) false
  | staleFails op =>
    obtain ⟨s₁, hdrop, rfl⟩ := Option.map_eq_some_iff.mp h
    have ha' : Accounted s₁ := by
      unfold dropStale at hdrop
      split at hdrop <;> split at hdrop <;> cases hdrop <;> exact ha
    exact ⟨(hc.dropStale hdrop).close false, ha'.close false⟩
  | wrote ok =>
    simp only [AssetServer.step] at h
    split at h
    · cases h
    · rename_i hwriting
      obtain rfl := Option.some.inj h
      have ha' : Accounted { s with writing := s.writing - 1 } := ha
      refine ⟨?_, ha'.onWriteAssetRequest ok⟩
      unfold onWriteAssetRequest
      split
      · exact hc.tryProcessNextSendItem hwriting
      · have hopen : s.socketOpen = true := hc.open_of_ne (by simp [Quiet, hwriting])
        refine coherent_close (s := { s with writing := s.writing - 1 }) hc.reads_le ?_
          (fun hidle => absurd hidle (hc.not_idle hopen)) false
        exact le_trans (by simp [writes]) hc.writes_le
  | readHeader header =>
    simp only [AssetServer.step] at h
    split at h
    · rename_i rest hr
      split at h
      · rename_i hsent
        obtain rfl := Option.some.inj h
        exact Inv.onReadResponseHeader ⟨hc, ha⟩ hr hsent
      · cases h
    · cases h
  | readData data =>
    simp only [AssetServer.step] at h
    split at h
    · rename_i hr
      split at h
      · obtain rfl := Option.some.inj h
        exact Inv.onReadResponseData ⟨hc, ha⟩ hr
      · cases h
    · rename_i hr
      split at h
      · obtain rfl := Option.some.inj h
        exact Inv.onHandleRequestErrorData ⟨hc, ha⟩ hr
      · cases h
    · cases h
  | readError =>
    simp only [AssetServer.step] at h
    split at h
    · cases h
    · rename_i rest hr
      obtain rfl := Option.some.inj h
      have ha' : Accounted { s with reading := rest } := ha
      exact ⟨hc.closeReading hr, ha'.close false⟩

end Steps

/-- Every get is answered exactly once. -/
structure AnswersOnce (s : AssetServer) : Prop where
  /-- A callback that was passed in has been called once or waits. -/
  once : ∀ t < s.asked.length,
    (s.calls.map Prod.fst).count t + s.pendingTransfers.tickets.count t = 1
  /-- No other callback is called. -/
  onlyAsked : ∀ t ∈ s.calls.map Prod.fst, t < s.asked.length
  /-- A callback that is called with an asset gets one that was sent for the id it asked for. -/
  right : ∀ t a, (t, some a) ∈ s.calls → ∃ uuid, s.asked[t]? = some uuid ∧ (uuid, a) ∈ s.found
  /-- While an id is waited for, a response is being read, and the server has the request for it or
  the request is in the queue behind one that is being written. -/
  awaited : ∀ uuid ∈ Dict.keys s.pendingTransfers, s.reads = 1 ∧
    (uuid ∈ s.sent ∨ uuid ∈ s.pendingSends.tail ∧ s.writes = 1)
  /-- Without a connection nothing waits. -/
  settled : s.socketOpen = false → s.pendingTransfers = []
  oneRead : s.reads ≤ 1
  oneWrite : s.writes ≤ 1
  /-- While connected, a read is outstanding exactly when answers are awaited. -/
  readIff : s.connectionState = .connected → (s.reads = 1 ↔ s.pendingTransfers ≠ [])
  /-- The requests that the server has and those still to be sent are for different ids. -/
  onePerId : (s.sent ++ s.pendingSends.tail).Nodup

section Answers

variable {s : AssetServer}

lemma Coherent.reads_eq_one (h : Coherent s) (hne : s.pendingTransfers ≠ []) : s.reads = 1 := by
  have hreading := h.reading
  rw [if_neg hne] at hreading
  have hle := h.reads_le
  unfold reads at hle ⊢
  omega

lemma Coherent.writes_eq_one (h : Coherent s) (hne : s.pendingSends ≠ []) : s.writes = 1 := by
  have hwriting := h.writing
  rw [if_neg hne] at hwriting
  have hle := h.writes_le
  unfold writes at hle ⊢
  omega

lemma Coherent.readIff (h : Coherent s) (hconnected : s.connectionState = .connected) :
    s.reads = 1 ↔ s.pendingTransfers ≠ [] := by
  refine ⟨fun hone hnil => ?_, h.reads_eq_one⟩
  obtain ⟨hopen, hhandshake⟩ := h.connected hconnected
  have hreading := h.reading
  rw [if_pos hnil] at hreading
  simp [reads, hreading, hhandshake, Handshake.reads, (h.stale (.inl hopen)).1] at hone

lemma Inv.answersOnce (h : Inv s) : AnswersOnce s where
  once t ht := by
    rw [Nat.add_comm]
    exact h.accounted.ledger.count ht
  onlyAsked t ht := h.accounted.ledger.lt_of_mem_served ht
  right := h.accounted.right
  awaited uuid huuid := by
    have hne : s.pendingTransfers ≠ [] := by
      rintro hnil
      simp [hnil, Dict.keys] at huuid
    refine ⟨h.coherent.reads_eq_one hne, ?_⟩
    rcases List.mem_append.mp (h.coherent.inFlight.mem_iff.mp huuid) with hsent | hqueued
    · exact .inl hsent
    · refine .inr ⟨hqueued, h.coherent.writes_eq_one ?_⟩
      rintro hnil
      simp [hnil] at hqueued
  settled hclosed := (h.coherent.closed hclosed).1.1
  oneRead := h.coherent.reads_le
  oneWrite := h.coherent.writes_le
  readIff := h.coherent.readIff
  onePerId := h.coherent.sent_nodup h.accounted.keys

/-- **Every get is answered exactly once**, in every run of the client. -/
theorem run_answersOnce {events : List AssetEvent} (hrun : run step new events = some s) :
    AnswersOnce s :=
  (invariant (fun _ _ _ hs h => Inv.step hs h) hrun Inv.new).answersOnce

/-- Two gets for one asset and one for another: the asset comes, and then the connection breaks. -/
def sampleRun : List AssetEvent :=
  [.connect, .handshakeDone true, .handshakeDone true, .handshakeDone true, .handshakeDone true,
    .getAsset ['a'], .getAsset ['a'], .getAsset ['b'], .wrote true, .readHeader ⟨10, ['a'], 1⟩,
    .readData [7], .readError, .staleFails .write, .waitDone true, .waitDone false]

theorem run_answersOnce_sample : ∃ s, run step new sampleRun = some s ∧
    s.calls = [(0, some [7]), (1, some [7]), (2, none)] ∧ AnswersOnce s := by
  obtain ⟨s, hs, hcalls⟩ : ∃ s, run step new sampleRun = some s ∧
      s.calls = [(0, some [7]), (1, some [7]), (2, none)] := ⟨_, rfl, rfl⟩
  exact ⟨s, hs, hcalls, run_answersOnce hs⟩

end Answers

end AssetServer

end Halcyon.Aperture
