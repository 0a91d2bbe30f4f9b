import Halcyon.Whip.Answered
import Halcyon.Whip.QueryClient

/-!
# Who may use a server of the mesh

A connection to the asset service starts as a `CSUnauthenticated`: a random phrase is sent, the
response has to hash the phrase with the password of the server, and only then does a
`CSAuthenticated` read requests.  The first byte of the response tells a server from a client, and
for a connection of a server a get that fails is not passed on to the mesh.

The query service of the mesh does not ask for a challenge response.  It takes connections from
the addresses of the configured peers, and looks up in the index of the storage whether there is
an asset.  This is the one operation that is performed without authentication.

A network has any number of servers, named by `ι`.  A connection is opened by a server, as a
`MeshServer` or a `RemoteAssetService`, or by anybody else (`opener` is `none`); what the others
send is arbitrary.  `performed` records the operations of the storage and the mesh.
-/

namespace Halcyon.Whip

open Halcyon.Lib Halcyon.Lib.Transition

namespace AuthResponseMsg

/-- `PACKET_IDENTIFIER`. -/
def packetIdentifier : UInt8 := 0

/-- `SERVER_IDENTIFIER`. -/
def serverIdentifier : UInt8 := 100

/-- `RESPONSE_SIZE`. -/
def responseSize : Nat := 40

/-- `MESSAGE_SIZE`. -/
def messageSize : Nat := 41

def getChallengeResponse (data : Bytes) : Bytes :=
  (data.drop 1).take responseSize

def isServerResponse (data : Bytes) : Bool :=
  data.head? == some serverIdentifier

variable (sha1 : Bytes → Bytes) (phrase password : Bytes)

def calculateChallengeResponse : Bytes :=
  sha1 (password ++ phrase)

/-- The constructor for the response of a server. -/
def ofServer : Bytes :=
  serverIdentifier :: calculateChallengeResponse sha1 phrase password

def isValid (data : Bytes) : Bool :=
  if data.head? ≠ some packetIdentifier ∧ data.head? ≠ some serverIdentifier then false
  else calculateChallengeResponse sha1 phrase password == getChallengeResponse data

end AuthResponseMsg

/-! ## The operations of a request -/

/-- An operation of the storage or of the mesh: one that answers with a callback, or a call. -/
inductive Operation
  | started (op : Outstanding)
  | assetExists
  | beginPurgeLocals
  deriving DecidableEq

/-- The operation is one of the storage or of the mesh. -/
def Outstanding.atServer : Outstanding → Bool
  | readHeader | readData _ | writeHeader _ | writeData _ => false
  | _ => true

/-- The calls of the storage that return at once. -/
def CSAuthenticated.calls : Completion → List Operation
  | .headerRead header _ =>
    match getType header with
    | some .test => if isValidUUID (getUUID header) then [.assetExists] else []
    | some .maintPurgeLocals => [.beginPurgeLocals]
    | _ => []
  | _ => []

/-- The operations that the handler of a completed operation performs. -/
def CSAuthenticated.performs (s : CSAuthenticated) (c : Completion) : List Operation :=
  (({ s with pending := [] }.handler c).pending.filter Outstanding.atServer).map .started ++
    calls c

/-- `processIntrameshMessage` asks the storage. -/
def IntraMeshQueryClient.performs : IntraMeshQueryClient.Event → List Operation
  | .received (some inboundMsg) _ =>
    if IntraMeshMsg.validate inboundMsg ∧
        IntraMeshMsg.getRequestType inboundMsg = some .meshQuery then [.assetExists]
    else []
  | _ => []

/-! ## A connection -/

/-- The settings of the servers. -/
structure Settings (ι : Type) where
  password : ι → Bytes
  cacheEnabled : ι → Bool
  intraMeshPeers : ι → List ι
  sha1 : Bytes → Bytes

/-- What a connection is: a `CSUnauthenticated` that waits for the end of an operation, a
`CSAuthenticated` with the response that has been accepted, or a client of the query service. -/
inductive ConnectionState
  | writeChallenge
  | readChallengeResponse
  | writeAuthSuccess (response : Bytes) (isMeshConnection : Bool)
  | writeAuthFailure
  | disconnected
  | authenticated (response : Bytes) (s : CSAuthenticated)
  | query (s : IntraMeshQueryClient)

structure Connection (ι : Type) where
  server : ι
  opener : Option ι
  /-- The phrase of the challenge. -/
  phrase : Bytes
  state : ConnectionState

namespace Connection

variable {ι : Type} (cfg : Settings ι)

def isValid (c : Connection ι) (data : Bytes) : Bool :=
  AuthResponseMsg.isValid cfg.sha1 c.phrase (cfg.password c.server) data

def handleWriteChallenge (error : Bool) (c : Connection ι) : Connection ι :=
  { c with state := if error then .disconnected else .readChallengeResponse }

/-- `handleReadChallengeResponse`; `none` is an error. -/
def handleReadChallengeResponse (data : Option Bytes) (c : Connection ι) : Connection ι :=
  match data with
  | some data =>
    if c.isValid cfg data then
      { c with state := .writeAuthSuccess data (AuthResponseMsg.isServerResponse data) }
    else { c with state := .writeAuthFailure }
  | none => { c with state := .disconnected }

/-- `handleWriteAuthSuccess`, which does not look at the error. -/
def handleWriteAuthSuccess (response : Bytes) (isMeshConnection : Bool) (c : Connection ι) :
    Connection ι :=
  { c with
    state := .authenticated response (.accepted isMeshConnection (cfg.cacheEnabled c.server)) }

/-- What happens on a connection. -/
inductive Event
  | written (error : Bool)
  | responseRead (data : Option Bytes)
  | completed (c : CSAuthenticated.Completion)
  | query (e : IntraMeshQueryClient.Event)

/-- What can be read as a response: a whole message, and from a server its
`sendChallengeResponse`. -/
def Sends (c : Connection ι) (data : Bytes) : Prop :=
  data.length = AuthResponseMsg.messageSize ∧
    ∀ i ∈ c.opener, data = AuthResponseMsg.ofServer cfg.sha1 c.phrase (cfg.password i)

instance (c : Connection ι) (data : Bytes) : Decidable (c.Sends cfg data) :=
  inferInstanceAs (Decidable (_ ∧ _))

/-- The response that has been accepted. -/
def response (c : Connection ι) : Option Bytes :=
  match c.state with
  | .writeAuthSuccess response _ | .authenticated response _ => some response
  | _ => none

/-- One event. -/
def step (c : Connection ι) (e : Event) : Option (Connection ι) :=
  match c.state, e with
  | .writeChallenge, .written error => some (c.handleWriteChallenge error)
  | .readChallengeResponse, .responseRead data =>
    if ∀ d ∈ data, c.Sends cfg d then some (c.handleReadChallengeResponse cfg data) else none
  | .writeAuthSuccess response isMesh, .written _ =>
    some (c.handleWriteAuthSuccess cfg response isMesh)
  | .writeAuthFailure, .written _ => some { c with state := .disconnected }
  | .authenticated response s, .completed e =>
    (s.step e).map fun s' => { c with state := .authenticated response s' }
  | .query s, .query e => (s.step e).map fun s' => { c with state := .query s' }
  | _, _ => none

/-- The operations that the server performs for an event. -/
def performs (c : Connection ι) (e : Event) : List Operation :=
  match c.state, e with
  | .authenticated _ s, .completed e => s.performs e
  | .query _, .query e => IntraMeshQueryClient.performs e
  | _, _ => []

end Connection

/-! ## The network -/

structure Performed (ι : Type) where
  server : ι
  /-- The index of the connection for which the server performed it. -/
  connection : Nat
  operation : Operation

structure Network (ι : Type) where
  connections : List (Connection ι)
  performed : List (Performed ι)

namespace Network

variable {ι : Type} [DecidableEq ι] (cfg : Settings ι)

def empty : Network ι := ⟨[], []⟩

/-- Somebody who is no server connects to the asset service of a server, or a server does so; the
query service accepts a connection from the address of a peer (`isServerTrusted`); and something
happens on a connection. -/
inductive Event (ι : Type)
  | connect (server : ι) (phrase : Bytes)
  | connectServer (server opener : ι) (phrase : Bytes)
  | acceptQuery (server host : ι)
  | on (k : Nat) (e : Connection.Event)

def accept (c : Connection ι) (net : Network ι) : Network ι :=
  { net with connections := net.connections ++ [c] }

/-- One event. -/
def step (net : Network ι) : Event ι → Option (Network ι)
  | .connect server phrase => some (net.accept ⟨server, none, phrase, .writeChallenge⟩)
  | .connectServer server opener phrase =>
    some (net.accept ⟨server, some opener, phrase, .writeChallenge⟩)
  | .acceptQuery server host =>
    if host ∈ cfg.intraMeshPeers server then
      some (net.accept ⟨server, some host, [], .query .start⟩)
    else none
  | .on k e => net.connections[k]?.bind fun c => (c.step cfg e).map fun c' =>
    { connections := net.connections.set k c'
      performed := net.performed ++ (c.performs e).map fun op => ⟨c.server, k, op⟩ }

/-- What may go back to a connection: what was performed for it, and everything that was performed
for a connection of a server at which a search goes back to it. -/
inductive GoesBack (net : Network ι) (k : Nat) : Performed ι → Prop
  | own {p} (hp : p ∈ net.performed) (hk : p.connection = k) : GoesBack net k p
  | forwarded {p q c} (h : GoesBack net k p) (hp : p.operation = .started .meshGet)
      (hq : q ∈ net.performed) (hc : net.connections[q.connection]? = some c)
      (hopener : c.opener = some p.server) : GoesBack net k q

end Network

/-! ## What a connection is allowed -/

namespace CSAuthenticated

/-- A connection with the given flag; a connection of a server does not search the mesh. -/
structure Bound (m : Bool) (s : CSAuthenticated) : Prop where
  flag : s.isMeshConnection = m
  search : m = true → .meshGet ∉ s.pending

variable {m : Bool} {s s' : CSAuthenticated}

lemma Bound.mono (h : s.Bound m) (hflag : s'.isMeshConnection = s.isMeshConnection)
    (hpending : ∀ op ∈ s'.pending, op ∈ s.pending) : s'.Bound m :=
  ⟨hflag.trans h.flag, fun hm hmem => h.search hm (hpending _ hmem)⟩

lemma Bound.start (h : s.Bound m) {op : Outstanding} (hop : m = true → op ≠ .meshGet) :
    (s.start op).Bound m := by
  refine ⟨h.flag, fun hm hmem => ?_⟩
  rcases List.mem_append.mp hmem with hmem | hmem
  · exact h.search hm hmem
  · exact hop hm (List.mem_singleton.mp hmem).symm

lemma Bound.escape (h : s.Bound m) : s.escape.Bound m :=
  h.mono rfl (by simp [CSAuthenticated.escape])

lemma Bound.disconnect (h : s.Bound m) : s.disconnect.Bound m :=
  h.mono rfl (by simp [CSAuthenticated.disconnect])

lemma Bound.sendResponse (h : s.Bound m) (response : ServerResponseMsg) :
    (s.sendResponse response).Bound m := by
  have hs : Bound m { s with answered := s.answered ++ [(s.currentRequest, response)] } :=
    h.mono rfl fun _ => id
  exact hs.start (by simp)

lemma Bound.sendData (h : s.Bound m) (code : ResponseCode) (uuid data : Bytes) :
    (s.sendData code uuid data).Bound m := by
  unfold CSAuthenticated.sendData
  split
  · exact h.sendResponse _
  · exact h.escape

lemma Bound.withValidUUID (h : s.Bound m) {body : CSAuthenticated → CSAuthenticated}
    (hbody : (body s).Bound m) : (s.withValidUUID body).Bound m := by
  unfold CSAuthenticated.withValidUUID
  split
  · exact hbody
  · exact h.sendData _ _ _

lemma Bound.handleRequest (h : s.Bound m) (haveAsset : Bool) :
    (s.handleRequest haveAsset).Bound m := by
  unfold CSAuthenticated.handleRequest
  split
  case h_2 =>
    refine h.withValidUUID ?_
    unfold purgeAsset
    split
    · exact h
    · exact h.start (by simp)
  case h_4 => exact h.withValidUUID (h.sendResponse _)
  case h_5 => exact h.sendResponse _
  case h_9 => exact h.disconnect
  all_goals first
    | exact h.withValidUUID (h.start (by simp))
    | exact h.start (by simp)

/-- Every handler keeps the flag, and none of a connection of a server starts a search. -/
lemma Bound.handler (h : s.Bound m) (c : Completion) : (s.handler c).Bound m := by
  cases c with
  | headerRead header haveAsset =>
    have hs : Bound m { s with currentRequest := header, requests := s.requests ++ [header] } :=
      h.mono rfl fun _ => id
    exact hs.handleRequest haveAsset
  | dataRead data =>
    simp only [CSAuthenticated.handler, handleAssetDataRead]
    split
    · exact h.start (by simp)
    · exact h.sendData _ _ _
  | storageGet foundAsset =>
    cases foundAsset with
    | some asset => exact h.sendData _ _ _
    | none =>
      simp only [CSAuthenticated.handler, handleStorageGetResponse]
      split
      · exact h.sendResponse _
      · next hflag => exact h.start fun hm => absurd (h.flag.trans hm) hflag
  | storageStore error | meshGet error =>
    cases error with
    | some data => exact h.sendData _ _ _
    | none => exact h.sendResponse _
  | diskPurge => exact h
  | status text | assetIds text => exact h.sendData _ _ _
  | headerWritten response =>
    simp only [CSAuthenticated.handler, handleResponseHeaderWrite]
    split
    · split
      · exact h.start (by simp)
      · exact h.escape
    · exact h.start (by simp)
  | dataWritten response => exact h.start (by simp)
  | failed op => exact h.disconnect

lemma Bound.step (h : s.Bound m) {c : Completion} (hs : s.step c = some s') : s'.Bound m := by
  obtain ⟨-, rfl⟩ := step_eq_some hs
  have hs : Bound m { s with pending := s.pending.erase c.op } :=
    h.mono rfl fun _ => List.mem_of_mem_erase
  exact hs.handler c

lemma Bound.not_mem_performs (h : s.Bound true) (c : Completion) :
    .started .meshGet ∉ s.performs c := by
  have hbound : Bound true { s with pending := [] } := h.mono rfl (by simp)
  simp only [performs, List.mem_append, List.mem_map, List.mem_filter, not_or]
  refine ⟨?_, ?_⟩
  · rintro ⟨op, ⟨hop, -⟩, heq⟩
    exact (hbound.handler c).search rfl (Operation.started.inj heq ▸ hop)
  · unfold calls
    split
    · split
      · split <;> simp
      all_goals simp
    · simp

end CSAuthenticated

namespace Connection

variable {ι : Type} {cfg : Settings ι} {c c' : Connection ι} {e : Event}

/-- A response has been accepted: it is valid, and the response of a server says so. -/
structure Accepted (cfg : Settings ι) (c : Connection ι) (data : Bytes) : Prop where
  valid : c.isValid cfg data = true
  server : c.opener ≠ none → AuthResponseMsg.isServerResponse data = true

/-- What holds of a connection in every state. -/
def Sound (cfg : Settings ι) (c : Connection ι) : Prop :=
  match c.state with
  | .writeAuthSuccess data m => c.Accepted cfg data ∧ m = AuthResponseMsg.isServerResponse data
  | .authenticated data s =>
    c.Accepted cfg data ∧ s.Bound (AuthResponseMsg.isServerResponse data)
  | .query _ => ∃ host ∈ cfg.intraMeshPeers c.server, c.opener = some host
  | _ => True

/-- The operations that a connection is allowed in a state. -/
def Permits (c : Connection ι) (op : Operation) : Prop :=
  match c.state with
  | .authenticated data _ =>
    op = .started .meshGet → AuthResponseMsg.isServerResponse data = false
  | .query _ => op = .assetExists
  | _ => False

lemma Accepted.withState {data : Bytes} (h : c.Accepted cfg data) (state : ConnectionState) :
    { c with state := state }.Accepted cfg data :=
  ⟨h.valid, h.server⟩

lemma handleReadChallengeResponse_spec {data : Option Bytes}
    (hsends : ∀ d ∈ data, c.Sends cfg d) :
    (c.handleReadChallengeResponse cfg data).Sound cfg ∧
      (c.handleReadChallengeResponse cfg data).server = c.server ∧
      (c.handleReadChallengeResponse cfg data).opener = c.opener := by
  unfold handleReadChallengeResponse
  split
  · next data =>
    split
    · next hvalid =>
      refine ⟨⟨⟨hvalid, fun hopener => ?_⟩, rfl⟩, rfl, rfl⟩
      obtain ⟨i, hi⟩ := Option.ne_none_iff_exists'.mp hopener
      rw [(hsends data rfl).2 i hi]
      rfl
    · exact ⟨trivial, rfl, rfl⟩
  · exact ⟨trivial, rfl, rfl⟩

lemma eq_assetExists_of_mem_performs {e : IntraMeshQueryClient.Event} {op : Operation}
    (h : op ∈ IntraMeshQueryClient.performs e) : op = .assetExists := by
  unfold IntraMeshQueryClient.performs at h
  split at h
  · split at h
    · exact List.mem_singleton.mp h
    · cases h
  · cases h

/-- One event keeps the ends of a connection and what it is allowed, and only what it is allowed
is performed. -/
lemma step_spec (hc : c.Sound cfg) (h : c.step cfg e = some c') :
    (c'.Sound cfg ∧ c'.server = c.server ∧ c'.opener = c.opener) ∧
      ∀ op, c.Permits op ∨ op ∈ c.performs e → c'.Permits op := by
  obtain ⟨server, opener, phrase, state⟩ := c
  unfold step at h
  split at h
  case h_1 error heq =>
    obtain rfl := heq
    obtain rfl := Option.some.inj h
    cases error <;> exact ⟨⟨trivial, rfl, rfl⟩, by rintro op (hop | hop) <;> cases hop⟩
  case h_2 data heq =>
    obtain rfl := heq
    obtain ⟨hsends, rfl⟩ := guarded_eq_some.mp h
    exact ⟨handleReadChallengeResponse_spec hsends, by rintro op (hop | hop) <;> cases hop⟩
  case h_3 response isMesh error heq =>
    obtain rfl := heq
    obtain rfl := Option.some.inj h
    obtain ⟨haccepted, rfl⟩ := hc
    have hbound : (CSAuthenticated.accepted (AuthResponseMsg.isServerResponse response)
        (cfg.cacheEnabled server)).Bound (AuthResponseMsg.isServerResponse response) :=
      ⟨rfl, by simp [CSAuthenticated.accepted, CSAuthenticated.waitForRequest,
        CSAuthenticated.start]⟩
    exact ⟨⟨⟨haccepted.withState _, hbound⟩, rfl, rfl⟩, by rintro op (hop | hop) <;> cases hop⟩
  case h_4 heq =>
    obtain rfl := heq
    obtain rfl := Option.some.inj h
    exact ⟨⟨trivial, rfl, rfl⟩, by rintro op (hop | hop) <;> cases hop⟩
  case h_5 response s e heq =>
    obtain rfl := heq
    obtain ⟨s', hs', rfl⟩ := Option.map_eq_some_iff.mp h
    obtain ⟨haccepted, hbound⟩ := hc
    refine ⟨⟨⟨haccepted.withState _, hbound.step hs'⟩, rfl, rfl⟩, ?_⟩
    rintro op (hop | hop)
    · exact hop
    · rintro rfl
      by_contra hserver
      rw [Bool.not_eq_false] at hserver
      exact (hserver ▸ hbound).not_mem_performs e hop
  case h_6 s e heq =>
    obtain rfl := heq
    obtain ⟨s', hs', rfl⟩ := Option.map_eq_some_iff.mp h
    refine ⟨⟨hc, rfl, rfl⟩, ?_⟩
    rintro op (hop | hop)
    · exact hop
    · exact eq_assetExists_of_mem_performs hop
  case h_7 => cases h

/-- The connection has sent a response that is valid for the challenge sent on it. -/
def Authenticated (cfg : Settings ι) (c : Connection ι) : Prop :=
  ∃ data, c.response = some data ∧ c.isValid cfg data = true

/-- The connection has authenticated as a server. -/
def IsServer (c : Connection ι) : Prop :=
  ∃ data, c.response = some data ∧ AuthResponseMsg.isServerResponse data = true

/-- What lets a connection have an operation performed. -/
def Entitled (cfg : Settings ι) (c : Connection ι) (op : Operation) : Prop :=
  c.Authenticated cfg ∨ op = .assetExists ∧ ∃ s, c.state = .query s ∧
    ∃ host ∈ cfg.intraMeshPeers c.server, c.opener = some host

lemma Sound.entitled (hc : c.Sound cfg) {op : Operation} (h : c.Permits op) :
    c.Entitled cfg op ∧ (op = .started .meshGet → ¬ c.IsServer ∧ c.opener = none) := by
  obtain ⟨server, opener, phrase, state⟩ := c
  cases state with
  | authenticated data s =>
    refine ⟨.inl ⟨data, rfl, hc.1.valid⟩, fun hop => ?_⟩
    have hclient := h hop
    refine ⟨?_, ?_⟩
    · rintro ⟨data', hdata, hserver⟩
      obtain rfl := Option.some.inj hdata
      exact Bool.false_ne_true (hclient.symm.trans hserver)
    · by_contra hopener
      exact Bool.false_ne_true (hclient.symm.trans (hc.1.server hopener))
  | query s => exact ⟨.inr ⟨h, s, rfl, hc⟩, fun hop => by cases hop.symm.trans h⟩
  | _ => exact h.elim

end Connection

namespace Network

variable {ι : Type} {cfg : Settings ι} {net net' : Network ι}

/-- What holds in every run. -/
structure Inv (cfg : Settings ι) (net : Network ι) : Prop where
  sound : ∀ c ∈ net.connections, c.Sound cfg
  permitted : ∀ p ∈ net.performed, ∃ c, net.connections[p.connection]? = some c ∧
    p.server = c.server ∧ c.Permits p.operation

lemma Inv.accept (h : Inv cfg net) {c : Connection ι} (hc : c.Sound cfg) :
    Inv cfg (net.accept c) where
  sound c' hc' := by
    rcases List.mem_append.mp hc' with hc' | hc'
    · exact h.sound c' hc'
    · exact List.mem_singleton.mp hc' ▸ hc
  permitted p hp := by
    obtain ⟨c', hc', hserver, hpermits⟩ := h.permitted p hp
    refine ⟨c', ?_, hserver, hpermits⟩
    rw [Network.accept, List.getElem?_append_left (List.getElem?_eq_some_iff.mp hc').1, hc']

variable [DecidableEq ι]

lemma Inv.step (h : Inv cfg net) {e : Event ι} (hs : net.step cfg e = some net') :
    Inv cfg net' := by
  cases e with
  | connect server phrase | connectServer server opener phrase =>
    obtain rfl := Option.some.inj hs
    exact h.accept trivial
  | acceptQuery server host =>
    obtain ⟨hhost, rfl⟩ := guarded_eq_some.mp hs
    exact h.accept ⟨host, hhost, rfl⟩
  | on k e =>
    obtain ⟨c, hc, hs⟩ := Option.bind_eq_some_iff.mp hs
    obtain ⟨c', hc', rfl⟩ := Option.map_eq_some_iff.mp hs
    have hk := (List.getElem?_eq_some_iff.mp hc).1
    obtain ⟨⟨hsound, hserver, -⟩, hpermits⟩ :=
      Connection.step_spec (h.sound c (List.mem_of_getElem? hc)) hc'
    refine ⟨fun d hd => ?_, fun p hp => ?_⟩
    · rcases List.mem_or_eq_of_mem_set hd with hd | rfl
      · exact h.sound d hd
      · exact hsound
    · rcases List.mem_append.mp hp with hp | hp
      · obtain ⟨d, hd, hdserver, hdpermits⟩ := h.permitted p hp
        by_cases hpk : k = p.connection
        · obtain rfl := Option.some.inj (hd.symm.trans (hpk ▸ hc))
          exact ⟨c', by rw [← hpk, List.getElem?_set_self hk], hdserver.trans hserver.symm,
            hpermits _ (.inl hdpermits)⟩
        · exact ⟨d, by rw [List.getElem?_set_ne hpk, hd], hdserver, hdpermits⟩
      · obtain ⟨op, hop, rfl⟩ := List.mem_map.mp hp
        exact ⟨c', List.getElem?_set_self hk, hserver.symm, hpermits op (.inr hop)⟩

/-- In every run, an operation is performed only for a connection that has sent a valid response to
its challenge, or it is a look-up for the query service and the connection comes from a peer.  A
search is never performed for a connection that has authenticated as a server; and all searches
that may go back to a connection take place at the server of the connection. -/
theorem access_controlled (es : List (Event ι)) (hrun : run (step cfg) empty es = some net) :
    (∀ p ∈ net.performed, ∃ c, net.connections[p.connection]? = some c ∧ p.server = c.server ∧
      c.Entitled cfg p.operation) ∧
    (∀ p ∈ net.performed, p.operation = .started .meshGet →
      ∀ c, net.connections[p.connection]? = some c → ¬ c.IsServer) ∧
    ∀ k c p, net.connections[k]? = some c → net.GoesBack k p →
      p.operation = .started .meshGet → p.server = c.server := by
  have hinv : Inv cfg net := invariant (fun s e s' hs h => hs.step h) hrun
    ⟨by simp [empty], by simp [empty]⟩
  have hentitled : ∀ p ∈ net.performed, ∃ c, net.connections[p.connection]? = some c ∧
      p.server = c.server ∧ c.Entitled cfg p.operation ∧
      (p.operation = .started .meshGet → ¬ c.IsServer ∧ c.opener = none) := by
    intro p hp
    obtain ⟨c, hc, hserver, hpermits⟩ := hinv.permitted p hp
    exact ⟨c, hc, hserver, (hinv.sound c (List.mem_of_getElem? hc)).entitled hpermits⟩
  refine ⟨fun p hp => ?_, fun p hp hop c hc => ?_, fun k c p hc hback hop => ?_⟩
  · obtain ⟨c, hc, hserver, h, -⟩ := hentitled p hp
    exact ⟨c, hc, hserver, h⟩
  · obtain ⟨c', hc', -, -, hsearch⟩ := hentitled p hp
    obtain rfl := Option.some.inj (hc.symm.trans hc')
    exact (hsearch hop).1
  · cases hback with
    | own hp hk =>
      obtain ⟨c', hc', hserver, -⟩ := hentitled p hp
      obtain rfl := Option.some.inj ((hk ▸ hc').symm.trans hc)
      exact hserver
    | forwarded _ _ hq hd hopener =>
      -- A connection that a server has opened does not search.
      obtain ⟨c', hc', -, -, hsearch⟩ := hentitled p hq
      obtain rfl := Option.some.inj (hd.symm.trans hc')
      cases (hsearch hop).2.symm.trans hopener

/-- Two servers that are peers. -/
def pair : Settings Bool where
  password _ := []
  cacheEnabled _ := false
  intraMeshPeers i := [!i]
  sha1 _ := List.replicate 40 48

/-- A client authenticates and asks for an asset, which is searched for in the mesh. -/
theorem access_controlled_get : ∃ net, run (step pair) empty
    [.connect true [], .on 0 (.written false), .on 0 (.responseRead (some (0 :: pair.sha1 []))),
      .on 0 (.written false), .on 0 (.completed (.headerRead (10 :: List.replicate 36 48) false)),
      .on 0 (.completed (.storageGet none))] = some net ∧
    ∀ k c p, net.connections[k]? = some c → net.GoesBack k p →
      p.operation = .started .meshGet → p.server = c.server := by
  refine Exists.imp (fun net hrun => ⟨hrun, (access_controlled _ hrun).2.2⟩)
    (Option.isSome_iff_exists.mp ?_)
  decide

/-- A peer asks for an asset without any authentication. -/
theorem not_authenticated_query : ∃ net, run (step pair) empty
    [.acceptQuery true false,
      .on 0 (.query (.received (some (IntraMeshMsg.query (List.replicate 32 48))) (some true)))] =
      some net ∧
    ∃ p ∈ net.performed, ∀ c, net.connections[p.connection]? = some c →
      ¬ c.Authenticated pair := by
  refine ⟨_, rfl, ⟨true, 0, .assetExists⟩, List.mem_singleton.mpr rfl, ?_⟩
  rintro c hc ⟨data, hdata, -⟩
  obtain rfl := Option.some.inj hc
  cases hdata

end Network

end Halcyon.Whip
