import Halcyon.Lib.Transition
import Halcyon.Whip.IntraMeshMsg

/-!
# The stream of answers and heartbeats to a peer

`IntraMeshQueryClient` serves one peer that sends queries.  Answers and heartbeats go out over the
same socket, one send operation at a time: while `_sendActive` is set, further messages wait in
`_pendingSends`, and the completion handler of an operation starts the next one.

An operation is an `async_send`, which completes as soon as the socket has accepted some of the
bytes.  The completion handlers only ask whether it was more than none, so what an operation has
left over is never sent.  `Framed` says that the peer receives whole messages in the order in which
they were queued; this is so exactly if every operation of the run accepted the whole message or
nothing.

The socket is part of the state: the operations that were started and not completed, and the bytes
that it has accepted.  `queued` and `sent` record the messages for which a send was asked, and
those whose operation has succeeded.
-/

namespace Halcyon.Whip

open Halcyon.Lib Halcyon.Lib.Transition

/-- The completion handlers of a send. -/
inductive AfterSend
  | onAfterSendQueryResponse
  | onAfterSendHeartbeat
  deriving DecidableEq

/-- `IQCSendItem`. -/
structure IQCSendItem where
  message : Bytes
  callBack : AfterSend
  deriving DecidableEq

/-- An `async_send`; on a closed socket it can only fail. -/
structure SendOperation where
  item : IQCSendItem
  onOpenSocket : Bool
  deriving DecidableEq

/-- `IntraMeshQueryClient` and its socket. -/
structure IntraMeshQueryClient where
  sendActive : Bool
  recvActive : Bool
  pendingSends : List IQCSendItem
  closed : Bool
  operations : List SendOperation
  accepted : Bytes
  queued : List Bytes
  sent : List Bytes
  deriving DecidableEq

namespace IntraMeshQueryClient

/-! ## The code -/

/-- `listenForMeshMessage`. -/
def listenForMeshMessage (s : IntraMeshQueryClient) : IntraMeshQueryClient :=
  { s with recvActive := true }

/-- The constructor, and `start` once a connection has been accepted. -/
def start : IntraMeshQueryClient :=
  listenForMeshMessage
    { sendActive := false, recvActive := false, pendingSends := [], closed := false,
      operations := [], accepted := [], queued := [], sent := [] }

/-- `async_send` of the message of an item. -/
def asyncSend (item : IQCSendItem) (s : IntraMeshQueryClient) : IntraMeshQueryClient :=
  { s with sendActive := true, operations := s.operations ++ [⟨item, !s.closed⟩] }

/-- The common text of `sendQueryResponse` and `sendHeartbeat`. -/
def send (item : IQCSendItem) (s : IntraMeshQueryClient) : IntraMeshQueryClient :=
  let s := { s with queued := s.queued ++ [item.message] }
  if !s.sendActive then asyncSend item s
  else { s with pendingSends := s.pendingSends ++ [item] }

def sendQueryResponse (outbound : Bytes) : IntraMeshQueryClient → IntraMeshQueryClient :=
  send ⟨outbound, .onAfterSendQueryResponse⟩

def sendHeartbeat (flags : Int32) : IntraMeshQueryClient → IntraMeshQueryClient :=
  send ⟨IntraMeshMsg.heartbeat flags, .onAfterSendHeartbeat⟩

def processQueuedSend (s : IntraMeshQueryClient) : IntraMeshQueryClient :=
  match s.pendingSends with
  | [] => s
  | item :: rest => { asyncSend item s with pendingSends := rest }

/-- `close`, without telling the service that the client is gone. -/
def close (s : IntraMeshQueryClient) : IntraMeshQueryClient :=
  { s with closed := true }

/-- `onAfterSendQueryResponse` and `onAfterSendHeartbeat`; `none` is an error. -/
def onAfterSend (callBack : AfterSend) (bytesSent : Option Nat) (s : IntraMeshQueryClient) :
    IntraMeshQueryClient :=
  let s := { s with sendActive := false }
  match bytesSent with
  | some (_ + 1) =>
    match callBack with
    | .onAfterSendQueryResponse => processQueuedSend (listenForMeshMessage s)
    | .onAfterSendHeartbeat => processQueuedSend s
  | _ => close s

/-- `processMeshQuery`; `none` is an exception of the backend. -/
def processMeshQuery (inboundMsg : Bytes) (assetFound : Option Bool) :
    IntraMeshQueryClient → IntraMeshQueryClient :=
  sendQueryResponse <| IntraMeshMsg.response (IntraMeshMsg.getAssetUUID inboundMsg) <|
    match assetFound with
    | some true => .found
    | some false => .notFound
    | none => .error

/-- `processIntrameshMessage`. -/
def processIntrameshMessage (inboundMsg : Bytes) (assetFound : Option Bool)
    (s : IntraMeshQueryClient) : IntraMeshQueryClient :=
  if IntraMeshMsg.validate inboundMsg ∧
      IntraMeshMsg.getRequestType inboundMsg = some .meshQuery then
    processMeshQuery inboundMsg assetFound s
  else close s

/-- `onMeshMessageReceived`; `none` is an error. -/
def onMeshMessageReceived (inboundMsg : Option Bytes) (assetFound : Option Bool)
    (s : IntraMeshQueryClient) : IntraMeshQueryClient :=
  let s := { s with recvActive := false }
  match inboundMsg with
  | some inboundMsg => processIntrameshMessage inboundMsg assetFound s
  | none => close s

/-- What happens to a client: a read completes, and the backend answers if it is asked; the service
sends a heartbeat; an operation completes with an error or with the number of bytes accepted. -/
inductive Event
  | received (inboundMsg : Option Bytes) (assetFound : Option Bool)
  | heartbeat (flags : Int32)
  | completed (bytesSent : Option Nat)
  deriving DecidableEq

/-- An operation completes.  It accepts no more than the message, and on a closed socket it
fails. -/
def complete (bytesSent : Option Nat) (s : IntraMeshQueryClient) : Option IntraMeshQueryClient :=
  match s.operations with
  | [] => none
  | op :: rest =>
    let n := bytesSent.getD 0
    if n ≤ op.item.message.length ∧ (op.onOpenSocket = false → bytesSent = none) then
      some <| onAfterSend op.item.callBack bytesSent
        { s with
          operations := rest
          accepted := s.accepted ++ op.item.message.take n
          sent := if 0 < n then s.sent ++ [op.item.message] else s.sent }
    else none

/-- One event. -/
def step (s : IntraMeshQueryClient) : Event → Option IntraMeshQueryClient
  | .received inboundMsg assetFound =>
    if s.recvActive then some (onMeshMessageReceived inboundMsg assetFound s) else none
  | .heartbeat flags => some (sendHeartbeat flags s)
  | .completed bytesSent => complete bytesSent s

/-! ## The order of the messages -/

/-- The messages of the operations that have not completed. -/
def inFlight (s : IntraMeshQueryClient) : List Bytes :=
  s.operations.map fun op => op.item.message

/-- The messages that wait for their turn. -/
def waiting (s : IntraMeshQueryClient) : List Bytes :=
  s.pendingSends.map IQCSendItem.message

/-- What holds in every run: at most one operation, which `_sendActive` stands for, and every
message has its place, until an operation fails; from then on none can succeed. -/
structure InOrder (s : IntraMeshQueryClient) : Prop where
  active : s.operations.length = s.sendActive.toNat
  packets : ∀ m ∈ s.queued, m.length = IntraMeshMsg.maxPacket
  order : s.queued = s.sent ++ s.inFlight ++ s.waiting ∧ (s.operations = [] → s.pendingSends = []) ∨
    s.closed = true ∧ (∀ op ∈ s.operations, op.onOpenSocket = false) ∧ s.sent <+: s.queued ∧
      (∀ m ∈ s.inFlight, m ∈ s.queued) ∧ ∀ m ∈ s.waiting, m ∈ s.queued

variable {s t : IntraMeshQueryClient}

lemma InOrder.inFlight_mem (h : s.InOrder) {m : Bytes} (hm : m ∈ s.inFlight) : m ∈ s.queued := by
  rcases h.order with ⟨hqueued, -⟩ | ⟨-, -, -, hmem, -⟩
  · rw [hqueued]
    exact List.mem_append_left _ (List.mem_append_right _ hm)
  · exact hmem m hm

lemma InOrder.close (h : s.InOrder) : s.close.InOrder where
  active := h.active
  packets := h.packets
  order := by
    rcases h.order with hopen | ⟨-, hrest⟩
    · exact .inl hopen
    · exact .inr ⟨rfl, hrest⟩

lemma InOrder.send (h : s.InOrder) {item : IQCSendItem}
    (hitem : item.message.length = IntraMeshMsg.maxPacket) : (s.send item).InOrder := by
  have hpackets : ∀ m ∈ s.queued ++ [item.message], m.length = IntraMeshMsg.maxPacket := by
    intro m hm
    rcases List.mem_append.mp hm with hm | hm
    · exact h.packets m hm
    · rw [List.mem_singleton.mp hm, hitem]
  cases hactive : s.sendActive with
  | false =>
    have hops : s.operations = [] := List.eq_nil_of_length_eq_zero (by rw [h.active, hactive]; rfl)
    have hsend : s.send item = { s with
        queued := s.queued ++ [item.message], sendActive := true,
        operations := [⟨item, !s.closed⟩] } := by
      simp only [IntraMeshQueryClient.send, asyncSend, hactive, hops, Bool.not_false, if_true,
        List.nil_append]
    rw [hsend]
    refine ⟨rfl, hpackets, ?_⟩
    rcases h.order with ⟨hqueued, hpending⟩ | ⟨hclosed, -, hsent, -, hwaiting⟩
    · have hp := hpending hops
      refine .inl ⟨?_, fun h => by cases h⟩
      simp only [hqueued, inFlight, waiting, hops, hp, List.map_nil, List.append_nil,
        List.map_cons]
    · refine .inr ⟨hclosed, ?_, hsent.trans (List.prefix_append _ _), ?_, ?_⟩
      · intro op hop
        rw [List.mem_singleton.mp hop, hclosed]
        rfl
      · intro m hm
        exact List.mem_append_right _ hm
      · intro m hm
        exact List.mem_append_left _ (hwaiting m hm)
  | true =>
    have hsend : s.send item = { s with
        queued := s.queued ++ [item.message], pendingSends := s.pendingSends ++ [item] } := by
      simp only [IntraMeshQueryClient.send, hactive, Bool.not_true, Bool.false_eq_true, if_false]
    rw [hsend]
    refine ⟨h.active, hpackets, ?_⟩
    rcases h.order with ⟨hqueued, -⟩ | ⟨hclosed, hops, hsent, hflight, hwaiting⟩
    · refine .inl ⟨?_, fun hnil => ?_⟩
      · simp only [hqueued, inFlight, waiting, List.map_append, List.map_cons, List.map_nil,
          List.append_assoc]
      · have hlen := h.active
        rw [hactive, show s.operations = [] from hnil] at hlen
        cases hlen
    · refine .inr ⟨hclosed, hops, hsent.trans (List.prefix_append _ _), ?_, ?_⟩
      · intro m hm
        exact List.mem_append_left _ (hflight m hm)
      · intro m hm
        simp only [waiting, List.map_append, List.mem_append] at hm
        rcases hm with hm | hm
        · exact List.mem_append_left _ (hwaiting m hm)
        · exact List.mem_append_right _ hm

lemma InOrder.received (h : s.InOrder) (inboundMsg : Option Bytes) (assetFound : Option Bool) :
    (s.onMeshMessageReceived inboundMsg assetFound).InOrder := by
  have hread : InOrder { s with recvActive := false } := ⟨h.active, h.packets, h.order⟩
  cases inboundMsg with
  | none => exact hread.close
  | some inboundMsg =>
    simp only [onMeshMessageReceived, processIntrameshMessage]
    split
    · exact hread.send (IntraMeshMsg.length_response _ _)
    · exact hread.close

/-- Between the completion of one operation and the start of the next. -/
lemma inOrder_processQueuedSend (hops : s.operations = []) (hactive : s.sendActive = false)
    (hpackets : ∀ m ∈ s.queued, m.length = IntraMeshMsg.maxPacket)
    (hqueued : s.queued = s.sent ++ s.waiting) : s.processQueuedSend.InOrder := by
  cases hpending : s.pendingSends with
  | nil =>
    rw [processQueuedSend, hpending]
    refine ⟨by rw [hops, hactive]; rfl, hpackets, .inl ⟨?_, fun _ => hpending⟩⟩
    rw [hqueued, inFlight, hops, List.map_nil, List.append_nil]
  | cons item rest =>
    have hnext : s.processQueuedSend = { s with
        sendActive := true, operations := [⟨item, !s.closed⟩], pendingSends := rest } := by
      simp only [processQueuedSend, hpending, asyncSend, hops, List.nil_append]
    rw [hnext]
    refine ⟨rfl, hpackets, .inl ⟨?_, fun h => by cases h⟩⟩
    simp only [hqueued, inFlight, waiting, hpending, List.map_cons, List.map_nil,
      List.append_assoc, List.singleton_append]

/-- What the completion of an operation does: it has succeeded on an open socket, and the next
message is sent; or it has failed, and the socket is closed. -/
lemma complete_cases {bytesSent : Option Nat} (hstep : s.complete bytesSent = some t) :
    ∃ op rest, s.operations = op :: rest ∧
      ((∃ n, bytesSent = some (n + 1) ∧ n + 1 ≤ op.item.message.length ∧
          op.onOpenSocket = true ∧ ∃ listening : Bool,
          t = processQueuedSend { s with
            sendActive := false, operations := rest, recvActive := listening
            accepted := s.accepted ++ op.item.message.take (n + 1)
            sent := s.sent ++ [op.item.message] }) ∨
        (∀ n, bytesSent ≠ some (n + 1)) ∧
          t = { s with sendActive := false, operations := rest, closed := true }) := by
  unfold complete at hstep
  cases hops : s.operations with
  | nil => rw [hops] at hstep; cases hstep
  | cons op rest =>
    rw [hops] at hstep
    obtain ⟨⟨hle, hopen⟩, rfl⟩ := guarded_eq_some.mp hstep
    refine ⟨op, rest, rfl, ?_⟩
    rcases bytesSent with _ | _ | n
    · refine .inr ⟨fun n h => (by cases h), ?_⟩
      simp [onAfterSend, IntraMeshQueryClient.close]
    · refine .inr ⟨fun n h => (by cases h), ?_⟩
      simp [onAfterSend, IntraMeshQueryClient.close]
    · refine .inl ⟨n, rfl, hle, ?_, ?_⟩
      · cases hsocket : op.onOpenSocket with
        | true => rfl
        | false => cases hopen hsocket
      · cases hcall : op.item.callBack with
        | onAfterSendQueryResponse => exact ⟨true, rfl⟩
        | onAfterSendHeartbeat => exact ⟨s.recvActive, rfl⟩

lemma InOrder.complete (h : s.InOrder) {bytesSent : Option Nat}
    (hstep : s.complete bytesSent = some t) : t.InOrder := by
  obtain ⟨op, rest, hops, hcase⟩ := complete_cases hstep
  have hrest : rest = [] := by
    have hlen := h.active
    rw [hops, List.length_cons] at hlen
    have hle := Bool.toNat_le s.sendActive
    exact List.eq_nil_of_length_eq_zero (by omega)
  subst hrest
  have hflight : s.inFlight = [op.item.message] := by rw [inFlight, hops]; rfl
  rcases hcase with ⟨n, -, -, hopen, listening, rfl⟩ | ⟨-, rfl⟩
  · rcases h.order with ⟨hqueued, -⟩ | ⟨-, hshut, -⟩
    · refine inOrder_processQueuedSend rfl rfl h.packets ?_
      rw [hflight] at hqueued
      exact hqueued
    · rw [hshut op (by rw [hops]; exact List.mem_singleton_self op)] at hopen
      cases hopen
  · refine ⟨rfl, h.packets, .inr ⟨rfl, by simp, ?_, by simp [inFlight], ?_⟩⟩
    · rcases h.order with ⟨hqueued, -⟩ | ⟨-, -, hsent, -⟩
      · exact ⟨s.inFlight ++ s.waiting, by rw [hqueued, List.append_assoc]⟩
      · exact hsent
    · rcases h.order with ⟨hqueued, -⟩ | ⟨-, -, -, -, hwaiting⟩
      · intro m hm
        rw [hqueued]
        exact List.mem_append_right _ hm
      · exact hwaiting

/-- Every step keeps the order. -/
lemma InOrder.step {e : Event} (h : s.InOrder) (hstep : s.step e = some t) : t.InOrder := by
  cases e with
  | received inboundMsg assetFound =>
    obtain ⟨-, rfl⟩ := guarded_eq_some.mp hstep
    exact h.received inboundMsg assetFound
  | heartbeat flags =>
    obtain rfl := Option.some.inj hstep
    exact h.send (IntraMeshMsg.length_heartbeat flags)
  | completed bytesSent => exact h.complete hstep

lemma start_inOrder : start.InOrder where
  active := rfl
  packets := by intro m hm; cases hm
  order := .inl ⟨rfl, fun _ => rfl⟩

/-! ## The bytes that the peer receives -/

@[simp] lemma accepted_send (item : IQCSendItem) : (s.send item).accepted = s.accepted := by
  simp only [IntraMeshQueryClient.send]
  split <;> rfl

@[simp] lemma sent_send (item : IQCSendItem) : (s.send item).sent = s.sent := by
  simp only [IntraMeshQueryClient.send]
  split <;> rfl

@[simp] lemma accepted_processQueuedSend : s.processQueuedSend.accepted = s.accepted := by
  unfold processQueuedSend
  split <;> rfl

@[simp] lemma sent_processQueuedSend : s.processQueuedSend.sent = s.sent := by
  unfold processQueuedSend
  split <;> rfl

/-- Reading a message changes nothing about what was sent. -/
lemma received_frame (inboundMsg : Option Bytes) (assetFound : Option Bool) :
    (s.onMeshMessageReceived inboundMsg assetFound).accepted = s.accepted ∧
      (s.onMeshMessageReceived inboundMsg assetFound).sent = s.sent := by
  cases inboundMsg with
  | none => exact ⟨rfl, rfl⟩
  | some inboundMsg =>
    simp only [onMeshMessageReceived, processIntrameshMessage]
    split
    · exact ⟨accepted_send _, sent_send _⟩
    · exact ⟨rfl, rfl⟩

/-- An operation accepts the whole message, or it fails. -/
def Event.Whole : Event → Prop
  | .completed (some (n + 1)) => n + 1 = IntraMeshMsg.maxPacket
  | _ => True

/-- One step sends nothing, or a message of which it accepts some bytes. -/
lemma InOrder.sends {e : Event} (h : s.InOrder) (hstep : s.step e = some t) :
    (e.Whole ∧ t.accepted = s.accepted ∧ t.sent = s.sent) ∨
      ∃ n m, e = .completed (some (n + 1)) ∧ n + 1 ≤ m.length ∧
        m.length = IntraMeshMsg.maxPacket ∧
        t.accepted = s.accepted ++ m.take (n + 1) ∧ t.sent = s.sent ++ [m] := by
  cases e with
  | received inboundMsg assetFound =>
    obtain ⟨-, rfl⟩ := guarded_eq_some.mp hstep
    exact .inl ⟨trivial, received_frame inboundMsg assetFound⟩
  | heartbeat flags =>
    obtain rfl := Option.some.inj hstep
    exact .inl ⟨trivial, accepted_send _, sent_send _⟩
  | completed bytesSent =>
    obtain ⟨op, rest, hops, ⟨n, rfl, hle, -, listening, rfl⟩ | ⟨hfail, rfl⟩⟩ :=
      complete_cases hstep
    · have hmem : op.item.message ∈ s.inFlight := by
        rw [inFlight, hops]
        exact List.mem_cons_self
      exact .inr ⟨n, op.item.message, rfl, hle, h.packets _ (h.inFlight_mem hmem),
        accepted_processQueuedSend, sent_processQueuedSend⟩
    · refine .inl ⟨?_, rfl, rfl⟩
      rcases bytesSent with _ | _ | n
      · trivial
      · trivial
      · exact absurd rfl (hfail n)

/-- The bytes of sent messages that the socket has not accepted. -/
def shortfall (s : IntraMeshQueryClient) : Int :=
  (s.sent.flatten.length : Int) - s.accepted.length

/-- The shortfall never gets smaller, and it grows with every operation that leaves something
over. -/
lemma InOrder.shortfall_step {e : Event} (h : s.InOrder) (hstep : s.step e = some t) :
    s.shortfall ≤ t.shortfall ∧ (¬ e.Whole → s.shortfall < t.shortfall) := by
  rcases h.sends hstep with ⟨hwhole, haccepted, hsent⟩ | ⟨n, m, rfl, hle, hm, haccepted, hsent⟩
  · rw [shortfall, shortfall, haccepted, hsent]
    exact ⟨le_rfl, fun hnot => absurd hwhole hnot⟩
  · have hshort : t.shortfall = s.shortfall + (m.length - (n + 1) : Nat) := by
      rw [shortfall, shortfall, haccepted, hsent]
      simp only [List.flatten_append, List.flatten_singleton, List.length_append,
        List.length_take, min_eq_left hle]
      omega
    refine ⟨by omega, fun hnot => ?_⟩
    have hne : n + 1 ≠ IntraMeshMsg.maxPacket := hnot
    omega

/-- Over a run the shortfall has grown if any operation left something over. -/
lemma InOrder.shortfall_run {es : List Event} (h : s.InOrder)
    (hrun : run IntraMeshQueryClient.step s es = some t) :
    s.shortfall ≤ t.shortfall ∧ ((∃ e ∈ es, ¬ e.Whole) → s.shortfall < t.shortfall) := by
  induction es generalizing s with
  | nil =>
    obtain rfl := Option.some.inj hrun
    exact ⟨le_rfl, fun ⟨e, he, _⟩ => by cases he⟩
  | cons e es ih =>
    obtain ⟨s', hstep, hrun⟩ := run_cons_eq_some.mp hrun
    obtain ⟨hle, hlt⟩ := h.shortfall_step hstep
    obtain ⟨hle', hlt'⟩ := ih (h.step hstep) hrun
    refine ⟨hle.trans hle', ?_⟩
    rintro ⟨e', he', hnot⟩
    rcases List.mem_cons.mp he' with rfl | he'
    · exact (hlt hnot).trans_le hle'
    · exact hle.trans_lt (hlt' ⟨e', he', hnot⟩)

/-- Whole operations keep the accepted bytes a sequence of whole messages. -/
lemma InOrder.whole_step {e : Event} (h : s.InOrder) (haccepted : s.accepted = s.sent.flatten)
    (hwhole : e.Whole) (hstep : s.step e = some t) : t.accepted = t.sent.flatten := by
  rcases h.sends hstep with ⟨-, hacc, hsent⟩ | ⟨n, m, rfl, -, hm, hacc, hsent⟩
  · rw [hacc, hsent, haccepted]
  · have hn : n + 1 = IntraMeshMsg.maxPacket := hwhole
    rw [hacc, hsent, hn, ← hm, List.take_length, List.flatten_append, List.flatten_singleton,
      haccepted]

/-- The stream to the peer is framed: at most one operation is outstanding, the messages are of one
size, they are sent in the order in which they were queued, none is left out or left waiting as
long as the socket is open, and the bytes that the socket has accepted are those of the messages
sent. -/
structure Framed (s : IntraMeshQueryClient) : Prop where
  outstanding : s.operations.length ≤ 1
  packets : ∀ m ∈ s.queued, m.length = IntraMeshMsg.maxPacket
  order : s.sent <+: s.queued
  complete : s.closed = false → s.queued = s.sent ++ s.inFlight ++ s.waiting
  busy : s.closed = false → s.operations = [] → s.pendingSends = []
  bytes : s.accepted = s.sent.flatten

lemma InOrder.framed (h : s.InOrder) (hbytes : s.accepted = s.sent.flatten) : s.Framed where
  outstanding := h.active.trans_le (Bool.toNat_le _)
  packets := h.packets
  order := by
    rcases h.order with ⟨hqueued, -⟩ | ⟨-, -, hsent, -⟩
    · exact ⟨s.inFlight ++ s.waiting, by rw [hqueued, List.append_assoc]⟩
    · exact hsent
  complete hopen := by
    rcases h.order with ⟨hqueued, -⟩ | ⟨hclosed, -⟩
    · exact hqueued
    · rw [hclosed] at hopen; cases hopen
  busy hopen := by
    rcases h.order with ⟨-, hpending⟩ | ⟨hclosed, -⟩
    · exact hpending
    · rw [hclosed] at hopen; cases hopen
  bytes := hbytes

/-- The stream is framed at the end of a run exactly if every operation of the run that did not
fail has accepted the whole message. -/
theorem framed_iff {es : List Event} (hrun : run step start es = some s) :
    s.Framed ↔ ∀ e ∈ es, e.Whole := by
  constructor
  · intro hframed e he
    by_contra hnot
    have hlt := (start_inOrder.shortfall_run hrun).2 ⟨e, he, hnot⟩
    rw [shortfall, shortfall, hframed.bytes, sub_self] at hlt
    exact absurd hlt (by decide)
  · intro hwhole
    have hinv : s.InOrder ∧ s.accepted = s.sent.flatten :=
      invariant_of_meets (P := fun s => s.InOrder ∧ s.accepted = s.sent.flatten)
        (fun s e t hs hwhole hstep => ⟨hs.1.step hstep, hs.1.whole_step hs.2 hwhole hstep⟩)
        hrun (meets_of_forall_mem hwhole) ⟨start_inOrder, rfl⟩
    exact hinv.1.framed hinv.2

/-- Two heartbeats, sent whole, and a third one on which the socket fails. -/
theorem framed_heartbeats :
    ∃ s, run step start [.heartbeat 1, .heartbeat 2, .completed (some 38), .completed (some 38),
        .heartbeat 1, .completed none] = some s ∧ s.Framed ∧
      s.accepted = IntraMeshMsg.heartbeat 1 ++ IntraMeshMsg.heartbeat 2 := by
  obtain ⟨s, hs, haccepted⟩ : ∃ s, run step start [.heartbeat 1, .heartbeat 2,
      .completed (some 38), .completed (some 38), .heartbeat 1, .completed none] = some s ∧
      s.accepted = IntraMeshMsg.heartbeat 1 ++ IntraMeshMsg.heartbeat 2 := ⟨_, rfl, rfl⟩
  refine ⟨s, hs, (framed_iff hs).mpr ?_, haccepted⟩
  simp [Event.Whole, IntraMeshMsg.maxPacket]

/-- The socket accepts ten bytes of the first of two heartbeats; the peer then reads the first 28
bytes of the second heartbeat as the end of the first. -/
theorem not_framed_partial :
    ∃ s, run step start [.heartbeat 1, .heartbeat 2, .completed (some 10), .completed (some 38)] =
        some s ∧ ¬ s.Framed ∧
      s.queued = [IntraMeshMsg.heartbeat 1, IntraMeshMsg.heartbeat 2] ∧
      s.accepted.take 38 =
        (IntraMeshMsg.heartbeat 1).take 10 ++ (IntraMeshMsg.heartbeat 2).take 28 := by
  refine ⟨_, rfl, ?_, rfl, rfl⟩
  intro hframed
  exact absurd (congrArg List.length hframed.bytes) (by decide)

end IntraMeshQueryClient

end Halcyon.Whip
