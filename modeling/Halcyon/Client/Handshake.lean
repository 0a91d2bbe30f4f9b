import Halcyon.Client.Pairing

/-!
# What is written to a socket before the authentication is over

`Connect` puts a new socket in `_conn` before it connects it and answers the challenge on it, and a
call writes its request to whatever socket is in `_conn` at that moment.  The lock `_sendSync` is
taken by the calls only.  So a request may be written to a socket on which the response to the
challenge was not sent, or only in part.

A session refines the client (`Session.refines`): `Connect` is taken apart into the connection of
the socket, the challenge, the pieces in which the socket takes the response, and the status; `Send`
into the moment at which `_conn` is read and the pieces that the socket takes.  It begins in `Start`,
so that calls may come while the first connection is made.  For every socket it is recorded what was
written to it and when the status was read.
-/

namespace Halcyon.Client

open Halcyon.Lib Halcyon.Whip Lib.Transition

/-- What happens on a socket: some bytes of the response to the challenge are written, the status
`AS_SUCCESS` is read, some bytes of the request of a call are written. -/
inductive Entry
  | response (n : Nat)
  | success
  | request (k n : Nat)
  deriving DecidableEq

/-- How far `Connect` has come with the socket in `_conn`. -/
inductive Progress
  /-- The socket is not connected. -/
  | created
  /-- It is connected, and the challenge is read. -/
  | opened
  /-- Some bytes of the response are written. -/
  | responding (sent : Nat)
  /-- `Connect` has returned (`true`) or thrown. -/
  | finished (returned : Bool)
  deriving DecidableEq

/-- `AuthResponse.MESSAGE_SIZE`. -/
def authResponseSize : Nat := 41

/-- The client with what happens inside `Connect` and `Send`. -/
structure Session where
  client : RemoteServer
  /-- The thread of `Start` is in `Connect`; there is no receive thread yet. -/
  starting : Bool
  progress : Progress
  /-- The socket to which the call with the lock writes its request. -/
  target : Option Nat
  log : Nat → List Entry

/-- The receive thread is neither connecting nor over. -/
def Receiver.Settled (x : Receiver) : Prop := x.inLoop = true ∨ x.freeing = true

namespace Session

inductive Action
  /-- A step of the client in which no socket is written to. -/
  | client (e : RemoteServer.Event)
  /-- `_conn.Connect` returns. -/
  | connected
  /-- The challenge was read. -/
  | challenged
  /-- The socket takes `n` bytes of the response. -/
  | respond (n : Nat)
  /-- `Connect` returns, with the status `AS_SUCCESS` read, or throws. -/
  | ends (attempt : RemoteServer.Attempt)
  /-- The call with the lock reads `_conn`. -/
  | beginSend (k : Nat)
  /-- The socket takes `n` bytes of its request. -/
  | sendBytes (k n : Nat)

/-- What is recorded when `Connect` ends. -/
def record (attempt : RemoteServer.Attempt) (log : List Entry) : List Entry :=
  match attempt.outcome with
  | .ok _ => log ++ [.success]
  | .error _ => log

/-- The client when `Connect` ends: in `Start` the receive thread is started, unless it throws. -/
def clientAfter (attempt : RemoteServer.Attempt) (s : Session) : RemoteServer :=
  if s.starting then
    { s.client with receiver := match attempt.outcome with
        | .ok _ => .loop
        | .error e => .ended (some e) }
  else s.client.connect attempt

/-- The session when `Connect` ends. -/
def afterConnect (attempt : RemoteServer.Attempt) (s : Session) : Session :=
  { s with
    client := s.clientAfter attempt
    starting := false
    progress := .finished attempt.outcome.isOk
    log := Function.update s.log s.client.conn (record attempt (s.log s.client.conn)) }

/-- A new entry on a socket. -/
def write (c : Nat) (entry : Entry) (s : Session) : Session :=
  { s with log := Function.update s.log c (s.log c ++ [entry]) }

/-- `Connect` is taken apart. -/
def isConnect : RemoteServer.Event → Bool
  | .connect _ => true
  | _ => false

/-- The session after another step of the client: a new socket may have been made, and a `Send` be
over. -/
def afterStep (e : RemoteServer.Event) (c : RemoteServer) (s : Session) : Session :=
  { s with
    client := c
    progress := match e with
      | .checkConnected _ => if c.receiver = .connecting then .created else s.progress
      | _ => s.progress
    target := match e with
      | .send .. => none
      | _ => s.target }

/-- One step. -/
def step (s : Session) : Action → Option Session
  | .client e => if isConnect e then none else (s.client.step e).map fun c => s.afterStep e c
  | .connected =>
    if s.client.receiver = .connecting ∧ s.progress = .created then
      some { s with progress := .opened }
    else none
  | .challenged =>
    if s.client.receiver = .connecting ∧ s.progress = .opened then
      some { s with progress := .responding 0 }
    else none
  | .respond n =>
    match s.progress with
    | .responding sent =>
      if s.client.receiver = .connecting ∧ sent + n ≤ authResponseSize then
        some { s.write s.client.conn (.response n) with progress := .responding (sent + n) }
      else none
    | _ => none
  -- With the status read, the challenge was read before and the whole response written.
  | .ends attempt =>
    if s.client.receiver = .connecting ∧
        (attempt.outcome.isOk → s.progress = .responding authResponseSize) then
      some (s.afterConnect attempt)
    else none
  | .beginSend k =>
    if s.client.sendSync = some k ∧ s.target = none then
      some { s with target := some s.client.conn }
    else none
  -- A socket that is not connected takes nothing.
  | .sendBytes k n =>
    match s.target with
    | some c =>
      if s.client.sendSync = some k ∧ (c = s.client.conn → s.progress ≠ .created) then
        some (s.write c (.request k n))
      else none
    | none => none

/-- In `Start`, with a new socket. -/
def start : Session where
  client := { RemoteServer.start with receiver := .connecting }
  starting := true
  progress := .created
  target := none
  log := fun _ => []

variable {s s' : Session}

lemma step_client {e : RemoteServer.Event} : s.step (.client e) = some s' ↔
    isConnect e = false ∧ ∃ c, s.client.step e = some c ∧ s.afterStep e c = s' := by
  rw [step, Option.ite_none_left_eq_some, Option.map_eq_some_iff, Bool.not_eq_true]

/-- Every step is one of the client, or the end of the connection in `Start`, or leaves the client
as it is. -/
lemma refines {a : Action} (h : s.step a = some s') :
    (∃ e, s.client.step e = some s'.client) ∨
      (s.starting = true ∧ ∃ attempt, s'.client = s.clientAfter attempt) ∨
      s'.client = s.client := by
  cases a with
  | client e =>
    obtain ⟨-, c, hc, rfl⟩ := step_client.mp h
    exact .inl ⟨e, hc⟩
  | connected =>
    obtain ⟨-, rfl⟩ := guarded_eq_some.mp h
    exact .inr (.inr rfl)
  | challenged =>
    obtain ⟨-, rfl⟩ := guarded_eq_some.mp h
    exact .inr (.inr rfl)
  | respond n =>
    simp only [step] at h
    split at h
    · obtain ⟨-, rfl⟩ := guarded_eq_some.mp h
      exact .inr (.inr rfl)
    · cases h
  | ends attempt =>
    obtain ⟨⟨hconnecting, -⟩, rfl⟩ := guarded_eq_some.mp h
    by_cases hstarting : s.starting = true
    · exact .inr (.inl ⟨hstarting, attempt, rfl⟩)
    · refine .inl ⟨.connect attempt, ?_⟩
      rw [RemoteServer.step_connect]
      exact ⟨hconnecting, if_neg hstarting⟩
  | beginSend k =>
    obtain ⟨-, rfl⟩ := guarded_eq_some.mp h
    exact .inr (.inr rfl)
  | sendBytes k n =>
    simp only [step] at h
    split at h
    · obtain ⟨-, rfl⟩ := guarded_eq_some.mp h
      exact .inr (.inr rfl)
    · cases h

/-! ## Requests behind the authentication -/

/-- The whole response was written, the status read, and only then requests. -/
def Authenticated (log : List Entry) : Prop :=
  ∃ (ns : List Nat) (rs : List (Nat × Nat)), ns.sum = authResponseSize ∧
    log = ns.map Entry.response ++ Entry.success :: rs.map fun r => .request r.1 r.2

/-- Nothing but the response was written before the status was read. -/
def Polite (log : List Entry) : Prop :=
  (∃ ns : List Nat, ns.sum ≤ authResponseSize ∧ log = ns.map Entry.response) ∨ Authenticated log

/-- What a step needs: a call reads `_conn` to write its request only while the receive thread runs
and does not connect, before `Stop`; and a socket for which `Connect` has thrown does not count as
connected. -/
def Patient (s : Session) : Action → Prop
  | .beginSend _ => s.client.stopping = false ∧ s.client.receiver.Settled
  | .client (.checkConnected connected) => connected = true → s.progress = .finished true
  | _ => True

/-- What holds in a run of such steps. -/
structure Inv (s : Session) : Prop where
  polite : ∀ c, Polite (s.log c)
  fresh : ∀ c, s.client.conn < c → s.log c = []
  connecting : s.client.receiver = .connecting → match s.progress with
    | .created | .opened => s.log s.client.conn = []
    | .responding sent => sent ≤ authResponseSize ∧
      ∃ ns : List Nat, ns.sum = sent ∧ s.log s.client.conn = ns.map Entry.response
    | .finished _ => False
  finished : s.progress = .finished true → Authenticated (s.log s.client.conn)
  settled : s.client.stopping = false → s.client.receiver.Settled → s.progress = .finished true
  target : ∀ c, s.target = some c → Authenticated (s.log c)

lemma start_inv : start.Inv where
  polite _ := .inl ⟨[], Nat.zero_le _, rfl⟩
  fresh _ _ := rfl
  connecting _ := rfl
  finished h := nomatch h
  settled _ h := by rcases h with h | h <;> cases h
  target _ h := nomatch h

end Session

namespace RemoteServer

variable {s s' : RemoteServer}

/-- A step of the receive thread from a place outside the loop that connects. -/
lemma settled_moves {x y : Receiver} (hold : x.Settled) (hnew : y ≠ .connecting) :
    (y = .connecting → x = .connecting) ∧ (y.Settled → x.Settled) :=
  ⟨fun heq => absurd heq hnew, fun _ => hold⟩

/-- A step other than those that connect or stop leaves the socket, and the receive thread does not
come out of the loop that connects. -/
lemma step_frame {e : Event} (h : s.step e = some s') (hconnect : Session.isConnect e = false)
    (hcheck : ∀ connected, e ≠ .checkConnected connected) (hstop : e ≠ .stop) :
    s'.conn = s.conn ∧ s'.stopping = s.stopping ∧
      (s'.receiver = .connecting → s.receiver = .connecting) ∧
      (s'.receiver.Settled → s.receiver.Settled) := by
  cases e with
  | call type uuid callBack =>
    obtain ⟨-, rfl⟩ := step_call.mp h
    unfold call
    dsimp only
    split_ifs
    · split <;> exact ⟨rfl, rfl, id, id⟩
    · exact ⟨rfl, rfl, id, id⟩
  | enqueue k =>
    obtain ⟨-, rfl⟩ := step_enqueue.mp h
    exact ⟨rfl, rfl, id, id⟩
  | send k success =>
    obtain ⟨-, rfl⟩ := step_send.mp h
    cases success <;> exact ⟨rfl, rfl, id, id⟩
  | handleSendError k =>
    obtain ⟨-, ⟨-, rfl⟩ | ⟨-, rfl⟩⟩ := step_handleSendError h
    · exact ⟨rfl, rfl, id, id⟩
    · unfold endSendError
      dsimp only
      split_ifs <;> exact ⟨rfl, rfl, id, id⟩
  | wake k =>
    obtain ⟨-, rfl⟩ := step_wake.mp h
    exact ⟨rfl, rfl, id, id⟩
  | iterate =>
    obtain ⟨hold, rfl⟩ := step_iterate.mp h
    have hsettled : s.receiver.Settled := .inl (by rw [hold]; rfl)
    refine ⟨rfl, rfl, settled_moves hsettled ?_⟩
    dsimp only
    split_ifs <;> exact fun heq => by cases heq
  | read pieces =>
    obtain ⟨hold, hread⟩ := step_read.mp h
    have hsettled : s.receiver.Settled := .inl (by rw [hold]; rfl)
    unfold read at hread
    split at hread
    · next e _ =>
      obtain rfl := Option.some.inj hread
      refine ⟨rfl, rfl, settled_moves hsettled ?_⟩
      cases e <;> exact fun heq => by cases heq
    · obtain rfl := Option.some.inj hread
      exact ⟨rfl, rfl, settled_moves hsettled fun heq => by cases heq⟩
    · cases hread
  | dequeue =>
    obtain ⟨message, hold, rfl⟩ := step_dequeue h
    have hsettled : s.receiver.Settled := .inl (by rw [hold]; rfl)
    unfold dequeue
    split
    · exact ⟨rfl, rfl, settled_moves hsettled fun heq => by cases heq⟩
    · dsimp only
      split
      · next e _ =>
        refine ⟨rfl, rfl, settled_moves hsettled ?_⟩
        cases e <;> exact fun heq => by cases heq
      · refine ⟨rfl, rfl, settled_moves hsettled ?_⟩
        dsimp only
        split_ifs <;> exact fun heq => by cases heq
  | callGetWaiters =>
    obtain ⟨message, asset, root, hold, rfl⟩ := step_callGetWaiters h
    have hsettled : s.receiver.Settled := .inl (by rw [hold]; rfl)
    unfold callGetWaiters
    dsimp only
    split <;> exact ⟨rfl, rfl, settled_moves hsettled fun heq => by cases heq⟩
  | disconnect exn =>
    obtain ⟨e, hold, rfl⟩ := step_disconnect h
    have hsettled : s.receiver.Settled := .inr (by rw [hold]; rfl)
    refine ⟨rfl, rfl, settled_moves hsettled ?_⟩
    cases exn <;> exact fun heq => by cases heq
  | freeAllWaiters =>
    obtain ⟨e, ⟨hold, rfl⟩ | ⟨hold, rfl⟩⟩ := step_freeAllWaiters h <;>
      exact ⟨rfl, rfl, settled_moves (.inr (by rw [hold]; rfl)) fun heq => by cases heq⟩
  | checkConnected connected => exact absurd rfl (hcheck connected)
  | connect attempt => cases hconnect
  | stop => exact absurd rfl hstop

end RemoteServer

namespace Session

variable {s s' : Session}

lemma Authenticated.request {log : List Entry} (h : Authenticated log) (k n : Nat) :
    Authenticated (log ++ [.request k n]) := by
  obtain ⟨ns, rs, hsum, rfl⟩ := h
  exact ⟨ns, rs ++ [(k, n)], hsum, by simp⟩

lemma write_log (c : Nat) (entry : Entry) : (s.write c entry).log c = s.log c ++ [entry] :=
  Function.update_self ..

lemma write_log_of_ne {c c' : Nat} (entry : Entry) (h : c' ≠ c) :
    (s.write c entry).log c' = s.log c' :=
  Function.update_of_ne h _ _

/-- A property of the logs after a write. -/
lemma forall_write {P : Nat → List Entry → Prop} {c : Nat} {entry : Entry}
    (hold : ∀ c', P c' (s.log c')) (hnew : P c (s.log c ++ [entry])) (c' : Nat) :
    P c' ((s.write c entry).log c') := by
  by_cases hc : c' = c
  · rw [hc, write_log]
    exact hnew
  · rw [write_log_of_ne _ hc]
    exact hold c'

/-- A step of the client that neither connects nor stops. -/
lemma Inv.afterStep {e : RemoteServer.Event} {c : RemoteServer} (h : s.Inv)
    (hstep : s.client.step e = some c) (hconnect : isConnect e = false)
    (hcheck : ∀ connected, e ≠ .checkConnected connected) (hstop : e ≠ .stop) :
    (s.afterStep e c).Inv := by
  obtain ⟨hconn, hstopping, hconnecting, hsettled⟩ :=
    RemoteServer.step_frame hstep hconnect hcheck hstop
  have hprogress : (s.afterStep e c).progress = s.progress := by
    cases e with
    | checkConnected connected => exact absurd rfl (hcheck connected)
    | _ => rfl
  have htarget : ∀ c', (s.afterStep e c).target = some c' → s.target = some c' := by
    intro c' hc'
    cases e with
    | send k success => cases hc'
    | _ => exact hc'
  have hlog : (s.afterStep e c).log = s.log := rfl
  have hclient : (s.afterStep e c).client = c := rfl
  constructor
  · exact h.polite
  · rw [hclient, hconn]
    exact h.fresh
  · rw [hclient, hprogress, hlog, hconn]
    exact fun heq => h.connecting (hconnecting heq)
  · rw [hprogress, hclient, hconn]
    exact h.finished
  · rw [hclient, hprogress, hstopping]
    exact fun hrunning heq => h.settled hrunning (hsettled heq)
  · exact fun c' hc' => h.target c' (htarget c' hc')

/-- The socket is still connected, or there is a new one. -/
lemma Inv.checkConnected {connected : Bool} {c : RemoteServer} (h : s.Inv)
    (hstep : s.client.step (.checkConnected connected) = some c)
    (hpatient : connected = true → s.progress = .finished true) :
    (s.afterStep (.checkConnected connected) c).Inv := by
  obtain ⟨-, rfl⟩ := RemoteServer.step_checkConnected.mp hstep
  unfold RemoteServer.checkConnected
  split_ifs with hloop
  · have hprogress : s.client.stopping = false → s.progress = .finished true := fun hrunning =>
      hpatient (hloop.resolve_left (by rw [hrunning]; decide))
    exact
      { polite := h.polite
        fresh := h.fresh
        connecting := nofun
        finished := h.finished
        settled := fun hrunning _ => hprogress hrunning
        target := h.target }
  · have hnil : s.log (s.client.conn + 1) = [] := h.fresh _ (Nat.lt_succ_self _)
    exact
      { polite := h.polite
        fresh := fun c hc => h.fresh c (Nat.lt_of_succ_lt hc)
        connecting := fun _ => hnil
        finished := nofun
        settled := fun _ hsettled => by rcases hsettled with hs | hs <;> cases hs
        target := h.target }

/-- While a thread connects, no call writes to the new socket. -/
lemma Inv.not_target (h : s.Inv) (hreceiver : s.client.receiver = .connecting) {c : Nat}
    (hc : s.target = some c) : c ≠ s.client.conn := by
  rintro rfl
  obtain ⟨ms, rs, -, hlog⟩ := h.target _ hc
  have hmem : Entry.success ∈ s.log s.client.conn := by
    rw [hlog]
    exact List.mem_append_right _ List.mem_cons_self
  have hconnecting := h.connecting hreceiver
  cases hprogress : s.progress with
  | responding sent =>
    rw [hprogress] at hconnecting
    obtain ⟨-, ns, -, hresponse⟩ := hconnecting
    rw [hresponse] at hmem
    obtain ⟨m, -, hm⟩ := List.mem_map.mp hmem
    cases hm
  | finished returned =>
    rw [hprogress] at hconnecting
    exact hconnecting
  | _ =>
    rw [hprogress] at hconnecting
    rw [hconnecting] at hmem
    exact List.not_mem_nil hmem

lemma Inv.respond {sent n : Nat} (h : s.Inv) (hprogress : s.progress = .responding sent)
    (hreceiver : s.client.receiver = .connecting) (hle : sent + n ≤ authResponseSize) :
    { s.write s.client.conn (.response n) with progress := .responding (sent + n) }.Inv := by
  have hconnecting := h.connecting hreceiver
  rw [hprogress] at hconnecting
  obtain ⟨-, ns, hsum, hlog⟩ := hconnecting
  have hnew : s.log s.client.conn ++ [.response n] = (ns ++ [n]).map Entry.response := by
    rw [hlog, List.map_append]
    rfl
  have hsum' : (ns ++ [n]).sum = sent + n := by
    rw [List.sum_append, hsum, List.sum_singleton]
  refine
    { polite := forall_write h.polite (.inl ⟨_, hsum'.trans_le hle, hnew⟩)
      fresh := fun c hc => (write_log_of_ne _ (Nat.ne_of_gt hc)).trans (h.fresh c hc)
      connecting := fun _ => ⟨hle, _, hsum', (write_log ..).trans hnew⟩
      finished := nofun
      settled := fun _ hsettled => ?_
      target := fun c hc => ?_ }
  · have hsettled : s.client.receiver.Settled := hsettled
    rw [hreceiver] at hsettled
    rcases hsettled with hs | hs <;> cases hs
  · have hsame : (s.write s.client.conn (.response n)).log c = s.log c :=
      write_log_of_ne _ (h.not_target hreceiver hc)
    exact hsame.symm ▸ h.target c hc

lemma clientAfter_conn (attempt : RemoteServer.Attempt) :
    (s.clientAfter attempt).conn = s.client.conn := by
  unfold clientAfter RemoteServer.connect
  split_ifs
  · rfl
  · split <;> rfl

/-- Behind `Connect` the receive thread is in its loop, in the one that connects, or over. -/
lemma clientAfter_receiver (attempt : RemoteServer.Attempt) :
    (s.clientAfter attempt).receiver ≠ .connecting ∧
      ((s.clientAfter attempt).receiver.Settled → attempt.outcome.isOk = true) := by
  unfold clientAfter RemoteServer.connect
  cases houtcome : attempt.outcome with
  | ok u =>
    refine ⟨?_, fun _ => rfl⟩
    split_ifs <;> exact nofun
  | error e =>
    split_ifs
    · exact ⟨nofun, fun hs => by rcases hs with hs | hs <;> cases hs⟩
    · cases e <;> exact ⟨nofun, fun hs => by rcases hs with hs | hs <;> cases hs⟩

lemma afterConnect_log (attempt : RemoteServer.Attempt) :
    (s.afterConnect attempt).log s.client.conn = record attempt (s.log s.client.conn) :=
  Function.update_self ..

lemma afterConnect_log_of_ne (attempt : RemoteServer.Attempt) {c : Nat} (hc : c ≠ s.client.conn) :
    (s.afterConnect attempt).log c = s.log c :=
  Function.update_of_ne hc _ _

/-- With the status read, the whole response was written before it. -/
lemma Inv.record (h : s.Inv) {attempt : RemoteServer.Attempt}
    (hreceiver : s.client.receiver = .connecting)
    (hok : attempt.outcome.isOk → s.progress = .responding authResponseSize) :
    Polite (record attempt (s.log s.client.conn)) ∧
      (attempt.outcome.isOk = true → Authenticated (record attempt (s.log s.client.conn))) := by
  have hconnecting := h.connecting hreceiver
  unfold Session.record
  cases houtcome : attempt.outcome with
  | ok u =>
    rw [hok (by rw [houtcome]; rfl)] at hconnecting
    obtain ⟨-, ns, hsum, hlog⟩ := hconnecting
    have hauthenticated : Authenticated (s.log s.client.conn ++ [.success]) :=
      ⟨ns, [], hsum, by rw [hlog]; rfl⟩
    exact ⟨.inr hauthenticated, fun _ => hauthenticated⟩
  | error e => exact ⟨h.polite _, nofun⟩

lemma Inv.afterConnect (h : s.Inv) {attempt : RemoteServer.Attempt}
    (hreceiver : s.client.receiver = .connecting)
    (hok : attempt.outcome.isOk → s.progress = .responding authResponseSize) :
    (s.afterConnect attempt).Inv := by
  obtain ⟨hpolite, hauthenticated⟩ := h.record hreceiver hok
  obtain ⟨hne, hsettled⟩ := s.clientAfter_receiver attempt
  have hconn : (s.afterConnect attempt).client.conn = s.client.conn := s.clientAfter_conn attempt
  refine
    { polite := fun c => ?_, fresh := fun c hc => ?_, connecting := fun heq => absurd heq hne
      finished := fun heq => ?_
      settled := fun _ hs => congrArg Progress.finished (hsettled hs), target := fun c hc => ?_ }
  · by_cases hc : c = s.client.conn
    · rw [hc, afterConnect_log]
      exact hpolite
    · rw [afterConnect_log_of_ne attempt hc]
      exact h.polite c
  · rw [hconn] at hc
    exact (afterConnect_log_of_ne attempt (Nat.ne_of_gt hc)).trans (h.fresh c hc)
  · rw [hconn, afterConnect_log]
    exact hauthenticated (Progress.finished.inj heq)
  · rw [afterConnect_log_of_ne attempt (h.not_target hreceiver hc)]
    exact h.target c hc

/-- A call reads `_conn` while nobody connects. -/
lemma Inv.beginSend (h : s.Inv) (hrunning : s.client.stopping = false)
    (hsettled : s.client.receiver.Settled) : { s with target := some s.client.conn }.Inv := by
  have hover := h.finished (h.settled hrunning hsettled)
  refine { h with target := fun c hc => ?_ }
  obtain rfl := Option.some.inj hc
  exact hover

/-- A request, or a part of it, is written. -/
lemma Inv.sendBytes {c k n : Nat} (h : s.Inv) (hc : s.target = some c) :
    (s.write c (.request k n)).Inv := by
  have hnew : Authenticated (s.log c ++ [.request k n]) := (h.target c hc).request k n
  have hstays : ∀ c', Authenticated (s.log c') → Authenticated ((s.write c (.request k n)).log c') :=
    forall_write (P := fun c' log => Authenticated (s.log c') → Authenticated log) (fun _ => id)
      fun _ => hnew
  refine
    { polite := forall_write h.polite (.inr hnew), fresh := fun c' hc' => ?_
      connecting := fun hreceiver => ?_, finished := fun hover => hstays _ (h.finished hover)
      settled := h.settled, target := fun c' hc' => hstays c' (h.target c' hc') }
  · have hne : c' ≠ c := fun heq => by
      obtain ⟨ns, rs, -, hlog⟩ := h.target c hc
      have hnil : s.log c = [] := heq ▸ h.fresh c' hc'
      rw [hnil] at hlog
      exact absurd hlog (by simp)
    exact (write_log_of_ne _ hne).trans (h.fresh c' hc')
  · have hne : s.client.conn ≠ c := (h.not_target hreceiver hc).symm
    have hsame : (s.write c (.request k n)).log s.client.conn = s.log s.client.conn :=
      write_log_of_ne _ hne
    have hconnecting := h.connecting hreceiver
    rw [← hsame] at hconnecting
    exact hconnecting

/-- One step. -/
lemma Inv.step {a : Action} (h : s.Inv) (hpatient : s.Patient a) (hstep : s.step a = some s') :
    s'.Inv := by
  cases a with
  | client e =>
    obtain ⟨hconnect, c, hc, rfl⟩ := step_client.mp hstep
    by_cases hcheck : ∃ connected, e = .checkConnected connected
    · obtain ⟨connected, rfl⟩ := hcheck
      exact h.checkConnected hc hpatient
    · by_cases hstop : e = .stop
      · subst hstop
        obtain rfl := Option.some.inj hc
        exact { h with settled := nofun }
      · exact h.afterStep hc hconnect (fun connected heq => hcheck ⟨connected, heq⟩) hstop
  | connected =>
    obtain ⟨⟨hreceiver, hprogress⟩, rfl⟩ := guarded_eq_some.mp hstep
    have hlog := h.connecting hreceiver
    rw [hprogress] at hlog
    refine { h with connecting := fun _ => hlog, finished := nofun, settled := fun _ hs => ?_ }
    have hs : s.client.receiver.Settled := hs
    rw [hreceiver] at hs
    rcases hs with hs | hs <;> cases hs
  | challenged =>
    obtain ⟨⟨hreceiver, hprogress⟩, rfl⟩ := guarded_eq_some.mp hstep
    have hlog := h.connecting hreceiver
    rw [hprogress] at hlog
    refine { h with connecting := fun _ => ⟨Nat.zero_le _, [], rfl, hlog⟩, finished := nofun
                    settled := fun _ hs => ?_ }
    have hs : s.client.receiver.Settled := hs
    rw [hreceiver] at hs
    rcases hs with hs | hs <;> cases hs
  | respond n =>
    simp only [Session.step] at hstep
    split at hstep
    · next sent hprogress =>
      obtain ⟨⟨hreceiver, hle⟩, rfl⟩ := guarded_eq_some.mp hstep
      exact h.respond hprogress hreceiver hle
    · cases hstep
  | ends attempt =>
    obtain ⟨⟨hreceiver, hok⟩, rfl⟩ := guarded_eq_some.mp hstep
    exact h.afterConnect hreceiver hok
  | beginSend k =>
    obtain ⟨-, rfl⟩ := guarded_eq_some.mp hstep
    exact h.beginSend hpatient.1 hpatient.2
  | sendBytes k n =>
    simp only [Session.step] at hstep
    split at hstep
    · next c hc =>
      obtain ⟨-, rfl⟩ := guarded_eq_some.mp hstep
      exact h.sendBytes hc
    · cases hstep

/-- In a run of patient steps, on every socket the response to the challenge is written first, and
requests only after the status `AS_SUCCESS` was read. -/
theorem run_polite {actions : List Action} (hrun : run step start actions = some s)
    (hmeets : Meets step Patient start actions) (c : Nat) : Polite (s.log c) := by
  have h : s.Inv := invariant_of_meets (P := Inv) (fun t a t' ht hpatient => ht.step hpatient)
    hrun hmeets start_inv
  exact h.polite c

/-- The client starts and sends a request; the server closes the connection, the first attempt to
connect again fails while the response is written, and the next succeeds. -/
def reconnection (uuid : Bytes) : List Action :=
  [.connected, .challenged, .respond 20, .client (.call .put uuid false), .respond 21,
    .ends (.accepted [[0, 1, 2, 3, 4, 5, 6, 7], [1, 0]] false), .client (.enqueue 0), .beginSend 0,
    .sendBytes 0 30, .client .iterate, .sendBytes 0 7, .client (.send 0 true), .client (.read [[]]),
    .client .freeAllWaiters, .client .freeAllWaiters, .client (.checkConnected false), .connected,
    .challenged, .respond 5, .ends (.accepted [[0, 1, 2, 3, 4, 5, 6, 7]] true),
    .client (.checkConnected false), .connected, .challenged, .respond 41,
    .ends (.accepted [[0, 1, 2, 3, 4, 5, 6, 7], [1, 0]] false), .client (.checkConnected true)]

theorem run_polite_reconnection :
    ∃ s, run step start (reconnection (List.replicate 32 97)) = some s ∧
      s.log 0 = [.response 20, .response 21, .success, .request 0 30, .request 0 7] ∧
      s.log 1 = [.response 5] ∧ s.log 2 = [.response 41, .success] ∧ Polite (s.log 0) := by
  obtain ⟨s, hs, h0, h1, h2⟩ : ∃ s, run step start (reconnection (List.replicate 32 97)) = some s ∧
      s.log 0 = [.response 20, .response 21, .success, .request 0 30, .request 0 7] ∧
      s.log 1 = [.response 5] ∧ s.log 2 = [.response 41, .success] := ⟨_, rfl, rfl, rfl, rfl⟩
  have hmeets : Meets step Patient start (reconnection (List.replicate 32 97)) :=
    .cons rfl trivial <| .cons rfl trivial <| .cons rfl trivial <| .cons rfl trivial <|
      .cons rfl trivial <| .cons rfl trivial <| .cons rfl trivial <| .cons rfl ⟨rfl, .inl rfl⟩ <|
      .cons rfl trivial <| .cons rfl trivial <| .cons rfl trivial <| .cons rfl trivial <|
      .cons rfl trivial <| .cons rfl trivial <| .cons rfl trivial <| .cons rfl nofun <|
      .cons rfl trivial <| .cons rfl trivial <| .cons rfl trivial <| .cons rfl trivial <|
      .cons rfl nofun <| .cons rfl trivial <| .cons rfl trivial <| .cons rfl trivial <|
      .cons rfl trivial <| .cons rfl (fun _ => rfl) trivial
  exact ⟨s, hs, h0, h1, h2, run_polite hs hmeets 0⟩

/-- The server closes the connection; while the receive thread reads the challenge on the next one,
a call writes its request. -/
def intrusion (uuid : Bytes) : List Action :=
  [.connected, .challenged, .respond 41,
    .ends (.accepted [[0, 1, 2, 3, 4, 5, 6, 7], [1, 0]] false), .client .iterate,
    .client (.read [[]]), .client .freeAllWaiters, .client .freeAllWaiters,
    .client (.checkConnected false), .connected, .client (.call .put uuid false),
    .client (.enqueue 0), .beginSend 0, .sendBytes 0 37, .client (.send 0 true), .challenged,
    .respond 41]

/-- The first bytes on the new socket are those of a request. -/
theorem not_polite_intrusion :
    ∃ s, run step start (intrusion (List.replicate 32 97)) = some s ∧
      s.log 1 = [.request 0 37, .response 41] ∧ ¬ Polite (s.log 1) := by
  obtain ⟨s, hs, hlog⟩ : ∃ s, run step start (intrusion (List.replicate 32 97)) = some s ∧
      s.log 1 = [.request 0 37, .response 41] := ⟨_, rfl, rfl⟩
  refine ⟨s, hs, hlog, ?_⟩
  rw [hlog]
  rintro (⟨ns, -, hns⟩ | ⟨ns, rs, -, hns⟩)
  · cases ns <;> cases hns
  · cases ns <;> cases hns

end Session

end Halcyon.Client
