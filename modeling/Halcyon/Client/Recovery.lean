import Halcyon.Client.Pairing
import Halcyon.Client.Survival

/-!
# Recovering from errors

Two threads empty the queue of waiters, the one that reads and the one whose write failed, but only
the first opens a new connection.  Where a write fails while responses are still to come on the
socket, these responses find other waiters in the queue, or none.  The same happens when a request
is written while the receive thread is connecting, or by a call that was released in the meantime.

`Calm` is what a step needs so that nothing of this kind happens.  It leaves room for calls at any
time, failed writes, failed reads, malformed responses, refused connections and connections that
fail during the authentication, in any order.  Under it `Sound` is kept (`Sound.step`), and no
response is mixed up.
-/

namespace Halcyon.Client

open Halcyon.Lib Halcyon.Whip Lib.Transition

namespace RemoteServer

/-- What a step needs.  A request is written to a socket that is being read, by a call that was not
released, and when no other call has a failed write to handle.  A write fails only when all
responses on the socket were handed out, and the call whose write failed empties the dictionary when
no get waits for its response.  The server answers the requests of a socket in their order.  A
socket that is still connected after an error has no response to come.  The rest is what ends the
receive thread. -/
def Calm (s : RemoteServer) : Event → Prop
  | .send k success =>
    if success then s.receiver.inLoop = true ∧ (s.waiter k).error = none ∧
      ∀ j < s.issued, s.stage j ≠ .sendFailed
    else s.unanswered = []
  | .handleSendError k => s.stage k = .freed →
    (∀ r < s.issued, (s.request r).type = .get → r ∉ s.unanswered) ∧
      ∀ message asset root, s.receiver ≠ .notifying message asset root
  | .read pieces => ∀ message, readServerResponseMsg pieces = .ok (message, []) →
    ∃ r, (s.written s.conn)[(s.messages s.conn).length]? = some r ∧ Answers message (s.request r)
  | .disconnect exn => exn = none
  | .checkConnected connected => connected = true →
    (s.written s.conn).length = (s.handed s.conn).length
  | .connect attempt => ∀ pieces sendFails, attempt = .accepted pieces sendFails → Welcoming pieces
  | .stop => False
  | _ => True

/-- What holds in a run whose steps are calm. -/
structure Sound (s : RemoteServer) : Prop where
  tidy : s.Tidy
  delivered : s.Delivered
  consistent : s.Consistent
  running : s.stopping = false

variable {s s' : RemoteServer} {k : Nat} {message : ServerResponseMsg}

lemma start_sound : start.Sound := ⟨start_tidy, start_delivered, start_consistent, rfl⟩

lemma Sound.call (h : s.Sound) {type : RequestType} {uuid : Bytes} {callBack : Bool}
    (hcallBack : callBack = true → type = .get) : (s.call type uuid callBack).Sound := by
  have htidy : (s.call type uuid callBack).Tidy := h.tidy.call hcallBack
  have hconsistent : (s.call type uuid callBack).Consistent :=
    h.consistent.call h.tidy h.delivered
  obtain ⟨req, d, st, hcall, -⟩ := h.tidy.call_eq type uuid callBack
  rw [hcall] at htidy hconsistent ⊢
  exact ⟨htidy, h.delivered.issued h.tidy, hconsistent, h.running⟩

lemma Sound.send (h : s.Sound) (hlock : s.sendSync = some k) (hstage : s.stage k = .send)
    {success : Bool} (hcalm : s.Calm (.send k success)) : (s.send k success).Sound := by
  cases success with
  | true =>
    obtain ⟨hloop, herror, hnone⟩ : s.receiver.inLoop = true ∧ (s.waiter k).error = none ∧
      ∀ j < s.issued, s.stage j ≠ .sendFailed := hcalm
    have hk := ((h.tidy.lock k).mp hlock).1
    have hwaiting := (h.tidy.sending k hk (.inl hstage)).resolve_right (not_not.mpr herror)
    exact ⟨h.tidy.send hlock, h.delivered.send h.tidy hlock hwaiting,
      h.consistent.send h.tidy h.delivered hlock hloop hnone herror, h.running⟩
  | false =>
    refine ⟨h.tidy.sendFailed hlock, h.delivered.moved fun hs => ?_,
      h.consistent.sendFailed h.tidy hlock hcalm, h.running⟩
    rw [hstage] at hs
    rcases hs with hs | hs <;> cases hs

lemma Delivered.free {ks : List Nat} {e : ClientException} {st : Stage} {l : Option Nat}
    {q : List Nat} {ns : List (Nat × Notice)} (h : s.Delivered)
    (hstage : s.stage k = .sendFailed ∨ s.stage k = .freed) :
    ((s.release ks e).moved k st l q ns).Delivered := by
  refine h.release.moved fun hs => ?_
  have hs : s.stage k = .waitOne ∨ s.stage k = .returned := hs
  rcases hstage with hf | hf <;> rw [hf] at hs <;> rcases hs with hs | hs <;> cases hs

/-- The two locks of a call whose write failed. -/
lemma Sound.handleSendError (h : s.Sound) (hcalm : s.Calm (.handleSendError k))
    (hstep : s.step (.handleSendError k) = some s') : s'.Sound := by
  obtain ⟨hk, ⟨hstage, rfl⟩ | ⟨hstage, rfl⟩⟩ := step_handleSendError hstep
  · have hdelivered : ((s.release s.waitingRequests .socketException).moved k .freed s.sendSync []
        s.notices).Delivered := h.delivered.free (.inl hstage)
    exact ⟨h.tidy.sendErrorFreed hk hstage _, { hdelivered with },
      h.consistent.sendErrorFreed hk hstage _, h.running⟩
  · obtain ⟨hgets, hnotifying⟩ := hcalm hstage
    have hdelivered : ((s.release s.joined .socketException).moved k .returned s.sendSync
        s.waitingRequests s.notices).Delivered := h.delivered.free (.inr hstage)
    have htidy := h.tidy.endSendError hk hstage
    have hconsistent := h.consistent.endSendError hstage hgets hnotifying
    unfold RemoteServer.endSendError at htidy hconsistent ⊢
    dsimp only at htidy hconsistent ⊢
    split_ifs at htidy hconsistent ⊢
    · exact ⟨htidy, { hdelivered with }, hconsistent, h.running⟩
    · exact ⟨htidy, { hdelivered with }, hconsistent, h.running⟩

/-- The condition of the receive loop, with no stop asked for. -/
lemma Sound.iterate (h : s.Sound) (hreceiver : s.receiver = .loop) :
    { s with receiver := if s.stopping then .ended none else .reading }.Sound := by
  have hplain : s.receiver.Plain := by
    rw [hreceiver]
    exact ⟨nofun, nofun, nofun⟩
  have hloop : s.receiver.inLoop = true := by rw [hreceiver]; rfl
  rw [if_neg (by rw [h.running]; decide)]
  refine ⟨{ h.tidy with }, { h.delivered with }, ?_, h.running⟩
  refine h.consistent.moves hplain ⟨nofun, nofun, nofun⟩ (unanswered_of_inLoop hloop).symm
    (fun hf => ?_) fun hf => ?_
  · rw [(Receiver.not_failing hloop).1] at hf
    cases hf
  · rw [(Receiver.not_failing hloop).2] at hf
    cases hf

lemma failing_raise {e : ClientException} (he : e.Handled) :
    ∃ x, s.raise e = { s with receiver := x } ∧ x.failing = true := by
  cases e with
  | socketException => exact ⟨_, rfl, rfl⟩
  | assetServerError m => exact ⟨_, rfl, rfl⟩
  | assetProtocolError m => exact ⟨_, rfl, rfl⟩
  | _ => exact he.elim

/-- A response is read, or reading fails. -/
lemma Sound.read (h : s.Sound) {pieces : List Bytes} (hreceiver : s.receiver = .reading)
    (hcalm : s.Calm (.read pieces)) (hread : s.read pieces = some s') : s'.Sound := by
  have hends := ends_readServerResponseMsg pieces
  unfold RemoteServer.read at hread
  split at hread
  · next e he =>
    rw [he] at hends
    obtain rfl := Option.some.inj hread
    obtain ⟨x, hraise, hfailing⟩ := failing_raise (s := s) hends
    have hplain : s.receiver.Plain := by
      rw [hreceiver]
      exact ⟨nofun, nofun, nofun⟩
    rw [hraise]
    exact ⟨{ h.tidy with }, { h.delivered with }, h.consistent.fails hplain hfailing, h.running⟩
  · next m hm =>
    obtain rfl := Option.some.inj hread
    obtain ⟨r, hr, hanswers⟩ := hcalm m hm
    exact ⟨h.tidy.withMessage, h.delivered.withMessage,
      h.consistent.withMessage hreceiver hr hanswers, h.running⟩
  · cases hread

lemma Sound.dequeue (h : s.Sound) (hreceiver : s.receiver = .received message) :
    (s.dequeue message).Sound := by
  obtain ⟨r, ks, asset, hq, hdequeue⟩ := h.consistent.dequeue_eq h.tidy hreceiver
  rw [hdequeue]
  exact ⟨hq.tidy h.tidy h.delivered, h.delivered.withHanded h.tidy hq.read hq.written,
    h.consistent.withHanded h.tidy hq, h.running⟩

lemma Sound.callGetWaiters {asset : Option Asset} {root : Nat} (h : s.Sound)
    (hreceiver : s.receiver = .notifying message asset root) :
    (s.callGetWaiters message asset).Sound := by
  obtain ⟨ks, hp, hcall⟩ := h.consistent.callGetWaiters_eq h.tidy hreceiver
  rw [hcall]
  exact ⟨hp.tidy h.tidy, hp.delivered h.tidy h.delivered,
    hp.consistent h.tidy h.delivered h.consistent, h.running⟩

/-- The two locks of the receive thread. -/
lemma Sound.freeAllWaiters (h : s.Sound) (hstep : s.step .freeAllWaiters = some s') : s'.Sound := by
  obtain ⟨e, ⟨hreceiver, rfl⟩ | ⟨hreceiver, rfl⟩⟩ := step_freeAllWaiters hstep
  · have hdelivered : (s.release s.waitingRequests e).Delivered := h.delivered.release
    exact ⟨{ h.tidy.freeWaitingRequests e with }, { hdelivered with },
      h.consistent.receiveErrorFreed hreceiver, h.running⟩
  · have hdelivered : (s.release s.joined e).Delivered := h.delivered.release
    exact ⟨{ h.tidy.freeGetWaiters e with }, { hdelivered with },
      h.consistent.receiveErrorEnds hreceiver, h.running⟩

/-- The socket is still connected, or there is a new one. -/
lemma Sound.checkConnected (h : s.Sound) {connected : Bool} (hreceiver : s.receiver = .reconnecting)
    (hcalm : s.Calm (.checkConnected connected)) : (s.checkConnected connected).Sound := by
  unfold RemoteServer.checkConnected
  split_ifs with hconnected
  · have hlength := hcalm (hconnected.resolve_left (by rw [h.running]; decide))
    have hplain : s.receiver.Plain := by
      rw [hreceiver]
      exact ⟨nofun, nofun, nofun⟩
    have hold : s.unanswered = [] := unanswered_of_not_inLoop (by rw [hreceiver]; rfl)
    have hnew : { s with receiver := .loop }.unanswered = [] := by
      rw [unanswered_of_inLoop rfl]
      exact List.drop_eq_nil_of_le hlength.le
    refine ⟨{ h.tidy with }, { h.delivered with }, ?_, h.running⟩
    exact h.consistent.moves hplain ⟨nofun, nofun, nofun⟩ (hnew.trans hold.symm)
      (fun hf => by rw [hreceiver] at hf; cases hf) fun hf => by rw [hreceiver] at hf; cases hf
  · refine ⟨{ h.tidy with fresh := fun c hc => ?_ }, { h.delivered with },
      h.consistent.newSocket h.tidy hreceiver, h.running⟩
    exact h.tidy.fresh c (Nat.lt_of_succ_lt hc)

/-- One calm step. -/
lemma Sound.step {e : Event} (h : s.Sound) (hcalm : s.Calm e) (hstep : s.step e = some s') :
    s'.Sound := by
  cases e with
  | call type uuid callBack =>
    obtain ⟨hcallBack, rfl⟩ := step_call.mp hstep
    exact h.call hcallBack
  | enqueue k =>
    obtain ⟨⟨hk, hstage, hlock⟩, rfl⟩ := step_enqueue.mp hstep
    refine ⟨h.tidy.enqueue hk hstage hlock, h.delivered.moved fun hs => ?_,
      h.consistent.enqueue hstage hlock, h.running⟩
    rw [hstage] at hs
    rcases hs with hs | hs <;> cases hs
  | send k success =>
    obtain ⟨⟨hlock, hstage⟩, rfl⟩ := step_send.mp hstep
    exact h.send hlock hstage hcalm
  | handleSendError k => exact h.handleSendError hcalm hstep
  | wake k =>
    obtain ⟨⟨hk, hstage, hset⟩, rfl⟩ := step_wake.mp hstep
    exact ⟨h.tidy.wake hk hstage hset, h.delivered.moved fun _ => .inr rfl,
      h.consistent.wake hstage, h.running⟩
  | iterate =>
    obtain ⟨hreceiver, rfl⟩ := step_iterate.mp hstep
    exact h.iterate hreceiver
  | read pieces =>
    obtain ⟨hreceiver, hread⟩ := step_read.mp hstep
    exact h.read hreceiver hcalm hread
  | dequeue =>
    obtain ⟨m, hreceiver, rfl⟩ := step_dequeue hstep
    exact h.dequeue hreceiver
  | callGetWaiters =>
    obtain ⟨m, asset, root, hreceiver, rfl⟩ := step_callGetWaiters hstep
    exact h.callGetWaiters hreceiver
  | disconnect exn =>
    obtain rfl : exn = none := hcalm
    obtain ⟨e, hreceiver, rfl⟩ := step_disconnect hstep
    have hplain : s.receiver.Plain := by
      rw [hreceiver]
      exact ⟨nofun, nofun, nofun⟩
    exact ⟨{ h.tidy with }, { h.delivered with }, h.consistent.fails hplain rfl, h.running⟩
  | freeAllWaiters => exact h.freeAllWaiters hstep
  | checkConnected connected =>
    obtain ⟨hreceiver, rfl⟩ := step_checkConnected.mp hstep
    exact h.checkConnected hreceiver hcalm
  | connect attempt =>
    obtain ⟨hreceiver, rfl⟩ := step_connect.mp hstep
    have hplain : s.receiver.Plain := by
      rw [hreceiver]
      exact ⟨nofun, nofun, nofun⟩
    have hold : s.unanswered = [] := unanswered_of_not_inLoop (by rw [hreceiver]; rfl)
    rw [connect_eq hcalm]
    refine ⟨{ h.tidy with }, { h.delivered with }, ?_, h.running⟩
    exact h.consistent.moves hplain ⟨nofun, nofun, nofun⟩ hold.symm
      (fun hf => by rw [hreceiver] at hf; cases hf) fun hf => by rw [hreceiver] at hf; cases hf
  | stop => exact hcalm.elim

/-- A thread is about to empty the queue. -/
def EmptiesQueue (s : RemoteServer) : Prop :=
  (∃ k < s.issued, s.stage k = .sendFailed) ∨ s.receiver.failing = true

/-- A waiter has its response or an error, or its request is on its way, or a thread is about to
release it. -/
lemma Sound.waits (h : s.Sound) (hk : k < s.issued) :
    s.Live (s.request k).servedBy ∨
      ((s.waiter k).waitEvent = true ∧
        ((s.waiter k).error ≠ none ∨ (s.waiter k).response ≠ none)) ∨
      (k ∈ s.waitingRequests ∧ s.EmptiesQueue) ∨ (k ∈ s.joined ∧ s.Freeing) := by
  -- A call that is about to write its request may have been released.
  have hsends : (s.request k).servedBy = k → (s.stage k).sends = true →
      s.Live (s.request k).servedBy ∨ ((s.waiter k).waitEvent = true ∧
        ((s.waiter k).error ≠ none ∨ (s.waiter k).response ≠ none)) := fun hserved hsends => by
    by_cases herror : (s.waiter k).error = none
    · exact .inl (.inl (by rw [hserved]; exact ⟨hsends, herror⟩))
    · exact .inr ⟨h.tidy.released k herror, .inl herror⟩
  have hleft : ∀ {a b c d : Prop}, a ∨ b → a ∨ b ∨ c ∨ d := fun hab => hab.imp_right .inl
  rcases h.tidy.settled k hk with hstage | hmem | hmem | hset
  · exact hleft (hsends (h.tidy.sender k hk hstage) (by rw [hstage]; rfl))
  · have hserved := (h.tidy.waiting k hmem).2.2
    rcases h.consistent.queue with hfailing | ⟨fs, l, hqueue, hfs, hl⟩
    · exact .inr (.inr (.inl ⟨hmem, .inr hfailing⟩))
    · have hparts := hmem
      rw [hqueue, List.append_assoc, List.mem_append, List.mem_append] at hparts
      rcases hparts with hin | hin | hin
      · exact .inl (.inr (.inl (hserved.symm ▸ hin)))
      · exact .inr (.inr (.inl ⟨hmem, .inl ⟨k, hk, hfs k hin⟩⟩))
      · rcases hl with rfl | rfl
        · have hstage := ((h.tidy.lock k).mp (Option.mem_toList.mp hin)).2
          exact hleft (hsends hserved (by rw [hstage]; rfl))
        · exact absurd hin List.not_mem_nil
  · obtain ⟨p, hp, hkp⟩ := mem_joined.mp hmem
    obtain ⟨-, r, js, hks, hall⟩ := h.tidy.groups p hp
    have hhead : p.2.head? = some r := by rw [hks]; rfl
    rw [(hall k hkp).2.2.2]
    exact (h.consistent.heads p hp r hhead).imp_right fun hfreeing => .inr (.inr ⟨hmem, hfreeing⟩)
  · exact .inr (.inl ⟨hset, h.tidy.set k hset⟩)

/-- In a run whose steps are calm:

* the receive thread never ends, so that no response was taken for an empty queue;
* the `n`-th message of a socket that was handed out went to the waiter of the `n`-th request
  written to this socket, and it holds that message;
* every response that a waiter holds is the one to its own request, or to the get that it joined, on
  the socket to which that was written;
* a waiter whose request is not on its way any more has its response, or was released with an error,
  or a thread is about to release it. -/
theorem run_unmixed {events : List Event} (hrun : run step start events = some s)
    (hmeets : Meets step Calm start events) :
    (∀ e, s.receiver ≠ .ended e) ∧
    (∀ c n k : Nat, (s.handed c)[n]? = some k → (s.written c)[n]? = some k ∧
      ∃ message, (s.messages c)[n]? = some message ∧ (s.waiter k).response = some message) ∧
    (∀ k message, (s.waiter k).response = some message →
      ∃ c n : Nat, (s.written c)[n]? = some (s.request k).servedBy ∧
        (s.messages c)[n]? = some message) ∧
    ∀ k < s.issued, s.Live (s.request k).servedBy ∨
      ((s.waiter k).waitEvent = true ∧
        ((s.waiter k).error ≠ none ∨ (s.waiter k).response ≠ none)) ∨
      (k ∈ s.waitingRequests ∧ s.EmptiesQueue) ∨ (k ∈ s.joined ∧ s.Freeing) := by
  have h : s.Sound := invariant_of_meets (P := Sound) (fun t e t' ht hcalm => ht.step hcalm)
    hrun hmeets start_sound
  refine ⟨h.consistent.alive, fun c n k hk => ?_, fun k m hm => ?_, fun k hk => h.waits hk⟩
  · exact ⟨h.tidy.written_of_handed hk, h.delivered.response c n k hk⟩
  · obtain ⟨-, ⟨c, n, hr, hmessage⟩, -⟩ := h.tidy.right k m hm
    exact ⟨c, n, h.tidy.written_of_handed hr, hmessage⟩

/-- The message that a request was carried out, without data. -/
def okMessage (uuid : Bytes) : Bytes := 13 :: uuid ++ [0, 0, 0, 0]

/-- A put whose write fails; a get during which the server closes the connection; a refused
connection; and a put that is called while the client connects again. -/
def troubles (uuid : Bytes) : List Event :=
  [.call .put uuid false, .enqueue 0, .send 0 false, .handleSendError 0, .handleSendError 0,
    .iterate, .call .get uuid false, .enqueue 1, .send 1 true, .read [[]], .freeAllWaiters,
    .freeAllWaiters, .wake 1, .checkConnected false, .connect .refused, .checkConnected false,
    .call .put uuid false,
    .connect (.accepted [[0, 1, 2, 3], [4, 5, 6, 7, 1], [0]] false), .checkConnected true,
    .iterate, .enqueue 2, .send 2 true, .read [okMessage uuid], .dequeue, .wake 2]

theorem run_unmixed_troubles : ∃ s, run step start (troubles (List.replicate 32 97)) = some s ∧
    s.handed 2 = [2] ∧ s.notices.map Prod.fst = [0, 1, 2] ∧ (s.waiter 1).error ≠ none ∧
    ∀ e, s.receiver ≠ .ended e := by
  obtain ⟨s, hs, hhanded, hnotices, herror⟩ : ∃ s,
      run step start (troubles (List.replicate 32 97)) = some s ∧ s.handed 2 = [2] ∧
      s.notices.map Prod.fst = [0, 1, 2] ∧
      (s.waiter 1).error = some (.assetServerError "Server disconnect during receive") :=
    ⟨_, rfl, rfl, rfl, rfl⟩
  have hwelcoming : Welcoming [[0, 1, 2, 3], [4, 5, 6, 7, 1], [0]] :=
    ⟨by decide, [1, 2, 3, 4, 5, 6, 7], rfl, by decide⟩
  have hmeets : Meets step Calm start (troubles (List.replicate 32 97)) := by
    refine .cons rfl trivial <| .cons rfl trivial <| .cons rfl rfl <| .cons rfl nofun <|
      .cons rfl (fun _ => ⟨fun _ _ _ => List.not_mem_nil, nofun⟩) <| .cons rfl trivial <|
      .cons rfl trivial <| .cons rfl trivial <| .cons rfl ?_ <| .cons rfl ?_ <|
      .cons rfl trivial <| .cons rfl trivial <| .cons rfl trivial <| .cons rfl nofun <|
      .cons rfl nofun <| .cons rfl nofun <| .cons rfl trivial <| .cons rfl ?_ <|
      .cons rfl (fun _ => rfl) <| .cons rfl trivial <| .cons rfl trivial <| .cons rfl ?_ <|
      .cons rfl ?_ <| .cons rfl trivial <| .cons rfl trivial trivial
    · exact ⟨rfl, rfl, by decide⟩
    · exact fun m hm => (nomatch hm)
    · intro pieces sendFails heq
      cases heq
      exact hwelcoming
    · exact ⟨rfl, rfl, by decide⟩
    · exact fun m hm => ⟨2, rfl, nofun⟩
  exact ⟨s, hs, hhanded, hnotices, by rw [herror]; exact Option.some_ne_none _,
    (run_unmixed hs hmeets).1⟩

/-- Two puts are written, and between them a third whose write fails. -/
def crossing (uuid uuid' uuid'' : Bytes) : List Event :=
  [.call .put uuid false, .enqueue 0, .send 0 true, .call .put uuid' false, .enqueue 1,
    .send 1 false, .handleSendError 1, .handleSendError 1, .call .put uuid'' false, .enqueue 2,
    .send 2 true, .iterate, .read [okMessage uuid], .dequeue, .iterate, .read [okMessage uuid''],
    .dequeue]

/-- The first response goes to the third put, and for the second the queue is empty: the receive
thread ends with an `InvalidOperationException`. -/
theorem mixed_crossing :
    ∃ s, run step start (crossing (List.replicate 32 97) (List.replicate 32 98)
        (List.replicate 32 99)) = some s ∧
      s.written 0 = [0, 2] ∧ s.handed 0 = [2] ∧
      (s.waiter 2).response = some ⟨.ok, List.replicate 32 97, []⟩ ∧
      s.receiver = .ended (some .invalidOperationException) :=
  ⟨_, rfl, rfl, rfl, rfl, rfl⟩

end RemoteServer

end Halcyon.Client
