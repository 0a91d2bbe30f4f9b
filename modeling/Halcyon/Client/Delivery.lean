import Halcyon.Client.Recovery

/-!
# Every caller gets its own answer

Without errors on the socket, and with a server that answers the requests in their order, the
`n`-th message read from a socket ends up with the waiter of the `n`-th request written to it,
whatever the threads of the callers do in between.  Such a run is calm, so this is a case of what
holds when the client recovers.  In addition nobody is ever released with an error: a call that was
told nothing yet has its request, or the request it joined, on its way, or its event is set
(`Paired.pending`); so when all requests are answered and no thread can go on, each call was told
exactly once.
-/

namespace Halcyon.Client

open Halcyon.Lib Halcyon.Whip Lib.Transition

namespace RemoteServer

/-- What the socket and the server do well in a step: what is written arrives, and what is read is
the answer to the first request on the socket that has none. -/
def Smooth (s : RemoteServer) : Event → Prop
  | .send _ success => success = true
  | .read pieces => ∃ message r, readServerResponseMsg pieces = .ok (message, []) ∧
      (s.written s.conn)[(s.messages s.conn).length]? = some r ∧ Answers message (s.request r)
  | .stop => False
  | _ => True

/-- What holds in a run of such steps. -/
structure Paired (s : RemoteServer) : Prop where
  sound : s.Sound
  inLoop : s.receiver.inLoop = true
  noFailure : ∀ k < s.issued, (s.stage k).frees = false
  noError : ∀ k, (s.waiter k).error = none

variable {s s' : RemoteServer} {k : Nat} {message : ServerResponseMsg}

lemma start_paired : start.Paired :=
  ⟨start_sound, rfl, fun k hk => absurd hk k.not_lt_zero, fun _ => rfl⟩

lemma Paired.not_sendFailed (h : s.Paired) : ∀ k < s.issued, s.stage k ≠ .sendFailed := by
  intro k hk hstage
  have hfrees := h.noFailure k hk
  rw [hstage] at hfrees
  cases hfrees

/-- A step of such a run is calm. -/
lemma Paired.calm {e : Event} (h : s.Paired) (hsmooth : s.Smooth e) (hstep : s.step e = some s') :
    s.Calm e := by
  have hloop := h.inLoop
  cases e with
  | send k success =>
    obtain rfl : success = true := hsmooth
    exact ⟨h.inLoop, h.noError k, h.not_sendFailed⟩
  | handleSendError k =>
    intro hstage
    have hfrees := h.noFailure k (step_handleSendError hstep).1
    rw [hstage] at hfrees
    cases hfrees
  | read pieces =>
    obtain ⟨m, r, hread, hr, hanswers⟩ := hsmooth
    intro m' hm'
    rw [hread] at hm'
    cases hm'
    exact ⟨r, hr, hanswers⟩
  | disconnect exn =>
    obtain ⟨e, hreceiver, -⟩ := step_disconnect hstep
    rw [hreceiver] at hloop
    cases hloop
  | checkConnected connected =>
    rw [(step_checkConnected.mp hstep).1] at hloop
    cases hloop
  | connect attempt =>
    rw [(step_connect.mp hstep).1] at hloop
    cases hloop
  | stop => exact hsmooth.elim
  | _ => trivial

/-- A call makes a new waiter and leaves the others. -/
lemma Paired.call (h : s.Paired) {type : RequestType} {uuid : Bytes} {callBack : Bool}
    (hsound : (s.call type uuid callBack).Sound) : (s.call type uuid callBack).Paired := by
  obtain ⟨req, d, st, hcall, hc⟩ := h.sound.tidy.call_eq type uuid callBack
  rw [hcall] at hsound ⊢
  refine ⟨hsound, h.inLoop, fun k hk => ?_, fun k => ?_⟩
  · rcases Nat.lt_succ_iff_lt_or_eq.mp hk with hk | rfl
    · rw [issued_stage hk]
      exact h.noFailure k hk
    · rw [issued_stage_self]
      cases hc with
      | other => rfl
      | first => rfl
      | join => split_ifs <;> rfl
  · by_cases hk : k = s.issued
    · rw [hk, issued_waiter_self]
    · have hwaiter : (s.issued' req d st).waiter k = s.waiter k := Function.update_of_ne hk _ _
      rw [hwaiter]
      exact h.noError k

/-- A thread goes on, and its write did not fail. -/
lemma Paired.goes (h : s.Paired) (st : Stage) (hsound : s'.Sound) (hst : st.frees = false)
    (hissued : s'.issued = s.issued) (hreceiver : s'.receiver = s.receiver)
    (hwaiter : s'.waiter = s.waiter) (hstage : s'.stage = Function.update s.stage k st) :
    s'.Paired := by
  refine ⟨hsound, hreceiver ▸ h.inLoop, fun j hj => ?_, hwaiter ▸ h.noError⟩
  rw [hstage]
  by_cases hjk : j = k
  · rw [hjk, Function.update_self]
    exact hst
  · rw [Function.update_of_ne hjk]
    exact h.noFailure j (hissued ▸ hj)

/-- One step of a run in which the socket works. -/
lemma Paired.step {e : Event} (h : s.Paired) (hsmooth : s.Smooth e) (hstep : s.step e = some s') :
    s'.Paired := by
  have hsound := h.sound.step (h.calm hsmooth hstep) hstep
  have hloop := h.inLoop
  cases e with
  | call type uuid callBack =>
    obtain ⟨-, rfl⟩ := step_call.mp hstep
    exact h.call hsound
  | enqueue k =>
    obtain ⟨-, rfl⟩ := step_enqueue.mp hstep
    exact h.goes .send hsound rfl rfl rfl rfl rfl
  | send k success =>
    obtain rfl : success = true := hsmooth
    obtain ⟨-, rfl⟩ := step_send.mp hstep
    refine h.goes (s.sentStage k) hsound ?_ rfl rfl rfl rfl
    rcases s.sentStage_cases k with hs | hs <;> rw [hs] <;> rfl
  | handleSendError k =>
    obtain ⟨hk, ⟨hstage, -⟩ | ⟨hstage, -⟩⟩ := step_handleSendError hstep <;>
    · have hfrees := h.noFailure k hk
      rw [hstage] at hfrees
      cases hfrees
  | wake k =>
    obtain ⟨-, rfl⟩ := step_wake.mp hstep
    exact h.goes .returned hsound rfl rfl rfl rfl rfl
  | iterate =>
    obtain ⟨-, rfl⟩ := step_iterate.mp hstep
    refine ⟨hsound, ?_, h.noFailure, h.noError⟩
    rw [if_neg (by rw [h.sound.running]; decide)]
    rfl
  | read pieces =>
    obtain ⟨m, r, hread, -⟩ := hsmooth
    obtain ⟨-, hstep⟩ := step_read.mp hstep
    rw [RemoteServer.read, hread] at hstep
    obtain rfl := Option.some.inj hstep
    exact ⟨hsound, rfl, h.noFailure, h.noError⟩
  | dequeue =>
    obtain ⟨m, hreceiver, rfl⟩ := step_dequeue hstep
    obtain ⟨r, ks, asset, -, hdequeue⟩ := h.sound.consistent.dequeue_eq h.sound.tidy hreceiver
    rw [hdequeue] at hsound ⊢
    refine ⟨hsound, ?_, h.noFailure, fun k => ?_⟩
    · rw [withHanded_receiver]
      split_ifs <;> rfl
    · by_cases hk : k = r
      · rw [hk, withHanded_waiter_self]
        exact h.noError r
      · rw [withHanded_waiter hk]
        exact h.noError k
  | callGetWaiters =>
    obtain ⟨m, asset, root, hreceiver, rfl⟩ := step_callGetWaiters hstep
    obtain ⟨ks, -, hcall⟩ := h.sound.consistent.callGetWaiters_eq h.sound.tidy hreceiver
    rw [hcall] at hsound ⊢
    exact ⟨hsound, rfl, h.noFailure, fun k => (passedOn_error k).trans (h.noError k)⟩
  | disconnect exn =>
    obtain ⟨e, hreceiver, -⟩ := step_disconnect hstep
    rw [hreceiver] at hloop
    cases hloop
  | freeAllWaiters =>
    obtain ⟨e, ⟨hreceiver, -⟩ | ⟨hreceiver, -⟩⟩ := step_freeAllWaiters hstep <;>
    · rw [hreceiver] at hloop
      cases hloop
  | checkConnected connected =>
    rw [(step_checkConnected.mp hstep).1] at hloop
    cases hloop
  | connect attempt =>
    rw [(step_connect.mp hstep).1] at hloop
    cases hloop
  | stop => exact hsmooth.elim

/-- The queue holds the requests that have no response, and the one that is being written. -/
lemma Paired.queue (h : s.Paired) : s.waitingRequests = s.unanswered ++ s.sendSync.toList := by
  obtain ⟨l, hqueue, hl⟩ := h.sound.consistent.queue_eq h.sound.tidy h.inLoop h.not_sendFailed
  rcases hl with rfl | rfl
  · exact hqueue
  · cases hlock : s.sendSync with
    | none => exact hqueue
    | some k =>
      -- Its waiter would be in the queue, as a written request, or released.
      obtain ⟨hk, hstage⟩ := (h.sound.tidy.lock k).mp hlock
      have hmem := (h.sound.tidy.sending k hk (.inl hstage)).resolve_right
        (not_not.mpr (h.noError k))
      rw [hqueue, List.append_nil] at hmem
      rcases (h.sound.delivered.sent _ k (mem_written_of_unanswered hmem)).2.1 with hs | hs <;>
        cases hstage.symm.trans hs

lemma Paired.not_freeing (h : s.Paired) : ¬ s.Freeing := by
  rintro (⟨k, hk, hfrees⟩ | hfreeing)
  · rw [h.noFailure k hk] at hfrees
    cases hfrees
  · rw [(Receiver.not_failing h.inLoop).2] at hfreeing
    cases hfreeing

/-- A call that was told nothing has a request on its way, its own or the one that it joined, or it
is about to return. -/
lemma Paired.pending (h : s.Paired) (hk : k < s.issued)
    (htold : (s.notices.map Prod.fst).count k = 0) :
    s.Live (s.request k).servedBy ∨ (s.stage k = .waitOne ∧ (s.waiter k).waitEvent = true) := by
  have hjoined : k ∈ s.joined → s.Live (s.request k).servedBy := fun hmem => by
    obtain ⟨p, hp, hkp⟩ := mem_joined.mp hmem
    obtain ⟨-, r, js, hks, hall⟩ := h.sound.tidy.groups p hp
    rw [(hall k hkp).2.2.2]
    exact (h.sound.consistent.heads p hp r (by rw [hks]; rfl)).resolve_right h.not_freeing
  have hsends : (s.request k).servedBy = k → (s.stage k).sends = true →
      s.Live (s.request k).servedBy := fun hserved hsends => by
    rw [hserved]
    exact .inl ⟨hsends, h.noError k⟩
  have hwaiting : k ∈ s.waitingRequests → s.Live (s.request k).servedBy := fun hmem => by
    have hserved := (h.sound.tidy.waiting k hmem).2.2
    rw [h.queue] at hmem
    rcases List.mem_append.mp hmem with hmem | hmem
    · exact .inr (.inl (hserved.symm ▸ hmem))
    · have hstage := ((h.sound.tidy.lock k).mp (Option.mem_toList.mp hmem)).2
      exact hsends hserved (by rw [hstage]; rfl)
  rw [h.sound.tidy.told k hk, timesTold] at htold
  split_ifs at htold with hcallBack hmem hreturned
  · exact .inl (hjoined hmem)
  · rcases h.sound.tidy.settled k hk with hs | hs | hs | hset
    · exact .inl (hsends (h.sound.tidy.sender k hk hs) (by rw [hs]; rfl))
    · exact .inl (hwaiting hs)
    · exact .inl (hjoined hs)
    · cases hstage : s.stage k with
      | sendRequest => exact .inl (hsends (h.sound.tidy.sender k hk hstage) (by rw [hstage]; rfl))
      | send =>
        refine .inl (hwaiting ?_)
        rw [h.queue, (h.sound.tidy.lock k).mpr ⟨hk, hstage⟩]
        exact List.mem_append_right _ (List.mem_singleton.mpr rfl)
      | sendFailed => exact absurd hstage (h.not_sendFailed k hk)
      | freed =>
        have hfrees := h.noFailure k hk
        rw [hstage] at hfrees
        cases hfrees
      | waitOne => exact .inr ⟨rfl, hset⟩
      | returned => exact absurd hstage hreturned

/-- Events that do not come from the threads of the client: a new call, a response, `Stop`. -/
def Event.Outside : Event → Prop
  | .call .. | .read _ | .stop => True
  | _ => False

/-- When all requests are answered and no thread can go on, nothing is on its way. -/
lemma Paired.not_live (h : s.Paired)
    (hanswered : (s.messages s.conn).length = (s.written s.conn).length)
    (hquiet : ∀ e s', s.step e = some s' → e.Outside) {r : Nat} (hr : r < s.issued) :
    ¬ s.Live r := by
  have hlock : s.sendSync = none := by
    refine Option.eq_none_iff_forall_ne_some.mpr fun k hk => ?_
    have hstep : s.step (.send k true) = _ :=
      step_send.mpr ⟨⟨hk, ((h.sound.tidy.lock k).mp hk).2⟩, rfl⟩
    exact hquiet _ _ hstep
  have hreading : s.receiver = .reading := by
    have hloop := h.inLoop
    cases hreceiver : s.receiver with
    | loop => exact (hquiet _ _ (step_iterate.mpr ⟨hreceiver, rfl⟩)).elim
    | reading => rfl
    | received message =>
      have hstep : s.step .dequeue = some (s.dequeue message) := by
        rw [RemoteServer.step, hreceiver]
      exact (hquiet _ _ hstep).elim
    | notifying message asset root =>
      have hstep : s.step .callGetWaiters = some (s.callGetWaiters message asset) := by
        rw [RemoteServer.step, hreceiver]
      exact (hquiet _ _ hstep).elim
    | _ =>
      rw [hreceiver] at hloop
      cases hloop
  rintro (⟨hsends, -⟩ | hmem | ⟨message, asset, hreceiver⟩)
  · cases hstage : s.stage r with
    | sendRequest => exact hquiet _ _ (step_enqueue.mpr ⟨⟨hr, hstage, hlock⟩, rfl⟩)
    | send =>
      have hsome := (h.sound.tidy.lock r).mpr ⟨hr, hstage⟩
      rw [hlock] at hsome
      cases hsome
    | _ =>
      rw [hstage] at hsends
      cases hsends
  · have hall := h.sound.consistent.idle fun m hm => by
      rw [hreading] at hm
      cases hm
    rw [unanswered_of_inLoop h.inLoop, ← hall, hanswered, List.drop_length] at hmem
    exact List.not_mem_nil hmem
  · rw [hreading] at hreceiver
    cases hreceiver

/-- Every call is told exactly once. -/
lemma Paired.told_once (h : s.Paired)
    (hanswered : (s.messages s.conn).length = (s.written s.conn).length)
    (hquiet : ∀ e s', s.step e = some s' → e.Outside) (hk : k < s.issued) :
    (s.notices.map Prod.fst).count k = 1 := by
  have hle : (s.notices.map Prod.fst).count k ≤ 1 := by
    rw [h.sound.tidy.told k hk, timesTold]
    split_ifs <;> decide
  by_contra hne
  rcases h.pending hk (by omega) with hlive | ⟨hstage, hset⟩
  · exact h.not_live hanswered hquiet (h.sound.tidy.served k hk).1 hlive
  · exact hquiet _ _ (step_wake.mpr ⟨⟨hk, hstage, hset⟩, rfl⟩)

/-- A get joins the get for its id that is on its way. -/
lemma Paired.joins (h : s.Paired) {r : Nat} (hr : r < s.issued) (htype : (s.request r).type = .get)
    (hserved : (s.request r).servedBy = r) (hlive : s.Live r) (callBack : Bool) :
    ((s.call .get (s.request r).uuid callBack).request s.issued).servedBy = r := by
  obtain ⟨ks, hks, hhead⟩ := h.sound.consistent.gets r hr htype hserved hlive
  have hcall : ((s.call .get (s.request r).uuid callBack).request s.issued).servedBy =
      ks.headD s.issued := by
    simp [RemoteServer.call, hks, afterSendRequest, goto, issue]
  rw [hcall, List.headD_eq_head?_getD, hhead]
  rfl

lemma Paired.messages_le (h : s.Paired) :
    (s.messages s.conn).length ≤ (s.handed s.conn).length + 1 := by
  by_cases hreceived : ∃ m, s.receiver = .received m
  · obtain ⟨m, hm⟩ := hreceived
    exact (h.sound.consistent.received m hm).2.1.le
  · have hidle := h.sound.consistent.idle fun m hm => hreceived ⟨m, hm⟩
    exact hidle.le.trans (Nat.le_succ _)

/-- Two gets for the same id in the queue are the same: both lead the group of the id. -/
lemma Paired.inFlight (h : s.Paired) {j : Nat} (hj : j ∈ s.waitingRequests)
    (hk : k ∈ s.waitingRequests) (hjget : (s.request j).type = .get)
    (hkget : (s.request k).type = .get) (huuid : (s.request j).uuid = (s.request k).uuid) :
    j = k := by
  have hlive : ∀ i ∈ s.waitingRequests, s.Live i := by
    intro i hi
    rw [h.queue] at hi
    rcases List.mem_append.mp hi with hi | hi
    · exact .inr (.inl hi)
    · have hstage := ((h.sound.tidy.lock i).mp (Option.mem_toList.mp hi)).2
      exact .inl ⟨by rw [hstage]; rfl, h.noError i⟩
  obtain ⟨hjlt, -, hjserved⟩ := h.sound.tidy.waiting j hj
  obtain ⟨hklt, -, hkserved⟩ := h.sound.tidy.waiting k hk
  obtain ⟨js, hjs, hjhead⟩ := h.sound.consistent.gets j hjlt hjget hjserved (hlive j hj)
  obtain ⟨ks, hks, hkhead⟩ := h.sound.consistent.gets k hklt hkget hkserved (hlive k hk)
  rw [huuid] at hjs
  obtain rfl := Option.some.inj (hjs.symm.trans hks)
  exact Option.some.inj (hjhead.symm.trans hkhead)

/-- In a run without errors on the socket, with a server that answers the requests in order:

* the `n`-th message read was handed to the waiter of the `n`-th request written, and only the last
  message can still be on its way;
* what a call is told is the answer to its own request or, for a get, to that of the outstanding
  get with the same id that it joined;
* no call is told twice, and each was told once when all requests are answered and no thread of the
  client can go on;
* at most one get for an id waits for its response. -/
theorem run_delivered {events : List Event} (hrun : run step start events = some s)
    (hmeets : Meets step Smooth start events) :
    (∀ n k : Nat, (s.handed s.conn)[n]? = some k → (s.written s.conn)[n]? = some k ∧
      ∃ message, (s.messages s.conn)[n]? = some message ∧
        (s.waiter k).response = some message) ∧
    ((s.handed s.conn).length ≤ (s.messages s.conn).length ∧
      (s.messages s.conn).length ≤ (s.handed s.conn).length + 1) ∧
    (∀ p ∈ s.notices, p.1 < s.issued ∧ s.ToldAnswer p.1 p.2) ∧
    (∀ k < s.issued, (s.request k).servedBy = k ∨
      ((s.request k).type = .get ∧ (s.request (s.request k).servedBy).type = .get ∧
        (s.request (s.request k).servedBy).uuid = (s.request k).uuid)) ∧
    (∀ r < s.issued, (s.request r).type = .get → (s.request r).servedBy = r → s.Live r →
      ∀ callBack, ((s.call .get (s.request r).uuid callBack).request s.issued).servedBy = r) ∧
    (∀ k < s.issued, (s.notices.map Prod.fst).count k ≤ 1) ∧
    ((s.messages s.conn).length = (s.written s.conn).length →
      (∀ e s', s.step e = some s' → e.Outside) →
      ∀ k < s.issued, (s.notices.map Prod.fst).count k = 1) ∧
    (∀ j ∈ s.waitingRequests, ∀ k ∈ s.waitingRequests, (s.request j).type = .get →
      (s.request k).type = .get → (s.request j).uuid = (s.request k).uuid → j = k) := by
  have h : s.Paired := invariant_of_meets (P := Paired) (fun t e t' ht hsmooth => ht.step hsmooth)
    hrun hmeets start_paired
  refine ⟨fun n k hk => ?_, ⟨h.sound.tidy.read _, h.messages_le⟩, fun p hp => ?_, fun k hk => ?_,
    fun r hr htype hserved hlive => h.joins hr htype hserved hlive, fun k hk => ?_,
    fun hanswered hquiet k hk => h.told_once hanswered hquiet hk, fun j hj k hk => ?_⟩
  · exact ⟨h.sound.tidy.written_of_handed hk, h.sound.delivered.response _ n k hk⟩
  · exact ⟨h.sound.tidy.toldIssued p hp,
      (h.sound.tidy.notices p hp).resolve_right (not_not.mpr (h.noError p.1))⟩
  · obtain ⟨-, -, htype, huuid, hget⟩ := h.sound.tidy.served k hk
    by_cases hself : (s.request k).servedBy = k
    · exact .inl hself
    · exact .inr ⟨hget hself, htype.trans (hget hself), huuid⟩
  · rw [h.sound.tidy.told k hk, timesTold]
    split_ifs <;> decide
  · exact h.inFlight hj hk

/-- The message that no asset has the id `uuid`. -/
def notFound (uuid : Bytes) : Bytes := 11 :: uuid ++ [0, 0, 0, 0]

/-- Two gets for one id, the second with a callback, and a put between them; the threads of the
first get and the put take turns. -/
def conversation (uuid uuid' : Bytes) : List Event :=
  [.call .get uuid false, .call .put uuid' false, .enqueue 0, .call .get uuid true, .iterate,
    .send 0 true, .enqueue 1, .read [notFound uuid], .send 1 true, .dequeue, .callGetWaiters,
    .wake 0, .iterate, .read [okMessage uuid'], .dequeue, .wake 1, .iterate]

theorem run_delivered_conversation :
    ∃ s, run step start (conversation (List.replicate 32 97) (List.replicate 32 98)) = some s ∧
      s.written 0 = [0, 1] ∧ s.handed 0 = [0, 1] ∧ s.notices.map Prod.fst = [2, 0, 1] ∧
      ∀ p ∈ s.notices, p.1 < s.issued ∧ s.ToldAnswer p.1 p.2 := by
  obtain ⟨s, hs, hwritten, hhanded, hnotices⟩ : ∃ s,
      run step start (conversation (List.replicate 32 97) (List.replicate 32 98)) = some s ∧
      s.written 0 = [0, 1] ∧ s.handed 0 = [0, 1] ∧ s.notices.map Prod.fst = [2, 0, 1] :=
    ⟨_, rfl, rfl, rfl, rfl⟩
  have hmeets : Meets step Smooth start
      (conversation (List.replicate 32 97) (List.replicate 32 98)) := by
    refine .cons rfl trivial <| .cons rfl trivial <| .cons rfl trivial <| .cons rfl trivial <|
      .cons rfl trivial <| .cons rfl rfl <| .cons rfl trivial <| .cons rfl ?_ <| .cons rfl rfl <|
      .cons rfl trivial <| .cons rfl trivial <| .cons rfl trivial <| .cons rfl trivial <|
      .cons rfl ?_ <| .cons rfl trivial <| .cons rfl trivial <| .cons rfl trivial trivial
    · exact ⟨⟨.notFound, List.replicate 32 97, []⟩, 0, by decide, rfl, fun _ => ⟨rfl, nofun⟩⟩
    · exact ⟨⟨.ok, List.replicate 32 98, []⟩, 1, by decide, rfl, nofun⟩
  exact ⟨s, hs, hwritten, hhanded, hnotices, (run_delivered hs hmeets).2.2.1⟩

end RemoteServer

end Halcyon.Client
