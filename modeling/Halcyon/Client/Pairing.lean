import Halcyon.Client.Tidy

/-!
# Responses and the requests they are for

A request is put in the queue and written in one lock, so that the queue begins with the requests of
the socket that have no response yet, in the order in which they were written; behind them are only
waiters whose request was not written, since sending it failed or is not over
(`Consistent.queue`).  The gets that are on their way are those for which the dictionary has
waiters: each group begins with the get that was sent and holds the ones that joined it
(`Consistent.heads`, `Consistent.gets`).  With this a response reaches the call whose request it
answers, and those that have joined it.

The lemmas say what each step needs to keep this.  The steps of the callers and of the receive
thread in its loop come first, then those that handle an error: both threads that free the waiters
make the queue and the dictionary empty, one after the other.
-/

namespace Halcyon.Client

open Halcyon.Lib Halcyon.Whip Lib.Transition

/-- A message that answers a request: a get is answered with its id, and if it is found with a
complete asset. -/
def Answers (message : ServerResponseMsg) (r : Request) : Prop :=
  r.type = .get → message.assetUUID = r.uuid ∧ (message.status = .found → HoldsAsset message.data)

namespace Receiver

/-- In the loop, outside the handlers. -/
def inLoop : Receiver → Bool
  | .loop | .reading | .received _ | .notifying .. => true
  | _ => false

/-- In a handler, before the waiters in the queue are freed. -/
def failing : Receiver → Bool
  | .disconnecting _ | .failed _ => true
  | _ => false

/-- In a handler, before the waiters in the dictionary are freed. -/
def freeing : Receiver → Bool
  | .disconnecting _ | .failed _ | .freed _ => true
  | _ => false

/-- With no message at hand, and not over. -/
def Plain (receiver : Receiver) : Prop :=
  (∀ message, receiver ≠ .received message) ∧
    (∀ message asset root, receiver ≠ .notifying message asset root) ∧ ∀ e, receiver ≠ .ended e

end Receiver

namespace Stage

/-- The call is about to write its request. -/
def sends : Stage → Bool
  | .sendRequest | .send => true
  | _ => false

/-- The call is about to free the waiters in the dictionary. -/
def frees : Stage → Bool
  | .sendFailed | .freed => true
  | _ => false

end Stage

namespace RemoteServer

/-- The requests written to the socket whose responses are still to be handed out; none once reading
has failed. -/
def unanswered (s : RemoteServer) : List Nat :=
  if s.receiver.inLoop then (s.written s.conn).drop (s.handed s.conn).length else []

/-- The request is on its way: it is to be sent by a call that nobody has released, or to be
answered, or its answer to be passed on. -/
def Live (s : RemoteServer) (r : Nat) : Prop :=
  ((s.stage r).sends = true ∧ (s.waiter r).error = none) ∨
    r ∈ s.unanswered ∨ ∃ message asset, s.receiver = .notifying message asset r

/-- A thread is about to free the waiters in the dictionary. -/
def Freeing (s : RemoteServer) : Prop :=
  (∃ k < s.issued, (s.stage k).frees = true) ∨ s.receiver.freeing = true

/-- The receive thread has handed out the response to a get and is about to tell the others. -/
structure Notifying (s : RemoteServer) (message : ServerResponseMsg) (asset : Option Asset)
    (root : Nat) : Prop where
  issued : root < s.issued
  type : (s.request root).type = .get
  servedBy : (s.request root).servedBy = root
  uuid : message.assetUUID = (s.request root).uuid
  answered : s.AnsweredBy root message
  asset : tryConstructAsset message .get = .ok asset

/-- A request is written once, and its waiter keeps the message that came for it. -/
structure Delivered (s : RemoteServer) : Prop where
  sent : ∀ c, ∀ k ∈ s.written c, k < s.issued ∧
    (s.stage k = .waitOne ∨ s.stage k = .returned) ∧ (s.request k).servedBy = k
  once : ∀ c, (s.written c).Nodup
  socket : ∀ c c' k : Nat, k ∈ s.written c → k ∈ s.written c' → c = c'
  response : ∀ c n k : Nat, (s.handed c)[n]? = some k →
    ∃ message, (s.messages c)[n]? = some message ∧ (s.waiter k).response = some message

/-- The queue and the dictionary agree with what was written and read. -/
structure Consistent (s : RemoteServer) : Prop where
  alive : ∀ e, s.receiver ≠ .ended e
  queue : s.receiver.failing = true ∨ ∃ fs l, s.waitingRequests = s.unanswered ++ fs ++ l ∧
    (∀ k ∈ fs, s.stage k = .sendFailed) ∧ (l = s.sendSync.toList ∨ l = [])
  blocked : ∀ k < s.issued, s.stage k = .sendFailed → s.unanswered = []
  heads : ∀ p ∈ s.getResponseWaiters, ∀ r, p.2.head? = some r → s.Live r ∨ s.Freeing
  gets : ∀ r < s.issued, (s.request r).type = .get → (s.request r).servedBy = r → s.Live r →
    ∃ ks, Dict.get? s.getResponseWaiters (s.request r).uuid = some ks ∧ ks.head? = some r
  idle : (∀ message, s.receiver ≠ .received message) →
    (s.messages s.conn).length = (s.handed s.conn).length
  received : ∀ message, s.receiver = .received message →
    (s.messages s.conn)[(s.handed s.conn).length]? = some message ∧
    (s.messages s.conn).length = (s.handed s.conn).length + 1 ∧
    ∃ r, (s.written s.conn)[(s.handed s.conn).length]? = some r ∧ Answers message (s.request r)
  notifying : ∀ message asset root, s.receiver = .notifying message asset root →
    s.Notifying message asset root

variable {s s' : RemoteServer} {k r : Nat} {message : ServerResponseMsg} {notice : Notice}

/-! ## Delivery -/

/-- A step that writes nothing and hands out nothing. -/
lemma Delivered.mono (h : s.Delivered) (hissued : s.issued ≤ s'.issued)
    (hwritten : s'.written = s.written) (hhanded : s'.handed = s.handed)
    (hmessages : ∀ c, s.messages c <+: s'.messages c)
    (hrequest : ∀ k < s.issued, s'.request k = s.request k)
    (hstage : ∀ k < s.issued, s.stage k = .waitOne ∨ s.stage k = .returned →
      s'.stage k = .waitOne ∨ s'.stage k = .returned)
    (hresponse : ∀ (c n k : Nat) m, (s.handed c)[n]? = some k → (s.messages c)[n]? = some m →
      (s.waiter k).response = some m → (s'.waiter k).response = some m) : s'.Delivered where
  sent := by
    intro c k hk
    rw [hwritten] at hk
    obtain ⟨hlt, hsent, hserved⟩ := h.sent c k hk
    rw [hrequest k hlt]
    exact ⟨hlt.trans_le hissued, hstage k hlt hsent, hserved⟩
  once c := hwritten ▸ h.once c
  socket := hwritten ▸ h.socket
  response := by
    intro c n k hk
    rw [hhanded] at hk
    obtain ⟨m, hm, hwaiter⟩ := h.response c n k hk
    exact ⟨m, getElem?_mono (hmessages c) hm, hresponse c n k m hk hm hwaiter⟩

variable {c n : Nat}

lemma Tidy.written_of_handed (ht : s.Tidy) (hk : (s.handed c)[n]? = some k) :
    (s.written c)[n]? = some k :=
  getElem?_mono (ht.handed c) hk

lemma Delivered.handed_lt (h : s.Delivered) (ht : s.Tidy) (hk : (s.handed c)[n]? = some k) :
    k < s.issued :=
  (h.sent c k (List.mem_of_getElem? (ht.written_of_handed hk))).1

/-- A waiter is handed one message only. -/
lemma Delivered.unique (h : s.Delivered) {c' n' : Nat} (hk : (s.written c)[n]? = some k)
    (hk' : (s.written c')[n']? = some k) : c = c' ∧ n = n' := by
  obtain rfl := h.socket c c' k (List.mem_of_getElem? hk) (List.mem_of_getElem? hk')
  obtain ⟨hlt, -⟩ := List.getElem?_eq_some_iff.mp hk
  exact ⟨rfl, (List.getElem?_inj hlt (h.once c)).mp (hk.trans hk'.symm)⟩

lemma mem_written_of_unanswered (hr : r ∈ s.unanswered) : r ∈ s.written s.conn := by
  unfold unanswered at hr
  split_ifs at hr
  · exact List.mem_of_mem_drop hr
  · exact absurd hr List.not_mem_nil

/-- A get whose answer is being passed on is not on its way any more. -/
lemma Delivered.not_unanswered (h : s.Delivered) (ht : s.Tidy) (hr : s.AnsweredBy r message) :
    r ∉ s.unanswered := by
  obtain ⟨c, n, hn, -⟩ := hr
  intro hmem
  obtain rfl := h.socket c s.conn r (List.mem_of_getElem? (ht.written_of_handed hn))
    (mem_written_of_unanswered hmem)
  obtain ⟨hlt, -⟩ := List.getElem?_eq_some_iff.mp hn
  unfold unanswered at hmem
  split_ifs at hmem
  · obtain ⟨i, hi, hget⟩ := List.getElem_of_mem hmem
    rw [List.getElem_drop] at hget
    have hi' : (s.written s.conn)[(s.handed s.conn).length + i]? = some r :=
      List.getElem?_eq_some_iff.mpr ⟨_, hget⟩
    obtain ⟨-, heq⟩ := h.unique (ht.written_of_handed hn) hi'
    omega
  · exact absurd hmem List.not_mem_nil

lemma Delivered.issued {req : Request} {d : Waiters Bytes} {st : Stage} (h : s.Delivered)
    (ht : s.Tidy) : (s.issued' req d st).Delivered :=
  h.mono (Nat.le_succ _) rfl rfl (fun _ => List.prefix_rfl) (fun _ hk => issued_request hk)
    (fun _ hk hsent => (issued_stage hk).symm ▸ hsent)
    fun _ _ _ _ hk _ hresponse => (issued_waiter (h.handed_lt ht hk)).symm ▸ hresponse

/-- A thread goes on, but not from where it waits for its response. -/
lemma Delivered.moved {st : Stage} {l : Option Nat} {q : List Nat} {ns : List (Nat × Notice)}
    (h : s.Delivered)
    (hstage : s.stage k = .waitOne ∨ s.stage k = .returned → st = .waitOne ∨ st = .returned) :
    (s.moved k st l q ns).Delivered := by
  refine h.mono le_rfl rfl rfl (fun _ => List.prefix_rfl) (fun _ _ => rfl) (fun j _ hsent => ?_)
    fun _ _ _ _ _ _ => id
  by_cases hj : j = k
  · subst hj
    rw [moved_stage_self]
    exact hstage hsent
  · rw [moved_stage hj]
    exact hsent

/-- A request is written for the first time. -/
lemma Delivered.send (h : s.Delivered) (ht : s.Tidy) (hlock : s.sendSync = some k)
    (hwaiting : k ∈ s.waitingRequests) : (s.send k true).Delivered := by
  obtain ⟨hk, hstage⟩ := (ht.lock k).mp hlock
  have hnew : ∀ c, k ∉ s.written c := fun c hmem => by
    rcases (h.sent c k hmem).2.1 with hs | hs <;> rw [hstage] at hs <;> cases hs
  have hmem : ∀ c j, j ∈ (s.send k true).written c → j ∈ s.written c ∨ (j = k ∧ c = s.conn) := by
    intro c j hj
    by_cases hc : c = s.conn
    · rw [hc, send_written, List.mem_append, List.mem_singleton] at hj
      rw [hc]
      exact hj.imp_right fun heq => ⟨heq, rfl⟩
    · rw [written_send hc] at hj
      exact .inl hj
  refine { h with sent := ?_, once := ?_, socket := ?_ }
  · intro c j hj
    rcases hmem c j hj with hj | ⟨rfl, -⟩
    · have hjk : j ≠ k := fun heq => hnew c (heq ▸ hj)
      rw [send_stage hjk]
      exact h.sent c j hj
    · rw [send_stage_self]
      exact ⟨hk, s.sentStage_cases j, (ht.waiting j hwaiting).2.2⟩
  · intro c
    by_cases hc : c = s.conn
    · rw [hc, send_written]
      exact List.nodup_append.mpr ⟨h.once _, List.nodup_singleton _, fun a ha b hb hab =>
        hnew _ (List.mem_singleton.mp hb ▸ hab ▸ ha)⟩
    · rw [written_send hc]
      exact h.once c
  · intro c c' j hj hj'
    rcases hmem c j hj with hin | ⟨rfl, rfl⟩
    · rcases hmem c' j hj' with hin' | ⟨rfl, rfl⟩
      · exact h.socket c c' j hin hin'
      · exact absurd hin (hnew c)
    · rcases hmem c' j hj' with hin' | ⟨-, rfl⟩
      · exact absurd hin' (hnew c')
      · rfl

lemma Delivered.withMessage (h : s.Delivered) : (s.withMessage message).Delivered :=
  h.mono le_rfl rfl rfl messages_withMessage (fun _ _ => rfl) (fun _ _ => id) fun _ _ _ _ _ _ => id

variable {ks : List Nat}

/-- The waiter at the front of the queue gets the next message. -/
lemma Delivered.withHanded {asset : Option Asset} (h : s.Delivered) (ht : s.Tidy)
    (hread : (s.messages s.conn)[(s.handed s.conn).length]? = some message)
    (hwritten : (s.written s.conn)[(s.handed s.conn).length]? = some k) :
    (s.withHanded k ks message asset).Delivered := by
  -- No message was handed to `k` before.
  have hnew : ∀ c n : Nat, (s.handed c)[n]? = some k → False := fun c n hn => by
    obtain ⟨rfl, rfl⟩ := h.unique (ht.written_of_handed hn) hwritten
    rw [List.getElem?_eq_none le_rfl] at hn
    cases hn
  have hold : ∀ c n j : Nat, (s.handed c)[n]? = some j → ∃ m, (s.messages c)[n]? = some m ∧
      ((s.withHanded k ks message asset).waiter j).response = some m := fun c n j hj => by
    have hjk : j ≠ k := fun heq => hnew c n (heq ▸ hj)
    rw [withHanded_waiter hjk]
    exact h.response c n j hj
  refine { h with response := fun c n j hj => ?_ }
  by_cases hc : c = s.conn
  · subst hc
    rw [withHanded_handed, List.getElem?_append] at hj
    split_ifs at hj with hn
    · exact hold _ n j hj
    · rw [List.getElem?_singleton] at hj
      split_ifs at hj with hzero
      obtain rfl := Option.some.inj hj
      obtain rfl : n = (s.handed s.conn).length := by omega
      rw [withHanded_waiter_self]
      exact ⟨message, hread, rfl⟩
  · have hsame : (s.withHanded k ks message asset).handed c = s.handed c :=
      Function.update_of_ne hc _ _
    rw [hsame] at hj
    exact hold c n j hj

variable {e : ClientException}

/-- Waiters are released; the messages they hold stay. -/
lemma Delivered.release (h : s.Delivered) :
    (s.release ks e).Delivered :=
  h.mono le_rfl rfl rfl (fun _ => List.prefix_rfl) (fun _ _ => rfl) (fun _ _ => id)
    fun _ _ k _ _ _ hresponse => (release_response k).1.trans hresponse

/-! ## Calls -/

section Issue

variable {req : Request} {d : Waiters Bytes} {st : Stage}

lemma live_issued (h : k < s.issued) : (s.issued' req d st).Live k ↔ s.Live k := by
  rw [Live, issued_stage h, issued_waiter h]
  rfl

lemma Freeing.issued (h : s.Freeing) : (s.issued' req d st).Freeing := by
  refine h.imp_left ?_
  rintro ⟨k, hk, hstage⟩
  exact ⟨k, Nat.lt_succ_of_lt hk, (issued_stage hk).symm ▸ hstage⟩

variable {type : RequestType} {uuid : Bytes} {callBack : Bool}

/-- A group that was there before the call has the same head. -/
lemma CallCase.get?_old {uuid' : Bytes} {ks : List Nat}
    (hc : CallCase s uuid callBack type req d st)
    (hks : Dict.get? s.getResponseWaiters uuid' = some ks) (hhead : ks.head? = some r) :
    ∃ ks', Dict.get? d uuid' = some ks' ∧ ks'.head? = some r := by
  cases hc with
  | other => exact ⟨ks, hks, hhead⟩
  | first =>
    refine ⟨ks, ?_, hhead⟩
    rw [Dict.get?_add, hks]
    rfl
  | join =>
    rw [Dict.get?_modify, hks]
    split_ifs
    · exact ⟨ks ++ [s.issued], rfl, by rw [List.head?_append, hhead]; rfl⟩
    · exact ⟨ks, rfl, hhead⟩

/-- A get that joins no other begins a group. -/
lemma CallCase.get?_new (hc : CallCase s uuid callBack type req d st) (ht : s.Tidy)
    (htype : req.type = .get) (hserved : req.servedBy = s.issued) :
    ∃ ks, Dict.get? d req.uuid = some ks ∧ ks.head? = some s.issued := by
  cases hc with
  | other hne => exact absurd htype hne
  | first hnone =>
    refine ⟨[s.issued], ?_, rfl⟩
    rw [Dict.get?_add, hnone, if_pos rfl]
    rfl
  | join hks hr => exact absurd hserved (ht.head_lt (Dict.mem_of_get? hks) hr).ne

lemma Consistent.call (h : s.Consistent) (ht : s.Tidy) (hd : s.Delivered) :
    (s.call type uuid callBack).Consistent := by
  obtain ⟨req, d, st, hcall, hc⟩ := ht.call_eq type uuid callBack
  rw [hcall]
  have hnew : st = .sendRequest → (s.issued' req d st).Live s.issued := by
    rintro rfl
    exact .inl ⟨by rw [issued_stage_self]; rfl, by rw [issued_waiter_self]⟩
  have hstage : st ≠ .send ∧ st ≠ .sendFailed := by
    cases hc with
    | other => exact ⟨by decide, by decide⟩
    | first => exact ⟨by decide, by decide⟩
    | join => split_ifs <;> exact ⟨by decide, by decide⟩
  refine { h with queue := ?_, blocked := ?_, heads := ?_, gets := ?_, received := ?_
                  notifying := ?_ }
  · refine h.queue.imp_right ?_
    rintro ⟨fs, l, hqueue, hfs, hl⟩
    refine ⟨fs, l, hqueue, fun k hk => ?_, hl⟩
    have hmem : k ∈ s.waitingRequests := by
      rw [hqueue]
      exact List.mem_append_left _ (List.mem_append_right _ hk)
    rw [issued_stage (ht.waiting k hmem).1]
    exact hfs k hk
  · intro k hk hfailed
    rcases Nat.lt_succ_iff_lt_or_eq.mp hk with hk | rfl
    · rw [issued_stage hk] at hfailed
      exact h.blocked k hk hfailed
    · rw [issued_stage_self] at hfailed
      exact absurd hfailed hstage.2
  · intro p hp r hr
    have hold : ∀ q ∈ s.getResponseWaiters, q.2.head? = some r →
        (s.issued' req d st).Live r ∨ (s.issued' req d st).Freeing := fun q hq hhead =>
      (h.heads q hq r hhead).imp (live_issued (ht.head_lt hq hhead)).mpr Freeing.issued
    rcases hc.entry ht hp with hp | ⟨rfl, -, hst⟩ | ⟨r', js, hmem, rfl, -⟩
    · exact hold p hp hr
    · obtain rfl := Option.some.inj hr
      exact .inl (hnew hst)
    · exact hold _ hmem hr
  · intro r hr
    rcases Nat.lt_succ_iff_lt_or_eq.mp hr with hr | rfl
    · rw [issued_request hr, live_issued hr]
      intro htype hserved hlive
      obtain ⟨ks, hks, hhead⟩ := h.gets r hr htype hserved hlive
      exact hc.get?_old hks hhead
    · rw [issued_request_self]
      exact fun htype hserved _ => hc.get?_new ht htype hserved
  · intro message hmessage
    obtain ⟨hread, hlength, r, hr, hanswers⟩ := h.received message hmessage
    refine ⟨hread, hlength, r, hr, ?_⟩
    rw [issued_request (hd.sent _ r (List.mem_of_getElem? hr)).1]
    exact hanswers
  · intro message asset root hreceiver
    have hn := h.notifying message asset root hreceiver
    have hrequest : (s.issued' req d st).request root = s.request root := issued_request hn.issued
    exact
      { issued := Nat.lt_succ_of_lt hn.issued
        type := hrequest ▸ hn.type
        servedBy := hrequest ▸ hn.servedBy
        uuid := hrequest ▸ hn.uuid
        answered := hn.answered
        asset := hn.asset }

end Issue

/-! ## A thread goes on -/

section Moved

variable {st : Stage} {l : Option Nat} {q : List Nat} {ns : List (Nat × Notice)}

/-- A thread goes on: the queue has to follow, and what is freed stays so. -/
lemma Consistent.moved (h : s.Consistent)
    (hsends : st.sends = true → (s.stage k).sends = true)
    (hfails : st = .sendFailed → s.unanswered = [])
    (hdict : s.getResponseWaiters = [] ∨
      (((s.stage k).sends = true → st.sends = true ∨ (k < s.issued ∧ st = .sendFailed)) ∧
        ((s.stage k).frees = true → st.frees = true)))
    (hqueue : s.receiver.failing = true ∨ ∃ fs l', q = s.unanswered ++ fs ++ l' ∧
      (∀ j ∈ fs, (s.moved k st l q ns).stage j = .sendFailed) ∧ (l' = l.toList ∨ l' = [])) :
    (s.moved k st l q ns).Consistent := by
  have hback : ∀ r, (s.moved k st l q ns).Live r → s.Live r := by
    intro r hlive
    refine hlive.imp_left fun ⟨hstage, herror⟩ => ⟨?_, herror⟩
    by_cases hr : r = k
    · subst hr
      rw [moved_stage_self] at hstage
      exact hsends hstage
    · rw [moved_stage hr] at hstage
      exact hstage
  refine { h with queue := hqueue, blocked := ?_, heads := ?_, gets := ?_, notifying := ?_ }
  · intro j hj hstage
    by_cases hjk : j = k
    · rw [hjk, moved_stage_self] at hstage
      exact hfails hstage
    · rw [moved_stage hjk] at hstage
      exact h.blocked j hj hstage
  · intro p hp r hr
    rcases hdict with hnil | ⟨hkeeps, hfrees⟩
    · have hp : p ∈ s.getResponseWaiters := hp
      rw [hnil] at hp
      exact absurd hp List.not_mem_nil
    · rcases h.heads p hp r hr with hlive | hfreeing | hfreeing
      · rcases hlive with ⟨hstage, herror⟩ | hlive
        · by_cases hrk : r = k
          · subst hrk
            rcases hkeeps hstage with hst | ⟨hk, hst⟩
            · exact .inl (.inl ⟨moved_stage_self.symm ▸ hst, herror⟩)
            · exact .inr (.inl ⟨r, hk, by rw [moved_stage_self, hst]; rfl⟩)
          · exact .inl (.inl ⟨(moved_stage hrk).symm ▸ hstage, herror⟩)
        · exact .inl (.inr hlive)
      · obtain ⟨j, hj, hstage⟩ := hfreeing
        right
        left
        refine ⟨j, hj, ?_⟩
        by_cases hjk : j = k
        · subst hjk
          rw [moved_stage_self]
          exact hfrees hstage
        · rw [moved_stage hjk]
          exact hstage
      · exact .inr (.inr hfreeing)
  · intro r hr htype hserved hlive
    exact h.gets r hr htype hserved (hback r hlive)
  · intro message asset root hreceiver
    exact { h.notifying message asset root hreceiver with }

/-- A call that is not in the state after a failed send is not among those in the queue that are. -/
lemma stage_moved_of_mem {fs : List Nat} (hfs : ∀ j ∈ fs, s.stage j = .sendFailed)
    (hk : s.stage k ≠ .sendFailed) :
    ∀ j ∈ fs, (s.moved k st l q ns).stage j = .sendFailed := by
  intro j hj
  have hjk : j ≠ k := fun heq => hk (heq ▸ hfs j hj)
  exact (moved_stage hjk).trans (hfs j hj)

/-- A waiter is put behind those in the queue. -/
lemma Consistent.enqueue (h : s.Consistent) (hstage : s.stage k = .sendRequest)
    (hlock : s.sendSync = none) : (s.enqueue k).Consistent := by
  refine h.moved (fun _ => by rw [hstage]; rfl) nofun (.inr ⟨fun _ => .inl rfl, ?_⟩)
    (h.queue.imp_right ?_)
  · rw [hstage]
    exact nofun
  · rintro ⟨fs, l, hqueue, hfs, hl⟩
    obtain rfl : l = [] := by simpa [hlock] using hl
    refine ⟨fs, [k], by rw [hqueue, List.append_nil], ?_, .inl rfl⟩
    exact stage_moved_of_mem hfs (by rw [hstage]; decide)

/-- A request could not be written: its waiter stays in the queue, if it was not released. -/
lemma Consistent.sendFailed (h : s.Consistent) (ht : s.Tidy) (hlock : s.sendSync = some k)
    (hunanswered : s.unanswered = []) : (s.send k false).Consistent := by
  obtain ⟨hk, hstage⟩ := (ht.lock k).mp hlock
  refine h.moved nofun (fun _ => hunanswered) (.inr ⟨fun _ => .inr ⟨hk, rfl⟩, fun _ => rfl⟩)
    (h.queue.imp_right ?_)
  rintro ⟨fs, l, hqueue, hfs, hl⟩
  refine ⟨fs ++ l, [], by rw [hqueue, List.append_nil, List.append_assoc], fun j hj => ?_, .inr rfl⟩
  by_cases hjk : j = k
  · rw [hjk]
    exact moved_stage_self
  · refine (moved_stage hjk).trans ?_
    rcases List.mem_append.mp hj with hj | hj
    · exact hfs j hj
    · rcases hl with rfl | rfl
      · rw [hlock] at hj
        exact absurd (List.mem_singleton.mp hj) hjk
      · exact absurd hj List.not_mem_nil

/-- A caller returns. -/
lemma Consistent.wake (h : s.Consistent) (hstage : s.stage k = .waitOne) :
    (s.wake k).Consistent := by
  refine h.moved nofun nofun (.inr ?_) (h.queue.imp_right ?_)
  · rw [hstage]
    exact ⟨nofun, nofun⟩
  · rintro ⟨fs, l, hqueue, hfs, hl⟩
    exact ⟨fs, l, hqueue, stage_moved_of_mem hfs (by rw [hstage]; decide), hl⟩

end Moved

/-! ## Writing a request -/

lemma unanswered_of_inLoop (hloop : s.receiver.inLoop = true) :
    s.unanswered = (s.written s.conn).drop (s.handed s.conn).length :=
  if_pos hloop

lemma unanswered_of_not_inLoop (hloop : s.receiver.inLoop = false) : s.unanswered = [] :=
  if_neg (by rw [hloop]; decide)

lemma unanswered_send (ht : s.Tidy) (hloop : s.receiver.inLoop = true) :
    (s.send k true).unanswered = s.unanswered ++ [k] := by
  have hlength : (s.handed s.conn).length ≤ (s.written s.conn).length := (ht.handed _).length_le
  have hloop' : (s.send k true).receiver.inLoop = true := hloop
  calc (s.send k true).unanswered
      = ((s.send k true).written s.conn).drop (s.handed s.conn).length :=
        unanswered_of_inLoop hloop'
    _ = (s.written s.conn).drop (s.handed s.conn).length ++ [k] := by
        rw [send_written, List.drop_append_of_le_length hlength]
    _ = s.unanswered ++ [k] := by rw [unanswered_of_inLoop hloop]

lemma Receiver.not_failing {x : Receiver} (h : x.inLoop = true) :
    x.failing = false ∧ x.freeing = false := by
  cases x <;> first | exact ⟨rfl, rfl⟩ | cases h

/-- In the loop, and with no failed send, the queue holds what was written and what is about to
be. -/
lemma Consistent.queue_eq (h : s.Consistent) (ht : s.Tidy) (hloop : s.receiver.inLoop = true)
    (hnone : ∀ j < s.issued, s.stage j ≠ .sendFailed) :
    ∃ l, s.waitingRequests = s.unanswered ++ l ∧ (l = s.sendSync.toList ∨ l = []) := by
  rcases h.queue with hfailing | ⟨fs, l, hqueue, hfs, hl⟩
  · rw [(Receiver.not_failing hloop).1] at hfailing
    cases hfailing
  · obtain rfl : fs = [] := List.eq_nil_iff_forall_not_mem.mpr fun j hj => by
      have hmem : j ∈ s.waitingRequests := by
        rw [hqueue]
        exact List.mem_append_left _ (List.mem_append_right _ hj)
      exact hnone j (ht.waiting j hmem).1 (hfs j hj)
    exact ⟨l, by rw [hqueue, List.append_nil], hl⟩

/-- A request is written by a call that nobody has released. -/
lemma Consistent.send (h : s.Consistent) (ht : s.Tidy) (hd : s.Delivered)
    (hlock : s.sendSync = some k) (hloop : s.receiver.inLoop = true)
    (hnone : ∀ j < s.issued, s.stage j ≠ .sendFailed) (herror : (s.waiter k).error = none) :
    (s.send k true).Consistent := by
  obtain ⟨hk, hstage⟩ := (ht.lock k).mp hlock
  have hunanswered := unanswered_send (k := k) ht hloop
  have hqueue : s.waitingRequests = s.unanswered ++ [k] := by
    obtain ⟨l, hqueue, hl⟩ := h.queue_eq ht hloop hnone
    have hmem := (ht.sending k hk (.inl hstage)).resolve_right (not_not.mpr herror)
    rcases hl with rfl | rfl
    · rw [hqueue, hlock]
      rfl
    · rw [hqueue, List.append_nil] at hmem
      rcases (hd.sent _ k (mem_written_of_unanswered hmem)).2.1 with hs | hs <;>
        cases hstage.symm.trans hs
  have hsends : ∀ r, ((s.send k true).stage r).sends = true ↔ (s.stage r).sends = true ∧ r ≠ k := by
    intro r
    by_cases hr : r = k
    · subst hr
      rw [send_stage_self]
      rcases s.sentStage_cases r with hs | hs <;> rw [hs] <;> simp [Stage.sends]
    · rw [send_stage hr]
      exact (and_iff_left hr).symm
  have hlive : ∀ r, (s.send k true).Live r ↔ s.Live r := by
    intro r
    have hmem : r ∈ (s.send k true).unanswered ↔ r ∈ s.unanswered ∨ r = k := by
      rw [hunanswered, List.mem_append, List.mem_singleton]
    constructor
    · rintro (⟨hs, he⟩ | hs | hs)
      · exact .inl ⟨((hsends r).mp hs).1, he⟩
      · rcases hmem.mp hs with hs | rfl
        · exact .inr (.inl hs)
        · exact .inl ⟨by rw [hstage]; rfl, herror⟩
      · exact .inr (.inr hs)
    · rintro (⟨hs, he⟩ | hs | hs)
      · by_cases hr : r = k
        · exact .inr (.inl (hmem.mpr (.inr hr)))
        · exact .inl ⟨(hsends r).mpr ⟨hs, hr⟩, he⟩
      · exact .inr (.inl (hmem.mpr (.inl hs)))
      · exact .inr (.inr hs)
  have hstages : ∀ j, j ≠ k → (s.send k true).stage j = s.stage j := fun j => send_stage
  refine { h with queue := ?_, blocked := ?_, heads := ?_, gets := ?_, received := ?_
                  notifying := ?_ }
  · refine .inr ⟨[], [], ?_, nofun, .inr rfl⟩
    rw [hunanswered, List.append_nil, List.append_nil]
    exact hqueue
  · intro j hj hfailed
    by_cases hjk : j = k
    · rw [hjk, send_stage_self] at hfailed
      rcases s.sentStage_cases k with hs | hs <;> cases hs.symm.trans hfailed
    · exact absurd ((send_stage hjk).symm.trans hfailed) (hnone j hj)
  · intro p hp r hr
    refine (h.heads p hp r hr).imp (hlive r).mpr (Or.imp_left ?_)
    rintro ⟨j, hj, hfrees⟩
    have hjk : j ≠ k := fun heq => by
      rw [heq, hstage] at hfrees
      cases hfrees
    exact ⟨j, hj, (send_stage hjk).symm ▸ hfrees⟩
  · intro r hr htype hserved hl
    exact h.gets r hr htype hserved ((hlive r).mp hl)
  · intro message hmessage
    obtain ⟨hread, hlen, r, hr, hanswers⟩ := h.received message hmessage
    refine ⟨hread, hlen, r, ?_, hanswers⟩
    have hgrows : s.written s.conn <+: (s.send k true).written s.conn := by
      rw [send_written]
      exact List.prefix_append _ _
    exact getElem?_mono hgrows hr
  · intro message asset root hreceiver
    exact { h.notifying message asset root hreceiver with }

/-! ## The receive thread -/

section Receiver

variable {x : Receiver}

lemma Receiver.plain_of_failing (h : x.failing = true) :
    x.Plain ∧ x.inLoop = false ∧ x.freeing = true := by
  cases x with
  | disconnecting e => exact ⟨⟨nofun, nofun, nofun⟩, rfl, rfl⟩
  | failed e => exact ⟨⟨nofun, nofun, nofun⟩, rfl, rfl⟩
  | _ => cases h

lemma live_of_plain (hold : s.receiver.Plain) (hnew : x.Plain)
    (hunanswered : { s with receiver := x }.unanswered = s.unanswered) :
    { s with receiver := x }.Live r ↔ s.Live r := by
  unfold Live
  rw [hunanswered]
  have hneither : (∃ message asset, s.receiver = .notifying message asset r) ↔
      ∃ message asset, x = .notifying message asset r :=
    ⟨fun ⟨m, a, heq⟩ => absurd heq (hold.2.1 m a r), fun ⟨m, a, heq⟩ => absurd heq (hnew.2.1 m a r)⟩
  rw [hneither]

/-- The receive thread goes from one place to another where it has no message at hand. -/
lemma Consistent.moves (h : s.Consistent) (hold : s.receiver.Plain) (hnew : x.Plain)
    (hunanswered : { s with receiver := x }.unanswered = s.unanswered)
    (hfailing : s.receiver.failing = true → x.failing = true ∨ s.waitingRequests = [])
    (hfreeing : s.receiver.freeing = true → x.freeing = true ∨ s.getResponseWaiters = []) :
    { s with receiver := x }.Consistent := by
  refine { h with alive := hnew.2.2, queue := ?_, blocked := ?_, heads := ?_, gets := ?_, idle := ?_
                  received := ?_, notifying := ?_ }
  · rw [hunanswered]
    rcases h.queue with hold | hqueue
    · refine (hfailing hold).imp_right fun hnil => ⟨[], [], ?_, nofun, .inr rfl⟩
      rw [unanswered_of_not_inLoop (Receiver.plain_of_failing hold).2.1]
      exact hnil
    · exact .inr hqueue
  · rw [hunanswered]
    exact h.blocked
  · intro p hp r hr
    rcases h.heads p hp r hr with hlive | hfrees | hold
    · exact .inl ((live_of_plain hold hnew hunanswered).mpr hlive)
    · exact .inr (.inl hfrees)
    · refine .inr (.inr ((hfreeing hold).resolve_right fun hnil => ?_))
      have hp : p ∈ s.getResponseWaiters := hp
      rw [hnil] at hp
      exact List.not_mem_nil hp
  · intro r hr htype hserved hlive
    exact h.gets r hr htype hserved ((live_of_plain hold hnew hunanswered).mp hlive)
  · exact fun _ => h.idle hold.1
  · exact fun message heq => absurd heq (hnew.1 message)
  · exact fun message asset root heq => absurd heq (hnew.2.1 message asset root)

/-- Reading fails: all requests on the socket are given up. -/
lemma Consistent.fails (h : s.Consistent) (hold : s.receiver.Plain) (hnew : x.failing = true) :
    { s with receiver := x }.Consistent := by
  obtain ⟨hplain, hloop, hfreeing⟩ := Receiver.plain_of_failing hnew
  have hnil : { s with receiver := x }.unanswered = [] := unanswered_of_not_inLoop hloop
  refine { h with alive := hplain.2.2, queue := .inl hnew, blocked := fun _ _ _ => hnil
                  heads := fun _ _ _ _ => .inr (.inr hfreeing), gets := ?_
                  idle := fun _ => h.idle hold.1, received := ?_, notifying := ?_ }
  · intro r hr htype hserved hlive
    refine h.gets r hr htype hserved (hlive.imp_right ?_)
    rintro (hmem | ⟨m, a, heq⟩)
    · rw [hnil] at hmem
      exact absurd hmem List.not_mem_nil
    · exact absurd heq (hplain.2.1 m a r)
  · exact fun message heq => absurd heq (hplain.1 message)
  · exact fun message asset root heq => absurd heq (hplain.2.1 message asset root)

end Receiver

/-- A response to the request whose turn it is has been read. -/
lemma Consistent.withMessage (h : s.Consistent) (hreading : s.receiver = .reading)
    (hr : (s.written s.conn)[(s.messages s.conn).length]? = some r)
    (hanswers : Answers message (s.request r)) : (s.withMessage message).Consistent := by
  have hidle := h.idle fun m hm => by rw [hreading] at hm; cases hm
  have hunanswered : (s.withMessage message).unanswered = s.unanswered := by
    unfold unanswered RemoteServer.withMessage
    simp only [hreading, Receiver.inLoop]
  have hlive : ∀ r, (s.withMessage message).Live r ↔ s.Live r := fun r => by
    unfold Live
    rw [hunanswered]
    simp [RemoteServer.withMessage, hreading]
  refine { h with alive := nofun, queue := ?_, blocked := ?_, heads := ?_, gets := ?_, idle := ?_
                  received := ?_, notifying := nofun }
  · rw [hunanswered]
    refine h.queue.imp_left fun hfailing => ?_
    rw [hreading] at hfailing
    cases hfailing
  · rw [hunanswered]
    exact h.blocked
  · intro p hp r hr
    refine (h.heads p hp r hr).imp (hlive r).mpr (Or.imp_right fun hfreeing => ?_)
    rw [hreading] at hfreeing
    cases hfreeing
  · intro r hr htype hserved hl
    exact h.gets r hr htype hserved ((hlive r).mp hl)
  · exact fun hne => absurd rfl (hne message)
  · intro m hm
    obtain rfl : message = m := by
      cases hm
      rfl
    have hread : (s.messages s.conn ++ [message])[(s.handed s.conn).length]? = some message := by
      rw [List.getElem?_append_right hidle.le]
      simp [hidle]
    have hlength : (s.messages s.conn ++ [message]).length = (s.handed s.conn).length + 1 := by
      rw [List.length_append, hidle]
      rfl
    rw [← withMessage_messages] at hread hlength
    exact ⟨hread, hlength, r, hidle ▸ hr, hanswers⟩

/-! ## Handing out a response -/

/-- A response that is to be handed out, and the waiter that gets it. -/
structure Dequeues (s : RemoteServer) (message : ServerResponseMsg) (r : Nat) (ks : List Nat)
    (asset : Option Asset) : Prop where
  receiver : s.receiver = .received message
  read : (s.messages s.conn)[(s.handed s.conn).length]? = some message
  length : (s.messages s.conn).length = (s.handed s.conn).length + 1
  written : (s.written s.conn)[(s.handed s.conn).length]? = some r
  waiting : s.waitingRequests = r :: ks
  unanswered : ∃ us, s.unanswered = r :: us ∧
    us = (s.written s.conn).drop ((s.handed s.conn).length + 1) ∧
    ∃ l, ks = us ++ l ∧ (l = s.sendSync.toList ∨ l = [])
  answers : Answers message (s.request r)
  asset : tryConstructAsset message (s.request r).type = .ok asset

/-- The waiter at the front of the queue is that of the request which the message answers. -/
lemma Consistent.dequeue_eq (h : s.Consistent) (ht : s.Tidy)
    (hreceiver : s.receiver = .received message) :
    ∃ r ks asset, s.Dequeues message r ks asset ∧
      s.dequeue message = s.withHanded r ks message asset := by
  obtain ⟨hread, hlength, r, hr, hanswers⟩ := h.received message hreceiver
  obtain ⟨hlt, hget⟩ := List.getElem?_eq_some_iff.mp hr
  have hloop : s.receiver.inLoop = true := by rw [hreceiver]; rfl
  have hunanswered : s.unanswered =
      r :: (s.written s.conn).drop ((s.handed s.conn).length + 1) := by
    rw [unanswered_of_inLoop hloop, List.drop_eq_getElem_cons hlt, hget]
  -- A failed send would need that there is nothing left to answer.
  have hnone : ∀ j < s.issued, s.stage j ≠ .sendFailed := fun j hj hstage => by
    have hnil := h.blocked j hj hstage
    rw [hunanswered] at hnil
    cases hnil
  obtain ⟨l, hqueue, hl⟩ := h.queue_eq ht hloop hnone
  rw [hunanswered, List.cons_append] at hqueue
  obtain ⟨asset, hasset⟩ := tryConstructAsset_isOk fun hget => (hanswers hget).2
  refine ⟨r, _, asset, ⟨hreceiver, hread, hlength, hr, hqueue,
    ⟨_, hunanswered, rfl, l, rfl, hl⟩, hanswers, hasset⟩, ?_⟩
  simp only [RemoteServer.dequeue, hqueue, hasset]
  rfl

section Dequeues

variable {ks : List Nat} {asset : Option Asset}

lemma unanswered_withHanded :
    (s.withHanded r ks message asset).unanswered =
      (s.written s.conn).drop ((s.handed s.conn).length + 1) := by
  have hloop : (s.withHanded r ks message asset).receiver.inLoop = true := by
    unfold RemoteServer.withHanded
    dsimp only
    split_ifs <;> rfl
  have hlength : ((s.withHanded r ks message asset).handed s.conn).length =
      (s.handed s.conn).length + 1 := by
    rw [withHanded_handed, List.length_append]
    rfl
  rw [unanswered_of_inLoop hloop, ← hlength]
  rfl

lemma withHanded_receiver : (s.withHanded r ks message asset).receiver =
    if (s.request r).type = .get then .notifying message asset r else .loop := rfl

lemma Consistent.withHanded (h : s.Consistent) (ht : s.Tidy) (hq : s.Dequeues message r ks asset) :
    (s.withHanded r ks message asset).Consistent := by
  obtain ⟨us, hunanswered, hus, l, hks, hl⟩ := hq.unanswered
  have hnew : (s.withHanded r ks message asset).unanswered = us :=
    unanswered_withHanded.trans hus.symm
  obtain ⟨hlt, -, hserved⟩ := ht.waiting r (hq.waiting ▸ List.mem_cons_self)
  have herror : ∀ j, ((s.withHanded r ks message asset).waiter j).error = (s.waiter j).error := by
    intro j
    by_cases hj : j = r
    · rw [hj, withHanded_waiter_self]
    · rw [withHanded_waiter hj]
  -- A get stays on its way: that of `r` since its answer is passed on.
  have hlive : ∀ j, (s.request j).type = .get → s.Live j →
      (s.withHanded r ks message asset).Live j := by
    rintro j hget (⟨hsends, hnone⟩ | hmem | ⟨_, _, hother⟩)
    · exact .inl ⟨hsends, (herror j).trans hnone⟩
    · rw [hunanswered] at hmem
      rcases List.mem_cons.mp hmem with rfl | hmem
      · exact .inr (.inr ⟨message, asset, if_pos hget⟩)
      · exact .inr (.inl (hnew ▸ hmem))
    · rw [hq.receiver] at hother
      cases hother
  have hlive' : ∀ j, (s.withHanded r ks message asset).Live j → s.Live j := by
    rintro j (⟨hsends, hnone⟩ | hmem | ⟨m, a, hother⟩)
    · exact .inl ⟨hsends, (herror j).symm.trans hnone⟩
    · rw [hnew] at hmem
      exact .inr (.inl (hunanswered ▸ List.mem_cons_of_mem _ hmem))
    · rw [withHanded_receiver] at hother
      split_ifs at hother
      cases hother
      exact .inr (.inl (hunanswered ▸ List.mem_cons_self))
  refine { h with alive := ?_, queue := ?_, blocked := ?_, heads := ?_, gets := ?_, idle := ?_
                  received := ?_, notifying := ?_ }
  · intro e
    rw [withHanded_receiver]
    split_ifs <;> exact nofun
  · refine .inr ⟨[], l, ?_, nofun, hl⟩
    rw [hnew, List.append_nil]
    exact hks
  · intro j hj hfailed
    have hnil := h.blocked j hj hfailed
    rw [hunanswered] at hnil
    cases hnil
  · intro p hp j hj
    have hget := ((ht.groups p hp).head hj j (List.mem_of_head? hj)).2.1
    refine (h.heads p hp j hj).imp (hlive j hget) (Or.imp_right fun hfreeing => ?_)
    rw [hq.receiver] at hfreeing
    cases hfreeing
  · intro j hj htype hserved hl
    exact h.gets j hj htype hserved (hlive' j hl)
  · intro _
    have hlength : ((s.withHanded r ks message asset).handed s.conn).length =
        (s.handed s.conn).length + 1 := by
      rw [withHanded_handed, List.length_append]
      rfl
    exact hq.length.trans hlength.symm
  · intro m hm
    rw [withHanded_receiver] at hm
    split_ifs at hm
  · intro m a root hroot
    rw [withHanded_receiver] at hroot
    split_ifs at hroot with hget
    cases hroot
    exact
      { issued := hlt
        type := hget
        servedBy := hserved
        uuid := (hq.answers hget).1
        answered := answeredBy_withHanded hq.read
        asset := hget ▸ hq.asset }

lemma Dequeues.tidy (h : s.Dequeues message r ks asset) (ht : s.Tidy) (hd : s.Delivered) :
    (s.withHanded r ks message asset).Tidy :=
  ht.withHanded h.waiting (hd.sent _ r (List.mem_of_getElem? h.written)).2.1 h.read h.written h.asset

end Dequeues

/-! ## Passing on the answer to a get -/

/-- The state after the answer to a get was passed on to the calls `ks`. -/
def passedOn (s : RemoteServer) (ks : List Nat) (message : ServerResponseMsg)
    (asset : Option Asset) : RemoteServer :=
  { s with receiver := .loop }.settle ks (Dict.erase s.getResponseWaiters message.assetUUID)
    (fun w => { w with response := some message, asset := asset, waitEvent := true })
    (.ofResponse message asset)

/-- Those to whom the answer to a get is passed on: the get and the calls that joined it. -/
structure Passes (s : RemoteServer) (message : ServerResponseMsg) (asset : Option Asset)
    (root : Nat) (ks : List Nat) : Prop where
  receiver : s.receiver = .notifying message asset root
  notifying : s.Notifying message asset root
  entry : Dict.get? s.getResponseWaiters message.assetUUID = some ks
  head : ks.head? = some root
  group : ∀ k ∈ ks, k < s.issued ∧ (s.request k).type = .get ∧
    (s.request k).uuid = message.assetUUID ∧ (s.request k).servedBy = root

section Passes

variable {asset : Option Asset} {root : Nat} {ks : List Nat}

lemma Consistent.callGetWaiters_eq (h : s.Consistent) (ht : s.Tidy)
    (hreceiver : s.receiver = .notifying message asset root) :
    ∃ ks, s.Passes message asset root ks ∧
      s.callGetWaiters message asset = s.passedOn ks message asset := by
  have hn := h.notifying message asset root hreceiver
  obtain ⟨ks, hget, hhead⟩ :=
    h.gets root hn.issued hn.type hn.servedBy (.inr (.inr ⟨_, _, hreceiver⟩))
  rw [← hn.uuid] at hget
  refine ⟨ks, ⟨hreceiver, hn, hget, hhead, (ht.groups _ (Dict.mem_of_get? hget)).head hhead⟩, ?_⟩
  simp only [RemoteServer.callGetWaiters, hget]
  rfl

lemma Passes.tidy (h : s.Passes message asset root ks) (ht : s.Tidy) :
    (s.passedOn ks message asset).Tidy := by
  have hanswer : ∀ k ∈ ks, k < s.issued ∧ s.AnsweredBy (s.request k).servedBy message ∧
      tryConstructAsset message (s.request k).type = .ok asset := by
    intro k hk
    obtain ⟨hlt, htype, -, hserved⟩ := h.group k hk
    rw [hserved, htype]
    exact ⟨hlt, h.notifying.answered, h.notifying.asset⟩
  have hloop : { s with receiver := .loop }.Tidy := { ht with }
  refine hloop.settle
    { keys := ?_, groups := ?_, joined := Waiters.tickets_erase ht.keys h.entry
      waitEvent := fun _ => rfl, set := fun _ => .inr (Option.some_ne_none _)
      error := fun _ => id, right := ?_, notice := ?_ }
  · rw [Dict.keys_erase]
    exact ht.keys.filter _
  · exact fun p hp => (Dict.mem_erase.mp hp).1
  · intro k hk m hm
    obtain rfl := Option.some.inj hm
    exact hanswer k hk
  · intro k hk
    obtain ⟨-, hanswered, hasset⟩ := hanswer k hk
    exact .inl ⟨message, asset, hanswered, hasset, rfl⟩

/-- Those who joined hold the message of the get; the get itself keeps it. -/
lemma Passes.delivered (h : s.Passes message asset root ks) (ht : s.Tidy) (hd : s.Delivered) :
    (s.passedOn ks message asset).Delivered := by
  refine hd.mono le_rfl rfl rfl (fun _ => List.prefix_rfl) (fun _ _ => rfl) (fun _ _ => id) ?_
  intro c n k m hk hm hresponse
  unfold passedOn
  by_cases hmem : k ∈ ks
  · have hserved := (hd.sent c k (List.mem_of_getElem? (ht.written_of_handed hk))).2.2
    obtain rfl : k = root := hserved.symm.trans (h.group k hmem).2.2.2
    obtain ⟨c', n', hk', hm'⟩ := h.notifying.answered
    obtain ⟨rfl, rfl⟩ := hd.unique (ht.written_of_handed hk) (ht.written_of_handed hk')
    rw [settle_waiter_of_mem hmem]
    exact hm'.symm.trans hm
  · rw [settle_waiter_of_not_mem hmem]
    exact hresponse

lemma passedOn_error (j : Nat) :
    ((s.passedOn ks message asset).waiter j).error = (s.waiter j).error := by
  unfold passedOn
  by_cases hj : j ∈ ks
  · rw [settle_waiter_of_mem hj]
  · rw [settle_waiter_of_not_mem hj]

lemma Passes.consistent (h : s.Passes message asset root ks) (ht : s.Tidy) (hd : s.Delivered)
    (hc : s.Consistent) : (s.passedOn ks message asset).Consistent := by
  have hloop : s.receiver.inLoop = true := by rw [h.receiver]; rfl
  have hunanswered : (s.passedOn ks message asset).unanswered = s.unanswered :=
    (unanswered_of_inLoop hloop).symm
  have hlive : ∀ r, (s.passedOn ks message asset).Live r ↔
      ((s.stage r).sends = true ∧ (s.waiter r).error = none) ∨ r ∈ s.unanswered := by
    intro r
    have hno : ¬ ∃ m a, (s.passedOn ks message asset).receiver = .notifying m a r :=
      fun ⟨_, _, heq⟩ => (nomatch heq)
    rw [Live, hunanswered, passedOn_error, or_iff_left hno]
    rfl
  refine { hc with alive := nofun, queue := ?_, blocked := ?_, heads := ?_, gets := ?_, idle := ?_
                   received := nofun, notifying := nofun }
  · rw [hunanswered]
    refine hc.queue.imp_left fun hfailing => ?_
    rw [h.receiver] at hfailing
    cases hfailing
  · rw [hunanswered]
    exact hc.blocked
  · intro p hp r hr
    obtain ⟨hp, hne⟩ := Dict.mem_erase.mp hp
    rcases hc.heads p hp r hr with (hopen | hopen | ⟨m, a, hopen⟩) | hfreeing | hfreeing
    · exact .inl ((hlive r).mpr (.inl hopen))
    · exact .inl ((hlive r).mpr (.inr hopen))
    · -- The group of `root` is the one that left.
      rw [h.receiver] at hopen
      cases hopen
      have huuid := ((ht.groups p hp).head hr root (List.mem_of_head? hr)).2.2.1
      exact absurd (huuid.symm.trans h.notifying.uuid.symm) hne
    · exact .inr (.inl hfreeing)
    · rw [h.receiver] at hfreeing
      cases hfreeing
  · intro r hr htype hserved hopen
    have hopen := (hlive r).mp hopen
    obtain ⟨js, hjs, hrhead⟩ := hc.gets r hr htype hserved (hopen.imp_right .inl)
    refine ⟨js, ?_, hrhead⟩
    refine (Dict.get?_erase_of_ne fun heq => ?_).trans hjs
    have hsame : some ks = some js := h.entry.symm.trans (heq ▸ hjs)
    obtain rfl := Option.some.inj hsame
    obtain rfl := Option.some.inj (h.head.symm.trans hrhead)
    rcases hopen with ⟨hsends, -⟩ | hmem
    · obtain ⟨c, n, hn, -⟩ := h.notifying.answered
      rcases (hd.sent c root (List.mem_of_getElem? (ht.written_of_handed hn))).2.1 with hs | hs <;>
      · rw [hs] at hsends
        cases hsends
    · exact hd.not_unanswered ht h.notifying.answered hmem
  · exact fun _ => hc.idle fun m hm => by
      rw [h.receiver] at hm
      cases hm

end Passes

/-! ## Freeing the waiters -/

/-- A waiter that is not released after waiters were released was not before. -/
lemma error_of_release (h : ((s.release ks e).waiter k).error = none) :
    (s.waiter k).error = none := by
  by_contra hne
  exact release_error hne h

lemma freeWaitingRequests_queue (h : s.unanswered = []) :
    (s.freeWaitingRequests e).waitingRequests = (s.freeWaitingRequests e).unanswered ++ [] ++ [] := by
  rw [show (s.freeWaitingRequests e).unanswered = [] from h]
  rfl

/-- The queue is emptied by a thread that handles an error, when no request is unanswered. -/
lemma Consistent.freeWaitingRequests (h : s.Consistent) (e : ClientException)
    (hunanswered : s.unanswered = []) (hfreeing : s.Freeing) :
    (s.freeWaitingRequests e).Consistent := by
  have hlive : ∀ r, (s.freeWaitingRequests e).Live r → s.Live r := fun r =>
    Or.imp_left fun ⟨hsends, herror⟩ => ⟨hsends, error_of_release herror⟩
  refine { h with queue := ?_, heads := fun _ _ _ _ => .inr hfreeing, gets := ?_, notifying := ?_ }
  · exact .inr ⟨[], [], freeWaitingRequests_queue hunanswered, nofun, .inr rfl⟩
  · intro r hr htype hserved hl
    exact h.gets r hr htype hserved (hlive r hl)
  · intro message asset root hreceiver
    exact { h.notifying message asset root hreceiver with }

/-- The dictionary is emptied, when no get is unanswered. -/
lemma Consistent.freeGetWaiters (h : s.Consistent) (e : ClientException)
    (hgets : ∀ r < s.issued, (s.request r).type = .get → r ∉ s.unanswered)
    (hnotifying : ∀ message asset root, s.receiver ≠ .notifying message asset root) :
    (s.freeGetWaiters e).Consistent := by
  refine { h with heads := fun _ hp => absurd hp List.not_mem_nil, gets := ?_, notifying := ?_ }
  · rintro r hr htype hserved (⟨hsends, herror⟩ | hmem | ⟨m, a, heq⟩)
    · -- It was in the dictionary, and so it was released.
      have hrelease : ((s.release s.joined e).waiter r).error = none := herror
      have hold := error_of_release hrelease
      obtain ⟨ks, hks, hhead⟩ := h.gets r hr htype hserved (.inl ⟨hsends, hold⟩)
      have hjoined : r ∈ s.joined :=
        mem_joined.mpr ⟨_, Dict.mem_of_get? hks, List.mem_of_head? hhead⟩
      have hreleased : ((s.release s.joined e).waiter r).error = some e := by
        rw [release_waiter_of_mem hjoined]
      cases hreleased.symm.trans hrelease
    · exact absurd hmem (hgets r hr htype)
    · exact absurd heq (hnotifying m a r)
  · exact fun m a root heq => absurd heq (hnotifying m a root)

/-- The first lock of `HandleSendError`. -/
lemma Consistent.sendErrorFreed (h : s.Consistent) (hk : k < s.issued)
    (hstage : s.stage k = .sendFailed) (e : ClientException) :
    ((s.freeWaitingRequests e).goto k .freed).Consistent := by
  have hunanswered := h.blocked k hk hstage
  have hfree := h.freeWaitingRequests e hunanswered (.inl ⟨k, hk, by rw [hstage]; rfl⟩)
  have hsends : ((s.freeWaitingRequests e).stage k).sends = false := by
    rw [show (s.freeWaitingRequests e).stage k = .sendFailed from hstage]
    rfl
  refine hfree.moved nofun nofun (.inr ⟨fun hs => ?_, fun _ => rfl⟩)
    (.inr ⟨[], [], freeWaitingRequests_queue hunanswered, nofun, .inr rfl⟩)
  rw [hsends] at hs
  cases hs

/-- The second lock of `HandleSendError`, and the exception behind it. -/
lemma Consistent.endSendError (h : s.Consistent) (hstage : s.stage k = .freed)
    (hgets : ∀ r < s.issued, (s.request r).type = .get → r ∉ s.unanswered)
    (hnotifying : ∀ message asset root, s.receiver ≠ .notifying message asset root) :
    (s.endSendError k).Consistent := by
  have hfree := h.freeGetWaiters .socketException hgets hnotifying
  have hgoto : ∀ ns, ((s.freeGetWaiters .socketException).moved k .returned s.sendSync
      s.waitingRequests ns).Consistent := by
    intro ns
    refine hfree.moved nofun nofun (.inl rfl) (hfree.queue.imp_right ?_)
    rintro ⟨fs, l, hqueue, hfs, hl⟩
    have hne : (s.freeGetWaiters .socketException).stage k ≠ .sendFailed := by
      rw [show (s.freeGetWaiters .socketException).stage k = .freed from hstage]
      decide
    exact ⟨fs, l, hqueue, stage_moved_of_mem hfs hne, hl⟩
  unfold RemoteServer.endSendError
  dsimp only
  split_ifs
  · exact hgoto _
  · exact hgoto _

/-- The first lock of `FreeAllWaitersWithError` in the receive thread. -/
lemma Consistent.receiveErrorFreed (h : s.Consistent) (hreceiver : s.receiver = .failed e) :
    { s.freeWaitingRequests e with receiver := .freed e }.Consistent := by
  have hloop : s.receiver.inLoop = false := by rw [hreceiver]; rfl
  have hfreeing : s.receiver.freeing = true := by rw [hreceiver]; rfl
  have hunanswered := unanswered_of_not_inLoop hloop
  have hplain : (s.freeWaitingRequests e).receiver.Plain := by
    rw [show (s.freeWaitingRequests e).receiver = .failed e from hreceiver]
    exact ⟨nofun, nofun, nofun⟩
  exact (h.freeWaitingRequests e hunanswered (.inr hfreeing)).moves hplain ⟨nofun, nofun, nofun⟩
    hunanswered.symm (fun _ => .inr rfl) fun _ => .inl rfl

/-- The second lock of `FreeAllWaitersWithError` in the receive thread. -/
lemma Consistent.receiveErrorEnds (h : s.Consistent) (hreceiver : s.receiver = .freed e) :
    { s.freeGetWaiters e with receiver := .reconnecting }.Consistent := by
  have hloop : s.receiver.inLoop = false := by rw [hreceiver]; rfl
  have hunanswered := unanswered_of_not_inLoop hloop
  have hfree := h.freeGetWaiters e
    (fun r _ _ hmem => by rw [hunanswered] at hmem; exact List.not_mem_nil hmem)
    (fun m a root heq => by rw [hreceiver] at heq; cases heq)
  have hplain : (s.freeGetWaiters e).receiver.Plain := by
    rw [show (s.freeGetWaiters e).receiver = .freed e from hreceiver]
    exact ⟨nofun, nofun, nofun⟩
  refine hfree.moves hplain ⟨nofun, nofun, nofun⟩ hunanswered.symm (fun hfailing => ?_)
    fun _ => .inr rfl
  rw [show (s.freeGetWaiters e).receiver = .freed e from hreceiver] at hfailing
  cases hfailing

/-- A new socket. -/
lemma Consistent.newSocket (h : s.Consistent) (ht : s.Tidy)
    (hreceiver : s.receiver = .reconnecting) :
    { s with receiver := .connecting, conn := s.conn + 1 }.Consistent := by
  have hloop : s.receiver.inLoop = false := by rw [hreceiver]; rfl
  have hplain : s.receiver.Plain := by
    rw [hreceiver]
    exact ⟨nofun, nofun, nofun⟩
  have hunanswered := unanswered_of_not_inLoop hloop
  have hconnecting : { s with receiver := .connecting }.Consistent :=
    h.moves hplain ⟨nofun, nofun, nofun⟩ hunanswered.symm
      (fun hf => by rw [hreceiver] at hf; cases hf) fun hf => by rw [hreceiver] at hf; cases hf
  obtain ⟨-, hmessages, hhanded⟩ := ht.fresh (s.conn + 1) (Nat.lt_succ_self _)
  refine { hconnecting with idle := fun _ => ?_, received := nofun, notifying := nofun }
  exact (congrArg List.length hmessages).trans (congrArg List.length hhanded).symm

lemma start_delivered : start.Delivered where
  sent _ _ hk := absurd hk List.not_mem_nil
  once _ := List.nodup_nil
  socket _ _ _ hk := absurd hk List.not_mem_nil
  response _ _ _ hk := (nomatch hk)

lemma start_consistent : start.Consistent where
  alive := nofun
  queue := .inr ⟨[], [], rfl, nofun, .inr rfl⟩
  blocked k hk := absurd hk k.not_lt_zero
  heads _ hp := absurd hp List.not_mem_nil
  gets r hr := absurd hr r.not_lt_zero
  idle _ := rfl
  received := nofun
  notifying := nofun

end RemoteServer

end Halcyon.Client
