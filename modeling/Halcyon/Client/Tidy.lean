import Halcyon.Client.RemoteServer

/-!
# What the client keeps whatever happens

A call is told something exactly once, when it returns or when its callback is called; until then
its waiter is in the queue or in the dictionary, or its event is set.  What a waiter holds is the
response to its own request, or to that of the get which it joined.  `Tidy` collects this, and there
is a lemma for everything that a thread does: a new call, a thread that goes on (`Tidy.goes`), a
message, a response that is handed out, waiters that leave the queue or the dictionary
(`Tidy.freeWaitingRequests`, `Tidy.settle`).
-/

namespace Halcyon.Client

open Halcyon.Lib Halcyon.Whip Lib.Transition

namespace RemoteServer

/-- The message answers the request of the call: for some `n` the request was the `n`-th whose
waiter got a response on a socket, and the message the `n`-th that was read from it. -/
def AnsweredBy (s : RemoteServer) (r : Nat) (message : ServerResponseMsg) : Prop :=
  ∃ c n : Nat, (s.handed c)[n]? = some r ∧ (s.messages c)[n]? = some message

/-- The call is told about the answer to the request that it waits for. -/
def ToldAnswer (s : RemoteServer) (k : Nat) (notice : Notice) : Prop :=
  ∃ message asset, s.AnsweredBy (s.request k).servedBy message ∧
    tryConstructAsset message (s.request k).type = .ok asset ∧
    notice = .ofResponse message asset

/-- The calls waiting for a get with the id `uuid`, which the first of them has sent. -/
def Group (s : RemoteServer) (uuid : Bytes) (ks : List Nat) : Prop :=
  ks.Nodup ∧ ∃ r js, ks = r :: js ∧ ∀ k ∈ ks, k < s.issued ∧
    (s.request k).type = .get ∧ (s.request k).uuid = uuid ∧ (s.request k).servedBy = r

/-- The calls in the dictionary. -/
def joined (s : RemoteServer) : List Nat := Waiters.tickets s.getResponseWaiters

/-- How often a call is told something until now: a callback once it is out of the dictionary, a
caller when it returns. -/
def timesTold (s : RemoteServer) (k : Nat) : Nat :=
  if (s.request k).callBack then if k ∈ s.joined then 0 else 1
  else if s.stage k = .returned then 1 else 0

/-- What always holds. -/
structure Tidy (s : RemoteServer) : Prop where
  served : ∀ k < s.issued, (s.request k).servedBy < s.issued ∧
    (s.request (s.request k).servedBy).servedBy = (s.request k).servedBy ∧
    (s.request (s.request k).servedBy).type = (s.request k).type ∧
    (s.request (s.request k).servedBy).uuid = (s.request k).uuid ∧
    ((s.request k).servedBy ≠ k → (s.request k).type = .get)
  callBack : ∀ k < s.issued, (s.request k).callBack = true → (s.request k).type = .get
  sender : ∀ k < s.issued, s.stage k = .sendRequest → (s.request k).servedBy = k
  waits : ∀ k < s.issued, s.stage k = .waitOne → (s.request k).callBack = false
  sending : ∀ k < s.issued, s.stage k = .send ∨ s.stage k = .sendFailed →
    k ∈ s.waitingRequests ∨ (s.waiter k).error ≠ none
  freed : ∀ k < s.issued, s.stage k = .freed → (s.waiter k).error ≠ none
  lock : ∀ k, s.sendSync = some k ↔ k < s.issued ∧ s.stage k = .send
  keys : (Dict.keys s.getResponseWaiters).Nodup
  groups : ∀ p ∈ s.getResponseWaiters, s.Group p.1 p.2
  waiting : ∀ k ∈ s.waitingRequests, k < s.issued ∧ s.stage k ≠ .sendRequest ∧
    (s.request k).servedBy = k
  distinct : s.waitingRequests.Nodup
  told : ∀ k < s.issued, (s.notices.map Prod.fst).count k = s.timesTold k
  toldIssued : ∀ p ∈ s.notices, p.1 < s.issued
  settled : ∀ k < s.issued, s.stage k = .sendRequest ∨ k ∈ s.waitingRequests ∨ k ∈ s.joined ∨
    (s.waiter k).waitEvent = true
  set : ∀ k, (s.waiter k).waitEvent = true →
    (s.waiter k).error ≠ none ∨ (s.waiter k).response ≠ none
  released : ∀ k, (s.waiter k).error ≠ none → (s.waiter k).waitEvent = true
  right : ∀ k message, (s.waiter k).response = some message → k < s.issued ∧
    s.AnsweredBy (s.request k).servedBy message ∧
    tryConstructAsset message (s.request k).type = .ok (s.waiter k).asset
  notices : ∀ p ∈ s.notices, s.ToldAnswer p.1 p.2 ∨ (s.waiter p.1).error ≠ none
  handed : ∀ c, s.handed c <+: s.written c
  read : ∀ c, (s.handed c).length ≤ (s.messages c).length
  fresh : ∀ c, s.conn < c → s.written c = [] ∧ s.messages c = [] ∧ s.handed c = []

variable {s s' : RemoteServer} {k r : Nat} {message : ServerResponseMsg} {notice : Notice}

lemma mem_joined : k ∈ s.joined ↔ ∃ p ∈ s.getResponseWaiters, k ∈ p.2 := List.mem_flatMap

lemma getElem?_mono {α : Type} {l l' : List α} {n : Nat} {a : α} (h : l <+: l')
    (hn : l[n]? = some a) : l'[n]? = some a := by
  obtain ⟨t, rfl⟩ := h
  obtain ⟨hlt, -⟩ := List.getElem?_eq_some_iff.mp hn
  rw [List.getElem?_append_left hlt, hn]

/-- The answers that were given stay. -/
lemma AnsweredBy.mono (h : s.AnsweredBy r message) (hhanded : ∀ c, s.handed c <+: s'.handed c)
    (hmessages : ∀ c, s.messages c <+: s'.messages c) : s'.AnsweredBy r message := by
  obtain ⟨c, n, hr, hmessage⟩ := h
  exact ⟨c, n, getElem?_mono (hhanded c) hr, getElem?_mono (hmessages c) hmessage⟩

variable {ks : List Nat}

/-- The first call of a group is the one whose request the others wait for. -/
lemma Group.head {uuid : Bytes} (h : s.Group uuid ks) (hr : ks.head? = some r) :
    ∀ k ∈ ks, k < s.issued ∧ (s.request k).type = .get ∧ (s.request k).uuid = uuid ∧
      (s.request k).servedBy = r := by
  obtain ⟨-, r', js, rfl, hall⟩ := h
  obtain rfl := Option.some.inj hr
  exact hall

lemma Tidy.head_lt (h : s.Tidy) {p : Bytes × List Nat} (hp : p ∈ s.getResponseWaiters)
    (hr : p.2.head? = some r) : r < s.issued :=
  ((h.groups p hp).head hr r (List.mem_of_head? hr)).1

/-! ## A new call -/

/-- The state after a call: the dictionary, and how far the thread has come. -/
def issued' (s : RemoteServer) (req : Request) (d : Waiters Bytes) (st : Stage) : RemoteServer :=
  { s.issue req with getResponseWaiters := d, stage := Function.update s.stage s.issued st }

section Issue

variable {req : Request} {d : Waiters Bytes} {st : Stage}

lemma issued_request (h : k < s.issued) : (s.issued' req d st).request k = s.request k :=
  Function.update_of_ne h.ne _ _

lemma issued_waiter (h : k < s.issued) : (s.issued' req d st).waiter k = s.waiter k :=
  Function.update_of_ne h.ne _ _

lemma issued_stage (h : k < s.issued) : (s.issued' req d st).stage k = s.stage k :=
  Function.update_of_ne h.ne _ _

lemma issued_request_self : (s.issued' req d st).request s.issued = req := Function.update_self ..

lemma issued_waiter_self : (s.issued' req d st).waiter s.issued = ⟨false, none, none, none⟩ :=
  Function.update_self ..

lemma issued_stage_self : (s.issued' req d st).stage s.issued = st := Function.update_self ..

lemma afterSendRequest_issue :
    { s.issue req with getResponseWaiters := d }.afterSendRequest s.issued =
      s.issued' req d (if req.callBack then .returned else .waitOne) := by
  simp [afterSendRequest, goto, issue, issued']

/-- A group without the new call. -/
lemma Group.issued {uuid : Bytes} {ks : List Nat} (h : s.Group uuid ks) :
    (s.issued' req d st).Group uuid ks := by
  obtain ⟨hnodup, r, js, hks, hall⟩ := h
  refine ⟨hnodup, r, js, hks, fun k hk => ?_⟩
  obtain ⟨hlt, hrest⟩ := hall k hk
  rw [issued_request hlt]
  exact ⟨Nat.lt_succ_of_lt hlt, hrest⟩

/-- What a new call needs to keep the client tidy. -/
structure Fits (s : RemoteServer) (req : Request) (d : Waiters Bytes) (st : Stage) : Prop where
  stage : st = .sendRequest ∨ st = .waitOne ∨ st = .returned
  served : req.servedBy = s.issued ∨ (req.servedBy < s.issued ∧ req.type = .get ∧
    (s.request req.servedBy).servedBy = req.servedBy ∧ (s.request req.servedBy).type = .get ∧
    (s.request req.servedBy).uuid = req.uuid)
  callBack : req.callBack = true → req.type = .get
  sender : st = .sendRequest → req.servedBy = s.issued
  waits : st = .waitOne → req.callBack = false
  keys : (Dict.keys d).Nodup
  groups : ∀ p ∈ d, (s.issued' req d st).Group p.1 p.2
  joined : ∀ k < s.issued, k ∈ Waiters.tickets d ↔ k ∈ s.joined
  new : st = .sendRequest ∨ s.issued ∈ Waiters.tickets d
  told : if req.callBack then s.issued ∈ Waiters.tickets d else st ≠ .returned

lemma Tidy.issue (h : s.Tidy) (hf : s.Fits req d st) : (s.issued' req d st).Tidy where
  served := by
    intro k hk
    rcases Nat.lt_succ_iff_lt_or_eq.mp hk with hk | rfl
    · obtain ⟨hlt, hrest⟩ := h.served k hk
      rw [issued_request hk, issued_request hlt]
      exact ⟨Nat.lt_succ_of_lt hlt, hrest⟩
    · rw [issued_request_self]
      rcases hf.served with heq | ⟨hlt, htype, hself, htype', huuid⟩
      · rw [heq, issued_request_self]
        exact ⟨Nat.lt_succ_self _, heq, rfl, rfl, fun hne => absurd rfl hne⟩
      · rw [issued_request hlt]
        exact ⟨Nat.lt_succ_of_lt hlt, hself, htype'.trans htype.symm, huuid, fun _ => htype⟩
  callBack := by
    intro k hk
    rcases Nat.lt_succ_iff_lt_or_eq.mp hk with hk | rfl
    · rw [issued_request hk]
      exact h.callBack k hk
    · rw [issued_request_self]
      exact hf.callBack
  sender := by
    intro k hk
    rcases Nat.lt_succ_iff_lt_or_eq.mp hk with hk | rfl
    · rw [issued_request hk, issued_stage hk]
      exact h.sender k hk
    · rw [issued_request_self, issued_stage_self]
      exact hf.sender
  waits := by
    intro k hk
    rcases Nat.lt_succ_iff_lt_or_eq.mp hk with hk | rfl
    · rw [issued_request hk, issued_stage hk]
      exact h.waits k hk
    · rw [issued_request_self, issued_stage_self]
      exact hf.waits
  lock := by
    intro k
    have hlock := h.lock k
    by_cases hk : k < s.issued
    · rw [issued_stage hk]
      exact hlock.trans (and_congr_left fun _ => ⟨fun _ => Nat.lt_succ_of_lt hk, fun _ => hk⟩)
    · refine ⟨fun hsome => absurd (hlock.mp hsome).1 hk, fun ⟨hlt, hstage⟩ => ?_⟩
      obtain rfl : k = s.issued := by
        have : k < s.issued + 1 := hlt
        omega
      rw [issued_stage_self] at hstage
      rcases hf.stage with rfl | rfl | rfl <;> cases hstage
  sending := by
    intro k hk
    rcases Nat.lt_succ_iff_lt_or_eq.mp hk with hk | rfl
    · rw [issued_stage hk, issued_waiter hk]
      exact h.sending k hk
    · rw [issued_stage_self]
      rcases hf.stage with rfl | rfl | rfl <;> rintro (hstage | hstage) <;> cases hstage
  freed := by
    intro k hk
    rcases Nat.lt_succ_iff_lt_or_eq.mp hk with hk | rfl
    · rw [issued_stage hk, issued_waiter hk]
      exact h.freed k hk
    · rw [issued_stage_self]
      rcases hf.stage with rfl | rfl | rfl <;> intro hstage <;> cases hstage
  keys := hf.keys
  groups := hf.groups
  waiting := by
    intro k hk
    obtain ⟨hlt, hrest⟩ := h.waiting k hk
    rw [issued_stage hlt, issued_request hlt]
    exact ⟨Nat.lt_succ_of_lt hlt, hrest⟩
  distinct := h.distinct
  told := by
    intro k hk
    rcases Nat.lt_succ_iff_lt_or_eq.mp hk with hk | rfl
    · have hjoined : k ∈ (s.issued' req d st).joined ↔ k ∈ s.joined := hf.joined k hk
      rw [timesTold, issued_request hk, issued_stage hk]
      simp only [hjoined]
      exact h.told k hk
    · have hnone : s.issued ∉ s.notices.map Prod.fst := fun hmem => by
        obtain ⟨p, hp, heq⟩ := List.mem_map.mp hmem
        exact absurd (h.toldIssued p hp) (heq ▸ lt_irrefl _)
      have htold := hf.told
      rw [timesTold, issued_request_self, issued_stage_self]
      refine (List.count_eq_zero_of_not_mem hnone).trans ?_
      split_ifs at htold ⊢ with hcallBack hjoined hreturned
      · rfl
      · exact absurd htold hjoined
      · exact absurd hreturned htold
      · rfl
  toldIssued p hp := Nat.lt_succ_of_lt (h.toldIssued p hp)
  settled := by
    intro k hk
    rcases Nat.lt_succ_iff_lt_or_eq.mp hk with hk | rfl
    · rw [issued_stage hk, issued_waiter hk]
      have hjoined : k ∈ (s.issued' req d st).joined ↔ k ∈ s.joined := hf.joined k hk
      rw [hjoined]
      exact h.settled k hk
    · rw [issued_stage_self]
      rcases hf.new with hnew | hnew
      · exact .inl hnew
      · exact .inr (.inr (.inl hnew))
  set := by
    intro k
    by_cases hk : k = s.issued
    · rw [hk, issued_waiter_self]
      exact fun hset => nomatch hset
    · have hwaiter : (s.issued' req d st).waiter k = s.waiter k := Function.update_of_ne hk _ _
      rw [hwaiter]
      exact h.set k
  released := by
    intro k
    by_cases hk : k = s.issued
    · rw [hk, issued_waiter_self]
      exact fun hne => absurd rfl hne
    · have hwaiter : (s.issued' req d st).waiter k = s.waiter k := Function.update_of_ne hk _ _
      rw [hwaiter]
      exact h.released k
  right := by
    intro k message
    by_cases hk : k = s.issued
    · rw [hk, issued_waiter_self]
      exact fun hsome => nomatch hsome
    · have hwaiter : (s.issued' req d st).waiter k = s.waiter k := Function.update_of_ne hk _ _
      rw [hwaiter]
      intro hresponse
      obtain ⟨hlt, hright⟩ := h.right k message hresponse
      rw [issued_request hlt]
      exact ⟨Nat.lt_succ_of_lt hlt, hright⟩
  notices := by
    intro p hp
    have hlt := h.toldIssued p hp
    rw [ToldAnswer, issued_request hlt, issued_waiter hlt]
    exact h.notices p hp
  handed := h.handed
  read := h.read
  fresh := h.fresh

end Issue

lemma mem_tickets_add {d : Waiters Bytes} {uuid : Bytes} {j : Nat} :
    k ∈ Waiters.tickets (Dict.add d uuid [j]) ↔ k ∈ Waiters.tickets d ∨ k = j := by
  rw [(Waiters.tickets_add).mem_iff, List.mem_append, List.mem_singleton, or_comm]

/-- The new entry of the dictionary: a group of its own, or one more call in that of the id. -/
inductive CallCase (s : RemoteServer) (uuid : Bytes) (callBack : Bool) :
    RequestType → Request → Waiters Bytes → Stage → Prop
  | other {type : RequestType} : type ≠ .get → CallCase s uuid callBack type
      ⟨callBack, type, uuid, s.issued⟩ s.getResponseWaiters .sendRequest
  | first : Dict.get? s.getResponseWaiters uuid = none → CallCase s uuid callBack .get
      ⟨callBack, .get, uuid, s.issued⟩ (Dict.add s.getResponseWaiters uuid [s.issued]) .sendRequest
  | join {ks : List Nat} {r : Nat} : Dict.get? s.getResponseWaiters uuid = some ks →
      ks.head? = some r → CallCase s uuid callBack .get ⟨callBack, .get, uuid, r⟩
        (Dict.modify s.getResponseWaiters uuid (· ++ [s.issued]))
        (if callBack then .returned else .waitOne)

lemma Tidy.call_eq (h : s.Tidy) (type : RequestType) (uuid : Bytes) (callBack : Bool) :
    ∃ req d st, s.call type uuid callBack = s.issued' req d st ∧
      CallCase s uuid callBack type req d st := by
  unfold RemoteServer.call
  dsimp only
  split_ifs with hget
  · subst hget
    split
    · next ks hks =>
      obtain ⟨-, r, js, rfl, -⟩ := h.groups _ (Dict.mem_of_get? hks)
      exact ⟨_, _, _, afterSendRequest_issue, .join hks rfl⟩
    · next hnone => exact ⟨_, _, _, rfl, .first hnone⟩
  · exact ⟨_, _, _, rfl, .other hget⟩

section Call

variable {type : RequestType} {uuid : Bytes} {callBack : Bool} {req : Request} {d : Waiters Bytes}
  {st : Stage}

/-- The groups after a call: the new one or the one it joined, and those that were there before. -/
lemma CallCase.entry (hc : CallCase s uuid callBack type req d st) (ht : s.Tidy)
    {p : Bytes × List Nat} (hp : p ∈ d) :
    p ∈ s.getResponseWaiters ∨
      (p = (uuid, [s.issued]) ∧ req = ⟨callBack, .get, uuid, s.issued⟩ ∧ st = .sendRequest) ∨
      ∃ r js, (uuid, r :: js) ∈ s.getResponseWaiters ∧ p = (uuid, (r :: js) ++ [s.issued]) ∧
        req = ⟨callBack, .get, uuid, r⟩ := by
  cases hc with
  | other => exact .inl hp
  | first hnone =>
    refine (List.mem_append.mp hp).imp_right fun hp => .inl ⟨?_, rfl, rfl⟩
    exact List.mem_singleton.mp hp
  | @join ks r hks hr =>
    have hmem := Dict.mem_of_get? hks
    rcases Dict.mem_modify hp with ⟨b, rfl, hb⟩ | hp
    · obtain rfl := Option.some.inj ((Dict.get?_of_mem ht.keys hb).symm.trans hks)
      obtain ⟨-, r', js, rfl, -⟩ := ht.groups _ hmem
      obtain rfl := Option.some.inj hr
      exact .inr (.inr ⟨r', js, hmem, rfl, rfl⟩)
    · exact .inl hp

/-- Who is in the dictionary after a call. -/
lemma CallCase.mem_tickets (hc : CallCase s uuid callBack type req d st) (ht : s.Tidy) (k : Nat) :
    k ∈ Waiters.tickets d ↔ k ∈ s.joined ∨ (type = .get ∧ k = s.issued) := by
  cases hc with
  | other hne => exact (or_iff_left fun h => hne h.1).symm
  | first => simp [mem_tickets_add, joined]
  | join hks hr =>
    rw [(Waiters.tickets_join ht.keys hks).mem_iff, List.mem_cons, or_comm]
    simp [joined]

lemma CallCase.keys (hc : CallCase s uuid callBack type req d st) (ht : s.Tidy) :
    (Dict.keys d).Nodup := by
  cases hc with
  | other => exact ht.keys
  | first hnone =>
    rw [Dict.keys_add, List.nodup_append]
    refine ⟨ht.keys, List.nodup_singleton _, fun a ha b hb hab => ?_⟩
    rw [List.mem_singleton.mp hb] at hab
    exact Dict.get?_eq_none_iff.mp hnone (hab ▸ ha)
  | join =>
    rw [Dict.keys_modify]
    exact ht.keys

lemma CallCase.group (hc : CallCase s uuid callBack type req d st) (ht : s.Tidy)
    {p : Bytes × List Nat} (hp : p ∈ d) : (s.issued' req d st).Group p.1 p.2 := by
  rcases hc.entry ht hp with hold | ⟨rfl, hreq, -⟩ | ⟨r, js, hmem, rfl, hreq⟩
  · exact (ht.groups p hold).issued
  · refine ⟨List.nodup_singleton _, s.issued, [], rfl, fun k hk => ?_⟩
    rw [List.mem_singleton.mp hk, issued_request_self, hreq]
    exact ⟨Nat.lt_succ_self _, rfl, rfl, rfl⟩
  · have hgroup := ht.groups _ hmem
    have hall := hgroup.head rfl
    have hfresh : s.issued ∉ r :: js := fun hmem => lt_irrefl _ (hall _ hmem).1
    refine ⟨?_, r, js ++ [s.issued], rfl, fun k hk => ?_⟩
    · exact List.nodup_append.mpr ⟨hgroup.1, List.nodup_singleton _, fun a ha b hb hab =>
        hfresh (List.mem_singleton.mp hb ▸ hab ▸ ha)⟩
    · rcases List.mem_append.mp hk with hk | hk
      · obtain ⟨hlt, hrest⟩ := hall k hk
        rw [issued_request hlt]
        exact ⟨Nat.lt_succ_of_lt hlt, hrest⟩
      · rw [List.mem_singleton.mp hk, issued_request_self, hreq]
        exact ⟨Nat.lt_succ_self _, rfl, rfl, rfl⟩

lemma CallCase.fits (hc : CallCase s uuid callBack type req d st) (ht : s.Tidy)
    (hcallBack : callBack = true → type = .get) : s.Fits req d st := by
  have hmem := hc.mem_tickets ht
  have hkeys := hc.keys ht
  have hgroups : ∀ p ∈ d, (s.issued' req d st).Group p.1 p.2 := fun p hp => hc.group ht hp
  have hjoined : ∀ k < s.issued, k ∈ Waiters.tickets d ↔ k ∈ s.joined := fun k hk =>
    (hmem k).trans (or_iff_left fun h => hk.ne h.2)
  have hnew : type = .get → s.issued ∈ Waiters.tickets d := fun hget =>
    (hmem _).mpr (.inr ⟨hget, rfl⟩)
  cases hc with
  | other hne =>
    exact
      { stage := .inl rfl
        served := .inl rfl
        callBack := hcallBack
        sender := fun _ => rfl
        waits := nofun
        keys := hkeys
        groups := hgroups
        joined := hjoined
        new := .inl rfl
        told := by
          split_ifs with h
          · exact absurd (hcallBack h) hne
          · exact nofun }
  | first =>
    exact
      { stage := .inl rfl
        served := .inl rfl
        callBack := fun _ => rfl
        sender := fun _ => rfl
        waits := nofun
        keys := hkeys
        groups := hgroups
        joined := hjoined
        new := .inl rfl
        told := by
          split_ifs
          · exact hnew rfl
          · exact nofun }
  | join hks hr =>
    have hgroup := ht.groups _ (Dict.mem_of_get? hks)
    obtain ⟨hlt, htype, huuid, hserved⟩ := hgroup.head hr _ (List.mem_of_head? hr)
    exact
      { stage := by split_ifs <;> simp
        served := .inr ⟨hlt, rfl, hserved, htype, huuid⟩
        callBack := fun _ => rfl
        sender := by split_ifs <;> exact nofun
        waits := by
          split_ifs with h
          · exact nofun
          · exact fun _ => Bool.not_eq_true _ ▸ h
        keys := hkeys
        groups := hgroups
        joined := hjoined
        new := .inr (hnew rfl)
        told := by
          split_ifs with h
          · exact hnew rfl
          · exact nofun }

/-- A call. -/
lemma Tidy.call (h : s.Tidy) (hcallBack : callBack = true → type = .get) :
    (s.call type uuid callBack).Tidy := by
  obtain ⟨req, d, st, hcall, hc⟩ := h.call_eq type uuid callBack
  rw [hcall]
  exact h.issue (hc.fits h hcallBack)

end Call

/-! ## A thread goes on -/

/-- The state after the thread of a call went on: its place, the lock, the queue, and what was
told. -/
def moved (s : RemoteServer) (k : Nat) (st : Stage) (l : Option Nat) (q : List Nat)
    (notices : List (Nat × Notice)) : RemoteServer :=
  { s with
    stage := Function.update s.stage k st, sendSync := l, waitingRequests := q
    notices := notices }

section Moved

variable {st : Stage} {l : Option Nat} {q : List Nat} {ns : List (Nat × Notice)} {j : Nat}

lemma moved_stage (hj : j ≠ k) : (s.moved k st l q ns).stage j = s.stage j :=
  Function.update_of_ne hj _ _

lemma moved_stage_self : (s.moved k st l q ns).stage k = st := Function.update_self ..

/-- What it needs for that. -/
structure Goes (s : RemoteServer) (k : Nat) (st : Stage) (l : Option Nat) (q : List Nat)
    (ns : List (Nat × Notice)) : Prop where
  issued : k < s.issued
  stage : st ≠ .sendRequest
  waits : st = .waitOne → (s.request k).callBack = false
  sending : st = .send ∨ st = .sendFailed → k ∈ q ∨ (s.waiter k).error ≠ none
  freed : st = .freed → (s.waiter k).error ≠ none
  lock : ∀ j, l = some j ↔ if j = k then st = .send else s.sendSync = some j
  waiting : ∀ j ∈ q, j ∈ s.waitingRequests ∨ (j = k ∧ (s.request k).servedBy = k)
  kept : ∀ j ∈ s.waitingRequests, j ∈ q
  distinct : q.Nodup
  settled : s.stage k = .sendRequest → k ∈ q
  told : ∀ j < s.issued,
    (ns.map Prod.fst).count j = (s.moved k st l q ns).timesTold j
  toldIssued : ∀ p ∈ ns, p.1 < s.issued
  notices : ∀ p ∈ ns, s.ToldAnswer p.1 p.2 ∨ (s.waiter p.1).error ≠ none

lemma Tidy.goes (h : s.Tidy) (hg : s.Goes k st l q ns) :
    (s.moved k st l q ns).Tidy := by
  refine { h with
    sender := ?_, waits := ?_, sending := ?_, freed := ?_, lock := ?_, waiting := ?_
    distinct := hg.distinct, told := hg.told, toldIssued := hg.toldIssued, settled := ?_
    notices := hg.notices }
  · intro j hj hstage
    by_cases hjk : j = k
    · rw [hjk, moved_stage_self] at hstage
      exact absurd hstage hg.stage
    · rw [moved_stage hjk] at hstage
      exact h.sender j hj hstage
  · intro j hj hstage
    by_cases hjk : j = k
    · subst hjk
      rw [moved_stage_self] at hstage
      exact hg.waits hstage
    · rw [moved_stage hjk] at hstage
      exact h.waits j hj hstage
  · intro j hj hstage
    by_cases hjk : j = k
    · subst hjk
      rw [moved_stage_self] at hstage
      exact hg.sending hstage
    · rw [moved_stage hjk] at hstage
      exact (h.sending j hj hstage).imp_left (hg.kept j)
  · intro j hj hstage
    by_cases hjk : j = k
    · subst hjk
      rw [moved_stage_self] at hstage
      exact hg.freed hstage
    · rw [moved_stage hjk] at hstage
      exact h.freed j hj hstage
  · intro j
    refine (hg.lock j).trans ?_
    by_cases hjk : j = k
    · subst hjk
      rw [if_pos rfl, moved_stage_self]
      exact (and_iff_right hg.issued).symm
    · rw [if_neg hjk, moved_stage hjk]
      exact h.lock j
  · intro j hj
    by_cases hjk : j = k
    · subst hjk
      rw [moved_stage_self]
      refine ⟨hg.issued, hg.stage, ?_⟩
      exact (hg.waiting j hj).elim (fun hold => (h.waiting j hold).2.2) And.right
    · rw [moved_stage hjk]
      exact h.waiting j ((hg.waiting j hj).resolve_right fun hnew => hjk hnew.1)
  · intro j hj
    rcases h.settled j hj with hs | hs | hs
    · by_cases hjk : j = k
      · subst hjk
        exact .inr (.inl (hg.settled hs))
      · exact .inl ((moved_stage hjk).trans hs)
    · exact .inr (.inl (hg.kept j hs))
    · exact .inr (.inr hs)

/-- A call that has not returned is not told anything by going on. -/
lemma timesTold_moved (hold : s.stage k ≠ .returned)
    (hnew : (s.request k).callBack = false → st ≠ .returned) (j : Nat) :
    (s.moved k st l q ns).timesTold j = s.timesTold j := by
  have hjoined : (s.moved k st l q ns).joined = s.joined := rfl
  have hrequest : (s.moved k st l q ns).request = s.request := rfl
  rw [timesTold, timesTold, hjoined, hrequest]
  by_cases hj : j = k
  · subst hj
    rw [moved_stage_self]
    by_cases hcallBack : (s.request j).callBack = true
    · rw [if_pos hcallBack, if_pos hcallBack]
    · rw [if_neg hcallBack, if_neg hcallBack, if_neg hold,
        if_neg (hnew (Bool.not_eq_true _ ▸ hcallBack))]
  · rw [moved_stage hj]

/-- The waiter of a request is put in the queue. -/
lemma Tidy.enqueue (h : s.Tidy) (hk : k < s.issued) (hstage : s.stage k = .sendRequest)
    (hlock : s.sendSync = none) : (s.enqueue k).Tidy := by
  have hnew : k ∉ s.waitingRequests := fun hmem => (h.waiting k hmem).2.1 hstage
  have hlast : k ∈ s.waitingRequests ++ [k] := List.mem_append_right _ (List.mem_singleton.mpr rfl)
  have hold : s.stage k ≠ .returned := by
    rw [hstage]
    decide
  have hg : s.Goes k .send (some k) (s.waitingRequests ++ [k]) s.notices :=
    { issued := hk
      stage := by decide
      waits := nofun
      sending := fun _ => .inl hlast
      freed := nofun
      lock := fun j => by
        rw [hlock]
        split_ifs with hjk
        · rw [hjk]
          exact ⟨fun _ => rfl, fun _ => rfl⟩
        · exact ⟨fun hsome => absurd (Option.some.inj hsome).symm hjk, nofun⟩
      waiting := fun j hj => (List.mem_append.mp hj).imp_right fun hj =>
        ⟨List.mem_singleton.mp hj, h.sender k hk hstage⟩
      kept := fun j hj => List.mem_append_left _ hj
      distinct := List.nodup_append.mpr ⟨h.distinct, List.nodup_singleton _, fun a ha b hb hab =>
        hnew (List.mem_singleton.mp hb ▸ hab ▸ ha)⟩
      settled := fun _ => hlast
      told := fun j hj => by
        rw [timesTold_moved hold fun _ => by decide]
        exact h.told j hj
      toldIssued := h.toldIssued
      notices := h.notices }
  exact h.goes hg

/-- The lock is given back, with the request written or not. -/
lemma Tidy.unlock (h : s.Tidy) (hlock : s.sendSync = some k) (hst : st ≠ .sendRequest ∧ st ≠ .send)
    (hwaits : st = .waitOne → (s.request k).callBack = false) (hfreed : st ≠ .freed)
    (hreturned : (s.request k).callBack = false → st ≠ .returned) :
    (s.moved k st none s.waitingRequests s.notices).Tidy := by
  obtain ⟨hk, hstage⟩ := (h.lock k).mp hlock
  have hold : s.stage k ≠ .returned := by
    rw [hstage]
    decide
  exact h.goes
    { issued := hk
      stage := hst.1
      waits := hwaits
      sending := fun _ => h.sending k hk (.inl hstage)
      freed := fun heq => absurd heq hfreed
      lock := fun j => by
        rw [hlock]
        split_ifs with hjk
        · exact ⟨nofun, fun heq => absurd heq hst.2⟩
        · exact ⟨nofun, fun hsome => absurd (Option.some.inj hsome).symm hjk⟩
      waiting := fun j hj => .inl hj
      kept := fun j hj => hj
      distinct := h.distinct
      settled := fun heq => by
        rw [hstage] at heq
        cases heq
      told := fun j hj => by
        rw [timesTold_moved hold hreturned]
        exact h.told j hj
      toldIssued := h.toldIssued
      notices := h.notices }

end Moved

/-- A call whose request was written waits, or returns if it has a callback. -/
def sentStage (s : RemoteServer) (k : Nat) : Stage :=
  if (s.request k).callBack then .returned else .waitOne

lemma sentStage_cases (s : RemoteServer) (k : Nat) :
    s.sentStage k = .waitOne ∨ s.sentStage k = .returned := by
  unfold sentStage
  split_ifs
  · exact .inr rfl
  · exact .inl rfl

lemma send_stage {j : Nat} (hj : j ≠ k) : (s.send k true).stage j = s.stage j :=
  Function.update_of_ne hj _ _

lemma send_stage_self : (s.send k true).stage k = s.sentStage k := Function.update_self ..

lemma send_written : (s.send k true).written s.conn = s.written s.conn ++ [k] :=
  Function.update_self ..

lemma written_send {c : Nat} (hc : c ≠ s.conn) : (s.send k true).written c = s.written c :=
  Function.update_of_ne hc _ _

/-- A request is written. -/
lemma Tidy.send (h : s.Tidy) (hlock : s.sendSync = some k) : (s.send k true).Tidy := by
  have hsent := s.sentStage_cases k
  have hmoved : (s.moved k (s.sentStage k) none s.waitingRequests s.notices).Tidy := by
    refine h.unlock hlock ?_ ?_ ?_ ?_
    · rcases hsent with hs | hs <;> rw [hs] <;> exact ⟨by decide, by decide⟩
    · unfold sentStage
      split_ifs with hcallBack
      · exact nofun
      · exact fun _ => Bool.not_eq_true _ ▸ hcallBack
    · rcases hsent with hs | hs <;> rw [hs] <;> decide
    · intro hcallBack
      rw [sentStage, hcallBack]
      decide
  refine { hmoved with handed := ?_, fresh := ?_ }
  · intro c
    by_cases hc : c = s.conn
    · subst hc
      exact (h.handed s.conn).trans (send_written ▸ List.prefix_append _ _)
    · exact written_send hc ▸ h.handed c
  · intro c hc
    have hwritten : (s.send k true).written c = s.written c := written_send (Nat.ne_of_gt hc)
    rw [hwritten]
    exact h.fresh c hc

/-- A request could not be written. -/
lemma Tidy.sendFailed (h : s.Tidy) (hlock : s.sendSync = some k) : (s.send k false).Tidy :=
  h.unlock hlock ⟨by decide, by decide⟩ nofun (by decide) fun _ => by decide

/-! ## Returning -/

/-- A caller returns, and is told something. -/
lemma Tidy.returns (h : s.Tidy) (hk : k < s.issued) (hcallBack : (s.request k).callBack = false)
    (hstage : s.stage k = .waitOne ∨ s.stage k = .freed)
    (hnotice : s.ToldAnswer k notice ∨ (s.waiter k).error ≠ none) :
    ((s.goto k .returned).tell [k] notice).Tidy := by
  have hg : s.Goes k .returned s.sendSync s.waitingRequests (s.notices ++ [(k, notice)]) :=
    { issued := hk
      stage := by decide
      waits := nofun
      sending := fun heq => by rcases heq with heq | heq <;> cases heq
      freed := nofun
      lock := fun j => by
        split_ifs with hjk
        · refine ⟨fun hsome => ?_, nofun⟩
          have hsend := ((h.lock j).mp hsome).2
          rw [hjk] at hsend
          rcases hstage with hs | hs <;> rw [hs] at hsend <;> cases hsend
        · rfl
      waiting := fun j hj => .inl hj
      kept := fun j hj => hj
      distinct := h.distinct
      settled := fun heq => by rcases hstage with hs | hs <;> rw [hs] at heq <;> cases heq
      told := fun j hj => by
        have hrequest : (s.moved k .returned s.sendSync s.waitingRequests
          (s.notices ++ [(k, notice)])).request = s.request := rfl
        have hjoined : (s.moved k .returned s.sendSync s.waitingRequests
          (s.notices ++ [(k, notice)])).joined = s.joined := rfl
        rw [List.map_append, List.count_append, h.told j hj, timesTold, timesTold, hrequest, hjoined]
        by_cases hjk : j = k
        · subst hjk
          have hold : s.stage j ≠ .returned := by rcases hstage with hs | hs <;> rw [hs] <;> decide
          rw [moved_stage_self, hcallBack]
          simp [hold]
        · rw [moved_stage hjk]
          simp [Ne.symm hjk]
      toldIssued := fun p hp => (List.mem_append.mp hp).elim (h.toldIssued p) fun hp => by
        rw [List.mem_singleton.mp hp]
        exact hk
      notices := fun p hp => (List.mem_append.mp hp).elim (h.notices p) fun hp => by
        rw [List.mem_singleton.mp hp]
        exact hnotice }
  exact h.goes hg

/-- What a call is told when it returns. -/
def wakeNotice (w : ResponseWaiter) : Notice :=
  match w.error, w.response with
  | some e, _ => Notice.ofError e.message
  | none, some message => .ofResponse message w.asset
  | none, none => .ofError []

lemma Tidy.toldAnswer_wake (h : s.Tidy) (hset : (s.waiter k).waitEvent = true) :
    s.ToldAnswer k (wakeNotice (s.waiter k)) ∨ (s.waiter k).error ≠ none := by
  by_cases herror : (s.waiter k).error = none
  · left
    obtain ⟨message, hmessage⟩ : ∃ message, (s.waiter k).response = some message :=
      Option.ne_none_iff_exists'.mp ((h.set k hset).resolve_left (not_not.mpr herror))
    obtain ⟨-, hanswered, hasset⟩ := h.right k message hmessage
    refine ⟨message, (s.waiter k).asset, hanswered, hasset, ?_⟩
    rw [wakeNotice, herror, hmessage]
  · exact .inr herror


/-- A caller whose event is set returns. -/
lemma Tidy.wake (h : s.Tidy) (hk : k < s.issued) (hstage : s.stage k = .waitOne)
    (hset : (s.waiter k).waitEvent = true) : (s.wake k).Tidy :=
  h.returns hk (h.waits k hk hstage) (.inl hstage) (h.toldAnswer_wake hset)

/-! ## Receiving -/

/-- The state after a message was read. -/
def withMessage (s : RemoteServer) (message : ServerResponseMsg) : RemoteServer :=
  { s with
    receiver := .received message
    messages := Function.update s.messages s.conn (s.messages s.conn ++ [message]) }

lemma withMessage_messages : (s.withMessage message).messages s.conn =
    s.messages s.conn ++ [message] := Function.update_self ..

lemma messages_withMessage (c : Nat) : s.messages c <+: (s.withMessage message).messages c := by
  by_cases hc : c = s.conn
  · rw [hc, withMessage_messages]
    exact List.prefix_append _ _
  · have hsame : (s.withMessage message).messages c = s.messages c := Function.update_of_ne hc _ _
    simp only [hsame, List.prefix_rfl]

lemma AnsweredBy.withMessage {m : ServerResponseMsg} (h : s.AnsweredBy r m) :
    (s.withMessage message).AnsweredBy r m :=
  h.mono (fun _ => List.prefix_rfl) messages_withMessage

lemma Tidy.withMessage (h : s.Tidy) : (s.withMessage message).Tidy := by
  refine { h with right := ?_, notices := ?_, read := ?_, fresh := ?_ }
  · intro k m hresponse
    obtain ⟨hlt, hanswered, hasset⟩ := h.right k m hresponse
    exact ⟨hlt, hanswered.withMessage, hasset⟩
  · intro p hp
    refine (h.notices p hp).imp_left ?_
    rintro ⟨m, asset, hanswered, hrest⟩
    exact ⟨m, asset, hanswered.withMessage, hrest⟩
  · intro c
    exact (h.read c).trans (messages_withMessage c).length_le
  · intro c hc
    have hsame : (s.withMessage message).messages c = s.messages c :=
      Function.update_of_ne (Nat.ne_of_gt hc) _ _
    rw [hsame]
    exact h.fresh c hc

/-- The state after a response was handed to the waiter `k`, with the others still in the queue. -/
def withHanded (s : RemoteServer) (k : Nat) (ks : List Nat) (message : ServerResponseMsg)
    (asset : Option Asset) : RemoteServer :=
  { { s with waitingRequests := ks }.hand [k] message asset with
    handed := Function.update s.handed s.conn (s.handed s.conn ++ [k])
    receiver := if (s.request k).type = .get then .notifying message asset k else .loop }

section Handed

variable {ks : List Nat} {asset : Option Asset}

lemma withHanded_handed :
    (s.withHanded k ks message asset).handed s.conn = s.handed s.conn ++ [k] :=
  Function.update_self ..

lemma handed_withHanded (c : Nat) :
    s.handed c <+: (s.withHanded k ks message asset).handed c := by
  by_cases hc : c = s.conn
  · rw [hc, withHanded_handed]
    exact List.prefix_append _ _
  · have hsame : (s.withHanded k ks message asset).handed c = s.handed c :=
      Function.update_of_ne hc _ _
    simp only [hsame, List.prefix_rfl]

lemma AnsweredBy.withHanded {m : ServerResponseMsg} (h : s.AnsweredBy r m) :
    (s.withHanded k ks message asset).AnsweredBy r m :=
  h.mono handed_withHanded fun _ => List.prefix_rfl

lemma withHanded_waiter {j : Nat} (hj : j ≠ k) :
    (s.withHanded k ks message asset).waiter j = s.waiter j :=
  if_neg fun hmem => hj (List.mem_singleton.mp hmem)

lemma withHanded_waiter_self : (s.withHanded k ks message asset).waiter k =
    { s.waiter k with response := some message, asset := asset, waitEvent := true } :=
  if_pos (List.mem_singleton.mpr rfl)

/-- The request of the waiter that gets the response is the one that the message answers. -/
lemma answeredBy_withHanded (hread : (s.messages s.conn)[(s.handed s.conn).length]? = some message) :
    (s.withHanded k ks message asset).AnsweredBy k message := by
  refine ⟨s.conn, (s.handed s.conn).length, ?_, hread⟩
  rw [withHanded_handed, List.getElem?_append_right le_rfl]
  simp

lemma Tidy.withHanded (h : s.Tidy) (hwaiting : s.waitingRequests = k :: ks)
    (hsent : s.stage k = .waitOne ∨ s.stage k = .returned)
    (hread : (s.messages s.conn)[(s.handed s.conn).length]? = some message)
    (hwritten : (s.written s.conn)[(s.handed s.conn).length]? = some k)
    (hasset : tryConstructAsset message (s.request k).type = .ok asset) :
    (s.withHanded k ks message asset).Tidy := by
  have hdistinct := h.distinct
  have hqueue := h.waiting
  have hsettled := h.settled
  rw [hwaiting] at hdistinct hqueue
  obtain ⟨hk, -, hserved⟩ := hqueue k List.mem_cons_self
  have herror : ∀ j, ((s.withHanded k ks message asset).waiter j).error = (s.waiter j).error := by
    intro j
    by_cases hj : j = k
    · rw [hj, withHanded_waiter_self]
    · rw [withHanded_waiter hj]
  refine { h with
    sending := ?_, freed := ?_, waiting := ?_, distinct := ?_, settled := ?_, set := ?_
    released := ?_, right := ?_, notices := ?_, handed := ?_, read := ?_, fresh := ?_ }
  · intro j hj hstage
    rw [herror]
    have hjk : j ≠ k := fun heq => by
      rw [heq] at hstage
      rcases hsent with hs | hs <;> rcases hstage with hstage | hstage <;>
        cases hs.symm.trans hstage
    refine (h.sending j hj hstage).imp_left fun hmem => ?_
    rw [hwaiting] at hmem
    exact List.mem_of_ne_of_mem hjk hmem
  · intro j hj hstage
    rw [herror]
    exact h.freed j hj hstage
  · intro j hj
    exact hqueue j (List.mem_cons_of_mem _ hj)
  · exact (List.nodup_cons.mp hdistinct).2
  · intro j hj
    by_cases hjk : j = k
    · rw [hjk, withHanded_waiter_self]
      exact .inr (.inr (.inr rfl))
    · rw [withHanded_waiter hjk]
      rcases hsettled j hj with hs | hs | hs
      · exact .inl hs
      · rw [hwaiting] at hs
        exact .inr (.inl (List.mem_of_ne_of_mem hjk hs))
      · exact .inr (.inr hs)
  · intro j
    by_cases hjk : j = k
    · rw [hjk, withHanded_waiter_self]
      exact fun _ => .inr (Option.some_ne_none _)
    · rw [withHanded_waiter hjk]
      exact h.set j
  · intro j
    by_cases hjk : j = k
    · rw [hjk, withHanded_waiter_self]
      exact fun _ => rfl
    · rw [withHanded_waiter hjk]
      exact h.released j
  · intro j m
    by_cases hjk : j = k
    · subst hjk
      rw [withHanded_waiter_self]
      intro hm
      obtain rfl := Option.some.inj hm
      have hanswered : (s.withHanded j ks message asset).AnsweredBy j message :=
        answeredBy_withHanded hread
      exact ⟨hk, hserved.symm ▸ hanswered, hasset⟩
    · rw [withHanded_waiter hjk]
      intro hm
      obtain ⟨hlt, hanswered, hconstructed⟩ := h.right j m hm
      exact ⟨hlt, hanswered.withHanded, hconstructed⟩
  · intro p hp
    rw [herror]
    refine (h.notices p hp).imp_left ?_
    rintro ⟨m, a, hanswered, hrest⟩
    exact ⟨m, a, hanswered.withHanded, hrest⟩
  · intro c
    by_cases hc : c = s.conn
    · subst hc
      rw [withHanded_handed]
      obtain ⟨rest, hrest⟩ := h.handed s.conn
      refine (?_ : s.handed s.conn ++ [k] <+: s.written s.conn)
      rw [← hrest] at hwritten ⊢
      rw [List.getElem?_append_right le_rfl, Nat.sub_self] at hwritten
      cases rest with
      | nil => cases hwritten
      | cons a rest =>
        obtain rfl := Option.some.inj hwritten
        exact ⟨rest, by simp⟩
    · have hsame : (s.withHanded k ks message asset).handed c = s.handed c :=
        Function.update_of_ne hc _ _
      rw [hsame]
      exact h.handed c
  · intro c
    by_cases hc : c = s.conn
    · subst hc
      rw [withHanded_handed, List.length_append]
      exact (List.getElem?_eq_some_iff.mp hread).1
    · have hsame : (s.withHanded k ks message asset).handed c = s.handed c :=
        Function.update_of_ne hc _ _
      rw [hsame]
      exact h.read c
  · intro c hc
    have hsame : (s.withHanded k ks message asset).handed c = s.handed c :=
      Function.update_of_ne (Nat.ne_of_gt hc) _ _
    rw [hsame]
    exact h.fresh c hc

end Handed

/-! ## Waiters leave the dictionary -/

/-- A call is in one group only, and once. -/
lemma Tidy.joined_nodup (h : s.Tidy) : s.joined.Nodup := by
  refine List.nodup_flatMap.mpr ⟨fun p hp => (h.groups p hp).1, ?_⟩
  have hkeys : s.getResponseWaiters.Pairwise fun p q => p.1 ≠ q.1 := List.pairwise_map.mp h.keys
  refine hkeys.imp_of_mem fun {p q} hp hq hne k hkp hkq => hne ?_
  obtain ⟨-, _, _, -, hp⟩ := h.groups p hp
  obtain ⟨-, _, _, -, hq⟩ := h.groups q hq
  exact (hp k hkp).2.2.1.symm.trans (hq k hkq).2.2.1

/-- The state after the calls `ks` left the dictionary, which is then `d`: their waiters are changed,
and those with a callback are told. -/
def settle (s : RemoteServer) (ks : List Nat) (d : Waiters Bytes)
    (f : ResponseWaiter → ResponseWaiter) (notice : Notice) : RemoteServer :=
  { (s.change ks f).tell (s.withCallBack ks) notice with getResponseWaiters := d }

section Settle

open scoped List

variable {ks : List Nat} {d : Waiters Bytes} {f : ResponseWaiter → ResponseWaiter}

/-- What the calls that leave get. -/
structure Settles (s : RemoteServer) (ks : List Nat) (d : Waiters Bytes)
    (f : ResponseWaiter → ResponseWaiter) (notice : Notice) : Prop where
  keys : (Dict.keys d).Nodup
  groups : ∀ p ∈ d, p ∈ s.getResponseWaiters
  joined : s.joined ~ ks ++ Waiters.tickets d
  waitEvent : ∀ w, (f w).waitEvent = true
  set : ∀ w, (f w).error ≠ none ∨ (f w).response ≠ none
  error : ∀ w, w.error ≠ none → (f w).error ≠ none
  right : ∀ k ∈ ks, ∀ message, (f (s.waiter k)).response = some message → k < s.issued ∧
    s.AnsweredBy (s.request k).servedBy message ∧
    tryConstructAsset message (s.request k).type = .ok (f (s.waiter k)).asset
  notice : ∀ k ∈ ks, s.ToldAnswer k notice ∨ (f (s.waiter k)).error ≠ none

lemma settle_waiter_of_mem (hk : k ∈ ks) : (s.settle ks d f notice).waiter k = f (s.waiter k) :=
  if_pos hk

lemma settle_waiter_of_not_mem (hk : k ∉ ks) : (s.settle ks d f notice).waiter k = s.waiter k :=
  if_neg hk

lemma settle_notices : (s.settle ks d f notice).notices.map Prod.fst =
    s.notices.map Prod.fst ++ s.withCallBack ks := by
  simp [settle, tell, change, Function.comp_def]

/-- A call that leaves the dictionary with a callback is told once. -/
lemma count_withCallBack (hks : ks.Nodup) (k : Nat) :
    (s.withCallBack ks).count k = if (s.request k).callBack = true ∧ k ∈ ks then 1 else 0 := by
  have hmem : k ∈ s.withCallBack ks ↔ (s.request k).callBack = true ∧ k ∈ ks :=
    List.mem_filter.trans and_comm
  rw [← if_congr hmem rfl rfl]
  exact List.Nodup.count (hks.filter _)

lemma Tidy.settle (h : s.Tidy) (hs : s.Settles ks d f notice) : (s.settle ks d f notice).Tidy := by
  have hnodup : (ks ++ Waiters.tickets d).Nodup := hs.joined.nodup_iff.mp h.joined_nodup
  obtain ⟨hks, -, hdisjoint⟩ := List.nodup_append.mp hnodup
  have hjoined : ∀ k, k ∈ s.joined ↔ k ∈ ks ∨ k ∈ Waiters.tickets d := fun k =>
    hs.joined.mem_iff.trans List.mem_append
  have herror : ∀ k, (s.waiter k).error ≠ none →
      ((s.settle ks d f notice).waiter k).error ≠ none := fun k hk => by
    by_cases hleaves : k ∈ ks
    · rw [settle_waiter_of_mem hleaves]
      exact hs.error _ hk
    · rw [settle_waiter_of_not_mem hleaves]
      exact hk
  refine { h with
    sending := ?_, freed := ?_, keys := hs.keys, groups := ?_, told := ?_, toldIssued := ?_
    settled := ?_, set := ?_, released := ?_, right := ?_, notices := ?_ }
  · intro k hk hstage
    exact (h.sending k hk hstage).imp_right (herror k)
  · intro k hk hstage
    exact herror k (h.freed k hk hstage)
  · intro p hp
    exact h.groups p (hs.groups p hp)
  · intro k hk
    have htold := h.told k hk
    rw [settle_notices, List.count_append, count_withCallBack hks, htold]
    have hmem : k ∈ (s.settle ks d f notice).joined ↔ k ∈ Waiters.tickets d := Iff.rfl
    have hne : k ∈ ks → k ∉ Waiters.tickets d := fun hmem hmem' => hdisjoint k hmem k hmem' rfl
    have hrequest : (s.settle ks d f notice).request = s.request := rfl
    have hstage : (s.settle ks d f notice).stage = s.stage := rfl
    simp only [timesTold, hmem, hjoined, hrequest, hstage]
    by_cases hcallBack : (s.request k).callBack = true
    · by_cases hleaves : k ∈ ks
      · simp [hcallBack, hleaves, hne hleaves]
      · simp [hcallBack, hleaves]
    · simp [hcallBack]
  · intro p hp
    rcases List.mem_append.mp hp with hp | hp
    · exact h.toldIssued p hp
    · obtain ⟨k, hk, rfl⟩ := List.mem_map.mp hp
      have hk : k ∈ s.joined := (hjoined k).mpr (.inl (List.mem_filter.mp hk).1)
      obtain ⟨p, hp, hkp⟩ := mem_joined.mp hk
      obtain ⟨-, _, _, -, hall⟩ := h.groups p hp
      exact (hall k hkp).1
  · intro k hk
    by_cases hleaves : k ∈ ks
    · rw [settle_waiter_of_mem hleaves]
      exact .inr (.inr (.inr (hs.waitEvent _)))
    · rw [settle_waiter_of_not_mem hleaves]
      refine (h.settled k hk).imp_right (Or.imp_right (Or.imp_left fun hmem => ?_))
      exact ((hjoined k).mp hmem).resolve_left hleaves
  · intro k
    by_cases hleaves : k ∈ ks
    · rw [settle_waiter_of_mem hleaves]
      exact fun _ => hs.set _
    · rw [settle_waiter_of_not_mem hleaves]
      exact h.set k
  · intro k
    by_cases hleaves : k ∈ ks
    · rw [settle_waiter_of_mem hleaves]
      exact fun _ => hs.waitEvent _
    · rw [settle_waiter_of_not_mem hleaves]
      exact h.released k
  · intro k message
    by_cases hleaves : k ∈ ks
    · rw [settle_waiter_of_mem hleaves]
      exact hs.right k hleaves message
    · rw [settle_waiter_of_not_mem hleaves]
      exact h.right k message
  · intro p hp
    rcases List.mem_append.mp hp with hp | hp
    · exact (h.notices p hp).imp_right (herror p.1)
    · obtain ⟨k, hk, rfl⟩ := List.mem_map.mp hp
      have hleaves : k ∈ ks := (List.mem_filter.mp hk).1
      rw [settle_waiter_of_mem hleaves]
      exact hs.notice k hleaves

end Settle

/-! ## Freeing the waiters -/

variable {e : ClientException}

lemma release_waiter_of_mem (hk : k ∈ ks) :
    (s.release ks e).waiter k = { s.waiter k with error := some e, waitEvent := true } :=
  if_pos hk

lemma release_waiter_of_not_mem (hk : k ∉ ks) :
    (s.release ks e).waiter k = s.waiter k :=
  if_neg hk

lemma release_error (hk : (s.waiter k).error ≠ none) :
    ((s.release ks e).waiter k).error ≠ none := by
  by_cases hmem : k ∈ ks
  · rw [release_waiter_of_mem hmem]
    exact Option.some_ne_none _
  · rw [release_waiter_of_not_mem hmem]
    exact hk

lemma release_response (k : Nat) :
    ((s.release ks e).waiter k).response = (s.waiter k).response ∧
      ((s.release ks e).waiter k).asset = (s.waiter k).asset := by
  by_cases hmem : k ∈ ks
  · rw [release_waiter_of_mem hmem]
    exact ⟨rfl, rfl⟩
  · rw [release_waiter_of_not_mem hmem]
    exact ⟨rfl, rfl⟩

/-- The waiters in the queue are released. -/
lemma Tidy.freeWaitingRequests (h : s.Tidy) (e : ClientException) :
    (s.freeWaitingRequests e).Tidy := by
  have hwaiter : (s.freeWaitingRequests e).waiter = (s.release s.waitingRequests e).waiter := rfl
  refine { h with
    sending := ?_, freed := ?_, waiting := ?_, distinct := List.nodup_nil, settled := ?_, set := ?_
    released := ?_, right := ?_, notices := ?_ }
  · intro k hk hstage
    right
    rcases h.sending k hk hstage with hmem | herror
    · rw [hwaiter, release_waiter_of_mem hmem]
      exact Option.some_ne_none _
    · exact release_error herror
  · intro k hk hstage
    exact release_error (h.freed k hk hstage)
  · exact fun k hk => absurd hk List.not_mem_nil
  · intro k hk
    rw [hwaiter]
    by_cases hmem : k ∈ s.waitingRequests
    · rw [release_waiter_of_mem hmem]
      exact .inr (.inr (.inr rfl))
    · rw [release_waiter_of_not_mem hmem]
      exact (h.settled k hk).imp_right fun hs => .inr (hs.resolve_left hmem)
  · intro k
    rw [hwaiter]
    by_cases hmem : k ∈ s.waitingRequests
    · rw [release_waiter_of_mem hmem]
      exact fun _ => .inl (Option.some_ne_none _)
    · rw [release_waiter_of_not_mem hmem]
      exact h.set k
  · intro k
    rw [hwaiter]
    by_cases hmem : k ∈ s.waitingRequests
    · rw [release_waiter_of_mem hmem]
      exact fun _ => rfl
    · rw [release_waiter_of_not_mem hmem]
      exact h.released k
  · intro k message hresponse
    rw [hwaiter, (release_response k).1] at hresponse
    rw [hwaiter, (release_response k).2]
    exact h.right k message hresponse
  · intro p hp
    exact (h.notices p hp).imp_right release_error

/-- The waiters in the dictionary are released. -/
lemma Tidy.freeGetWaiters (h : s.Tidy) (e : ClientException) : (s.freeGetWaiters e).Tidy := by
  have hs : s.Settles s.joined [] (fun w => { w with error := some e, waitEvent := true })
      (.ofError e.message) :=
    { keys := List.nodup_nil
      groups := fun p hp => absurd hp List.not_mem_nil
      joined := by
        rw [Waiters.tickets, List.flatMap_nil, List.append_nil]
      waitEvent := fun _ => rfl
      set := fun _ => .inl (Option.some_ne_none _)
      error := fun _ _ => Option.some_ne_none _
      right := fun k _ message hresponse => h.right k message hresponse
      notice := fun _ _ => .inr (Option.some_ne_none _) }
  exact h.settle hs

/-- A thread whose send failed goes on. -/
lemma Tidy.goto {st : Stage} (h : s.Tidy) (hk : k < s.issued)
    (hold : s.stage k = .sendFailed ∨ s.stage k = .freed)
    (herror : (s.waiter k).error ≠ none) (hst : st = .freed ∨ st = .returned)
    (hcallBack : (s.request k).callBack = false → st ≠ .returned) : (s.goto k st).Tidy := by
  have hne : s.stage k ≠ .sendRequest ∧ s.stage k ≠ .send ∧ s.stage k ≠ .returned := by
    rcases hold with hs | hs <;> rw [hs] <;> exact ⟨by decide, by decide, by decide⟩
  have hne' : st ≠ .sendRequest ∧ st ≠ .send ∧ st ≠ .sendFailed ∧ st ≠ .waitOne := by
    rcases hst with rfl | rfl <;> exact ⟨by decide, by decide, by decide, by decide⟩
  have hg : s.Goes k st s.sendSync s.waitingRequests s.notices :=
    { issued := hk
      stage := hne'.1
      waits := fun heq => absurd heq hne'.2.2.2
      sending := fun _ => .inr herror
      freed := fun _ => herror
      lock := fun j => by
        split_ifs with hjk
        · refine ⟨fun hsome => ?_, fun heq => absurd heq hne'.2.1⟩
          exact absurd ((h.lock j).mp hsome).2 (hjk ▸ hne.2.1)
        · rfl
      waiting := fun j hj => .inl hj
      kept := fun j hj => hj
      distinct := h.distinct
      settled := fun heq => absurd heq hne.1
      told := fun j hj => by
        rw [timesTold_moved hne.2.2 hcallBack]
        exact h.told j hj
      toldIssued := h.toldIssued
      notices := h.notices }
  exact h.goes hg

/-- The first lock of `HandleSendError`. -/
lemma Tidy.sendErrorFreed (h : s.Tidy) (hk : k < s.issued) (hstage : s.stage k = .sendFailed)
    (e : ClientException) : ((s.freeWaitingRequests e).goto k .freed).Tidy := by
  have hfree := h.freeWaitingRequests e
  have herror : ((s.freeWaitingRequests e).waiter k).error ≠ none :=
    (hfree.sending k hk (.inr hstage)).resolve_left List.not_mem_nil
  exact hfree.goto hk (.inl hstage) herror (.inl rfl) fun _ => by decide

/-- The second lock of `HandleSendError`, and the exception behind it. -/
lemma Tidy.endSendError (h : s.Tidy) (hk : k < s.issued) (hstage : s.stage k = .freed) :
    (s.endSendError k).Tidy := by
  have hfree := h.freeGetWaiters .socketException
  have herror := hfree.freed k hk hstage
  unfold RemoteServer.endSendError
  dsimp only
  split_ifs with hcallBack
  · exact hfree.goto hk (.inr hstage) herror (.inr rfl) fun hfalse =>
      absurd (hcallBack.symm.trans hfalse) (by decide)
  · exact hfree.returns hk (Bool.not_eq_true _ ▸ hcallBack) (.inr hstage) (.inr herror)

lemma start_tidy : start.Tidy where
  served k hk := absurd hk k.not_lt_zero
  callBack k hk := absurd hk k.not_lt_zero
  sender k hk := absurd hk k.not_lt_zero
  waits k hk := absurd hk k.not_lt_zero
  sending k hk := absurd hk k.not_lt_zero
  freed k hk := absurd hk k.not_lt_zero
  lock k := ⟨fun h => (nomatch h), fun h => absurd h.1 k.not_lt_zero⟩
  keys := List.nodup_nil
  groups _ hp := absurd hp List.not_mem_nil
  waiting _ hk := absurd hk List.not_mem_nil
  distinct := List.nodup_nil
  told k hk := absurd hk k.not_lt_zero
  toldIssued _ hp := absurd hp List.not_mem_nil
  settled k hk := absurd hk k.not_lt_zero
  set _ hk := (nomatch hk)
  released _ hne := absurd rfl hne
  right _ _ hk := (nomatch hk)
  notices _ hp := absurd hp List.not_mem_nil
  handed _ := List.prefix_rfl
  read _ := le_rfl
  fresh _ _ := ⟨rfl, rfl, rfl⟩

end RemoteServer

end Halcyon.Client
