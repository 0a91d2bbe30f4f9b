import Halcyon.Whip.Transfer
import Mathlib.Data.List.Nodup
import Mathlib.Data.List.Perm.Basic

/-!
# Every callback is invoked exactly once

A request that the client has taken is in one of its two queues until its callback is invoked;
a callback that is running is still at the front of its queue, since it is taken out only after it
has returned.  `waiting` lists the callbacks that are still to come, and the invariant `Accounted`
says that together with those invoked they are all the callbacks passed in, each one once.

Three things break it.  Without a connection a request is answered with an error and sent or queued
as well.  A `close` from inside a callback invokes the callbacks of both queues, the running one
included.  And a response for which no request waits uses the front of an empty queue, which also
happens when a read that had succeeded runs its handler after a `close`.
-/

namespace Halcyon.Whip

open Halcyon.Lib.Transition
open scoped List

/-- The callback of a response is running. -/
def Frame.IsResponse (k : Frame) : Prop :=
  k = popThenListen ∨ k = listenThenPop ∨ ∃ header, k = popThenReadRest header

namespace TransferClient

/-! ## The invariant -/

/-- The callbacks still to be invoked: what is in the queues, without the callback that is
running. -/
def waiting (s : TransferClient) : List Nat :=
  match s.stack with
  | .closingTransfers :: _ => (s.transferRequestQueue.tail ++ s.assetCallbackQueue).map (·.callback)
  | .closingCallbacks :: _ | .popThenListen :: _ | .listenThenPop :: _ | .popThenReadRest _ :: _ =>
    (s.transferRequestQueue ++ s.assetCallbackQueue.tail).map (·.callback)
  | _ => (s.transferRequestQueue ++ s.assetCallbackQueue).map (·.callback)

/-- The part of the invariant that does not depend on what is running; `ws` are the callbacks still
to come. -/
structure Base (s : TransferClient) (ws : List Nat) : Prop where
  once : ws ++ s.invoked.map Prod.fst ~ List.range s.nextCallback
  posted : s.posted = []
  defined : s.undefinedBehaviour = false
  connecting : s.connecting ≠ none → s.assetConnectionEstablished = false
  results : s.flavour = .meshServer →
    s.numConnectResultsRcvd + s.connecting.isSome.toNat + s.queryConnecting.toNat = 2
  noQuery : s.flavour = .remoteAssetService → s.queryConnecting = false

/-- No request is waiting. -/
def Empty (s : TransferClient) : Prop :=
  s.transferRequestQueue = [] ∧ s.assetCallbackQueue = []

/-- The callbacks below a `close`: none, or the callback of the connection. -/
def Outermost (ks : List Frame) : Prop := ks = [] ∨ ks = [.afterConnect]

/-- What is running, and what this says about the queues. -/
def Running (s : TransferClient) : Prop :=
  match s.stack with
  | [] => (s.assetConnectionEstablished = false → s.Empty) ∧
      (s.assetConnectionEstablished = true → s.reads ≠ [] ∨ s.queryConnecting = true)
  | .closingTransfers :: ks =>
    Outermost ks ∧ s.assetConnectionEstablished = false ∧ s.transferRequestQueue ≠ []
  | .closingCallbacks :: ks => Outermost ks ∧ s.assetConnectionEstablished = false ∧
      s.transferRequestQueue = [] ∧ s.assetCallbackQueue ≠ []
  | [.afterConnect] => s.assetConnectionEstablished = false → s.Empty
  | [.popThenListen] | [.listenThenPop] | [.popThenReadRest _] =>
    s.assetConnectionEstablished = true ∧ s.assetCallbackQueue ≠ []
  | _ => False

/-- Every callback that was passed in has been invoked once or is going to be. -/
structure Accounted (s : TransferClient) : Prop where
  base : s.Base s.waiting
  running : s.Running

/-! ## Closing -/

variable {s s' : TransferClient}

/-- The state in which a loop of `close` is entered. -/
structure Closing (s : TransferClient) : Prop where
  base : s.Base ((s.transferRequestQueue ++ s.assetCallbackQueue).map (·.callback))
  closed : s.assetConnectionEstablished = false
  outermost : Outermost s.stack

/-- The state in which the handler of an operation runs. -/
structure Handling (s : TransferClient) : Prop where
  base : s.Base ((s.transferRequestQueue ++ s.assetCallbackQueue).map (·.callback))
  stack : s.stack = []
  empty : s.assetConnectionEstablished = false → s.Empty

lemma waiting_of_outermost (h : Outermost s.stack) :
    s.waiting = (s.transferRequestQueue ++ s.assetCallbackQueue).map (·.callback) := by
  rcases h with h | h <;> simp [waiting, h]

variable {k : Frame}

lemma waiting_of_response (hstack : s.stack = [k]) (hk : k.IsResponse) :
    s.waiting = (s.transferRequestQueue ++ s.assetCallbackQueue.tail).map (·.callback) := by
  rcases hk with rfl | rfl | ⟨header, rfl⟩ <;> simp [waiting, hstack]

variable {ws ws' : List Nat}

lemma Base.perm (h : s.Base ws) (hws : ws ~ ws') : s.Base ws' :=
  ⟨(hws.symm.append_right _).trans h.once, h.posted, h.defined, h.connecting, h.results, h.noQuery⟩

variable {t : Transfer}

/-- A callback is invoked. -/
lemma Base.invoke (h : s.Base ws) (hws : ws ~ t.callback :: ws') (reply : Reply) (k : Frame) :
    (s.invoke t reply k).Base ws' := by
  refine ⟨?_, h.posted, h.defined, h.connecting, h.results, h.noQuery⟩
  have hlog : (s.invoked ++ [(t.callback, reply)]).map Prod.fst =
      s.invoked.map Prod.fst ++ [t.callback] := by simp
  rw [TransferClient.invoke, hlog, ← List.append_assoc]
  calc ws' ++ s.invoked.map Prod.fst ++ [t.callback]
      ~ t.callback :: (ws' ++ s.invoked.map Prod.fst) := List.perm_append_singleton _ _
    _ ~ ws ++ s.invoked.map Prod.fst := hws.symm.append_right _
    _ ~ List.range s.nextCallback := h.once

lemma Closing.closeCallbacks (h : s.Closing) (htransfers : s.transferRequestQueue = []) :
    s.closeCallbacks.Accounted := by
  rcases hq : s.assetCallbackQueue with _ | ⟨t, ts⟩
  · have hstop : s.closeCallbacks = s := by simp [TransferClient.closeCallbacks, hq]
    rw [hstop]
    refine ⟨by rw [waiting_of_outermost h.outermost]; exact h.base, ?_⟩
    rcases h.outermost with hstack | hstack
    · simp [Running, hstack, h.closed, Empty, htransfers, hq]
    · simp [Running, hstack, Empty, htransfers, hq]
  · have hnext : s.closeCallbacks = s.invoke t .terminated .closingCallbacks := by
      simp [TransferClient.closeCallbacks, hq]
    rw [hnext]
    refine ⟨?_, h.outermost, h.closed, htransfers, by simp [TransferClient.invoke, hq]⟩
    refine (h.base.invoke ?_ .terminated .closingCallbacks)
    simp [waiting, TransferClient.invoke, htransfers, hq]

lemma Closing.closeTransfers (h : s.Closing) : s.closeTransfers.Accounted := by
  rcases hq : s.transferRequestQueue with _ | ⟨t, ts⟩
  · have hstop : s.closeTransfers = s.closeCallbacks := by simp [TransferClient.closeTransfers, hq]
    rw [hstop]
    exact h.closeCallbacks hq
  · have hnext : s.closeTransfers = s.invoke t .terminated .closingTransfers := by
      simp [TransferClient.closeTransfers, hq]
    rw [hnext]
    refine ⟨?_, h.outermost, h.closed, by simp [TransferClient.invoke, hq]⟩
    refine (h.base.invoke ?_ .terminated .closingTransfers)
    simp [waiting, TransferClient.invoke, hq]

/-- `close` from outside of all callbacks but that of the connection. -/
lemma Base.close
    (h : s.Base ((s.transferRequestQueue ++ s.assetCallbackQueue).map (·.callback)))
    (hstack : Outermost s.stack) : s.close.Accounted :=
  Closing.closeTransfers
    ⟨⟨h.once, h.posted, h.defined, fun _ => rfl, h.results, h.noQuery⟩, rfl, hstack⟩

/-! ## Handlers -/

lemma Handling.close (h : s.Handling) : s.close.Accounted := h.base.close (.inl h.stack)

lemma Handling.startRead (h : s.Handling) (r : SocketRead) : (s.startRead r).Accounted := by
  have hstack : (s.startRead r).stack = [] := h.stack
  refine ⟨?_, ?_⟩
  · rw [waiting_of_outermost (.inl hstack)]
    exact ⟨h.base.once, h.base.posted, h.base.defined, h.base.connecting, h.base.results,
      h.base.noQuery⟩
  · simp only [Running, hstack]
    exact ⟨h.empty, fun _ => .inl (by simp [TransferClient.startRead])⟩

variable {ts : List Transfer}

/-- The callback of the request that waits longest is invoked with the response. -/
lemma Handling.respond (h : s.Handling) (hq : s.assetCallbackQueue = t :: ts) (hk : k.IsResponse)
    (reply : Reply) : (s.invoke t reply k).Accounted := by
  have hestablished : s.assetConnectionEstablished = true := by
    by_contra hclosed
    have hempty := (h.empty (by simpa using hclosed)).2
    simp [hq] at hempty
  have hbase := h.base
  have hperm : (s.transferRequestQueue ++ t :: ts).map (·.callback) ~
      t.callback :: (s.transferRequestQueue ++ ts).map (·.callback) := by
    simp
  have hws : (s.invoke t reply k).Base ((s.transferRequestQueue ++ ts).map (·.callback)) :=
    h.base.invoke (by rw [hq]; exact hperm) reply k
  rcases hk with rfl | rfl | ⟨header, rfl⟩
  all_goals
    refine ⟨?_, ?_⟩
    · simpa [waiting, TransferClient.invoke, hq] using hws
    · simp [Running, TransferClient.invoke, h.stack, hestablished, hq]

lemma accounted_withFront {body : Transfer → TransferClient → TransferClient}
    (hwaiter : s.assetCallbackQueue ≠ [])
    (hbody : ∀ t ts, s.assetCallbackQueue = t :: ts → (body t s).Accounted) :
    (s.withFront body).Accounted := by
  obtain ⟨t, ts, hq⟩ := List.exists_cons_of_ne_nil hwaiter
  simp only [TransferClient.withFront, hq]
  exact hbody t ts hq

/-! ## Responses -/

/-- A successful read whose handler uses the front of the queue. -/
def takesFront (s : TransferClient) : Event → Bool
  | .headerRead (some header) =>
    match s.flavour, getResponseCode header with
    | .remoteAssetService, some .notFound | .remoteAssetService, some .error =>
      decide (getDataSize header = 0)
    | .meshServer, some .notFound | .meshServer, some .error | .meshServer, some .ok => true
    | _, _ => false
  | .dataRead _ (some data) => s.assetConnectionEstablished &&
      (decide (s.flavour = .remoteAssetService) || !data.isEmpty)
  | .errorDataRead _ (some data) => decide (s.flavour = .remoteAssetService) && !data.isEmpty
  | _ => false

variable {result : Option Bytes}

lemma Handling.onReadResponseHeader (h : s.Handling)
    (hwaiter : s.takesFront (.headerRead result) = true → s.assetCallbackQueue ≠ []) :
    (s.onReadResponseHeader result).Accounted := by
  rcases result with _ | header
  · exact h.close
  · rcases hflavour : s.flavour with _ | _ <;>
      simp only [TransferClient.onReadResponseHeader, hflavour, remoteReadResponseHeader,
        meshReadResponseHeader] <;>
      rcases hcode : getResponseCode header with _ | (_ | _ | _ | _) <;>
      simp only [takesFront, hflavour, hcode, decide_eq_true_eq] at hwaiter ⊢
    case remoteAssetService.none | meshServer.none => exact h.close
    case remoteAssetService.some.found | remoteAssetService.some.ok | meshServer.some.found =>
      exact h.startRead _
    case remoteAssetService.some.notFound | remoteAssetService.some.error =>
      split
      · exact h.startRead _
      · next hsize =>
        refine accounted_withFront (hwaiter (by omega)) fun t ts hq => ?_
        exact h.respond hq (.inl rfl) _
    all_goals
      refine accounted_withFront (hwaiter trivial) fun t ts hq => ?_
      split
      · exact h.respond hq (.inr (.inr ⟨header, rfl⟩)) _
      · exact h.close

lemma Handling.handleReturned (h : s.Handling) (hq : s.assetCallbackQueue = t :: ts)
    (data : Bytes) :
    (s.handleReturned data t).Accounted := by
  unfold TransferClient.handleReturned
  split
  · split
    · exact h.respond hq (.inr (.inl rfl)) _
    · exact h.close
  · split
    · exact h.respond hq (.inr (.inl rfl)) _
    · exact h.close
  all_goals first
    | exact h.respond hq (.inr (.inl rfl)) _
    | exact h.close

lemma Handling.onReadResponseData (h : s.Handling) (header : Bytes)
    (hwaiter : s.takesFront (.dataRead header result) = true → s.assetCallbackQueue ≠ []) :
    (s.onReadResponseData result).Accounted := by
  rcases result with _ | data
  · exact h.close
  · rcases hflavour : s.flavour with _ | _ <;>
      simp only [TransferClient.onReadResponseData, takesFront, hflavour] at hwaiter ⊢
    · split
      · next hestablished =>
        refine accounted_withFront (hwaiter (by simp [hestablished])) fun t ts hq => ?_
        exact h.handleReturned hq data
      · exact h.close
    · split
      · next hsome =>
        obtain ⟨hdata, hestablished⟩ := hsome
        refine accounted_withFront (hwaiter (by simp [hestablished, hdata])) fun t ts hq => ?_
        split
        · exact h.respond hq (.inl rfl) _
        · exact h.close
      · exact h.close

lemma Handling.onHandleRequestErrorData (h : s.Handling) (header : Bytes)
    (hwaiter : s.takesFront (.errorDataRead header result) = true → s.assetCallbackQueue ≠ []) :
    (s.onHandleRequestErrorData result).Accounted := by
  rcases result with _ | (_ | ⟨b, bs⟩)
  · exact h.close
  · exact h.close
  · rcases hflavour : s.flavour with _ | _ <;>
      simp only [TransferClient.onHandleRequestErrorData, takesFront, hflavour] at hwaiter ⊢
    · refine accounted_withFront (hwaiter rfl) fun t ts hq => ?_
      exact h.respond hq (.inl rfl) _
    · exact h.startRead _

/-! ## Callbacks return -/

/-- The callback of a response has returned, and its request is taken from the queue. -/
lemma Accounted.handling_of_pop (h : s.Accounted) (hstack : s.stack = [k]) (hk : k.IsResponse) :
    ∃ t ts, s.assetCallbackQueue = t :: ts ∧
      { s with stack := [], assetCallbackQueue := ts }.Handling := by
  have hrunning := h.running
  have hestablished : s.assetConnectionEstablished = true ∧ s.assetCallbackQueue ≠ [] := by
    rcases hk with rfl | rfl | ⟨header, rfl⟩ <;> simpa [Running, hstack] using hrunning
  obtain ⟨t, ts, hq⟩ := List.exists_cons_of_ne_nil hestablished.2
  have hbase := h.base
  rw [waiting_of_response hstack hk, hq, List.tail_cons] at hbase
  refine ⟨t, ts, hq, ⟨hbase.once, hbase.posted, hbase.defined, hbase.connecting, hbase.results,
    hbase.noQuery⟩, rfl, fun hclosed => ?_⟩
  simp [hestablished.1] at hclosed

variable {ks : List Frame}

/-- The callback of the connection returns. -/
lemma Accounted.returns_afterConnect (h : s.Accounted) (hstack : s.stack = .afterConnect :: ks) :
    ({ s with stack := ks }.resume .afterConnect).Accounted := by
  have hrunning := h.running
  have hbase := h.base
  rcases ks with _ | ⟨k, ks⟩
  · simp only [waiting, Running, hstack] at hbase hrunning
    have hhandling : { s with stack := [] }.Handling :=
      ⟨⟨hbase.once, hbase.posted, hbase.defined, hbase.connecting, hbase.results, hbase.noQuery⟩,
        rfl, hrunning⟩
    simp only [resume]
    split
    · exact hhandling.startRead _
    · next hclosed => exact ⟨hhandling.base, hrunning, fun h => absurd h hclosed⟩
  · simp [Running, hstack] at hrunning

/-- A callback of the first loop of `close` returns. -/
lemma Accounted.returns_closingTransfers (h : s.Accounted)
    (hstack : s.stack = .closingTransfers :: ks) :
    ({ s with stack := ks }.resume .closingTransfers).Accounted := by
  have hrunning := h.running
  have hbase := h.base
  simp only [Running, hstack] at hrunning
  obtain ⟨houter, hclosed, hne⟩ := hrunning
  obtain ⟨t, ts, hq⟩ := List.exists_cons_of_ne_nil hne
  simp only [waiting, hstack, hq, List.tail_cons] at hbase
  have hpop : ({ s with stack := ks } : TransferClient).popTransfer =
      { s with stack := ks, transferRequestQueue := ts } := by simp [popTransfer, hq]
  simp only [resume, hpop]
  exact Closing.closeTransfers ⟨⟨hbase.once, hbase.posted, hbase.defined, hbase.connecting,
    hbase.results, hbase.noQuery⟩, hclosed, houter⟩

/-- A callback of the second loop of `close` returns. -/
lemma Accounted.returns_closingCallbacks (h : s.Accounted)
    (hstack : s.stack = .closingCallbacks :: ks) :
    ({ s with stack := ks }.resume .closingCallbacks).Accounted := by
  have hrunning := h.running
  have hbase := h.base
  simp only [Running, hstack] at hrunning
  obtain ⟨houter, hclosed, htransfers, hne⟩ := hrunning
  obtain ⟨t, ts, hq⟩ := List.exists_cons_of_ne_nil hne
  simp only [waiting, hstack, hq, List.tail_cons] at hbase
  have hpop : ({ s with stack := ks } : TransferClient).popCallback =
      { s with stack := ks, assetCallbackQueue := ts } := by simp [popCallback, hq]
  simp only [resume, hpop]
  exact Closing.closeCallbacks ⟨⟨hbase.once, hbase.posted, hbase.defined, hbase.connecting,
    hbase.results, hbase.noQuery⟩, hclosed, houter⟩ htransfers

lemma Accounted.returns (h : s.Accounted) (hstack : s.stack = k :: ks) :
    ({ s with stack := ks }.resume k).Accounted := by
  have hrunning := h.running
  cases k with
  | afterConnect => exact h.returns_afterConnect hstack
  | closingTransfers => exact h.returns_closingTransfers hstack
  | closingCallbacks => exact h.returns_closingCallbacks hstack
  | posted => simp [Running, hstack] at hrunning
  | popThenListen =>
    rcases ks with _ | ⟨k, ks⟩
    · obtain ⟨t, ts, hq, hhandling⟩ := h.handling_of_pop hstack (.inl rfl)
      simpa [resume, popCallback, hq, listen] using hhandling.startRead .header
    · simp [Running, hstack] at hrunning
  | listenThenPop =>
    rcases ks with _ | ⟨k, ks⟩
    · obtain ⟨t, ts, hq, hhandling⟩ := h.handling_of_pop hstack (.inr (.inl rfl))
      simpa [resume, hq, listen, startRead] using hhandling.startRead .header
    · simp [Running, hstack] at hrunning
  | popThenReadRest header =>
    rcases ks with _ | ⟨k, ks⟩
    · obtain ⟨t, ts, hq, hhandling⟩ := h.handling_of_pop hstack (.inr (.inr ⟨header, rfl⟩))
      simp only [resume, popCallback, hq]
      split
      · exact hhandling.startRead _
      · exact hhandling.startRead _
    · simp [Running, hstack] at hrunning

/-! ## Calls and writes -/

/-- A new callback is passed in. -/
lemma Base.call (h : s.Base ws) (hws : ws' ~ s.nextCallback :: ws) :
    { s with nextCallback := s.nextCallback + 1 }.Base ws' := by
  refine ⟨?_, h.posted, h.defined, h.connecting, h.results, h.noQuery⟩
  change ws' ++ s.invoked.map Prod.fst ~ List.range (s.nextCallback + 1)
  rw [List.range_succ]
  calc ws' ++ s.invoked.map Prod.fst
      ~ s.nextCallback :: (ws ++ s.invoked.map Prod.fst) := hws.append_right _
    _ ~ s.nextCallback :: List.range s.nextCallback := h.once.cons _
    _ ~ List.range s.nextCallback ++ [s.nextCallback] := (List.perm_append_singleton _ _).symm

/-- What can be running while there is a connection. -/
lemma Accounted.stack_of_established (h : s.Accounted)
    (hestablished : s.assetConnectionEstablished = true) :
    Outermost s.stack ∨ ∃ k, s.stack = [k] ∧ k.IsResponse ∧ s.assetCallbackQueue ≠ [] := by
  have hrunning := h.running
  unfold Running at hrunning
  split at hrunning
  · next hstack => exact .inl (.inl hstack)
  · simp [hestablished] at hrunning
  · simp [hestablished] at hrunning
  · next hstack => exact .inl (.inr hstack)
  · next hstack => exact .inr ⟨_, hstack, .inl rfl, hrunning.2⟩
  · next hstack => exact .inr ⟨_, hstack, .inr (.inl rfl), hrunning.2⟩
  · next header hstack => exact .inr ⟨_, hstack, .inr (.inr ⟨header, rfl⟩), hrunning.2⟩
  · exact hrunning.elim

lemma map_callback_concat (ts us : List Transfer) (t : Transfer) :
    (ts ++ (us ++ [t])).map (·.callback) ~ t.callback :: (ts ++ us).map (·.callback) := by
  rw [← List.append_assoc, List.map_append]
  exact List.perm_append_singleton _ _

/-- A request goes to the end of one of the queues. -/
lemma waiting_request (hestablished : s.assetConnectionEstablished = true)
    (hstack : Outermost s.stack ∨ ∃ k, s.stack = [k] ∧ k.IsResponse ∧ s.assetCallbackQueue ≠ []) :
    (s.request t).waiting ~ t.callback :: s.waiting := by
  rcases hstack with houter | ⟨k, hk, hresponse, hne⟩
  · rw [waiting_of_outermost houter]
    by_cases hactive : s.sendActive = true
    · rw [waiting_of_outermost (by simpa [request, hestablished, hactive] using houter)]
      simp [request, hestablished, hactive]
    · rw [waiting_of_outermost (by simpa [request, hestablished, hactive, send] using houter)]
      simpa [request, hestablished, hactive, send] using map_callback_concat _ _ t
  · obtain ⟨t', ts, hq⟩ := List.exists_cons_of_ne_nil hne
    rw [waiting_of_response hk hresponse, hq, List.tail_cons]
    by_cases hactive : s.sendActive = true
    · rw [waiting_of_response (by simpa [request, hestablished, hactive] using hk) hresponse]
      simp [request, hestablished, hactive, hq]
    · rw [waiting_of_response (by simpa [request, hestablished, hactive, send] using hk) hresponse]
      simpa [request, hestablished, hactive, send, hq] using map_callback_concat _ ts t

lemma Call.callback_transfer (c : Call) (n : Nat) : (c.transfer n).callback = n := by
  cases c <;> rfl

/-- With a connection, a request changes nothing but the queues and the writes. -/
lemma request_eq (hestablished : s.assetConnectionEstablished = true) :
    ∃ transfers callbacks writes output, s.request t =
      { s with sendActive := true, transferRequestQueue := transfers, output := output,
               assetCallbackQueue := callbacks, writes := writes } ∧
      s.assetCallbackQueue <+: callbacks := by
  by_cases hactive : s.sendActive = true
  · refine ⟨s.transferRequestQueue ++ [t], s.assetCallbackQueue, s.writes, s.output, ?_,
      List.prefix_rfl⟩
    simp [request, hestablished, hactive]
  · refine ⟨s.transferRequestQueue, s.assetCallbackQueue ++ [t], s.writes ++ [t.message],
      s.output ++ t.message.bytes, ?_, List.prefix_append _ _⟩
    simp [request, hestablished, hactive, send]

lemma Accounted.call (h : s.Accounted) (hestablished : s.assetConnectionEstablished = true)
    (c : Call) : (s.call c).Accounted := by
  have hstack := h.stack_of_established hestablished
  have hwaiting := waiting_request (t := c.transfer s.nextCallback) hestablished hstack
  rw [Call.callback_transfer] at hwaiting
  obtain ⟨transfers, callbacks, writes, output, hrequest, hprefix⟩ :=
    request_eq (t := c.transfer s.nextCallback) hestablished
  rw [hrequest] at hwaiting
  have hbase := h.base.call hwaiting
  unfold TransferClient.call
  rw [hrequest]
  refine ⟨⟨hbase.once, hbase.posted, hbase.defined, hbase.connecting, hbase.results,
    hbase.noQuery⟩, ?_⟩
  have hrunning := h.running
  rcases hstack with (hnil | hconnect) | ⟨k, hk, hresponse, hne⟩
  · simp only [Running, hnil] at hrunning ⊢
    exact ⟨by simp [hestablished], hrunning.2⟩
  · simp [Running, hconnect, hestablished]
  · have hne' : callbacks ≠ [] := fun h => hne (List.prefix_nil.mp (h ▸ hprefix))
    rcases hresponse with rfl | rfl | ⟨header, rfl⟩ <;>
      simp [Running, hk, hestablished, hne']

/-- A handler ends without starting a read of its own. -/
lemma Handling.accounted (h : s.Handling)
    (hlistening : s.assetConnectionEstablished = true → s.reads ≠ [] ∨ s.queryConnecting = true) :
    s.Accounted := by
  refine ⟨by rw [waiting_of_outermost (.inl h.stack)]; exact h.base, ?_⟩
  simp only [Running, h.stack]
  exact ⟨h.empty, hlistening⟩

/-- The next request is taken from one queue to the other. -/
lemma Handling.sendNext (h : s.Handling) (hq : s.transferRequestQueue = t :: ts) :
    { s with sendActive := true, writes := s.writes ++ [t.message], transferRequestQueue := ts,
             output := s.output ++ t.message.bytes,
             assetCallbackQueue := s.assetCallbackQueue ++ [t] }.Handling := by
  have hperm : (s.transferRequestQueue ++ s.assetCallbackQueue).map (·.callback) ~
      (ts ++ (s.assetCallbackQueue ++ [t])).map (·.callback) := by
    rw [hq]
    exact (map_callback_concat ts s.assetCallbackQueue t).symm
  have hbase := h.base.perm hperm
  refine ⟨⟨hbase.once, hbase.posted, hbase.defined, hbase.connecting, hbase.results,
    hbase.noQuery⟩, h.stack, fun hclosed => ?_⟩
  have hempty := (h.empty hclosed).1
  simp [hq] at hempty

lemma Handling.onAfterWriteAssetRequest (h : s.Handling)
    (hlistening : s.assetConnectionEstablished = true → s.reads ≠ [] ∨ s.queryConnecting = true)
    (ok : Bool) : (s.onAfterWriteAssetRequest ok).Accounted := by
  have hinactive : { s with sendActive := false }.Handling :=
    ⟨⟨h.base.once, h.base.posted, h.base.defined, h.base.connecting, h.base.results,
      h.base.noQuery⟩, h.stack, h.empty⟩
  unfold TransferClient.onAfterWriteAssetRequest
  cases ok with
  | false => exact hinactive.close
  | true =>
    by_cases hestablished : s.assetConnectionEstablished = true
    · rcases hq : s.transferRequestQueue with _ | ⟨t, ts⟩
      · simpa [hestablished, doNextQueuedRequest, hq] using hinactive.accounted hlistening
      · have hnext := (hinactive.sendNext hq).accounted hlistening
        rcases hflavour : s.flavour with _ | _ <;>
          simpa [hestablished, doNextQueuedRequest, hq, hflavour, request, send, popTransfer]
            using hnext
    · simpa [hestablished] using hinactive.accounted hlistening

/-! ## Connecting -/

/-- One of the connections has been established or has failed. -/
lemma accounted_onConnectionResult
    (hbase : { s with numConnectResultsRcvd := s.numConnectResultsRcvd + 1 }.Base
      ((s.transferRequestQueue ++ s.assetCallbackQueue).map Transfer.callback))
    (hstack : s.stack = []) (hempty : s.assetConnectionEstablished = false → s.Empty) :
    s.onConnectionResult.Accounted := by
  have hhandling : { s with numConnectResultsRcvd := s.numConnectResultsRcvd + 1 }.Handling :=
    ⟨hbase, hstack, hempty⟩
  unfold onConnectionResult
  split
  · next hflavour =>
    rw [hstack]
    refine ⟨⟨?_, hbase.posted, hbase.defined, hbase.connecting, by simp [hflavour],
      hbase.noQuery⟩, hempty⟩
    rw [waiting_of_outermost (.inr rfl)]
    exact hbase.once
  · next hflavour =>
    dsimp only
    split
    · split
      · exact hhandling.startRead _
      · exact hhandling.close
    · next hpending =>
      refine hhandling.accounted fun hestablished => .inr ?_
      -- the result that is still missing is that of the query connection
      have hresults := hbase.results hflavour
      have hnone : s.connecting = none := by
        by_contra hne
        have hclosed : s.assetConnectionEstablished = false := hbase.connecting hne
        simp [hclosed] at hestablished
      cases hquery : s.queryConnecting with
      | true => rfl
      | false => simp [hnone, hquery, hpending] at hresults

lemma Handling.onConnectStage (h : s.Handling) {stage : ConnectStage}
    (hstage : s.connecting = some stage) (ok : Bool) : (s.onConnectStage stage ok).Accounted := by
  have hclosed : s.assetConnectionEstablished = false := h.base.connecting (by simp [hstage])
  have hresult : ∀ established, (onConnectionResult { s with
      connecting := none, assetConnectionEstablished := established }).Accounted := by
    intro established
    refine accounted_onConnectionResult ⟨h.base.once, h.base.posted, h.base.defined,
      by simp, fun hflavour => ?_, h.base.noQuery⟩ h.stack fun _ => h.empty hclosed
    have hresults := h.base.results hflavour
    simp only [hstage] at hresults
    simp at hresults ⊢
    omega
  have hnext : ∀ stage', { s with connecting := some stage' }.Accounted := by
    intro stage'
    refine Handling.accounted ⟨⟨h.base.once, h.base.posted, h.base.defined, fun _ => hclosed,
      fun hflavour => ?_, h.base.noQuery⟩, h.stack, h.empty⟩ (by simp [hclosed])
    have hresults := h.base.results hflavour
    simpa [hstage] using hresults
  unfold TransferClient.onConnectStage
  cases ok with
  | false => exact hresult false
  | true =>
    cases stage with
    | connect | challenge | response => exact hnext _
    | status => exact hresult true

lemma Handling.onQueryConnectionConnectResult (h : s.Handling) (hquery : s.queryConnecting = true)
    (ok : Bool) : (s.onQueryConnectionConnectResult ok).Accounted := by
  refine accounted_onConnectionResult ⟨h.base.once, h.base.posted, h.base.defined,
    h.base.connecting, fun hflavour => ?_, fun _ => rfl⟩ h.stack h.empty
  have hresults := h.base.results hflavour
  simp only [hquery] at hresults
  simp at hresults ⊢
  omega

/-! ## Steps and runs -/

/-- A request is made with a connection, `close` is not called from inside the callback of a
request, and a response is read when a request waits for one. -/
def orderly (s : TransferClient) : Event → Bool
  | .call _ => s.assetConnectionEstablished
  | .close => s.stack.all (· = .afterConnect)
  | e => !s.takesFront e || !s.assetCallbackQueue.isEmpty

lemma Accounted.handling (h : s.Accounted) (hstack : s.stack = []) :
    s.Handling ∧ (s.assetConnectionEstablished = true → s.reads ≠ [] ∨ s.queryConnecting = true) := by
  have hbase := h.base
  have hrunning := h.running
  rw [waiting_of_outermost (.inl hstack)] at hbase
  simp only [Running, hstack] at hrunning
  exact ⟨⟨hbase, hstack, hrunning.1⟩, hrunning.2⟩

/-- The handler of a read starts. -/
lemma Handling.readDone (h : s.Handling) (r : SocketRead) : (s.readDone r).Handling :=
  ⟨⟨h.base.once, h.base.posted, h.base.defined, h.base.connecting, h.base.results,
    h.base.noQuery⟩, h.stack, h.empty⟩

lemma Accounted.close (h : s.Accounted) (horderly : s.orderly .close = true) :
    s.close.Accounted := by
  have hrunning := h.running
  have houter : Outermost s.stack := by
    rcases hstack : s.stack with _ | ⟨k, ks⟩
    · exact .inl rfl
    · simp only [orderly, hstack, List.all_cons, Bool.and_eq_true, decide_eq_true_eq] at horderly
      obtain rfl := horderly.1
      rcases ks with _ | ⟨k', ks⟩
      · exact .inr rfl
      · simp [Running, hstack] at hrunning
  have hbase := h.base
  rw [waiting_of_outermost houter] at hbase
  exact hbase.close houter

lemma queue_ne_nil_of_orderly {e : Event} (horderly : s.orderly e = true)
    (htakes : s.takesFront e = true) : s.assetCallbackQueue ≠ [] := by
  cases e <;> simp_all [orderly, takesFront]

lemma Accounted.step (h : s.Accounted) {e : Event} (horderly : s.orderly e = true)
    (hstep : s.step e = some s') : s'.Accounted := by
  cases e with
  | call c =>
    simp only [TransferClient.step, Option.ite_none_right_eq_some, Option.some.injEq] at hstep
    obtain ⟨-, rfl⟩ := hstep
    exact h.call horderly c
  | close =>
    obtain rfl := Option.some.inj hstep
    exact h.close horderly
  | returns =>
    rcases hstack : s.stack with _ | ⟨k, ks⟩
    · simp [TransferClient.step, hstack] at hstep
    · simp only [TransferClient.step, hstack, Option.some.injEq] at hstep
      subst hstep
      exact h.returns hstack
  | runPosted i => simp [TransferClient.step, h.base.posted] at hstep
  | connectStage ok =>
    rcases hstage : s.connecting with _ | stage
    · simp [TransferClient.step, hstage] at hstep
    · simp only [TransferClient.step, hstage] at hstep
      obtain ⟨hstack, -, rfl⟩ := completion_eq_some hstep
      exact (h.handling hstack).1.onConnectStage hstage ok
  | queryConnected ok =>
    obtain ⟨hstack, hquery, rfl⟩ := completion_eq_some hstep
    exact (h.handling hstack).1.onQueryConnectionConnectResult hquery ok
  | queryClosed =>
    rw [TransferClient.step] at hstep
    obtain ⟨hstack, -, rfl⟩ := completion_eq_some hstep
    have hbase := (h.handling hstack).1.base
    exact Base.close ⟨hbase.once, hbase.posted, hbase.defined, hbase.connecting, hbase.results,
      hbase.noQuery⟩ (.inl hstack)
  | written m ok =>
    rw [TransferClient.step] at hstep
    obtain ⟨hstack, -, rfl⟩ := completion_eq_some hstep
    obtain ⟨hhandling, hlistening⟩ := h.handling hstack
    have hbase := hhandling.base
    have hwritten : { s with writes := s.writes.erase m }.Handling :=
      ⟨⟨hbase.once, hbase.posted, hbase.defined, hbase.connecting, hbase.results, hbase.noQuery⟩,
        hstack, hhandling.empty⟩
    exact hwritten.onAfterWriteAssetRequest hlistening ok
  | headerRead result =>
    rw [TransferClient.step] at hstep
    obtain ⟨hstack, -, rfl⟩ := completion_eq_some hstep
    exact ((h.handling hstack).1.readDone _).onReadResponseHeader
      (queue_ne_nil_of_orderly horderly)
  | dataRead header result =>
    rw [TransferClient.step] at hstep
    obtain ⟨hstack, -, rfl⟩ := completion_eq_some hstep
    exact ((h.handling hstack).1.readDone _).onReadResponseData header
      (queue_ne_nil_of_orderly horderly)
  | errorDataRead header result =>
    rw [TransferClient.step] at hstep
    obtain ⟨hstack, -, rfl⟩ := completion_eq_some hstep
    exact ((h.handling hstack).1.readDone _).onHandleRequestErrorData header
      (queue_ne_nil_of_orderly horderly)

lemma accounted_start (flavour : Flavour) : (start flavour).Accounted := by
  refine Handling.accounted ⟨⟨?_, rfl, rfl, fun _ => rfl, ?_, ?_⟩, rfl, fun _ => ⟨rfl, rfl⟩⟩ ?_
  · exact List.Perm.nil
  · rintro rfl
    rfl
  · rintro rfl
    rfl
  · intro h
    simp [start] at h

/-- When nothing is under way, all callbacks have been invoked. -/
lemma Accounted.count_invoked (h : s.Accounted) (hquiet : s.Quiet) {n : Nat}
    (hn : n < s.nextCallback) : (s.invoked.map Prod.fst).count n = 1 := by
  obtain ⟨-, hquery, -, hreads, -, hstack⟩ := hquiet
  obtain ⟨hhandling, hlistening⟩ := h.handling hstack
  have hclosed : s.assetConnectionEstablished = false := by
    by_contra hestablished
    simpa [hreads, hquery] using hlistening (by simpa using hestablished)
  obtain ⟨htransfers, hcallbacks⟩ := hhandling.empty hclosed
  have honce : s.invoked.map Prod.fst ~ List.range s.nextCallback := by
    simpa [htransfers, hcallbacks] using hhandling.base.once
  rw [honce.count_eq]
  exact List.count_eq_one_of_mem List.nodup_range (List.mem_range.mpr hn)

/-- A get, and the same get made again from inside its callback while the first answer is handled;
the connection is closed while the second one waits. -/
def nestedGet : List Event :=
  [.connectStage true, .connectStage true, .connectStage true, .connectStage true, .returns,
    .call (.getAsset nullUUID true), .written (.ofType .get nullUUID) true,
    .headerRead (some (setupHeader ResponseCode.found.code nullUUID 34)),
    .dataRead (setupHeader ResponseCode.found.code nullUUID 34) (some (nullUUID ++ [0, 0])),
    .call (.getAsset nullUUID true), .returns, .close, .returns,
    .written (.ofType .get nullUUID) false, .headerRead none]

end TransferClient

end Halcyon.Whip
