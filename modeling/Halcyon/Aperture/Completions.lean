import Halcyon.Aperture.AssetServer
import Mathlib.Data.List.Count

/-!
# Completions of the WHIP client in any order

The operations that the handlers of `AssetServer` start are kept in one list, and any of them may
complete next, with any outcome.  Each is marked with whether the socket has been closed since it
was started: such an operation normally completes with an error, but its completion may already have
been queued with success when the socket was closed.

The handlers are those of `Halcyon.Aperture.AssetServer`; what they start is read off the fields in
which they leave it (`started`).  `processNextSendItem` reads the front of a queue into which an id
has just been put or whose size has been tested, so that only the `pop` of `onWriteAssetRequest` may
find the queue empty.

While every success belongs to a socket that is open, the client is safe.  A success that was queued
before the socket was closed is not guarded against: it pops an empty queue, and it makes a client
that has been shut down connected again.
-/

namespace Halcyon.Aperture

open Lib.Transition
open Whip (Bytes)

/-- The handlers that wait for the completion of an operation. -/
inductive Completion
  | onReconnect
  | handshake (step : Handshake)
  | onWriteAssetRequest
  | response (read : ResponseRead)
  deriving DecidableEq

/-- How an operation completes.  A message that is not valid counts as an error. -/
inductive Finish
  | error
  | done
  | header (h : ResponseHeader)
  | data (data : Bytes)

/-- The operation completes without an error. -/
def Finish.ok : Finish → Bool
  | error => false
  | _ => true

namespace AssetServer

/-- A handler runs. -/
def complete (s : AssetServer) : Completion → Finish → AssetServer
  | .onReconnect, f => if f.ok then s.connect else s
  | .handshake step, f => s.onHandshake step f.ok
  | .onWriteAssetRequest, f => s.onWriteAssetRequest f.ok
  | .response .header, .header h => s.onReadResponseHeader h
  | .response (.data uuid _), .data data => s.onReadResponseData uuid data
  | .response (.errorData uuid _), .data data => s.onHandleRequestErrorData uuid data
  | .response _, _ => s.close false

/-- What the client has started. -/
def started (s : AssetServer) : List Completion :=
  List.replicate s.waits .onReconnect ++ s.handshake.toList.map .handshake ++
    List.replicate s.lateConnects (.handshake .connect) ++
    List.replicate s.writing .onWriteAssetRequest ++ s.reading.map .response

/-- The client without what it has started. -/
def settled (s : AssetServer) : AssetServer :=
  { s with waits := 0, handshake := none, lateConnects := 0, writing := 0, reading := [] }

end AssetServer

/-- The client and its outstanding operations, each with whether its socket is still open. -/
structure Completions where
  server : AssetServer
  outstanding : List (Completion × Bool)
  /-- Ghost: `shutdown` was called. -/
  down : Bool
  /-- Ghost: an id was removed from an empty queue. -/
  underflow : Bool
  /-- Ghost: the connection attempts after `shutdown`. -/
  attempts : Nat

/-- What happens to the client. -/
inductive CompletionEvent
  | connect
  | shutdown
  | getAsset (uuid : Text)
  | completes (i : Nat) (f : Finish)

namespace Completions

/-- A new client. -/
def new : Completions := ⟨.new, [], false, false, 0⟩

/-- After a handler: what it started is outstanding, and what is outstanding on a closed socket is
marked. -/
def settle (c : Completions) (outstanding : List (Completion × Bool)) (s : AssetServer) :
    Completions :=
  { c with
    server := s.settled
    outstanding := (outstanding.map fun o => (o.1, o.2 && s.socketOpen)) ++
      s.started.map fun h => (h, s.socketOpen)
    attempts := c.attempts + if c.down then s.started.count (.handshake .connect) else 0 }

/-- The next state, if the event can happen: assets are asked for while the client is connected. -/
def step (c : Completions) : CompletionEvent → Option Completions
  | .connect => some (c.settle c.outstanding c.server.connect)
  | .shutdown => some (settle { c with down := true } c.outstanding (c.server.close true))
  | .getAsset uuid =>
    if c.server.connectionState = .connected then
      some (c.settle c.outstanding (c.server.getAsset uuid))
    else none
  | .completes i f =>
    match c.outstanding[i]? with
    | none => none
    | some o =>
      some (settle
        { c with
          underflow := c.underflow ||
            (o.1 = .onWriteAssetRequest && f.ok && c.server.pendingSends.isEmpty) }
        (c.outstanding.eraseIdx i) (c.server.complete o.1 f))

/-- A success belongs to a socket that is open, or to the timer; and `connect` is not called after
`shutdown`. -/
def admissible (c : Completions) : CompletionEvent → Bool
  | .connect => !c.down
  | .completes i f =>
    match c.outstanding[i]? with
    | none => true
    | some o => o.1 = .onReconnect || o.2 || !f.ok
  | _ => true

end Completions

/-! ## What the handlers do -/

namespace AssetServer

variable {s s' : AssetServer}

/-- Neither connected nor about to be. -/
def Inactive (s : AssetServer) : Prop :=
  s.connectionState = .disconnected ∨ s.connectionState = .shutdown

lemma close_of_inactive (h : s.Inactive) (doShutdown : Bool) : s.close doShutdown = s :=
  if_neg fun hactive => h.elim hactive.1 hactive.2

/-- What is left by closing the connection. -/
structure Closed (s : AssetServer) : Prop where
  socketOpen : s.socketOpen = false
  pendingSends : s.pendingSends = []
  attempts : s.started.count (.handshake .connect) = 0

lemma closed_close (h : ¬ s.Inactive) (doShutdown : Bool) : (s.close doShutdown).Closed ∧
    (s.close doShutdown).connectionState = if doShutdown then .shutdown else .reconnectWait := by
  rw [close, if_pos (not_or.mp h)]
  cases doShutdown with
  | false =>
    refine ⟨⟨rfl, rfl, ?_⟩, rfl⟩
    simp [started, tryReconnect, failAll, closeSocket, List.count_replicate]
  | true =>
    refine ⟨⟨rfl, rfl, ?_⟩, rfl⟩
    simp [started, failAll, closeSocket, List.count_replicate]

/-- What the handlers do apart from closing the connection and writing; `ok` says whether the client
may become connected. -/
structure Mild (s s' : AssetServer) (ok : Bool) : Prop where
  pendingSends : s'.pendingSends = s.pendingSends
  writing : s'.writing = s.writing
  socketOpen : s.socketOpen = true → s'.socketOpen = true
  connectionState : s'.connectionState = s.connectionState ∨ s'.connectionState = .connecting ∨
    (s'.connectionState = .connected ∧ ok = true)

lemma Mild.not_inactive {ok : Bool} (h : Mild s s' ok) (hs : ¬ s.Inactive) : ¬ s'.Inactive := by
  unfold Inactive at hs ⊢
  rcases h.connectionState with heq | heq | ⟨heq, -⟩ <;> rw [heq]
  · exact hs
  · rintro (h | h) <;> cases h
  · rintro (h | h) <;> cases h

lemma Mild.refl (s : AssetServer) (ok : Bool) : Mild s s ok := ⟨rfl, rfl, id, .inl rfl⟩

lemma mild_connect (s : AssetServer) (ok : Bool) : Mild s s.connect ok := by
  unfold connect
  split_ifs with hactive hopen
  · exact ⟨rfl, rfl, id, .inr (.inl rfl)⟩
  · exact ⟨rfl, rfl, fun _ => rfl, .inr (.inl rfl)⟩
  · exact .refl s ok

lemma mild_fireAssetRcvdCallbacks (s : AssetServer) (found : List (Text × Bytes)) (uuid : Text)
    (asset : Option Bytes) (ok : Bool) :
    Mild s (fireAssetRcvdCallbacks { s with found := found } uuid asset).testContinueRecv ok := by
  unfold testContinueRecv fireAssetRcvdCallbacks
  dsimp only
  split <;> split <;> exact ⟨rfl, rfl, id, .inl rfl⟩

/-- Every handler but the one for a written request closes the connection or does little. -/
lemma complete_cases {h : Completion} (hwrite : h ≠ .onWriteAssetRequest) (f : Finish) :
    s.complete h f = s.close false ∨ Mild s (s.complete h f) (h ≠ .onReconnect && f.ok) := by
  cases h with
  | onReconnect =>
    refine .inr ?_
    rw [complete]
    split
    · exact mild_connect s _
    · exact .refl s _
  | handshake step =>
    rw [complete]
    cases f.ok with
    | false => exact .inl rfl
    | true =>
      refine .inr ?_
      cases step with
      | authenticationStatus => exact ⟨rfl, rfl, id, .inr (.inr ⟨rfl, rfl⟩)⟩
      | connect | recvChallenge | challengeResponseWrite => exact ⟨rfl, rfl, id, .inl rfl⟩
  | onWriteAssetRequest => exact absurd rfl hwrite
  | response read =>
    cases read with
    | header =>
      cases f with
      | header h =>
        rw [complete, onReadResponseHeader]
        split_ifs
        · exact .inr ⟨rfl, rfl, id, .inl rfl⟩
        · exact .inl rfl
        · exact .inr ⟨rfl, rfl, id, .inl rfl⟩
        · exact .inr (mild_fireAssetRcvdCallbacks s s.found _ _ _)
      | error | done | data => exact .inl rfl
    | data uuid size =>
      cases f with
      | data data =>
        rw [complete, onReadResponseData]
        split_ifs
        · exact .inr (mild_fireAssetRcvdCallbacks s _ _ _ _)
        · exact .inl rfl
      | error | done | header => exact .inl rfl
    | errorData uuid size =>
      cases f with
      | data data =>
        rw [complete, onHandleRequestErrorData]
        split_ifs
        · exact .inr (mild_fireAssetRcvdCallbacks s s.found _ _ _)
        · exact .inl rfl
      | error | done | header => exact .inl rfl

/-- After `shutdown`, errors and the timer change nothing. -/
lemma complete_of_shutdown {h : Completion} {f : Finish} (hs : s.connectionState = .shutdown)
    (hf : h = .onReconnect ∨ f.ok = false) : s.complete h f = s := by
  have hconnect : s.connect = s := if_neg fun hne => hne hs
  have hclose : s.close false = s := close_of_inactive (.inr hs) false
  cases h with
  | onReconnect =>
    rw [complete, hconnect]
    exact ite_self _
  | handshake step | onWriteAssetRequest =>
    rw [complete, hf.resolve_left (fun heq => by cases heq)]
    exact hclose
  | response read =>
    have hf := hf.resolve_left (fun heq => by cases heq)
    cases f with
    | error =>
      cases read with
      | header | data | errorData => exact hclose
    | done | header | data => cases hf

/-- `getAsset` puts an id into the queue, and writes it if it is the only one, or leaves both. -/
lemma getAsset_cases (s : AssetServer) (uuid : Text) :
    (s.getAsset uuid).connectionState = s.connectionState ∧
      (s.getAsset uuid).socketOpen = s.socketOpen ∧
      ((s.getAsset uuid).pendingSends = s.pendingSends ∧ (s.getAsset uuid).writing = s.writing ∨
        (s.getAsset uuid).pendingSends = s.pendingSends ++ [uuid] ∧
          (s.getAsset uuid).writing = s.writing + if s.pendingSends = [] then 1 else 0) := by
  unfold getAsset
  dsimp only
  split
  · exact ⟨rfl, rfl, .inl ⟨rfl, rfl⟩⟩
  · have hlength : (s.pendingSends ++ [uuid]).length = 1 ↔ s.pendingSends = [] := by
      rw [List.length_append, List.length_singleton, Nat.add_eq_right, List.length_eq_zero_iff]
    by_cases hempty : s.pendingSends = []
    · rw [if_pos (hlength.mpr hempty), if_pos hempty]
      split <;> exact ⟨rfl, rfl, .inr ⟨rfl, rfl⟩⟩
    · rw [if_neg (hempty ∘ hlength.mp), if_neg hempty]
      split <;> exact ⟨rfl, rfl, .inr ⟨rfl, rfl⟩⟩

lemma count_started (s : AssetServer) :
    s.started.count .onWriteAssetRequest = s.writing := by
  cases hs : s.handshake <;>
    simp [started, hs, List.count_replicate, List.count_eq_zero]

end AssetServer

/-! ## Safety -/

namespace Completions

open AssetServer

/-- The outstanding write on the open socket. -/
def liveWrite : Completion × Bool := (.onWriteAssetRequest, true)

/-- What holds between two events. -/
structure Sane (c : Completions) : Prop where
  settled : c.server.started = []
  /-- The front of the queue is being written. -/
  writing : c.outstanding.count liveWrite = if c.server.pendingSends = [] then 0 else 1
  closed : c.server.socketOpen = false → ∀ o ∈ c.outstanding, o.2 = false
  inactive : c.server.Inactive → c.server.socketOpen = false
  connected : c.server.connectionState = .connected → c.server.socketOpen = true
  fresh : c.server.connectionState = .disconnected → c.outstanding = []
  down : c.down = true → c.server.Inactive
  underflow : c.underflow = false
  attempts : c.attempts = 0

variable {c c' : Completions}

lemma Sane.new : Sane new where
  settled := rfl
  writing := rfl
  closed := fun _ _ ho => absurd ho List.not_mem_nil
  inactive := fun _ => rfl
  connected := fun heq => by cases heq
  fresh := fun _ => rfl
  down := fun heq => by cases heq
  underflow := rfl
  attempts := rfl

/-- On a closed socket nothing is being written, so the queue is empty. -/
lemma Sane.pendingSends_eq_nil (h : c.Sane) (hclosed : c.server.socketOpen = false) :
    c.server.pendingSends = [] := by
  have hnone : c.outstanding.count liveWrite = 0 :=
    List.count_eq_zero.mpr fun hmem => by cases h.closed hclosed _ hmem
  by_contra hne
  have hwriting := h.writing
  rw [hnone, if_neg hne] at hwriting
  cases hwriting

lemma Sane.not_writing (h : c.Sane) : c.server.writing = 0 := by
  rw [← count_started, h.settled]
  rfl

lemma count_settle (c : Completions) (rest : List (Completion × Bool)) (s : AssetServer) :
    (c.settle rest s).outstanding.count liveWrite =
      if s.socketOpen then rest.count liveWrite + s.writing else 0 := by
  cases hopen : s.socketOpen with
  | false =>
    refine List.count_eq_zero.mpr fun hmem => ?_
    simp [settle, hopen, liveWrite] at hmem
  | true =>
    have hstarted : (s.started.map fun h => (h, true)).count liveWrite =
        s.started.count .onWriteAssetRequest :=
      List.count_map_of_injective _ _ (fun _ _ heq => (Prod.mk.inj heq).1) _
    simp only [settle, hopen, Bool.and_true, List.map_id', List.count_append, hstarted,
      count_started, if_true]

variable {rest : List (Completion × Bool)} {s : AssetServer}

/-- What a handler has to leave. -/
lemma sane_settle
    (hwriting : (if s.socketOpen then rest.count liveWrite + s.writing else 0) =
      if s.pendingSends = [] then 0 else 1)
    (hinactive : s.Inactive → s.socketOpen = false)
    (hconnected : s.connectionState = .connected → s.socketOpen = true)
    (hfresh : s.connectionState = .disconnected → rest = [] ∧ s.started = [])
    (hdown : c.down = true → s.Inactive ∧ s.started.count (.handshake .connect) = 0)
    (hunderflow : c.underflow = false) (hattempts : c.attempts = 0) : (c.settle rest s).Sane where
  settled := rfl
  writing := (count_settle c rest s).trans hwriting
  closed := by
    intro hclosed o ho
    simp only [settle, List.mem_append, List.mem_map] at ho
    rw [show s.socketOpen = false from hclosed] at ho
    rcases ho with ⟨o', -, rfl⟩ | ⟨h, -, rfl⟩
    · exact Bool.and_false _
    · rfl
  inactive := hinactive
  connected := hconnected
  fresh := by
    intro hstate
    obtain ⟨hrest, hstarted⟩ := hfresh hstate
    rw [settle, hrest, hstarted]
    rfl
  down := fun h => (hdown h).1
  underflow := hunderflow
  attempts := by
    cases hd : c.down with
    | false => simp [settle, hd, hattempts]
    | true => simp [settle, hd, hattempts, (hdown hd).2]

/-- A handler that leaves the client as it is: nothing was live. -/
lemma Sane.keep (h : c.Sane) (hfresh : c.server.connectionState = .disconnected → rest = [])
    (hinactive : c.server.Inactive) (down : Bool) :
    (settle { c with down := down } rest c.server).Sane := by
  have hclosed := h.inactive hinactive
  refine sane_settle ?_ h.inactive h.connected (fun hstate => ⟨hfresh hstate, h.settled⟩)
    (fun _ => ⟨hinactive, ?_⟩) h.underflow h.attempts
  · rw [hclosed, h.pendingSends_eq_nil hclosed]
    rfl
  · rw [h.settled]
    rfl

/-- A handler that closes the connection. -/
lemma sane_close (hs : s.Closed)
    (hstate : s.connectionState = .reconnectWait ∧ c.down = false ∨
      s.connectionState = .shutdown)
    (hunderflow : c.underflow = false) (hattempts : c.attempts = 0) : (c.settle rest s).Sane := by
  refine sane_settle ?_ (fun _ => hs.socketOpen) ?_ ?_ ?_ hunderflow hattempts
  · rw [hs.socketOpen, hs.pendingSends]
    rfl
  · intro heq
    rcases hstate with ⟨hstate, -⟩ | hstate <;> cases heq.symm.trans hstate
  · intro heq
    rcases hstate with ⟨hstate, -⟩ | hstate <;> cases heq.symm.trans hstate
  · intro hdown
    rcases hstate with ⟨-, hup⟩ | hstate
    · cases hdown.symm.trans hup
    · exact ⟨.inr hstate, hs.attempts⟩

/-- A handler that does little, of a client that is not shut down. -/
lemma Sane.mild (h : c.Sane) {ok : Bool} (hmild : Mild c.server s ok)
    (hok : ok = true → c.server.socketOpen = true)
    (hrest : rest.count liveWrite = c.outstanding.count liveWrite) (hstate : ¬ s.Inactive)
    (hup : c.down = false) : (c.settle rest s).Sane := by
  refine sane_settle ?_ (fun hinactive => absurd hinactive hstate) ?_
    (fun hdisconnected => absurd (.inl hdisconnected) hstate)
    (fun hdown => by cases hdown.symm.trans hup) h.underflow h.attempts
  · rw [hrest, hmild.writing, h.not_writing, Nat.add_zero, hmild.pendingSends, h.writing]
    cases hopen : c.server.socketOpen with
    | true => rw [hmild.socketOpen hopen, if_pos rfl]
    | false => rw [h.pendingSends_eq_nil hopen, if_pos rfl, ite_self]
  · intro hconnected
    rcases hmild.connectionState with heq | heq | ⟨-, htrue⟩
    · exact hmild.socketOpen (h.connected (heq.symm.trans hconnected))
    · cases heq.symm.trans hconnected
    · exact hmild.socketOpen (hok htrue)

lemma Sane.not_down (h : c.Sane) (hactive : ¬ c.server.Inactive) : c.down = false :=
  Bool.eq_false_of_not_eq_true fun hdown => hactive (h.down hdown)

/-- A written request: its id is at the front of the queue. -/
lemma Sane.written (h : c.Sane) (hcount : c.outstanding.count liveWrite = rest.count liveWrite + 1)
    (hopen : c.server.socketOpen = true) (hactive : ¬ c.server.Inactive) :
    c.server.pendingSends ≠ [] ∧ (c.settle rest (c.server.onWriteAssetRequest true)).Sane := by
  have hwriting := h.writing
  rw [hcount] at hwriting
  cases hsends : c.server.pendingSends with
  | nil =>
    rw [hsends, if_pos rfl] at hwriting
    cases hwriting
  | cons uuid sends =>
    rw [hsends, if_neg (List.cons_ne_nil _ _)] at hwriting
    refine ⟨List.cons_ne_nil _ _, ?_⟩
    -- the next id, if there is one, is written in its place
    have hnext : (c.server.onWriteAssetRequest true).pendingSends = sends ∧
        (c.server.onWriteAssetRequest true).writing = (if sends = [] then 0 else 1) ∧
        (c.server.onWriteAssetRequest true).socketOpen = c.server.socketOpen ∧
        (c.server.onWriteAssetRequest true).connectionState = c.server.connectionState := by
      rw [onWriteAssetRequest, if_pos rfl, hsends, List.tail_cons, tryProcessNextSendItem]
      cases sends with
      | nil => exact ⟨rfl, h.not_writing, rfl, rfl⟩
      | cons => exact ⟨rfl, congrArg (· + 1) h.not_writing, rfl, rfl⟩
    obtain ⟨hsends', hwriting', hopen', hstate'⟩ := hnext
    have hactive' : ¬ (c.server.onWriteAssetRequest true).Inactive := by
      unfold Inactive
      rwa [hstate']
    refine sane_settle ?_ (fun hinactive => absurd hinactive hactive') ?_
      (fun heq => absurd (.inl heq) hactive')
      (fun hdown => by cases hdown.symm.trans (h.not_down hactive)) h.underflow h.attempts
    · rw [hopen', hopen, if_pos rfl, hwriting', hsends', Nat.succ.inj hwriting, Nat.zero_add]
    · intro _
      rw [hopen', hopen]

/-- An outstanding operation completes. -/
lemma Sane.completes (h : c.Sane) {i : Nat} {f : Finish}
    (hcond : c.admissible (.completes i f) = true)
    (hstep : c.step (.completes i f) = some c') : c'.Sane := by
  rw [step] at hstep
  rw [admissible] at hcond
  cases hget : c.outstanding[i]? with
  | none =>
    rw [hget] at hstep
    cases hstep
  | some o =>
    rw [hget] at hstep hcond
    obtain rfl := Option.some.inj hstep
    simp only [Bool.or_eq_true, decide_eq_true_eq, Bool.not_eq_true'] at hcond
    have hlt := (List.getElem?_eq_some_iff.mp hget).1
    have hcount (a : Completion × Bool) : c.outstanding.count a =
        (c.outstanding.eraseIdx i).count a + if o == a then 1 else 0 := by
      rw [← (List.getElem_cons_eraseIdx_perm hlt).count_eq, List.count_cons,
        (List.getElem?_eq_some_iff.mp hget).2]
    have hmem : o ∈ c.outstanding := List.mem_of_getElem? hget
    have hlive : o.2 = true → c.server.socketOpen = true := by
      intro hlive
      by_contra hclosed
      cases hlive.symm.trans (h.closed (Bool.eq_false_of_not_eq_true hclosed) o hmem)
    have hunderflow (hwrite : o.1 = .onWriteAssetRequest → f.ok = true →
        c.server.pendingSends ≠ []) : (c.underflow || (decide (o.1 = .onWriteAssetRequest) &&
          f.ok && c.server.pendingSends.isEmpty)) = c.underflow := by
      rw [h.underflow, Bool.false_or]
      by_contra hpop
      simp only [Bool.not_eq_false, Bool.and_eq_true, decide_eq_true_eq, List.isEmpty_iff] at hpop
      exact hwrite hpop.1.1 hpop.1.2 hpop.2
    by_cases hinactive : c.server.Inactive
    · -- nothing is live any more, so that only an error or the timer comes
      have hshutdown : c.server.connectionState = .shutdown := by
        refine hinactive.resolve_left fun hstate => ?_
        rw [h.fresh hstate] at hmem
        exact absurd hmem List.not_mem_nil
      have hdead := h.closed (h.inactive hinactive) o hmem
      have hfails : o.1 = .onReconnect ∨ f.ok = false := by
        rcases hcond with (hreconnect | hlive') | hfails
        · exact .inl hreconnect
        · cases hdead.symm.trans hlive'
        · exact .inr hfails
      rw [complete_of_shutdown hshutdown hfails, hunderflow]
      · refine h.keep (fun hstate => ?_) hinactive c.down
        cases hstate.symm.trans hshutdown
      · intro hwrite hok
        rcases hfails with hreconnect | hfails
        · cases hwrite.symm.trans hreconnect
        · cases hfails.symm.trans hok
    · have hup := h.not_down hinactive
      have hclose := closed_close hinactive false
      by_cases hwrite : o.1 = .onWriteAssetRequest
      · rw [show c.server.complete o.1 f = c.server.onWriteAssetRequest f.ok from
          congrArg (c.server.complete · f) hwrite]
        cases hok : f.ok with
        | false =>
          rw [← hok, hunderflow fun _ hok' => absurd (hok.symm.trans hok') Bool.false_ne_true, hok]
          exact sane_close hclose.1 (.inl ⟨hclose.2, hup⟩) h.underflow h.attempts
        | true =>
          have hlive' : o.2 = true := by
            rcases hcond with (hreconnect | hlive') | hfails
            · cases hwrite.symm.trans hreconnect
            · exact hlive'
            · cases hok.symm.trans hfails
          have ho : o = liveWrite := Prod.ext hwrite hlive'
          have hone := hcount liveWrite
          rw [ho, beq_self_eq_true, if_pos rfl] at hone
          obtain ⟨hsends, hsane⟩ := h.written hone (hlive hlive') hinactive
          rw [← hok, hunderflow fun _ _ => hsends, hok]
          exact hsane
      · rw [hunderflow fun heq => absurd heq hwrite]
        rcases complete_cases (s := c.server) hwrite f with heq | hmild
        · rw [heq]
          exact sane_close hclose.1 (.inl ⟨hclose.2, hup⟩) h.underflow h.attempts
        · refine h.mild hmild (fun hok => ?_) ?_ (hmild.not_inactive hinactive) hup
          · simp only [ne_eq, decide_not, Bool.and_eq_true, Bool.not_eq_true',
              decide_eq_false_iff_not] at hok
            rcases hcond with (hreconnect | hlive') | hfails
            · exact absurd hreconnect hok.1
            · exact hlive hlive'
            · cases hok.2.symm.trans hfails
          · have hsame := hcount liveWrite
            rw [if_neg fun heq => hwrite (congrArg Prod.fst (eq_of_beq heq)), Nat.add_zero] at hsame
            exact hsame.symm

/-- Every admissible event keeps what holds. -/
lemma Sane.step {e : CompletionEvent} (h : c.Sane) (hcond : c.admissible e = true)
    (hstep : c.step e = some c') : c'.Sane := by
  cases e with
  | connect =>
    obtain rfl := Option.some.inj hstep
    have hup : c.down = false := by simpa only [admissible, Bool.not_eq_true'] using hcond
    by_cases hshutdown : c.server.connectionState = .shutdown
    · rw [show c.server.connect = c.server from if_neg fun hne => hne hshutdown]
      exact h.keep (fun hstate => by cases hstate.symm.trans hshutdown) (.inr hshutdown) c.down
    · refine h.mild (mild_connect c.server false) (fun heq => by cases heq) rfl ?_ hup
      have hstate : c.server.connect.connectionState = .connecting := by
        rw [AssetServer.connect, if_pos hshutdown]
        split <;> rfl
      unfold Inactive
      rw [hstate]
      rintro (heq | heq) <;> cases heq
  | shutdown =>
    obtain rfl := Option.some.inj hstep
    by_cases hinactive : c.server.Inactive
    · rw [close_of_inactive hinactive]
      exact h.keep h.fresh hinactive true
    · have hclose := closed_close hinactive true
      exact sane_close hclose.1 (.inr hclose.2) h.underflow h.attempts
  | getAsset uuid =>
    obtain ⟨hstate, rfl⟩ := guarded_eq_some.mp hstep
    obtain ⟨hstate', hopen', hsends⟩ := getAsset_cases c.server uuid
    have hopen := h.connected hstate
    have hactive : ¬ (c.server.getAsset uuid).Inactive := by
      unfold Inactive
      rw [hstate', hstate]
      rintro (heq | heq) <;> cases heq
    have hup : c.down = false := by
      refine h.not_down ?_
      unfold Inactive at hactive ⊢
      rwa [hstate'] at hactive
    refine sane_settle ?_ (fun hinactive => absurd hinactive hactive)
      (fun _ => hopen'.trans hopen) (fun heq => absurd (.inl heq) hactive)
      (fun hdown => by cases hdown.symm.trans hup) h.underflow h.attempts
    rw [hopen', hopen, if_pos rfl, h.writing]
    rcases hsends with ⟨hsends, hwriting⟩ | ⟨hsends, hwriting⟩
    · rw [hwriting, h.not_writing, hsends, Nat.add_zero]
    · rw [hwriting, h.not_writing, hsends, if_neg (List.concat_ne_nil _ _)]
      split <;> rfl
  | completes i f => exact h.completes hcond hstep

/-- In every run in which `connect` is not called after `shutdown` and every success belongs to a
socket that is open or to the timer, no id is removed from an empty queue, and after `shutdown` the
client is not connected and starts no connection attempt. -/
theorem safe_of_admissible (es : List CompletionEvent) (c : Completions)
    (hrun : run step new es = some c)
    (hmeets : Meets step (fun c e => c.admissible e = true) new es) :
    c.underflow = false ∧ (c.down = true → c.server.connectionState ≠ .connected) ∧
      c.attempts = 0 := by
  have hsane := invariant_of_meets (fun _ _ _ h hcond hstep => Sane.step h hcond hstep) hrun hmeets
    Sane.new
  refine ⟨hsane.underflow, fun hdown hconnected => ?_, hsane.attempts⟩
  rcases hsane.down hdown with hstate | hstate <;> cases hstate.symm.trans hconnected

/-- The events that connect the client. -/
def connecting : List CompletionEvent :=
  [.connect, .completes 0 .done, .completes 0 .done, .completes 0 .done, .completes 0 .done]

theorem safe_of_admissible_shutdown : ∃ c : Completions,
    run step new (connecting ++
      [.getAsset [], .completes 0 .done, .shutdown, .completes 0 .error]) = some c ∧
    c.underflow = false ∧ (c.down = true → c.server.connectionState ≠ .connected) ∧
      c.attempts = 0 := by
  refine Exists.imp (fun c hc => ⟨hc, safe_of_admissible _ c hc ?_⟩)
    (Option.isSome_iff_exists.mp ?_)
  · decide
  · decide

/-- A request whose write was queued with success when a read failed is removed from an empty queue;
and an authentication that was queued with success when the client was shut down makes it connected,
after which an error starts another connection attempt. -/
theorem stale_success_corrupts :
    (run step new (connecting ++ [.getAsset [], .completes 1 .error, .completes 0 .done])).map
      underflow = some true ∧
    (run step new (connecting.dropLast ++ [.shutdown, .completes 0 .done])).map
      (fun c => (c.down, c.server.connectionState)) = some (true, .connected) ∧
    (run step new (connecting.dropLast ++ [.shutdown, .completes 0 .done, .getAsset [],
      .completes 0 .error, .completes 1 .done])).map attempts = some 1 := by
  decide

end Completions

end Halcyon.Aperture
