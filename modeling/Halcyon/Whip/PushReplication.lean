import Halcyon.Lib.Transition
import Halcyon.Whip.Message

/-!
# Push replication

`PushReplicationService` sends every asset that is written to this server to another one, its slave.
It puts one asset at a time; those that come while a put is under way wait in a queue.  A monitor
looks every few seconds whether there is a connection, and whether the slave is still the same.

All handlers run on the thread of the service.  A connection is a `RemoteAssetService`, of which is
assumed what its contract says: the result of an attempt to connect is reported once, the callback
of a put is called once, and a connection that was established is reported dead at most once, after
the callbacks of its puts.  `close` of a connection leads to such events.

Accepted assets are numbered.  The queue is to hold no more than `MAX_QUEUE_SIZE` assets, but the
handler refuses an asset only when it already holds more than that; `Tidy` holds as long as no asset
comes while exactly that many are waiting.
-/

namespace Halcyon.Whip

open Lib.Transition

/-- A TCP endpoint. -/
structure Endpoint where
  address : Nat
  port : Nat
  deriving DecidableEq

/-- `MAX_QUEUE_SIZE`. -/
def maxQueueSize : Nat := 250

/-- `PushReplicationService`, with the handlers that can still run and a record of what was put. -/
structure PushReplication where
  /-- `_stop`. -/
  stopped : Bool
  connected : Bool
  replicationSlaveEndpoint : Endpoint
  /-- The number of the connection; there is none at first. -/
  replSlave : Option Nat
  sending : Bool
  /-- The assets that wait, with their numbers. -/
  waitingAssets : List (Nat × Bytes)
  /-- The waits of the monitor.  The handler of one that is cancelled runs as well. -/
  monitors : Nat
  /-- The number of connections that were made. -/
  made : Nat
  /-- The connections of which no result was reported. -/
  attempts : List Nat
  /-- The connections that were established and not reported dead. -/
  established : List Nat
  /-- The puts whose callback was not called: the connection, and the number of the asset. -/
  outstanding : List (Option Nat × Nat)
  /-- The number of assets that were accepted. -/
  accepted : Nat
  /-- The numbers of the assets that were put, in that order. -/
  puts : List Nat
  deriving DecidableEq

namespace PushReplication

/-- After `start` and `run`. -/
def start : PushReplication where
  stopped := false
  connected := false
  replicationSlaveEndpoint := ⟨0, 0⟩
  replSlave := none
  sending := false
  waitingAssets := []
  monitors := 1
  made := 0
  attempts := []
  established := []
  outstanding := []
  accepted := 0
  puts := []

/-! ## The handlers -/

def resetConnectionMonitor (s : PushReplication) : PushReplication :=
  if s.stopped then s else { s with monitors := s.monitors + 1 }

def makeConnection (s : PushReplication) : PushReplication :=
  { s with replSlave := some s.made, made := s.made + 1, attempts := s.attempts ++ [s.made] }

def endpointChanged (s : PushReplication) (newEp : Endpoint) : PushReplication :=
  let s := { s with replicationSlaveEndpoint := newEp }
  if s.connected then s.resetConnectionMonitor else s.makeConnection

/-- `onCheckConnection`; the setting names the slave, or none. -/
def onCheckConnection (s : PushReplication) (slave : Option Endpoint) : PushReplication :=
  if s.stopped then s
  else
    match slave with
    | none => s.resetConnectionMonitor
    | some ep =>
      if ep ≠ s.replicationSlaveEndpoint then s.endpointChanged ep
      else if !s.connected then s.makeConnection
      else s.resetConnectionMonitor

def onServiceConnectionStatus (s : PushReplication) (success : Bool) : PushReplication :=
  let s := if success then { s with connected := true } else s
  s.resetConnectionMonitor

def onSafeKillConnection (s : PushReplication) : PushReplication :=
  { s with connected := false, sending := false, waitingAssets := [] }

/-- `doPutAsset` of the asset with this number. -/
def doPutAsset (s : PushReplication) (n : Nat) : PushReplication :=
  if s.stopped then s
  else
    { s with
      sending := true
      outstanding := s.outstanding ++ [(s.replSlave, n)]
      puts := s.puts ++ [n] }

def doQueueAssetForPush (s : PushReplication) (asset : Bytes) : PushReplication :=
  if !s.connected || s.stopped then s
  else if s.sending then
    if s.waitingAssets.length > maxQueueSize then s
    else
      { s with
        waitingAssets := s.waitingAssets ++ [(s.accepted, asset)], accepted := s.accepted + 1 }
  else { s with accepted := s.accepted + 1 }.doPutAsset s.accepted

def pushNextWaitingAsset (s : PushReplication) : PushReplication :=
  if s.connected && !s.stopped then
    match s.waitingAssets with
    | [] => s
    | (n, _) :: rest => { s with waitingAssets := rest }.doPutAsset n
  else s

/-- `onAfterAssetPut`; an error is only logged. -/
def onAfterAssetPut (s : PushReplication) : PushReplication :=
  { s with sending := false }.pushNextWaitingAsset

def doStop (s : PushReplication) : PushReplication := { s with stopped := true }

/-! ## Runs -/

inductive Event
  | checkConnection (slave : Option Endpoint)
  | connectionStatus (c : Nat) (success : Bool)
  | safeKill (c : Nat)
  | queueAsset (asset : Bytes)
  | afterPut (put : Option Nat × Nat) (error : Bool)
  | stop
  deriving DecidableEq

/-- One step.  What a connection reports is as its contract says. -/
def step (s : PushReplication) : Event → Option PushReplication
  | .checkConnection slave =>
    if 0 < s.monitors then some ({ s with monitors := s.monitors - 1 }.onCheckConnection slave)
    else none
  | .connectionStatus c success =>
    if c ∈ s.attempts then
      some ({ s with
        attempts := s.attempts.erase c
        established := if success then s.established ++ [c] else s.established
      }.onServiceConnectionStatus success)
    else none
  | .safeKill c =>
    if c ∈ s.established ∧ ∀ put ∈ s.outstanding, put.1 ≠ some c then
      some ({ s with established := s.established.erase c }.onSafeKillConnection)
    else none
  | .queueAsset asset => some (s.doQueueAssetForPush asset)
  | .afterPut put _ =>
    if put ∈ s.outstanding then
      some ({ s with outstanding := s.outstanding.erase put }.onAfterAssetPut)
    else none
  | .stop => some s.doStop

/-- Push replication is bounded and orderly. -/
structure Tidy (s : PushReplication) : Prop where
  one_outstanding : s.outstanding.length ≤ 1
  bounded : s.waitingAssets.length ≤ maxQueueSize
  /-- Assets are put in the order in which they were accepted, each at most once, and before those
  that wait. -/
  ordered : (s.puts ++ s.waitingAssets.map Prod.fst).Pairwise (· < ·)
  /-- A service that is connected and idle has put all assets it had accepted. -/
  idle : s.stopped = false → s.connected = true → s.outstanding = [] → s.waitingAssets = []

/-- No asset comes while one is being sent and the queue is exactly as long as it may be. -/
def Room (s : PushReplication) : Event → Prop
  | .queueAsset _ =>
    s.stopped = false → s.sending = true → s.waitingAssets.length ≠ maxQueueSize
  | _ => True

/-! ## What every step keeps -/

/-- Either the last connection is established, or there is none and nothing to be sent. -/
def Linked (s : PushReplication) : Prop :=
  (s.connected = true ∧ s.attempts = [] ∧ ∃ c, s.replSlave = some c ∧ s.established = [c]) ∨
    (s.connected = false ∧ s.established = [] ∧ s.sending = false ∧ s.waitingAssets = [])

/-- The put under way is the only one, and it is made over the last connection. -/
def SendsOne (s : PushReplication) : Prop :=
  (s.sending = false ∧ s.outstanding = []) ∨
    (s.sending = true ∧ ∃ n, s.outstanding = [(s.replSlave, n)])

structure Kept (s : PushReplication) : Prop where
  linked : Linked s
  /-- There is an attempt to connect, or the monitor waits, but not both. -/
  single : s.attempts.length + s.monitors ≤ 1
  last : ∀ c ∈ s.attempts, s.replSlave = some c
  sendsOne : SendsOne s
  ordered : (s.puts ++ s.waitingAssets.map Prod.fst).Pairwise (· < ·)
  accepted : ∀ n ∈ s.puts ++ s.waitingAssets.map Prod.fst, n < s.accepted
  idle : s.stopped = false → s.sending = false → s.waitingAssets = []

variable {s s' : PushReplication} {e : Event}

lemma kept_start : Kept start where
  linked := Or.inr ⟨rfl, rfl, rfl, rfl⟩
  single := Nat.le_refl 1
  last := fun _ h => nomatch h
  sendsOne := Or.inl ⟨rfl, rfl⟩
  ordered := List.Pairwise.nil
  accepted := fun _ h => nomatch h
  idle := fun _ _ => rfl

namespace Kept

/-! ## Connections -/

/-- The monitor waits again. -/
lemma resetConnectionMonitor (h : Kept s) (hfree : s.attempts.length + s.monitors = 0) :
    Kept s.resetConnectionMonitor := by
  rw [PushReplication.resetConnectionMonitor]
  split
  · exact h
  · exact { h with single := by simp only; omega }

/-- A connection is made where there is none. -/
lemma makeConnection (h : Kept s) (hfree : s.attempts.length + s.monitors = 0)
    (hconnected : s.connected = false) : Kept s.makeConnection := by
  have hattempts : s.attempts = [] := List.length_eq_zero_iff.mp (by omega)
  obtain ⟨hup, -⟩ | ⟨-, hestablished, hsending, hwaiting⟩ := h.linked
  · rw [hconnected] at hup
    cases hup
  · obtain ⟨-, houtstanding⟩ | ⟨hsends, -⟩ := h.sendsOne
    · exact
        { h with
          linked := Or.inr ⟨hconnected, hestablished, hsending, hwaiting⟩
          single := by
            simp only [PushReplication.makeConnection, hattempts, List.nil_append,
              List.length_singleton]
            omega
          last := by
            intro c hc
            simp only [PushReplication.makeConnection, hattempts, List.nil_append,
              List.mem_singleton] at hc ⊢
            rw [hc]
          sendsOne := Or.inl ⟨hsending, houtstanding⟩ }
    · rw [hsending] at hsends
      cases hsends

lemma endpointChanged (h : Kept s) (hfree : s.attempts.length + s.monitors = 0) (ep : Endpoint) :
    Kept (s.endpointChanged ep) := by
  have hmoved : Kept { s with replicationSlaveEndpoint := ep } := { h with }
  simp only [PushReplication.endpointChanged]
  split
  case isTrue => exact hmoved.resetConnectionMonitor hfree
  case isFalse hconnected => exact hmoved.makeConnection hfree (Bool.eq_false_iff.mpr hconnected)

lemma onCheckConnection (h : Kept s) (hfree : s.attempts.length + s.monitors = 0)
    (slave : Option Endpoint) : Kept (s.onCheckConnection slave) := by
  unfold PushReplication.onCheckConnection
  split
  case isTrue => exact h
  case isFalse =>
    cases slave with
    | none => exact h.resetConnectionMonitor hfree
    | some ep =>
      dsimp only
      split
      case isTrue => exact h.endpointChanged hfree ep
      case isFalse =>
        split
        case isTrue hconnected => exact h.makeConnection hfree (by simpa using hconnected)
        case isFalse => exact h.resetConnectionMonitor hfree

/-- The result of an attempt; there is no other connection at the time. -/
lemma connectionStatus (h : Kept s) {c : Nat} (hc : c ∈ s.attempts) (success : Bool) :
    Kept ({ s with
      attempts := s.attempts.erase c
      established := if success then s.established ++ [c] else s.established
    }.onServiceConnectionStatus success) := by
  have hsingle := h.single
  have hpos := List.length_pos_of_mem hc
  have hattempts : s.attempts = [c] := by
    obtain ⟨c', hc'⟩ := List.length_eq_one_iff.mp (show s.attempts.length = 1 by omega)
    rw [hc', List.mem_singleton] at hc
    rw [hc', hc]
  obtain ⟨-, hnone, -⟩ | ⟨hconnected, hestablished, hsending, hwaiting⟩ := h.linked
  · rw [hnone] at hc
    cases hc
  · have hreported : Kept { s with
        attempts := s.attempts.erase c
        established := if success then s.established ++ [c] else s.established
        connected := success || s.connected } := by
      have hnone : s.attempts.erase c = [] := by rw [hattempts, List.erase_cons_head]
      refine { h with linked := ?_, single := ?_, last := ?_ }
      · cases success with
        | true => exact Or.inl ⟨rfl, hnone, c, h.last c hc, by simp [hestablished]⟩
        | false => exact Or.inr ⟨hconnected, hestablished, hsending, hwaiting⟩
      · simp only [hnone, List.length_nil]
        omega
      · intro c' hc'
        rw [hnone] at hc'
        cases hc'
    have hfree : (s.attempts.erase c).length + s.monitors = 0 := by
      rw [hattempts, List.erase_cons_head, List.length_nil]
      omega
    cases success with
    | true => exact hreported.resetConnectionMonitor hfree
    | false => exact hreported.resetConnectionMonitor hfree

/-- A connection is lost when its put has been completed. -/
lemma safeKill (h : Kept s) {c : Nat} (hc : c ∈ s.established)
    (houtstanding : ∀ put ∈ s.outstanding, put.1 ≠ some c) :
    Kept ({ s with established := s.established.erase c }.onSafeKillConnection) := by
  obtain ⟨-, hattempts, c', hslave, hestablished⟩ | ⟨-, hnone, -⟩ := h.linked
  · rw [hestablished, List.mem_singleton] at hc
    subst hc
    have hnothing : s.outstanding = [] := by
      obtain ⟨-, hnothing⟩ | ⟨-, n, hput⟩ := h.sendsOne
      · exact hnothing
      · exact absurd hslave (houtstanding _ (by rw [hput]; exact List.mem_cons_self))
    have hsublist : (s.puts ++ ([] : List Nat)).Sublist
        (s.puts ++ s.waitingAssets.map Prod.fst) := (List.nil_sublist _).append_left _
    exact
      { h with
        linked := Or.inr ⟨rfl, by simp [onSafeKillConnection, hestablished], rfl, rfl⟩
        sendsOne := Or.inl ⟨rfl, hnothing⟩
        ordered := h.ordered.sublist hsublist
        accepted := fun n hn => h.accepted n (hsublist.mem hn)
        idle := fun _ _ => rfl }
  · rw [hnone] at hc
    cases hc

/-! ## Assets -/

/-- While an asset is being sent there is a connection. -/
lemma connected_of_sending (h : Kept s) (hsending : s.sending = true) : s.connected = true := by
  obtain ⟨hconnected, -⟩ | ⟨-, -, hidle, -⟩ := h.linked
  · exact hconnected
  · rw [hidle] at hsending
    cases hsending

/-- The next number is above all others. -/
lemma ordered_concat (h : Kept s) :
    (s.puts ++ s.waitingAssets.map Prod.fst ++ [s.accepted]).Pairwise (· < ·) := by
  rw [List.pairwise_append]
  refine ⟨h.ordered, List.pairwise_singleton _ _, fun n hn m hm => ?_⟩
  rw [List.mem_singleton.mp hm]
  exact h.accepted n hn

lemma accepted_concat (h : Kept s) :
    ∀ n ∈ s.puts ++ s.waitingAssets.map Prod.fst ++ [s.accepted], n < s.accepted + 1 := by
  intro n hn
  obtain hn | hn := List.mem_append.mp hn
  · exact Nat.lt_succ_of_lt (h.accepted n hn)
  · rw [List.mem_singleton.mp hn]
    exact Nat.lt_succ_self _

lemma doQueueAssetForPush (h : Kept s) (asset : Bytes) : Kept (s.doQueueAssetForPush asset) := by
  rw [PushReplication.doQueueAssetForPush]
  split
  case isTrue => exact h
  case isFalse hopen =>
    obtain ⟨hconnected, hstopped⟩ : s.connected = true ∧ s.stopped = false := by simpa using hopen
    split
    case isTrue hsending =>
      split
      case isTrue => exact h
      case isFalse =>
        have hmap : s.puts ++ (s.waitingAssets ++ [(s.accepted, asset)]).map Prod.fst =
            s.puts ++ s.waitingAssets.map Prod.fst ++ [s.accepted] := by simp
        refine { h with linked := ?_, ordered := ?_, accepted := ?_, idle := ?_ }
        · obtain hup | ⟨hdown, -⟩ := h.linked
          · exact Or.inl hup
          · rw [hconnected] at hdown
            cases hdown
        · rw [hmap]
          exact h.ordered_concat
        · rw [hmap]
          exact h.accepted_concat
        · intro _ hidle
          rw [hsending] at hidle
          cases hidle
    case isFalse hidle =>
      have hsending : s.sending = false := Bool.eq_false_iff.mpr hidle
      have hwaiting := h.idle hstopped hsending
      have hordered := h.ordered_concat
      have haccepted := h.accepted_concat
      rw [hwaiting, List.map_nil, List.append_nil] at hordered haccepted
      rw [PushReplication.doPutAsset, if_neg (by simp [hstopped])]
      refine { h with linked := ?_, sendsOne := ?_, ordered := ?_, accepted := ?_, idle := ?_ }
      · obtain hup | ⟨hdown, -⟩ := h.linked
        · exact Or.inl hup
        · rw [hconnected] at hdown
          cases hdown
      · obtain ⟨-, hnothing⟩ | ⟨hsends, -⟩ := h.sendsOne
        · exact Or.inr ⟨rfl, s.accepted, by simp [hnothing]⟩
        · exact absurd hsends hidle
      · simpa [hwaiting] using hordered
      · simpa [hwaiting] using haccepted
      · intro _ hbusy
        cases hbusy

/-- When a put is completed, the next asset is put. -/
lemma onAfterAssetPut (h : Kept s) {put : Option Nat × Nat} (hput : put ∈ s.outstanding) :
    Kept ({ s with outstanding := s.outstanding.erase put }.onAfterAssetPut) := by
  obtain ⟨-, hnothing⟩ | ⟨hsending, n, hone⟩ := h.sendsOne
  · rw [hnothing] at hput
    cases hput
  have hconnected := h.connected_of_sending hsending
  have hup : s.attempts = [] ∧ ∃ c, s.replSlave = some c ∧ s.established = [c] := by
    obtain ⟨-, hup⟩ | ⟨hdown, -⟩ := h.linked
    · exact hup
    · rw [hconnected] at hdown
      cases hdown
  have hdone : s.outstanding.erase put = [] := by
    rw [hone, List.mem_singleton] at hput
    rw [hone, hput, List.erase_cons_head]
  simp only [PushReplication.onAfterAssetPut, pushNextWaitingAsset, hdone]
  split
  case isFalse hclosed =>
    have hstopped : s.stopped = true := by simpa [hconnected] using hclosed
    exact
      { h with
        linked := Or.inl ⟨hconnected, hup⟩
        sendsOne := Or.inl ⟨rfl, rfl⟩
        idle := fun hgoes _ => absurd hgoes (by simp [hstopped]) }
  case isTrue hopen =>
    have hstopped : s.stopped = false := by simpa [hconnected] using hopen
    split
    case h_1 hwaiting =>
      exact
        { h with
          linked := Or.inl ⟨hconnected, hup⟩
          sendsOne := Or.inl ⟨rfl, rfl⟩
          idle := fun _ _ => hwaiting }
    case h_2 m asset rest hwaiting =>
      have hmap : s.puts ++ [m] ++ rest.map Prod.fst = s.puts ++ s.waitingAssets.map Prod.fst := by
        rw [hwaiting]
        simp
      rw [PushReplication.doPutAsset, if_neg (by simp [hstopped])]
      refine { h with linked := ?_, sendsOne := ?_, ordered := ?_, accepted := ?_, idle := ?_ }
      · exact Or.inl ⟨hconnected, hup⟩
      · exact Or.inr ⟨rfl, m, rfl⟩
      · rw [hmap]
        exact h.ordered
      · rw [hmap]
        exact h.accepted
      · intro _ hbusy
        cases hbusy

/-- What every step keeps. -/
lemma step (h : Kept s) (hstep : step s e = some s') : Kept s' := by
  cases e with
  | checkConnection slave =>
    obtain ⟨hpos, rfl⟩ := guarded_eq_some.mp hstep
    have hsingle := h.single
    have hwaits : Kept { s with monitors := s.monitors - 1 } :=
      { h with single := by simp only; omega }
    exact hwaits.onCheckConnection (by simp only; omega) slave
  | connectionStatus c success =>
    obtain ⟨hc, rfl⟩ := guarded_eq_some.mp hstep
    exact h.connectionStatus hc success
  | safeKill c =>
    obtain ⟨⟨hc, houtstanding⟩, rfl⟩ := guarded_eq_some.mp hstep
    exact h.safeKill hc houtstanding
  | queueAsset asset =>
    obtain rfl := Option.some.inj hstep
    exact h.doQueueAssetForPush asset
  | afterPut put error =>
    obtain ⟨hput, rfl⟩ := guarded_eq_some.mp hstep
    exact h.onAfterAssetPut hput
  | stop =>
    obtain rfl := Option.some.inj hstep
    exact { h with idle := fun hgoes _ => nomatch hgoes }

end Kept

/-! ## The length of the queue -/

@[simp] lemma waitingAssets_resetConnectionMonitor (s : PushReplication) :
    s.resetConnectionMonitor.waitingAssets = s.waitingAssets := by
  rw [resetConnectionMonitor]
  split <;> rfl

lemma waitingAssets_onCheckConnection (s : PushReplication) (slave : Option Endpoint) :
    (s.onCheckConnection slave).waitingAssets = s.waitingAssets := by
  unfold onCheckConnection endpointChanged makeConnection
  dsimp only
  split
  case isTrue => rfl
  case isFalse =>
    cases slave with
    | none => exact waitingAssets_resetConnectionMonitor s
    | some ep =>
      dsimp only
      split_ifs <;> simp

lemma waitingAssets_doPutAsset (s : PushReplication) (n : Nat) :
    (s.doPutAsset n).waitingAssets = s.waitingAssets := by
  rw [doPutAsset]
  split <;> rfl

lemma length_onAfterAssetPut_le (s : PushReplication) :
    s.onAfterAssetPut.waitingAssets.length ≤ s.waitingAssets.length := by
  simp only [onAfterAssetPut, pushNextWaitingAsset]
  split
  case isFalse => exact Nat.le_refl _
  case isTrue =>
    split
    case h_1 => exact Nat.le_refl _
    case h_2 n asset rest hwaiting =>
      rw [waitingAssets_doPutAsset, hwaiting]
      exact Nat.le_succ _

/-- An asset that is queued makes the queue longer, unless it was longer than it may be. -/
lemma length_doQueueAssetForPush_le (s : PushReplication) (asset : Bytes)
    (hroom : s.stopped = false → s.sending = true → s.waitingAssets.length ≠ maxQueueSize)
    (hbound : s.waitingAssets.length ≤ maxQueueSize) :
    (s.doQueueAssetForPush asset).waitingAssets.length ≤ maxQueueSize := by
  rw [doQueueAssetForPush]
  split
  case isTrue => exact hbound
  case isFalse hopen =>
    obtain ⟨-, hstopped⟩ : s.connected = true ∧ s.stopped = false := by simpa using hopen
    split
    case isTrue hsending =>
      have hne := hroom hstopped hsending
      rw [if_neg (by omega), List.length_append, List.length_singleton]
      omega
    case isFalse =>
      rw [waitingAssets_doPutAsset]
      exact hbound

/-- With room in the queue it does not get too long. -/
lemma bounded_step (hbound : s.waitingAssets.length ≤ maxQueueSize) (hroom : Room s e)
    (hstep : step s e = some s') : s'.waitingAssets.length ≤ maxQueueSize := by
  cases e with
  | checkConnection slave =>
    obtain ⟨-, rfl⟩ := guarded_eq_some.mp hstep
    rw [waitingAssets_onCheckConnection]
    exact hbound
  | connectionStatus c success =>
    obtain ⟨-, rfl⟩ := guarded_eq_some.mp hstep
    rw [onServiceConnectionStatus, waitingAssets_resetConnectionMonitor]
    cases success <;> exact hbound
  | safeKill c =>
    obtain ⟨-, rfl⟩ := guarded_eq_some.mp hstep
    exact Nat.zero_le _
  | queueAsset asset =>
    obtain rfl := Option.some.inj hstep
    exact length_doQueueAssetForPush_le s asset hroom hbound
  | afterPut put error =>
    obtain ⟨-, rfl⟩ := guarded_eq_some.mp hstep
    exact (length_onAfterAssetPut_le _).trans hbound
  | stop =>
    obtain rfl := Option.some.inj hstep
    exact hbound

/-! ## Every run -/

lemma Kept.tidy (h : Kept s) (hbound : s.waitingAssets.length ≤ maxQueueSize) : Tidy s := by
  refine ⟨?_, hbound, h.ordered, ?_⟩
  · obtain ⟨-, hnothing⟩ | ⟨-, n, hone⟩ := h.sendsOne
    · rw [hnothing]
      exact Nat.zero_le _
    · rw [hone]
      exact Nat.le_refl _
  · intro hstopped _ hnothing
    obtain ⟨hsending, -⟩ | ⟨-, n, hone⟩ := h.sendsOne
    · exact h.idle hstopped hsending
    · rw [hone] at hnothing
      cases hnothing

/-- **Push replication**: it is bounded and orderly in every state of every run in which no asset
comes while the queue is exactly as long as it may be. -/
theorem tidy_of_run {es : List Event} (hrun : run step start es = some s)
    (hroom : Meets step Room start es) : Tidy s := by
  have hkept : Kept s := invariant (fun _ _ _ h hstep => h.step hstep) hrun kept_start
  have hbound : s.waitingAssets.length ≤ maxQueueSize :=
    invariant_of_meets (P := fun s => s.waitingAssets.length ≤ maxQueueSize)
      (fun _ _ _ h hroom hstep => bounded_step h hroom hstep) hrun hroom (Nat.zero_le _)
  exact hkept.tidy hbound

/-- A connection is made and three assets are put one after the other; when the connection is lost,
a fourth one is not accepted. -/
def sampleEvents : List Event :=
  [.checkConnection (some ⟨1, 32700⟩), .connectionStatus 0 true, .queueAsset [1], .queueAsset [2],
   .afterPut (some 0, 0) false, .queueAsset [3], .afterPut (some 0, 1) true,
   .afterPut (some 0, 2) true, .safeKill 0, .queueAsset [4], .checkConnection none]

theorem tidy_sampleEvents :
    ∃ s, run step start sampleEvents = some s ∧ s.puts = [0, 1, 2] ∧ Tidy s := by
  have hroom : Meets step Room start sampleEvents := by
    refine Meets.cons rfl trivial (Meets.cons rfl trivial (Meets.cons rfl ?_ (Meets.cons rfl ?_
      (Meets.cons rfl trivial (Meets.cons rfl ?_ (Meets.cons rfl trivial (Meets.cons rfl trivial
        (Meets.cons rfl trivial (Meets.cons rfl ?_ (Meets.cons rfl trivial trivial))))))))))
    all_goals
      intro _ _
      decide
  exact ⟨_, rfl, rfl, tidy_of_run (show run step start sampleEvents = some _ from rfl) hroom⟩

/-- While an asset is being sent, others are accepted until there is one more than there may be. -/
lemma run_queueAsset (asset : Bytes) {n : Nat} (hconnected : s.connected = true)
    (hstopped : s.stopped = false) (hsending : s.sending = true)
    (hn : s.waitingAssets.length + n ≤ maxQueueSize + 1) :
    ∃ s', run step s (List.replicate n (.queueAsset asset)) = some s' ∧
      s'.waitingAssets.length = s.waitingAssets.length + n := by
  induction n generalizing s with
  | zero => exact ⟨s, rfl, rfl⟩
  | succ n ih =>
    let t := { s with
      waitingAssets := s.waitingAssets ++ [(s.accepted, asset)], accepted := s.accepted + 1 }
    have hlength : t.waitingAssets.length = s.waitingAssets.length + 1 := List.length_append
    have hqueue : s.doQueueAssetForPush asset = t := by
      rw [doQueueAssetForPush, if_neg (by simp [hconnected, hstopped]), if_pos hsending,
        if_neg (by omega)]
    obtain ⟨s', hrun, hs'⟩ := ih (s := t) hconnected hstopped hsending (by omega)
    refine ⟨s', run_cons_eq_some.mpr ⟨t, congrArg some hqueue, hrun⟩, ?_⟩
    omega

/-- A connection is made and an asset is put; while it is being sent, 251 others are queued. -/
def manyEvents : List Event :=
  [.checkConnection (some ⟨1, 32700⟩), .connectionStatus 0 true, .queueAsset []] ++
    List.replicate 251 (.queueAsset [])

theorem not_tidy_manyEvents :
    ∃ s, run step start manyEvents = some s ∧ s.waitingAssets.length = 251 ∧ ¬ Tidy s := by
  obtain ⟨t, ht, hconnected, hstopped, hsending, hwaiting⟩ : ∃ t,
      run step start [.checkConnection (some ⟨1, 32700⟩), .connectionStatus 0 true,
        .queueAsset []] = some t ∧ t.connected = true ∧ t.stopped = false ∧ t.sending = true ∧
        t.waitingAssets.length = 0 := ⟨_, rfl, rfl, rfl, rfl, rfl⟩
  obtain ⟨s, hrun, hs⟩ := run_queueAsset (n := 251) [] hconnected hstopped hsending
    (by rw [hwaiting]; decide)
  rw [hwaiting, Nat.zero_add] at hs
  refine ⟨s, ?_, hs, fun h => ?_⟩
  · rw [manyEvents, run_append, ht, Option.bind_some, hrun]
  · have hbounded := h.bounded
    rw [hs] at hbounded
    exact absurd hbounded (by decide)

end PushReplication

end Halcyon.Whip
