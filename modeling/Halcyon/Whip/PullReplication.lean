import Halcyon.Lib.History
import Halcyon.Whip.Transfer
import Mathlib.Data.List.Perm.Basic

/-!
# Pull replication

`PullReplicationService` copies what another server, its master, has and this server has not.  In a
round it goes through the prefixes of asset ids from a configured one to `fff`: it asks the master
for the ids with the prefix, puts those that are missing here in a queue, fetches them in batches
and stores what it gets, and goes on to the next prefix when the queue is empty.  After a round it
waits for the next.

Everything happens in handlers on one thread, and each of them starts at most one new request of
the kind it is waiting for; no loop holds the round together.  The handlers that can still run are
part of the state: attempts to connect, timers, the calls that the master has not answered, the
assets that the storage has not stored, and the posted results of the storage.  A timer that is set
again cancels the wait before it, and the handler of that runs all the same.  `close` of the
`RemoteAssetService` leads to error replies and to the call of `onServerConnectionFailed`, which
are events like all others.

The clock, and what the existence index answers, are part of the events.  Other threads change the
index while a handler runs, so it has one answer for an id when the id is read from a list, and one
when its turn to be fetched comes.
-/

namespace Halcyon.Whip

open Lib.Transition Lib.History

/-- `ReplicateStep`. -/
inductive ReplicateStep
  | none
  | idList
  | retrieve
  | wait
  | noMaster
  deriving DecidableEq

/-- What is recorded of a round. -/
inductive RoundEntry
  /-- A call of the `RemoteAssetService`. -/
  | call (c : Call)
  /-- The ids of a list, and for each whether it was in the index. -/
  | listed (ids : List (Bytes × Bool))
  /-- A batch begins. -/
  | batch
  /-- It is an id's turn, which is in the index or not. -/
  | turn (id : Bytes) (held : Bool)
  /-- The reply to the fetch of an id. -/
  | retrieved (id : Bytes) (reply : Reply)
  /-- An asset is handed to the storage. -/
  | store (id : Bytes) (asset : Option Bytes)
  /-- The result of the storage has arrived. -/
  | stored (id : Bytes) (success : Bool)
  deriving DecidableEq

/-- A round: the prefix it started at, and what happened. -/
structure Round where
  startAt : Nat
  log : List RoundEntry
  deriving DecidableEq

/-- What a handler finds around it. -/
structure Moment where
  /-- The time for the next round has come. -/
  due : Bool
  /-- `assetExists` for the ids of a list. -/
  atListing : Bytes → Bool
  /-- `assetExists` for an id whose turn it is. -/
  atTurn : Bytes → Bool

/-- `PullReplicationService`. -/
structure PullReplicationService (Endpoint : Type) where
  replicationMasterEndpoint : Endpoint
  stop : Bool
  /-- There is a `RemoteAssetService`. -/
  assetSvc : Bool
  connected : Bool
  currentStep : ReplicateStep
  currentAssetPrefix : Nat
  pendingAssets : List Bytes
  inProgressAssets : List Bytes
  batchSize : Nat
  /-- `replicationMaster` of the settings; `none` is the empty string. -/
  replicationMaster : Option Endpoint
  /-- `pull_replication_start_at` of the settings. -/
  pullReplicationStartAt : Nat
  /-- The thread of the service is running. -/
  serviceThread : Bool
  /-- Attempts to connect that are under way. -/
  connecting : Nat
  /-- Handlers that wait for `_reconnectTimer`. -/
  reconnectTimer : Nat
  /-- Handlers that wait for `_replRestartTimer`. -/
  replRestartTimer : Nat
  /-- Calls without a reply. -/
  calls : List Call
  /-- Assets that the storage is working on. -/
  storing : List Bytes
  /-- The posted calls of `onAfterAssetStored`. -/
  posted : List (Bytes × Bool)
  /-- The prefix that the round started at. -/
  startAt : Nat
  /-- What has happened in the round. -/
  log : List RoundEntry
  /-- The rounds that were completed. -/
  finished : List Round

/-- `UUID_PATH_CHARS`. -/
def uuidPathChars : Nat := 3

/-- `getStringPrefixForIndex`. -/
def getStringPrefixForIndex (currentAssetPrefix : Nat) : Bytes :=
  ((Nat.toDigits 16 currentAssetPrefix).leftpad uuidPathChars '0').map Char.toUInt8

/-! ## Prefixes -/

/-- The character of a hexadecimal digit. -/
def hexDigit (n : Nat) : UInt8 := (Nat.digitChar n).toUInt8

lemma hexDigit_inj {m n : Nat} (hm : m < 16) (hn : n < 16) (h : hexDigit m = hexDigit n) :
    m = n := by
  have hall : ∀ a b : Fin 16, hexDigit a = hexDigit b → a = b := by decide
  exact congrArg Fin.val (hall ⟨m, hm⟩ ⟨n, hn⟩ h)

/-- A prefix has three characters. -/
lemma getStringPrefixForIndex_eq {a b c : Nat} (ha : a < 16) (hb : b < 16) (hc : c < 16) :
    getStringPrefixForIndex (16 * (16 * a + b) + c) = [hexDigit a, hexDigit b, hexDigit c] := by
  have hdigits : ∀ m d, 0 < m → d < 16 → Nat.toDigits 16 (16 * m + d) =
      Nat.toDigits 16 m ++ [Nat.digitChar d] := fun m d hm hd => by
    rw [← Nat.toDigits_append_toDigits (by decide) hm hd, Nat.toDigits_of_lt_base hd]
  have htext : ∀ l, Nat.toDigits 16 (16 * (16 * a + b) + c) = l →
      getStringPrefixForIndex (16 * (16 * a + b) + c) =
        (List.replicate (3 - l.length) '0' ++ l).map Char.toUInt8 := fun l hl => by
    rw [getStringPrefixForIndex, hl, List.leftpad, uuidPathChars]
  rcases Nat.eq_zero_or_pos a with rfl | hapos
  · rcases Nat.eq_zero_or_pos b with rfl | hbpos
    · rw [htext [c.digitChar] (by
        rw [Nat.mul_zero, Nat.zero_add, Nat.toDigits_of_lt_base hc])]
      rfl
    · rw [htext [b.digitChar, c.digitChar] (by
        rw [Nat.mul_zero, Nat.zero_add, hdigits _ _ hbpos hc, Nat.toDigits_of_lt_base hb]
        rfl)]
      rfl
  · rw [htext [a.digitChar, b.digitChar, c.digitChar] (by
      rw [hdigits _ _ (by omega) hc, hdigits _ _ hapos hb, Nat.toDigits_of_lt_base ha]
      rfl)]
    rfl

lemma getStringPrefixForIndex_inj {m n : Nat} (hm : m ≤ 0xfff) (hn : n ≤ 0xfff)
    (h : getStringPrefixForIndex m = getStringPrefixForIndex n) : m = n := by
  have hdigits : ∀ k ≤ 0xfff, getStringPrefixForIndex k =
      [hexDigit (k / 256), hexDigit (k / 16 % 16), hexDigit (k % 16)] := fun k hk => by
    rw [← getStringPrefixForIndex_eq (by omega) (by omega) (by omega)]
    exact congrArg _ (by omega)
  rw [hdigits m hm, hdigits n hn] at h
  simp only [List.cons.injEq, and_true] at h
  obtain ⟨h2, h1, h0⟩ := h
  have := hexDigit_inj (by omega) (by omega) h2
  have := hexDigit_inj (by omega) (by omega) h1
  have := hexDigit_inj (by omega) (by omega) h0
  omega

/-- The ids in the answer to a list request: what stands between the commas. -/
def idsOfList (ids : Bytes) : List Bytes :=
  (ids.splitOn 44).filter fun id => id ≠ []

namespace PullReplicationService

variable {Endpoint : Type}

/-- The constructor, with the master of the settings. -/
def create (master : Endpoint) (batchSize startAt : Nat) : PullReplicationService Endpoint where
  replicationMasterEndpoint := master
  stop := false
  assetSvc := false
  connected := false
  currentStep := .none
  currentAssetPrefix := 0
  pendingAssets := []
  inProgressAssets := []
  batchSize := batchSize
  replicationMaster := some master
  pullReplicationStartAt := startAt
  serviceThread := false
  connecting := 0
  reconnectTimer := 0
  replRestartTimer := 0
  calls := []
  storing := []
  posted := []
  startAt := startAt
  log := []
  finished := []

/-! ## Requests -/

def record (e : RoundEntry) (s : PullReplicationService Endpoint) :
    PullReplicationService Endpoint :=
  { s with log := s.log ++ [e] }

/-- A call of the `RemoteAssetService`. -/
def request (c : Call) (s : PullReplicationService Endpoint) : PullReplicationService Endpoint :=
  { s with calls := s.calls ++ [c] }.record (.call c)

/-- `retrieveIdListForPrefix`. -/
def retrieveIdListForPrefix (s : PullReplicationService Endpoint) :
    PullReplicationService Endpoint :=
  s.request (.getStoredAssetIDsWithPrefix (getStringPrefixForIndex s.currentAssetPrefix))

/-- `setReplicationRestartTimer`. -/
def setReplicationRestartTimer (s : PullReplicationService Endpoint) :
    PullReplicationService Endpoint :=
  { s with replRestartTimer := s.replRestartTimer + 1 }

/-- The loop of `retrieveNextMissingAssetBatch`, with the queue and `requestsSent`. -/
def requestMissing (now : Moment) :
    List Bytes → Nat → PullReplicationService Endpoint → PullReplicationService Endpoint × Nat
  | [], sent, s => (s, sent)
  | nextAsset :: pending, sent, s =>
    let s := { s with pendingAssets := pending }.record (.turn nextAsset (now.atTurn nextAsset))
    if now.atTurn nextAsset then s.requestMissing now pending sent
    else
      let s := { s with inProgressAssets := s.inProgressAssets.insert nextAsset }
      let s := s.request (.getAsset nextAsset false)
      if sent + 1 = s.batchSize then (s, sent + 1) else s.requestMissing now pending (sent + 1)

/-! ## Steps of the replication

The functions below call each other.  `again` stands for the inner call of `runStep`. -/

section Again

variable (again : PullReplicationService Endpoint → Option (PullReplicationService Endpoint))

/-- `retrieveNextIdList`. -/
def retrieveNextIdList (s : PullReplicationService Endpoint) :
    Option (PullReplicationService Endpoint) :=
  let s := { s with currentStep := .idList, currentAssetPrefix := s.currentAssetPrefix + 1 }
  if s.currentAssetPrefix ≤ 0xfff then again s
  else
    some { s with
      currentAssetPrefix := 0
      currentStep := .wait
      log := []
      finished := s.finished ++ [Round.mk s.startAt s.log] }.setReplicationRestartTimer

/-- `retrieveNextMissingAssetBatch`. -/
def retrieveNextMissingAssetBatch (now : Moment) (s : PullReplicationService Endpoint) :
    Option (PullReplicationService Endpoint) :=
  if s.pendingAssets = [] then s.retrieveNextIdList again
  else
    let (s', requestsSent) := (s.record .batch).requestMissing now s.pendingAssets 0
    if requestsSent = 0 then s'.retrieveNextIdList again else some s'

/-- `checkResumeNextReplRound`. -/
def checkResumeNextReplRound (now : Moment) (s : PullReplicationService Endpoint) :
    Option (PullReplicationService Endpoint) :=
  if now.due then again { s with currentStep := .none } else some s.setReplicationRestartTimer

/-- `replicateStep`. -/
def replicateStep (now : Moment) (s : PullReplicationService Endpoint) :
    Option (PullReplicationService Endpoint) :=
  match s.currentStep with
  | .none =>
    some { s with
      currentAssetPrefix := s.pullReplicationStartAt
      startAt := s.pullReplicationStartAt
      log := [] }.retrieveIdListForPrefix
  | .idList => some s.retrieveIdListForPrefix
  | .retrieve => s.retrieveNextMissingAssetBatch again now
  | .wait => s.checkResumeNextReplRound again now
  | .noMaster => some s.setReplicationRestartTimer

end Again

/-- The end of `verifyConnection`, behind the look at the settings. -/
def ensureConnection (s : PullReplicationService Endpoint) :
    PullReplicationService Endpoint × Bool :=
  let s := { s with assetSvc := true }
  if s.connected then (s, true) else ({ s with connecting := s.connecting + 1 }, false)

lemma ensureConnection_currentStep {s s' : PullReplicationService Endpoint} {b : Bool}
    (h : s.ensureConnection = (s', b)) : s'.currentStep = s.currentStep := by
  unfold ensureConnection at h
  dsimp only at h
  split at h <;> cases h <;> rfl

variable [DecidableEq Endpoint]

/-- `verifyConnection`; `none` is the use of a `RemoteAssetService` that is not there. -/
def verifyConnection (s : PullReplicationService Endpoint) :
    Option (PullReplicationService Endpoint × Bool) :=
  if s.stop then some (s, false)
  else if s.currentStep = .none ∨ s.currentStep = .wait ∨ s.currentStep = .noMaster then
    match s.replicationMaster with
    | some ep =>
      if ep ≠ s.replicationMasterEndpoint then
        let s := { s with currentStep := .none, replicationMasterEndpoint := ep }
        -- The connection to the old master is closed first.
        if s.assetSvc && s.connected then some (s, false) else some s.ensureConnection
      else some s.ensureConnection
    | none =>
      if s.currentStep ≠ .noMaster then
        if s.assetSvc then some ({ s with currentStep := .noMaster }, true) else none
      else some (s, true)
  else some s.ensureConnection

/-- `runStep`, with a bound on the calls inside one another. -/
def runStepWithin (now : Moment) :
    Nat → PullReplicationService Endpoint → Option (PullReplicationService Endpoint)
  | 0, _ => none
  | n + 1, s =>
    if s.stop then some s
    else
      match s.verifyConnection with
      | none => none
      | some (s, false) => some s
      | some (s, true) => s.replicateStep (runStepWithin now n) now

/-- `runStep`: a step that is not a list request leads to one at most. -/
def runStep (now : Moment) (s : PullReplicationService Endpoint) :
    Option (PullReplicationService Endpoint) :=
  s.runStepWithin now 2

section Bound

variable {s s' : PullReplicationService Endpoint} {now : Moment}

lemma verifyConnection_currentStep {b : Bool} (h : s.verifyConnection = some (s', b)) :
    s'.currentStep = s.currentStep ∨ s'.currentStep = .none ∨ s'.currentStep = .noMaster := by
  unfold verifyConnection at h
  split at h
  · cases h
    exact .inl rfl
  split at h
  · split at h
    · split at h
      · dsimp only at h
        split at h
        · cases h
          exact .inr (.inl rfl)
        · exact .inr (.inl (ensureConnection_currentStep (Option.some.inj h)))
      · exact .inl (ensureConnection_currentStep (Option.some.inj h))
    · split at h
      · split at h
        · cases h
          exact .inr (.inr rfl)
        · cases h
      · cases h
        exact .inl rfl
  · exact .inl (ensureConnection_currentStep (Option.some.inj h))

/-- A step that requests a list needs no other step. -/
lemma runStepWithin_of_list (hstep : s.currentStep = .none ∨ s.currentStep = .idList) (n : Nat) :
    s.runStepWithin now (n + 1) = s.runStepWithin now 1 := by
  simp only [runStepWithin]
  split
  · rfl
  · split
    · rfl
    · rfl
    · next t ht =>
      have ht' : t.currentStep = .none ∨ t.currentStep = .idList ∨ t.currentStep = .noMaster := by
        rcases verifyConnection_currentStep ht with h | h | h <;> rcases hstep with hs | hs <;>
          simp_all
      rcases ht' with h | h | h <;> simp only [replicateStep, h]

/-- The bound is never reached. -/
lemma runStepWithin_eq_runStep (n : Nat) : s.runStepWithin now (n + 2) = s.runStep now := by
  have hnext : ∀ t : PullReplicationService Endpoint,
      t.retrieveNextIdList (runStepWithin now (n + 1)) =
        t.retrieveNextIdList (runStepWithin now 1) := fun t => by
    simp only [retrieveNextIdList]
    rw [runStepWithin_of_list (.inr rfl)]
  have hresume : ∀ t : PullReplicationService Endpoint,
      t.checkResumeNextReplRound (runStepWithin now (n + 1)) now =
        t.checkResumeNextReplRound (runStepWithin now 1) now := fun t => by
    simp only [checkResumeNextReplRound]
    rw [runStepWithin_of_list (.inl rfl)]
  have hstep : ∀ t : PullReplicationService Endpoint,
      t.replicateStep (runStepWithin now (n + 1)) now =
        t.replicateStep (runStepWithin now 1) now := fun t => by
    simp only [replicateStep, retrieveNextMissingAssetBatch, hnext, hresume]
  rw [runStep, runStepWithin, runStepWithin]
  simp only [hstep]

end Bound

/-! ## Handlers -/

/-- `onServiceConnectionStatus`. -/
def onServiceConnectionStatus (now : Moment) (success : Bool)
    (s : PullReplicationService Endpoint) : Option (PullReplicationService Endpoint) :=
  if success then { s with connected := true }.runStep now
  else some { s with reconnectTimer := s.reconnectTimer + 1 }

/-- `onGetStoredAssetIds`. -/
def onGetStoredAssetIds (now : Moment) (reply : Reply) (s : PullReplicationService Endpoint) :
    Option (PullReplicationService Endpoint) :=
  if ¬ s.connected then some s
  else if reply.isError then if reply.isFatal then some s else s.runStep now
  else
    let ids := idsOfList reply.text
    let s := s.record (.listed (ids.map fun id => (id, now.atListing id)))
    if reply.text = [] then s.retrieveNextIdList (runStep now)
    else
      let s := { s with pendingAssets := ids.filter fun id => ¬ now.atListing id }
      if s.pendingAssets = [] then s.retrieveNextIdList (runStep now)
      else { s with currentStep := .retrieve }.runStep now

/-- `onAssetRetrieved`. -/
def onAssetRetrieved (now : Moment) (reply : Reply) (assetId : Bytes)
    (s : PullReplicationService Endpoint) : Option (PullReplicationService Endpoint) :=
  if ¬ s.connected then some s
  else
    let s := s.record (.retrieved assetId reply)
    if reply.isError then
      let s := { s with inProgressAssets := s.inProgressAssets.erase assetId }
      if ¬ reply.isFatal ∧ s.inProgressAssets = [] then s.runStep now else some s
    else some ({ s with storing := s.storing ++ [assetId] }.record (.store assetId reply.asset))

/-- `onAfterAssetStored`. -/
def onAfterAssetStored (now : Moment) (success : Bool) (assetId : Bytes)
    (s : PullReplicationService Endpoint) : Option (PullReplicationService Endpoint) :=
  let s := s.record (.stored assetId success)
  let s := { s with inProgressAssets := s.inProgressAssets.erase assetId }
  if s.inProgressAssets = [] then s.runStep now else some s

/-- `onServerConnectionFailed`. -/
def onServerConnectionFailed (now : Moment) (s : PullReplicationService Endpoint) :
    Option (PullReplicationService Endpoint) :=
  if s.connected then
    let s := { s with connected := false, assetSvc := false }
    if s.inProgressAssets = [] ∧ s.currentStep ≠ .noMaster ∧ s.currentStep ≠ .wait then
      s.runStep now
    else if s.currentStep = .noMaster then some s.setReplicationRestartTimer
    else some s
  else some s

/-- What can happen to the service. -/
inductive Handler (Endpoint : Type)
  /-- The settings are read again. -/
  | reload (master : Option Endpoint) (startAt : Nat)
  /-- The thread of the service starts. -/
  | run
  | onServiceConnectionStatus (success : Bool)
  | onReconnectTimer
  | onReplRestartTimer
  /-- The reply to a call. -/
  | reply (c : Call) (reply : Reply)
  /-- The storage has stored an asset, or could not: `onAfterAssetStoredStub`. -/
  | onAfterAssetStoredStub (assetId : Bytes) (success : Bool)
  | onAfterAssetStored (assetId : Bytes) (success : Bool)
  | onServerConnectionFailed
  | doStop
  deriving DecidableEq

/-- A handler runs. -/
def step (s : PullReplicationService Endpoint) (e : Handler Endpoint × Moment) :
    Option (PullReplicationService Endpoint) :=
  match e.1 with
  | .reload master startAt =>
    some { s with replicationMaster := master, pullReplicationStartAt := startAt }
  | .run => if s.serviceThread then none else { s with serviceThread := true }.runStep e.2
  | .onServiceConnectionStatus success =>
    if s.connecting = 0 then none
    else { s with connecting := s.connecting - 1 }.onServiceConnectionStatus e.2 success
  | .onReconnectTimer =>
    if s.reconnectTimer = 0 then none
    else { s with reconnectTimer := s.reconnectTimer - 1 }.verifyConnection.map Prod.fst
  | .onReplRestartTimer =>
    if s.replRestartTimer = 0 then none
    else { s with replRestartTimer := s.replRestartTimer - 1 }.runStep e.2
  | .reply c reply =>
    if c ∈ s.calls then
      let s := { s with calls := s.calls.erase c }
      match c with
      | .getStoredAssetIDsWithPrefix _ => s.onGetStoredAssetIds e.2 reply
      | .getAsset assetId _ => s.onAssetRetrieved e.2 reply assetId
      | .putAsset _ => none
    else none
  | .onAfterAssetStoredStub assetId success =>
    if assetId ∈ s.storing then
      some { s with
        storing := s.storing.erase assetId
        posted := s.posted ++ [(assetId, success)] }
    else none
  | .onAfterAssetStored assetId success =>
    if (assetId, success) ∈ s.posted then
      { s with posted := s.posted.erase (assetId, success) }.onAfterAssetStored e.2 success assetId
    else none
  | .onServerConnectionFailed =>
    if s.assetSvc then s.onServerConnectionFailed e.2 else none
  | .doStop => if s.assetSvc then some { s with stop := true } else none

end PullReplicationService

end Halcyon.Whip
