import Halcyon.Whip.PullReplication
import Mathlib.Data.List.Nodup

/-!
# Pull replication is complete

While the master stays the same, the connection holds and every list request is answered by a
list, there is at any time one thing that the service waits for: the connection, a list, a batch of
assets, or the time of the next round.  `Orderly` says what the record of a round looks like up to
some point: the prefixes that were requested, the ids that have had their turn, those that still
wait for it and those that are under way.  Each handler extends the record in one of a few ways, and
each of these keeps it orderly.
-/

namespace Halcyon.Whip

open Lib.Transition Lib.History
open scoped List

/-! ## What a record says -/

namespace RoundEntry

/-- The prefix of a list request. -/
def listRequest : RoundEntry → Option Bytes
  | .call (.getStoredAssetIDsWithPrefix pfx) => some pfx
  | _ => none

/-- The id of a fetch. -/
def fetch : RoundEntry → Option Bytes
  | .call (.getAsset id _) => some id
  | _ => none

/-- The ids of a list that were missing. -/
def missing : RoundEntry → List Bytes
  | .listed ids => (ids.filter fun id => ¬ id.2).map Prod.fst
  | _ => []

/-- The id whose turn it is, and whether it is in the index. -/
def turnOf : RoundEntry → Option (Bytes × Bool)
  | .turn id held => some (id, held)
  | _ => none

/-- An asset from the master, with the id that was asked for. -/
def received : RoundEntry → Option (Bytes × Option Bytes)
  | .retrieved id reply => if reply.isError then none else some (id, reply.asset)
  | _ => none

/-- An asset handed to the storage. -/
def handed : RoundEntry → Option (Bytes × Option Bytes)
  | .store id asset => some (id, asset)
  | _ => none

/-- The id that is done: the fetch has failed, or the storage has returned. -/
def done : RoundEntry → Option Bytes
  | .retrieved id reply => if reply.isError then some id else none
  | .stored id _ => some id
  | _ => none

end RoundEntry

open RoundEntry

/-- A batch has begun and sent fewer requests than it may, and nothing else happened since. -/
def InBatch (batchSize : Nat) (log : List RoundEntry) : Prop :=
  ∃ before since, log = before ++ .batch :: since ∧
    (∀ e ∈ since, e.turnOf ≠ none ∨ e.fetch ≠ none) ∧
    (batchSize ≠ 0 → (since.filterMap fetch).length < batchSize)

/-- When entries may be made: a list request and the beginning of a batch when everything that was
fetched is done, a fetch inside a batch. -/
def Timely (batchSize : Nat) (log : List RoundEntry) : RoundEntry → Prop
  | .call (.getStoredAssetIDsWithPrefix _) | .batch =>
    (log.filterMap done).Perm (log.filterMap fetch)
  | .call (.getAsset _ _) => InBatch batchSize log
  | _ => True

/-- The record of a round from `startAt` on, when the prefixes before `next` have been requested:
each of them once and in order; the ids that were missing when they were listed have had their
turn once each and in order, except those in `pending`; those that were still missing then, and no
others, have been fetched, once each; every asset that came was handed to the storage, once; and
all that was fetched is done, except what is in progress. -/
structure Orderly (batchSize startAt next : Nat) (pending inProgress : List Bytes)
    (log : List RoundEntry) : Prop where
  requested : log.filterMap listRequest =
    (List.range' startAt (next - startAt)).map getStringPrefixForIndex
  turns : (log.filterMap turnOf).map Prod.fst ++ pending = log.flatMap missing
  fetched : log.filterMap fetch = ((log.filterMap turnOf).filter fun t => ¬ t.2).map Prod.fst
  stored : log.filterMap handed = log.filterMap received
  progress : (log.filterMap done ++ inProgress).Perm (log.filterMap fetch)
  timely : AtEach (Timely batchSize) log

/-- The record of a whole round, up to the prefix `fff`. -/
structure Round.Complete (batchSize : Nat) (r : Round) : Prop where
  startAt : r.startAt ≤ 0xfff
  orderly : Orderly batchSize r.startAt 0x1000 [] [] r.log
  distinct : (r.log.filterMap listRequest).Nodup

namespace Orderly

variable {batchSize startAt next : Nat} {pending inProgress : List Bytes} {log : List RoundEntry}

lemma start (batchSize startAt : Nat) : Orderly batchSize startAt startAt [] [] [] where
  requested := by simp
  turns := rfl
  fetched := rfl
  stored := rfl
  progress := .rfl
  timely := atEach_nil

/-- No prefix is requested twice. -/
lemma distinct (h : Orderly batchSize startAt next pending inProgress log)
    (hnext : next ≤ 0x1000) : (log.filterMap RoundEntry.listRequest).Nodup := by
  rw [h.requested]
  refine List.Nodup.map_on ?_ List.nodup_range'
  intro m hm n hn
  rw [List.mem_range'_1] at hm hn
  exact getStringPrefixForIndex_inj (by omega) (by omega)

lemma done_perm (h : Orderly batchSize startAt next pending [] log) :
    (log.filterMap done).Perm (log.filterMap fetch) := by
  simpa using h.progress

/-- The next prefix is requested. -/
lemma listRequest (h : Orderly batchSize startAt next [] [] log) (hnext : startAt ≤ next) :
    Orderly batchSize startAt (next + 1) [] []
      (log ++ [.call (.getStoredAssetIDsWithPrefix (getStringPrefixForIndex next))]) where
  requested := by
    rw [List.filterMap_append, h.requested, Nat.succ_sub hnext, List.range'_concat,
      List.map_append]
    simp [RoundEntry.listRequest, Nat.add_sub_cancel' hnext]
  turns := by simpa [List.filterMap_cons, turnOf, missing] using h.turns
  fetched := by simpa [List.filterMap_cons, fetch, turnOf] using h.fetched
  stored := by simpa [List.filterMap_cons, handed, received] using h.stored
  progress := by simpa [List.filterMap_cons, done, fetch] using h.progress
  timely := atEach_concat.mpr ⟨h.timely, h.done_perm⟩

/-- A list arrives. -/
lemma listed (h : Orderly batchSize startAt next [] [] log) (ids : List Bytes)
    (held : Bytes → Bool) :
    Orderly batchSize startAt next (ids.filter fun id => ¬ held id) []
      (log ++ [.listed (ids.map fun id => (id, held id))]) where
  requested := by simpa [List.filterMap_cons, RoundEntry.listRequest] using h.requested
  turns := by
    have hturns := h.turns
    rw [List.append_nil] at hturns
    simp [List.filterMap_cons, turnOf, missing, hturns, List.filter_map, Function.comp_def]
  fetched := by simpa [List.filterMap_cons, fetch, turnOf] using h.fetched
  stored := by simpa [List.filterMap_cons, handed, received] using h.stored
  progress := by simpa [List.filterMap_cons, done, fetch] using h.progress
  timely := atEach_concat.mpr ⟨h.timely, trivial⟩

/-- A fetch has failed. -/
lemma failed (h : Orderly batchSize startAt next pending inProgress log) {id : Bytes}
    {reply : Reply} (hreply : reply.isError = true) (hid : id ∈ inProgress) :
    Orderly batchSize startAt next pending (inProgress.erase id)
      (log ++ [.retrieved id reply]) where
  requested := by simpa [List.filterMap_cons, RoundEntry.listRequest] using h.requested
  turns := by simpa [List.filterMap_cons, turnOf, missing] using h.turns
  fetched := by simpa [List.filterMap_cons, fetch, turnOf] using h.fetched
  stored := by simpa [List.filterMap_cons, handed, received, hreply] using h.stored
  progress := by
    have hperm := h.progress
    simp only [List.filterMap_append, List.filterMap_cons, done, fetch, hreply, if_true,
      List.filterMap_nil, List.append_assoc, List.append_nil, List.singleton_append]
    exact ((List.perm_cons_erase hid).symm.append_left _).trans hperm
  timely := atEach_concat.mpr ⟨h.timely, trivial⟩

/-- An asset is handed to the storage. -/
lemma handed (h : Orderly batchSize startAt next pending inProgress log) {id : Bytes}
    {reply : Reply} (hreply : reply.isError = false) :
    Orderly batchSize startAt next pending inProgress
      (log ++ [.retrieved id reply] ++ [.store id reply.asset]) where
  requested := by simpa [List.filterMap_cons, RoundEntry.listRequest] using h.requested
  turns := by simpa [List.filterMap_cons, turnOf, missing] using h.turns
  fetched := by simpa [List.filterMap_cons, fetch, turnOf] using h.fetched
  stored := by simpa [List.filterMap_cons, RoundEntry.handed, received, hreply] using h.stored
  progress := by simpa [List.filterMap_cons, done, fetch, hreply] using h.progress
  timely := atEach_concat.mpr ⟨atEach_concat.mpr ⟨h.timely, trivial⟩, trivial⟩

/-- The storage has returned. -/
lemma returned (h : Orderly batchSize startAt next pending inProgress log) {id : Bytes}
    (success : Bool) (hid : id ∈ inProgress) :
    Orderly batchSize startAt next pending (inProgress.erase id)
      (log ++ [.stored id success]) where
  requested := by simpa [List.filterMap_cons, RoundEntry.listRequest] using h.requested
  turns := by simpa [List.filterMap_cons, turnOf, missing] using h.turns
  fetched := by simpa [List.filterMap_cons, fetch, turnOf] using h.fetched
  stored := by simpa [List.filterMap_cons, RoundEntry.handed, received] using h.stored
  progress := by
    simp only [List.filterMap_append, List.filterMap_cons, done, fetch, List.filterMap_nil,
      List.append_assoc, List.append_nil, List.singleton_append]
    exact ((List.perm_cons_erase hid).symm.append_left _).trans h.progress
  timely := atEach_concat.mpr ⟨h.timely, trivial⟩

end Orderly

/-! ## Batches -/

/-- What is recorded of a batch behind its beginning. -/
def batchEntries (held : Bytes → Bool) (ids : List Bytes) : List RoundEntry :=
  ids.flatMap fun id =>
    if held id then [.turn id true] else [.turn id false, .call (.getAsset id false)]

section Batch

variable {held : Bytes → Bool} {ids : List Bytes}

lemma batchEntries_cons (id : Bytes) : batchEntries held (id :: ids) =
    (if held id then [.turn id true] else [.turn id false, .call (.getAsset id false)]) ++
      batchEntries held ids :=
  rfl

lemma filterMap_turnOf_batchEntries :
    (batchEntries held ids).filterMap turnOf = ids.map fun id => (id, held id) := by
  induction ids with
  | nil => rfl
  | cons id ids ih =>
    rw [batchEntries_cons, List.filterMap_append, ih]
    cases hid : held id <;> simp [turnOf, hid]

lemma filterMap_fetch_batchEntries :
    (batchEntries held ids).filterMap fetch = ids.filter fun id => ¬ held id := by
  induction ids with
  | nil => rfl
  | cons id ids ih =>
    rw [batchEntries_cons, List.filterMap_append, ih]
    cases hid : held id <;> simp [List.filterMap_cons, fetch, hid]

lemma mem_batchEntries {e : RoundEntry} (he : e ∈ batchEntries held ids) :
    (∃ id held, e = .turn id held) ∨ ∃ id, e = .call (.getAsset id false) := by
  obtain ⟨id, -, he⟩ := List.mem_flatMap.mp he
  split at he
  · exact .inl ⟨id, true, List.mem_singleton.mp he⟩
  · rcases List.mem_pair.mp he with he | he
    · exact .inl ⟨id, false, he⟩
    · exact .inr ⟨id, he⟩

/-- What neither is a turn nor a fetch does not occur in a batch. -/
lemma filterMap_batchEntries {α : Type} {f : RoundEntry → Option α}
    (hturn : ∀ id held, f (.turn id held) = none)
    (hfetch : ∀ id, f (.call (.getAsset id false)) = none) :
    (batchEntries held ids).filterMap f = [] := by
  rw [List.filterMap_eq_nil_iff]
  intro e he
  rcases mem_batchEntries he with ⟨id, held, rfl⟩ | ⟨id, rfl⟩
  · exact hturn id held
  · exact hfetch id

lemma flatMap_missing_batchEntries : (batchEntries held ids).flatMap missing = [] := by
  rw [List.flatMap_eq_nil_iff]
  intro e he
  rcases mem_batchEntries he with ⟨id, held, rfl⟩ | ⟨id, rfl⟩ <;> rfl

/-- The fetches of a batch are made inside it. -/
lemma timely_batchEntries {batchSize : Nat} {log : List RoundEntry}
    (hsize : batchSize ≠ 0 → (ids.filter fun id => ¬ held id).length ≤ batchSize) :
    AtEach (fun since => Timely batchSize (log ++ [.batch] ++ since)) (batchEntries held ids) := by
  intro since e rest hsplit
  have hmem : ∀ e' ∈ since ++ e :: rest, _ := fun e' he' => mem_batchEntries (hsplit ▸ he')
  have hsince : ∀ e' ∈ since, e'.turnOf ≠ none ∨ e'.fetch ≠ none := by
    intro e' he'
    rcases hmem e' (List.mem_append_left _ he') with ⟨id, held, rfl⟩ | ⟨id, rfl⟩
    · exact .inl (Option.some_ne_none _)
    · exact .inr (Option.some_ne_none _)
  rcases hmem e (by simp) with ⟨id, held, rfl⟩ | ⟨id, rfl⟩
  · trivial
  · refine ⟨log, since, by simp, hsince, fun h0 => ?_⟩
    have hfetches : ((batchEntries held ids).filterMap fetch).length = _ :=
      congrArg List.length filterMap_fetch_batchEntries
    rw [hsplit] at hfetches
    simp only [List.filterMap_append, List.filterMap_cons, fetch, List.length_append,
      List.length_cons] at hfetches
    have := hsize h0
    omega

/-- A batch begins and takes some ids from the queue. -/
lemma Orderly.batch {batchSize startAt next : Nat} {rest inProgress : List Bytes}
    {log : List RoundEntry} (h : Orderly batchSize startAt next (ids ++ rest) [] log)
    (hsize : batchSize ≠ 0 → (ids.filter fun id => ¬ held id).length ≤ batchSize)
    (hprogress : inProgress.Perm (ids.filter fun id => ¬ held id)) :
    Orderly batchSize startAt next rest inProgress
      (log ++ [.batch] ++ batchEntries held ids) where
  requested := by
    rw [List.filterMap_append, filterMap_batchEntries (fun _ _ => rfl) fun _ => rfl]
    simpa [List.filterMap_cons, RoundEntry.listRequest] using h.requested
  turns := by
    simp only [List.filterMap_append, filterMap_turnOf_batchEntries, List.flatMap_append,
      flatMap_missing_batchEntries, ← h.turns]
    simp [List.filterMap_cons, turnOf, missing, Function.comp_def]
  fetched := by
    simp only [List.filterMap_append, filterMap_turnOf_batchEntries,
      filterMap_fetch_batchEntries, h.fetched]
    simp [List.filterMap_cons, turnOf, fetch, List.filter_map, Function.comp_def]
  stored := by
    simp only [List.filterMap_append, h.stored,
      filterMap_batchEntries (f := RoundEntry.handed) (fun _ _ => rfl) fun _ => rfl,
      filterMap_batchEntries (f := received) (fun _ _ => rfl) fun _ => rfl]
    rfl
  progress := by
    simp only [List.filterMap_append, filterMap_fetch_batchEntries,
      filterMap_batchEntries (f := done) (fun _ _ => rfl) fun _ => rfl]
    simpa [List.filterMap_cons, done, fetch] using h.done_perm.append hprogress
  timely :=
    atEach_append.mpr ⟨atEach_concat.mpr ⟨h.timely, h.done_perm⟩, timely_batchEntries hsize⟩

end Batch

namespace PullReplicationService

variable {Endpoint : Type} {s s' : PullReplicationService Endpoint} {now : Moment}

/-- The ids that are to be fetched when their turn comes. -/
def Moment.wanted (now : Moment) (ids : List Bytes) : List Bytes :=
  ids.filter fun id => ¬ now.atTurn id

/-- The service after the turns of some ids; the others are still in the queue. -/
def afterTurns (now : Moment) (ids rest : List Bytes) (s : PullReplicationService Endpoint) :
    PullReplicationService Endpoint :=
  { s with
    pendingAssets := rest
    inProgressAssets := (Moment.wanted now ids).reverse ++ s.inProgressAssets
    calls := s.calls ++ (Moment.wanted now ids).map fun id => .getAsset id false
    log := s.log ++ batchEntries now.atTurn ids }

lemma afterTurns_nil : s.afterTurns now [] s.pendingAssets = s := by
  simp [afterTurns, Moment.wanted, batchEntries]

/-- The turn of an id that is in the index. -/
lemma afterTurns_held {id : Bytes} {ids rest pending : List Bytes} (hid : now.atTurn id = true) :
    ({ s with pendingAssets := pending }.record (.turn id true)).afterTurns now ids rest =
      s.afterTurns now (id :: ids) rest := by
  simp [afterTurns, Moment.wanted, record, batchEntries_cons, hid]

/-- The turn of an id that is fetched. -/
lemma afterTurns_wanted {id : Bytes} {ids rest : List Bytes} (pending : List Bytes)
    (hid : now.atTurn id = false) (hnew : id ∉ s.inProgressAssets) :
    ({ { s with pendingAssets := pending }.record (.turn id false) with
        inProgressAssets := s.inProgressAssets.insert id }.request
      (.getAsset id false)).afterTurns now ids rest = s.afterTurns now (id :: ids) rest := by
  simp [afterTurns, Moment.wanted, request, record, batchEntries_cons, hid, hnew]

lemma requestMissing_eq {pending : List Bytes} {sent : Nat} (hpending : s.pendingAssets = pending)
    (hnodup : (s.inProgressAssets ++ pending).Nodup)
    (hsize : s.batchSize ≠ 0 → sent < s.batchSize) :
    ∃ ids rest, pending = ids ++ rest ∧
      s.requestMissing now pending sent =
        (s.afterTurns now ids rest, sent + (Moment.wanted now ids).length) ∧
      (Moment.wanted now ids = [] → rest = []) ∧
      (s.batchSize ≠ 0 → sent + (Moment.wanted now ids).length ≤ s.batchSize) := by
  induction pending generalizing s sent with
  | nil =>
    refine ⟨[], [], rfl, ?_, fun _ => rfl, fun h => (hsize h).le⟩
    have hsame : s.afterTurns now [] s.pendingAssets = s := afterTurns_nil
    rw [hpending] at hsame
    rw [hsame]
    rfl
  | cons id pending ih =>
    cases hid : now.atTurn id with
    | true =>
      obtain ⟨ids, rest, hsplit, heq, hrest, hle⟩ :=
        ih (s := { s with pendingAssets := pending }.record (.turn id true)) rfl
          (hnodup.sublist (by simp [record])) hsize
      have hwanted : Moment.wanted now (id :: ids) = Moment.wanted now ids := by
        simp [Moment.wanted, hid]
      refine ⟨id :: ids, rest, by rw [hsplit]; rfl, ?_, hwanted ▸ hrest, hwanted ▸ hle⟩
      simp only [requestMissing, hid, if_true]
      rw [heq, afterTurns_held hid, hwanted]
    | false =>
      have hnew : id ∉ s.inProgressAssets := fun h =>
        (List.nodup_append.mp hnodup).2.2 id h id List.mem_cons_self rfl
      have hwanted : ∀ ids, Moment.wanted now (id :: ids) = id :: Moment.wanted now ids := by
        simp [Moment.wanted, hid]
      simp only [requestMissing, hid, Bool.false_eq_true, if_false]
      split
      · next hfull =>
        refine ⟨[id], pending, rfl, ?_, by simp [hwanted], fun _ => ?_⟩
        · rw [← afterTurns_wanted pending hid hnew, hwanted]
          exact congrArg (·, sent + 1) afterTurns_nil.symm
        · rw [hwanted]
          exact hfull.le
      · next hfull =>
        have hlt : s.batchSize ≠ 0 → sent + 1 < s.batchSize := fun h =>
          lt_of_le_of_ne (hsize h) hfull
        obtain ⟨ids, rest, hsplit, heq, hrest, hle⟩ :=
          @ih ({ { s with pendingAssets := pending }.record (.turn id false) with
              inProgressAssets := s.inProgressAssets.insert id }.request (.getAsset id false))
            (sent + 1) rfl
            (by
              simp only [request, record, List.insert_of_not_mem hnew]
              exact List.perm_middle.nodup_iff.mp hnodup) hlt
        have hsent : sent + (Moment.wanted now (id :: ids)).length =
            sent + 1 + (Moment.wanted now ids).length := by
          rw [hwanted, List.length_cons]
          omega
        refine ⟨id :: ids, rest, by rw [hsplit]; rfl, ?_, by simp [hwanted], hsent ▸ hle⟩
        rw [← afterTurns_wanted pending hid hnew, hsent]
        exact heq

/-! ## What the service waits for -/

/-- Nothing is fetched or stored, and nothing is to be. -/
structure Idle (s : PullReplicationService Endpoint) : Prop where
  pending : s.pendingAssets = []
  inProgress : s.inProgressAssets = []
  storing : s.storing = []
  posted : s.posted = []

/-- The service runs against the master of the settings. -/
structure Steady (s : PullReplicationService Endpoint) : Prop where
  stop : s.stop = false
  master : s.replicationMaster = some s.replicationMasterEndpoint
  startAt : s.pullReplicationStartAt ≤ 0xfff
  finished : ∀ r ∈ s.finished, r.Complete s.batchSize

/-- There is a connection. -/
structure Live (s : PullReplicationService Endpoint) : Prop extends Steady s where
  thread : s.serviceThread = true
  assetSvc : s.assetSvc = true
  connected : s.connected = true
  connecting : s.connecting = 0
  reconnectTimer : s.reconnectTimer = 0

/-- The service is not connected yet. -/
structure Connecting (s : PullReplicationService Endpoint) : Prop extends Steady s, Idle s where
  connected : s.connected = false
  assetSvc : s.assetSvc = s.serviceThread
  currentStep : s.currentStep = .none
  log : s.log = []
  calls : s.calls = []
  replRestartTimer : s.replRestartTimer = 0
  attempts : s.connecting + s.reconnectTimer = if s.serviceThread then 1 else 0

/-- The master is asked for a list. -/
structure Listing (s : PullReplicationService Endpoint) : Prop extends Live s, Idle s where
  currentStep : s.currentStep = .none ∨ s.currentStep = .idList
  calls : s.calls =
    [.getStoredAssetIDsWithPrefix (getStringPrefixForIndex s.currentAssetPrefix)]
  replRestartTimer : s.replRestartTimer = 0
  begun : s.startAt ≤ s.currentAssetPrefix
  bound : s.currentAssetPrefix ≤ 0xfff
  orderly : Orderly s.batchSize s.startAt (s.currentAssetPrefix + 1) [] [] s.log

/-- What is in progress is being fetched or stored, and what waits for its turn is not. -/
structure Fetching (s : PullReplicationService Endpoint) : Prop extends Live s where
  currentStep : s.currentStep = .retrieve
  replRestartTimer : s.replRestartTimer = 0
  begun : s.startAt ≤ s.currentAssetPrefix
  bound : s.currentAssetPrefix ≤ 0xfff
  orderly : Orderly s.batchSize s.startAt (s.currentAssetPrefix + 1) s.pendingAssets
    s.inProgressAssets s.log
  nodup : (s.inProgressAssets ++ s.pendingAssets).Nodup
  active : ∃ fetching : List Bytes, s.calls = fetching.map (.getAsset · false) ∧
    s.inProgressAssets.Perm (fetching ++ s.storing ++ s.posted.map Prod.fst)

/-- A batch is under way. -/
structure Retrieving (s : PullReplicationService Endpoint) : Prop extends Fetching s where
  inProgress : s.inProgressAssets ≠ []

/-- The round is over. -/
structure Waiting (s : PullReplicationService Endpoint) : Prop extends Live s, Idle s where
  currentStep : s.currentStep = .wait
  log : s.log = []
  calls : s.calls = []
  replRestartTimer : s.replRestartTimer = 1

/-- Between two steps: nothing is outstanding, and the handler that runs goes on. -/
structure Ready (s : PullReplicationService Endpoint) : Prop extends Live s where
  calls : s.calls = []
  inProgress : s.inProgressAssets = []
  storing : s.storing = []
  posted : s.posted = []
  replRestartTimer : s.replRestartTimer = 0

/-- The service waits for one thing. -/
def WaitsForOne (s : PullReplicationService Endpoint) : Prop :=
  Connecting s ∨ Listing s ∨ Retrieving s ∨ Waiting s

lemma Connecting.started (h : s.Connecting) (hne : s.connecting + s.reconnectTimer ≠ 0) :
    s.serviceThread = true ∧ s.connecting + s.reconnectTimer = 1 := by
  have hattempts := h.attempts
  split at hattempts
  · next hthread => exact ⟨hthread, hattempts⟩
  · exact absurd hattempts hne

lemma WaitsForOne.reload {startAt : Nat} (h : s.WaitsForOne) (hstart : startAt ≤ 0xfff) :
    WaitsForOne { s with pullReplicationStartAt := startAt } := by
  rcases h with h | h | h | h
  · exact .inl { h with startAt := hstart }
  · exact .inr (.inl { h with startAt := hstart })
  · exact .inr (.inr (.inl { h with startAt := hstart }))
  · exact .inr (.inr (.inr { h with startAt := hstart }))

/-- What is only to be expected without a connection. -/
lemma WaitsForOne.connecting (h : s.WaitsForOne)
    (hlive : ¬ (s.serviceThread = true ∧ s.connecting = 0 ∧ s.reconnectTimer = 0)) :
    s.Connecting := by
  rcases h with h | h | h | h
  · exact h
  all_goals exact absurd ⟨h.thread, h.connecting, h.reconnectTimer⟩ hlive

/-- What is only to be expected while assets are stored. -/
lemma WaitsForOne.retrieving (h : s.WaitsForOne) (hstoring : ¬ (s.storing = [] ∧ s.posted = [])) :
    s.Retrieving := by
  rcases h with h | h | h | h
  · exact absurd ⟨h.storing, h.posted⟩ hstoring
  · exact absurd ⟨h.storing, h.posted⟩ hstoring
  · exact h
  · exact absurd ⟨h.storing, h.posted⟩ hstoring

lemma WaitsForOne.finished (h : s.WaitsForOne) : ∀ r ∈ s.finished, r.Complete s.batchSize := by
  rcases h with h | h | h | h <;> exact h.finished

/-- A round that is under way. -/
lemma WaitsForOne.orderly (h : s.WaitsForOne) (hlog : s.log ≠ []) :
    s.startAt ≤ s.currentAssetPrefix ∧ s.currentAssetPrefix ≤ 0xfff ∧
      Orderly s.batchSize s.startAt (s.currentAssetPrefix + 1) s.pendingAssets
        s.inProgressAssets s.log := by
  rcases h with h | h | h | h
  · exact absurd h.log hlog
  · exact ⟨h.begun, h.bound, h.pending ▸ h.inProgress ▸ h.orderly⟩
  · exact ⟨h.begun, h.bound, h.orderly⟩
  · exact absurd h.log hlog

/-- A round that is under way waits for the master or the storage. -/
lemma WaitsForOne.log_eq_nil (h : s.WaitsForOne) (hcalls : s.calls = []) (hstoring : s.storing = [])
    (hposted : s.posted = []) : s.log = [] := by
  rcases h with h | h | h | h
  · exact h.log
  · rw [h.calls] at hcalls
    cases hcalls
  · obtain ⟨fetching, hfetching, hperm⟩ := h.active
    rw [hcalls, eq_comm, List.map_eq_nil_iff] at hfetching
    rw [hfetching, hstoring, hposted] at hperm
    exact absurd hperm.eq_nil h.inProgress
  · exact h.log

lemma waitsForOne_create (master : Endpoint) (batchSize : Nat) {startAt : Nat}
    (hstart : startAt ≤ 0xfff) : (create master batchSize startAt).WaitsForOne :=
  .inl
    { stop := rfl
      master := rfl
      startAt := hstart
      finished := fun _ hr => nomatch hr
      pending := rfl
      inProgress := rfl
      storing := rfl
      posted := rfl
      connected := rfl
      assetSvc := rfl
      currentStep := rfl
      log := rfl
      calls := rfl
      replRestartTimer := rfl
      attempts := rfl }

/-! ## Steps of the replication -/

/-- The list for a prefix is requested. -/
lemma Ready.listing (h : s.Ready) (hpending : s.pendingAssets = [])
    (hstep : s.currentStep = .none ∨ s.currentStep = .idList)
    (hbegun : s.startAt ≤ s.currentAssetPrefix) (hbound : s.currentAssetPrefix ≤ 0xfff)
    (horderly : Orderly s.batchSize s.startAt s.currentAssetPrefix [] [] s.log) :
    s.retrieveIdListForPrefix.Listing :=
  { h.toLive with
    pending := hpending
    inProgress := h.inProgress
    storing := h.storing
    posted := h.posted
    currentStep := hstep
    calls := by simp [retrieveIdListForPrefix, request, record, h.calls]
    replRestartTimer := h.replRestartTimer
    begun := hbegun
    bound := hbound
    orderly := horderly.listRequest hbegun }

/-- The storage returns. -/
lemma Retrieving.onAfterAssetStoredStub_eq (h : s.Retrieving) {id : Bytes} {success : Bool}
    (hid : id ∈ s.storing) :
    Retrieving { s with
      storing := s.storing.erase id
      posted := s.posted ++ [(id, success)] } := by
  obtain ⟨fetching, hcalls, hperm⟩ := h.active
  refine { h with active := ⟨fetching, hcalls, hperm.trans ?_⟩ }
  rw [List.map_append, ← List.append_assoc, List.append_assoc, List.append_assoc,
    List.append_assoc]
  refine List.Perm.append_left _ ?_
  calc s.storing ++ s.posted.map Prod.fst
      ~ (id :: s.storing.erase id) ++ s.posted.map Prod.fst :=
        (List.perm_cons_erase hid).append_right _
    _ ~ s.storing.erase id ++ (id :: s.posted.map Prod.fst) := List.perm_middle.symm
    _ ~ s.storing.erase id ++ (s.posted.map Prod.fst ++ [id]) :=
      (List.perm_append_singleton id _).symm.append_left _

section Steps

variable [DecidableEq Endpoint] {n : Nat}

lemma Live.verifyConnection_eq (h : s.Live) : s.verifyConnection = some (s, true) := by
  have hsame : { s with assetSvc := true } = s := by
    rw [← h.assetSvc]
  have hensure : s.ensureConnection = (s, true) := by
    rw [ensureConnection, hsame]
    simp [h.connected]
  simp [verifyConnection, h.stop, h.master, hensure]

lemma Live.runStepWithin_eq (h : s.Live) :
    s.runStepWithin now (n + 1) = s.replicateStep (runStepWithin now n) now := by
  simp [runStepWithin, h.stop, h.verifyConnection_eq]

/-- The first list of a round. -/
lemma Ready.begins (h : s.Ready) (hpending : s.pendingAssets = []) (hstep : s.currentStep = .none) :
    ∃ s', s.runStepWithin now (n + 1) = some s' ∧ s'.WaitsForOne := by
  have hready : Ready { s with
      currentAssetPrefix := s.pullReplicationStartAt
      startAt := s.pullReplicationStartAt
      log := [] } := { h with }
  refine ⟨_, ?_, .inr (.inl (hready.listing hpending (.inl hstep) le_rfl h.startAt
    (Orderly.start _ _)))⟩
  rw [h.runStepWithin_eq, replicateStep, hstep]

/-- The list for a prefix is done with. -/
lemma Ready.next (h : s.Ready) (hpending : s.pendingAssets = [])
    (hbegun : s.startAt ≤ s.currentAssetPrefix) (hbound : s.currentAssetPrefix ≤ 0xfff)
    (horderly : Orderly s.batchSize s.startAt (s.currentAssetPrefix + 1) [] [] s.log) :
    ∃ s', s.retrieveNextIdList (runStepWithin now (n + 1)) = some s' ∧ s'.WaitsForOne := by
  rw [retrieveNextIdList]
  dsimp only
  split
  · next hle =>
    have hready : Ready { s with
        currentStep := .idList
        currentAssetPrefix := s.currentAssetPrefix + 1 } := { h with }
    refine ⟨_, by rw [hready.runStepWithin_eq, replicateStep], .inr (.inl ?_)⟩
    exact hready.listing hpending (.inr rfl) (Nat.le_succ_of_le hbegun) hle horderly
  · next hgt =>
    have hlast : s.currentAssetPrefix + 1 = 0x1000 := by omega
    refine ⟨_, rfl, .inr (.inr (.inr ?_))⟩
    refine { h with
      finished := ?_
      pending := hpending
      currentStep := rfl
      log := rfl
      replRestartTimer := congrArg (· + 1) h.replRestartTimer }
    intro r hr
    rcases List.mem_append.mp hr with hr | hr
    · exact h.finished r hr
    · rw [List.mem_singleton.mp hr]
      exact ⟨hbegun.trans hbound, hlast ▸ horderly, horderly.distinct hlast.le⟩

/-- A batch is requested, or there is nothing left to request. -/
lemma Ready.retrieves (h : s.Ready) (hstep : s.currentStep = .retrieve)
    (hbegun : s.startAt ≤ s.currentAssetPrefix) (hbound : s.currentAssetPrefix ≤ 0xfff)
    (horderly : Orderly s.batchSize s.startAt (s.currentAssetPrefix + 1) s.pendingAssets [] s.log)
    (hnodup : s.pendingAssets.Nodup) :
    ∃ s', s.runStepWithin now (n + 2) = some s' ∧ s'.WaitsForOne := by
  rw [h.runStepWithin_eq, replicateStep, hstep]
  dsimp only
  rw [retrieveNextMissingAssetBatch]
  split
  · next hpending => exact h.next hpending hbegun hbound (hpending ▸ horderly)
  · have hready : Ready (s.record .batch) := { h with }
    obtain ⟨ids, rest, hsplit, heq, hrest, hle⟩ :=
      @requestMissing_eq _ (s.record .batch) now s.pendingAssets 0 rfl
        (by simpa [record, h.inProgress] using hnodup) Nat.pos_of_ne_zero
    rw [Nat.zero_add] at heq
    simp only [Nat.zero_add] at hle
    simp only [heq]
    have horderly' : Orderly s.batchSize s.startAt (s.currentAssetPrefix + 1) rest
        (Moment.wanted now ids).reverse
        (s.log ++ [.batch] ++ batchEntries now.atTurn ids) :=
      Orderly.batch (hsplit ▸ horderly) hle (List.reverse_perm _)
    split
    · next hzero =>
      have hnone : Moment.wanted now ids = [] := List.length_eq_zero_iff.mp hzero
      obtain rfl := hrest hnone
      rw [hnone] at horderly'
      have hready' : Ready ((s.record .batch).afterTurns now ids []) :=
        { hready with
          calls := by simp [afterTurns, hnone, record, h.calls]
          inProgress := by simp [afterTurns, hnone, record, h.inProgress] }
      exact hready'.next rfl hbegun hbound horderly'
    · next hsome =>
      have hsub : (Moment.wanted now ids).Sublist ids := List.filter_sublist
      refine ⟨_, rfl, .inr (.inr (.inl ?_))⟩
      exact { hready.toLive with
        currentStep := hstep
        replRestartTimer := h.replRestartTimer
        begun := hbegun
        bound := hbound
        orderly := by
          simpa [afterTurns, record, h.inProgress] using horderly'
        nodup := by
          rw [hsplit] at hnodup
          simp only [afterTurns, record, h.inProgress, List.append_nil]
          exact ((List.reverse_perm _).append_right rest).nodup_iff.mpr
            (hnodup.sublist (hsub.append_right rest))
        inProgress := by
          simpa [afterTurns, record, h.inProgress] using fun hnil => hsome (by rw [hnil]; rfl)
        active := by
          refine ⟨Moment.wanted now ids, by simp [afterTurns, record, h.calls], ?_⟩
          simp [afterTurns, record, h.inProgress, h.storing, h.posted] }

/-- The next round begins, or the service goes on waiting. -/
lemma Ready.resumes (h : s.Ready) (hpending : s.pendingAssets = []) (hlog : s.log = [])
    (hstep : s.currentStep = .wait) :
    ∃ s', s.runStepWithin now (n + 2) = some s' ∧ s'.WaitsForOne := by
  rw [h.runStepWithin_eq, replicateStep, hstep]
  dsimp only
  rw [checkResumeNextReplRound]
  split
  · have hready : Ready { s with currentStep := .none } := { h with }
    exact hready.begins hpending rfl
  · refine ⟨_, rfl, .inr (.inr (.inr ?_))⟩
    exact { h with
      pending := hpending
      currentStep := hstep
      log := hlog
      replRestartTimer := congrArg (· + 1) h.replRestartTimer }

/-! ## Handlers -/

/-- The connection is established. -/
lemma Connecting.connects (h : s.Connecting) (hthread : s.serviceThread = true)
    (hconnecting : s.connecting = 1) :
    ∃ s', { s with connecting := s.connecting - 1, connected := true }.runStep now = some s' ∧
      s'.WaitsForOne := by
  have hattempts := h.attempts
  rw [hthread, if_pos rfl, hconnecting] at hattempts
  have hready : Ready { s with connecting := s.connecting - 1, connected := true } :=
    { h.toSteady, h.toIdle with
      thread := hthread
      assetSvc := h.assetSvc.trans hthread
      connected := rfl
      connecting := by simp [hconnecting]
      reconnectTimer := by simp only; omega
      calls := h.calls
      replRestartTimer := h.replRestartTimer }
  exact hready.begins h.pending h.currentStep

/-- A list has arrived. -/
lemma Listing.onGetStoredAssetIds_eq (h : s.Listing) {reply : Reply}
    (hreply : reply.isError = false) (hnodup : (idsOfList reply.text).Nodup) :
    ∃ s', { s with calls := [] }.onGetStoredAssetIds now reply = some s' ∧ s'.WaitsForOne := by
  have hready : Ready ({ s with calls := [] }.record
      (.listed ((idsOfList reply.text).map fun id => (id, now.atListing id)))) :=
    { h with calls := rfl }
  have horderly := h.orderly.listed (idsOfList reply.text) now.atListing
  rw [onGetStoredAssetIds, if_neg (not_not.mpr h.connected),
    if_neg (Bool.not_eq_true _ ▸ hreply)]
  dsimp only
  split
  · next hempty =>
    rw [hempty] at hready horderly ⊢
    exact hready.next h.pending h.begun h.bound horderly
  · split
    · next hnone =>
      rw [hnone] at horderly
      have hready' : Ready { { s with calls := [] }.record
          (.listed ((idsOfList reply.text).map fun id => (id, now.atListing id))) with
          pendingAssets := (idsOfList reply.text).filter fun id => ¬ now.atListing id } :=
        { hready with }
      exact hready'.next hnone h.begun h.bound horderly
    · have hready' : Ready { { s with calls := [] }.record
          (.listed ((idsOfList reply.text).map fun id => (id, now.atListing id))) with
          pendingAssets := (idsOfList reply.text).filter fun id => ¬ now.atListing id
          currentStep := .retrieve } := { hready with }
      exact hready'.retrieves rfl h.begun h.bound horderly (hnodup.filter _)

/-- An asset is done; the batch goes on, or the next begins. -/
lemma Fetching.goesOn (h : s.Fetching) :
    ∃ s', (if s.inProgressAssets = [] then s.runStep now else some s) = some s' ∧
      s'.WaitsForOne := by
  split
  · next hnone =>
    obtain ⟨fetching, hcalls, hperm⟩ := h.active
    rw [hnone, List.nil_perm, List.append_eq_nil_iff, List.append_eq_nil_iff] at hperm
    obtain ⟨⟨rfl, hstoring⟩, hposted⟩ := hperm
    have hready : Ready s :=
      { h with
        calls := hcalls
        inProgress := hnone
        storing := hstoring
        posted := List.map_eq_nil_iff.mp hposted }
    have hnodup := h.nodup
    have horderly := h.orderly
    rw [hnone] at hnodup horderly
    exact hready.retrieves h.currentStep h.begun h.bound horderly hnodup
  · next hsome => exact ⟨s, rfl, .inr (.inr (.inl { h with inProgress := hsome }))⟩

/-- The reply to a fetch. -/
lemma Retrieving.onAssetRetrieved_eq (h : s.Retrieving) {reply : Reply} {id : Bytes}
    (hreply : reply.isError = true → reply.isFatal = false) (hcall : .getAsset id false ∈ s.calls) :
    ∃ s', { s with calls := s.calls.erase (.getAsset id false) }.onAssetRetrieved now reply id =
      some s' ∧ s'.WaitsForOne := by
  obtain ⟨fetching, hcalls, hperm⟩ := h.active
  have hid : id ∈ fetching := by
    rw [hcalls] at hcall
    simpa using hcall
  have hprogress : id ∈ s.inProgressAssets := hperm.mem_iff.mpr (by simp [hid])
  have hcalls' : s.calls.erase (.getAsset id false) =
      (fetching.erase id).map (.getAsset · false) := by
    rw [hcalls, List.map_erase fun a b hab => (Call.getAsset.inj hab).1]
  rw [onAssetRetrieved, if_neg (not_not.mpr h.connected)]
  dsimp only
  split
  · next herror =>
    have hfetching : Fetching { s with
        calls := s.calls.erase (.getAsset id false)
        log := s.log ++ [.retrieved id reply]
        inProgressAssets := s.inProgressAssets.erase id } :=
      { h with
        orderly := h.orderly.failed herror hprogress
        nodup := h.nodup.sublist (List.erase_sublist.append_right _)
        active := by
          refine ⟨fetching.erase id, hcalls', (hperm.erase id).trans ?_⟩
          rw [List.erase_append_left _ (List.mem_append_left _ hid), List.erase_append_left _ hid] }
    have hfatal : ¬ reply.isFatal = true := Bool.not_eq_true _ ▸ hreply herror
    rw [if_congr (and_iff_right hfatal) rfl rfl]
    exact hfetching.goesOn
  · next herror =>
    refine ⟨_, rfl, .inr (.inr (.inl ?_))⟩
    exact { h with
      orderly := h.orderly.handed (Bool.not_eq_true _ ▸ herror)
      active := by
        refine ⟨fetching.erase id, hcalls', hperm.trans ?_⟩
        refine List.Perm.append_right _ ?_
        calc fetching ++ s.storing
            ~ (id :: fetching.erase id) ++ s.storing := (List.perm_cons_erase hid).append_right _
          _ ~ fetching.erase id ++ (id :: s.storing) := List.perm_middle.symm
          _ ~ fetching.erase id ++ (s.storing ++ [id]) :=
            (List.perm_append_singleton id s.storing).symm.append_left _ }

/-- The result of the storage arrives. -/
lemma Retrieving.onAfterAssetStored_eq (h : s.Retrieving) {id : Bytes} {success : Bool}
    (hid : (id, success) ∈ s.posted) :
    ∃ s', { s with posted := s.posted.erase (id, success) }.onAfterAssetStored now success id =
      some s' ∧ s'.WaitsForOne := by
  obtain ⟨fetching, hcalls, hperm⟩ := h.active
  have hposted : (s.posted.map Prod.fst).Perm
      (id :: (s.posted.erase (id, success)).map Prod.fst) :=
    (List.perm_cons_erase hid).map Prod.fst
  have hperm' : s.inProgressAssets.Perm
      (id :: (fetching ++ s.storing ++ (s.posted.erase (id, success)).map Prod.fst)) :=
    hperm.trans ((hposted.append_left _).trans List.perm_middle)
  have hfetching : Fetching { s with
      posted := s.posted.erase (id, success)
      log := s.log ++ [.stored id success]
      inProgressAssets := s.inProgressAssets.erase id } :=
    { h with
      orderly := h.orderly.returned success (hperm'.mem_iff.mpr List.mem_cons_self)
      nodup := h.nodup.sublist (List.erase_sublist.append_right _)
      active := by
        refine ⟨fetching, hcalls, (hperm'.erase id).trans ?_⟩
        rw [List.erase_cons_head] }
  exact hfetching.goesOn

/-! ## Runs -/

/-- The handler can run. -/
def Due (s : PullReplicationService Endpoint) : Handler Endpoint → Prop
  | .reload _ _ => True
  | .run => s.serviceThread = false
  | .onServiceConnectionStatus _ => s.connecting ≠ 0
  | .onReconnectTimer => s.reconnectTimer ≠ 0
  | .onReplRestartTimer => s.replRestartTimer ≠ 0
  | .reply c _ => c ∈ s.calls
  | .onAfterAssetStoredStub assetId _ => assetId ∈ s.storing
  | .onAfterAssetStored assetId success => (assetId, success) ∈ s.posted
  | .onServerConnectionFailed | .doStop => s.assetSvc = true

/-- The master stays the same, and the connection to it holds; the prefix to start at is one up to
`fff`; a list request is answered by a list in which no id occurs twice, and an error in the reply
to a fetch is not fatal. -/
def Undisturbed (s : PullReplicationService Endpoint) (e : Handler Endpoint × Moment) : Prop :=
  match e.1 with
  | .reload master startAt => master = s.replicationMaster ∧ startAt ≤ 0xfff
  | .reply (.getStoredAssetIDsWithPrefix _) reply =>
    reply.isError = false ∧ (idsOfList reply.text).Nodup
  | .reply _ reply => reply.isError = true → reply.isFatal = false
  | .onServerConnectionFailed | .doStop => False
  | _ => True

lemma due_of_step {e : Handler Endpoint × Moment} (h : s.step e = some s') : s.Due e.1 := by
  obtain ⟨e, now⟩ := e
  cases e <;> simp only [step, Due] at h ⊢ <;> split at h <;> simp_all

lemma WaitsForOne.reply {c : Call} {reply : Reply} (h : s.WaitsForOne)
    (hdue : s.Due (.reply c reply)) (hcond : s.Undisturbed (.reply c reply, now)) :
    ∃ s', s.step (.reply c reply, now) = some s' ∧ s'.WaitsForOne := by
  have hmem : c ∈ s.calls := hdue
  simp only [step, if_pos hmem]
  rcases h with h | h | h | h
  · rw [h.calls] at hmem
    cases hmem
  · rw [h.calls, List.mem_singleton] at hmem
    subst hmem
    rw [h.calls, List.erase_cons_head]
    exact h.onGetStoredAssetIds_eq hcond.1 hcond.2
  · obtain ⟨fetching, hcalls, -⟩ := h.active
    obtain ⟨id, -, rfl⟩ := List.mem_map.mp (hcalls ▸ hmem)
    exact h.onAssetRetrieved_eq hcond hmem
  · rw [h.calls] at hmem
    cases hmem

/-- One handler. -/
lemma WaitsForOne.step (h : s.WaitsForOne) {e : Handler Endpoint × Moment} (hdue : s.Due e.1)
    (hcond : s.Undisturbed e) : ∃ s', s.step e = some s' ∧ s'.WaitsForOne := by
  obtain ⟨e, now⟩ := e
  cases e with
  | reload master startAt =>
    obtain ⟨rfl, hstart⟩ := hcond
    exact ⟨_, rfl, h.reload hstart⟩
  | run =>
    have hthread : s.serviceThread = false := hdue
    have hconnecting := h.connecting (by simp [hthread])
    have hattempts := hconnecting.attempts
    rw [hthread, if_neg Bool.false_ne_true] at hattempts
    have hnext : Connecting { s with
        serviceThread := true
        assetSvc := true
        connecting := s.connecting + 1 } :=
      { hconnecting with
        assetSvc := rfl
        attempts := by
          simp only [if_true]
          omega }
    refine ⟨_, ?_, .inl hnext⟩
    simp [PullReplicationService.step, hthread, runStep, runStepWithin, verifyConnection,
      ensureConnection, hconnecting.stop, hconnecting.master, hconnecting.connected]
  | onServiceConnectionStatus success =>
    have hne : s.connecting ≠ 0 := hdue
    have hconnecting := h.connecting (by simp [hne])
    obtain ⟨hthread, hattempts⟩ := hconnecting.started (by omega)
    simp only [PullReplicationService.step, if_neg hne,
      PullReplicationService.onServiceConnectionStatus]
    cases success with
    | true => exact hconnecting.connects hthread (by omega)
    | false =>
      refine ⟨_, rfl, .inl { hconnecting with attempts := ?_ }⟩
      simp only [hthread, if_true]
      omega
  | onReconnectTimer =>
    have hne : s.reconnectTimer ≠ 0 := hdue
    have hconnecting := h.connecting (by simp [hne])
    obtain ⟨hthread, hattempts⟩ := hconnecting.started (by omega)
    have hnext : Connecting { s with
        reconnectTimer := s.reconnectTimer - 1
        assetSvc := true
        connecting := s.connecting + 1 } :=
      { hconnecting with
        assetSvc := hthread.symm
        attempts := by
          simp only [hthread, if_true]
          omega }
    refine ⟨_, ?_, .inl hnext⟩
    simp [PullReplicationService.step, hne, verifyConnection, ensureConnection, hconnecting.stop,
      hconnecting.master, hconnecting.connected]
  | onReplRestartTimer =>
    have hne : s.replRestartTimer ≠ 0 := hdue
    rcases h with h | h | h | h
    · exact absurd h.replRestartTimer hne
    · exact absurd h.replRestartTimer hne
    · exact absurd h.replRestartTimer hne
    · have hready : Ready { s with replRestartTimer := s.replRestartTimer - 1 } :=
        { h with replRestartTimer := by simp [h.replRestartTimer] }
      simp only [PullReplicationService.step, if_neg hne]
      exact hready.resumes h.pending h.log h.currentStep
  | reply c reply => exact h.reply hdue hcond
  | onAfterAssetStoredStub assetId success =>
    have hmem : assetId ∈ s.storing := hdue
    have hretrieving := h.retrieving fun hnil => by simp [hnil.1] at hmem
    simp only [PullReplicationService.step, if_pos hmem]
    exact ⟨_, rfl, .inr (.inr (.inl (hretrieving.onAfterAssetStoredStub_eq hmem)))⟩
  | onAfterAssetStored assetId success =>
    have hmem : (assetId, success) ∈ s.posted := hdue
    have hretrieving := h.retrieving fun hnil => by simp [hnil.2] at hmem
    simp only [PullReplicationService.step, if_pos hmem]
    exact hretrieving.onAfterAssetStored_eq hmem
  | onServerConnectionFailed => exact hcond.elim
  | doStop => exact hcond.elim

/-- In a run with the same master, without a loss of the connection and with a list in answer to
every list request, every round that has ended is complete, the one under way is orderly as far as
it is, it has not ended only if a reply of the master or a result of the storage is still to come,
and all of these are taken in when they come. -/
theorem run_complete {master : Endpoint} {batchSize startAt : Nat}
    {events : List (Handler Endpoint × Moment)} (hstart : startAt ≤ 0xfff)
    (hrun : run step (create master batchSize startAt) events = some s)
    (hmeets : Meets step Undisturbed (create master batchSize startAt) events) :
    (∀ r ∈ s.finished, r.Complete s.batchSize) ∧
      (s.log ≠ [] → s.startAt ≤ s.currentAssetPrefix ∧ s.currentAssetPrefix ≤ 0xfff ∧
        Orderly s.batchSize s.startAt (s.currentAssetPrefix + 1) s.pendingAssets
          s.inProgressAssets s.log) ∧
      (s.calls = [] → s.storing = [] → s.posted = [] → s.log = []) ∧
      ∀ e, s.Due e.1 → s.Undisturbed e → ∃ s', s.step e = some s' := by
  have h : s.WaitsForOne := by
    refine invariant_of_meets (P := WaitsForOne) ?_ hrun hmeets
      (waitsForOne_create master batchSize hstart)
    intro t e t' ht hcond hstep
    obtain ⟨t'', hstep', ht''⟩ := ht.step (due_of_step hstep) hcond
    obtain rfl := Option.some.inj (hstep.symm.trans hstep')
    exact ht''
  refine ⟨h.finished, h.orderly, h.log_eq_nil, fun e hdue hcond => ?_⟩
  obtain ⟨s', hs', -⟩ := h.step hdue hcond
  exact ⟨s', hs'⟩

end Steps

/-- A moment at which the asset `c` is held. -/
def sampleMoment : Moment where
  due := false
  atListing id := id = [99]
  atTurn id := id = [99]

/-- A round for the last prefix: three ids are listed, of which one is held, one is stored and one
cannot be fetched. -/
def sampleRound : List (Handler Unit × Moment) :=
  [(.run, sampleMoment),
    (.onServiceConnectionStatus true, sampleMoment),
    (.reply (.getStoredAssetIDsWithPrefix [102, 102, 102]) (.ofText [97, 44, 98, 44, 99]),
      sampleMoment),
    (.reply (.getAsset [97] false) (.ofAsset [97, 1]), sampleMoment),
    (.onAfterAssetStoredStub [97] true, sampleMoment),
    (.onAfterAssetStored [97] true, sampleMoment),
    (.reply (.getAsset [98] false) (.ofError []), sampleMoment)]

theorem run_complete_sampleRound : ∃ s, run step (create () 1 0xfff) sampleRound = some s ∧
    s.finished.length = 1 ∧ ∀ r ∈ s.finished, r.Complete s.batchSize := by
  obtain ⟨s, hs, hlength⟩ : ∃ s, run step (create () 1 0xfff) sampleRound = some s ∧
      s.finished.length = 1 := ⟨_, rfl, rfl⟩
  have hmeets : Meets step Undisturbed (create () 1 0xfff) sampleRound :=
    .cons rfl trivial <| .cons rfl trivial <| .cons rfl ⟨rfl, by decide⟩ <|
      .cons rfl (fun h => nomatch h) <| .cons rfl trivial <| .cons rfl trivial <|
      .cons rfl (fun _ => rfl) trivial
  exact ⟨s, hs, hlength, (run_complete (by decide) hs hmeets).1⟩

end PullReplicationService

end Halcyon.Whip
