import Mathlib.Data.Finset.Basic
import Halcyon.Lib.Transition

/-!
# A search in the mesh

`AssetSearch` asks the other servers of the mesh for an asset.  It queries every server that can be
reached; the first positive answer ends the search, with the transfer of the asset from that server
unless only its existence was asked for; when all have answered negatively, or when the timer runs
out, the answer is negative.

A server keeps the search in its `_currentSearches` until it has answered or the search has
cancelled it.  `close` answers everything in there negatively, and leaves it in there.  The servers
hold weak references, so that a search that is over and has been freed is not called any more; the
timer and the transfers hold plain pointers, and their handlers use the freed object.  Other
searches are answered beside this one and make no difference to it.

The log records the positive answers, the transfers that failed, and what the callback was given.
-/

namespace Halcyon.Whip

open Halcyon.Lib.Transition

/-- The two constructors of `AssetSearch`: the asset is fetched, or its existence tested. -/
inductive SearchKind
  | full
  | test
  deriving DecidableEq

/-- `_timeoutTimer`: nobody waits for it, it is waited for, or its completion with success is
queued.  Cancelling it does not take back a completion that is queued. -/
inductive Timer
  | idle
  | waiting
  | expired
  deriving DecidableEq

/-- What the callback of a search is given. -/
inductive SearchResult (Asset : Type)
  | full (asset : Option Asset)
  | test (found : Bool)
  deriving DecidableEq

/-- No asset, or not found. -/
def SearchResult.isNegative {Asset : Type} : SearchResult Asset → Bool
  | full asset => asset.isNone
  | test found => !found

/-- What the log records. -/
inductive Note (Server Asset : Type)
  | positive (server : Server)
  | transferFailed (server : Server)
  | callback (result : SearchResult Asset)
  deriving DecidableEq

/-- `AssetSearch`, and what the servers hold for it. -/
structure AssetSearch (Server Asset : Type) where
  kind : SearchKind
  /-- The search is in `_activeSearches`, which owns it. -/
  active : Bool
  wasFound : Bool
  queriedServers : Finset Server
  timer : Timer
  /-- The servers with an `_assetConnectionEstablished`. -/
  connected : Finset Server
  /-- The servers that have the search in their `_currentSearches`. -/
  registered : Finset Server
  /-- The transfers for this search in the queues of the servers. -/
  transfers : List Server
  /-- The callbacks of transfers that were posted because there was no connection. -/
  posted : List Server
  log : List (Note Server Asset)
  /-- The object was used after it had been freed. -/
  undefinedBehaviour : Bool

/-- What a search looks at in a server. -/
structure PeerStatus where
  assetConnectionEstablished : Bool
  /-- The last heartbeat is older than `HEARTBEAT_TIMEOUT`. -/
  heartbeatExpired : Bool
  /-- `HB_READABLE` in the flags of the last heartbeat. -/
  readable : Bool

/-- `MeshServer::isTimedOut`. -/
def PeerStatus.isTimedOut (p : PeerStatus) : Bool :=
  if p.assetConnectionEstablished then p.heartbeatExpired else true

namespace AssetSearch

variable {Server Asset : Type}

/-! ## The search -/

/-- The callback is invoked. -/
def callback (result : SearchResult Asset) (s : AssetSearch Server Asset) :
    AssetSearch Server Asset :=
  { s with log := s.log ++ [.callback result] }

/-- `markSearchComplete`: the search is freed. -/
def markSearchComplete (s : AssetSearch Server Asset) : AssetSearch Server Asset :=
  { s with active := false }

/-- `generateNegativeResponse`. -/
def generateNegativeResponse (s : AssetSearch Server Asset) : AssetSearch Server Asset :=
  s.callback (match s.kind with
    | .full => .full none
    | .test => .test false)

/-- `cancelTimeoutTimer`. -/
def cancelTimeoutTimer (s : AssetSearch Server Asset) : AssetSearch Server Asset :=
  { s with timer := if s.timer = .waiting then .idle else s.timer }

variable [DecidableEq Server]

/-- `cancelRemainingServers`, with `MeshServer::cancelSearch` of each of them. -/
def cancelRemainingServers (s : AssetSearch Server Asset) : AssetSearch Server Asset :=
  { s with registered := s.registered \ s.queriedServers, queriedServers := ∅ }

/-- `MeshServer::getAsset`: without a connection the callback is posted, and the request is sent or
queued all the same. -/
def getAsset (server : Server) (s : AssetSearch Server Asset) : AssetSearch Server Asset :=
  { s with
    posted := if server ∈ s.connected then s.posted else s.posted ++ [server]
    transfers := s.transfers ++ [server] }

/-- `onSearchResult`; that an asset was already found is only logged. -/
def onSearchResult (server : Server) (found : Bool) (s : AssetSearch Server Asset) :
    AssetSearch Server Asset :=
  let s := { s with queriedServers := s.queriedServers.erase server }
  if found then
    let s := s.cancelTimeoutTimer.cancelRemainingServers
    match s.kind with
    | .test => (s.callback (.test true)).markSearchComplete
    | .full => { s with wasFound := true }.getAsset server
  else if s.queriedServers = ∅ then
    s.cancelTimeoutTimer.generateNegativeResponse.markSearchComplete
  else s

/-- `onFullAssetRcvd`, called with a plain pointer. -/
def onFullAssetRcvd (server : Server) (asset : Option Asset) (s : AssetSearch Server Asset) :
    AssetSearch Server Asset :=
  let s := if asset.isNone then { s with log := s.log ++ [.transferFailed server] } else s
  if s.active then (s.callback (.full asset)).markSearchComplete
  else { s with undefinedBehaviour := true }

/-- `onTimeout` without an error, called with a plain pointer. -/
def onTimeout (s : AssetSearch Server Asset) : AssetSearch Server Asset :=
  if s.active then
    if s.wasFound then s
    else s.cancelRemainingServers.generateNegativeResponse.markSearchComplete
  else { s with undefinedBehaviour := true }

/-! ## The servers -/

/-- A server that has the search tells it a result, if it still exists. -/
def report (server : Server) (found : Bool) (s : AssetSearch Server Asset) :
    AssetSearch Server Asset :=
  if server ∈ s.registered ∧ s.active = true then
    { s with log := s.log ++ if found then [Note.positive server] else [] }.onSearchResult server found
  else s

/-- `MeshServer::postResponse`. -/
def postResponse (server : Server) (found : Bool) (s : AssetSearch Server Asset) :
    AssetSearch Server Asset :=
  let s := s.report server found
  { s with registered := s.registered.erase server }

/-- `MeshServer::close`: the transfers are ended first, then the searches. -/
def close (server : Server) (s : AssetSearch Server Asset) : AssetSearch Server Asset :=
  let ended := s.transfers.filter (· = server)
  let s := { s with
    connected := s.connected.erase server
    transfers := s.transfers.filter (· ≠ server) }
  (ended.foldl (fun s server => s.onFullAssetRcvd server none) s).report server false

/-- `MeshServer::search`. -/
def search (server : Server) (s : AssetSearch Server Asset) : AssetSearch Server Asset :=
  if server ∈ s.connected then { s with registered := insert server s.registered }
  else s.onSearchResult server false

/-- `initiateSearch`. -/
def initiateSearch (s : AssetSearch Server Asset) (p : Server × PeerStatus) :
    AssetSearch Server Asset :=
  if !p.2.isTimedOut && p.2.readable then
    { s with queriedServers := insert p.1 s.queriedServers }.search p.1
  else s

/-- A new search over the servers of the mesh. -/
def new (kind : SearchKind) (servers : List (Server × PeerStatus)) : AssetSearch Server Asset where
  kind := kind
  active := true
  wasFound := false
  queriedServers := ∅
  timer := .idle
  connected := ((servers.filter fun p => p.2.assetConnectionEstablished).map Prod.fst).toFinset
  registered := ∅
  transfers := []
  posted := []
  log := []
  undefinedBehaviour := false

/-- `performSearch`. -/
def performSearch (kind : SearchKind) (servers : List (Server × PeerStatus)) :
    AssetSearch Server Asset :=
  let s := servers.foldl initiateSearch (new kind servers)
  if s.queriedServers = ∅ then s.generateNegativeResponse.markSearchComplete
  else { s with timer := .waiting }

/-! ## Steps -/

/-- What can happen to a search that has been started. -/
inductive Event (Server Asset : Type)
  /-- An answer of a server to the query. -/
  | answer (server : Server) (found : Bool)
  /-- A server is closed, once or several times. -/
  | close (server : Server)
  /-- A transfer ends with the asset, or without. -/
  | transferred (server : Server) (asset : Option Asset)
  /-- A posted callback runs. -/
  | runPosted (server : Server)
  /-- The completion of the timer is queued. -/
  | expire
  /-- The queued completion of the timer runs. -/
  | timeout

/-- One event. -/
def step (s : AssetSearch Server Asset) : Event Server Asset → Option (AssetSearch Server Asset)
  | .answer server found => some (s.postResponse server found)
  | .close server => some (s.close server)
  | .transferred server asset =>
    if server ∈ s.transfers then
      some ({ s with transfers := s.transfers.erase server }.onFullAssetRcvd server asset)
    else none
  | .runPosted server =>
    if server ∈ s.posted then
      some ({ s with posted := s.posted.erase server }.onFullAssetRcvd server none)
    else none
  | .expire => if s.timer = .waiting then some { s with timer := .expired } else none
  | .timeout => if s.timer = .expired then some ({ s with timer := .idle }.onTimeout) else none

/-! ## One answer -/

/-- What the callback was given, each time it was invoked. -/
def results (s : AssetSearch Server Asset) : List (SearchResult Asset) :=
  s.log.filterMap fun
    | .callback result => some result
    | _ => none

/-- Nothing is left that will happen by itself. -/
def Quiet (s : AssetSearch Server Asset) : Prop :=
  s.timer = .idle ∧ s.transfers = [] ∧ s.posted = []

/-- A negative answer is given only when every transfer from a server with a positive answer has
failed. -/
def Justified (pre : List (Note Server Asset)) (result : SearchResult Asset) : Prop :=
  result.isNegative = true → ∀ server, Note.positive server ∈ pre → Note.transferFailed server ∈ pre

/-- The condition on an event.  While the transfer of the asset is under way no server that still
has the search reports to it; these are the servers that were closed before.  A positive answer
comes from a server with a connection.  The timer completes while the search exists. -/
def orderly (s : AssetSearch Server Asset) : Event Server Asset → Bool
  | .answer server found => decide (server ∈ s.registered ∧ s.active = true →
      s.wasFound = false ∧ (found = true → server ∈ s.connected))
  | .close server => decide (server ∈ s.registered ∧ s.active = true → s.wasFound = false)
  | .timeout => s.active
  | _ => true

/-- The stages of a search. -/
inductive Stage (s : AssetSearch Server Asset) : Prop
  | searching (hactive : s.active = true) (hfound : s.wasFound = false) (htimer : s.timer ≠ .idle)
      (hlog : s.log = []) (htransfers : s.transfers = [])
  | fetching (server : Server) (hactive : s.active = true) (hfound : s.wasFound = true)
      (hlog : s.log = [.positive server]) (htransfers : s.transfers = [server])
      (hregistered : server ∉ s.registered)
  | done (hactive : s.active = false) (pre : List (Note Server Asset))
      (result : SearchResult Asset) (hlog : s.log = pre ++ [.callback result])
      (hpre : ∀ result, Note.callback result ∉ pre) (hresult : Justified pre result)
      (htransfers : s.transfers = [])

/-- A search in one of the stages, in which nothing has gone wrong. -/
structure Sound (s : AssetSearch Server Asset) : Prop where
  defined : s.undefinedBehaviour = false
  posted : s.posted = []
  stage : s.Stage

variable {s s' : AssetSearch Server Asset} {server : Server}

omit [DecidableEq Server] in
lemma justified_nil (result : SearchResult Asset) :
    Justified ([] : List (Note Server Asset)) result := by
  simp [Justified]

omit [DecidableEq Server] in
/-- A search ends with a negative answer before any positive one. -/
lemma sound_negative (hdefined : s.undefinedBehaviour = false) (hposted : s.posted = [])
    (hlog : s.log = []) (htransfers : s.transfers = []) :
    s.generateNegativeResponse.markSearchComplete.Sound := by
  obtain ⟨result, hresult⟩ : ∃ result,
      s.generateNegativeResponse.markSearchComplete.log = [.callback result] :=
    ⟨_, congrArg (· ++ _) hlog⟩
  exact ⟨hdefined, hposted, .done rfl [] result hresult (by simp) (justified_nil _) htransfers⟩

omit [DecidableEq Server] in
/-- A transfer ends. -/
lemma Sound.onFullAssetRcvd (hs : s.Sound) (hactive : s.active = true)
    (hlog : s.log = [.positive server]) (asset : Option Asset) :
    ({ s with transfers := [] }.onFullAssetRcvd server asset).Sound := by
  cases asset with
  | none =>
    simp only [AssetSearch.onFullAssetRcvd, Option.isNone_none, if_true, hactive]
    refine ⟨hs.defined, hs.posted, .done rfl [.positive server, .transferFailed server] (.full none)
      ?_ (by simp) (by simp [Justified]) rfl⟩
    simp [markSearchComplete, callback, hlog]
  | some asset =>
    simp only [AssetSearch.onFullAssetRcvd, Option.isNone_some, Bool.false_eq_true, if_false,
      hactive, if_true]
    refine ⟨hs.defined, hs.posted, .done rfl [.positive server] (.full (some asset)) ?_ (by simp)
      (by simp [Justified, SearchResult.isNegative]) rfl⟩
    simp [markSearchComplete, callback, hlog]

/-- A report of a server to a search that has not found anything. -/
lemma Sound.report (hs : s.Sound)
    (h : server ∈ s.registered ∧ s.active = true → s.wasFound = false) :
    (s.report server false).Sound := by
  unfold AssetSearch.report
  split
  · next hreports =>
    have hnotFound := h hreports
    cases hs.stage with
    | fetching server' ha hf => simp [hf] at hnotFound
    | done ha => simp [ha] at hreports
    | searching ha hf ht hl htr =>
      simp only [onSearchResult, Bool.false_eq_true, if_false, List.append_nil]
      split
      · exact sound_negative hs.defined hs.posted hl htr
      · exact ⟨hs.defined, hs.posted, .searching ha hf ht hl htr⟩
  · exact hs

/-- An answer of a server. -/
lemma Sound.postResponse (hs : s.Sound) {found : Bool}
    (h : server ∈ s.registered ∧ s.active = true →
      s.wasFound = false ∧ (found = true → server ∈ s.connected)) :
    (s.postResponse server found).Sound := by
  -- that the server is erased matters to nothing but the stage with a transfer
  have herase : ∀ {t : AssetSearch Server Asset}, t.Sound →
      { t with registered := t.registered.erase server }.Sound := by
    intro t ht
    refine ⟨ht.defined, ht.posted, ?_⟩
    cases ht.stage with
    | searching ha hf ht hl htr => exact .searching ha hf ht hl htr
    | fetching server' ha hf hl htr hr =>
      exact .fetching server' ha hf hl htr fun hmem => hr (Finset.mem_of_mem_erase hmem)
    | done ha pre result hl hpre hresult htr => exact .done ha pre result hl hpre hresult htr
  cases found with
  | false => exact herase (hs.report fun hreports => (h hreports).1)
  | true =>
    unfold AssetSearch.postResponse AssetSearch.report
    split
    · next hreports =>
      obtain ⟨hnotFound, hconnected⟩ := h hreports
      cases hs.stage with
      | fetching server' ha hf => simp [hf] at hnotFound
      | done ha => simp [ha] at hreports
      | searching ha hf ht hl htr =>
        simp only [onSearchResult, if_true, cancelTimeoutTimer, cancelRemainingServers, hl,
          List.nil_append]
        cases hkind : s.kind with
        | test =>
          exact ⟨hs.defined, hs.posted, .done rfl [.positive server] (.test true) rfl (by simp)
            (by simp [Justified, SearchResult.isNegative]) htr⟩
        | full =>
          refine ⟨hs.defined, ?_, .fetching server ha rfl rfl ?_ ?_⟩
          · exact (if_pos (hconnected rfl)).trans hs.posted
          · simp [getAsset, htr]
          · simp [getAsset]
    · exact herase hs

/-- A server is closed. -/
lemma Sound.close (hs : s.Sound)
    (h : server ∈ s.registered ∧ s.active = true → s.wasFound = false) :
    (s.close server).Sound := by
  unfold AssetSearch.close
  cases hs.stage with
  | searching ha hf ht hl htr =>
    simp only [htr, List.filter_nil, List.foldl_nil]
    exact Sound.report ⟨hs.defined, hs.posted, .searching ha hf ht hl rfl⟩ h
  | done ha pre result hl hpre hresult htr =>
    simp only [htr, List.filter_nil, List.foldl_nil]
    exact Sound.report ⟨hs.defined, hs.posted, .done ha pre result hl hpre hresult rfl⟩ h
  | fetching server' ha hf hl htr hr =>
    by_cases heq : server' = server
    · subst heq
      have hended := Sound.onFullAssetRcvd (s := { s with connected := s.connected.erase server' })
        ⟨hs.defined, hs.posted, .fetching server' ha hf hl htr hr⟩ ha hl none
      simp only [htr, List.filter_cons, decide_true, if_true, List.filter_nil, List.foldl_cons,
        List.foldl_nil, ne_eq, not_true_eq_false, decide_false, Bool.false_eq_true, if_false]
      refine hended.report fun hreports => ?_
      simp [AssetSearch.onFullAssetRcvd, ha, markSearchComplete] at hreports
    · simp only [htr, List.filter_cons, heq, decide_false, Bool.false_eq_true, if_false,
        List.filter_nil, List.foldl_nil, ne_eq, not_false_eq_true, decide_true, if_true]
      exact Sound.report ⟨hs.defined, hs.posted, .fetching server' ha hf hl rfl hr⟩ h

/-- The completion of the timer runs while the search exists. -/
lemma Sound.timeout (hs : s.Sound) (hactive : s.active = true) :
    ({ s with timer := .idle }.onTimeout).Sound := by
  simp only [onTimeout, hactive, if_true]
  cases hs.stage with
  | searching ha hf ht hl htr =>
    rw [if_neg (by simp [hf])]
    exact sound_negative hs.defined hs.posted hl htr
  | fetching server' ha hf hl htr hr =>
    rw [if_pos hf]
    exact ⟨hs.defined, hs.posted, .fetching server' rfl hf hl htr hr⟩
  | done ha => simp [ha] at hactive

lemma Sound.step (hs : s.Sound) {e : Event Server Asset} (he : s.orderly e = true)
    (hstep : s.step e = some s') : s'.Sound := by
  cases e with
  | answer server found =>
    obtain rfl := Option.some.inj hstep
    exact hs.postResponse (of_decide_eq_true he)
  | close server =>
    obtain rfl := Option.some.inj hstep
    exact hs.close (of_decide_eq_true he)
  | transferred server asset =>
    simp only [AssetSearch.step, Option.ite_none_right_eq_some, Option.some.injEq] at hstep
    obtain ⟨hmem, rfl⟩ := hstep
    cases hs.stage with
    | searching ha hf ht hl htr => simp [htr] at hmem
    | done ha pre result hl hpre hresult htr => simp [htr] at hmem
    | fetching server' ha hf hl htr hr =>
      obtain rfl : server = server' := by simpa [htr] using hmem
      simp only [htr, List.erase_cons_head]
      exact hs.onFullAssetRcvd ha hl asset
  | runPosted server =>
    simp only [AssetSearch.step, Option.ite_none_right_eq_some, hs.posted, List.not_mem_nil,
      false_and] at hstep
  | expire =>
    simp only [AssetSearch.step, Option.ite_none_right_eq_some, Option.some.injEq] at hstep
    obtain ⟨-, rfl⟩ := hstep
    refine ⟨hs.defined, hs.posted, ?_⟩
    cases hs.stage with
    | searching ha hf ht hl htr => exact .searching ha hf (by simp) hl htr
    | fetching server' ha hf hl htr hr => exact .fetching server' ha hf hl htr hr
    | done ha pre result hl hpre hresult htr => exact .done ha pre result hl hpre hresult htr
  | timeout =>
    simp only [AssetSearch.step, Option.ite_none_right_eq_some, Option.some.injEq] at hstep
    obtain ⟨-, rfl⟩ := hstep
    exact hs.timeout he

/-! ## Runs -/

/-- What the loop over the servers leaves as it was. -/
structure Fresh (s : AssetSearch Server Asset) : Prop where
  defined : s.undefinedBehaviour = false
  active : s.active = true
  wasFound : s.wasFound = false
  log : s.log = []
  transfers : s.transfers = []
  posted : s.posted = []

/-- A server that can be reached has a connection, so that it does not answer at once. -/
lemma Fresh.initiateSearch (hs : s.Fresh) {p : Server × PeerStatus}
    (hconnected : p.2.assetConnectionEstablished = true → p.1 ∈ s.connected) :
    (s.initiateSearch p).Fresh ∧ (s.initiateSearch p).connected = s.connected := by
  unfold AssetSearch.initiateSearch
  split
  · next h =>
    have hestablished : p.2.assetConnectionEstablished = true := by
      by_contra hno
      simp [PeerStatus.isTimedOut, hno] at h
    rw [search, if_pos (hconnected hestablished)]
    exact ⟨⟨hs.defined, hs.active, hs.wasFound, hs.log, hs.transfers, hs.posted⟩, rfl⟩
  · exact ⟨hs, rfl⟩

lemma Fresh.foldl_initiateSearch (hs : s.Fresh) (servers : List (Server × PeerStatus))
    (hconnected : ∀ p ∈ servers, p.2.assetConnectionEstablished = true → p.1 ∈ s.connected) :
    (servers.foldl AssetSearch.initiateSearch s).Fresh := by
  induction servers generalizing s with
  | nil => exact hs
  | cons p servers ih =>
    obtain ⟨hp, hservers⟩ := List.forall_mem_cons.mp hconnected
    obtain ⟨hfresh, heq⟩ := hs.initiateSearch hp
    exact ih hfresh (by rwa [heq])

lemma sound_performSearch (kind : SearchKind) (servers : List (Server × PeerStatus)) :
    (performSearch kind servers : AssetSearch Server Asset).Sound := by
  have hnew : (new kind servers : AssetSearch Server Asset).Fresh := ⟨rfl, rfl, rfl, rfl, rfl, rfl⟩
  have hs := hnew.foldl_initiateSearch servers (by
    intro p hp hestablished
    simp only [new, List.mem_toFinset, List.mem_map, List.mem_filter]
    exact ⟨p, ⟨hp, hestablished⟩, rfl⟩)
  unfold performSearch
  dsimp only
  split
  · exact sound_negative hs.defined hs.posted hs.log hs.transfers
  · exact ⟨hs.defined, hs.posted, .searching hs.active hs.wasFound (by simp) hs.log hs.transfers⟩

omit [DecidableEq Server] in
/-- In every stage the callback was invoked at most once, and in the end it was. -/
lemma Sound.length_results (hs : s.Sound) :
    s.results.length ≤ 1 ∧ (s.Quiet → s.results.length = 1) := by
  cases hs.stage with
  | searching ha hf ht hl htr => exact ⟨by simp [results, hl], fun h => absurd h.1 ht⟩
  | fetching server' ha hf hl htr hr =>
    refine ⟨by simp [results, hl], fun ⟨_, hnil, _⟩ => ?_⟩
    simp [htr] at hnil
  | done ha pre result hl hpre hresult htr =>
    have hone : s.results.length = 1 := by
      rw [results, hl, List.filterMap_append, List.filterMap_eq_nil_iff.mpr]
      · rfl
      · intro note hnote
        cases note with
        | callback result => exact absurd hnote (hpre result)
        | positive | transferFailed => rfl
    exact ⟨hone.le, fun _ => hone⟩

omit [DecidableEq Server] in
/-- Whenever the callback was invoked it was given a justified result. -/
lemma Sound.justified (hs : s.Sound) {pre post : List (Note Server Asset)}
    {result : SearchResult Asset} (hlog : s.log = pre ++ .callback result :: post) :
    Justified pre result := by
  have hmem : Note.callback result ∈ s.log := by simp [hlog]
  cases hs.stage with
  | searching ha hf ht hl htr => simp [hl] at hmem
  | fetching server' ha hf hl htr hr => simp [hl] at hmem
  | done ha pre' result' hl hpre hresult htr =>
    rw [hl] at hlog
    rcases List.eq_nil_or_concat post with rfl | ⟨post', note, rfl⟩
    · obtain ⟨rfl, heq⟩ := List.append_inj' hlog rfl
      obtain rfl := Note.callback.inj (List.singleton_inj.mp heq)
      exact hresult
    · rw [List.concat_eq_append, ← List.cons_append, ← List.append_assoc] at hlog
      obtain ⟨rfl, -⟩ := List.append_inj' hlog rfl
      exact absurd (by simp) (hpre result)

/-- In every run that meets the condition the callback is invoked exactly once, and not with a
negative result after a positive answer unless the transfer has failed. -/
theorem answered_once_of_meets {kind : SearchKind} {servers : List (Server × PeerStatus)}
    {es : List (Event Server Asset)} (hrun : run step (performSearch kind servers) es = some s)
    (hmeets : Meets step (fun s e => s.orderly e = true) (performSearch kind servers) es) :
    s.undefinedBehaviour = false ∧ s.results.length ≤ 1 ∧ (s.Quiet → s.results.length = 1) ∧
      ∀ pre post result, s.log = pre ++ .callback result :: post → result.isNegative = true →
        ∀ server, Note.positive server ∈ pre → Note.transferFailed server ∈ pre := by
  have hs : s.Sound := invariant_of_meets (P := Sound) (fun s e s' hs he h => hs.step he h) hrun
    hmeets (sound_performSearch kind servers)
  exact ⟨hs.defined, hs.length_results.1, hs.length_results.2,
    fun pre post result hlog => hs.justified hlog⟩

/-- Two servers that can be queried. -/
def twoServers : List (Bool × PeerStatus) :=
  [(false, ⟨true, false, true⟩), (true, ⟨true, false, true⟩)]

/-- One server is closed twice before the other has the asset. -/
theorem answered_once_closedTwice :
    ∃ s, run step (performSearch .full twoServers : AssetSearch Bool Nat)
        [.close false, .close false, .answer true true, .transferred true (some 7)] = some s ∧
      s.Quiet ∧ s.results = [.full (some 7)] ∧ s.results.length = 1 := by
  have hrun : ∃ s, run step (performSearch .full twoServers : AssetSearch Bool Nat)
      [.close false, .close false, .answer true true, .transferred true (some 7)] = some s ∧
      s.Quiet ∧ s.results = [.full (some 7)] := ⟨_, rfl, ⟨rfl, rfl, rfl⟩, rfl⟩
  obtain ⟨s, hrun, hquiet, hresults⟩ := hrun
  exact ⟨s, hrun, hquiet, hresults,
    (answered_once_of_meets hrun (by decide)).2.2.1 hquiet⟩

/-- One server is closed, the other has the asset, and while it is transferred the first one is
closed again: the callback is told that there is no asset. -/
theorem negative_during_transfer :
    ∃ s, run step (performSearch .full twoServers : AssetSearch Bool Nat)
        [.close false, .answer true true, .close false] = some s ∧
      s.transfers = [true] ∧ s.log = [.positive true, .callback (.full none)] :=
  ⟨_, rfl, rfl, rfl⟩

end AssetSearch

end Halcyon.Whip
