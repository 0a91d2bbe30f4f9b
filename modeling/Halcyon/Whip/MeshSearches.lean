import Halcyon.Lib.Distinct
import Halcyon.Lib.Transition
import Halcyon.Whip.IntraMeshMsg

/-!
# The searches that wait for a server of the mesh

`MeshServer` asks another server of the mesh for assets, over a `MeshQueryConnection` that writes
one query at a time and keeps further ones in a queue.  The searches that wait for the answer are in
`_currentSearches`, a set for each id.  Only a search that finds no set for its id sends a query; an
answer reports to the whole set and removes it.  A search that is cancelled leaves its set, and an
empty set is removed although its query is still on its way.  The next search for the id then sends
a second query, and can be served by the answer to the first.

The peer answers every query once and in order, possibly before the completion handler of the write
has run; there may be heartbeats between the answers.  Both connections stay open.  A search exists
as long as it is registered, and registers itself with a server once.

`registrations`, `notified` and `cancelled` record which searches have been registered, what they
were told, and which were cancelled while they were waiting; `sent` records the queries.
-/

namespace Halcyon.Whip

open Halcyon.Lib Halcyon.Lib.Transition

open scoped List

/-- An `AssetSearch` for a server: which one it is and the id that it searches.  Ids are validated
before they are searched (`handleGetRequest`). -/
structure SearchRef (κ : Type) where
  key : κ
  uuid : Bytes
  valid : isValidUUID uuid = true
  deriving DecidableEq

/-! ## The query connection -/

/-- `MeshQueryConnection`, and the queries whose answers are to come. -/
structure MeshQueryConnection where
  isConnected : Bool
  sendActive : Bool
  sendQueue : List Bytes
  unanswered : List Bytes
  sent : List Bytes

namespace MeshQueryConnection

/-- The connection has been established. -/
def connected : MeshQueryConnection where
  isConnected := true
  sendActive := false
  sendQueue := []
  unanswered := []
  sent := []

/-- `sendQuery`. -/
def sendQuery (uuid : Bytes) (c : MeshQueryConnection) : MeshQueryConnection :=
  { c with
    sendActive := true
    unanswered := c.unanswered ++ [IntraMeshMsg.query uuid]
    sent := c.sent ++ [uuid] }

/-- `search`. -/
def search (uuid : Bytes) (c : MeshQueryConnection) : MeshQueryConnection :=
  if !c.isConnected then c
  else if !c.sendActive then c.sendQuery uuid
  else { c with sendQueue := c.sendQueue ++ [uuid] }

/-- `writeNextMessage`. -/
def writeNextMessage (c : MeshQueryConnection) : MeshQueryConnection :=
  match c.sendQueue with
  | [] => c
  | uuid :: rest => { c.sendQuery uuid with sendQueue := rest }

/-- `onAfterMeshMessageWritten` without an error. -/
def onAfterMeshMessageWritten (c : MeshQueryConnection) : MeshQueryConnection :=
  { c with sendActive := false }.writeNextMessage

/-! ### The line of queries -/

variable {c : MeshQueryConnection} {id : Bytes}

/-- The ids of the queries that are not answered, in the order of their answers. -/
def line (c : MeshQueryConnection) : List Bytes :=
  c.unanswered.map IntraMeshMsg.getAssetUUID ++ c.sendQueue

/-- All queries, written or queued. -/
def queries (c : MeshQueryConnection) : List Bytes := c.sent ++ c.sendQueue

/-- The connection is open, writes while there is a queue, and has queries for valid ids. -/
structure Wire (c : MeshQueryConnection) : Prop where
  isOpen : c.isConnected = true
  queue : c.sendQueue ≠ [] → c.sendActive = true
  packets : ∀ packet ∈ c.unanswered, ∃ id, isValidUUID id = true ∧ packet = IntraMeshMsg.query id
  queued : ∀ id ∈ c.sendQueue, isValidUUID id = true

lemma getAssetUUID_query (hid : isValidUUID id = true) :
    IntraMeshMsg.getAssetUUID (IntraMeshMsg.query id) = id :=
  (IntraMeshMsg.read_query (length_of_isValidUUID hid)).2

lemma Wire.sendQueue_eq_nil (h : c.Wire) (hactive : c.sendActive = false) : c.sendQueue = [] := by
  by_contra hne
  rw [h.queue hne] at hactive
  cases hactive

lemma forall_mem_concat_query {packets : List Bytes}
    (h : ∀ packet ∈ packets, ∃ id, isValidUUID id = true ∧ packet = IntraMeshMsg.query id)
    (hid : isValidUUID id = true) : ∀ packet ∈ packets ++ [IntraMeshMsg.query id],
      ∃ id, isValidUUID id = true ∧ packet = IntraMeshMsg.query id := by
  intro packet hpacket
  rcases List.mem_append.mp hpacket with hold | hnew
  · exact h packet hold
  · exact ⟨id, hid, List.mem_singleton.mp hnew⟩

lemma search_of_idle (hopen : c.isConnected = true) (hactive : c.sendActive = false) :
    c.search id = c.sendQuery id := by
  rw [search, hopen, hactive]
  rfl

lemma search_of_active (hopen : c.isConnected = true) (hactive : c.sendActive = true) :
    c.search id = { c with sendQueue := c.sendQueue ++ [id] } := by
  rw [search, hopen, hactive]
  rfl

/-- A query is written at once or waits; it is the last one in the line. -/
lemma Wire.search (h : c.Wire) (hid : isValidUUID id = true) :
    (c.search id).Wire ∧ (c.search id).line = c.line ++ [id] ∧
      (c.search id).queries ~ id :: c.queries := by
  rcases Bool.eq_false_or_eq_true c.sendActive with hactive | hactive
  · rw [search_of_active h.isOpen hactive]
    refine ⟨⟨h.isOpen, fun _ => hactive, h.packets, ?_⟩, ?_, ?_⟩
    · intro uuid huuid
      rcases List.mem_append.mp huuid with hold | hnew
      · exact h.queued uuid hold
      · rw [List.mem_singleton.mp hnew]
        exact hid
    · rw [line, line, List.append_assoc]
    · rw [queries, queries, ← List.append_assoc]
      exact List.perm_append_singleton id _
  · rw [search_of_idle h.isOpen hactive]
    have hnil := h.sendQueue_eq_nil hactive
    refine ⟨⟨h.isOpen, fun _ => rfl, forall_mem_concat_query h.packets hid, h.queued⟩, ?_, ?_⟩
    · simp only [line, sendQuery, hnil, List.map_append, List.map_cons, List.map_nil,
        List.append_nil, getAssetUUID_query hid]
    · simp only [queries, sendQuery, hnil, List.append_nil]
      exact List.perm_append_singleton id c.sent

lemma onAfterMeshMessageWritten_nil (hqueue : c.sendQueue = []) :
    c.onAfterMeshMessageWritten = { c with sendActive := false } := by
  simp only [onAfterMeshMessageWritten, writeNextMessage, hqueue]

lemma onAfterMeshMessageWritten_cons {rest : List Bytes} (hqueue : c.sendQueue = id :: rest) :
    c.onAfterMeshMessageWritten = { c.sendQuery id with sendQueue := rest } := by
  simp only [onAfterMeshMessageWritten, writeNextMessage, hqueue, sendQuery]

/-- After a write the next query is written; the line stays as it is. -/
lemma Wire.written (h : c.Wire) :
    c.onAfterMeshMessageWritten.Wire ∧ c.onAfterMeshMessageWritten.line = c.line ∧
      c.onAfterMeshMessageWritten.queries = c.queries := by
  cases hqueue : c.sendQueue with
  | nil =>
    rw [onAfterMeshMessageWritten_nil hqueue]
    exact ⟨⟨h.isOpen, fun hne => absurd hqueue hne, h.packets, h.queued⟩, rfl, rfl⟩
  | cons id rest =>
    have hvalid := h.queued
    rw [hqueue] at hvalid
    obtain ⟨hid, hrest⟩ := List.forall_mem_cons.mp hvalid
    rw [onAfterMeshMessageWritten_cons hqueue]
    refine ⟨⟨h.isOpen, fun _ => rfl, forall_mem_concat_query h.packets hid, hrest⟩, ?_, ?_⟩
    · simp only [line, sendQuery, hqueue, List.map_append, List.map_cons, List.map_nil,
        List.append_assoc, List.singleton_append, getAssetUUID_query hid]
    · simp only [queries, sendQuery, hqueue, List.append_assoc, List.singleton_append]

end MeshQueryConnection

/-! ## The searches -/

/-- `MeshServer`. -/
structure MeshServer (κ : Type) where
  assetConnectionEstablished : Bool
  currentSearches : Dict Bytes (List (SearchRef κ))
  meshQueryConnection : MeshQueryConnection
  registrations : List (SearchRef κ)
  notified : List (SearchRef κ × Bool)
  cancelled : List (SearchRef κ)

namespace MeshServer

variable {κ : Type}

/-- Both connections have been established. -/
def connected : MeshServer κ where
  assetConnectionEstablished := true
  currentSearches := []
  meshQueryConnection := .connected
  registrations := []
  notified := []
  cancelled := []

section Steps

variable [DecidableEq κ]

/-- `search`. -/
def search (search : SearchRef κ) (s : MeshServer κ) : MeshServer κ :=
  let s := { s with registrations := s.registrations ++ [search] }
  if !s.assetConnectionEstablished then { s with notified := s.notified ++ [(search, false)] }
  else
    match s.currentSearches.get? search.uuid with
    | none =>
      { s with
        currentSearches := s.currentSearches.add search.uuid [search]
        meshQueryConnection := s.meshQueryConnection.search search.uuid }
    | some _ =>
      { s with
        currentSearches := s.currentSearches.modify search.uuid fun set => insertNew set search }

/-- `postResponse`. -/
def postResponse (uuid : Bytes) (found : Bool) (s : MeshServer κ) : MeshServer κ :=
  match s.currentSearches.get? uuid with
  | none => s
  | some set =>
    { s with
      notified := s.notified ++ set.map fun search => (search, found)
      currentSearches := s.currentSearches.erase uuid }

/-- `onQueryAnswerRcvd`; the time and the flags of heartbeats are not part of the state. -/
def onQueryAnswerRcvd (inbound : Bytes) (s : MeshServer κ) : MeshServer κ :=
  if IntraMeshMsg.validate inbound then
    if IntraMeshMsg.getRequestType inbound = some .statusHeartbeat then s
    else if IntraMeshMsg.getRequestType inbound = some .meshResponse ∧
        IntraMeshMsg.getQueryResult inbound = some .found then
      s.postResponse (IntraMeshMsg.getAssetUUID inbound) true
    else s.postResponse (IntraMeshMsg.getAssetUUID inbound) false
  else s

/-- `cancelSearch`. -/
def cancelSearch (search : SearchRef κ) (s : MeshServer κ) : MeshServer κ :=
  match s.currentSearches.get? search.uuid with
  | none => s
  | some set =>
    let searches := s.currentSearches.modify search.uuid fun set => set.erase search
    { s with
      currentSearches := if set.erase search = [] then searches.erase search.uuid else searches
      cancelled := s.cancelled ++ if search ∈ set then [search] else [] }

/-- What happens to a server: a search registers or is cancelled, a write completes, the peer
answers the oldest query or sends a heartbeat. -/
inductive Event (κ : Type)
  | search (search : SearchRef κ)
  | cancelSearch (search : SearchRef κ)
  | written
  | answered (result : IntraMeshMsg.QueryResult)
  | heartbeat (flags : Int32)
  deriving DecidableEq

/-- One event. -/
def step (s : MeshServer κ) : Event κ → Option (MeshServer κ)
  | .search search => if search ∉ s.registrations then some (s.search search) else none
  | .cancelSearch search => some (s.cancelSearch search)
  | .written =>
    if s.meshQueryConnection.sendActive then
      some { s with meshQueryConnection := s.meshQueryConnection.onAfterMeshMessageWritten }
    else none
  | .answered result =>
    match s.meshQueryConnection.unanswered with
    | [] => none
    | packet :: rest =>
      some <| { s with
          meshQueryConnection := { s.meshQueryConnection with unanswered := rest }
        }.onQueryAnswerRcvd (IntraMeshMsg.response (IntraMeshMsg.getAssetUUID packet) result)
  | .heartbeat flags => some (s.onQueryAnswerRcvd (IntraMeshMsg.heartbeat flags))

end Steps

/-! ## The searches that wait -/

section Registry

variable {s : MeshServer κ} {id : Bytes} {r : SearchRef κ} {set : List (SearchRef κ)}

/-- The searches that wait for an id. -/
def registered (s : MeshServer κ) (id : Bytes) : List (SearchRef κ) :=
  (s.currentSearches.get? id).getD []

/-- All searches that wait. -/
def waiting (s : MeshServer κ) : List (SearchRef κ) := s.currentSearches.flatMap Prod.snd

/-- The sets have searches for their ids, and each search that was registered waits, has been
notified or has been cancelled. -/
structure Registry (s : MeshServer κ) : Prop where
  established : s.assetConnectionEstablished = true
  keys : s.currentSearches.keys.Nodup
  sets : ∀ id set, s.currentSearches.get? id = some set → set ≠ [] ∧ ∀ r ∈ set, r.uuid = id
  ledger : s.waiting ++ (s.notified.map Prod.fst ++ s.cancelled) ~ s.registrations
  fresh : s.registrations.Nodup

lemma waiting_perm (h : s.Registry) (hset : s.currentSearches.get? id = some set) :
    s.waiting ~ set ++ (s.currentSearches.erase id).flatMap Prod.snd :=
  (Dict.perm_erase h.keys hset).flatMap_right Prod.snd

lemma mem_waiting_of_mem (hset : s.currentSearches.get? id = some set) (hr : r ∈ set) :
    r ∈ s.waiting :=
  List.mem_flatMap.mpr ⟨_, Dict.mem_of_get? hset, hr⟩

lemma mem_registrations_of_mem (h : s.Registry) (hr : r ∈ s.waiting) : r ∈ s.registrations :=
  h.ledger.subset (List.mem_append_left _ hr)

lemma fresh_concat (h : s.Registry) (hr : r ∉ s.registrations) :
    (s.registrations ++ [r]).Nodup := by
  refine List.nodup_append.mpr ⟨h.fresh, List.nodup_singleton r, ?_⟩
  rintro a ha b hb rfl
  rw [List.mem_singleton.mp hb] at ha
  exact hr ha

/-- The first search for an id. -/
lemma Registry.add (h : s.Registry) (hnone : s.currentSearches.get? r.uuid = none)
    (hr : r ∉ s.registrations) :
    Registry { s with
      registrations := s.registrations ++ [r]
      currentSearches := s.currentSearches.add r.uuid [r] } where
  established := h.established
  keys := by
    rw [Dict.keys_add, List.nodup_append]
    refine ⟨h.keys, List.nodup_singleton _, ?_⟩
    rintro a ha b hb rfl
    rw [List.mem_singleton.mp hb] at ha
    exact Dict.get?_eq_none_iff.mp hnone ha
  sets := by
    intro id set hset
    rw [Dict.get?_add, Option.or_eq_some_iff] at hset
    rcases hset with hold | ⟨-, hnew⟩
    · exact h.sets id set hold
    · obtain ⟨rfl, rfl⟩ := (Option.ite_none_right_eq_some.mp hnew).imp_right Option.some.inj
      exact ⟨List.cons_ne_nil _ _, fun r' hr' => by rw [List.mem_singleton.mp hr']⟩
  ledger := by
    have hwaiting : (s.currentSearches.add r.uuid [r]).flatMap Prod.snd ~ r :: s.waiting := by
      rw [Dict.add, List.flatMap_append, List.flatMap_singleton]
      exact List.perm_append_singleton r _
    exact ((hwaiting.append_right _).trans (h.ledger.cons r)).trans
      (List.perm_append_singleton r _).symm
  fresh := fresh_concat h hr

/-- An answer reports to the whole set. -/
lemma Registry.post (h : s.Registry) (hset : s.currentSearches.get? id = some set) (found : Bool) :
    Registry { s with
      notified := s.notified ++ set.map fun search => (search, found)
      currentSearches := s.currentSearches.erase id } where
  established := h.established
  keys := by
    rw [Dict.keys_erase]
    exact h.keys.filter _
  sets := by
    intro id' set' hset'
    rw [Dict.get?_erase] at hset'
    split_ifs at hset'
    exact h.sets id' set' hset'
  ledger := by
    have hmap : (s.notified ++ set.map fun search => (search, found)).map Prod.fst =
        s.notified.map Prod.fst ++ set := by
      rw [List.map_append, List.map_map]
      exact congrArg _ (List.map_id set)
    refine List.Perm.trans ?_ (((waiting_perm h hset).append_right _).symm.trans h.ledger)
    rw [waiting, hmap, List.append_assoc, List.append_assoc]
    exact ((List.perm_append_comm_assoc _ set _).append_left _).trans
      (List.perm_append_comm_assoc _ set _)
  fresh := h.fresh

variable [DecidableEq κ]

/-- A further search for an id. -/
lemma Registry.join (h : s.Registry) (hset : s.currentSearches.get? r.uuid = some set)
    (hr : r ∉ s.registrations) :
    Registry { s with
      registrations := s.registrations ++ [r]
      currentSearches := s.currentSearches.modify r.uuid fun set => insertNew set r } where
  established := h.established
  keys := by
    rw [Dict.keys_modify]
    exact h.keys
  sets := by
    intro id set' hset'
    rw [Dict.get?_modify] at hset'
    split_ifs at hset' with hid
    · subst hid
      obtain ⟨old, hold, rfl⟩ := Option.map_eq_some_iff.mp hset'
      obtain ⟨-, huuid⟩ := h.sets _ _ hold
      refine ⟨insertNew_ne_nil, fun r' hr' => ?_⟩
      rcases mem_insertNew.mp hr' with hr' | rfl
      · exact huuid r' hr'
      · rfl
    · exact h.sets id set' hset'
  ledger := by
    have hnot : r ∉ set := fun hmem =>
      hr (mem_registrations_of_mem h (mem_waiting_of_mem hset hmem))
    have hwaiting : (s.currentSearches.modify r.uuid fun set => insertNew set r).flatMap Prod.snd ~
        r :: s.waiting := by
      calc (s.currentSearches.modify r.uuid fun set => insertNew set r).flatMap Prod.snd
          ~ insertNew set r ++ (s.currentSearches.erase r.uuid).flatMap Prod.snd :=
            (Dict.modify_perm h.keys hset _).flatMap_right Prod.snd
        _ ~ (r :: set) ++ (s.currentSearches.erase r.uuid).flatMap Prod.snd := by
            rw [insertNew, if_neg hnot]
            exact (List.perm_append_singleton r set).append_right _
        _ ~ r :: s.waiting := (waiting_perm h hset).symm.cons r
    exact ((hwaiting.append_right _).trans (h.ledger.cons r)).trans
      (List.perm_append_singleton r _).symm
  fresh := fresh_concat h hr

/-- A search that is cancelled leaves its set, and an empty set is removed. -/
lemma Registry.cancel (h : s.Registry) (hset : s.currentSearches.get? r.uuid = some set) :
    Registry { s with
      currentSearches :=
        if set.erase r = [] then (s.currentSearches.modify r.uuid fun set => set.erase r).erase r.uuid
        else s.currentSearches.modify r.uuid fun set => set.erase r
      cancelled := s.cancelled ++ if r ∈ set then [r] else [] } where
  established := h.established
  keys := by
    dsimp only
    split_ifs
    · rw [Dict.erase_modify, Dict.keys_erase]
      exact h.keys.filter _
    · rw [Dict.keys_modify]
      exact h.keys
  sets := by
    intro id set' hset'
    dsimp only at hset'
    split_ifs at hset' with hempty
    · rw [Dict.erase_modify, Dict.get?_erase] at hset'
      split_ifs at hset'
      exact h.sets id set' hset'
    · rw [Dict.get?_modify] at hset'
      split_ifs at hset' with hid
      · subst hid
        rw [hset, Option.map_some, Option.some_inj] at hset'
        subst hset'
        exact ⟨hempty, fun r' hr' => (h.sets _ _ hset).2 r' (List.mem_of_mem_erase hr')⟩
      · exact h.sets id set' hset'
  ledger := by
    have hwaiting : List.flatMap Prod.snd
        (if set.erase r = [] then
          (s.currentSearches.modify r.uuid fun set => set.erase r).erase r.uuid
        else s.currentSearches.modify r.uuid fun set => set.erase r) ~
        set.erase r ++ (s.currentSearches.erase r.uuid).flatMap Prod.snd := by
      split_ifs with hempty
      · rw [Dict.erase_modify, hempty, List.nil_append]
      · exact (Dict.modify_perm h.keys hset _).flatMap_right Prod.snd
    refine (hwaiting.append_right _).trans ?_
    refine List.Perm.trans ?_ (((waiting_perm h hset).append_right _).symm.trans h.ledger)
    dsimp only
    split_ifs with hmem
    · have hcancelled : s.notified.map Prod.fst ++ (s.cancelled ++ [r]) ~
          r :: (s.notified.map Prod.fst ++ s.cancelled) := by
        rw [← List.append_assoc]
        exact List.perm_append_singleton r _
      refine (hcancelled.append_left _).trans (List.perm_middle.trans ?_)
      exact (((List.perm_cons_erase hmem).append_right _).append_right _).symm
    · rw [List.append_nil, List.erase_of_not_mem hmem]
  fresh := h.fresh

end Registry

end MeshServer

end Halcyon.Whip
