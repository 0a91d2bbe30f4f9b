import Halcyon.Whip.Authenticated

/-!
# Every request is answered

A connection of the asset server has one operation outstanding at any time, and while it works on
a request the chain of operations ends in one response, after which it reads the next header.  Two
things break the chain.  A purge with a valid id is never answered: `AssetCache::purgeAsset` is
empty, and so is `VFSBackend::performDiskPurge`.  And a response with data of `2 ^ 31` bytes or
more throws out of a handler.
-/

namespace Halcyon.Whip

open Halcyon.Lib.Transition

namespace CSAuthenticated

/-- The request worked on has been answered. -/
def Outstanding.isAfterAnswer : Outstanding → Bool
  | .readHeader | .writeHeader _ | .writeData _ => true
  | _ => false

/-- The data that a response has is short enough to be counted. -/
def Sendable (response : ServerResponseMsg) : Prop :=
  ∀ data ∈ response.data, data.length < 2 ^ 31

/-- What holds of a connection with one operation outstanding. -/
structure Serving (s : CSAuthenticated) (op : Outstanding) : Prop where
  pending : s.pending = [op]
  answered : Outstanding.isAfterAnswer op = true → s.requests = s.answered.map Prod.fst
  working : Outstanding.isAfterAnswer op = false →
    s.requests = s.answered.map Prod.fst ++ [s.currentRequest]
  sendable : ∀ response, op = .writeHeader response → Sendable response
  notPurging : op ≠ .storagePurge

/-- A connection with nothing outstanding that works on a request. -/
structure Working (s : CSAuthenticated) : Prop where
  pending : s.pending = []
  requests : s.requests = s.answered.map Prod.fst ++ [s.currentRequest]

variable {s s' : CSAuthenticated}

lemma Working.start (hs : s.Working) {op : Outstanding} (h : Outstanding.isAfterAnswer op = false)
    (hpurge : op ≠ .storagePurge) : (s.start op).Serving op where
  pending := by rw [CSAuthenticated.start, hs.pending, List.nil_append]
  answered h' := by simp [h] at h'
  working _ := hs.requests
  sendable response heq := by simp [heq, Outstanding.isAfterAnswer] at h
  notPurging := hpurge

lemma Working.sendResponse (hs : s.Working) {response : ServerResponseMsg}
    (h : Sendable response) : ∃ op, (s.sendResponse response).Serving op := by
  refine ⟨.writeHeader response, ?_, fun _ => ?_, by simp [Outstanding.isAfterAnswer], ?_, by simp⟩
  · rw [CSAuthenticated.sendResponse, CSAuthenticated.start, hs.pending, List.nil_append]
  · simp [CSAuthenticated.sendResponse, CSAuthenticated.start, hs.requests]
  · rintro response' heq
    obtain rfl := Outstanding.writeHeader.inj heq
    exact h

lemma Working.sendPlain (hs : s.Working) (code : ResponseCode) (uuid : Bytes) :
    ∃ op, (s.sendResponse (.plain code uuid)).Serving op :=
  hs.sendResponse (by simp [Sendable, ServerResponseMsg.plain])

lemma Working.sendData (hs : s.Working) (code : ResponseCode) (uuid : Bytes) {data : Bytes}
    (h : data.length < 2 ^ 31) : ∃ op, (s.sendData code uuid data).Serving op := by
  have hlen : data.length < 2 ^ 32 := by omega
  simp only [CSAuthenticated.sendData, ServerResponseMsg.withData, hlen, if_true]
  exact hs.sendResponse (by simpa [Sendable] using h)

lemma length_getUUID_le (header : Bytes) : (getUUID header).length ≤ 32 :=
  List.length_take_le _ _

lemma length_invalidUUIDMessage_lt (header : Bytes) :
    (invalidUUIDMessage (getUUID header)).length < 2 ^ 31 := by
  have htext : "Invalid asset UUID: ".toUTF8.data.toList.length = 20 := by rfl
  have hid := length_getUUID_le header
  simp only [invalidUUIDMessage, List.length_append, htext]
  omega

lemma Working.sendInvalidUUID (hs : s.Working) :
    ∃ op, (s.sendError (invalidUUIDMessage (getUUID s.currentRequest))).Serving op :=
  hs.sendData _ _ (length_invalidUUIDMessage_lt _)

lemma Working.withValidUUID (hs : s.Working) {body : CSAuthenticated → CSAuthenticated}
    (hbody : isValidUUID (getUUID s.currentRequest) = true → ∃ op, (body s).Serving op) :
    ∃ op, (s.withValidUUID body).Serving op := by
  unfold CSAuthenticated.withValidUUID
  split
  · next h => exact hbody h
  · exact hs.sendInvalidUUID

/-! ## Steps -/

/-- A completion that leads to an answer: the header is not that of a purge with a valid id, and
what the storage or the mesh return is short enough to be sent. -/
def Completion.answerable : Completion → Bool
  | headerRead header _ => !(decide (getType header = some .purge) && isValidUUID (getUUID header))
  | storageGet (some data) | storageStore (some data) | meshGet (some data) | status data
  | assetIds data => decide (data.length < 2 ^ 31)
  | _ => true

/-- A connection has one operation outstanding, or is closed. -/
def Alive (s : CSAuthenticated) : Prop :=
  (∃ op, s.Serving op) ∨ s.connected = false ∧ s.pending = []

lemma alive_of_exists (h : ∃ op, s.Serving op) : s.Alive := .inl h

lemma alive_disconnect (s : CSAuthenticated) : s.disconnect.Alive := .inr ⟨rfl, rfl⟩

/-- The operation that completes is the one that was outstanding. -/
lemma Serving.of_mem {op c : Outstanding} (hs : s.Serving op) (h : c ∈ s.pending) :
    c = op ∧ s.pending.erase c = [] := by
  rw [hs.pending] at h ⊢
  obtain rfl := List.mem_singleton.mp h
  exact ⟨rfl, by simp⟩

lemma Serving.working_of_erase {op : Outstanding} (hs : s.Serving op)
    (h : Outstanding.isAfterAnswer op = false) : { s with pending := [] }.Working :=
  ⟨rfl, hs.working h⟩

lemma alive_waitForRequest (hpending : s.pending = [])
    (hrequests : s.requests = s.answered.map Prod.fst) : s.waitForRequest.Alive := by
  refine alive_of_exists ⟨.readHeader, ?_, fun _ => hrequests, ?_, by simp, by simp⟩
  · rw [waitForRequest, CSAuthenticated.start, hpending, List.nil_append]
  · simp [Outstanding.isAfterAnswer]

lemma Working.handleRequest (hs : s.Working) {haveAsset : Bool}
    (hpurge : ¬ (getType s.currentRequest = some .purge ∧
      isValidUUID (getUUID s.currentRequest) = true)) :
    (s.handleRequest haveAsset).Alive := by
  unfold CSAuthenticated.handleRequest
  rcases htype : getType s.currentRequest with _ | type
  · exact alive_disconnect s
  · refine alive_of_exists ?_
    cases type with
    | get | getDontCache =>
      exact hs.withValidUUID fun _ => ⟨_, hs.start rfl (by simp)⟩
    | purge => exact hs.withValidUUID fun hvalid => absurd ⟨htype, hvalid⟩ hpurge
    | put => exact ⟨_, hs.start rfl (by simp)⟩
    | test => exact hs.withValidUUID fun _ => hs.sendPlain _ _
    | maintPurgeLocals => exact hs.sendPlain _ _
    | statusGet | storedAssetIdsGet => exact ⟨_, hs.start rfl (by simp)⟩

lemma Serving.headerRead (hs : s.Serving .readHeader) {header : Bytes} {haveAsset : Bool}
    (h : (Completion.headerRead header haveAsset).answerable = true) :
    ({ s with pending := [] }.handleClientRequestHeaderRead header haveAsset).Alive := by
  have hworking : Working { s with
      pending := [], currentRequest := header, requests := s.requests ++ [header] } :=
    ⟨rfl, by simp [hs.answered rfl]⟩
  refine hworking.handleRequest fun ⟨htype, hvalid⟩ => ?_
  simp only [Completion.answerable] at h
  rw [show getType header = some .purge from htype,
    show isValidUUID (getUUID header) = true from hvalid] at h
  simp at h

/-- Every completion that leads to an answer keeps one operation outstanding. -/
lemma Serving.handler {c : Completion} (hs : s.Serving c.op) (h : c.answerable = true) :
    ({ s with pending := [] }.handler c).Alive := by
  cases c with
  | headerRead header haveAsset => exact hs.headerRead h
  | dataRead data =>
    have hworking := hs.working_of_erase rfl
    refine alive_of_exists ?_
    simp only [CSAuthenticated.handler, handleAssetDataRead]
    split
    · exact ⟨_, hworking.start rfl (by simp)⟩
    · exact hworking.sendInvalidUUID
  | storageGet foundAsset =>
    have hworking := hs.working_of_erase rfl
    refine alive_of_exists ?_
    cases foundAsset with
    | some asset => exact hworking.sendData _ _ (of_decide_eq_true h)
    | none =>
      simp only [CSAuthenticated.handler, handleStorageGetResponse]
      split
      · exact hworking.sendPlain _ _
      · exact ⟨_, hworking.start rfl (by simp)⟩
  | storageStore error =>
    have hworking := hs.working_of_erase rfl
    refine alive_of_exists ?_
    cases error with
    | none => exact hworking.sendPlain _ _
    | some errorMsg => exact hworking.sendData _ _ (of_decide_eq_true h)
  | diskPurge => exact absurd rfl hs.notPurging
  | status text | assetIds text =>
    exact alive_of_exists ((hs.working_of_erase rfl).sendData _ _ (of_decide_eq_true h))
  | meshGet foundAsset =>
    have hworking := hs.working_of_erase rfl
    refine alive_of_exists ?_
    cases foundAsset with
    | some asset => exact hworking.sendData _ _ (of_decide_eq_true h)
    | none => exact hworking.sendPlain _ _
  | headerWritten response =>
    have hsendable := hs.sendable response rfl
    simp only [CSAuthenticated.handler, handleResponseHeaderWrite]
    split
    · next data hdata =>
      rw [if_pos (hsendable data hdata)]
      refine alive_of_exists ⟨.writeData response, rfl, fun _ => hs.answered rfl, ?_, by simp,
        by simp⟩
      simp [Outstanding.isAfterAnswer]
    · exact alive_waitForRequest rfl (hs.answered rfl)
  | dataWritten response => exact alive_waitForRequest rfl (hs.answered rfl)
  | failed op => exact alive_disconnect _

lemma step_eq_some {c : Completion} (h : s.step c = some s') :
    c.op ∈ s.pending ∧ s' = { s with pending := s.pending.erase c.op }.handler c := by
  cases c <;> simp only [step, Option.ite_none_right_eq_some, Option.some.injEq] at h <;>
    first
    | exact ⟨h.1, h.2.symm⟩
    | exact ⟨h.1.1, h.2.symm⟩

lemma Alive.step (hs : s.Alive) {c : Completion} (hc : c.answerable = true)
    (h : s.step c = some s') : s'.Alive := by
  obtain ⟨hmem, rfl⟩ := step_eq_some h
  rcases hs with ⟨op, hs⟩ | ⟨-, hpending⟩
  · obtain ⟨rfl, herase⟩ := hs.of_mem hmem
    rw [herase]
    exact hs.handler hc
  · simp [hpending] at hmem

/-- The id `00000000000000000000000000000001`. -/
def sampleUUID : Bytes := List.replicate 31 48 ++ [49]

end CSAuthenticated

end Halcyon.Whip
