import Halcyon.Aperture.Range
import Halcyon.Lib.Transition
import Halcyon.Lib.Waiters

/-!
# The request handler

`request_handler` serves requests for assets under capabilities, and the commands that add, remove,
pause, resume and limit capabilities.  A request for an asset is looked up in the cache, with the
asset server or with cloud files, and completed when the answer comes; under a paused capability it
waits in a queue.

Every request comes with a completion callback, which is the number of the request.  `handleRequest`
and `assetResponseCallback` are the two entries.  What the cache holds and whether the asset server
is connected is part of the event.  An exception that nobody catches ends the loop that runs all
callbacks, and nothing is defined after a read outside an array; both are the state `ended`.
-/

namespace Halcyon.Aperture

open Lib Lib.Transition
open Whip (Bytes)
open scoped List

/-! ## Query strings -/

/-- The digits of `std::hex`. -/
def hexDigit (c : Char) : Option Nat :=
  if '0' ≤ c ∧ c ≤ '9' then some (c.toNat - '0'.toNat)
  else if 'a' ≤ c ∧ c ≤ 'f' then some (c.toNat - 'a'.toNat + 10)
  else if 'A' ≤ c ∧ c ≤ 'F' then some (c.toNat - 'A'.toNat + 10)
  else none

/-- The hexadecimal number that a text starts with. -/
def hexNumber (digits : Text) : Option Nat :=
  match digits.map hexDigit |>.takeWhile Option.isSome |>.reduceOption with
  | [] => none
  | ds => some (ds.foldl (fun n d => 16 * n + d) 0)

/-- `isspace`. -/
def isSpace (c : Char) : Bool := c = ' ' || (9 ≤ c.toNat && c.toNat ≤ 13)

/-- `is >> std::hex >> value` on two characters: blanks are skipped, a sign is read, and a base
without digits is an error. -/
def hexValue (chars : Text) : Option Int :=
  match chars.dropWhile isSpace with
  | ['0', 'x'] | ['0', 'X'] => none
  | '-' :: digits => (hexNumber digits).map fun n => -(n : Int)
  | '+' :: digits => (hexNumber digits).map Int.ofNat
  | digits => (hexNumber digits).map Int.ofNat

/-- `static_cast<char>`. -/
def charOf (value : Int) : Char := Char.ofNat (value % 256).toNat

/-- `url_decode`. -/
def urlDecode : Text → Option Text
  | [] => some []
  | '%' :: a :: b :: rest => do
    let value ← hexValue [a, b]
    let out ← urlDecode rest
    return charOf value :: out
  | '%' :: _ => none
  | '+' :: rest => (urlDecode rest).map (' ' :: ·)
  | c :: rest => (urlDecode rest).map (c :: ·)

/-- `DecodeState`; after `DS_INVALID` the loop ends. -/
inductive DecodeState
  | begin
  | inParamName
  | inParamVal
  deriving DecidableEq

/-- `retQuery[name] = val`, with the name in lower case. -/
def setParam (query : Dict Text Text) (name val : Text) : Dict Text Text :=
  Dict.add (Dict.erase query (name.map Char.toLower)) (name.map Char.toLower) val

/-- The loop of `decode_query_string`: the parameters read so far, and what is known of the one
being read. -/
def decodeLoop : Dict Text Text → DecodeState → Text → Text → Text → Dict Text Text
  | query, state, name, val, [] =>
    if state = .inParamVal then
      match urlDecode name, urlDecode val with
      | some name, some val => setParam query name val
      | _, _ => query
    else query
  | query, state, name, val, c :: rest =>
    if c = '?' then decodeLoop query .inParamName name val rest
    else if c = '&' ∨ c = ';' then
      if state = .begin ∨ state = .inParamName then query
      else
        match urlDecode name, urlDecode val with
        | some name, some val => decodeLoop (setParam query name val) .begin [] [] rest
        | _, _ => query
    else if c = '=' then
      if state = .begin ∨ state = .inParamVal then query
      else decodeLoop query .inParamVal name val rest
    else
      match state with
      | .inParamName => decodeLoop query state (name ++ [c]) val rest
      | .inParamVal => decodeLoop query state name (val ++ [c]) rest
      | .begin => decodeLoop query state name val rest

/-- `decode_query_string`. -/
def decodeQueryString (url : Text) : Dict Text Text := decodeLoop [] .begin [] [] url

/-- A capability is looked up by comparing it with the valid ones. -/
local instance decidableValid (cap : Text) (caps : List Text) : Decidable (cap ∈ caps) :=
  decidable_of_iff (∃ valid ∈ caps, valid = cap) (by simp)

/-- `IsValidUUID`. -/
def isValidUUID (uuid : Text) : Bool :=
  uuid.length = 32 && uuid.all fun ch => ('0' ≤ ch && ch ≤ '9') || ('a' ≤ ch && ch ≤ 'f')

/-! ## The state -/

/-- The words of the paths. -/
def capsWord : Text := "CAPS".toList
@[inherit_doc capsWord]
def httWord : Text := "HTT".toList
@[inherit_doc capsWord]
def addCapWord : Text := "ADDCAP".toList
@[inherit_doc capsWord]
def remCapWord : Text := "REMCAP".toList
@[inherit_doc capsWord]
def pauseWord : Text := "PAUSE".toList
@[inherit_doc capsWord]
def resumeWord : Text := "RESUME".toList
@[inherit_doc capsWord]
def limitWord : Text := "LIMIT".toList
@[inherit_doc capsWord]
def textureIdWord : Text := "texture_id".toList
@[inherit_doc capsWord]
def meshIdWord : Text := "mesh_id".toList

/-- What the handler is started with. -/
structure HandlerConfig where
  capsToken : Text
  hasWhip : Bool
  hasCloudFiles : Bool
  useCache : Bool

/-- `PackedRequestInfo`; `ticket` stands for the completion callback. -/
structure PackedRequestInfo where
  assetId : Text
  ticket : Nat
  reply : Reply
  request : Request
  servedFromCache : Bool
  servedFromWhip : Bool
  servedFromCF : Bool

/-- The backend of a lookup. -/
inductive Backend
  | whip
  | cloudFiles
  deriving DecidableEq

/-- `request_handler`. -/
structure Handler where
  validCapIds : List Text
  queuedRequests : Dict Text (List PackedRequestInfo)
  /-- The bandwidth of the bucket of a capability. -/
  capsBuckets : Dict Text Int
  /-- Ghost: lookups that are not answered yet. -/
  outstanding : List (Backend × PackedRequestInfo)
  /-- Ghost: the requests given to the handler. -/
  given : List Request
  /-- Ghost: the completions, with the reply. -/
  completed : List (Nat × Reply)
  ended : Bool

namespace Handler

/-- A handler without capabilities. -/
def new : Handler := ⟨[], [], [], [], [], [], false⟩

/-- The reply is set and the completion callback called. -/
def complete (s : Handler) (ticket : Nat) (rep : Reply) : Handler :=
  { s with completed := s.completed ++ [(ticket, rep)] }

/-- A completion with a stock reply. -/
def completeStock (s : Handler) (ticket : Nat) (status : Status) : Handler :=
  s.complete ticket (.stock status none)

/-- `getAsset` of a backend. -/
def lookup (s : Handler) (backend : Backend) (info : PackedRequestInfo) : Handler :=
  { s with outstanding := s.outstanding ++ [(backend, info)] }

section Requests

variable {P : Platform} (cfg : HandlerConfig) (whipConnected : Bool)
  (cached : Text → Option (IAsset P))

/-- `asset_response_callback`. -/
def assetResponseCallback (s : Handler) (info : PackedRequestInfo) (asset : Option (IAsset P)) :
    Handler :=
  match asset with
  | none =>
    if info.servedFromWhip && cfg.hasCloudFiles then
      s.lookup .cloudFiles { info with servedFromWhip := false, servedFromCF := true }
    else s.completeStock info.ticket .notFound
  | some asset =>
    match assetReply info.request.headers info.reply asset with
    | .done rep => s.complete info.ticket rep
    | _ => { s with ended := true }

/-- `processRequest`. -/
def processRequest (s : Handler) (info : PackedRequestInfo) : Handler :=
  match if cfg.useCache then cached info.assetId else none with
  | some asset => s.assetResponseCallback cfg { info with servedFromCache := true } (some asset)
  | none =>
    if cfg.hasWhip && whipConnected then s.lookup .whip { info with servedFromWhip := true }
    else if cfg.hasCloudFiles then s.lookup .cloudFiles { info with servedFromCF := true }
    else s.completeStock info.ticket .internalServerError

/-- `MAX_QUEUED_REQUESTS`. -/
def maxQueuedRequests : Nat := 50

/-- A request under a paused capability is queued; when there are too many, the oldest is
refused. -/
def enqueue (s : Handler) (cap : Text) (queue : List PackedRequestInfo) (info : PackedRequestInfo) :
    Handler :=
  match queue ++ [info] with
  | front :: rest =>
    if (front :: rest).length > maxQueuedRequests then
      completeStock { s with queuedRequests := Dict.modify s.queuedRequests cap fun _ => rest }
        front.ticket .serviceUnavailable
    else { s with queuedRequests := Dict.modify s.queuedRequests cap fun _ => front :: rest }
  | [] => s

/-- `handle_asset_request`. -/
def handleAssetRequest (s : Handler) (req : Request) (rep : Reply) (ticket : Nat)
    (urlParts : List Text) : Handler :=
  if urlParts.length < 5 then s.completeStock ticket .badRequest
  else
    let queryString := decodeQueryString req.uri
    match (Dict.get? queryString textureIdWord).or (Dict.get? queryString meshIdWord) with
    | none => s.completeStock ticket .badRequest
    | some assetId =>
      let assetId := assetId.filter (· ≠ '-')
      let cap := urlParts.getD 3 []
      if !isValidUUID assetId then s.completeStock ticket .badRequest
      else if cap ∉ s.validCapIds then s.completeStock ticket .notFound
      else
        let info : PackedRequestInfo :=
          ⟨assetId, ticket, { rep with token := cap }, req, false, false, false⟩
        match Dict.get? s.queuedRequests cap with
        | some queue => s.enqueue cap queue info
        | none => s.processRequest cfg whipConnected cached info

end Requests

section Commands

variable (cfg : HandlerConfig) (ticket : Nat) (urlParts : List Text)

/-- A command on a capability: it needs a number of parts of the path and the right token. -/
def command (s : Handler) (need : Nat) (action : Text → Handler) : Handler :=
  if urlParts.length < need then s.completeStock ticket .badRequest
  else if urlParts.getD 4 [] ≠ cfg.capsToken then s.completeStock ticket .badRequest
  else action (urlParts.getD 5 [])

/-- `handle_add_cap`: a bandwidth that is no number is not caught. -/
def handleAddCap (s : Handler) : Handler :=
  s.command cfg ticket urlParts 6 fun cap =>
    let s := { s with validCapIds := s.validCapIds.insert cap }
    if urlParts.length = 7 then
      match lexicalCastInt (urlParts.getD 6 []) with
      | some bandwidth =>
        completeStock { s with
          capsBuckets := Dict.add (Dict.erase s.capsBuckets cap) cap bandwidth } ticket .ok
      | none => { s with ended := true }
    else s.completeStock ticket .ok

/-- `handle_rem_cap`: the queue of the capability goes with it. -/
def handleRemCap (s : Handler) : Handler :=
  s.command cfg ticket urlParts 6 fun cap =>
    completeStock { s with
      validCapIds := s.validCapIds.filter (· ≠ cap)
      queuedRequests := Dict.erase s.queuedRequests cap
      capsBuckets := Dict.erase s.capsBuckets cap } ticket .ok

/-- `handle_pause_cap`. -/
def handlePauseCap (s : Handler) : Handler :=
  s.command cfg ticket urlParts 6 fun cap =>
    match Dict.get? s.queuedRequests cap with
    | none =>
      completeStock { s with queuedRequests := Dict.add s.queuedRequests cap [] } ticket .ok
    | some _ => s.completeStock ticket .ok

/-- `VIEWER_BW_MAX` and `REPLACEMENT_BW`. -/
def limitOf (bwLimit : Int) : Int := if bwLimit ≥ 319000 then max 625000 bwLimit else bwLimit

/-- `handle_limit_cap`. -/
def handleLimitCap (s : Handler) : Handler :=
  s.command cfg ticket urlParts 7 fun cap =>
    match lexicalCastInt (urlParts.getD 6 []) with
    | none => s.completeStock ticket .badRequest
    | some bwLimit =>
      if cap ∉ s.validCapIds then s.completeStock ticket .badRequest
      else
        completeStock { s with
          capsBuckets := Dict.add (Dict.erase s.capsBuckets cap) cap (limitOf bwLimit) } ticket .ok

variable {P : Platform} (whipConnected : Bool) (cached : Text → Option (IAsset P))

/-- The loop of `handle_resume_cap` over the copy of the queue. -/
def resumeQueue (s : Handler) : List PackedRequestInfo → Handler
  | [] => s
  | info :: queue =>
    if (s.processRequest cfg whipConnected cached info).ended then
      s.processRequest cfg whipConnected cached info
    else resumeQueue (s.processRequest cfg whipConnected cached info) queue

/-- `handle_resume_cap`. -/
def handleResumeCap (s : Handler) : Handler :=
  s.command cfg ticket urlParts 6 fun cap =>
    match Dict.get? s.queuedRequests cap with
    | none => s.completeStock ticket .ok
    | some queue =>
      let s := s.resumeQueue cfg whipConnected cached queue
      if s.ended then s
      else completeStock { s with queuedRequests := Dict.erase s.queuedRequests cap } ticket .ok

end Commands

section Dispatch

variable {P : Platform} (cfg : HandlerConfig) (whipConnected : Bool)
  (cached : Text → Option (IAsset P))

/-- The parts of the path. -/
def pathParts (uri : Text) : List Text := uri.splitOn '/'

/-- `handle_request`. -/
def handleRequest (s : Handler) (req : Request) (rep : Reply) (ticket : Nat) : Handler :=
  let reqParts := pathParts req.uri
  if reqParts.length < 5 then s.completeStock ticket .badRequest
  else if reqParts.getD 1 [] ≠ capsWord ∨ reqParts.getD 2 [] ≠ httWord then
    s.completeStock ticket .badRequest
  else if reqParts.getD 3 [] = addCapWord then s.handleAddCap cfg ticket reqParts
  else if reqParts.getD 3 [] = remCapWord then s.handleRemCap cfg ticket reqParts
  else if reqParts.getD 3 [] = pauseWord then s.handlePauseCap cfg ticket reqParts
  else if reqParts.getD 3 [] = resumeWord then
    s.handleResumeCap cfg ticket reqParts whipConnected cached
  else if reqParts.getD 3 [] = limitWord then s.handleLimitCap cfg ticket reqParts
  else s.handleAssetRequest cfg whipConnected cached req rep ticket reqParts

end Dispatch

end Handler

/-! ## Replies with an asset -/

/-- The asset is parsed inside its array. -/
def IAsset.Fits {P : Platform} : IAsset P → Prop
  | whip a => LengthsFit a.data
  | cloudFiles _ => True

section Fits

variable {P : Platform} {asset : IAsset P}

lemma IAsset.inside_getType (h : asset.Fits) : ∃ type, asset.getType = .done type := by
  cases asset with
  | whip a =>
    obtain ⟨name, desc, -, -, hsize, -⟩ := h
    exact ⟨_, readAt_eq_done.mpr (List.getElem?_eq_getElem (by omega))⟩
  | cloudFiles a => exact ⟨_, rfl⟩

lemma IAsset.inside_getBinaryDataSize (h : asset.Fits) :
    ∃ size, asset.getBinaryDataSize = .done size := by
  cases asset with
  | whip a =>
    obtain ⟨name, desc, hname, hdesc, hsize, -⟩ := h
    have hfields : a.Fields name desc := ⟨hname, hdesc, hsize⟩
    refine ⟨a.reportedSize name desc, ?_⟩
    rw [IAsset.getBinaryDataSize, Asset.getBinaryDataSize,
      Asset.findDataLocationAndSize_of_fields hfields]
    rfl
  | cloudFiles a => exact ⟨_, rfl⟩

lemma IAsset.inside_copyAssetData (h : asset.Fits) (storage : Bytes) :
    (asset.copyAssetData storage).Inside := by
  cases asset with
  | whip a => exact (staysInside_of_lengthsFit h).whole storage
  | cloudFiles a => exact Access.inside_done _

lemma IAsset.inside_copyAssetDataRange (h : asset.Fits) (storage : Bytes) (rngStart rngEnd : Nat) :
    (asset.copyAssetDataRange storage rngStart rngEnd).Inside := by
  cases asset with
  | whip a => exact (staysInside_of_lengthsFit h).range storage rngStart rngEnd
  | cloudFiles a =>
    simp only [IAsset.copyAssetDataRange, CloudFilesAsset.copyAssetDataRange]
    split_ifs with hzero
    · exact Access.inside_pure _
    · have hvalid := clampRange_valid rngStart rngEnd hzero
      rw [readRange_eq (by omega)]
      exact Access.inside_pure _

lemma inside_castOrThrow {α : Type} (n : Option α) : (castOrThrow n).Inside := by
  cases n with
  | none => exact Access.inside_throw _
  | some n => exact Access.inside_pure _

lemma inside_parseRange (rangeStr : Text) : (parseRange rangeStr).Inside := by
  unfold parseRange
  dsimp only
  split
  · exact Access.inside_throw _
  · split
    · split
      · exact Access.inside_bind.mpr ⟨inside_castOrThrow _, fun _ _ => Access.inside_pure _⟩
      · split
        · exact Access.inside_bind.mpr ⟨inside_castOrThrow _, fun _ _ => Access.inside_pure _⟩
        · split
          · refine Access.inside_bind.mpr ⟨inside_castOrThrow _, fun _ _ => ?_⟩
            exact Access.inside_bind.mpr ⟨inside_castOrThrow _, fun _ _ => Access.inside_pure _⟩
          · exact Access.inside_throw _
    · exact Access.inside_throw _

lemma inside_ranges (headers : List Header) (range : Option (Nat × Nat)) :
    (headers.foldlM nextRange range).Inside := by
  induction headers generalizing range with
  | nil => exact Access.inside_pure _
  | cons h headers ih =>
    rw [List.foldlM_cons]
    refine Access.inside_bind.mpr ⟨?_, fun range _ => ih range⟩
    unfold nextRange
    split
    · exact Access.inside_bind.mpr ⟨inside_parseRange _, fun _ _ => Access.inside_pure _⟩
    · exact Access.inside_pure _

lemma inside_sendResponse (h : asset.Fits) (headers : List Header) (rep : Reply)
    (contentType : Text) : (sendResponse headers rep asset contentType).Inside := by
  unfold sendResponse
  refine Access.inside_bind.mpr ⟨inside_ranges headers none, fun range _ => ?_⟩
  cases range with
  | some range =>
    refine Access.inside_bind.mpr ⟨IAsset.inside_copyAssetDataRange h _ _ _, fun copied _ => ?_⟩
    dsimp only
    split
    · exact Access.inside_pure _
    · exact Access.inside_pure _
  | none =>
    exact Access.inside_bind.mpr
      ⟨IAsset.inside_copyAssetData h _, fun _ _ => Access.inside_pure _⟩

/-- Such an asset always gives a reply: what `sendResponse` throws is caught. -/
lemma assetReply_of_fits (h : asset.Fits) (headers : List Header) (rep : Reply) :
    ∃ rep', assetReply headers rep asset = .done rep' := by
  obtain ⟨type, htype⟩ := IAsset.inside_getType h
  obtain ⟨size, hsize⟩ := IAsset.inside_getBinaryDataSize h
  have hsend := inside_sendResponse h headers rep (contentTypeOf type)
  unfold assetReply
  rw [htype, Access.done_bind]
  split
  · exact ⟨_, rfl⟩
  · rw [hsize, Access.done_bind]
    split
    · exact ⟨_, rfl⟩
    · exact ⟨_, rfl⟩
    · exact ⟨_, rfl⟩
    · rename_i houtside
      exact absurd houtside hsend

end Fits

/-! ## Events -/

/-- What happens to the handler: a request comes, or a backend answers the `i`-th of the lookups
that are outstanding. -/
inductive HandlerEvent (P : Platform)
  | request (req : Request) (rep : Reply) (whipConnected : Bool) (cached : Text → Option (IAsset P))
  | answerWhip (i : Nat) (asset : Option (Asset P))
  | answerCloudFiles (i : Nat) (asset : Option (CloudFilesAsset P))

namespace Handler

variable {P : Platform} (cfg : HandlerConfig)

/-- An answer to the `i`-th lookup. -/
def answer (s : Handler) (i : Nat) (backend : Backend) (asset : Option (IAsset P)) :
    Option Handler :=
  match s.outstanding[i]? with
  | some (asked, info) =>
    if asked = backend then
      some (assetResponseCallback cfg { s with outstanding := s.outstanding.eraseIdx i } info asset)
    else none
  | none => none

/-- The next state of the handler, if the event can happen in it. -/
def step (s : Handler) : HandlerEvent P → Option Handler
  | .request req rep whipConnected cached =>
    if s.ended then none
    else some (handleRequest cfg whipConnected cached { s with given := s.given ++ [req] } req rep
      s.given.length)
  | .answerWhip i asset =>
    if s.ended then none else s.answer cfg i .whip (asset.map IAsset.whip)
  | .answerCloudFiles i asset =>
    if s.ended then none else s.answer cfg i .cloudFiles (asset.map IAsset.cloudFiles)

/-- The capability in the path of a request. -/
def capOf (req : Request) : Text := (pathParts req.uri).getD 3 []

/-- The command in the path of a request passes the tests of its parts and its token. -/
def Commands (word : Text) (need : Nat) (req : Request) : Prop :=
  (pathParts req.uri).getD 1 [] = capsWord ∧ (pathParts req.uri).getD 2 [] = httWord ∧
    (pathParts req.uri).getD 3 [] = word ∧ need ≤ (pathParts req.uri).length ∧
    (pathParts req.uri).getD 4 [] = cfg.capsToken

instance (word : Text) (need : Nat) (req : Request) : Decidable (Commands cfg word need req) :=
  inferInstanceAs (Decidable (_ ∧ _ ∧ _ ∧ _ ∧ _))

/-- The requests of the queue of a capability. -/
def queueOf (s : Handler) (cap : Text) : List PackedRequestInfo :=
  (Dict.get? s.queuedRequests cap).getD []

/-- No completion is lost by an event: a bandwidth with which a capability is added is a number, no
capability is removed while requests wait in its queue, and the assets that the asset server sends
and the cache holds are parsed inside their arrays. -/
def Careful (s : Handler) : HandlerEvent P → Prop
  | .request req _ _ cached =>
    (Commands cfg addCapWord 6 req → (pathParts req.uri).length = 7 →
      lexicalCastInt ((pathParts req.uri).getD 6 []) ≠ none) ∧
    (Commands cfg remCapWord 6 req → s.queueOf ((pathParts req.uri).getD 5 []) = []) ∧
    ∀ id asset, cached id = some asset → asset.Fits
  | .answerWhip _ asset => ∀ a ∈ asset, LengthsFit a.data
  | .answerCloudFiles _ _ => True

/-! ## Requests in hand -/

/-- The requests of a queue. -/
def ticketsOf (queue : List PackedRequestInfo) : List Nat := queue.map PackedRequestInfo.ticket

/-- The requests in all queues. -/
def queuedTickets (queues : Dict Text (List PackedRequestInfo)) : List Nat :=
  queues.flatMap fun p => ticketsOf p.2

/-- The requests whose lookups are outstanding. -/
def lookupTickets (s : Handler) : List Nat := s.outstanding.map fun p => p.2.ticket

/-- The requests that wait for an answer or in a queue. -/
def waiting (s : Handler) : List Nat := s.lookupTickets ++ queuedTickets s.queuedRequests

/-- The requests `ts` are in the hands of the handler; every other one waits or has been completed,
exactly once, and the queues hold the requests of their capabilities. -/
structure Hand (s : Handler) (ts : List Nat) : Prop where
  ledger : Ledger s.given.length (ts ++ s.waiting) (s.completed.map Prod.fst)
  keys : (Dict.keys s.queuedRequests).Nodup
  own : ∀ p ∈ s.queuedRequests, ∀ info ∈ p.2, s.given[info.ticket]?.map capOf = some p.1
  running : s.ended = false

section Hands

variable {cfg} {s : Handler} {t : Nat} {ts : List Nat} {info : PackedRequestInfo}

lemma Hand.complete (h : Hand s (t :: ts)) (rep : Reply) : Hand (s.complete t rep) ts := by
  refine ⟨?_, h.keys, h.own, h.running⟩
  have hcompleted : (s.complete t rep).completed.map Prod.fst =
      s.completed.map Prod.fst ++ [t] := by
    simp [Handler.complete]
  rw [hcompleted]
  exact h.ledger.serve (.refl _)

lemma Hand.completeStock (h : Hand s (t :: ts)) (status : Status) :
    Hand (s.completeStock t status) ts := h.complete _

lemma Hand.lookup (h : Hand s (info.ticket :: ts)) (backend : Backend)
    (info' : PackedRequestInfo) (hinfo : info'.ticket = info.ticket) :
    Hand (s.lookup backend info') ts := by
  refine ⟨h.ledger.perm ?_, h.keys, h.own, h.running⟩
  have hwaiting : (s.lookup backend info').waiting =
      s.lookupTickets ++ info.ticket :: queuedTickets s.queuedRequests := by
    simp [waiting, lookupTickets, Handler.lookup, hinfo]
  rw [hwaiting, ← List.append_assoc, waiting, List.cons_append, ← List.append_assoc]
  exact List.perm_middle

lemma Hand.assetResponseCallback {asset : Option (IAsset P)} (h : Hand s (info.ticket :: ts))
    (hasset : ∀ a ∈ asset, a.Fits) : Hand (s.assetResponseCallback cfg info asset) ts := by
  cases asset with
  | none =>
    unfold Handler.assetResponseCallback
    dsimp only
    split
    · exact h.lookup _ _ rfl
    · exact h.completeStock _
  | some asset =>
    obtain ⟨rep, hrep⟩ := assetReply_of_fits (hasset asset rfl) info.request.headers info.reply
    simp only [Handler.assetResponseCallback, hrep]
    exact h.complete rep

variable {whipConnected : Bool} {cached : Text → Option (IAsset P)}

lemma Hand.processRequest (h : Hand s (info.ticket :: ts))
    (hcached : ∀ id asset, cached id = some asset → asset.Fits) :
    Hand (s.processRequest cfg whipConnected cached info) ts := by
  unfold Handler.processRequest
  split
  · rename_i asset hhit
    have hfits : asset.Fits := by
      split at hhit
      · exact hcached _ _ hhit
      · cases hhit
    have hinfo : Hand s ({ info with servedFromCache := true }.ticket :: ts) := h
    exact hinfo.assetResponseCallback fun a ha => Option.some.inj ha ▸ hfits
  · split
    · exact h.lookup _ _ rfl
    · split
      · exact h.lookup _ _ rfl
      · exact h.completeStock _

lemma Hand.resumeQueue {queue : List PackedRequestInfo}
    (h : Hand s (ticketsOf queue ++ ts))
    (hcached : ∀ id asset, cached id = some asset → asset.Fits) :
    Hand (s.resumeQueue cfg whipConnected cached queue) ts := by
  induction queue generalizing s with
  | nil => exact h
  | cons info queue ih =>
    have hnext : Hand (s.processRequest cfg whipConnected cached info)
        (ticketsOf queue ++ ts) := h.processRequest hcached
    rw [Handler.resumeQueue, hnext.running, if_neg (by simp)]
    exact ih hnext

/-! ## The queues -/

section Queues

variable {queues : Dict Text (List PackedRequestInfo)} {cap : Text}
  {queue queue' : List PackedRequestInfo}

lemma queuedTickets_erase (hkeys : (Dict.keys queues).Nodup)
    (hget : Dict.get? queues cap = some queue) :
    queuedTickets queues ~ ticketsOf queue ++ queuedTickets (Dict.erase queues cap) :=
  (Dict.perm_erase hkeys hget).flatMap_right _

lemma queuedTickets_modify (hkeys : (Dict.keys queues).Nodup)
    (hget : Dict.get? queues cap = some queue) :
    queuedTickets (Dict.modify queues cap fun _ => queue') ~
      ticketsOf queue' ++ queuedTickets (Dict.erase queues cap) :=
  (Dict.modify_perm hkeys hget _).flatMap_right _

/-- A queue is taken out. -/
lemma Hand.takeQueue (h : Hand s ts) (hget : Dict.get? s.queuedRequests cap = some queue) :
    Hand { s with queuedRequests := Dict.erase s.queuedRequests cap } (ticketsOf queue ++ ts) := by
  refine ⟨h.ledger.perm ?_, ?_, fun p hp => h.own p (List.mem_of_mem_filter hp), h.running⟩
  · calc (ticketsOf queue ++ ts) ++
          (s.lookupTickets ++ queuedTickets (Dict.erase s.queuedRequests cap))
        = ticketsOf queue ++ ((ts ++ s.lookupTickets) ++
            queuedTickets (Dict.erase s.queuedRequests cap)) := by simp
      _ ~ (ts ++ s.lookupTickets) ++ (ticketsOf queue ++
            queuedTickets (Dict.erase s.queuedRequests cap)) := List.perm_append_comm_assoc _ _ _
      _ ~ (ts ++ s.lookupTickets) ++ queuedTickets s.queuedRequests :=
          (queuedTickets_erase h.keys hget).symm.append_left _
      _ = ts ++ s.waiting := by rw [waiting, List.append_assoc]
  · rw [Dict.keys_erase]
    exact h.keys.filter _

/-- A queue is exchanged for another one with requests from the same hands. -/
lemma Hand.setQueue {ts' : List Nat} (h : Hand s ts)
    (hget : Dict.get? s.queuedRequests cap = some queue)
    (hts : ts' ++ ticketsOf queue' ~ ticketsOf queue ++ ts)
    (hown : ∀ info ∈ queue', s.given[info.ticket]?.map capOf = some cap) :
    Hand { s with queuedRequests := Dict.modify s.queuedRequests cap fun _ => queue' } ts' := by
  have htaken := h.takeQueue hget
  refine ⟨htaken.ledger.perm ?_, ?_, ?_, h.running⟩
  · calc ts' ++ (s.lookupTickets ++ queuedTickets (Dict.modify s.queuedRequests cap fun _ => queue'))
        ~ ts' ++ (s.lookupTickets ++ (ticketsOf queue' ++
            queuedTickets (Dict.erase s.queuedRequests cap))) :=
          ((queuedTickets_modify h.keys hget).append_left _).append_left _
      _ ~ ts' ++ (ticketsOf queue' ++ (s.lookupTickets ++
            queuedTickets (Dict.erase s.queuedRequests cap))) :=
          (List.perm_append_comm_assoc _ _ _).append_left _
      _ = (ts' ++ ticketsOf queue') ++ (s.lookupTickets ++
            queuedTickets (Dict.erase s.queuedRequests cap)) := by rw [List.append_assoc]
      _ ~ (ticketsOf queue ++ ts) ++ (s.lookupTickets ++
            queuedTickets (Dict.erase s.queuedRequests cap)) := hts.append_right _
  · rw [Dict.keys_modify]
    exact h.keys
  · intro p (hp : p ∈ Dict.modify s.queuedRequests cap fun _ => queue') info hinfo
    rcases Dict.mem_modify hp with ⟨_, rfl, -⟩ | hp
    · exact hown info hinfo
    · exact h.own p hp info hinfo

lemma Hand.enqueue (h : Hand s (info.ticket :: ts))
    (hget : Dict.get? s.queuedRequests cap = some queue)
    (hinfo : s.given[info.ticket]?.map capOf = some cap) : Hand (s.enqueue cap queue info) ts := by
  have hown : ∀ i ∈ queue ++ [info], s.given[i.ticket]?.map capOf = some cap := by
    intro i hi
    rcases List.mem_append.mp hi with hi | hi
    · exact h.own _ (Dict.mem_of_get? hget) i hi
    · exact List.mem_singleton.mp hi ▸ hinfo
  have hts : ts ++ ticketsOf (queue ++ [info]) ~ ticketsOf queue ++ info.ticket :: ts := by
    simp only [ticketsOf, List.map_append, List.map_cons, List.map_nil]
    exact List.perm_append_comm.trans (by simp)
  unfold Handler.enqueue
  split
  · rename_i front rest hqueue
    rw [hqueue] at hown hts
    split
    · refine Hand.completeStock (h.setQueue hget ?_ fun i hi => hown i (List.mem_cons_of_mem _ hi)) _
      exact List.perm_middle.symm.trans hts
    · exact h.setQueue hget hts hown
  · rename_i hqueue
    simp at hqueue

end Queues

/-! ## Commands -/

section Commanding

variable {urlParts : List Text}

/-- The capabilities and their buckets hold no requests. -/
lemma Hand.caps (h : Hand s ts) (validCapIds : List Text) (capsBuckets : Dict Text Int) :
    Hand { s with validCapIds := validCapIds, capsBuckets := capsBuckets } ts :=
  ⟨h.ledger, h.keys, h.own, h.running⟩

lemma Hand.command {need : Nat} {action : Text → Handler} (h : Hand s (t :: ts))
    (haction : need ≤ urlParts.length → urlParts.getD 4 [] = cfg.capsToken →
      Hand (action (urlParts.getD 5 [])) ts) :
    Hand (s.command cfg t urlParts need action) ts := by
  unfold Handler.command
  split
  · exact h.completeStock _
  · split
    · exact h.completeStock _
    · rename_i hlen htoken
      exact haction (not_lt.mp hlen) (not_not.mp htoken)

lemma Hand.handleAddCap (h : Hand s (t :: ts))
    (hbandwidth : 6 ≤ urlParts.length → urlParts.getD 4 [] = cfg.capsToken → urlParts.length = 7 →
      lexicalCastInt (urlParts.getD 6 []) ≠ none) : Hand (s.handleAddCap cfg t urlParts) ts := by
  refine h.command fun hlen htoken => ?_
  dsimp only
  split
  · rename_i hseven
    split
    · exact (h.caps _ _).completeStock _
    · rename_i hnone
      exact absurd hnone (hbandwidth hlen htoken hseven)
  · exact (h.caps _ _).completeStock _

lemma Hand.handleRemCap (h : Hand s (t :: ts))
    (hqueue : 6 ≤ urlParts.length → urlParts.getD 4 [] = cfg.capsToken →
      s.queueOf (urlParts.getD 5 []) = []) : Hand (s.handleRemCap cfg t urlParts) ts := by
  refine h.command fun hlen htoken => ?_
  have hempty := hqueue hlen htoken
  have htaken : Hand { s with
      queuedRequests := Dict.erase s.queuedRequests (urlParts.getD 5 []) } (t :: ts) := by
    cases hget : Dict.get? s.queuedRequests (urlParts.getD 5 []) with
    | none =>
      rw [Dict.erase_of_not_mem (Dict.get?_eq_none_iff.mp hget)]
      exact h
    | some queue =>
      rw [queueOf, hget, Option.getD_some] at hempty
      have htaken := h.takeQueue hget
      rwa [hempty] at htaken
  exact (htaken.caps _ _).completeStock _

/-- A new queue is empty. -/
lemma Hand.addQueue {cap : Text} (h : Hand s ts) (hnone : Dict.get? s.queuedRequests cap = none) :
    Hand { s with queuedRequests := Dict.add s.queuedRequests cap [] } ts := by
  refine ⟨h.ledger.perm ?_, ?_, ?_, h.running⟩
  · simp [waiting, lookupTickets, queuedTickets, Dict.add, ticketsOf]
  · rw [Dict.keys_add]
    exact h.keys.append (List.nodup_singleton _) (by simpa using Dict.get?_eq_none_iff.mp hnone)
  · intro p hp info hinfo
    rcases List.mem_append.mp hp with hp | hp
    · exact h.own p hp info hinfo
    · obtain rfl := List.mem_singleton.mp hp
      cases hinfo

lemma Hand.handlePauseCap (h : Hand s (t :: ts)) : Hand (s.handlePauseCap cfg t urlParts) ts := by
  refine h.command fun _ _ => ?_
  split
  · rename_i hnone
    exact (h.addQueue hnone).completeStock _
  · exact h.completeStock _

lemma Hand.handleLimitCap (h : Hand s (t :: ts)) : Hand (s.handleLimitCap cfg t urlParts) ts := by
  refine h.command fun _ _ => ?_
  split
  · exact h.completeStock _
  · split
    · exact h.completeStock _
    · exact (h.caps _ _).completeStock _

/-- Looking up assets does not touch the queues. -/
lemma assetResponseCallback_queues (d : Dict Text (List PackedRequestInfo))
    (asset : Option (IAsset P)) :
    assetResponseCallback cfg { s with queuedRequests := d } info asset =
      { s.assetResponseCallback cfg info asset with queuedRequests := d } := by
  unfold Handler.assetResponseCallback
  cases asset with
  | none =>
    dsimp only
    split
    · rfl
    · rfl
  | some asset =>
    dsimp only
    split
    · rfl
    · rfl

lemma processRequest_queues (d : Dict Text (List PackedRequestInfo)) :
    processRequest cfg whipConnected cached { s with queuedRequests := d } info =
      { s.processRequest cfg whipConnected cached info with queuedRequests := d } := by
  unfold Handler.processRequest
  split
  · exact assetResponseCallback_queues d _
  · split
    · rfl
    · split
      · rfl
      · rfl

lemma resumeQueue_queues (d : Dict Text (List PackedRequestInfo))
    (queue : List PackedRequestInfo) :
    resumeQueue cfg whipConnected cached { s with queuedRequests := d } queue =
      { s.resumeQueue cfg whipConnected cached queue with queuedRequests := d } := by
  induction queue generalizing s with
  | nil => rfl
  | cons info queue ih =>
    rw [Handler.resumeQueue, Handler.resumeQueue, processRequest_queues]
    dsimp only
    split
    · rfl
    · exact ih

lemma resumeQueue_queuedRequests (queue : List PackedRequestInfo) :
    (s.resumeQueue cfg whipConnected cached queue).queuedRequests = s.queuedRequests := by
  have h : s.resumeQueue cfg whipConnected cached queue =
      { s.resumeQueue cfg whipConnected cached queue with queuedRequests := s.queuedRequests } :=
    resumeQueue_queues s.queuedRequests queue
  rw [h]

lemma Hand.handleResumeCap (h : Hand s (t :: ts))
    (hcached : ∀ id asset, cached id = some asset → asset.Fits) :
    Hand (s.handleResumeCap cfg t urlParts whipConnected cached) ts := by
  refine h.command fun _ _ => ?_
  split
  · exact h.completeStock _
  · rename_i queue hget
    -- the requests are processed as if their queue had been taken out first
    have hresumed : Hand { s.resumeQueue cfg whipConnected cached queue with
        queuedRequests := Dict.erase s.queuedRequests (urlParts.getD 5 []) } (t :: ts) := by
      rw [← resumeQueue_queues]
      exact (h.takeQueue hget).resumeQueue hcached
    dsimp only
    have hrunning : (s.resumeQueue cfg whipConnected cached queue).ended = false := hresumed.running
    rw [if_neg (by simp [hrunning]), resumeQueue_queuedRequests]
    exact hresumed.completeStock _

end Commanding

/-! ## Every step -/

lemma Hand.handleAssetRequest {req : Request} {rep : Reply} (h : Hand s (t :: ts))
    (hreq : s.given[t]? = some req)
    (hcached : ∀ id asset, cached id = some asset → asset.Fits) :
    Hand (s.handleAssetRequest cfg whipConnected cached req rep t (pathParts req.uri)) ts := by
  unfold Handler.handleAssetRequest
  split
  · exact h.completeStock _
  · dsimp only
    split
    · exact h.completeStock _
    · split
      · exact h.completeStock _
      · split
        · exact h.completeStock _
        · split
          · rename_i hget
            exact h.enqueue hget (by rw [hreq]; rfl)
          · exact h.processRequest hcached

lemma Hand.handleRequest {req : Request} {rep : Reply} (h : Hand s (t :: ts))
    (hreq : s.given[t]? = some req) (hcareful : s.Careful cfg (.request req rep whipConnected cached)) :
    Hand (s.handleRequest cfg whipConnected cached req rep t) ts := by
  obtain ⟨hadd, hrem, hcached⟩ := hcareful
  unfold Handler.handleRequest
  dsimp only
  split
  · exact h.completeStock _
  · split
    · exact h.completeStock _
    · rename_i hwords
      rw [not_or, not_not, not_not] at hwords
      split
      · rename_i hword
        exact h.handleAddCap fun hlen htoken => hadd ⟨hwords.1, hwords.2, hword, hlen, htoken⟩
      · split
        · rename_i hword
          exact h.handleRemCap fun hlen htoken => hrem ⟨hwords.1, hwords.2, hword, hlen, htoken⟩
        · split
          · exact h.handlePauseCap
          · split
            · exact h.handleResumeCap hcached
            · split
              · exact h.handleLimitCap
              · exact h.handleAssetRequest hreq hcached

/-- A request comes. -/
lemma Hand.give (h : Hand s []) (req : Request) :
    Hand { s with given := s.given ++ [req] } [s.given.length] := by
  refine ⟨?_, h.keys, fun p hp info hinfo => ?_, h.running⟩
  · rw [List.length_append]
    exact h.ledger.issue (.refl _)
  · have hold := h.own p hp info hinfo
    have hlt : info.ticket < s.given.length := by
      by_contra hge
      rw [List.getElem?_eq_none (not_lt.mp hge)] at hold
      cases hold
    dsimp only
    rwa [List.getElem?_append_left hlt]

lemma Hand.answer {i : Nat} {backend : Backend} {asset : Option (IAsset P)} {s' : Handler}
    (h : Hand s []) (hasset : ∀ a ∈ asset, a.Fits) (hs : s.answer cfg i backend asset = some s') :
    Hand s' [] := by
  unfold Handler.answer at hs
  split at hs
  · rename_i asked info hget
    split at hs
    · obtain rfl := Option.some.inj hs
      refine Hand.assetResponseCallback ⟨h.ledger.perm ?_, h.keys, h.own, h.running⟩ hasset
      have hlookups : info.ticket :: lookupTickets
          { s with outstanding := s.outstanding.eraseIdx i } ~ s.lookupTickets := by
        obtain ⟨hlt, hinfo⟩ := List.getElem?_eq_some_iff.mp hget
        have hperm := (List.getElem_cons_eraseIdx_perm hlt).map fun p => p.2.ticket
        rwa [hinfo] at hperm
      exact hlookups.append_right _
    · cases hs
  · cases hs

lemma Hand.step {e : HandlerEvent P} {s' : Handler} (h : Hand s []) (hcareful : s.Careful cfg e)
    (hs : s.step cfg e = some s') : Hand s' [] := by
  cases e with
  | request req rep whipConnected cached =>
    simp only [Handler.step] at hs
    rw [if_neg (by simp [h.running])] at hs
    obtain rfl := Option.some.inj hs
    exact (h.give req).handleRequest (by simp) hcareful
  | answerWhip i asset =>
    simp only [Handler.step] at hs
    rw [if_neg (by simp [h.running])] at hs
    refine h.answer (fun a ha => ?_) hs
    obtain ⟨a', ha', rfl⟩ := Option.map_eq_some_iff.mp ha
    exact hcareful a' ha'
  | answerCloudFiles i asset =>
    simp only [Handler.step] at hs
    rw [if_neg (by simp [h.running])] at hs
    refine h.answer (fun a ha => ?_) hs
    obtain ⟨a', ha', rfl⟩ := Option.map_eq_some_iff.mp ha
    trivial

end Hands

/-- Every request is completed exactly once: a request is completed at most once, and it has been
completed when no lookup for it is outstanding and its capability is not paused. -/
structure CompletesOnce (s : Handler) : Prop where
  onlyGiven : ∀ t ∈ s.completed.map Prod.fst, t < s.given.length
  atMostOnce : ∀ t, (s.completed.map Prod.fst).count t ≤ 1
  completed : ∀ t req, s.given[t]? = some req → t ∉ s.lookupTickets →
    Dict.get? s.queuedRequests (capOf req) = none → (s.completed.map Prod.fst).count t = 1

lemma Hand.completesOnce {s : Handler} (h : Hand s []) : CompletesOnce s where
  onlyGiven t ht := h.ledger.lt_of_mem_served ht
  atMostOnce t := by
    by_cases ht : t < s.given.length
    · have := h.ledger.count ht
      omega
    · have hnot : t ∉ s.completed.map Prod.fst := fun hmem => ht (h.ledger.lt_of_mem_served hmem)
      rw [List.count_eq_zero_of_not_mem hnot]
      exact Nat.zero_le 1
  completed t req hreq hlookup hpaused := by
    have hcount := h.ledger.count (List.getElem?_eq_some_iff.mp hreq).1
    have hnot : t ∉ s.waiting := by
      intro hwaiting
      rcases List.mem_append.mp hwaiting with hmem | hmem
      · exact hlookup hmem
      · -- a request in a queue is one of the capability of the queue, which is then paused
        obtain ⟨p, hp, htp⟩ := List.mem_flatMap.mp hmem
        obtain ⟨info, hinfo, rfl⟩ := List.mem_map.mp htp
        have hcap : capOf req = p.1 := by simpa [hreq] using h.own p hp info hinfo
        refine Dict.get?_eq_none_iff.mp hpaused ?_
        rw [hcap]
        exact List.mem_map_of_mem hp
    rw [List.nil_append, List.count_eq_zero_of_not_mem hnot, Nat.zero_add] at hcount
    exact hcount

lemma Hand.new : Hand new [] := ⟨Ledger.start, .nil, by simp [Handler.new], rfl⟩

/-- **Every request is completed exactly once**, in every run whose events are careful. -/
theorem run_completesOnce {s : Handler} {events : List (HandlerEvent P)}
    (hrun : run (step cfg) new events = some s)
    (hcareful : Meets (step cfg) (Careful cfg) new events) : CompletesOnce s :=
  (invariant_of_meets (P := fun s => Hand s []) (fun _ _ _ h hc hs => h.step hc hs) hrun hcareful
    Hand.new).completesOnce

end Handler

/-! ## Runs -/

namespace HandlerSample

open Handler

/-- A handler with an asset server and the token `t`. -/
def config : HandlerConfig := ⟨['t'], true, false, false⟩

/-- A request without headers for a path. -/
def requestFor (path : String) : HandlerEvent .x64 :=
  .request { Request.new with method := "GET".toList, uri := path.toList, isReady := true }
    ⟨.ok, [], [], []⟩ true fun _ => none

/-- A request for an asset under the capability `c`. -/
def assetRequest : HandlerEvent .x64 :=
  requestFor "/CAPS/HTT/c/?texture_id=00000000-0000-0000-0000-000000000000"

/-- The capability is added, an asset is asked for, and the asset server does not have it. -/
def servedRun : List (HandlerEvent .x64) :=
  [requestFor "/CAPS/HTT/ADDCAP/t/c", assetRequest, .answerWhip 0 none]

/-- The capability is paused with a request in its queue, and then removed. -/
def removedRun : List (HandlerEvent .x64) :=
  [requestFor "/CAPS/HTT/ADDCAP/t/c", requestFor "/CAPS/HTT/PAUSE/t/c", assetRequest,
    requestFor "/CAPS/HTT/REMCAP/t/c"]

/-- The capability is added with a bandwidth that is no number. -/
def badBandwidthRun : List (HandlerEvent .x64) := [requestFor "/CAPS/HTT/ADDCAP/t/c/fast"]

theorem run_completesOnce_served : ∃ s, run (step config) new servedRun = some s ∧
    s.completed.map Prod.fst = [0, 1] ∧ CompletesOnce s := by
  obtain ⟨s, hs, hcompleted⟩ : ∃ s, run (step config) new servedRun = some s ∧
      s.completed.map Prod.fst = [0, 1] := ⟨_, rfl, rfl⟩
  have hadd : Careful config new (requestFor "/CAPS/HTT/ADDCAP/t/c") :=
    ⟨by decide, by decide, by simp⟩
  have hasset : ∀ s : Handler, Careful config s assetRequest := by
    intro s
    refine ⟨?_, ?_, by simp⟩
    · intro h
      exact absurd h (by decide)
    · intro h
      exact absurd h (by decide)
  have hcareful : Meets (step config) (Careful config) new servedRun :=
    .cons rfl hadd (.cons rfl (hasset _) (.cons rfl (by simp [Careful]) trivial))
  exact ⟨s, hs, hcompleted, run_completesOnce config hs hcareful⟩

/-- A request that is given, neither looked up nor queued, and not completed. -/
lemma not_completesOnce_of_lost {s : Handler} {t : Nat} (hgiven : t < s.given.length)
    (hlookups : s.lookupTickets = []) (hqueues : s.queuedRequests = [])
    (hlost : t ∉ s.completed.map Prod.fst) : ¬ CompletesOnce s := by
  intro h
  have hcount := h.completed t s.given[t] (List.getElem?_eq_getElem hgiven) (by simp [hlookups])
    (by simp [hqueues])
  rw [List.count_eq_zero_of_not_mem hlost] at hcount
  exact absurd hcount (by decide)

/-- Neither the request in the queue nor the command with the bad bandwidth is ever completed. -/
theorem not_completesOnce_samples :
    (∃ s, run (step config) new removedRun = some s ∧ ¬ CompletesOnce s) ∧
      ∃ s, run (step config) new badBandwidthRun = some s ∧ ¬ CompletesOnce s := by
  refine ⟨?_, ?_⟩
  · obtain ⟨s, hs, hgiven, hlookups, hqueues, hcompleted⟩ : ∃ s,
        run (step config) new removedRun = some s ∧ s.given.length = 4 ∧ s.lookupTickets = [] ∧
        s.queuedRequests = [] ∧ s.completed.map Prod.fst = [0, 1, 3] :=
      ⟨_, rfl, rfl, rfl, rfl, rfl⟩
    exact ⟨s, hs, not_completesOnce_of_lost (t := 2) (by omega) hlookups hqueues
      (by rw [hcompleted]; decide)⟩
  · obtain ⟨s, hs, hgiven, hlookups, hqueues, hcompleted⟩ : ∃ s,
        run (step config) new badBandwidthRun = some s ∧ s.given.length = 1 ∧
        s.lookupTickets = [] ∧ s.queuedRequests = [] ∧ s.completed.map Prod.fst = [] :=
      ⟨_, rfl, rfl, rfl, rfl, rfl⟩
    exact ⟨s, hs, not_completesOnce_of_lost (t := 0) (by omega) hlookups hqueues
      (by rw [hcompleted]; decide)⟩

end HandlerSample

end Halcyon.Aperture
