import Halcyon.Aperture.Asset
import Mathlib.Data.List.Induction

/-!
# The worker that fetches from cloud storage

`CloudFilesGetWorker` takes requests for assets one after the other.  A request is a transfer; if
its credentials have expired, the worker asks for new ones and calls itself once more.  Errors leave
by exceptions, which the loop of the worker catches.  The response is collected in a
`HttpRequestHandler` that the worker keeps, and that is reset when a call ends, in whatever way.

The outcome of everything outside is given: how the transfers end and whether there are new
credentials.  A callback is posted with the number of its request, and an asset with the bytes that
it was decoded from.

Two things go wrong, both behind expired credentials.  If there are no new ones, the exception
passes every place where the callback would be posted.  And the handler is not reset between the two
transfers, so that the body of the first response stands in front of the second.
-/

namespace Halcyon.Aperture

open Whip (Bytes)

/-- `HttpRequestHandler`. -/
structure HttpRequestHandler where
  lastHttpCode : Int
  lastBody : Bytes

/-- What `curl_easy_perform` gets: the code of the status line, if one arrives, and the data piece by
piece; `ok` is `CURLE_OK`. -/
structure Transfer where
  code : Option Int
  pieces : List Bytes
  ok : Bool

/-- The data of a response. -/
def Transfer.body (t : Transfer) : Bytes := t.pieces.flatten

/-- The response is complete and positive. -/
def Transfer.Succeeds (t : Transfer) : Prop := t.ok = true ∧ t.code = some 200

namespace HttpRequestHandler

/-- `reset`. -/
def reset : HttpRequestHandler := ⟨0, []⟩

/-- `handleIncomingHeader`, for a status line. -/
def handleIncomingHeader (h : HttpRequestHandler) (code : Int) : HttpRequestHandler :=
  { h with lastHttpCode := code }

/-- `handleIncomingData`. -/
def handleIncomingData (h : HttpRequestHandler) (data : Bytes) : HttpRequestHandler :=
  { h with lastBody := h.lastBody ++ data }

/-- The calls that are made during a transfer. -/
def receive (h : HttpRequestHandler) (t : Transfer) : HttpRequestHandler :=
  t.pieces.foldl handleIncomingData (t.code.elim h h.handleIncomingHeader)

lemma foldl_handleIncomingData (h : HttpRequestHandler) (pieces : List Bytes) :
    pieces.foldl handleIncomingData h = ⟨h.lastHttpCode, h.lastBody ++ pieces.flatten⟩ := by
  induction pieces generalizing h with
  | nil => simp
  | cons data pieces ih =>
    rw [List.foldl_cons, ih, handleIncomingData, List.flatten_cons, List.append_assoc]

/-- What arrives is appended. -/
lemma receive_eq (h : HttpRequestHandler) (t : Transfer) :
    h.receive t = ⟨t.code.getD h.lastHttpCode, h.lastBody ++ t.body⟩ := by
  rw [receive, foldl_handleIncomingData]
  cases t.code <;> rfl

end HttpRequestHandler

/-- What happens to a request: its transfer, and, if it comes to that, whether there are new
credentials and the second transfer. -/
structure Fetch where
  first : Transfer
  authorized : Bool
  second : Transfer

/-- The exceptions that leave a call. -/
inductive FetchError
  | curl
  | authorization
  | http (code : Int)
  | deserialize

/-- `CloudFilesGetWorker`, with the callbacks it has posted and the number of requests it has
served. -/
structure CloudFilesGetWorker (A : Type) where
  reqHandler : HttpRequestHandler
  posted : List (Nat × Option (A × Bytes))
  served : Nat

namespace CloudFilesGetWorker

variable {A : Type}

def new : CloudFilesGetWorker A := ⟨.reset, [], 0⟩

/-- The callback of the current request is posted. -/
def post (w : CloudFilesGetWorker A) (asset : Option (A × Bytes)) : CloudFilesGetWorker A :=
  { w with posted := w.posted ++ [(w.served, asset)] }

section Calls

/- `ParseFromIstream`. -/
variable (parse : Bytes → Option A)

/-- The end of `performAssetRequest`, which looks at the code and decodes the body. -/
def finish (w : CloudFilesGetWorker A) : Except FetchError Unit × CloudFilesGetWorker A :=
  if w.reqHandler.lastHttpCode ≠ 200 then
    if w.reqHandler.lastHttpCode ≠ 404 then
      (.error (.http w.reqHandler.lastHttpCode), w.post none)
    else (.ok (), w.post none)
  else
    match parse w.reqHandler.lastBody with
    | none => (.error .deserialize, w.post none)
    | some asset => (.ok (), w.post (some (asset, w.reqHandler.lastBody)))

/-- A call of `performAssetRequest`.  `retry` is what it does about expired credentials; a call that
is a retry does nothing about them. -/
def call (t : Transfer)
    (retry : Option (CloudFilesGetWorker A → Except FetchError Unit × CloudFilesGetWorker A))
    (w : CloudFilesGetWorker A) : Except FetchError Unit × CloudFilesGetWorker A :=
  let w := { w with reqHandler := w.reqHandler.receive t }
  let (result, w) :=
    if !t.ok then (.error .curl, w.post none)
    else
      match retry with
      | some retry => if w.reqHandler.lastHttpCode = 401 then retry w else finish parse w
      | none => finish parse w
  -- `cleanup`, however the call ends
  (result, { w with reqHandler := .reset })

/-- `performAssetRequest` of the loop. -/
def performAssetRequest (f : Fetch) (w : CloudFilesGetWorker A) :
    Except FetchError Unit × CloudFilesGetWorker A :=
  call parse f.first (some fun w =>
    if f.authorized then call parse f.second none w else (.error .authorization, w)) w

/-- A round of `run`: an exception is caught and logged. -/
def serve (w : CloudFilesGetWorker A) (f : Fetch) : CloudFilesGetWorker A :=
  let w := (performAssetRequest parse f w).2
  { w with served := w.served + 1 }

/-- The worker after a sequence of requests. -/
def run (fs : List Fetch) : CloudFilesGetWorker A := fs.foldl (serve parse) new

end Calls

end CloudFilesGetWorker

namespace Fetch

variable {A : Type}

/-- The credentials of the request have expired. -/
def Expired (f : Fetch) : Prop := f.first.ok = true ∧ f.first.code = some 401

instance (f : Fetch) : Decidable f.Expired := inferInstanceAs (Decidable (_ ∧ _))
instance (t : Transfer) : Decidable t.Succeeds := inferInstanceAs (Decidable (_ ∧ _))

/-- The transfers that are made. -/
def made (f : Fetch) : List Transfer :=
  if f.Expired ∧ f.authorized = true then [f.first, f.second] else [f.first]

section Deliveries

variable (parse : Bytes → Option A)

/-- An asset and what it was decoded from. -/
def decoded (body : Bytes) : Option (A × Bytes) := (parse body).map fun asset => (asset, body)

/-- The callbacks that a request posts. -/
def deliveries (f : Fetch) : List (Option (A × Bytes)) :=
  if f.Expired then
    if f.authorized then
      [if f.second.Succeeds then decoded parse (f.first.body ++ f.second.body) else none]
    else []
  else [if f.first.Succeeds then decoded parse f.first.body else none]

/-- Behind expired credentials there are new ones, and what arrived with the first response, if
anything, does not get into an asset. -/
def Sound (f : Fetch) : Prop :=
  f.Expired → f.authorized = true ∧
    (f.first.body = [] ∨ ¬ f.second.Succeeds ∨ parse (f.first.body ++ f.second.body) = none)

/-- Exactly one callback, and an asset only from the whole body of one successful response. -/
def CompletesOnce (f : Fetch) (posts : List (Option (A × Bytes))) : Prop :=
  ∃ delivery, posts = [delivery] ∧ ∀ asset source, delivery = some (asset, source) →
    parse source = some asset ∧ ∃ t ∈ f.made, t.Succeeds ∧ source = t.body

end Deliveries

end Fetch

/-! ## What a request posts -/

namespace CloudFilesGetWorker

variable {A : Type} {parse : Bytes → Option A} {w : CloudFilesGetWorker A}

lemma finish_snd (w : CloudFilesGetWorker A) : (finish parse w).2 = w.post
    (if w.reqHandler.lastHttpCode = 200 then Fetch.decoded parse w.reqHandler.lastBody
      else none) := by
  unfold finish
  by_cases hcode : w.reqHandler.lastHttpCode = 200
  · rw [if_neg (not_not.mpr hcode), if_pos hcode, Fetch.decoded]
    cases parse w.reqHandler.lastBody <;> rfl
  · rw [if_pos hcode, if_neg hcode]
    split_ifs <;> rfl

/-- The status line decides, whatever code the handler has from before. -/
lemma getD_eq_iff {code : Option Int} {c old : Int} (h : old ≠ c) :
    code.getD old = c ↔ code = some c := by
  cases code <;> simp [h]

/-- A call that is a retry posts one callback. -/
lemma call_none (t : Transfer) (hcode : w.reqHandler.lastHttpCode ≠ 200) :
    (call parse t none w).2 = ⟨.reset, w.posted ++ [(w.served,
      if t.Succeeds then Fetch.decoded parse (w.reqHandler.lastBody ++ t.body) else none)],
      w.served⟩ := by
  unfold call
  cases hok : t.ok with
  | false => simp [post, Transfer.Succeeds, hok]
  | true =>
    have hsucceeds : t.Succeeds ↔ t.code.getD w.reqHandler.lastHttpCode = 200 := by
      rw [getD_eq_iff hcode]
      exact ⟨And.right, fun h => ⟨hok, h⟩⟩
    simp only [Bool.not_true, Bool.false_eq_true, if_false, finish_snd,
      HttpRequestHandler.receive_eq, post, hsucceeds]

/-- A request to a worker whose handler is reset posts its deliveries and leaves the handler so. -/
lemma performAssetRequest_snd (f : Fetch) (hw : w.reqHandler = .reset) :
    (performAssetRequest parse f w).2 =
      ⟨.reset, w.posted ++ (f.deliveries parse).map (w.served, ·), w.served⟩ := by
  obtain ⟨handler, posted, served⟩ := w
  subst hw
  rw [performAssetRequest, call]
  cases hok : f.first.ok with
  | false =>
    have hexpired : ¬ f.Expired := fun h => absurd (h.1.symm.trans hok) (by decide)
    have hsucceeds : ¬ f.first.Succeeds := fun h => absurd (h.1.symm.trans hok) (by decide)
    simp [Fetch.deliveries, hexpired, hsucceeds, post]
  | true =>
    simp only [Bool.not_true, Bool.false_eq_true, if_false, HttpRequestHandler.receive_eq,
      HttpRequestHandler.reset, List.nil_append]
    rw [if_congr (getD_eq_iff (by decide)) rfl rfl, Fetch.deliveries,
      if_congr (show f.Expired ↔ f.first.code = some 401 from and_iff_right hok) rfl rfl]
    by_cases hcode : f.first.code = some 401
    · rw [if_pos hcode, if_pos hcode]
      cases f.authorized with
      | false => simp
      | true =>
        simp only [if_true]
        rw [call_none _ (by simp [hcode]), hcode]
        rfl
    · rw [if_neg hcode, if_neg hcode, finish_snd, post]
      simp only [getD_eq_iff (show (0 : Int) ≠ 200 by decide), Transfer.Succeeds, hok, true_and]
      rfl

/-! ## Runs -/

lemma run_concat (fs : List Fetch) (f : Fetch) :
    run parse (fs ++ [f]) = serve parse (run parse fs) f :=
  List.foldl_concat ..

/-- Between requests the handler is reset, so that a request does not depend on those before. -/
lemma run_state (parse : Bytes → Option A) (fs : List Fetch) :
    (run parse fs).reqHandler = .reset ∧ (run parse fs).served = fs.length := by
  induction fs using List.reverseRecOn with
  | nil => exact ⟨rfl, rfl⟩
  | append_singleton fs f ih =>
    rw [run_concat, serve, performAssetRequest_snd f ih.1]
    exact ⟨rfl, by simp [ih.2]⟩

/-- The callbacks of a request. -/
def postsOf (w : CloudFilesGetWorker A) (i : Nat) : List (Option (A × Bytes)) :=
  (w.posted.filter fun p => decide (p.1 = i)).map Prod.snd

lemma postsOf_run (fs : List Fetch) (i : Nat) :
    (run parse fs).postsOf i = (fs[i]?).elim [] (Fetch.deliveries parse) := by
  induction fs using List.reverseRecOn with
  | nil => rfl
  | append_singleton fs f ih =>
    obtain ⟨hreset, hserved⟩ := run_state parse fs
    have hposted : (run parse (fs ++ [f])).posted =
        (run parse fs).posted ++ (f.deliveries parse).map (fs.length, ·) := by
      rw [run_concat, serve, performAssetRequest_snd f hreset, hserved]
    have happend : (run parse (fs ++ [f])).postsOf i = (run parse fs).postsOf i ++
        (((f.deliveries parse).map (fs.length, ·)).filter fun p => decide (p.1 = i)).map
          Prod.snd := by
      rw [postsOf, hposted, List.filter_append, List.map_append, postsOf]
    rw [happend, ih, List.filter_map, List.map_map]
    rcases Nat.lt_trichotomy i fs.length with hi | rfl | hi
    · rw [List.getElem?_append_left hi]
      simp [Function.comp_def, Nat.ne_of_gt hi]
    · simp [Function.comp_def]
    · rw [List.getElem?_eq_none (Nat.le_of_lt hi), List.getElem?_eq_none (by simp; omega)]
      simp [Function.comp_def, Nat.ne_of_lt hi]

end CloudFilesGetWorker

namespace Fetch

variable {A : Type} (parse : Bytes → Option A)

lemma completesOnce_iff (f : Fetch) :
    f.CompletesOnce parse (f.deliveries parse) ↔ f.Sound parse := by
  have hsource : ∀ {body : Bytes} {asset : A} {source : Bytes},
      decoded parse body = some (asset, source) → parse source = some asset ∧ source = body := by
    intro body asset source h
    obtain ⟨a, ha, heq⟩ := Option.map_eq_some_iff.mp h
    obtain ⟨rfl, rfl⟩ := Prod.mk.inj heq
    exact ⟨ha, rfl⟩
  unfold deliveries CompletesOnce Sound made
  by_cases hexpired : f.Expired
  · have hfirst : ¬ f.first.Succeeds := fun h => by
      rw [Transfer.Succeeds, hexpired.2] at h
      exact absurd h.2 (by decide)
    cases hauth : f.authorized with
    | false => simp [hexpired]
    | true =>
      simp only [hexpired, if_true, true_and, List.cons.injEq, and_true, true_imp_iff]
      by_cases hsecond : f.second.Succeeds
      · simp only [hsecond, if_true, not_true_eq_false, false_or]
        constructor
        · rintro ⟨_, rfl, hclean⟩
          cases hparse : parse (f.first.body ++ f.second.body) with
          | none => exact .inr rfl
          | some asset =>
            obtain ⟨-, t, ht, hsucceeds, hbody⟩ :=
              hclean asset _ (by rw [decoded, hparse, Option.map_some])
            simp only [List.mem_cons, List.not_mem_nil, or_false] at ht
            rcases ht with rfl | rfl
            · exact absurd hsucceeds hfirst
            · exact .inl (List.append_left_eq_self.mp hbody)
        · intro hsound
          refine ⟨_, rfl, fun asset source h => ?_⟩
          obtain ⟨hparse, rfl⟩ := hsource h
          refine ⟨hparse, f.second, by simp, hsecond, ?_⟩
          rcases hsound with hnil | hnone
          · rw [hnil, List.nil_append]
          · rw [hnone] at hparse
            cases hparse
      · simp only [hsecond, if_false, not_false_eq_true, true_or, or_true, iff_true]
        exact ⟨none, rfl, fun _ _ h => by cases h⟩
  · simp only [hexpired, if_false, false_and, false_imp_iff, iff_true]
    refine ⟨_, rfl, fun asset source h => ?_⟩
    split_ifs at h with hfirst
    · obtain ⟨hparse, rfl⟩ := hsource h
      exact ⟨hparse, f.first, List.mem_singleton_self _, hfirst, rfl⟩

end Fetch

namespace CloudSample

/-- A decoder that takes everything. -/
def parse (body : Bytes) : Option Bytes := some body

/-- The credentials have expired and there are no new ones. -/
def refused : Fetch := ⟨⟨some 401, [], true⟩, false, ⟨none, [], false⟩⟩

/-- The first response has a body, and the second is positive. -/
def mixed : Fetch := ⟨⟨some 401, [[1]], true⟩, true, ⟨some 200, [[2]], true⟩⟩

end CloudSample

end Halcyon.Aperture
