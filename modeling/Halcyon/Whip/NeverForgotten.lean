import Halcyon.Whip.MeshSearches

/-!
# No search is forgotten

A search that waits needs a query that is still to be answered, although queries and searches do
not belong together: an answer serves whoever waits for its id.  What carries the proof is the line
of the queries in the order of their answers.  An answer takes the first query from the line and
empties the set for its id; every other event leaves the line as it is or makes it longer (`Goes`),
and makes a query exactly where a set becomes non-empty (`Effect`).  So a set always has a query in
the line, and as long as a search waits there are no more answers than queries before that one.
-/

namespace Halcyon.Whip

open Halcyon.Lib Halcyon.Lib.Transition

open scoped List

namespace MeshServer

variable {κ : Type}

/-! ## One event -/

section Sound

variable {s t : MeshServer κ} {id : Bytes} {r : SearchRef κ}

/-- What every step keeps; in particular there is a query in the line for every set. -/
structure Sound (s : MeshServer κ) : Prop where
  wire : s.meshQueryConnection.Wire
  registry : s.Registry
  pending : ∀ id, s.registered id ≠ [] → id ∈ s.meshQueryConnection.line

lemma sound_connected : Sound (connected : MeshServer κ) where
  wire := ⟨rfl, fun h => absurd rfl h, fun _ h => absurd h List.not_mem_nil,
    fun _ h => absurd h List.not_mem_nil⟩
  registry := ⟨rfl, List.nodup_nil, fun _ _ h => (by cases h), List.Perm.refl _, List.nodup_nil⟩
  pending := fun _ h => absurd rfl h

lemma mem_waiting_iff (h : s.Registry) : r ∈ s.waiting ↔ r ∈ s.registered r.uuid := by
  constructor
  · intro hr
    obtain ⟨⟨id, set⟩, hmem, hr⟩ := List.mem_flatMap.mp hr
    have hget := Dict.get?_of_mem h.keys hmem
    obtain rfl := (h.sets id set hget).2 r hr
    rw [registered, hget]
    exact hr
  · intro hr
    cases hget : s.currentSearches.get? r.uuid with
    | none =>
      rw [registered, hget] at hr
      cases hr
    | some set =>
      rw [registered, hget] at hr
      exact mem_waiting_of_mem hget hr

/-- A query is made exactly for an id whose set was empty and is not any more, and nothing is taken
from the records. -/
structure Effect (s t : MeshServer κ) : Prop where
  queries : ∀ id, t.meshQueryConnection.queries.count id =
    s.meshQueryConnection.queries.count id +
      if s.registered id = [] ∧ t.registered id ≠ [] then 1 else 0
  registrations : s.registrations ⊆ t.registrations
  ended : s.notified.map Prod.fst ++ s.cancelled ⊆ t.notified.map Prod.fst ++ t.cancelled

/-- Sets that do not become non-empty need no query. -/
lemma Effect.of_queries_eq (hqueries : t.meshQueryConnection.queries = s.meshQueryConnection.queries)
    (hregistered : ∀ id, s.registered id = [] → t.registered id = [])
    (hregistrations : s.registrations ⊆ t.registrations)
    (hover : s.notified.map Prod.fst ++ s.cancelled ⊆ t.notified.map Prod.fst ++ t.cancelled) :
    Effect s t := by
  refine ⟨fun id => ?_, hregistrations, hover⟩
  rw [hqueries, if_neg, Nat.add_zero]
  rintro ⟨hnil, hne⟩
  exact hne (hregistered id hnil)

/-- What events other than the answer to a query do: the line stays as it is or becomes longer. -/
structure Goes (s t : MeshServer κ) : Prop extends Effect s t where
  sound : t.Sound
  line : s.meshQueryConnection.line <+: t.meshQueryConnection.line

lemma goes_written (h : s.Sound) :
    Goes s { s with meshQueryConnection := s.meshQueryConnection.onAfterMeshMessageWritten } := by
  obtain ⟨hwire, hline, hqueries⟩ := h.wire.written
  refine ⟨.of_queries_eq hqueries (fun _ hnil => hnil) (List.Subset.refl _) (List.Subset.refl _),
    ⟨hwire, { h.registry with }, fun id hne => ?_⟩, ?_⟩
  · dsimp only
    rw [hline]
    exact h.pending id hne
  · simp only [hline, List.prefix_rfl]

variable [DecidableEq κ]

/-- The first search for an id makes a query. -/
lemma goes_search_add (h : s.Sound) (hnone : s.currentSearches.get? r.uuid = none)
    (hr : r ∉ s.registrations) : Goes s (s.search r) := by
  have hsearch : s.search r = { s with
      registrations := s.registrations ++ [r]
      currentSearches := s.currentSearches.add r.uuid [r]
      meshQueryConnection := s.meshQueryConnection.search r.uuid } := by
    simp only [search, h.registry.established, hnone, Bool.not_true, Bool.false_eq_true, if_false]
  obtain ⟨hwire, hline, hqueries⟩ := h.wire.search r.valid
  have hregistered : ∀ id, (s.search r).registered id =
      if r.uuid = id then [r] else s.registered id := by
    intro id
    rw [hsearch, registered, registered]
    dsimp only
    rw [Dict.get?_add]
    split_ifs with hid
    · rw [← hid, hnone]
      rfl
    · rw [Option.or_none]
  refine ⟨⟨fun id => ?_, ?_, ?_⟩, ⟨?_, ?_, fun id hne => ?_⟩, ?_⟩
  · rw [hregistered id, hsearch]
    dsimp only
    rw [hqueries.count_eq, List.count_cons]
    by_cases hid : r.uuid = id
    · have hnil : s.registered id = [] := by rw [← hid, registered, hnone]; rfl
      rw [if_pos (beq_iff_eq.mpr hid), if_pos hid, if_pos ⟨hnil, List.cons_ne_nil _ _⟩]
    · rw [if_neg (mt beq_iff_eq.mp hid), if_neg hid, if_neg fun hboth => hboth.2 hboth.1]
  · rw [hsearch]
    exact List.subset_append_left _ _
  · rw [hsearch]
    exact List.Subset.refl _
  · rw [hsearch]
    exact hwire
  · rw [hsearch]
    exact { h.registry.add hnone hr with }
  · rw [hsearch]
    dsimp only
    rw [hline]
    rw [hregistered id] at hne
    split_ifs at hne with hid
    · exact List.mem_append_right _ (List.mem_singleton.mpr hid.symm)
    · exact List.mem_append_left _ (h.pending id hne)
  · rw [hsearch]
    dsimp only
    rw [hline]
    exact List.prefix_append _ _

/-- A further search for an id joins the set. -/
lemma goes_search_join {set : List (SearchRef κ)} (h : s.Sound)
    (hset : s.currentSearches.get? r.uuid = some set) (hr : r ∉ s.registrations) :
    Goes s (s.search r) := by
  have hsearch : s.search r = { s with
      registrations := s.registrations ++ [r]
      currentSearches := s.currentSearches.modify r.uuid fun set => insertNew set r } := by
    simp only [search, h.registry.established, hset, Bool.not_true, Bool.false_eq_true, if_false]
  have hnil : ∀ id, s.registered id = [] ↔ (s.search r).registered id = [] := by
    intro id
    rw [hsearch, registered, registered]
    dsimp only
    rw [Dict.get?_modify]
    split_ifs with hid
    · subst hid
      rw [hset]
      exact iff_of_false (h.registry.sets _ _ hset).1 insertNew_ne_nil
    · exact Iff.rfl
  refine ⟨.of_queries_eq (by rw [hsearch]) (fun id => (hnil id).mp) (by
    rw [hsearch]
    exact List.subset_append_left _ _) (by rw [hsearch]; exact List.Subset.refl _),
    ⟨by rw [hsearch]; exact h.wire, by rw [hsearch]; exact h.registry.join hset hr,
      fun id hne => ?_⟩, by simp only [hsearch, List.prefix_rfl]⟩
  have hold := h.pending id (mt (hnil id).mp hne)
  rw [hsearch]
  exact hold

/-- A cancelled search leaves its set; no set gets a search. -/
lemma goes_cancelSearch (h : s.Sound) (r : SearchRef κ) : Goes s (s.cancelSearch r) := by
  cases hset : s.currentSearches.get? r.uuid with
  | none =>
    have hcancel : s.cancelSearch r = s := by rw [cancelSearch, hset]
    rw [hcancel]
    exact ⟨.of_queries_eq rfl (fun _ hnil => hnil) (List.Subset.refl _) (List.Subset.refl _), h,
      List.prefix_refl _⟩
  | some set =>
    have hnil : ∀ id, s.registered id = [] → (s.cancelSearch r).registered id = [] := by
      intro id hid
      rw [registered, cancelSearch, hset]
      dsimp only
      split_ifs
      · rw [Dict.erase_modify, Dict.get?_erase]
        split_ifs
        · rfl
        · exact hid
      · rw [Dict.get?_modify]
        split_ifs with heq
        · subst heq
          rw [registered, hset] at hid
          exact absurd hid (h.registry.sets _ _ hset).1
        · exact hid
    have hconnection : (s.cancelSearch r).meshQueryConnection = s.meshQueryConnection := by
      rw [cancelSearch, hset]
    refine ⟨.of_queries_eq (by rw [hconnection]) hnil ?_ ?_, ⟨?_, ?_, fun id hne => ?_⟩, ?_⟩
    · rw [cancelSearch, hset]
      exact List.Subset.refl _
    · rw [cancelSearch, hset]
      exact List.append_subset.mpr ⟨List.subset_append_left _ _, fun r' hr' =>
        List.mem_append_right _ (List.mem_append_left _ hr')⟩
    · rw [hconnection]
      exact h.wire
    · rw [cancelSearch, hset]
      exact h.registry.cancel hset
    · rw [hconnection]
      exact h.pending id (mt (hnil id) hne)
    · simp only [hconnection, List.prefix_rfl]

/-! ## Answers -/

omit [DecidableEq κ] in
lemma onQueryAnswerRcvd_heartbeat (flags : Int32) :
    s.onQueryAnswerRcvd (IntraMeshMsg.heartbeat flags) = s := by
  rw [onQueryAnswerRcvd, if_pos (IntraMeshMsg.read_heartbeat flags).1, ite_self]

omit [DecidableEq κ] in
/-- The answer to a query for a valid id reports to the searches for it. -/
lemma onQueryAnswerRcvd_response (hid : isValidUUID id = true) (result : IntraMeshMsg.QueryResult) :
    s.onQueryAnswerRcvd (IntraMeshMsg.response id result) =
      s.postResponse id (result = .found) := by
  obtain ⟨htype, huuid, hresult⟩ := IntraMeshMsg.read_response (length_of_isValidUUID hid) result
  have hvalid : IntraMeshMsg.validate (IntraMeshMsg.response id result) = true := by
    rw [IntraMeshMsg.validate, htype, huuid, hid, IntraMeshMsg.length_response]
    rfl
  rw [onQueryAnswerRcvd, if_pos hvalid, htype, hresult, huuid]
  cases result <;> rfl

omit [DecidableEq κ] in
/-- The set for an id is reported to as a whole; the others stay. -/
lemma registered_postResponse (id id' : Bytes) (found : Bool) :
    (s.postResponse id found).registered id' = if id = id' then [] else s.registered id' := by
  rw [postResponse]
  cases hset : s.currentSearches.get? id with
  | none =>
    dsimp only
    split_ifs with heq
    · rw [← heq, registered, hset]
      rfl
    · rfl
  | some set =>
    dsimp only
    rw [registered]
    dsimp only
    rw [Dict.get?_erase]
    split_ifs
    · rfl
    · rfl

omit [DecidableEq κ] in
lemma postResponse_spec (h : s.Registry) (id : Bytes) (found : Bool) :
    (s.postResponse id found).Registry ∧
      (s.postResponse id found).meshQueryConnection = s.meshQueryConnection ∧
      (s.postResponse id found).registrations = s.registrations ∧
      s.notified.map Prod.fst ++ s.cancelled ⊆
        (s.postResponse id found).notified.map Prod.fst ++ (s.postResponse id found).cancelled := by
  rw [postResponse]
  cases hset : s.currentSearches.get? id with
  | none => exact ⟨h, rfl, rfl, List.Subset.refl _⟩
  | some set =>
    refine ⟨h.post hset found, rfl, rfl, ?_⟩
    dsimp only
    rw [List.map_append, List.append_assoc]
    exact List.append_subset.mpr ⟨List.subset_append_left _ _, fun r hr =>
      List.mem_append_right _ (List.mem_append_right _ hr)⟩

/-- An answer takes the first query from the line and empties the set for its id. -/
lemma answered_spec (h : s.Sound) {result : IntraMeshMsg.QueryResult}
    (hstep : s.step (.answered result) = some t) :
    t.Sound ∧ Effect s t ∧
      ∃ id, s.meshQueryConnection.line = id :: t.meshQueryConnection.line ∧ t.registered id = [] := by
  rw [step] at hstep
  cases hunanswered : s.meshQueryConnection.unanswered with
  | nil =>
    rw [hunanswered] at hstep
    cases hstep
  | cons packet rest =>
    obtain ⟨id, hid, rfl⟩ := h.wire.packets packet (hunanswered ▸ List.mem_cons_self)
    rw [hunanswered] at hstep
    dsimp only at hstep
    rw [Option.some_inj, MeshQueryConnection.getAssetUUID_query hid,
      onQueryAnswerRcvd_response hid] at hstep
    subst hstep
    obtain ⟨hregistry, hconnection, hregistrations, hover⟩ := postResponse_spec
      (s := { s with
        meshQueryConnection := { s.meshQueryConnection with unanswered := rest } })
      { h.registry with } id (result = .found)
    have hline : s.meshQueryConnection.line =
        id :: MeshQueryConnection.line { s.meshQueryConnection with unanswered := rest } := by
      rw [MeshQueryConnection.line, hunanswered, List.map_cons,
        MeshQueryConnection.getAssetUUID_query hid]
      rfl
    refine ⟨⟨?_, hregistry, fun id' hne => ?_⟩, .of_queries_eq ?_ (fun id' hnil => ?_) ?_ hover,
      id, ?_, ?_⟩
    · rw [hconnection]
      exact ⟨h.wire.isOpen, h.wire.queue, fun packet hpacket => h.wire.packets packet
        (hunanswered ▸ List.mem_cons_of_mem _ hpacket), h.wire.queued⟩
    · rw [registered_postResponse] at hne
      split_ifs at hne with heq
      · exact absurd rfl hne
      · have hmem := h.pending id' hne
        rw [hline] at hmem
        rw [hconnection]
        exact (List.mem_cons.mp hmem).resolve_left fun h => heq h.symm
    · rw [hconnection]
      rfl
    · rw [registered_postResponse]
      split_ifs
      · rfl
      · exact hnil
    · rw [hregistrations]
      exact List.Subset.refl _
    · rw [hconnection]
      exact hline
    · rw [registered_postResponse, if_pos rfl]

/-- The other events. -/
lemma goes_of_step {e : Event κ} (h : s.Sound) (hstep : s.step e = some t)
    (he : ∀ result, e ≠ .answered result) : Goes s t := by
  cases e with
  | search r =>
    obtain ⟨hr, rfl⟩ := guarded_eq_some.mp hstep
    cases hset : s.currentSearches.get? r.uuid with
    | none => exact goes_search_add h hset hr
    | some set => exact goes_search_join h hset hr
  | cancelSearch r =>
    obtain rfl := Option.some.inj hstep
    exact goes_cancelSearch h r
  | written =>
    obtain ⟨-, rfl⟩ := guarded_eq_some.mp hstep
    exact goes_written h
  | answered result => exact absurd rfl (he result)
  | heartbeat flags =>
    obtain rfl := Option.some.inj hstep
    rw [onQueryAnswerRcvd_heartbeat]
    exact ⟨.of_queries_eq rfl (fun _ hnil => hnil) (List.Subset.refl _) (List.Subset.refl _), h,
      List.prefix_refl _⟩

/-! ## Whole runs -/

/-- The peer answers a query. -/
def Event.isAnswer : Event κ → Bool
  | .answered _ => true
  | _ => false

lemma sound_of_step {e : Event κ} (h : s.Sound) (hstep : s.step e = some t) :
    t.Sound ∧ Effect s t := by
  by_cases he : ∃ result, e = .answered result
  · obtain ⟨result, rfl⟩ := he
    obtain ⟨hsound, heffect, -⟩ := answered_spec h hstep
    exact ⟨hsound, heffect⟩
  · have hgoes := goes_of_step h hstep fun result heq => he ⟨result, heq⟩
    exact ⟨hgoes.sound, hgoes.toEffect⟩

/-- Each search that was registered waits, has been notified or has been cancelled, and only one of
them and once. -/
lemma count_eq_one (h : s.Registry) (hr : r ∈ s.registrations) :
    s.waiting.count r + (s.notified.map Prod.fst).count r + s.cancelled.count r = 1 := by
  have hcount := h.ledger.count_eq r
  rw [List.count_append, List.count_append, List.count_eq_one_of_mem h.fresh hr] at hcount
  omega

/-- A search that does not wait any more is not registered again. -/
lemma not_mem_waiting_of_run {es : List (Event κ)} (h : s.Sound) (hr : r ∈ s.registrations)
    (hnot : r ∉ s.waiting) (hrun : run step s es = some t) : r ∉ t.waiting := by
  have hinv : t.Sound ∧ r ∈ t.registrations ∧ r ∉ t.waiting := by
    refine invariant (P := fun s : MeshServer κ => s.Sound ∧ r ∈ s.registrations ∧ r ∉ s.waiting)
      ?_ hrun ⟨h, hr, hnot⟩
    rintro s e t ⟨h, hr, hnot⟩ hstep
    obtain ⟨hsound, heffect⟩ := sound_of_step h hstep
    refine ⟨hsound, heffect.registrations hr, fun hwaits => ?_⟩
    have hover : r ∈ s.notified.map Prod.fst ++ s.cancelled :=
      (List.mem_append.mp (h.registry.ledger.symm.subset hr)).resolve_left hnot
    have hnodup := hsound.registry.ledger.nodup_iff.mpr hsound.registry.fresh
    exact (List.nodup_append.mp hnodup).2.2 r hwaits r (heffect.ended hover) rfl
  exact hinv.2.2

/-- As long as a search waits, there are no more answers than queries before the one for its id. -/
lemma countP_isAnswer_le {es : List (Event κ)} (h : s.Sound) (hr : r ∈ s.waiting)
    (hrun : run step s es = some t) (hwaits : r ∈ t.waiting) :
    es.countP Event.isAnswer ≤ s.meshQueryConnection.line.idxOf r.uuid := by
  induction es generalizing s with
  | nil => exact Nat.zero_le _
  | cons e es ih =>
    obtain ⟨u, hstep, hrun'⟩ := run_cons_eq_some.mp hrun
    obtain ⟨hsound, heffect⟩ := sound_of_step h hstep
    have hmem := mem_registrations_of_mem h.registry hr
    have hu : r ∈ u.waiting := by
      by_contra hnot
      exact not_mem_waiting_of_run hsound (heffect.registrations hmem) hnot hrun' hwaits
    have ih := ih hsound hu hrun'
    by_cases he : ∃ result, e = .answered result
    · obtain ⟨result, rfl⟩ := he
      obtain ⟨-, -, id, hline, hnil⟩ := answered_spec h hstep
      have hne : id ≠ r.uuid := by
        rintro rfl
        have hin := (mem_waiting_iff hsound.registry).mp hu
        rw [hnil] at hin
        cases hin
      rw [List.countP_cons_of_pos rfl, hline, List.idxOf_cons_ne _ hne]
      omega
    · have hgoes := goes_of_step h hstep fun result heq => he ⟨result, heq⟩
      have hanswer : ¬ e.isAnswer = true := by
        cases e with
        | answered result => exact absurd ⟨result, rfl⟩ he
        | _ => exact Bool.false_ne_true
      obtain ⟨more, hmore⟩ := hgoes.line
      have hpending : r.uuid ∈ s.meshQueryConnection.line := h.pending _ (List.ne_nil_of_mem
        ((mem_waiting_iff h.registry).mp hr))
      rw [List.countP_cons_of_neg hanswer]
      rw [← hmore, List.idxOf_append_of_mem hpending] at ih
      exact ih

/-- No search is forgotten: while searches wait for an id, a query for it is queued or not yet
answered; every search waits, has been notified or has been cancelled, once; when the peer has
answered the queries there are, everything that was registered and not cancelled has been notified
once, and the peer gets the queries; and a query is made exactly when the searches for an id become
more than none. -/
structure NeverForgotten (s : MeshServer κ) : Prop where
  pending : ∀ id, s.registered id ≠ [] → id ∈ s.meshQueryConnection.sendQueue ∨
    IntraMeshMsg.query id ∈ s.meshQueryConnection.unanswered
  once : ∀ r ∈ s.registrations,
    s.waiting.count r + (s.notified.map Prod.fst).count r + s.cancelled.count r = 1
  served : ∀ es t, run step s es = some t →
    s.meshQueryConnection.line.length ≤ es.countP Event.isAnswer →
      ∀ r ∈ s.registrations, r ∉ t.cancelled → (t.notified.map Prod.fst).count r = 1
  written : s.meshQueryConnection.sendQueue ≠ [] →
    ∃ t, s.step .written = some t ∧ t.meshQueryConnection.unanswered ≠ []
  queries : ∀ e t, s.step e = some t → ∀ id, t.meshQueryConnection.queries.count id =
    s.meshQueryConnection.queries.count id +
      if s.registered id = [] ∧ t.registered id ≠ [] then 1 else 0

omit [DecidableEq κ] in
lemma Sound.pending_or (h : s.Sound) (hne : s.registered id ≠ []) :
    id ∈ s.meshQueryConnection.sendQueue ∨
      IntraMeshMsg.query id ∈ s.meshQueryConnection.unanswered := by
  rcases List.mem_append.mp (h.pending id hne) with hsent | hqueued
  · obtain ⟨packet, hpacket, huuid⟩ := List.mem_map.mp hsent
    obtain ⟨id', hid', rfl⟩ := h.wire.packets packet hpacket
    rw [MeshQueryConnection.getAssetUUID_query hid'] at huuid
    exact .inr (huuid ▸ hpacket)
  · exact .inl hqueued

lemma Sound.served {es : List (Event κ)} (h : s.Sound) (hrun : run step s es = some t)
    (hanswers : s.meshQueryConnection.line.length ≤ es.countP Event.isAnswer)
    (hr : r ∈ s.registrations) (hcancelled : r ∉ t.cancelled) :
    (t.notified.map Prod.fst).count r = 1 := by
  have hinv : t.Sound ∧ r ∈ t.registrations := by
    refine invariant (P := fun s : MeshServer κ => s.Sound ∧ r ∈ s.registrations) ?_ hrun ⟨h, hr⟩
    rintro s e t ⟨h, hr⟩ hstep
    obtain ⟨hsound, heffect⟩ := sound_of_step h hstep
    exact ⟨hsound, heffect.registrations hr⟩
  have hnot : r ∉ t.waiting := by
    by_cases hwaits : r ∈ s.waiting
    · intro hstill
      have hle := countP_isAnswer_le h hwaits hrun hstill
      have hlt := List.idxOf_lt_length_of_mem (h.pending _ (List.ne_nil_of_mem
        ((mem_waiting_iff h.registry).mp hwaits)))
      omega
    · exact not_mem_waiting_of_run h hr hwaits hrun
  have hcount := count_eq_one hinv.1.registry hinv.2
  rw [List.count_eq_zero_of_not_mem hnot, List.count_eq_zero_of_not_mem hcancelled] at hcount
  omega

lemma Sound.written (h : s.Sound) (hne : s.meshQueryConnection.sendQueue ≠ []) :
    ∃ t, s.step .written = some t ∧ t.meshQueryConnection.unanswered ≠ [] := by
  refine ⟨_, guarded_eq_some.mpr ⟨h.wire.queue hne, rfl⟩, ?_⟩
  obtain ⟨id, rest, hqueue⟩ := List.exists_cons_of_ne_nil hne
  dsimp only
  rw [MeshQueryConnection.onAfterMeshMessageWritten_cons hqueue]
  exact List.append_ne_nil_of_right_ne_nil _ (List.cons_ne_nil _ _)

/-- In every state of every run of a connected server, no search is forgotten. -/
theorem neverForgotten_of_run {es : List (Event κ)} (hrun : run step connected es = some s) :
    s.NeverForgotten := by
  have h : s.Sound := invariant (fun _ _ _ h hstep => (sound_of_step h hstep).1) hrun
    sound_connected
  exact ⟨fun _ => h.pending_or, fun _ => count_eq_one h.registry,
    fun _ _ hrun' hanswers _ => h.served hrun' hanswers, h.written,
    fun _ _ hstep => (sound_of_step h hstep).2.queries⟩

/-- The answer to the query of a search that was cancelled serves the next one; the second query is
answered to nobody. -/
theorem neverForgotten_cancelled :
    let first : SearchRef Nat := ⟨0, nullUUID, by decide⟩
    let second : SearchRef Nat := ⟨1, nullUUID, by decide⟩
    ∃ s, run step connected [.search first, .cancelSearch first, .search second,
        .answered .found, .written] = some s ∧
      s.NeverForgotten ∧ s.notified = [(second, true)] ∧ s.waiting = [] ∧
      s.meshQueryConnection.unanswered = [IntraMeshMsg.query nullUUID] := by
  intro first second
  obtain ⟨s, hrun, hnotified, hwaiting, hunanswered⟩ : ∃ s : MeshServer Nat,
      run step connected [.search first, .cancelSearch first, .search second, .answered .found,
        .written] = some s ∧
      s.notified = [(second, true)] ∧ s.waiting = [] ∧
      s.meshQueryConnection.unanswered = [IntraMeshMsg.query nullUUID] :=
    ⟨_, rfl, rfl, rfl, rfl⟩
  exact ⟨s, hrun, neverForgotten_of_run hrun, hnotified, hwaiting, hunanswered⟩

end Sound

end MeshServer

end Halcyon.Whip
