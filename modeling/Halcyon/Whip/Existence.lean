import Halcyon.Whip.Backend

/-!
# The existence index and the disk

The I/O thread enters an id into the existence index before the worker writes the asset.  While no
local assets are purged, an id in the index is in exactly one of three places: its asset is on the
disk, or it is waiting in the work queue to be written, or the write has failed and the handler
that takes the id back is posted.  `Balanced` says this by counting, and once the queue and the
posted handlers are empty it makes the index agree with the disk.

The handler is only posted for some of the exceptions: an `AssetStorageError` answers the request
with a failure and leaves the id in the index, and so does an exception that is not a
`std::exception`, which does not even answer it.
-/

namespace Halcyon.Whip

open Halcyon.Lib.Transition

variable {Id : Type} [DecidableEq Id]

namespace VFSBackend

/-! ## Counting -/

/-- The request writes an asset with this id. -/
def isPutOf (id : Id) : AssetRequest Id → Bool
  | .put asset _ => decide (asset.uuid = id)
  | _ => false

/-- The handler takes this id back from the index. -/
def isFailureOf (id : Id) : Handler Id → Bool
  | .assetWriteFailed assetId => decide (assetId = id)
  | _ => false

/-- The places in which an id can be: writes waiting, failures waiting, the disk. -/
def places (s : VFSBackend Id) (id : Id) : Nat :=
  s.workQueue.countP (isPutOf id) + s.posted.countP (isFailureOf id) +
    if s.Readable id then 1 else 0

/-- An id in the index is in exactly one place, any other id in none. -/
def Balanced (s : VFSBackend Id) (id : Id) : Prop :=
  s.places id = if id ∈ s.existenceIndex then 1 else 0

lemma countP_eraseIdx_add {α : Type} (p : α → Bool) {l : List α} {i : Nat} {a : α}
    (h : l[i]? = some a) : (l.eraseIdx i).countP p + (if p a then 1 else 0) = l.countP p := by
  obtain ⟨hi, rfl⟩ := List.getElem?_eq_some_iff.mp h
  rw [← (List.getElem_cons_eraseIdx_perm hi).countP_eq, List.countP_cons]

variable {s : VFSBackend Id} {id : Id}

/-- The places of an id depend only on its own requests, handlers and files. -/
lemma balanced_congr {s' : VFSBackend Id} (h : s.Balanced id)
    (hq : s'.workQueue.countP (isPutOf id) = s.workQueue.countP (isPutOf id))
    (hp : s'.posted.countP (isFailureOf id) = s.posted.countP (isFailureOf id))
    (hr : s'.Readable id ↔ s.Readable id) (hi : id ∈ s'.existenceIndex ↔ id ∈ s.existenceIndex) :
    s'.Balanced id := by
  simp only [Balanced, places, hq, hp, hr, hi]
  exact h

/-! ## Failed stores -/

/-- The latest store of an id that went to the work queue. -/
def latestStore (s : VFSBackend Id) (id : Id) : Option Nat :=
  (s.accepted.find? fun a => a.2 = id).map Prod.fst

/-- The latest store of an id was answered with a failure, or is going to be. -/
def Failed (s : VFSBackend Id) (id : Id) : Prop :=
  ∃ n, s.latestStore id = some n ∧
    ((n, id, false) ∈ s.answers ∨ .storeCallback n id false ∈ s.posted)

/-- The request belongs to a purge of local assets. -/
def isPurgeRequest : AssetRequest Id → Bool
  | .purgeLocals _ | .deleteLocalStorage _ => true
  | _ => false

/-- The handler belongs to a purge of local assets. -/
def isPurgeHandler : Handler Id → Bool
  | .unindexLocals _ _ => true
  | _ => false

/-- The number of the callback of a store. -/
def storeNumber : Handler Id → Option Nat
  | .storeCallback n _ _ => some n
  | _ => none

/-- The number of the callback of a write. -/
def putNumber : AssetRequest Id → Option Nat
  | .put _ n => some n
  | _ => none

/-- The numbers of callbacks that are in use are those given out. -/
structure Fresh (s : VFSBackend Id) : Prop where
  queued : ∀ r ∈ s.workQueue, ∀ n ∈ putNumber r, n < s.nextCallback
  posted : ∀ h ∈ s.posted, ∀ n ∈ storeNumber h, n < s.nextCallback
  accepted : ∀ a ∈ s.accepted, a.1 < s.nextCallback
  answered : ∀ a ∈ s.answers, a.1 < s.nextCallback

/-- What holds while no local assets are purged. -/
structure Consistent (s : VFSBackend Id) : Prop where
  notPurging : s.isPurgingLocals = false
  requests : ∀ r ∈ s.workQueue, isPurgeRequest r = false
  handlers : ∀ h ∈ s.posted, isPurgeHandler h = false
  fresh : s.Fresh
  balanced : ∀ id, s.Balanced id
  failed : ∀ id, s.Failed id → ¬ s.Readable id ∧ s.workQueue.countP (isPutOf id) = 0

lemma Balanced.of_put (h : s.Balanced id) (hput : 0 < s.workQueue.countP (isPutOf id)) :
    s.workQueue.countP (isPutOf id) = 1 ∧ s.posted.countP (isFailureOf id) = 0 ∧
      ¬ s.Readable id ∧ id ∈ s.existenceIndex := by
  unfold Balanced places at h
  by_cases hi : id ∈ s.existenceIndex
  · rw [if_pos hi] at h
    by_cases hr : s.Readable id
    · rw [if_pos hr] at h
      omega
    · exact ⟨by omega, by omega, hr, hi⟩
  · rw [if_neg hi] at h
    omega

lemma Balanced.of_failure (h : s.Balanced id) (hfail : 0 < s.posted.countP (isFailureOf id)) :
    s.workQueue.countP (isPutOf id) = 0 ∧ s.posted.countP (isFailureOf id) = 1 ∧
      ¬ s.Readable id := by
  unfold Balanced places at h
  have hle : (if id ∈ s.existenceIndex then 1 else 0) ≤ 1 := by split <;> omega
  by_cases hr : s.Readable id
  · rw [if_pos hr] at h
    omega
  · exact ⟨by omega, by omega, hr⟩

lemma Balanced.of_notMem (h : s.Balanced id) (hi : id ∉ s.existenceIndex) :
    s.workQueue.countP (isPutOf id) = 0 ∧ s.posted.countP (isFailureOf id) = 0 ∧
      ¬ s.Readable id := by
  unfold Balanced places at h
  rw [if_neg hi] at h
  by_cases hr : s.Readable id
  · rw [if_pos hr] at h
    omega
  · exact ⟨by omega, by omega, hr⟩

lemma balanced_of_waiting (hi : id ∈ s.existenceIndex) (hr : ¬ s.Readable id)
    (h : s.workQueue.countP (isPutOf id) + s.posted.countP (isFailureOf id) = 1) :
    s.Balanced id := by
  rw [Balanced, places, if_neg hr, if_pos hi]
  omega

lemma balanced_of_readable (hi : id ∈ s.existenceIndex) (hr : s.Readable id)
    (h : s.workQueue.countP (isPutOf id) + s.posted.countP (isFailureOf id) = 0) :
    s.Balanced id := by
  rw [Balanced, places, if_pos hr, if_pos hi]
  omega

lemma balanced_of_absent (hi : id ∉ s.existenceIndex) (hr : ¬ s.Readable id)
    (h : s.workQueue.countP (isPutOf id) + s.posted.countP (isFailureOf id) = 0) :
    s.Balanced id := by
  rw [Balanced, places, if_neg hr, if_neg hi]
  omega

/-- Once nothing is waiting, the index agrees with the disk. -/
lemma Balanced.mem_iff (h : s.Balanced id) (hq : s.Quiescent) :
    id ∈ s.existenceIndex ↔ s.Readable id := by
  unfold Balanced places at h
  rw [hq.1, hq.2] at h
  by_cases hr : s.Readable id <;> by_cases hi : id ∈ s.existenceIndex <;> simp_all

/-! ## Steps -/

section Steps

variable {s s' : VFSBackend Id}

variable {r : AssetRequest Id}

lemma isPutOf_eq_false (h : putNumber r = none) (id : Id) :
    isPutOf id r = false := by
  cases r <;> simp_all [putNumber, isPutOf]

/-- Requests and handlers that neither write nor purge come and go without any effect on the
invariant. -/
lemma Consistent.of_harmless (hs : s.Consistent) {queue : List (AssetRequest Id)}
    {posted : List (Handler Id)} {callback : Nat} (hnext : s.nextCallback ≤ callback)
    (hq : ∀ r ∈ queue, r ∈ s.workQueue ∨ putNumber r = none ∧ isPurgeRequest r = false)
    (hqc : ∀ id, queue.countP (isPutOf id) = s.workQueue.countP (isPutOf id))
    (hp : ∀ h ∈ posted, h ∈ s.posted ∨ storeNumber h = none ∧ isPurgeHandler h = false)
    (hpc : ∀ id, posted.countP (isFailureOf id) = s.posted.countP (isFailureOf id)) :
    { s with workQueue := queue, posted := posted, nextCallback := callback }.Consistent where
  notPurging := hs.notPurging
  requests r hr := (hq r hr).elim (hs.requests r) And.right
  handlers h hh := (hp h hh).elim (hs.handlers h) And.right
  fresh :=
    { queued := fun r hr n hn => by
        rcases hq r hr with hr | ⟨hnone, -⟩
        · exact (hs.fresh.queued r hr n hn).trans_le hnext
        · simp [hnone] at hn
      posted := fun h hh n hn => by
        rcases hp h hh with hh | ⟨hnone, -⟩
        · exact (hs.fresh.posted h hh n hn).trans_le hnext
        · simp [hnone] at hn
      accepted := fun a ha => (hs.fresh.accepted a ha).trans_le hnext
      answered := fun a ha => (hs.fresh.answered a ha).trans_le hnext }
  balanced id := balanced_congr (hs.balanced id) (hqc id) (hpc id) Iff.rfl Iff.rfl
  failed id hfailed := by
    obtain ⟨n, hn, hanswer⟩ := hfailed
    rw [hqc]
    refine hs.failed id ⟨n, hn, hanswer.imp_right fun hpost => ?_⟩
    rcases hp _ hpost with hpost | ⟨hnone, -⟩
    · exact hpost
    · simp [storeNumber] at hnone

lemma Consistent.enqueue (hs : s.Consistent) (hr : putNumber r = none)
    (hpurge : isPurgeRequest r = false) : (s.enqueue r).numbered.Consistent := by
  refine hs.of_harmless (Nat.le_succ _) (fun q hq => ?_) (fun id => ?_) (fun h hh => .inl hh)
    fun id => rfl
  · rcases List.mem_append.mp hq with hq | hq
    · exact .inl hq
    · rw [List.mem_singleton.mp hq]
      exact .inr ⟨hr, hpurge⟩
  · simp [VFSBackend.enqueue, isPutOf_eq_false hr]

lemma Consistent.post (hs : s.Consistent) {h : Handler Id} (hh : storeNumber h = none)
    (hpurge : isPurgeHandler h = false) (hfail : ∀ id, isFailureOf id h = false) :
    (s.post [h]).Consistent := by
  refine hs.of_harmless le_rfl (fun r hr => .inl hr) (fun id => rfl) (fun k hk => ?_) fun id => ?_
  · rcases List.mem_append.mp hk with hk | hk
    · exact .inl hk
    · rw [List.mem_singleton.mp hk]
      exact .inr ⟨hh, hpurge⟩
  · simp [hfail]

lemma Consistent.numbered (hs : s.Consistent) : s.numbered.Consistent :=
  hs.of_harmless (Nat.le_succ _) (fun _ hr => .inl hr) (fun _ => rfl) (fun _ hh => .inl hh)
    fun _ => rfl

variable {rest : List (AssetRequest Id)}

/-- The worker takes a request that is not a write. -/
lemma Consistent.tail (hs : s.Consistent) (hq : s.workQueue = r :: rest) (hr : putNumber r = none) :
    { s with workQueue := rest }.Consistent := by
  refine hs.of_harmless le_rfl (fun q hmem => .inl (hq ▸ List.mem_cons_of_mem _ hmem))
    (fun id => ?_) (fun h hh => .inl hh) fun id => rfl
  rw [hq, List.countP_cons, isPutOf_eq_false hr]
  simp

variable {i : Nat}

/-- A handler that neither answers a store nor touches the index is done with. -/
lemma Consistent.eraseIdx (hs : s.Consistent) {h : Handler Id} (hi : s.posted[i]? = some h)
    (hfail : ∀ id, isFailureOf id h = false) :
    { s with posted := s.posted.eraseIdx i }.Consistent := by
  refine hs.of_harmless le_rfl (fun r hr => .inl hr) (fun id => rfl)
    (fun k hk => .inl (List.mem_of_mem_eraseIdx hk)) fun id => ?_
  have hcount := countP_eraseIdx_add (isFailureOf id) hi
  simpa [hfail] using hcount

variable {id : Id} {n : Nat}

omit [DecidableEq Id] in
lemma Fresh.not_failed (hs : s.Fresh) (hn : s.nextCallback ≤ n) :
    ¬ ((n, id, false) ∈ s.answers ∨ .storeCallback n id false ∈ s.posted) := by
  rintro (h | h)
  · exact absurd (hs.answered _ h) (by simpa using hn)
  · exact absurd (hs.posted _ h n rfl) (by omega)

variable {asset : Asset Id}

/-- A store of an id that is not in the index: the write is queued. -/
lemma Consistent.accept (hs : s.Consistent) (hnew : asset.uuid ∉ s.existenceIndex) :
    (s.storeAsset asset).Consistent := by
  rw [storeAsset, if_neg hnew]
  have hcount : ∀ id, (s.workQueue ++ [AssetRequest.put asset s.nextCallback]).countP (isPutOf id) =
      s.workQueue.countP (isPutOf id) + if asset.uuid = id then 1 else 0 := by
    intro id
    simp [isPutOf]
  refine ⟨hs.notPurging, ?_, hs.handlers, ⟨?_, ?_, ?_, ?_⟩, fun id => ?_, ?_⟩
  · intro r hr
    rcases List.mem_append.mp hr with hr | hr
    · exact hs.requests r hr
    · rw [List.mem_singleton.mp hr]
      rfl
  · intro r hr n hn
    rcases List.mem_append.mp hr with hr | hr
    · exact (hs.fresh.queued r hr n hn).trans (Nat.lt_succ_self _)
    · rw [List.mem_singleton.mp hr] at hn
      obtain rfl := Option.some.inj hn
      exact Nat.lt_succ_self _
  · exact fun h hh n hn => (hs.fresh.posted h hh n hn).trans (Nat.lt_succ_self _)
  · intro a ha
    rcases List.mem_cons.mp ha with rfl | ha
    · exact Nat.lt_succ_self _
    · exact (hs.fresh.accepted a ha).trans (Nat.lt_succ_self _)
  · exact fun a ha => (hs.fresh.answered a ha).trans (Nat.lt_succ_self _)
  · by_cases hid : asset.uuid = id
    · subst hid
      obtain ⟨hq, hp, hr⟩ := (hs.balanced asset.uuid).of_notMem hnew
      refine balanced_of_waiting (Finset.mem_insert_self _ _) hr ?_
      have := hcount asset.uuid
      simp only [VFSBackend.enqueue, VFSBackend.numbered, this, if_true]
      omega
    · refine balanced_congr (hs.balanced id) ?_ rfl Iff.rfl ?_
      · exact (hcount id).trans (by rw [if_neg hid, Nat.add_zero])
      · exact Finset.mem_insert.trans (or_iff_right (Ne.symm hid))
  · rintro id ⟨n, hn, hanswer⟩
    by_cases hid : asset.uuid = id
    · have hlatest : n = s.nextCallback := by
        simpa [latestStore, VFSBackend.enqueue, VFSBackend.numbered, hid, eq_comm] using hn
      exact absurd hanswer (hs.fresh.not_failed hlatest.ge)
    · have hlatest : s.latestStore id = some n := by
        simpa [latestStore, VFSBackend.enqueue, VFSBackend.numbered, hid] using hn
      obtain ⟨hr, hq⟩ := hs.failed id ⟨n, hlatest, hanswer⟩
      refine ⟨hr, ?_⟩
      have := hcount id
      simp only [VFSBackend.enqueue, VFSBackend.numbered, this, hid, if_false]
      omega

/-- A store of an id that is in the index is rejected. -/
lemma Consistent.reject (hs : s.Consistent) (hmem : asset.uuid ∈ s.existenceIndex) :
    (s.storeAsset asset).Consistent := by
  rw [storeAsset, if_pos hmem]
  refine ⟨hs.notPurging, hs.requests, ?_, ⟨?_, ?_, ?_, ?_⟩, fun id => ?_, ?_⟩
  · intro h hh
    rcases List.mem_append.mp hh with hh | hh
    · exact hs.handlers h hh
    · rw [List.mem_singleton.mp hh]
      rfl
  · exact fun r hr n hn => (hs.fresh.queued r hr n hn).trans (Nat.lt_succ_self _)
  · intro h hh n hn
    rcases List.mem_append.mp hh with hh | hh
    · exact (hs.fresh.posted h hh n hn).trans (Nat.lt_succ_self _)
    · rw [List.mem_singleton.mp hh] at hn
      obtain rfl := Option.some.inj hn
      exact Nat.lt_succ_self _
  · exact fun a ha => (hs.fresh.accepted a ha).trans (Nat.lt_succ_self _)
  · exact fun a ha => (hs.fresh.answered a ha).trans (Nat.lt_succ_self _)
  · refine balanced_congr (hs.balanced id) rfl ?_ Iff.rfl Iff.rfl
    simp [VFSBackend.post, VFSBackend.numbered, isFailureOf]
  · rintro id ⟨n, hn, hanswer⟩
    refine hs.failed id ⟨n, hn, hanswer.imp_right fun hpost => ?_⟩
    rcases List.mem_append.mp hpost with hpost | hpost
    · exact hpost
    · -- the number of the rejected store is new
      obtain ⟨rfl, -, -⟩ := Handler.storeCallback.inj (List.mem_singleton.mp hpost)
      obtain ⟨a, ha, hfst⟩ := Option.map_eq_some_iff.mp hn
      have hlt := hs.fresh.accepted a (List.mem_of_find?_eq_some ha)
      omega

lemma countP_isPutOf_of_cons (hq : s.workQueue = .put asset n :: rest) (id : Id) :
    s.workQueue.countP (isPutOf id) =
      rest.countP (isPutOf id) + if asset.uuid = id then 1 else 0 := by
  simp [hq, List.countP_cons, isPutOf]

/-- What a write finds: the id is in the index, and it is in no other place. -/
lemma Consistent.of_put (hs : s.Consistent) (hq : s.workQueue = .put asset n :: rest) :
    rest.countP (isPutOf asset.uuid) = 0 ∧ s.posted.countP (isFailureOf asset.uuid) = 0 ∧
      ¬ s.Readable asset.uuid ∧ asset.uuid ∈ s.existenceIndex := by
  have hcount := countP_isPutOf_of_cons hq asset.uuid
  rw [if_pos rfl] at hcount
  obtain ⟨hput, hfail, hr, hi⟩ := (hs.balanced asset.uuid).of_put (by omega)
  exact ⟨by omega, hfail, hr, hi⟩

omit [DecidableEq Id] in
/-- The handlers that a write posts have its number. -/
lemma Fresh.post (hs : s.Fresh) (hq : s.workQueue = .put asset n :: rest)
    (handlers : List (Handler Id)) (hnumber : ∀ h ∈ handlers, ∀ m ∈ storeNumber h, m = n) :
    ({ s with workQueue := rest }.post handlers).Fresh := by
  refine ⟨fun r hr => hs.queued r (hq ▸ List.mem_cons_of_mem _ hr), fun h hh m hm => ?_,
    hs.accepted, hs.answered⟩
  rcases List.mem_append.mp hh with hh | hh
  · exact hs.posted h hh m hm
  · rw [hnumber h hh m hm]
    exact hs.queued (.put asset n) (hq ▸ List.mem_cons_self) n rfl

/-- A write adds one id to the disk and changes nothing the index or the queues hold. -/
lemma write_eq (s : VFSBackend Id) (asset : Asset Id) :
    ∃ globalDB localDB listed,
      s.write asset = { s with globalDB := globalDB, localDB := localDB, listed := listed } ∧
      ∀ id, id ∈ globalDB ∨ id ∈ localDB ↔ id = asset.uuid ∨ s.Readable id := by
  by_cases hlocal : asset.isLocal = true
  · refine ⟨s.globalDB, insert asset.uuid s.localDB, s.listed.erase asset.uuid,
      by rw [VFSBackend.write, if_pos hlocal], fun id => ?_⟩
    rw [Finset.mem_insert, Readable, or_left_comm]
  · refine ⟨insert asset.uuid s.globalDB, s.localDB, s.listed,
      by rw [VFSBackend.write, if_neg hlocal], fun id => ?_⟩
    rw [Finset.mem_insert, Readable, or_assoc]

/-- The worker writes an asset. -/
lemma Consistent.write (hs : s.Consistent) (hq : s.workQueue = .put asset n :: rest) :
    ({ s with workQueue := rest }.performDiskWrite asset n .success).Consistent := by
  obtain ⟨hput, hfail, hr, hi⟩ := hs.of_put hq
  have hcount := countP_isPutOf_of_cons hq
  have hfresh := hs.fresh.post hq [.storeCallback n asset.uuid true] (by simp [storeNumber])
  have hexists : ({ s with workQueue := rest } : VFSBackend Id).assetExists asset = false := by
    simp only [assetExists, Readable, not_or] at hr ⊢
    split <;> simp [hr]
  obtain ⟨globalDB, localDB, listed, hwrite, hreadable⟩ :=
    write_eq { s with workQueue := rest } asset
  simp only [performDiskWrite, hexists, hwrite, Bool.false_eq_true, if_false]
  refine ⟨hs.notPurging, fun r hr => hs.requests r (hq ▸ List.mem_cons_of_mem _ hr), ?_,
    ⟨hfresh.queued, hfresh.posted, hfresh.accepted, hfresh.answered⟩, fun id => ?_, ?_⟩
  · intro h hh
    rcases List.mem_append.mp hh with hh | hh
    · exact hs.handlers h hh
    · rw [List.mem_singleton.mp hh]
      rfl
  · have hposted : (s.posted ++ [Handler.storeCallback n asset.uuid true]).countP (isFailureOf id) =
        s.posted.countP (isFailureOf id) := by simp [isFailureOf]
    by_cases hid : asset.uuid = id
    · subst hid
      refine balanced_of_readable hi ((hreadable _).mpr (.inl rfl)) ?_
      exact (congrArg (rest.countP (isPutOf asset.uuid) + ·) hposted).trans (by omega)
    · refine balanced_congr (hs.balanced id) ?_ hposted ?_ Iff.rfl
      · rw [hcount, if_neg hid]
        rfl
      · exact (hreadable id).trans (or_iff_right (Ne.symm hid))
  · rintro id ⟨m, hm, hanswer⟩
    have hold : s.Failed id := by
      refine ⟨m, hm, hanswer.imp_right fun hpost => ?_⟩
      rcases List.mem_append.mp hpost with hpost | hpost
      · exact hpost
      · simp at hpost
    obtain ⟨hr', hq'⟩ := hs.failed id hold
    rw [hcount] at hq'
    have hid : asset.uuid ≠ id := by
      intro hid
      simp [hid] at hq'
    refine ⟨fun h => ?_, (Nat.add_eq_zero_iff.mp hq').1⟩
    exact hr' (((hreadable id).mp h).resolve_left (Ne.symm hid))

/-- A write fails with a `std::exception`: the answer and the handler that takes the id back are
posted. -/
lemma Consistent.writeFailed (hs : s.Consistent) (hq : s.workQueue = .put asset n :: rest) :
    ({ s with workQueue := rest }.performDiskWrite asset n .stdException).Consistent := by
  obtain ⟨hput, hfail, hr, hi⟩ := hs.of_put hq
  have hcount := countP_isPutOf_of_cons hq
  refine ⟨hs.notPurging, fun r hr => hs.requests r (hq ▸ List.mem_cons_of_mem _ hr), ?_,
    hs.fresh.post hq _ (by simp [storeNumber]), fun id => ?_, ?_⟩
  · intro h hh
    rcases List.mem_append.mp hh with hh | hh
    · exact hs.handlers h hh
    · rcases List.mem_pair.mp hh with rfl | rfl <;> rfl
  · have hposted : (s.posted ++ [Handler.assetWriteFailed asset.uuid,
          .storeCallback n asset.uuid false]).countP (isFailureOf id) =
        s.posted.countP (isFailureOf id) + if asset.uuid = id then 1 else 0 := by
      simp [isFailureOf, List.countP_cons]
    by_cases hid : asset.uuid = id
    · subst hid
      rw [if_pos rfl] at hposted
      refine balanced_of_waiting hi hr ?_
      exact (congrArg (rest.countP (isPutOf asset.uuid) + ·) hposted).trans (by omega)
    · rw [if_neg hid] at hposted
      refine balanced_congr (hs.balanced id) ?_ hposted Iff.rfl Iff.rfl
      rw [hcount, if_neg hid]
      rfl
  · rintro id ⟨m, hm, hanswer⟩
    by_cases hid : asset.uuid = id
    · subst hid
      exact ⟨hr, hput⟩
    · have hold : s.Failed id := by
        refine ⟨m, hm, hanswer.imp_right fun hpost => ?_⟩
        rcases List.mem_append.mp hpost with hpost | hpost
        · exact hpost
        · simp [Ne.symm hid] at hpost
      obtain ⟨hr', hq'⟩ := hs.failed id hold
      rw [hcount, if_neg hid] at hq'
      exact ⟨hr', hq'⟩

/-- A store is answered. -/
lemma Consistent.answer (hs : s.Consistent) {ok : Bool}
    (hi : s.posted[i]? = some (.storeCallback n id ok)) :
    ({ s with posted := s.posted.eraseIdx i }.handle (.storeCallback n id ok)).Consistent := by
  have herase := hs.eraseIdx hi fun _ => rfl
  have hmem : Handler.storeCallback n id ok ∈ s.posted := List.mem_of_getElem? hi
  refine ⟨hs.notPurging, hs.requests, herase.handlers, ⟨hs.fresh.queued, herase.fresh.posted,
    hs.fresh.accepted, ?_⟩, herase.balanced, ?_⟩
  · intro a ha
    rcases List.mem_cons.mp ha with rfl | ha
    · exact hs.fresh.posted _ hmem n rfl
    · exact hs.fresh.answered a ha
  · rintro id' ⟨m, hm, hanswer⟩
    refine hs.failed id' ⟨m, hm, ?_⟩
    rcases hanswer with hanswer | hpost
    · rcases List.mem_cons.mp hanswer with heq | hanswer
      · obtain ⟨rfl, rfl, rfl⟩ : m = n ∧ id' = id ∧ false = ok := by simpa using heq
        exact .inr hmem
      · exact .inl hanswer
    · exact .inr (List.mem_of_mem_eraseIdx hpost)

/-- An id whose write failed leaves the index. -/
lemma Consistent.takeBack (hs : s.Consistent) (hi : s.posted[i]? = some (.assetWriteFailed id)) :
    ({ s with posted := s.posted.eraseIdx i }.handle (.assetWriteFailed id)).Consistent := by
  have hcount : ∀ id', (s.posted.eraseIdx i).countP (isFailureOf id') +
      (if id = id' then 1 else 0) = s.posted.countP (isFailureOf id') := by
    intro id'
    simpa [isFailureOf] using countP_eraseIdx_add (isFailureOf id') hi
  have hmem : ∀ {h}, h ∈ s.posted.eraseIdx i → h ∈ s.posted := List.mem_of_mem_eraseIdx
  refine ⟨hs.notPurging, hs.requests, fun h hh => hs.handlers h (hmem hh),
    ⟨hs.fresh.queued, fun h hh => hs.fresh.posted h (hmem hh), hs.fresh.accepted,
      hs.fresh.answered⟩, fun id' => ?_, ?_⟩
  · have hc := hcount id'
    by_cases hid : id = id'
    · subst hid
      rw [if_pos rfl] at hc
      obtain ⟨hq, hp, hr⟩ := (hs.balanced id).of_failure (by omega)
      refine balanced_of_absent (Finset.notMem_erase _ _) hr ?_
      change s.workQueue.countP _ + (s.posted.eraseIdx i).countP _ = 0
      omega
    · rw [if_neg hid] at hc
      refine balanced_congr (hs.balanced id') rfl hc Iff.rfl ?_
      exact Finset.mem_erase.trans (and_iff_right (Ne.symm hid))
  · rintro id' ⟨n, hn, hanswer⟩
    exact hs.failed id' ⟨n, hn, hanswer.imp_right hmem⟩

end Steps

/-! ## Runs -/

/-- The failure of a write is one that takes the id back: a `std::exception` that is not an
`AssetStorageError`. -/
def repaired (s : VFSBackend Id) : Event Id → Bool
  | .work .storageError | .work .otherException =>
    match s.workQueue with
    | .put _ _ :: _ => false
    | _ => true
  | _ => true

/-- The event does not start a purge of local assets. -/
def isNotPurge : Event Id → Bool
  | .beginPurgeLocals => false
  | _ => true

variable {head : Id → Nat} {s s' : VFSBackend Id}

lemma Consistent.work (hs : s.Consistent) {outcome : DiskOutcome}
    (hrepaired : s.repaired (.work outcome) = true) (h : s.work head outcome = some s') :
    s'.Consistent := by
  rcases hq : s.workQueue with _ | ⟨r, rest⟩
  · simp [VFSBackend.work, hq] at h
  · simp only [VFSBackend.work, hq, Option.some.injEq] at h
    subst h
    have hpurge := hs.requests r (hq ▸ List.mem_cons_self)
    cases r with
    | put asset n =>
      cases outcome with
      | success => exact hs.write hq
      | stdException => exact hs.writeFailed hq
      | storageError => simp [repaired, hq] at hrepaired
      | otherException => simp [repaired, hq] at hrepaired
    | get id n =>
      have htail := hs.tail hq rfl
      cases outcome <;> exact htail.post rfl rfl fun _ => rfl
    | purge id n => exact hs.tail hq rfl
    | collectStatus n | getStoredAssetIds p n =>
      have htail := hs.tail hq rfl
      cases outcome <;> exact htail.post rfl rfl fun _ => rfl
    | purgeLocals p | deleteLocalStorage p => simp [isPurgeRequest] at hpurge

lemma Consistent.runHandler (hs : s.Consistent) {i : Nat} (h : s.runHandler i = some s') :
    s'.Consistent := by
  obtain ⟨k, hk, rfl⟩ := Option.map_eq_some_iff.mp h
  have hpurge := hs.handlers k (List.mem_of_getElem? hk)
  cases k with
  | storeCallback n id ok => exact hs.answer hk
  | assetWriteFailed id => exact hs.takeBack hk
  | getCallback n ok | completedCallback n | ioLoopFailed => exact hs.eraseIdx hk fun _ => rfl
  | unindexLocals ids p => simp [isPurgeHandler] at hpurge

/-- Every event but a purge keeps the invariant, as long as a failed write is repaired. -/
lemma Consistent.step (hs : s.Consistent) {e : Event Id} (hpurge : isNotPurge e = true)
    (hrepaired : s.repaired e = true) (h : s.step head e = some s') : s'.Consistent := by
  cases e with
  | storeAsset asset =>
    obtain rfl := Option.some.inj h
    by_cases hmem : asset.uuid ∈ s.existenceIndex
    · exact hs.reject hmem
    · exact hs.accept hmem
  | getAsset id =>
    obtain rfl := Option.some.inj h
    unfold VFSBackend.getAsset
    split
    · exact hs.enqueue rfl rfl
    · exact (hs.post rfl rfl fun _ => rfl).numbered
  | purgeAsset id | getStatus | getStoredAssetIDs p =>
    obtain rfl := Option.some.inj h
    exact hs.enqueue rfl rfl
  | beginPurgeLocals => simp [isNotPurge] at hpurge
  | onPurgeTimer => simp [VFSBackend.step, hs.notPurging] at h
  | work outcome => exact hs.work hrepaired h
  | handler i => exact hs.runHandler h

lemma consistent_start (globalDB localDB : Finset Id) : (start globalDB localDB).Consistent := by
  refine ⟨rfl, by simp [start], by simp [start], ⟨?_, ?_, ?_, ?_⟩, fun id => ?_, ?_⟩
  · simp [start]
  · simp [start]
  · simp [start]
  · simp [start]
  · by_cases hr : (start globalDB localDB).Readable id
    · exact balanced_of_readable (Finset.mem_union.mpr hr) hr rfl
    · exact balanced_of_absent (fun hi => hr (Finset.mem_union.mp hi)) hr rfl
  · rintro id ⟨n, hn, -⟩
    simp [latestStore, start] at hn

/-- With nothing waiting, a store of an id that is not on the disk succeeds. -/
lemma store_succeeds_of_consistent (hs : s.Consistent) (hquiet : s.Quiescent) (hr : ¬ s.Readable id)
    (isLocal : Bool) :
    ∃ t, run (step head) s [.storeAsset ⟨id, isLocal⟩, .work .success, .handler 0] = some t ∧
      t.Readable id ∧ (s.nextCallback, id, true) ∈ t.answers := by
  have hi : id ∉ s.existenceIndex := fun hi => hr (((hs.balanced id).mem_iff hquiet).mp hi)
  obtain ⟨hq, hp⟩ := hquiet
  simp only [Readable, not_or] at hr
  obtain ⟨hglobal, hlocal⟩ := hr
  cases isLocal <;>
    simp [run, VFSBackend.step, storeAsset, hi, VFSBackend.enqueue, VFSBackend.numbered, hq, hp,
      VFSBackend.work, processRequest, performDiskWrite, assetExists, hglobal, hlocal,
      VFSBackend.write, VFSBackend.post, VFSBackend.runHandler, handle, Readable]

end VFSBackend

end Halcyon.Whip
