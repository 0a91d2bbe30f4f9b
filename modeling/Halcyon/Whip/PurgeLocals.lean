import Halcyon.Whip.Existence

/-!
# Purging the local assets

A purge of the local assets of one directory takes three steps: the worker lists the ids
(`performDiskPurgeLocals`), the I/O thread takes them out of the index and queues the deletion
(`unindexLocals`), and the worker deletes the files (`performLocalsPhysicalDeletion`).  Whatever
is written to the directory between the listing and the deletion is deleted with the rest, although
it was never listed: its id stays in the index, and the store was acknowledged.

A write ends up between the two exactly when it is queued before the deletion is queued and behind
the listing, so a local store is safe if it does not come in while the listing of its directory is
queued or its result is posted.  The invariant `Guarded` says what then holds: the order of the
queue is such that no write of a local asset stands behind a listing or in front of a deletion of
its directory.
-/

namespace Halcyon.Whip

open Halcyon.Lib.Transition

variable {Id : Type}

namespace VFSBackend

/-! ## The invariant -/

/-- The result of a listing of this directory is posted. -/
def Unindexing (s : VFSBackend Id) (uuidHead : Nat) : Prop :=
  ∃ uuidList, .unindexLocals uuidList uuidHead ∈ s.posted

/-- The deletion of the local assets of this directory is queued. -/
def Deleting (s : VFSBackend Id) (uuidHead : Nat) : Prop :=
  .deleteLocalStorage uuidHead ∈ s.workQueue

/-- A local asset that was written after the last listing of its directory. -/
def StoredLocal (s : VFSBackend Id) (id : Id) : Prop :=
  id ∈ s.localDB ∧ id ∉ s.listed

/-- A store of the id was answered with success, or is going to be. -/
def Acknowledged (s : VFSBackend Id) (id : Id) : Prop :=
  ∃ n, (n, id, true) ∈ s.answers ∨ .storeCallback n id true ∈ s.posted

variable (head : Id → Nat)

/-- What may stand in front of what in the work queue. -/
structure Ordered (r r' : AssetRequest Id) : Prop where
  notBehindListing : ∀ id n, r' = .put ⟨id, true⟩ n → r ≠ .purgeLocals (head id)
  notBeforeDeletion : ∀ id n, r = .put ⟨id, true⟩ n → r' ≠ .deleteLocalStorage (head id)
  once : ∀ id n m, r = .put ⟨id, true⟩ n → r' ≠ .put ⟨id, true⟩ m

/-- What holds as long as no local store comes in during a listing of its directory. -/
structure Guarded (s : VFSBackend Id) : Prop where
  ordered : s.workQueue.Pairwise (Ordered head)
  /-- A write of a local asset that waits will not be deleted, and it will find no older asset. -/
  waiting : ∀ id n, .put ⟨id, true⟩ n ∈ s.workQueue → id ∈ s.existenceIndex ∧
    ¬ s.Unindexing (head id) ∧ (id ∈ s.localDB → s.Deleting (head id))
  stored : ∀ id, s.StoredLocal id → id ∈ s.existenceIndex ∧ ¬ s.Unindexing (head id) ∧
    ¬ s.Deleting (head id)
  purged : ∀ id ∈ s.localDB, id ∈ s.listed → s.Unindexing (head id) ∨ s.Deleting (head id)
  headOf : ∀ ids p, .unindexLocals ids p ∈ s.posted → ∀ id ∈ ids, head id = p
  indexed : ∀ id ∈ s.existenceIndex, id ∈ s.globalDB ∨ s.StoredLocal id ∨
    (∃ asset n, .put asset n ∈ s.workQueue ∧ asset.uuid = id) ∨
    ∃ ids p, .unindexLocals ids p ∈ s.posted ∧ id ∈ ids
  acknowledged : ∀ id, s.Acknowledged id → id ∉ s.listed → s.Readable id
  notFailed : ∀ id, .assetWriteFailed id ∉ s.posted

/-- The request writes or deletes. -/
def isWriteOrDeletion : AssetRequest Id → Bool
  | .put _ _ | .deleteLocalStorage _ => true
  | _ => false

/-- The handler acknowledges a store or changes the index. -/
def isWatched : Handler Id → Bool
  | .storeCallback _ _ success => success
  | .assetWriteFailed _ | .unindexLocals _ _ => true
  | _ => false

variable {head} {s s' : VFSBackend Id}

variable {r : AssetRequest Id}

lemma ordered_of_harmless {r' : AssetRequest Id} (h : isWriteOrDeletion r' = false) :
    Ordered head r r' := by
  constructor
  · rintro id n rfl
    simp [isWriteOrDeletion] at h
  · rintro id n - rfl
    simp [isWriteOrDeletion] at h
  · rintro id n m - rfl
    simp [isWriteOrDeletion] at h

variable {callback : Nat}

/-- The invariant does not see requests that neither write nor delete, nor the handlers that only
report. -/
lemma Guarded.of_harmless (hs : s.Guarded head) {queue : List (AssetRequest Id)}
    {posted : List (Handler Id)} {index : Nat} {purging : Bool}
    (hordered : queue.Pairwise (Ordered head))
    (hq : ∀ r, isWriteOrDeletion r = true → (r ∈ queue ↔ r ∈ s.workQueue))
    (hp : ∀ h, isWatched h = true → (h ∈ posted ↔ h ∈ s.posted)) :
    { s with workQueue := queue, posted := posted, nextCallback := callback,
             isPurgingLocals := purging, currentLocalsPurgeIndex := index }.Guarded head := by
  have hput : ∀ asset n, .put asset n ∈ queue ↔ .put asset n ∈ s.workQueue := fun _ _ => hq _ rfl
  have hdelete : ∀ p, .deleteLocalStorage p ∈ queue ↔ .deleteLocalStorage p ∈ s.workQueue :=
    fun _ => hq _ rfl
  have hunindex : ∀ ids p, .unindexLocals ids p ∈ posted ↔ .unindexLocals ids p ∈ s.posted :=
    fun _ _ => hp _ rfl
  have hanswer : ∀ n id, .storeCallback n id true ∈ posted ↔ .storeCallback n id true ∈ s.posted :=
    fun _ _ => hp _ rfl
  constructor
  · exact hordered
  · simpa only [Unindexing, Deleting, hput, hdelete, hunindex] using hs.waiting
  · simpa only [Unindexing, Deleting, StoredLocal, hdelete, hunindex] using hs.stored
  · simpa only [Unindexing, Deleting, hdelete, hunindex] using hs.purged
  · simpa only [hunindex] using hs.headOf
  · simpa only [StoredLocal, hput, hunindex] using hs.indexed
  · simpa only [Acknowledged, Readable, hanswer] using hs.acknowledged
  · exact fun id h => hs.notFailed id ((hp _ rfl).mp h)

/-! ## Steps -/

lemma pairwise_concat {α : Type} {R : α → α → Prop} {l : List α} {a : α} (h : l.Pairwise R)
    (ha : ∀ b ∈ l, R b a) : (l ++ [a]).Pairwise R :=
  List.pairwise_append.mpr ⟨h, List.pairwise_singleton _ _, by simpa using ha⟩

variable {i : Nat}

lemma mem_iff_of_getElem? {α : Type} {l : List α} {a : α} (h : l[i]? = some a) (b : α) :
    b ∈ l ↔ b = a ∨ b ∈ l.eraseIdx i := by
  obtain ⟨hi, rfl⟩ := List.getElem?_eq_some_iff.mp h
  rw [← (List.getElem_cons_eraseIdx_perm hi).mem_iff, List.mem_cons]

lemma Guarded.enqueue (hs : s.Guarded head) {index : Nat} {purging : Bool}
    (hr : isWriteOrDeletion r = false) :
    { s.enqueue r with nextCallback := callback, isPurgingLocals := purging,
                       currentLocalsPurgeIndex := index }.Guarded head := by
  refine hs.of_harmless (pairwise_concat hs.ordered fun a _ => ordered_of_harmless hr)
    (fun r' hr' => ?_) fun h _ => Iff.rfl
  have hne : r' ≠ r := by
    rintro rfl
    simp [hr] at hr'
  simp [VFSBackend.enqueue, hne]

lemma Guarded.post (hs : s.Guarded head) {h : Handler Id} (hh : isWatched h = false) :
    { s.post [h] with nextCallback := callback }.Guarded head := by
  refine hs.of_harmless hs.ordered (fun r _ => Iff.rfl) fun k hk => ?_
  have hne : k ≠ h := by
    rintro rfl
    simp [hh] at hk
  simp [VFSBackend.post, hne]

variable {rest : List (AssetRequest Id)}

lemma Guarded.tail (hs : s.Guarded head) (hq : s.workQueue = r :: rest)
    (hr : isWriteOrDeletion r = false) :
    { s with workQueue := rest }.Guarded head := by
  have hordered := hs.ordered
  rw [hq] at hordered
  refine hs.of_harmless hordered.of_cons (fun r' hr' => ?_) fun h _ => Iff.rfl
  have hne : r' ≠ r := by
    rintro rfl
    simp [hr] at hr'
  simp [hq, hne]

lemma Guarded.eraseIdx (hs : s.Guarded head) {h : Handler Id} (hi : s.posted[i]? = some h)
    (hh : isWatched h = false) :
    { s with posted := s.posted.eraseIdx i }.Guarded head := by
  refine hs.of_harmless hs.ordered (fun r _ => Iff.rfl) fun k hk => ?_
  have hne : k ≠ h := by
    rintro rfl
    simp [hh] at hk
  simp [mem_iff_of_getElem? hi k, hne]

variable [DecidableEq Id]

/-- A store comes in for an id that is not in the index; for a local asset, no purge of its
directory may be between its listing and its deletion. -/
lemma Guarded.accept (hs : s.Guarded head) {asset : Asset Id}
    (hnew : asset.uuid ∉ s.existenceIndex)
    (hquiet : asset.isLocal = true →
      .purgeLocals (head asset.uuid) ∉ s.workQueue ∧ ¬ s.Unindexing (head asset.uuid)) :
    (s.storeAsset asset).Guarded head := by
  rw [storeAsset, if_neg hnew]
  have hdelete : ∀ p, .deleteLocalStorage p ∈ s.workQueue ++ [.put asset s.nextCallback] ↔
      s.Deleting p := by simp [Deleting]
  constructor
  · refine pairwise_concat hs.ordered fun r hr => ⟨?_, by simp, ?_⟩
    · rintro id n heq rfl
      obtain ⟨rfl, -⟩ := AssetRequest.put.inj heq
      exact (hquiet rfl).1 hr
    · rintro id n m rfl heq
      obtain ⟨rfl, -⟩ := AssetRequest.put.inj heq
      exact hnew (hs.waiting id n hr).1
  · intro id n hput
    rcases List.mem_append.mp hput with hput | hput
    · obtain ⟨hi, hu, hd⟩ := hs.waiting id n hput
      exact ⟨Finset.mem_insert_of_mem hi, hu, fun hl => (hdelete _).mpr (hd hl)⟩
    · obtain ⟨rfl, -⟩ := AssetRequest.put.inj (List.mem_singleton.mp hput)
      refine ⟨Finset.mem_insert_self _ _, (hquiet rfl).2, fun hl => (hdelete _).mpr ?_⟩
      -- an older local asset of this id is about to be deleted, or the id would be in the index
      by_cases hlisted : id ∈ s.listed
      · exact (hs.purged id hl hlisted).resolve_left (hquiet rfl).2
      · exact absurd (hs.stored id ⟨hl, hlisted⟩).1 hnew
  · intro id hstored
    obtain ⟨hi, hu, hd⟩ := hs.stored id hstored
    exact ⟨Finset.mem_insert_of_mem hi, hu, fun h => hd ((hdelete _).mp h)⟩
  · exact fun id hl hlisted => (hs.purged id hl hlisted).imp_right (hdelete _).mpr
  · exact hs.headOf
  · intro id hi
    rcases Finset.mem_insert.mp hi with rfl | hi
    · exact .inr (.inr (.inl ⟨asset, s.nextCallback, List.mem_concat_self, rfl⟩))
    · rcases hs.indexed id hi with h | h | ⟨a, n, hput, ha⟩ | h
      · exact .inl h
      · exact .inr (.inl h)
      · exact .inr (.inr (.inl ⟨a, n, List.mem_append_left _ hput, ha⟩))
      · exact .inr (.inr (.inr h))
  · exact hs.acknowledged
  · exact hs.notFailed

variable {id : Id} {n : Nat}

/-- The worker writes a local asset. -/
lemma Guarded.writeLocal (hs : s.Guarded head) (hq : s.workQueue = .put ⟨id, true⟩ n :: rest) :
    ({ s with workQueue := rest }.performDiskWrite ⟨id, true⟩ n .success).Guarded head := by
  have hordered := hs.ordered
  rw [hq] at hordered
  obtain ⟨hfirst, hrest⟩ := List.pairwise_cons.mp hordered
  obtain ⟨hi, hu, hl⟩ := hs.waiting id n (hq ▸ List.mem_cons_self)
  have hdeleting : ∀ p, .deleteLocalStorage p ∈ rest ↔ s.Deleting p := by simp [Deleting, hq]
  have hundeleted : ¬ s.Deleting (head id) := fun hd =>
    (hfirst _ ((hdeleting _).mpr hd)).notBeforeDeletion id n rfl rfl
  have hnew : id ∉ s.localDB := fun h => hundeleted (hl h)
  have hwrite : ({ s with workQueue := rest } : VFSBackend Id).performDiskWrite ⟨id, true⟩ n
      .success = { s with workQueue := rest, localDB := insert id s.localDB,
                          listed := s.listed.erase id,
                          posted := s.posted ++ [.storeCallback n id true] } := by
    simp [performDiskWrite, assetExists, hnew, VFSBackend.write, VFSBackend.post]
  rw [hwrite]
  have hunindex : ∀ p, (∃ ids, .unindexLocals ids p ∈ s.posted ++ [.storeCallback n id true]) ↔
      s.Unindexing p := by simp [Unindexing]
  constructor
  · exact hrest
  · intro x m hput
    obtain ⟨hxi, hxu, hxl⟩ := hs.waiting x m (hq ▸ List.mem_cons_of_mem _ hput)
    refine ⟨hxi, fun h => hxu ((hunindex _).mp h), fun h => (hdeleting _).mpr ?_⟩
    rcases Finset.mem_insert.mp h with rfl | h
    · exact absurd rfl ((hfirst _ hput).once x n m rfl)
    · exact hxl h
  · rintro x ⟨hxl, hxlisted⟩
    by_cases hx : x = id
    · subst hx
      exact ⟨hi, fun h => hu ((hunindex _).mp h), fun h => hundeleted ((hdeleting _).mp h)⟩
    · have hstored : s.StoredLocal x :=
        ⟨Finset.mem_of_mem_insert_of_ne hxl hx, fun h => hxlisted (Finset.mem_erase.mpr ⟨hx, h⟩)⟩
      obtain ⟨hxi, hxu, hxd⟩ := hs.stored x hstored
      exact ⟨hxi, fun h => hxu ((hunindex _).mp h), fun h => hxd ((hdeleting _).mp h)⟩
  · intro x hxl hxlisted
    obtain ⟨hx, hxlisted⟩ := Finset.mem_erase.mp hxlisted
    exact (hs.purged x (Finset.mem_of_mem_insert_of_ne hxl hx) hxlisted).imp
      (hunindex _).mpr (hdeleting _).mpr
  · intro ids p h
    exact hs.headOf ids p (by simpa using h)
  · intro x hxi
    by_cases hx : x = id
    · subst hx
      exact .inr (.inl ⟨Finset.mem_insert_self _ _, Finset.notMem_erase _ _⟩)
    · rcases hs.indexed x hxi with h | ⟨h, h'⟩ | ⟨a, m, hput, ha⟩ | ⟨ids, p, h, h'⟩
      · exact .inl h
      · exact .inr (.inl ⟨Finset.mem_insert_of_mem h, fun h => h' (Finset.mem_of_mem_erase h)⟩)
      · refine .inr (.inr (.inl ⟨a, m, ?_, ha⟩))
        rw [hq] at hput
        rcases List.mem_cons.mp hput with heq | hput
        · obtain ⟨rfl, -⟩ := AssetRequest.put.inj heq
          exact absurd ha.symm hx
        · exact hput
      · exact .inr (.inr (.inr ⟨ids, p, List.mem_append_left _ h, h'⟩))
  · rintro x ⟨m, hm⟩ hxlisted
    by_cases hx : x = id
    · subst hx
      exact .inr (Finset.mem_insert_self _ _)
    · have hack : s.Acknowledged x := ⟨m, by simpa [hx] using hm⟩
      have hread := hs.acknowledged x hack fun h => hxlisted (Finset.mem_erase.mpr ⟨hx, h⟩)
      exact hread.imp_right Finset.mem_insert_of_mem
  · intro x h
    exact hs.notFailed x (by simpa using h)

/-- The worker writes a global asset, or finds it there already. -/
lemma Guarded.writeGlobal (hs : s.Guarded head) (hq : s.workQueue = .put ⟨id, false⟩ n :: rest) :
    ({ s with workQueue := rest }.performDiskWrite ⟨id, false⟩ n .success).Guarded head := by
  have hwrite : ({ s with workQueue := rest } : VFSBackend Id).performDiskWrite ⟨id, false⟩ n
      .success = { s with workQueue := rest, globalDB := insert id s.globalDB,
                          posted := s.posted ++
                            [.storeCallback n id (decide (id ∉ s.globalDB))] } := by
    by_cases hmem : id ∈ s.globalDB <;>
      simp [performDiskWrite, assetExists, hmem, VFSBackend.write, VFSBackend.post]
  rw [hwrite]
  generalize decide (id ∉ s.globalDB) = ok
  have hordered := hs.ordered
  rw [hq] at hordered
  have hput : ∀ x m, .put ⟨x, true⟩ m ∈ rest → .put ⟨x, true⟩ m ∈ s.workQueue := fun x m h =>
    hq ▸ List.mem_cons_of_mem _ h
  have hdeleting : ∀ p, .deleteLocalStorage p ∈ rest ↔ s.Deleting p := by simp [Deleting, hq]
  have hunindex : ∀ ids p, .unindexLocals ids p ∈ s.posted ++ [.storeCallback n id ok] ↔
      .unindexLocals ids p ∈ s.posted := by simp
  constructor
  · exact hordered.of_cons
  · intro x m hx
    simpa only [Unindexing, hunindex, Deleting, hdeleting] using hs.waiting x m (hput x m hx)
  · simpa only [StoredLocal, Unindexing, hunindex, Deleting, hdeleting] using hs.stored
  · simpa only [Unindexing, hunindex, Deleting, hdeleting] using hs.purged
  · simpa only [hunindex] using hs.headOf
  · intro x hxi
    simp only [hunindex]
    rcases hs.indexed x hxi with h | h | ⟨a, m, ha, rfl⟩ | h
    · exact .inl (Finset.mem_insert_of_mem h)
    · exact .inr (.inl h)
    · rw [hq] at ha
      rcases List.mem_cons.mp ha with heq | ha
      · obtain ⟨rfl, -⟩ := AssetRequest.put.inj heq
        exact .inl (Finset.mem_insert_self _ _)
      · exact .inr (.inr (.inl ⟨a, m, ha, rfl⟩))
    · exact .inr (.inr (.inr h))
  · rintro x ⟨m, hm⟩ hxlisted
    by_cases hx : x = id
    · subst hx
      exact .inl (Finset.mem_insert_self _ _)
    · have hack : s.Acknowledged x := ⟨m, by simpa [hx] using hm⟩
      exact (hs.acknowledged x hack hxlisted).imp_left Finset.mem_insert_of_mem
  · intro x h
    exact hs.notFailed x (by simpa using h)

variable {p : Nat}

omit [DecidableEq Id] in
lemma mem_localsOf {s : VFSBackend Id} :
    id ∈ s.localsOf head p ↔ id ∈ s.localDB ∧ head id = p :=
  Finset.mem_filter

/-- The worker lists the local assets of a directory. -/
lemma Guarded.list (hs : s.Guarded head) (hq : s.workQueue = .purgeLocals p :: rest) :
    ({ s with workQueue := rest }.performDiskPurgeLocals head p .success).Guarded head := by
  have hordered := hs.ordered
  rw [hq] at hordered
  obtain ⟨hfirst, hrest⟩ := List.pairwise_cons.mp hordered
  have hput : ∀ a n, .put a n ∈ rest ↔ .put a n ∈ s.workQueue := by simp [hq]
  have hdelete : ∀ p, .deleteLocalStorage p ∈ rest ↔ s.Deleting p := by simp [Deleting, hq]
  let t := ({ s with workQueue := rest } : VFSBackend Id).performDiskPurgeLocals head p .success
  have hunindex : ∀ p', t.Unindexing p' ↔ s.Unindexing p' ∨ p' = p := by
    intro p'
    simp [t, Unindexing, performDiskPurgeLocals, VFSBackend.post, exists_or]
  have hlisted : ∀ id, id ∈ t.listed ↔ id ∈ s.listed ∨ id ∈ s.localDB ∧ head id = p := by
    intro id
    exact Finset.mem_union.trans (or_congr_right mem_localsOf)
  constructor
  · exact hrest
  · intro id n hw
    obtain ⟨hi, hu, hd⟩ := hs.waiting id n ((hput _ _).mp hw)
    refine ⟨hi, fun h => ?_, fun h => (hdelete _).mpr (hd h)⟩
    rcases (hunindex _).mp h with h | rfl
    · exact hu h
    · exact (hfirst _ hw).notBehindListing id n rfl rfl
  · rintro id ⟨hl, hnot⟩
    rw [hlisted, not_or] at hnot
    obtain ⟨hi, hu, hd⟩ := hs.stored id ⟨hl, hnot.1⟩
    refine ⟨hi, fun h => ?_, fun h => hd ((hdelete _).mp h)⟩
    exact ((hunindex _).mp h).elim hu fun h => hnot.2 ⟨hl, h⟩
  · intro id hl hmem
    rcases (hlisted id).mp hmem with hmem | ⟨-, hp⟩
    · exact (hs.purged id hl hmem).imp (fun h => (hunindex _).mpr (.inl h)) (hdelete _).mpr
    · exact .inl ((hunindex _).mpr (.inr hp))
  · intro ids p' h id hid
    rcases List.mem_append.mp h with h | h
    · exact hs.headOf ids p' h id hid
    · obtain ⟨rfl, rfl⟩ := Handler.unindexLocals.inj (List.mem_singleton.mp h)
      exact (mem_localsOf.mp hid).2
  · intro id hi
    rcases hs.indexed id hi with h | ⟨hl, hnot⟩ | ⟨a, n, ha, rfl⟩ | ⟨ids, p', h, hid⟩
    · exact .inl h
    · by_cases hp : head id = p
      · exact .inr (.inr (.inr ⟨_, p, List.mem_concat_self, mem_localsOf.mpr ⟨hl, hp⟩⟩))
      · refine .inr (.inl ⟨hl, fun h => ?_⟩)
        exact ((hlisted id).mp h).elim hnot fun h => hp h.2
    · exact .inr (.inr (.inl ⟨a, n, (hput a n).mpr ha, rfl⟩))
    · exact .inr (.inr (.inr ⟨ids, p', List.mem_append_left _ h, hid⟩))
  · rintro id ⟨n, hn⟩ hnot
    rw [hlisted, not_or] at hnot
    exact hs.acknowledged id ⟨n, by simpa [performDiskPurgeLocals, VFSBackend.post] using hn⟩ hnot.1
  · intro id h
    exact hs.notFailed id (by simpa [performDiskPurgeLocals, VFSBackend.post] using h)

/-- The worker deletes the local assets of a directory. -/
lemma Guarded.delete (hs : s.Guarded head) (hq : s.workQueue = .deleteLocalStorage p :: rest) :
    ({ s with workQueue := rest }.performLocalsPhysicalDeletion head p .success).Guarded head := by
  have hordered := hs.ordered
  rw [hq] at hordered
  have hput : ∀ a n, .put a n ∈ rest ↔ .put a n ∈ s.workQueue := by simp [hq]
  have hdelete : ∀ p', s.Deleting p' ↔ p' = p ∨ .deleteLocalStorage p' ∈ rest := by
    simp [Deleting, hq]
  have hlocal : ∀ id, id ∈ s.localDB \ s.localsOf head p ↔ id ∈ s.localDB ∧ head id ≠ p := by
    intro id
    rw [Finset.mem_sdiff, mem_localsOf]
    tauto
  -- what is deleted was listed
  have hsafe : ∀ id, s.StoredLocal id → head id ≠ p := fun id hstored hp =>
    (hs.stored id hstored).2.2 ((hdelete _).mpr (.inl hp))
  constructor
  · exact hordered.of_cons
  · intro id n hw
    obtain ⟨hi, hu, hd⟩ := hs.waiting id n ((hput _ _).mp hw)
    refine ⟨hi, hu, fun h => ?_⟩
    obtain ⟨hl, hp⟩ := (hlocal id).mp h
    exact ((hdelete _).mp (hd hl)).resolve_left hp
  · rintro id ⟨hl, hnot⟩
    obtain ⟨hi, hu, hd⟩ := hs.stored id ⟨((hlocal id).mp hl).1, hnot⟩
    exact ⟨hi, hu, fun h => hd ((hdelete _).mpr (.inr h))⟩
  · intro id hl hlisted
    obtain ⟨hl, hp⟩ := (hlocal id).mp hl
    exact (hs.purged id hl hlisted).imp_right fun h => ((hdelete _).mp h).resolve_left hp
  · exact hs.headOf
  · intro id hi
    rcases hs.indexed id hi with h | h | ⟨a, n, ha, rfl⟩ | h
    · exact .inl h
    · exact .inr (.inl ⟨(hlocal id).mpr ⟨h.1, hsafe id h⟩, h.2⟩)
    · exact .inr (.inr (.inl ⟨a, n, (hput a n).mpr ha, rfl⟩))
    · exact .inr (.inr (.inr h))
  · intro id hack hnot
    refine (hs.acknowledged id hack hnot).imp_right fun hl => ?_
    exact (hlocal id).mpr ⟨hl, hsafe id ⟨hl, hnot⟩⟩
  · exact hs.notFailed

/-- A store is answered. -/
lemma Guarded.answer (hs : s.Guarded head) {ok : Bool}
    (hi : s.posted[i]? = some (.storeCallback n id ok)) :
    ({ s with posted := s.posted.eraseIdx i }.handle (.storeCallback n id ok)).Guarded head := by
  have hmem := mem_iff_of_getElem? hi
  have hunindex : ∀ ids p, .unindexLocals ids p ∈ s.posted.eraseIdx i ↔
      .unindexLocals ids p ∈ s.posted := by simp [hmem]
  constructor
  · exact hs.ordered
  · simpa only [handle, Unindexing, hunindex, Deleting] using hs.waiting
  · simpa only [handle, Unindexing, hunindex, Deleting, StoredLocal] using hs.stored
  · simpa only [handle, Unindexing, hunindex, Deleting] using hs.purged
  · simpa only [handle, hunindex] using hs.headOf
  · simpa only [handle, StoredLocal, hunindex] using hs.indexed
  · rintro x ⟨m, hm⟩ hx
    refine hs.acknowledged x ⟨m, ?_⟩ hx
    rw [hmem]
    simp only [handle, List.mem_cons, Prod.mk.injEq, Handler.storeCallback.injEq] at hm ⊢
    tauto
  · intro x h
    exact hs.notFailed x ((hmem _).mpr (.inr h))

/-- The I/O thread takes the listed ids out of the index and queues the deletion. -/
lemma Guarded.unindex (hs : s.Guarded head) {ids : Finset Id}
    (hi : s.posted[i]? = some (.unindexLocals ids p)) :
    ({ s with posted := s.posted.eraseIdx i }.handle (.unindexLocals ids p)).Guarded head := by
  have hmem := mem_iff_of_getElem? hi
  have hposted : .unindexLocals ids p ∈ s.posted := List.mem_of_getElem? hi
  have hhead : ∀ id ∈ ids, head id = p := hs.headOf ids p hposted
  have hunindex : ∀ p', (∃ ids, .unindexLocals ids p' ∈ s.posted.eraseIdx i) → s.Unindexing p' :=
    fun p' ⟨ids', h⟩ => ⟨ids', (hmem _).mpr (.inr h)⟩
  have hput : ∀ a n, .put a n ∈ s.workQueue ++ [.deleteLocalStorage p] ↔
      .put a n ∈ s.workQueue := by simp
  have hdelete : ∀ p', .deleteLocalStorage p' ∈ s.workQueue ++ [.deleteLocalStorage p] ↔
      s.Deleting p' ∨ p' = p := by simp [Deleting]
  -- ids of other directories, and of no asset that is waited for, are unindexed
  have hkept : ∀ {id}, id ∈ s.existenceIndex → ¬ s.Unindexing (head id) →
      id ∈ s.existenceIndex \ ids := fun {id} hid hu =>
    Finset.mem_sdiff.mpr ⟨hid, fun h => hu ⟨ids, hhead id h ▸ hposted⟩⟩
  constructor
  · refine pairwise_concat hs.ordered fun r hr => ⟨by simp, ?_, by simp⟩
    rintro id n rfl heq
    obtain rfl := AssetRequest.deleteLocalStorage.inj heq
    exact (hs.waiting id n hr).2.1 ⟨ids, hposted⟩
  · intro id n hw
    obtain ⟨hid, hu, hd⟩ := hs.waiting id n ((hput _ _).mp hw)
    exact ⟨hkept hid hu, fun h => hu (hunindex _ h), fun h => (hdelete _).mpr (.inl (hd h))⟩
  · intro id hstored
    obtain ⟨hid, hu, hd⟩ := hs.stored id hstored
    refine ⟨hkept hid hu, fun h => hu (hunindex _ h), fun h => ?_⟩
    rcases (hdelete _).mp h with h | h
    · exact hd h
    · exact hu ⟨ids, h ▸ hposted⟩
  · intro id hl hlisted
    by_cases hp : head id = p
    · exact .inr ((hdelete _).mpr (.inr hp))
    · rcases hs.purged id hl hlisted with ⟨ids', h⟩ | h
      · refine .inl ⟨ids', ((hmem _).mp h).resolve_left fun heq => hp ?_⟩
        exact (Handler.unindexLocals.inj heq).2
      · exact .inr ((hdelete _).mpr (.inl h))
  · exact fun ids' p' h => hs.headOf ids' p' ((hmem _).mpr (.inr h))
  · intro id hid
    obtain ⟨hid, hnot⟩ := Finset.mem_sdiff.mp hid
    rcases hs.indexed id hid with h | h | ⟨a, n, ha, rfl⟩ | ⟨ids', p', h, hin⟩
    · exact .inl h
    · exact .inr (.inl h)
    · exact .inr (.inr (.inl ⟨a, n, (hput a n).mpr ha, rfl⟩))
    · refine .inr (.inr (.inr ⟨ids', p', ((hmem _).mp h).resolve_left fun heq => hnot ?_, hin⟩))
      exact (Handler.unindexLocals.inj heq).1 ▸ hin
  · rintro x ⟨m, hm⟩ hx
    exact hs.acknowledged x ⟨m, hm.imp_right fun h => (hmem _).mpr (.inr h)⟩ hx
  · exact fun x h => hs.notFailed x ((hmem _).mpr (.inr h))

/-! ## Runs -/

/-- A turn of the worker ends with success. -/
def succeeds : Event Id → Bool
  | .work outcome => decide (outcome = .success)
  | _ => true

variable (head) in
/-- A local asset that is new is not stored while its directory is about to be listed, or the
result of the listing is posted. -/
def StoresOutsidePurge (s : VFSBackend Id) : Event Id → Prop
  | .storeAsset asset => asset.isLocal = true → asset.uuid ∉ s.existenceIndex →
      .purgeLocals (head asset.uuid) ∉ s.workQueue ∧ ¬ s.Unindexing (head asset.uuid)
  | _ => True

lemma Guarded.work (hs : s.Guarded head) (h : s.work head .success = some s') :
    s'.Guarded head := by
  rcases hq : s.workQueue with _ | ⟨r, rest⟩
  · simp [VFSBackend.work, hq] at h
  · simp only [VFSBackend.work, hq, Option.some.injEq] at h
    subst h
    cases r with
    | put asset n =>
      obtain ⟨id, _ | _⟩ := asset
      · exact hs.writeGlobal hq
      · exact hs.writeLocal hq
    | get id n | collectStatus n | getStoredAssetIds p n => exact (hs.tail hq rfl).post rfl
    | purge id n => exact hs.tail hq rfl
    | purgeLocals p => exact hs.list hq
    | deleteLocalStorage p => exact hs.delete hq

lemma Guarded.runHandler (hs : s.Guarded head) (h : s.runHandler i = some s') :
    s'.Guarded head := by
  obtain ⟨k, hk, rfl⟩ := Option.map_eq_some_iff.mp h
  cases k with
  | storeCallback n id ok => exact hs.answer hk
  | assetWriteFailed id => exact absurd (List.mem_of_getElem? hk) (hs.notFailed id)
  | getCallback n ok | completedCallback n | ioLoopFailed => exact hs.eraseIdx hk rfl
  | unindexLocals ids p => exact hs.unindex hk

lemma Guarded.step (hs : s.Guarded head) {e : Event Id} (hsuccess : succeeds e = true)
    (hcond : s.StoresOutsidePurge head e) (h : s.step head e = some s') : s'.Guarded head := by
  cases e with
  | storeAsset asset =>
    obtain rfl := Option.some.inj h
    by_cases hmem : asset.uuid ∈ s.existenceIndex
    · rw [VFSBackend.storeAsset, if_pos hmem]
      exact hs.post rfl
    · exact hs.accept hmem fun hlocal => hcond hlocal hmem
  | getAsset id =>
    obtain rfl := Option.some.inj h
    unfold VFSBackend.getAsset
    split
    · exact hs.enqueue rfl
    · exact hs.post rfl
  | purgeAsset id | getStatus | getStoredAssetIDs p =>
    obtain rfl := Option.some.inj h
    exact hs.enqueue rfl
  | beginPurgeLocals =>
    obtain rfl := Option.some.inj h
    unfold VFSBackend.beginPurgeLocals
    split
    · exact hs
    · exact hs.of_harmless hs.ordered (fun _ _ => Iff.rfl) fun _ _ => Iff.rfl
  | onPurgeTimer =>
    simp only [VFSBackend.step, Option.ite_none_right_eq_some, Option.some.injEq] at h
    obtain ⟨-, rfl⟩ := h
    exact hs.enqueue rfl
  | work outcome =>
    obtain rfl : outcome = .success := of_decide_eq_true hsuccess
    exact hs.work h
  | handler i => exact hs.runHandler h

lemma guarded_start (globalDB localDB : Finset Id) : (start globalDB localDB).Guarded head where
  ordered := List.Pairwise.nil
  waiting := by simp [start]
  stored id h := by
    refine ⟨Finset.mem_union_right _ h.1, ?_, ?_⟩
    · simp [Unindexing, start]
    · simp [Deleting, start]
  purged := by simp [start]
  headOf := by simp [start]
  indexed id hi := by
    rcases Finset.mem_union.mp hi with h | h
    · exact .inl h
    · exact .inr (.inl ⟨h, Finset.notMem_empty _⟩)
  acknowledged id h := by simp [Acknowledged, start] at h
  notFailed := by simp [start]

end VFSBackend

end Halcyon.Whip
