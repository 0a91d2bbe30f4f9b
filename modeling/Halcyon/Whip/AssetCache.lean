import Halcyon.Lib.Transition
import Halcyon.Whip.LruCache
import Halcyon.Whip.Message

/-!
# The asset cache

`AssetCache` stands in front of the storage of a server.  A get is answered from the cache, or handed
to the storage; when the storage has completed it, the asset is cached, unless the get said not to,
and returned.  A store is handed to the storage, and the asset is cached when it has been stored.
Assets that other servers of the mesh have delivered are cached as well (`inform`).

A run records the ids in the order of their use, the assets that were stored, read or informed with
the ids for which this happened, and what was returned.  `Sound` says that the cache is within its
budget, holds the most recently used ids and returns genuine assets; it holds in every run.
-/

namespace Halcyon.Whip

open Halcyon.Lib Halcyon.Lib.Recency Halcyon.Lib.Transition

/-! ## Sizes -/

/-- `Asset::getSize`, an `unsigned int`. -/
def assetSize (asset : Bytes) : BitVec 32 := BitVec.ofNat 32 asset.length

/-- `UUID_OVERHEAD + MISC_OVERHEAD`. -/
def totalOverhead : BitVec 32 := 32 + 8

/-- What `AssetSizeCalculator` adds for an asset: the sum is one of `unsigned int`s, which is then
added to an `unsigned long long`. -/
def assetWeight (asset : Bytes) : BitVec 64 := (assetSize asset + totalOverhead).setWidth 64

/-- The setting `cache_size` is in megabytes. -/
def maxCacheSize (cacheSize : BitVec 32) : BitVec 64 := cacheSize.setWidth 64 * 1000000

/-- `SF_DONTCACHE`; the other flag is `SF_NONE`, which is zero. -/
def sfDontCache : BitVec 32 := 1

/-- A get that was handed to the storage. -/
structure PendingGet where
  uuid : Bytes
  flags : BitVec 32
  deriving DecidableEq

/-- `AssetCache`, with what is under way in the storage and a record of what happened. -/
structure AssetCache where
  cache : LRUCache Bytes Bytes
  gets : List PendingGet
  /-- The assets that were handed to the storage to be stored. -/
  puts : List Bytes
  /-- The ids that were found in the cache or inserted, the last one first. -/
  uses : List Bytes
  /-- The assets that were stored, read or informed, with the ids for which this happened. -/
  sources : List (Bytes × Bytes)
  /-- The assets that were given to callbacks, with the ids they were asked for. -/
  returned : List (Bytes × Bytes)
  /-- The fault that ended the run. -/
  fault : Option LRUFault

namespace AssetCache

/-- What can happen to the cache.  The storage completes what it was given in any order. -/
inductive Event
  | getAsset (uuid : Bytes) (flags : BitVec 32)
  | asyncGetCompleted (i : Nat) (asset : Option Bytes) (success : Bool)
  | storeAsset (asset : Bytes)
  | asyncPutCompleted (i : Nat) (success : Bool)
  | inform (asset : Option Bytes)

/-- The constructor. -/
def start (cacheSize : BitVec 32) : AssetCache :=
  ⟨LRUCache.empty (maxCacheSize cacheSize), [], [], [], [], [], none⟩

/-- `_cache.insert(asset->getUUID(), asset)`. -/
def insert (s : AssetCache) (asset : Bytes) : AssetCache :=
  match s.cache.insert assetWeight (assetUUID asset) asset with
  | .error f => { s with fault := some f }
  | .ok c => { s with cache := c, uses := assetUUID asset :: s.uses }

/-- `getAsset`.  A hit is posted to the callback. -/
def getAsset (s : AssetCache) (uuid : Bytes) (flags : BitVec 32) : AssetCache :=
  match s.cache.fetch uuid with
  | .error f => { s with fault := some f }
  | .ok (some asset, c) =>
    { s with cache := c, uses := uuid :: s.uses, returned := (uuid, asset) :: s.returned }
  | .ok (none, c) => { s with cache := c, gets := s.gets ++ [⟨uuid, flags⟩] }

/-- `asyncGetCompleted`. -/
def asyncGetCompleted (s : AssetCache) (get : PendingGet) (asset : Option Bytes)
    (success : Bool) : AssetCache :=
  match asset with
  | none => s
  | some asset =>
    let s := { s with
      sources := (get.uuid, asset) :: s.sources, returned := (get.uuid, asset) :: s.returned }
    if success ∧ get.flags &&& sfDontCache = 0 then s.insert asset else s

/-- One step; only what the storage was given can be completed, and nothing happens after a fault. -/
def step (s : AssetCache) (e : Event) : Option AssetCache :=
  if s.fault.isSome then none
  else
    match e with
    | .getAsset uuid flags => some (s.getAsset uuid flags)
    | .asyncGetCompleted i asset success =>
      s.gets[i]?.map fun get =>
        { s with gets := s.gets.eraseIdx i }.asyncGetCompleted get asset success
    | .storeAsset asset =>
      some { s with
        puts := s.puts ++ [asset], sources := (assetUUID asset, asset) :: s.sources }
    | .asyncPutCompleted i success =>
      s.puts[i]?.map fun asset =>
        let s := { s with puts := s.puts.eraseIdx i }
        if success then s.insert asset else s
    | .inform none => some s
    | .inform (some asset) =>
      some ({ s with sources := (assetUUID asset, asset) :: s.sources }.insert asset)

/-- Assets are smaller than two gigabytes, and the storage returns only assets that bear the id they
are asked for. -/
def Genuine (s : AssetCache) : Event → Prop
  | .asyncGetCompleted i (some asset) _ =>
    asset.length < 2 ^ 31 ∧ ∀ get, s.gets[i]? = some get → assetUUID asset = get.uuid
  | .storeAsset asset | .inform (some asset) => asset.length < 2 ^ 31
  | _ => True

/-- The cache is within its budget and returns genuine assets. -/
structure Sound (cacheSize : BitVec 32) (s : AssetCache) : Prop where
  /-- Every insertion has come to its end, without a fault. -/
  noFault : s.fault = none
  /-- The size is that of the cached assets with their overhead. -/
  accounted : s.cache.size.toNat = (s.cache.entries.map fun e => e.2.length + 40).sum
  within : s.cache.size.toNat ≤ cacheSize.toNat * 1000000
  /-- Index and list have the same ids, each once, and the index points to the nodes of the list. -/
  same_ids : s.cache.index.keys.Perm s.cache.entries.keys
  nodup : s.cache.entries.keys.Nodup
  points : ∀ uuid a, s.cache.index.get? uuid = some a →
    ∃ asset, s.cache.list.get? a = some (uuid, asset)
  /-- The ids in the cache are those used last, in the order of their last use. -/
  leastRecentlyUsed : s.cache.entries.keys <+: recent s.uses
  returned : ∀ p ∈ s.returned, p ∈ s.sources

/-! ## Sizes do not overflow -/

lemma toNat_assetWeight {asset : Bytes} (h : asset.length < 2 ^ 31) :
    (assetWeight asset).toNat = asset.length + 40 := by
  have hoverhead : totalOverhead.toNat = 40 := rfl
  rw [assetWeight, BitVec.toNat_setWidth, BitVec.toNat_add, assetSize, BitVec.toNat_ofNat, hoverhead]
  omega

lemma toNat_maxCacheSize (cacheSize : BitVec 32) :
    (maxCacheSize cacheSize).toNat = cacheSize.toNat * 1000000 := by
  have hlt := cacheSize.isLt
  have hmillion : (1000000 : BitVec 64).toNat = 1000000 := rfl
  rw [maxCacheSize, BitVec.toNat_mul, BitVec.toNat_setWidth, hmillion]
  omega

/-! ## Every step -/

/-- What every step keeps. -/
structure Kept (cacheSize : BitVec 32) (s : AssetCache) : Prop where
  noFault : s.fault = none
  wellFormed : s.cache.WellFormed assetWeight
  maxSize : s.cache.maxSize = maxCacheSize cacheSize
  within : total (fun asset => (assetWeight asset).toNat) s.cache.entries ≤ s.cache.maxSize.toNat
  leastRecentlyUsed : s.cache.entries.keys <+: recent s.uses
  cached : ∀ e ∈ s.cache.entries, e ∈ s.sources
  puts : ∀ asset ∈ s.puts, (assetUUID asset, asset) ∈ s.sources
  returned : ∀ p ∈ s.returned, p ∈ s.sources
  small : ∀ p ∈ s.sources, p.2.length < 2 ^ 31

variable {cacheSize : BitVec 32} {s s' : AssetCache} {e : Event}

lemma kept_start (cacheSize : BitVec 32) : Kept cacheSize (start cacheSize) where
  noFault := rfl
  wellFormed := LRUCache.wellFormed_empty _
  maxSize := rfl
  within := Nat.zero_le _
  leastRecentlyUsed := List.nil_prefix
  cached := fun _ h => nomatch h
  puts := fun _ h => nomatch h
  returned := fun _ h => nomatch h
  small := fun _ h => nomatch h

namespace Kept

/-- An asset becomes known under an id. -/
lemma source (h : Kept cacheSize s) (uuid : Bytes) {asset : Bytes} (hsmall : asset.length < 2 ^ 31) :
    Kept cacheSize { s with sources := (uuid, asset) :: s.sources } :=
  { h with
    cached := fun e he => List.mem_cons_of_mem _ (h.cached e he)
    puts := fun a ha => List.mem_cons_of_mem _ (h.puts a ha)
    returned := fun p hp => List.mem_cons_of_mem _ (h.returned p hp)
    small := List.forall_mem_cons.mpr ⟨hsmall, h.small⟩ }

/-- An insertion of an asset that is known comes to its end. -/
lemma insert (h : Kept cacheSize s) {asset : Bytes} (hasset : (assetUUID asset, asset) ∈ s.sources) :
    Kept cacheSize (s.insert asset) := by
  have hfits : total (fun asset => (assetWeight asset).toNat) s.cache.entries +
      (assetWeight asset).toNat < 2 ^ 64 := by
    have hwithin := h.within
    have hlt := cacheSize.isLt
    have hsmall : asset.length < 2 ^ 31 := h.small _ hasset
    rw [h.maxSize, toNat_maxCacheSize] at hwithin
    rw [toNat_assetWeight hsmall]
    omega
  obtain ⟨c, hinsert, hwell, hentries, hmax⟩ :=
    h.wellFormed.insert_spec (assetUUID asset) asset hfits
  rw [AssetCache.insert, hinsert]
  exact
    { h with
      wellFormed := hwell
      maxSize := hmax.trans h.maxSize
      within := by
        simp only [hentries, hmax]
        exact total_fit_le _ _
      leastRecentlyUsed := by
        simp only [hentries]
        exact keys_put_isPrefix h.leastRecentlyUsed _ _ _ _
      cached := by
        intro e he
        simp only [hentries] at he
        obtain rfl | he := mem_put he
        · exact hasset
        · exact h.cached e he }

lemma getAsset (h : Kept cacheSize s) (uuid : Bytes) (flags : BitVec 32) :
    Kept cacheSize (s.getAsset uuid flags) := by
  obtain ⟨c, hfetch, hwell, hentries, hmax⟩ := h.wellFormed.fetch_spec uuid
  have hperm : c.entries.Perm s.cache.entries := by
    rw [hentries]
    exact perm_touch h.wellFormed.keys_nodup uuid
  have hwithin : total (fun asset => (assetWeight asset).toNat) c.entries ≤ c.maxSize.toNat := by
    rw [hmax, total_perm hperm]
    exact h.within
  have hcached : ∀ e ∈ c.entries, e ∈ s.sources := fun e he => h.cached e (hperm.mem_iff.mp he)
  rw [AssetCache.getAsset, hfetch]
  cases hget : s.cache.entries.get? uuid with
  | none =>
    have hsame : c.entries = s.cache.entries := by rw [hentries, Recency.touch, hget]
    exact
      { h with
        wellFormed := hwell
        maxSize := hmax.trans h.maxSize
        within := hwithin
        leastRecentlyUsed := by
          simp only [hsame]
          exact h.leastRecentlyUsed
        cached := hcached }
  | some asset =>
    have hmem : (uuid, asset) ∈ s.cache.entries := Dict.mem_of_get? hget
    exact
      { h with
        wellFormed := hwell
        maxSize := hmax.trans h.maxSize
        within := hwithin
        leastRecentlyUsed := by
          simp only [hentries]
          exact keys_touch_isPrefix h.leastRecentlyUsed (List.mem_map_of_mem hmem)
        cached := hcached
        returned := List.forall_mem_cons.mpr ⟨h.cached _ hmem, h.returned⟩ }

lemma asyncGetCompleted (h : Kept cacheSize s) (get : PendingGet) (asset : Option Bytes)
    (success : Bool)
    (hasset : ∀ a, asset = some a → a.length < 2 ^ 31 ∧ assetUUID a = get.uuid) :
    Kept cacheSize (s.asyncGetCompleted get asset success) := by
  cases asset with
  | none => exact h
  | some asset =>
    obtain ⟨hsmall, huuid⟩ := hasset asset rfl
    have hread : Kept cacheSize { s with
        sources := (get.uuid, asset) :: s.sources, returned := (get.uuid, asset) :: s.returned } :=
      { h.source get.uuid hsmall with
        returned := by
          refine List.forall_mem_cons.mpr ⟨List.mem_cons_self, ?_⟩
          exact (h.source get.uuid hsmall).returned }
    simp only [AssetCache.asyncGetCompleted]
    split
    · refine hread.insert ?_
      rw [huuid]
      exact List.mem_cons_self
    · exact hread

/-- What every step keeps, as long as assets and storage are as they should be. -/
lemma step (h : Kept cacheSize s) (hgenuine : Genuine s e) (hstep : step s e = some s') :
    Kept cacheSize s' := by
  have hgoes : ¬ s.fault.isSome = true := by
    rw [h.noFault]
    exact Bool.false_ne_true
  unfold AssetCache.step at hstep
  rw [if_neg hgoes] at hstep
  cases e with
  | getAsset uuid flags =>
    obtain rfl := Option.some.inj hstep
    exact h.getAsset uuid flags
  | asyncGetCompleted i asset success =>
    obtain ⟨get, hget, rfl⟩ := Option.map_eq_some_iff.mp hstep
    have hgone : Kept cacheSize { s with gets := s.gets.eraseIdx i } := { h with }
    refine hgone.asyncGetCompleted get asset success ?_
    rintro a rfl
    exact ⟨hgenuine.1, hgenuine.2 get hget⟩
  | storeAsset asset =>
    obtain rfl := Option.some.inj hstep
    exact
      { h.source (assetUUID asset) hgenuine with
        puts := by
          intro a ha
          obtain ha | ha := List.mem_append.mp ha
          · exact List.mem_cons_of_mem _ (h.puts a ha)
          · rw [List.mem_singleton.mp ha]
            exact List.mem_cons_self }
  | asyncPutCompleted i success =>
    obtain ⟨asset, hasset, rfl⟩ := Option.map_eq_some_iff.mp hstep
    have hgone : Kept cacheSize { s with puts := s.puts.eraseIdx i } :=
      { h with puts := fun a ha => h.puts a (List.mem_of_mem_eraseIdx ha) }
    dsimp only
    split
    · exact hgone.insert (h.puts asset (List.mem_of_getElem? hasset))
    · exact hgone
  | inform asset =>
    cases asset with
    | none =>
      obtain rfl := Option.some.inj hstep
      exact h
    | some asset =>
      obtain rfl := Option.some.inj hstep
      exact (h.source _ hgenuine).insert List.mem_cons_self

lemma sound (h : Kept cacheSize s) : Sound cacheSize s := by
  have hweights : total (fun asset => (assetWeight asset).toNat) s.cache.entries =
      (s.cache.entries.map fun e => e.2.length + 40).sum := by
    refine congrArg List.sum (List.map_congr_left fun e he => ?_)
    exact toNat_assetWeight (h.small e (h.cached e he))
  refine ⟨h.noFault, h.wellFormed.size.trans hweights, ?_, h.wellFormed.keys_index_perm,
    h.wellFormed.keys_nodup, ?_, h.leastRecentlyUsed, h.returned⟩
  · have hwithin := h.within
    rwa [← h.wellFormed.size, h.maxSize, toNat_maxCacheSize] at hwithin
  · intro uuid a hindex
    obtain ⟨asset, hn⟩ := h.wellFormed.get?_index.mp hindex
    exact ⟨asset, Dict.get?_of_mem h.wellFormed.addresses_nodup hn⟩

end Kept

/-! ## Every run -/

/-- **The asset cache**: in every state of every run the cache is within its budget and returns
genuine assets. -/
theorem sound_of_run {es : List Event} (hrun : run step (start cacheSize) es = some s)
    (hgenuine : Meets step Genuine (start cacheSize) es) : Sound cacheSize s :=
  (invariant_of_meets (P := Kept cacheSize) (fun _ _ _ h hg hstep => h.step hg hstep) hrun hgenuine
    (kept_start cacheSize)).sound

/-- An asset is read and another one informed; the first is then found in the cache, and a third
one is stored. -/
def sampleEvents : List Event :=
  [.getAsset (List.replicate 32 1) 0,
   .asyncGetCompleted 0 (some (List.replicate 34 1)) true,
   .inform (some (List.replicate 34 2)),
   .getAsset (List.replicate 32 1) sfDontCache,
   .storeAsset (List.replicate 34 3),
   .asyncPutCompleted 0 true]

theorem sound_sampleEvents :
    ∃ s, run step (start 1) sampleEvents = some s ∧ s.returned.length = 2 ∧
      s.cache.size = 222 ∧ Sound 1 s := by
  have hmeets : Meets step Genuine (start 1) sampleEvents := by
    refine Meets.cons rfl trivial (Meets.cons rfl ⟨by decide, ?_⟩ (Meets.cons rfl ?_ (Meets.cons rfl
      trivial (Meets.cons rfl ?_ (Meets.cons rfl trivial trivial)))))
    · intro get hget
      obtain rfl := Option.some.inj hget
      rfl
    · exact (by decide : (List.replicate 34 (2 : UInt8)).length < 2 ^ 31)
    · exact (by decide : (List.replicate 34 (3 : UInt8)).length < 2 ^ 31)
  exact ⟨_, rfl, rfl, rfl, sound_of_run (show run step (start 1) sampleEvents = some _ from rfl) hmeets⟩

end AssetCache

end Halcyon.Whip
