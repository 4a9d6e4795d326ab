import Mathlib
import MovieApi.Catalog.ResponseCache

/-!
# How many entries the response cache holds

`_CACHE` of `app/services/response_cache.py` over any sequence of its calls: it is never
above its capacity, it never returns what has expired, and it gives up a live entry only
to make room, the one that expires soonest.
-/

namespace MovieApi.Catalog

variable {V : Type}

/-! ## The calls -/

/-- `cache_delete`, in one worker. -/
def cacheDelete (cache : CacheDict V) (key : String) : CacheDict V := cache.del key

inductive CacheOp (V : Type) where
  | set (key : String) (value : V) (ttlSeconds now : Int)
  | get (key : String) (now : Int)
  | delete (key : String)
deriving DecidableEq, Repr

def CacheOp.apply (cache : CacheDict V) : CacheOp V → CacheDict V
  | .set key value ttlSeconds now => cacheSet cache key value ttlSeconds now
  | .get key now => (cacheGet cache key now).2
  | .delete key => cacheDelete cache key

/-- The dictionary after a sequence of calls. -/
def cacheAfter (ops : List (CacheOp V)) : CacheDict V := ops.foldl CacheOp.apply []

/-- What the calls, newest first, have stored under a key, and not deleted. -/
def lastStored (key : String) : List (CacheOp V) → Option (CacheEntry V)
  | [] => none
  | .set k value ttlSeconds now :: past =>
      if k = key then some ⟨now + ttlSeconds, value⟩ else lastStored key past
  | .get _ _ :: past => lastStored key past
  | .delete k :: past => if k = key then none else lastStored key past

/-- A set of `key` drops an item that has not expired. -/
structure Evicted (cache : CacheDict V) (key : String) (value : V) (ttlSeconds now : Int)
    (item : String × CacheEntry V) : Prop where
  held : item ∈ cache
  otherKey : item.1 ≠ key
  live : now < item.2.expiresAt
  gone : item ∉ cacheSet cache key value ttlSeconds now

/-! ## Dictionaries -/

namespace CacheDict

variable {cache : CacheDict V} {key : String} {entry : CacheEntry V}
  {item : String × CacheEntry V}

def keys (cache : CacheDict V) : List String := cache.map (·.1)

theorem any_iff_mem_keys : cache.any (fun item => item.1 = key) = true ↔ key ∈ cache.keys := by
  simp [keys, List.any_eq_true]

theorem keys_filter_nodup (h : cache.keys.Nodup) (p : String × CacheEntry V → Bool) :
    (keys (cache.filter p)).Nodup :=
  h.sublist (List.filter_sublist.map _)

theorem keys_put_of_mem (h : key ∈ cache.keys) : (cache.put key entry).keys = cache.keys := by
  rw [put, if_pos (any_iff_mem_keys.2 h), keys, keys, List.map_map]
  apply List.map_congr_left
  intro item hitem
  by_cases hkey : item.1 = key
  · simp [hkey]
  · simp [hkey]

theorem put_of_notMem (h : key ∉ cache.keys) : cache.put key entry = cache ++ [(key, entry)] := by
  have hany : ¬ cache.any (fun item => item.1 = key) = true := fun hany =>
    h (any_iff_mem_keys.1 hany)
  rw [put, if_neg hany]

theorem keys_put_nodup (h : cache.keys.Nodup) : (cache.put key entry).keys.Nodup := by
  by_cases hkey : key ∈ cache.keys
  · rw [keys_put_of_mem hkey]
    exact h
  · rw [put_of_notMem hkey, keys, List.map_append]
    exact h.append (List.nodup_singleton key) (by simpa using hkey)

theorem mem_put_iff_of_ne (h : item.1 ≠ key) : item ∈ cache.put key entry ↔ item ∈ cache := by
  by_cases hkey : key ∈ cache.keys
  · rw [put, if_pos (any_iff_mem_keys.2 hkey), List.mem_map]
    constructor
    · rintro ⟨old, hold, heq⟩
      by_cases holdKey : old.1 = key
      · rw [if_pos holdKey] at heq
        exact absurd (congrArg Prod.fst heq).symm h
      · rw [if_neg holdKey] at heq
        exact heq ▸ hold
    · intro hitem
      exact ⟨item, hitem, if_neg h⟩
  · rw [put_of_notMem hkey]
    have hne : item ≠ (key, entry) := fun heq => h (congrArg Prod.fst heq)
    simp [hne]

theorem mem_put_of_eq (h : item ∈ cache.put key entry) (hkey : item.1 = key) :
    item = (key, entry) := by
  by_cases hmem : key ∈ cache.keys
  · rw [put, if_pos (any_iff_mem_keys.2 hmem), List.mem_map] at h
    obtain ⟨old, hold, heq⟩ := h
    by_cases holdKey : old.1 = key
    · rw [if_pos holdKey] at heq
      exact heq.symm
    · rw [if_neg holdKey] at heq
      exact absurd (heq ▸ hkey) holdKey
  · rw [put_of_notMem hmem, List.mem_append, List.mem_singleton] at h
    cases h with
    | inl hold => exact absurd (List.mem_map.2 ⟨item, hold, hkey⟩) hmem
    | inr heq => exact heq

theorem length_put_of_mem (h : key ∈ cache.keys) : (cache.put key entry).length = cache.length := by
  have hkeys : (cache.put key entry).keys = cache.keys := keys_put_of_mem h
  simpa [keys] using congrArg List.length hkeys

theorem length_put_of_notMem (h : key ∉ cache.keys) :
    (cache.put key entry).length = cache.length + 1 := by
  rw [put_of_notMem h, List.length_append, List.length_singleton]

theorem eq_of_key_eq (h : cache.keys.Nodup) {other : String × CacheEntry V} (hitem : item ∈ cache)
    (hother : other ∈ cache) (hkey : item.1 = other.1) : item = other :=
  List.inj_on_of_nodup_map h hitem hother hkey

end CacheDict

/-! ## Eviction -/

variable {cache : CacheDict V} {key : String} {value : V} {ttlSeconds now : Int}
  {item : String × CacheEntry V}

def liveItems (cache : CacheDict V) (now : Int) : CacheDict V :=
  cache.filter fun item => ¬ now ≥ item.2.expiresAt

theorem mem_liveItems : item ∈ liveItems cache now ↔ item ∈ cache ∧ now < item.2.expiresAt := by
  simp [liveItems, List.mem_filter]

theorem length_liveItems_le (cache : CacheDict V) (now : Int) :
    (liveItems cache now).length ≤ cache.length :=
  List.length_filter_le _ _

theorem evict_of_room (h : (liveItems cache now).length < catalogCacheMaxEntries) :
    evictCatalogCache cache now = liveItems cache now := by
  simp only [evictCatalogCache]
  exact if_pos h

/-- With as many live items as there are slots, one that expires soonest goes. -/
theorem evict_of_full (h : (liveItems cache now).length = catalogCacheMaxEntries) :
    ∃ first ∈ liveItems cache now,
      (∀ other ∈ liveItems cache now, first.2.expiresAt ≤ other.2.expiresAt) ∧
        evictCatalogCache cache now =
          (liveItems cache now).filter fun item => item.1 ≠ first.1 := by
  have hperm := List.perm_insertionSort
    (fun a b : String × CacheEntry V => a.2.expiresAt ≤ b.2.expiresAt) (liveItems cache now)
  have hsorted := List.pairwise_insertionSort
    (fun a b : String × CacheEntry V => a.2.expiresAt ≤ b.2.expiresAt) (liveItems cache now)
  cases hsort : (liveItems cache now).insertionSort
      (fun a b => a.2.expiresAt ≤ b.2.expiresAt) with
  | nil =>
      rw [hsort] at hperm
      have hlength := hperm.length_eq
      rw [h] at hlength
      cases hlength
  | cons first rest =>
      rw [hsort] at hperm hsorted
      refine ⟨first, hperm.subset List.mem_cons_self, ?_, ?_⟩
      · intro other hother
        cases List.mem_cons.1 (hperm.symm.subset hother) with
        | inl heq => rw [heq]
        | inr hrest => exact (List.pairwise_cons.1 hsorted).1 other hrest
      · have hfull : ¬ (liveItems cache now).length < catalogCacheMaxEntries := by omega
        have hone : (liveItems cache now).length - catalogCacheMaxEntries + 1 = 1 := by omega
        show (if (liveItems cache now).length < catalogCacheMaxEntries then _ else _) = _
        rw [if_neg hfull]
        show List.filter (fun item => item.1 ∉ List.map (·.1) (List.take
          ((liveItems cache now).length - catalogCacheMaxEntries + 1) (List.insertionSort
            (fun a b => a.2.expiresAt ≤ b.2.expiresAt) (liveItems cache now))))
          (liveItems cache now) = _
        rw [hone, hsort]
        simp

theorem length_evict_lt (h : cache.length ≤ catalogCacheMaxEntries) :
    (evictCatalogCache cache now).length < catalogCacheMaxEntries := by
  have hlive := length_liveItems_le cache now
  by_cases hroom : (liveItems cache now).length < catalogCacheMaxEntries
  · rw [evict_of_room hroom]
    exact hroom
  · have hfull : (liveItems cache now).length = catalogCacheMaxEntries := by omega
    obtain ⟨first, hfirst, -, hevict⟩ := evict_of_full hfull
    rw [hevict, ← hfull]
    exact List.length_filter_lt_length_iff_exists.2 ⟨first, hfirst, by simp⟩

theorem keys_evict_nodup (h : cache.keys.Nodup) : (evictCatalogCache cache now).keys.Nodup := by
  have hlive : (liveItems cache now).keys.Nodup := CacheDict.keys_filter_nodup h _
  simp only [evictCatalogCache]
  split
  · exact hlive
  · exact CacheDict.keys_filter_nodup hlive _

/-! ## One call -/

/-- What a set puts its item into. -/
def roomFor (cache : CacheDict V) (key : String) (now : Int) : CacheDict V :=
  if cache.length ≥ catalogCacheMaxEntries ∧ ¬ cache.any (fun item => item.1 = key) then
    evictCatalogCache cache now
  else cache

theorem cacheSet_eq_put (cache : CacheDict V) (key : String) (value : V) (ttlSeconds now : Int) :
    cacheSet cache key value ttlSeconds now =
      (roomFor cache key now).put key ⟨now + ttlSeconds, value⟩ := rfl

theorem mem_of_mem_roomFor (h : item ∈ roomFor cache key now) : item ∈ cache := by
  unfold roomFor at h
  split at h
  · exact mem_of_mem_evict h
  · exact h

theorem keys_roomFor_nodup (h : cache.keys.Nodup) : (roomFor cache key now).keys.Nodup := by
  unfold roomFor
  split
  · exact keys_evict_nodup h
  · exact h

theorem length_cacheSet_le (h : cache.length ≤ catalogCacheMaxEntries) :
    (cacheSet cache key value ttlSeconds now).length ≤ catalogCacheMaxEntries := by
  rw [cacheSet_eq_put]
  by_cases hkey : key ∈ cache.keys
  · have hroom : roomFor cache key now = cache :=
      if_neg fun hfull => hfull.2 (CacheDict.any_iff_mem_keys.2 hkey)
    rw [hroom, CacheDict.length_put_of_mem hkey]
    exact h
  · have hnot : key ∉ (roomFor cache key now).keys := by
      intro hmem
      obtain ⟨item, hitem, hitemKey⟩ := List.mem_map.1 hmem
      exact hkey (List.mem_map.2 ⟨item, mem_of_mem_roomFor hitem, hitemKey⟩)
    have hlt : (roomFor cache key now).length < catalogCacheMaxEntries := by
      unfold roomFor
      split
      · exact length_evict_lt h
      · next hroom =>
          have hany : ¬ cache.any (fun item => item.1 = key) = true := fun hany =>
            hkey (CacheDict.any_iff_mem_keys.1 hany)
          by_contra hfull
          exact hroom ⟨by omega, hany⟩
    rw [CacheDict.length_put_of_notMem hnot]
    omega

theorem keys_cacheGet_nodup (h : cache.keys.Nodup) : (cacheGet cache key now).2.keys.Nodup := by
  unfold cacheGet
  split
  · exact h
  · split
    · exact CacheDict.keys_filter_nodup h _
    · exact h

theorem length_cacheGet_le : (cacheGet cache key now).2.length ≤ cache.length := by
  unfold cacheGet
  split
  · exact le_refl _
  · split
    · exact List.length_filter_le _ _
    · exact le_refl _

/-- Only a full cache without expired items gives up a live one, and only the first to expire. -/
theorem evicted_soonest (hkeys : cache.keys.Nodup) (hlength : cache.length ≤ catalogCacheMaxEntries)
    (h : Evicted cache key value ttlSeconds now item) :
    (liveItems cache now).length = catalogCacheMaxEntries ∧
      (∀ other ∈ liveItems cache now, item.2.expiresAt ≤ other.2.expiresAt) ∧
      ∀ other, Evicted cache key value ttlSeconds now other → other = item := by
  have hlive := length_liveItems_le cache now
  have hgone : ∀ other, Evicted cache key value ttlSeconds now other →
      other ∈ liveItems cache now ∧ other ∉ evictCatalogCache cache now := by
    intro other hother
    refine ⟨mem_liveItems.2 ⟨hother.held, hother.live⟩, ?_⟩
    have hroom := hother.gone
    rw [cacheSet_eq_put, CacheDict.mem_put_iff_of_ne hother.otherKey] at hroom
    unfold roomFor at hroom
    split at hroom
    · exact hroom
    · exact absurd hother.held hroom
  have hfull : (liveItems cache now).length = catalogCacheMaxEntries := by
    by_contra hne
    have hgoneItem := hgone item h
    rw [evict_of_room (by omega)] at hgoneItem
    exact hgoneItem.2 hgoneItem.1
  obtain ⟨first, hfirst, hsoonest, hevict⟩ := evict_of_full hfull
  have hisFirst : ∀ other, Evicted cache key value ttlSeconds now other → other = first := by
    intro other hother
    obtain ⟨hmem, hnot⟩ := hgone other hother
    have hkey : other.1 = first.1 := by
      by_contra hne
      rw [hevict] at hnot
      exact hnot (List.mem_filter.2 ⟨hmem, by simpa using hne⟩)
    exact CacheDict.eq_of_key_eq hkeys hother.held (mem_liveItems.1 hfirst).1 hkey
  obtain rfl := hisFirst item h
  exact ⟨hfull, hsoonest, hisFirst⟩

/-! ## Any sequence of calls -/

variable {past : List (CacheOp V)}

/-- What holds of the dictionary after the calls `past`, newest first. -/
structure CacheKept (past : List (CacheOp V)) (cache : CacheDict V) : Prop where
  keys : cache.keys.Nodup
  length : cache.length ≤ catalogCacheMaxEntries
  current : ∀ item ∈ cache, lastStored item.1 past = some item.2

theorem CacheKept.apply (h : CacheKept past cache) (op : CacheOp V) :
    CacheKept (op :: past) (op.apply cache) := by
  cases op with
  | set key value ttlSeconds now =>
      refine ⟨?_, length_cacheSet_le h.length, ?_⟩
      · show (cacheSet cache key value ttlSeconds now).keys.Nodup
        rw [cacheSet_eq_put]
        exact CacheDict.keys_put_nodup (keys_roomFor_nodup h.keys)
      · intro item hitem
        change item ∈ cacheSet cache key value ttlSeconds now at hitem
        rw [cacheSet_eq_put] at hitem
        by_cases hkey : item.1 = key
        · rw [CacheDict.mem_put_of_eq hitem hkey]
          simp [lastStored]
        · rw [CacheDict.mem_put_iff_of_ne hkey] at hitem
          rw [lastStored, if_neg fun heq => hkey heq.symm]
          exact h.current item (mem_of_mem_roomFor hitem)
  | get key now =>
      refine ⟨keys_cacheGet_nodup h.keys, le_trans length_cacheGet_le h.length, ?_⟩
      intro item hitem
      exact h.current item (mem_of_mem_cacheGet hitem)
  | delete key =>
      refine ⟨CacheDict.keys_filter_nodup h.keys _,
        le_trans (List.length_filter_le _ _) h.length, ?_⟩
      intro item hitem
      have hmem := List.mem_filter.1 hitem
      have hkey : ¬ key = item.1 := fun heq => by simp [heq] at hmem
      rw [lastStored, if_neg hkey]
      exact h.current item hmem.1

theorem cacheAfter_cacheKept (ops : List (CacheOp V)) : CacheKept ops.reverse (cacheAfter ops) := by
  induction ops using List.reverseRecOn with
  | nil => exact ⟨List.nodup_nil, Nat.zero_le _, fun item hitem => absurd hitem List.not_mem_nil⟩
  | append_singleton ops op ih =>
      rw [cacheAfter, List.foldl_append, List.reverse_append]
      exact ih.apply op

/-- After any sequence of calls: the cache is within its capacity; a get returns what was
stored last, before it expires; and a set that gives up a live item found the cache full of
live ones, and gives up one item, which expires soonest. -/
theorem catalog_cache_capacity (ops : List (CacheOp V)) :
    (cacheAfter ops).length ≤ catalogCacheMaxEntries ∧
      (∀ key now v, (cacheGet (cacheAfter ops) key now).1 = some v →
        ∃ expiresAt, lastStored key ops.reverse = some ⟨expiresAt, v⟩ ∧ now < expiresAt) ∧
      ∀ key value ttlSeconds now item,
        Evicted (cacheAfter ops) key value ttlSeconds now item →
          (liveItems (cacheAfter ops) now).length = catalogCacheMaxEntries ∧
            (∀ other ∈ liveItems (cacheAfter ops) now,
              item.2.expiresAt ≤ other.2.expiresAt) ∧
            ∀ other, Evicted (cacheAfter ops) key value ttlSeconds now other → other = item := by
  have hkept := cacheAfter_cacheKept ops
  refine ⟨hkept.length, ?_, ?_⟩
  · intro key now v hget
    obtain ⟨entry, hmem, rfl, hlive⟩ := cacheGet_mem hget
    exact ⟨entry.expiresAt, hkept.current _ hmem, hlive⟩
  · intro key value ttlSeconds now item hevicted
    exact evicted_soonest hkept.keys hkept.length hevicted

end MovieApi.Catalog
