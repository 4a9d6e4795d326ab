import Mathlib.Data.List.Sort

/-!
# The catalog response cache

`app/services/response_cache.py`: every worker keeps an in-process dictionary
(L1) and all workers share one Redis (L2).  A lookup tries L1, then Redis, and
copies a Redis hit into L1; a store writes both.  Redis may be down on any
call, which costs the L2 half of that call only.

A dictionary is the list of its items in insertion order, the order Python
iterates in.  The JSON text kept in Redis stands for the value it encodes.
-/

namespace MovieApi.Catalog

/-- An item of `_CACHE`: deadline on the caller's clock, then the value. -/
structure CacheEntry (V : Type) where
  expiresAt : Int
  value : V
deriving DecidableEq, Repr

abbrev CacheDict (V : Type) := List (String × CacheEntry V)

def catalogTtlSeconds : Int := 30
def catalogCacheMaxEntries : Nat := 512
def redisKeyPrefix : String := "catalog:"

namespace CacheDict

variable {V : Type}

def get? (cache : CacheDict V) (key : String) : Option (CacheEntry V) :=
  (cache.find? (fun item => item.1 = key)).map (·.2)

def del (cache : CacheDict V) (key : String) : CacheDict V :=
  cache.filter (fun item => item.1 ≠ key)

/-- Item assignment: a known key keeps its place, a new one goes last. -/
def put (cache : CacheDict V) (key : String) (entry : CacheEntry V) : CacheDict V :=
  if cache.any (fun item => item.1 = key) then
    cache.map (fun item => if item.1 = key then (key, entry) else item)
  else cache ++ [(key, entry)]

theorem get?_mem {cache : CacheDict V} {key : String} {entry : CacheEntry V}
    (h : cache.get? key = some entry) : (key, entry) ∈ cache := by
  unfold get? at h
  obtain ⟨item, hitem, rfl⟩ := Option.map_eq_some_iff.mp h
  have hkey : item.1 = key := by simpa using List.find?_some hitem
  subst hkey
  exact List.mem_of_find?_eq_some hitem

theorem mem_of_mem_del {cache : CacheDict V} {key : String} {item : String × CacheEntry V}
    (h : item ∈ cache.del key) : item ∈ cache :=
  (List.mem_filter.mp h).1

theorem mem_put {cache : CacheDict V} {key : String} {entry : CacheEntry V}
    {item : String × CacheEntry V} (h : item ∈ cache.put key entry) :
    item = (key, entry) ∨ item ∈ cache := by
  unfold put at h
  split at h
  · obtain ⟨old, hold, rfl⟩ := List.mem_map.mp h
    split
    · exact Or.inl rfl
    · exact Or.inr hold
  · rcases List.mem_append.mp h with h | h
    · exact Or.inr h
    · exact Or.inl (by simpa using h)

end CacheDict

variable {V : Type}

/-! ## One worker's dictionary -/

def cacheGet (cache : CacheDict V) (key : String) (now : Int) : Option V × CacheDict V :=
  match cache.get? key with
  | none => (none, cache)
  | some entry =>
      if now ≥ entry.expiresAt then (none, cache.del key) else (some entry.value, cache)

/-- Drop expired items, then the ones expiring soonest until one slot is free.
The sort is stable, as Python's is. -/
def evictCatalogCache (cache : CacheDict V) (now : Int) : CacheDict V :=
  let live := cache.filter (fun item => ¬ now ≥ item.2.expiresAt)
  if live.length < catalogCacheMaxEntries then live
  else
    let overflow := live.length - catalogCacheMaxEntries + 1
    let soonest := (live.insertionSort (fun a b => a.2.expiresAt ≤ b.2.expiresAt)).take overflow
    live.filter (fun item => item.1 ∉ soonest.map (·.1))

def cacheSet (cache : CacheDict V) (key : String) (value : V) (ttlSeconds now : Int) :
    CacheDict V :=
  let room :=
    if cache.length ≥ catalogCacheMaxEntries ∧ ¬ cache.any (fun item => item.1 = key) then
      evictCatalogCache cache now
    else cache
  room.put key ⟨now + ttlSeconds, value⟩

theorem cacheGet_mem {cache : CacheDict V} {key : String} {now : Int} {v : V}
    (h : (cacheGet cache key now).1 = some v) :
    ∃ entry, (key, entry) ∈ cache ∧ entry.value = v ∧ now < entry.expiresAt := by
  unfold cacheGet at h
  cases hentry : cache.get? key with
  | none => simp [hentry] at h
  | some entry =>
      simp only [hentry] at h
      split at h
      · simp at h
      · rename_i hlive
        exact ⟨entry, CacheDict.get?_mem hentry, by simpa using h, by omega⟩

theorem mem_of_mem_cacheGet {cache : CacheDict V} {key : String} {now : Int}
    {item : String × CacheEntry V} (h : item ∈ (cacheGet cache key now).2) : item ∈ cache := by
  unfold cacheGet at h
  cases hentry : cache.get? key with
  | none => simpa [hentry] using h
  | some entry =>
      simp only [hentry] at h
      split at h
      · exact CacheDict.mem_of_mem_del h
      · exact h

theorem mem_of_mem_evict {cache : CacheDict V} {now : Int} {item : String × CacheEntry V}
    (h : item ∈ evictCatalogCache cache now) : item ∈ cache := by
  unfold evictCatalogCache at h
  dsimp only at h
  split at h
  · exact (List.mem_filter.mp h).1
  · exact (List.mem_filter.mp (List.mem_filter.mp h).1).1

theorem mem_cacheSet {cache : CacheDict V} {key : String} {value : V} {ttlSeconds now : Int}
    {item : String × CacheEntry V} (h : item ∈ cacheSet cache key value ttlSeconds now) :
    item = (key, ⟨now + ttlSeconds, value⟩) ∨ item ∈ cache := by
  unfold cacheSet at h
  rcases CacheDict.mem_put h with h | h
  · exact Or.inl h
  · split at h
    · exact Or.inr (mem_of_mem_evict h)
    · exact Or.inr h

/-! ## Workers and the shared Redis -/

/-- The dictionaries of all workers and the Redis they share. -/
structure Caches (V : Type) where
  l1 : Nat → CacheDict V
  l2 : CacheDict V

def Caches.empty : Caches V := ⟨fun _ => [], []⟩

def Caches.setL1 (c : Caches V) (worker : Nat) (cache : CacheDict V) : Caches V :=
  { c with l1 := Function.update c.l1 worker cache }

/-- `redisUp` says whether Redis answers this call. -/
def cacheGetAsync (c : Caches V) (worker : Nat) (key : String) (now : Int) (redisUp : Bool) :
    Option V × Caches V :=
  let (local?, cache) := cacheGet (c.l1 worker) key now
  let c := c.setL1 worker cache
  match local? with
  | some v => (some v, c)
  | none =>
      if redisUp then
        match (cacheGet c.l2 (redisKeyPrefix ++ key) now).1 with
        | none => (none, c)
        | some v => (some v, c.setL1 worker (cacheSet (c.l1 worker) key v catalogTtlSeconds now))
      else (none, c)

def cacheSetAsync (c : Caches V) (worker : Nat) (key : String) (value : V) (ttlSeconds now : Int)
    (redisUp : Bool) : Caches V :=
  let c := c.setL1 worker (cacheSet (c.l1 worker) key value ttlSeconds now)
  if redisUp then
    { c with l2 := c.l2.put (redisKeyPrefix ++ key) ⟨now + ttlSeconds, value⟩ }
  else c

/-- Everything held anywhere under `key` satisfies `P key`. -/
structure Caches.Holds (P : String → V → Prop) (c : Caches V) : Prop where
  l1 : ∀ worker key entry, (key, entry) ∈ c.l1 worker → P key entry.value
  l2 : ∀ key entry, (redisKeyPrefix ++ key, entry) ∈ c.l2 → P key entry.value

variable {P : String → V → Prop} {c : Caches V}

theorem Caches.Holds.empty : (Caches.empty : Caches V).Holds P :=
  ⟨by simp [Caches.empty], by simp [Caches.empty]⟩

theorem Caches.Holds.mono {P' : String → V → Prop} (h : c.Holds P)
    (himp : ∀ key v, P key v → P' key v) : c.Holds P' :=
  ⟨fun w key entry hmem => himp _ _ (h.l1 w key entry hmem),
    fun key entry hmem => himp _ _ (h.l2 key entry hmem)⟩

theorem Caches.Holds.setL1 (h : c.Holds P) {worker : Nat} {cache : CacheDict V}
    (hcache : ∀ key entry, (key, entry) ∈ cache → P key entry.value) :
    (c.setL1 worker cache).Holds P := by
  refine ⟨fun w key entry hmem => ?_, h.l2⟩
  by_cases hw : w = worker
  · subst hw
    exact hcache key entry (by simpa [Caches.setL1] using hmem)
  · exact h.l1 w key entry (by simpa [Caches.setL1, Function.update_of_ne hw] using hmem)

theorem Caches.Holds.cacheGetAsync (h : c.Holds P) (worker : Nat) (key : String) (now : Int)
    (redisUp : Bool) :
    (cacheGetAsync c worker key now redisUp).2.Holds P ∧
      ∀ v, (cacheGetAsync c worker key now redisUp).1 = some v → P key v := by
  have hread : (c.setL1 worker (cacheGet (c.l1 worker) key now).2).Holds P :=
    h.setL1 fun k e hmem => h.l1 worker k e (mem_of_mem_cacheGet hmem)
  unfold Catalog.cacheGetAsync
  cases hlocal : (cacheGet (c.l1 worker) key now).1 with
  | some v =>
      simp only [hlocal]
      refine ⟨hread, fun v' hv => ?_⟩
      obtain ⟨entry, hmem, hvalue, -⟩ := cacheGet_mem hlocal
      cases hv
      exact hvalue ▸ h.l1 worker key entry hmem
  | none =>
      simp only [hlocal]
      split
      · cases hshared : (cacheGet (c.setL1 worker (cacheGet (c.l1 worker) key now).2).l2
            (redisKeyPrefix ++ key) now).1 with
        | none => exact ⟨hread, by simp⟩
        | some v =>
            obtain ⟨entry, hmem, hvalue, -⟩ := cacheGet_mem hshared
            have hv : P key v := hvalue ▸ hread.l2 key entry hmem
            refine ⟨hread.setL1 fun k e hmem => ?_, fun v' hv' => by cases hv'; exact hv⟩
            rcases mem_cacheSet hmem with heq | hold
            · simp only [Prod.mk.injEq] at heq
              obtain ⟨rfl, rfl⟩ := heq
              exact hv
            · exact hread.l1 worker k e hold
      · exact ⟨hread, by simp⟩

theorem Caches.Holds.cacheSetAsync (h : c.Holds P) (worker : Nat) {key : String} {value : V}
    (hvalue : P key value) (ttlSeconds now : Int) (redisUp : Bool) :
    (cacheSetAsync c worker key value ttlSeconds now redisUp).Holds P := by
  have hwrite : (c.setL1 worker (cacheSet (c.l1 worker) key value ttlSeconds now)).Holds P := by
    refine h.setL1 fun k e hmem => ?_
    rcases mem_cacheSet hmem with heq | hold
    · simp only [Prod.mk.injEq] at heq
      obtain ⟨rfl, rfl⟩ := heq
      exact hvalue
    · exact h.l1 worker k e hold
  unfold Catalog.cacheSetAsync
  dsimp only
  split
  · refine ⟨hwrite.l1, fun k e hmem => ?_⟩
    rcases CacheDict.mem_put hmem with heq | hold
    · simp only [Prod.mk.injEq] at heq
      obtain ⟨hk, rfl⟩ := heq
      have : k = key := by
        have := congrArg String.toList hk
        simpa [String.toList_append, String.toList_inj] using this
      subst this
      exact hvalue
    · exact hwrite.l2 k e hold
  · exact hwrite

end MovieApi.Catalog
