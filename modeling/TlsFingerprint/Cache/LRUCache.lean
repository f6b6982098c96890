import TlsFingerprint.Cache.Lru
import TlsFingerprint.Utls.Spec

/-!
# The spec cache: `LRUCache`

`LRUCache` keeps built ClientHello specs under string keys in an `Lru` of `cacheEntry`s, each with
its creation time, behind a read-write mutex, and counts hits, misses and evictions when metrics
are on.

`Get` takes the read lock and looks the key up (`LRUCache.lookup`). A found entry older than the
TTL is then removed: the read lock is released, the write lock taken, the key removed, and the
read lock taken again (`LRUCache.expire`). The model keeps the two critical sections apart so
that a concurrent run can interleave other calls between them (`Cache.Interleaving`);
`LRUCache.get` is the call run without interruption. `Set` is one write-locked `Add`.

Times are nanoseconds of a monotonic clock, passed in as `now`; `time.Since(t)` is `now - t`.
-/

namespace TlsFingerprint.Cache

open Utls

/-- `CacheConfig`; `TTL` is a `time.Duration` in nanoseconds, no expiration unless positive. -/
structure CacheConfig where
  enabled : Bool
  maxSize : Int
  ttl : Int
  metricsEnabled : Bool
  deriving DecidableEq, Repr

/-- `DefaultCacheConfig()`. -/
def defaultCacheConfig : CacheConfig := ⟨true, 1000, 0, true⟩

/-- `cacheEntry`. -/
structure CacheEntry where
  spec : ClientHelloSpec
  createdAt : Nat
  deriving DecidableEq, Repr

/-- `LRUCache`; the atomic counters are natural numbers. -/
structure LRUCache where
  cache : Lru CacheEntry
  config : CacheConfig
  hits : Nat
  misses : Nat
  evictions : Nat
  metricsResetAt : Nat

/-- `NewLRUCache(config)`: the default configuration for a nil one, and a non-positive `MaxSize`
replaced by 1000. The error of `lru.NewWithEvict`, for a non-positive size, cannot happen. -/
def newLRUCache (config : Option CacheConfig) (now : Nat) : Except String LRUCache :=
  let config := config.getD defaultCacheConfig
  let config := if config.maxSize ≤ 0 then { config with maxSize := 1000 } else config
  if config.maxSize ≤ 0 then .error "failed to create LRU cache: must provide a positive size"
  else .ok ⟨Lru.new config.maxSize.toNat, config, 0, 0, 0, now⟩

/-- A counter that counts only when metrics are on. -/
def LRUCache.count (c : LRUCache) (n : Nat) : Nat :=
  if c.config.metricsEnabled then n + 1 else n

/-- What the read-locked part of `Get` finds. -/
inductive Lookup
  /-- The cache is disabled: `Get` returns at once. -/
  | disabled
  | miss
  /-- An entry older than the TTL: `Get` goes on to remove it. -/
  | expired
  | hit (spec : ClientHelloSpec)
  deriving DecidableEq, Repr

/-- Whether an entry created at `createdAt` is past the TTL at `now`. -/
def CacheConfig.Expired (config : CacheConfig) (createdAt now : Nat) : Prop :=
  0 < config.ttl ∧ config.ttl < (now : Int) - createdAt

instance (config : CacheConfig) (createdAt now : Nat) : Decidable (config.Expired createdAt now) :=
  inferInstanceAs (Decidable (_ ∧ _))

/-- The read-locked part of `Get(key)` at `now`: the `Lru` lookup, which moves a found entry to
the front, and the miss or hit it counts. -/
def LRUCache.lookup (c : LRUCache) (key : String) (now : Nat) : Lookup × LRUCache :=
  if !c.config.enabled then (.disabled, c)
  else
    match c.cache.get key with
    | (none, cache) => (.miss, { c with cache, misses := c.count c.misses })
    | (some entry, cache) =>
      if c.config.Expired entry.createdAt now then (.expired, { c with cache })
      else (.hit entry.spec, { c with cache, hits := c.count c.hits })

/-- The write-locked part of `Get(key)` after an expired lookup: `Remove(key)`, then one miss and
one eviction counted. -/
def LRUCache.expire (c : LRUCache) (key : String) : LRUCache :=
  { c with cache := c.cache.remove key, misses := c.count c.misses,
           evictions := c.count c.evictions }

/-- `Get(key)` at `now`, run without interruption. -/
def LRUCache.get (c : LRUCache) (key : String) (now : Nat) : Option ClientHelloSpec × LRUCache :=
  match c.lookup key now with
  | (.hit spec, c') => (some spec, c')
  | (.expired, c') => (none, c'.expire key)
  | (_, c') => (none, c')

/-- `Set(key, spec)` at `now`; `none` is a nil spec. An eviction by `Add` is counted. -/
def LRUCache.set (c : LRUCache) (key : String) (spec : Option ClientHelloSpec) (now : Nat) :
    LRUCache :=
  match spec with
  | none => c
  | some spec =>
    if !c.config.enabled then c
    else
      let (evicted, cache) := c.cache.add key ⟨spec, now⟩
      { c with cache, evictions := if evicted then c.count c.evictions else c.evictions }

/-- `Clear()`. -/
def LRUCache.clear (c : LRUCache) : LRUCache := { c with cache := c.cache.purge }

/-- `ResetMetrics()` at `now`. -/
def LRUCache.resetMetrics (c : LRUCache) (now : Nat) : LRUCache :=
  { c with hits := 0, misses := 0, evictions := 0, metricsResetAt := now }

/-- `Size()`. -/
def LRUCache.size (c : LRUCache) : Nat := c.cache.len

/-- `CacheMetrics` without the floating-point `HitRate`. -/
structure CacheMetrics where
  hits : Nat
  misses : Nat
  evictions : Nat
  size : Nat
  lastReset : Nat
  deriving DecidableEq, Repr

/-- `Metrics()`. -/
def LRUCache.metrics (c : LRUCache) : CacheMetrics :=
  ⟨c.hits, c.misses, c.evictions, c.size, c.metricsResetAt⟩

/-! ## Calls run without interruption -/

/-- `Expire` removes the key from the list. -/
@[simp] theorem cache_expire (c : LRUCache) (key : String) :
    (c.expire key).cache = c.cache.remove key := rfl

/-- The read-locked lookup keeps the configuration. -/
@[simp] theorem config_lookup (c : LRUCache) (key : String) (now : Nat) :
    (c.lookup key now).2.config = c.config := by
  unfold LRUCache.lookup; split_ifs <;> [rfl; (split <;> (try split_ifs) <;> rfl)]

/-- The lookup of `Get` is the `Lru` lookup of an enabled cache. -/
theorem cache_lookup (c : LRUCache) (key : String) (now : Nat) :
    (c.lookup key now).2.cache = if c.config.enabled then (c.cache.get key).2 else c.cache := by
  unfold LRUCache.lookup
  by_cases hen : c.config.enabled
  · rw [if_neg (by simp [hen]), if_pos hen]
    cases c.cache.get key with
    | mk v cache =>
      cases v with
      | none => rfl
      | some e => dsimp only; split_ifs <;> rfl
  · rw [if_pos (by simp [hen]), if_neg hen]

/-- The read-locked lookup keeps a subset of the entries. -/
theorem mem_of_mem_lookup {c : LRUCache} {key : String} {now : Nat} {p : String × CacheEntry}
    (h : p ∈ (c.lookup key now).2.cache.entries) : p ∈ c.cache.entries := by
  rw [cache_lookup] at h
  split_ifs at h
  · exact Lru.mem_of_mem_get h
  · exact h

/-- A hit returns the spec of the entry stored under the key. -/
theorem lookup_eq_hit {c : LRUCache} {key : String} {now : Nat} {s : ClientHelloSpec}
    (h : (c.lookup key now).1 = .hit s) : ∃ e, c.cache.peek key = some e ∧ e.spec = s := by
  unfold LRUCache.lookup at h
  rw [Lru.get_eq] at h
  split_ifs at h
  cases hp : c.cache.peek key with
  | none => simp [hp] at h
  | some e => simp only [hp] at h; split_ifs at h; exact ⟨e, rfl, Lookup.hit.inj h⟩

/-- A lookup of a key with no entry finds nothing: the cache is disabled, or it misses. -/
theorem lookup_of_peek_none {c : LRUCache} {key : String} {now : Nat}
    (h : c.cache.peek key = none) :
    (c.lookup key now).1 = .disabled ∨ (c.lookup key now).1 = .miss := by
  unfold LRUCache.lookup
  rw [Lru.get_eq, h]
  split_ifs <;> simp

/-- A lookup finds a stored entry that is not past its TTL. -/
theorem lookup_hit {c : LRUCache} {key : String} {now : Nat} {e : CacheEntry}
    (hen : c.config.enabled = true) (h : c.cache.peek key = some e)
    (hx : ¬c.config.Expired e.createdAt now) : (c.lookup key now).1 = .hit e.spec := by
  unfold LRUCache.lookup
  rw [Lru.get_eq, h]
  simp [hen, hx]

/-- `Set` of a spec adds it to an enabled cache and leaves a disabled one alone. -/
theorem cache_set (c : LRUCache) (key : String) (s : ClientHelloSpec) (now : Nat) :
    (c.set key (some s) now).cache =
      if c.config.enabled then (c.cache.add key ⟨s, now⟩).2 else c.cache := by
  unfold LRUCache.set; cases c.config.enabled <;> rfl

/-- `Set` keeps the configuration. -/
@[simp] theorem config_set (c : LRUCache) (key : String) (spec : Option ClientHelloSpec)
    (now : Nat) : (c.set key spec now).config = c.config := by
  unfold LRUCache.set; split <;> (try split_ifs) <;> rfl

/-- `Clear` purges the list. -/
@[simp] theorem cache_clear (c : LRUCache) : c.clear.cache = c.cache.purge := rfl

/-- `Set` stores the spec with its time, in an enabled cache of positive size. -/
theorem peek_set {c : LRUCache} (key : String) (s : ClientHelloSpec) (t : Nat)
    (hen : c.config.enabled = true) (hpos : 0 < c.cache.size) :
    (c.set key (some s) t).cache.peek key = some ⟨s, t⟩ := by
  simp only [LRUCache.set, hen, Bool.not_true, Bool.false_eq_true, ↓reduceIte]
  exact Lru.peek_add_self _ _ _ hpos

/-- A `Get` returns a stored entry that is not past its TTL. -/
theorem get_of_peek {c : LRUCache} {key : String} {now : Nat} {e : CacheEntry}
    (hen : c.config.enabled = true) (h : c.cache.peek key = some e)
    (hx : ¬c.config.Expired e.createdAt now) : (c.get key now).1 = some e.spec := by
  have hhit := lookup_hit hen h hx
  unfold LRUCache.get
  rw [Prod.mk.eta.symm.trans (congrArg (Prod.mk · _) hhit)]

/-- What a `Get` returns is the spec of an entry stored under the key. -/
theorem get_eq_some {c : LRUCache} {key : String} {now : Nat} {s : ClientHelloSpec}
    (h : (c.get key now).1 = some s) : ∃ e, c.cache.peek key = some e ∧ e.spec = s := by
  unfold LRUCache.get at h
  cases hl : c.lookup key now with
  | mk l c' =>
    rw [hl] at h
    cases l with
    | hit s' => cases h; exact lookup_eq_hit (by rw [hl])
    | _ => cases h

/-- A `Get` keeps a subset of the entries. -/
theorem mem_of_mem_get {c : LRUCache} {key : String} {now : Nat} {p : String × CacheEntry}
    (h : p ∈ (c.get key now).2.cache.entries) : p ∈ c.cache.entries := by
  unfold LRUCache.get at h
  cases hl : c.lookup key now with
  | mk l c' =>
    rw [hl] at h
    have hsub : p ∈ c'.cache.entries → p ∈ c.cache.entries :=
      fun hp => mem_of_mem_lookup (by rw [hl]; exact hp)
    cases l with
    | expired => exact hsub (Lru.mem_of_mem_remove h)
    | _ => exact hsub h

/-- `Get` keeps the capacity. -/
@[simp] theorem size_get (c : LRUCache) (key : String) (now : Nat) :
    (c.get key now).2.cache.size = c.cache.size := by
  have hl : (c.lookup key now).2.cache.size = c.cache.size := by
    rw [cache_lookup]; split_ifs <;> simp
  unfold LRUCache.get
  cases h : c.lookup key now with
  | mk l c' => rw [h] at hl; cases l <;> simpa using hl

/-- `Get` keeps the configuration. -/
@[simp] theorem config_get (c : LRUCache) (key : String) (now : Nat) :
    (c.get key now).2.config = c.config := by
  unfold LRUCache.get
  have := config_lookup c key now
  cases hl : c.lookup key now with
  | mk l c' => rw [hl] at this; cases l <;> exact this

/-- **A `Get` within the TTL of a `Set` returns the spec set**, when the two calls run one after
the other in an enabled cache. -/
theorem get_set (c : LRUCache) (key : String) (s : ClientHelloSpec) (t now : Nat)
    (hen : c.config.enabled = true) (hpos : 0 < c.cache.size)
    (hx : ¬c.config.Expired t now) : ((c.set key (some s) t).get key now).1 = some s := by
  have hset := config_set c key (some s) t
  exact get_of_peek (hset ▸ hen) (peek_set key s t hen hpos) (by rwa [hset])

/-- A `Get` at the last instant of the TTL of the `Set` before it. -/
theorem get_set_within_ttl :
    ∃ c, newLRUCache (some ⟨true, 1000, 10, true⟩) 0 = .ok c ∧
      ((c.set "k" (some ⟨[], [], [], 0x0303, 0x0303⟩) 0).get "k" 10).1 =
        some ⟨[], [], [], 0x0303, 0x0303⟩ :=
  ⟨_, rfl, get_set _ _ _ _ _ rfl (by decide) (by decide)⟩

end TlsFingerprint.Cache
