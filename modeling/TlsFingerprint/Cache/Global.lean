import TlsFingerprint.Cache.LRUCache

/-!
# The global spec cache

The package keeps one `FingerprintCache` in the variable `globalCache`, written by
`InitGlobalCache` under `globalCacheMu` and by the body of `globalCacheOnce.Do` in
`GetGlobalCache`. The model keeps the caches these calls allocate in a heap, so that a pointer is
an index into it and "the same object" is the same index.

`GetGlobalCache` runs its `sync.Once` body on its first call whatever `globalCache` holds: the
body allocates a default cache and stores it over the installed one (`getGlobalCache_first`).
After that first call the variable changes only by `InitGlobalCache`, so every later call returns
the cache of the latest `InitGlobalCache` before it, or the default one
(`runGlobal_of_onceDone`). A configuration installed before the first `GetGlobalCache` is lost
(`globalCache_init_then_get`).
-/

namespace TlsFingerprint.Cache

/-- The package variables `globalCache` and `globalCacheOnce`, with the caches allocated so far. -/
structure Globals where
  heap : List LRUCache
  /-- `globalCache`: a pointer into `heap`, `none` for nil. -/
  globalCache : Option Nat
  /-- Whether `globalCacheOnce` has run its body. -/
  onceDone : Bool

/-- The variables at program start: nothing allocated, nil, and the `sync.Once` not run. -/
def Globals.init : Globals := ⟨[], none, false⟩

/-- Allocate a cache: its pointer and the extended heap. -/
def Globals.alloc (g : Globals) (c : LRUCache) : Nat × List LRUCache := (g.heap.length, g.heap ++ [c])

/-- `InitGlobalCache(config)` at `now`: a new cache installed in `globalCache`, or the error of
`NewLRUCache`. -/
def initGlobalCache (g : Globals) (config : Option CacheConfig) (now : Nat) :
    Except String Unit × Globals :=
  match newLRUCache config now with
  | .error e => (.error e, g)
  | .ok c =>
    let (p, heap) := g.alloc c
    (.ok (), { g with heap, globalCache := some p })

/-- The body of `globalCacheOnce.Do` at `now`: a default cache stored in `globalCache`; a failed
`NewLRUCache` stores nil. -/
def onceBody (g : Globals) (now : Nat) : Globals :=
  match newLRUCache (some defaultCacheConfig) now with
  | .ok c => let (p, heap) := g.alloc c; { g with heap, globalCache := some p, onceDone := true }
  | .error _ => { g with globalCache := none, onceDone := true }

/-- `GetGlobalCache()` at `now`: the `sync.Once` body on the first call, then `globalCache`. -/
def getGlobalCache (g : Globals) (now : Nat) : Option Nat × Globals :=
  let g := if g.onceDone then g else onceBody g now
  (g.globalCache, g)

/-- The cache `globalCache` points to. -/
def Globals.installed (g : Globals) : Option LRUCache := g.globalCache.bind fun p => g.heap[p]?

/-- A method call on the cache at pointer `p`: what it returns, and the heap with the cache it
leaves; `none` for a pointer outside the heap. -/
def Globals.withCache {α : Type} (g : Globals) (p : Nat) (f : LRUCache → α × LRUCache) :
    Option α × Globals :=
  match g.heap[p]? with
  | some c => (some (f c).1, { g with heap := g.heap.set p (f c).2 })
  | none => (none, g)

/-- A call on the global cache, with the time it runs at. -/
inductive GlobalCall
  | initGlobalCache (config : Option CacheConfig) (now : Nat)
  | getGlobalCache (now : Nat)

/-- What a call returns: the error of an `InitGlobalCache`, or the pointer `GetGlobalCache`
returns. -/
inductive GlobalResult
  | initGlobalCache (result : Except String Unit)
  | getGlobalCache (cache : Option Nat)
  deriving DecidableEq, Repr

/-- One call. -/
def Globals.call (g : Globals) : GlobalCall → GlobalResult × Globals
  | .initGlobalCache config now =>
    let (r, g) := initGlobalCache g config now; (.initGlobalCache r, g)
  | .getGlobalCache now => let (p, g) := getGlobalCache g now; (.getGlobalCache p, g)

/-- A sequence of calls: what each returned, and the final variables. -/
def Globals.run (g : Globals) : List GlobalCall → List GlobalResult × Globals
  | [] => ([], g)
  | c :: cs =>
    let (r, g) := g.call c
    let (rs, g) := g.run cs
    (r :: rs, g)

/-! ## `NewLRUCache` and one call -/

/-- `NewLRUCache` never fails: it replaces a non-positive size before it allocates. -/
theorem newLRUCache_eq_ok (config : Option CacheConfig) (now : Nat) :
    ∃ c, newLRUCache config now = .ok c ∧
      c.config = (let cfg := config.getD defaultCacheConfig
        if cfg.maxSize ≤ 0 then { cfg with maxSize := 1000 } else cfg) := by
  unfold newLRUCache
  dsimp only
  split_ifs with h₁ h₂
  · exact absurd h₂ (by simp)
  · exact ⟨_, rfl, rfl⟩
  · exact ⟨_, rfl, rfl⟩

/-- `InitGlobalCache` always succeeds and installs the new cache it allocates. -/
theorem initGlobalCache_spec (g : Globals) (config : Option CacheConfig) (now : Nat) :
    ∃ c, newLRUCache config now = .ok c ∧
      initGlobalCache g config now =
        (.ok (), { g with heap := g.heap ++ [c], globalCache := some g.heap.length }) := by
  obtain ⟨c, hc, -⟩ := newLRUCache_eq_ok config now
  exact ⟨c, hc, by simp [initGlobalCache, hc, Globals.alloc]⟩

/-- **The first `GetGlobalCache` replaces whatever is installed**: it allocates a cache with the
default configuration, stores it in `globalCache` and returns it. -/
theorem getGlobalCache_first (g : Globals) (now : Nat) (h : g.onceDone = false) :
    ∃ d, d.config = defaultCacheConfig ∧
      getGlobalCache g now = (some g.heap.length, ⟨g.heap ++ [d], some g.heap.length, true⟩) := by
  obtain ⟨d, hd, hcfg⟩ := newLRUCache_eq_ok (some defaultCacheConfig) now
  refine ⟨d, by simp [hcfg, defaultCacheConfig], ?_⟩
  simp [getGlobalCache, h, onceBody, hd, Globals.alloc]

/-- Once the `sync.Once` has run, `GetGlobalCache` only reads `globalCache`. -/
theorem getGlobalCache_of_onceDone (g : Globals) (now : Nat) (h : g.onceDone = true) :
    getGlobalCache g now = (g.globalCache, g) := by
  simp [getGlobalCache, h]

/-- `GetGlobalCache` returns the pointer it leaves in `globalCache`. -/
theorem getGlobalCache_fst (g : Globals) (now : Nat) :
    (getGlobalCache g now).1 = (getGlobalCache g now).2.globalCache := rfl

/-- The pointer `GetGlobalCache` returns is the one it leaves in `globalCache`. -/
theorem getGlobalCache_eq_some {g g₁ : Globals} {now p : Nat}
    (h : getGlobalCache g now = (some p, g₁)) : g₁.globalCache = some p := by
  have := getGlobalCache_fst g now
  rw [h] at this
  exact this.symm

/-- After `GetGlobalCache`, the installed cache is the one installed before, or a new empty one. -/
theorem installed_getGlobalCache {g : Globals} {now : Nat} {c : LRUCache}
    (h : (getGlobalCache g now).2.installed = some c) :
    g.installed = some c ∨ c.cache.entries = [] := by
  cases ho : g.onceDone
  · right
    obtain ⟨c₀, hc₀, -⟩ := newLRUCache_eq_ok (some defaultCacheConfig) now
    simp only [getGlobalCache, ho, onceBody, hc₀, Globals.alloc, Globals.installed] at h
    simp only [Bool.false_eq_true, ↓reduceIte, Option.some_bind, List.getElem?_append_right
      (Nat.le_refl _), Nat.sub_self, List.getElem?_cons_zero, Option.some.injEq] at h
    subst h
    simp only [newLRUCache] at hc₀
    split_ifs at hc₀ <;> cases hc₀ <;> rfl
  · left; simpa [getGlobalCache, ho] using h

/-- A method call on the installed cache returns what the method returns on it, and installs
the cache the method leaves. -/
theorem withCache_installed {α : Type} {g : Globals} {p : Nat} (hp : g.globalCache = some p)
    (f : LRUCache → α × LRUCache) :
    (g.withCache p f).1 = g.installed.map (f · |>.1) ∧
      (g.withCache p f).2.installed = g.installed.map (f · |>.2) ∧
      (g.withCache p f).2.globalCache = g.globalCache ∧
      (g.withCache p f).2.onceDone = g.onceDone := by
  simp only [Globals.withCache, Globals.installed, hp, Option.some_bind]
  cases hc : g.heap[p]? with
  | none => simp [hp, hc]
  | some c =>
    have hlt : p < g.heap.length := (List.getElem?_eq_some_iff.mp hc).1
    simp [hp, List.getElem?_set_self hlt]

/-- Every entry of the installed cache satisfies `P`. -/
def Globals.AllEntries (P : String × CacheEntry → Prop) (g : Globals) : Prop :=
  ∀ c, g.installed = some c → ∀ p ∈ c.cache.entries, P p

/-- `GetGlobalCache` keeps a property of every installed entry. -/
theorem allEntries_getGlobalCache {P : String × CacheEntry → Prop} {g : Globals} (now : Nat)
    (h : g.AllEntries P) : (getGlobalCache g now).2.AllEntries P := by
  intro c hc p hp
  rcases installed_getGlobalCache hc with hc | he
  · exact h c hc p hp
  · rw [he] at hp; cases hp

/-- A method that keeps `P` of the entries keeps it of the installed cache. -/
theorem allEntries_withCache {α : Type} {P : String × CacheEntry → Prop} {g : Globals} {p : Nat}
    (h : g.AllEntries P) (hp : g.globalCache = some p) (f : LRUCache → α × LRUCache)
    (hf : ∀ c, (∀ q ∈ c.cache.entries, P q) → ∀ q ∈ (f c).2.cache.entries, P q) :
    (g.withCache p f).2.AllEntries P := by
  intro c' hc'
  rw [(withCache_installed hp f).2.1] at hc'
  obtain ⟨c, hc, rfl⟩ := Option.map_eq_some'.mp hc'
  exact hf c (h c hc)

/-! ## Runs after the first `GetGlobalCache`

Once the `sync.Once` has run, the variable behaves as a plain pointer: a `GetGlobalCache` returns
the cache of the latest `InitGlobalCache` before it in the run, and the one installed before the
run when there is none (`latestInstalled`). -/

/-- What each call returns when `GetGlobalCache` returns the latest installed cache: the
`InitGlobalCache` calls allocate from `next` on. -/
def latestInstalled (installed : Option Nat) (next : Nat) : List GlobalCall → List GlobalResult
  | [] => []
  | .initGlobalCache _ _ :: cs => .initGlobalCache (.ok ()) :: latestInstalled (some next) (next + 1) cs
  | .getGlobalCache _ :: cs => .getGlobalCache installed :: latestInstalled installed next cs

/-- **After the first `GetGlobalCache`, every call returns the latest installed cache.** -/
theorem runGlobal_of_onceDone (g : Globals) (h : g.onceDone = true) (calls : List GlobalCall) :
    (g.run calls).1 = latestInstalled g.globalCache g.heap.length calls := by
  induction calls generalizing g with
  | nil => rfl
  | cons c cs ih =>
    cases c with
    | initGlobalCache config now =>
      obtain ⟨c, -, hinit⟩ := initGlobalCache_spec g config now
      simp only [Globals.run, Globals.call, hinit, latestInstalled]
      rw [ih { g with heap := g.heap ++ [c], globalCache := some g.heap.length } h,
        List.length_append, List.length_singleton]
    | getGlobalCache now =>
      simp only [Globals.run, Globals.call, getGlobalCache_of_onceDone g now h, latestInstalled]
      rw [ih _ h]

/-- After a first `GetGlobalCache`, an `InitGlobalCache` then a `GetGlobalCache`: the second call
returns the cache the first installs. -/
theorem runGlobal_of_onceDone_reinit :
    ((Globals.init.run [.getGlobalCache 0]).2.run [.initGlobalCache none 1, .getGlobalCache 2]).1 =
      latestInstalled (Globals.init.run [.getGlobalCache 0]).2.globalCache
        (Globals.init.run [.getGlobalCache 0]).2.heap.length
        [.initGlobalCache none 1, .getGlobalCache 2] :=
  runGlobal_of_onceDone _ (by decide) _

/-- `InitGlobalCache(&CacheConfig{Enabled: true, MaxSize: 10, TTL: 5s, MetricsEnabled: true})`
at program start, then `GetGlobalCache()`: the cache returned is not the one installed, and it has
the default configuration. -/
theorem globalCache_init_then_get :
    (Globals.init.run [.initGlobalCache (some ⟨true, 10, 5000000000, true⟩) 0,
        .getGlobalCache 0]).1 = [.initGlobalCache (.ok ()), .getGlobalCache (some 1)] ∧
      ((Globals.init.run [.initGlobalCache (some ⟨true, 10, 5000000000, true⟩) 0,
        .getGlobalCache 0]).2.heap.map LRUCache.config) =
        [⟨true, 10, 5000000000, true⟩, defaultCacheConfig] := by
  obtain ⟨c, hc, hcfg⟩ := newLRUCache_eq_ok (some ⟨true, 10, 5000000000, true⟩) 0
  obtain ⟨c', hc', hinit⟩ := initGlobalCache_spec Globals.init (some ⟨true, 10, 5000000000, true⟩) 0
  cases hc.symm.trans hc'
  obtain ⟨d, hd, hget⟩ := getGlobalCache_first ⟨[c], some 0, false⟩ 0 rfl
  simp only [Globals.run, Globals.call, hinit]
  simp only [Globals.init, List.nil_append, List.length_nil, hget]
  exact ⟨rfl, by simp [hcfg, hd]⟩

end TlsFingerprint.Cache
