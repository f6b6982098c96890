import TlsFingerprint.Cache.Interleaving

/-!
# The cache's counters over concurrent runs

With metrics on, a `Get` counts one hit or one miss when it completes, and an eviction is counted
by an `Add` that reports one and by the write-locked `Remove` of a `Get` that found its entry past
the TTL. Over every run of concurrent calls on an enabled cache with metrics on:

* hits and misses together count the completed `Get` calls, the entries of the run's log
  (`World.hits_add_misses_run`);
* the evictions are those `Add` reported and one per `Remove` of a `Get` (`World.evictions_run`).
  Every entry the run deletes by capacity or by expiry (`World.removedBy`) is among them, but a
  `Remove` that finds its key gone counts one as well: two `Get`s that find the same expired entry
  delete it once and count two evictions (`metrics_double_eviction`).

`run_metrics` puts the two together for every run from `NewLRUCache`.
-/

namespace TlsFingerprint.Cache

open Utls

/-! ## What one step counts and removes -/

/-- The evictions a step counts with metrics on: one when `Add` reports one, and one for the
`Remove` of a `Get`, whether it finds its key or not. -/
def World.countedBy (w : World) : Action → Nat
  | .set _ key spec =>
    if w.cache.config.enabled && (w.cache.cache.add key ⟨spec, w.now⟩).1 then 1 else 0
  | .getRemove _ => 1
  | _ => 0

/-- The entries a step deletes by capacity or by expiry: the one `Add` evicts, or the one the
`Remove` of a `Get` finds under its key. -/
def World.removedBy (w : World) : Action → Nat
  | .set _ key spec =>
    if w.cache.config.enabled && (w.cache.cache.add key ⟨spec, w.now⟩).1 then 1 else 0
  | .getRemove client =>
    match w.removing.lookup client with
    | some key => if (w.cache.cache.peek key).isSome then 1 else 0
    | none => 0
  | _ => 0

/-- A quantity of each step, summed along a run up to its first step that is not enabled. -/
def World.along (f : World → Action → Nat) : World → List Action → Nat
  | _, [] => 0
  | w, a :: as =>
    match w.step a with
    | some w' => f w a + w'.along f as
    | none => 0

/-- A step counts at least the entries it deletes. -/
theorem World.removedBy_le_countedBy (w : World) (a : Action) : w.removedBy a ≤ w.countedBy a := by
  cases a with
  | getRemove client =>
    simp only [removedBy, countedBy]
    split
    · split_ifs <;> omega
    · omega
  | _ => simp [removedBy, countedBy]

/-- A run counts at least the entries it deletes. -/
theorem World.along_removedBy_le (w : World) (acts : List Action) :
    w.along World.removedBy acts ≤ w.along World.countedBy acts := by
  induction acts generalizing w with
  | nil => exact le_rfl
  | cons a as ih =>
    simp only [along]
    split
    · exact Nat.add_le_add (w.removedBy_le_countedBy a) (ih _)
    · exact le_rfl

/-! ## The counters of each section -/

/-- With metrics on, a counter goes up by one. -/
theorem LRUCache.count_of_metrics {c : LRUCache} (hm : c.config.metricsEnabled = true) (n : Nat) :
    c.count n = n + 1 := by
  simp [LRUCache.count, hm]

/-- The read-locked lookup of an enabled cache counts one hit or miss unless the entry it finds
is expired, and no eviction. -/
theorem LRUCache.counters_lookup (c : LRUCache) (key : String) (now : Nat)
    (hen : c.config.enabled = true) (hm : c.config.metricsEnabled = true) :
    (c.lookup key now).2.hits + (c.lookup key now).2.misses =
        c.hits + c.misses + (if (c.lookup key now).1 = .expired then 0 else 1) ∧
      (c.lookup key now).2.evictions = c.evictions := by
  unfold LRUCache.lookup
  simp only [hen, Bool.not_true, Bool.false_eq_true, ↓reduceIte]
  cases c.cache.get key with
  | mk v cache =>
    cases v with
    | none => simp [count_of_metrics hm, Nat.add_assoc]
    | some e =>
      by_cases hx : c.config.Expired e.createdAt now
      · simp [hx]
      · simp [hx, count_of_metrics hm]; omega

/-- The read-locked lookup counts no eviction. -/
theorem LRUCache.evictions_lookup (c : LRUCache) (key : String) (now : Nat) :
    (c.lookup key now).2.evictions = c.evictions := by
  unfold LRUCache.lookup
  split_ifs
  · rfl
  · cases c.cache.get key with
    | mk v cache => cases v with
      | none => rfl
      | some e => dsimp only; split_ifs <;> rfl

/-- `Set` counts no hit or miss, and one eviction when metrics are on and `Add` evicts. -/
theorem LRUCache.counters_set (c : LRUCache) (key : String) (s : ClientHelloSpec) (now : Nat) :
    (c.set key (some s) now).hits = c.hits ∧ (c.set key (some s) now).misses = c.misses ∧
      (c.set key (some s) now).evictions =
        c.evictions + if c.config.metricsEnabled && c.config.enabled &&
          (c.cache.add key ⟨s, now⟩).1 then 1 else 0 := by
  unfold LRUCache.set LRUCache.count
  rcases hadd : c.cache.add key ⟨s, now⟩ with ⟨evicted, cache⟩
  cases c.config.enabled <;> cases c.config.metricsEnabled <;> cases evicted <;> simp [hadd]

/-- A lookup's result is logged unless it found an expired entry. -/
theorem World.length_log_finishLookup (w : World) (client : Nat) (key : String)
    (r : Lookup × LRUCache) :
    (w.finishLookup client key r).log.length =
      w.log.length + if r.1 = .expired then 0 else 1 := by
  obtain ⟨l, c⟩ := r
  cases l <;> simp [finishLookup]

/-! ## One step, then a whole run -/

/-- No step changes the cache's configuration. -/
theorem World.config_step {w w' : World} {a : Action} (h : w.step a = some w') :
    w'.cache.config = w.cache.config := by
  rcases World.step_eq_some h with
    ⟨_, _, rfl, -, rfl⟩ | ⟨_, _, rfl, -, rfl⟩ | ⟨_, _, _, rfl, -, rfl⟩ | ⟨_, rfl, -, rfl⟩ |
    ⟨_, rfl, rfl⟩
  · simp
  · rfl
  · simp
  · rfl
  · rfl

section Counters

variable {w w' : World} {a : Action} {acts : List Action}

/-- **One step keeps hits and misses in step with the log.** -/
theorem World.hits_add_misses_step (h : w.step a = some w')
    (hen : w.cache.config.enabled = true) (hm : w.cache.config.metricsEnabled = true) :
    w'.cache.hits + w'.cache.misses + w.log.length =
      w.cache.hits + w.cache.misses + w'.log.length := by
  rcases World.step_eq_some h with
    ⟨client, key, rfl, -, rfl⟩ | ⟨client, key, rfl, -, rfl⟩ | ⟨client, key, spec, rfl, -, rfl⟩ |
    ⟨_, rfl, -, rfl⟩ | ⟨_, rfl, rfl⟩
  · have := (w.cache.counters_lookup key w.now hen hm).1
    rw [cache_finishLookup, length_log_finishLookup, this]
    omega
  · simp [LRUCache.expire, LRUCache.count_of_metrics hm]; omega
  · obtain ⟨h₁, h₂, -⟩ := w.cache.counters_set key spec w.now
    rw [h₁, h₂]
  · rfl
  · rfl

/-- **One step counts the evictions `countedBy` says.** -/
theorem World.evictions_step (h : w.step a = some w')
    (hm : w.cache.config.metricsEnabled = true) :
    w'.cache.evictions = w.cache.evictions + w.countedBy a := by
  rcases World.step_eq_some h with
    ⟨client, key, rfl, -, rfl⟩ | ⟨client, key, rfl, -, rfl⟩ | ⟨client, key, spec, rfl, -, rfl⟩ |
    ⟨_, rfl, -, rfl⟩ | ⟨_, rfl, rfl⟩
  · simp [LRUCache.evictions_lookup, countedBy]
  · simp [LRUCache.expire, LRUCache.count_of_metrics hm, countedBy]
  · rw [(w.cache.counters_set key spec w.now).2.2, hm, Bool.true_and]; rfl
  · rfl
  · rfl

/-- A whole run keeps hits and misses in step with the log. -/
theorem World.hits_add_misses_run (hr : w.run acts = some w')
    (hen : w.cache.config.enabled = true) (hm : w.cache.config.metricsEnabled = true) :
    w'.cache.hits + w'.cache.misses + w.log.length =
      w.cache.hits + w.cache.misses + w'.log.length := by
  induction acts generalizing w with
  | nil => cases hr; rfl
  | cons a as ih =>
    obtain ⟨w₁, h₁, h₂⟩ := Option.bind_eq_some.mp hr
    have hc := World.config_step h₁
    have := ih h₂ (hc ▸ hen) (hc ▸ hm)
    have := World.hits_add_misses_step h₁ hen hm
    omega

/-- A whole run counts the evictions `countedBy` says of its steps. -/
theorem World.evictions_run (hr : w.run acts = some w')
    (hm : w.cache.config.metricsEnabled = true) :
    w'.cache.evictions = w.cache.evictions + w.along World.countedBy acts := by
  induction acts generalizing w with
  | nil => cases hr; rfl
  | cons a as ih =>
    obtain ⟨w₁, h₁, h₂⟩ := Option.bind_eq_some.mp hr
    rw [ih h₂ (World.config_step h₁ ▸ hm), World.evictions_step h₁ hm]
    simp only [along, h₁]
    omega

end Counters

/-- **The metrics over every run from `NewLRUCache`**, on an enabled cache with metrics on: hits
and misses count the completed `Get` calls, and the evictions are those the steps count, at least
the entries the run deleted by capacity or expiry. -/
theorem run_metrics (config : CacheConfig) (hen : config.enabled = true)
    (hm : config.metricsEnabled = true) (acts : List Action) (w w' : World)
    (hw : World.init config = some w) (hr : w.run acts = some w') :
    w'.cache.hits + w'.cache.misses = w'.log.length ∧
      w'.cache.evictions = w.along World.countedBy acts ∧
      w.along World.removedBy acts ≤ w'.cache.evictions := by
  have hle := World.along_removedBy_le w acts
  simp only [World.init, Option.map_eq_some'] at hw
  obtain ⟨c, hc, rfl⟩ := hw
  simp only [newLRUCache] at hc
  split_ifs at hc <;> cases hc <;>
  · have hrun := World.hits_add_misses_run hr hen hm
    have hev := World.evictions_run hr hm
    simp only [Nat.zero_add, List.length_nil, Nat.add_zero] at hrun hev
    exact ⟨hrun, hev, hev ▸ hle⟩

/-- A `Set`, a tick past the TTL, and a `Get` that finds the entry expired and removes it. -/
theorem run_metrics_expired :
    ∃ w w', World.init ⟨true, 1000, 10, true⟩ = some w ∧
      w.run [.set 1 "k" ⟨[], [], [], 0x0303, 0x0303⟩, .tick 11, .getLookup 2 "k", .getRemove 2] =
        some w' ∧
      w'.cache.hits + w'.cache.misses = w'.log.length ∧
      w'.cache.evictions = w.along World.countedBy
        [.set 1 "k" ⟨[], [], [], 0x0303, 0x0303⟩, .tick 11, .getLookup 2 "k", .getRemove 2] ∧
      w.along World.removedBy
        [.set 1 "k" ⟨[], [], [], 0x0303, 0x0303⟩, .tick 11, .getLookup 2 "k", .getRemove 2] ≤
          w'.cache.evictions :=
  ⟨_, _, rfl, rfl, run_metrics ⟨true, 1000, 10, true⟩ rfl rfl _ _ _ rfl rfl⟩

/-- Client 1 sets `k` at time 0; at time 11, past the TTL of 10, clients 2 and 3 both find the
entry expired, and both remove `k`. The run deletes one entry, but two misses and two evictions
are counted. -/
theorem metrics_double_eviction :
    ∃ w, World.init ⟨true, 1000, 10, true⟩ = some w ∧
      (w.run [.set 1 "k" ⟨[], [], [], 0x0303, 0x0303⟩, .tick 11, .getLookup 2 "k",
          .getLookup 3 "k", .getRemove 2, .getRemove 3]).map
        (fun w' => (w'.cache.hits, w'.cache.misses, w'.cache.evictions, w'.log.length)) =
          some (0, 2, 2, 2) ∧
      w.along World.removedBy [.set 1 "k" ⟨[], [], [], 0x0303, 0x0303⟩, .tick 11,
        .getLookup 2 "k", .getLookup 3 "k", .getRemove 2, .getRemove 3] = 1 :=
  ⟨_, rfl, by decide, by decide⟩

end TlsFingerprint.Cache
