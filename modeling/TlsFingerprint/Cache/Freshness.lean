import TlsFingerprint.Cache.Metrics

/-!
# What a hit returns, under every interleaving

`interleaving_lost_update` shows a `Get` that misses although a `Set` of its key completed within
the TTL. Hits are not affected: under every interleaving of `Get`, `Set`, `Clear` and the clock,
a `Get` whose read-locked lookup hits returns the spec of the last `Set` of its key in the run,
and that `Set` was made no more than the TTL before (`run_hit_lastSet`). A `Remove` can delete a
newer entry, but it never brings an older one back, and `Add` replaces the entry of its key.

The history is the run's `Set`s with their times (`World.setsAlong`), and `lastSet` the last of
them under a key. `World.Latest` is the invariant: every entry is the last `Set` of its key.
-/

namespace TlsFingerprint.Cache

open Utls

/-! ## The `Set`s of a run -/

/-- The key, spec and time of a step that is a `Set`. -/
def World.setBy (w : World) : Action → List (String × ClientHelloSpec × Nat)
  | .set _ key spec => [(key, spec, w.now)]
  | _ => []

/-- The `Set`s of a run with their times, in order, up to its first step that is not enabled. -/
def World.setsAlong : World → List Action → List (String × ClientHelloSpec × Nat)
  | _, [] => []
  | w, a :: as =>
    match w.step a with
    | some w' => w.setBy a ++ w'.setsAlong as
    | none => []

/-- The spec and time of the last `Set` of a key among `sets`. -/
def lastSet (sets : List (String × ClientHelloSpec × Nat)) (key : String) :
    Option (ClientHelloSpec × Nat) :=
  (sets.reverse.find? (·.1 == key)).map (·.2)

/-- The last `Set` of a key after one more: that one when it is of the key. -/
theorem lastSet_append_singleton (sets : List (String × ClientHelloSpec × Nat))
    (x : String × ClientHelloSpec × Nat) (key : String) :
    lastSet (sets ++ [x]) key = if x.1 = key then some x.2 else lastSet sets key := by
  unfold lastSet
  rw [List.reverse_append, List.reverse_singleton, List.singleton_append, List.find?_cons]
  by_cases h : x.1 = key
  · simp [h]
  · simp [beq_false_of_ne h, h]

/-- The last `Set` of a key is a `Set` of the history. -/
theorem mem_of_lastSet {sets : List (String × ClientHelloSpec × Nat)} {key : String}
    {v : ClientHelloSpec × Nat} (h : lastSet sets key = some v) : (key, v) ∈ sets := by
  obtain ⟨x, hx, rfl⟩ := Option.map_eq_some'.mp h
  have hk : x.1 = key := beq_iff_eq.mp (List.find?_some hx :)
  exact hk ▸ List.mem_reverse.mp (List.mem_of_find?_eq_some hx)

/-! ## One step, then a whole run -/

/-- Finishing a lookup leaves the clock alone. -/
@[simp] theorem World.now_finishLookup (w : World) (client : Nat) (key : String)
    (r : Lookup × LRUCache) : (w.finishLookup client key r).now = w.now := by
  obtain ⟨l, c⟩ := r; cases l <;> rfl

/-- A hit returns the spec of the entry stored under the key, which is not past the TTL. -/
theorem lookup_eq_hit_fresh {c : LRUCache} {key : String} {now : Nat} {s : ClientHelloSpec}
    (h : (c.lookup key now).1 = .hit s) :
    ∃ e, c.cache.peek key = some e ∧ e.spec = s ∧ ¬c.config.Expired e.createdAt now := by
  unfold LRUCache.lookup at h
  rw [Lru.get_eq] at h
  split_ifs at h
  cases hp : c.cache.peek key with
  | none => simp [hp] at h
  | some e =>
    simp only [hp] at h
    split_ifs at h with hx
    exact ⟨e, rfl, Lookup.hit.inj h, hx⟩

/-- No run changes the cache's configuration. -/
theorem World.config_run {w w' : World} {acts : List Action} (hr : w.run acts = some w') :
    w'.cache.config = w.cache.config := by
  induction acts generalizing w with
  | nil => cases hr; rfl
  | cons a as ih =>
    obtain ⟨w₁, h₁, h₂⟩ := Option.bind_eq_some.mp hr
    exact (ih h₂).trans (World.config_step h₁)

/-- What a run keeps, `sets` being the `Set`s made so far: every entry is the last `Set` of its
key, with that call's time; no `Set` is later than the clock; a disabled cache holds nothing. -/
structure World.Latest (sets : List (String × ClientHelloSpec × Nat)) (w : World) : Prop where
  entry : ∀ p ∈ w.cache.cache.entries, lastSet sets p.1 = some (p.2.spec, p.2.createdAt)
  past : ∀ x ∈ sets, x.2.2 ≤ w.now
  disabled : w.cache.config.enabled = false → w.cache.cache.entries = []

/-- One step keeps `World.Latest`, with the `Set` it makes, if any, added to the history. -/
theorem World.Latest.step {sets : List (String × ClientHelloSpec × Nat)} {w w' : World}
    {a : Action} (h : w.Latest sets) (hs : w.step a = some w') :
    w'.Latest (sets ++ w.setBy a) := by
  rcases World.step_eq_some hs with
    ⟨client, key, rfl, -, rfl⟩ | ⟨client, key, rfl, -, rfl⟩ | ⟨client, key, spec, rfl, -, rfl⟩ |
    ⟨client, rfl, -, rfl⟩ | ⟨d, rfl, rfl⟩
  · -- the read-locked lookup keeps a subset of the entries
    rw [show w.setBy (.getLookup client key) = [] from rfl, List.append_nil]
    refine ⟨fun p hp => h.entry p (@mem_of_mem_lookup _ key w.now p ?_), fun x hx => ?_,
      fun hd => ?_⟩
    · rwa [World.cache_finishLookup] at hp
    · rw [World.now_finishLookup]; exact h.past x hx
    · rw [World.cache_finishLookup, config_lookup] at hd
      rw [World.cache_finishLookup, cache_lookup, if_neg (by simp [hd])]
      exact h.disabled hd
  · -- the write-locked `Remove`
    rw [show w.setBy (.getRemove client) = [] from rfl, List.append_nil]
    refine ⟨fun p hp => h.entry p (Lru.mem_of_mem_remove hp), h.past, fun hd => ?_⟩
    exact List.eq_nil_iff_forall_not_mem.mpr fun p hp => by
      have hp := Lru.mem_of_mem_remove hp
      rw [h.disabled hd] at hp
      cases hp
  · -- `Set` stores the last `Set` of its key
    refine ⟨fun p hp => ?_, fun x hx => ?_, fun hd => ?_⟩
    · simp only [cache_set] at hp
      split_ifs at hp with hen
      · rw [setBy, lastSet_append_singleton]
        rcases Lru.mem_add_cases hp with rfl | ⟨hp, hne⟩
        · rw [if_pos rfl]
        · rw [if_neg (Ne.symm hne)]; exact h.entry p hp
      · rw [h.disabled (Bool.eq_false_iff.mpr hen)] at hp; cases hp
    · rcases List.mem_append.mp hx with hx | hx
      · exact h.past x hx
      · simp only [setBy, List.mem_singleton] at hx
        rw [hx]
    · simp only [config_set] at hd ⊢
      rw [cache_set, if_neg (by simp [hd])]
      exact h.disabled hd
  · -- `Clear` empties the cache
    rw [show w.setBy (.clear client) = [] from rfl, List.append_nil]
    exact ⟨fun p hp => (nomatch hp), h.past, fun _ => rfl⟩
  · -- the clock advances
    rw [show w.setBy (.tick d) = [] from rfl, List.append_nil]
    exact ⟨h.entry, fun x hx => Nat.le_add_right_of_le (h.past x hx), h.disabled⟩

/-- A whole run keeps `World.Latest`, with its `Set`s added to the history. -/
theorem World.Latest.run {sets : List (String × ClientHelloSpec × Nat)} {w w' : World}
    {acts : List Action} (h : w.Latest sets) (hr : w.run acts = some w') :
    w'.Latest (sets ++ w.setsAlong acts) := by
  induction acts generalizing sets w with
  | nil => cases hr; simpa [setsAlong] using h
  | cons a as ih =>
    obtain ⟨w₁, h₁, h₂⟩ := Option.bind_eq_some.mp hr
    simpa [setsAlong, h₁, List.append_assoc] using ih (h.step h₁) h₂

/-- A world fresh from `NewLRUCache` keeps `World.Latest` with no history. -/
theorem World.latest_init {config : CacheConfig} {w : World} (h : World.init config = some w) :
    w.Latest [] := by
  simp only [World.init, Option.map_eq_some'] at h
  obtain ⟨c, hc, rfl⟩ := h
  simp only [newLRUCache] at hc
  split_ifs at hc <;> cases hc <;>
    exact ⟨fun p hp => (by cases hp), fun x hx => (by cases hx), fun _ => rfl⟩

/-- `NewLRUCache` keeps the TTL it is given. -/
theorem World.ttl_init {config : CacheConfig} {w : World} (h : World.init config = some w) :
    w.cache.config.ttl = config.ttl := by
  simp only [World.init, Option.map_eq_some'] at h
  obtain ⟨c, hc, rfl⟩ := h
  simp only [newLRUCache] at hc
  split_ifs at hc <;> cases hc <;> rfl

/-! ## Hits -/

/-- **Under every interleaving, a hit is the last `Set` of its key, within the TTL.** After any
run from `NewLRUCache`, a `Get` whose read-locked lookup hits returns the spec of the last `Set`
of its key in the run, and that `Set` was made no more than the TTL before. -/
theorem run_hit_lastSet (config : CacheConfig) (acts : List Action) (w w' : World)
    (hw : World.init config = some w) (hr : w.run acts = some w') (key : String)
    (s : ClientHelloSpec) (hhit : (w'.cache.lookup key w'.now).1 = .hit s) :
    ∃ t, lastSet (w.setsAlong acts) key = some (s, t) ∧ t ≤ w'.now ∧
      ¬config.Expired t w'.now := by
  have hl := (World.latest_init hw).run hr
  rw [List.nil_append] at hl
  obtain ⟨e, hpeek, rfl, hx⟩ := lookup_eq_hit_fresh hhit
  have hlast := hl.entry _ (Lru.mem_of_peek hpeek)
  have httl : w'.cache.config.ttl = config.ttl := (congrArg CacheConfig.ttl
    (World.config_run hr)).trans (World.ttl_init hw)
  refine ⟨e.createdAt, hlast, hl.past _ (mem_of_lastSet hlast), ?_⟩
  unfold CacheConfig.Expired at hx ⊢
  rwa [httl] at hx

/-- Clients 1 and 2 set `k` one after the other at time 0; at time 5, within the TTL of 10, a
lookup of `k` hits the second spec. -/
theorem run_hit_lastSet_second :
    ∃ w w', World.init ⟨true, 1000, 10, true⟩ = some w ∧
      w.run [.set 1 "k" ⟨[], [], [], 0x0303, 0x0303⟩, .set 2 "k" ⟨[], [], [], 0x0304, 0x0304⟩,
        .tick 5] = some w' ∧
      ∃ t, lastSet (w.setsAlong [.set 1 "k" ⟨[], [], [], 0x0303, 0x0303⟩,
          .set 2 "k" ⟨[], [], [], 0x0304, 0x0304⟩, .tick 5]) "k" =
          some (⟨[], [], [], 0x0304, 0x0304⟩, t) ∧ t ≤ w'.now ∧
        ¬CacheConfig.Expired ⟨true, 1000, 10, true⟩ t w'.now :=
  ⟨_, _, rfl, rfl, run_hit_lastSet ⟨true, 1000, 10, true⟩
    [.set 1 "k" ⟨[], [], [], 0x0303, 0x0303⟩, .set 2 "k" ⟨[], [], [], 0x0304, 0x0304⟩, .tick 5]
    _ _ rfl rfl "k" _ (by decide)⟩

end TlsFingerprint.Cache
