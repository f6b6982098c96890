import TlsFingerprint.Cache.LRUCache

/-!
# Concurrent calls on the spec cache

Clients call `Get`, `Set` and `Clear` on one `LRUCache`; each critical section is one atomic step
of the run. `Set` and `Clear` are one section each. `Get` is two: the read-locked lookup, and,
when the entry it found is past the TTL, the write-locked `Remove` after it released the read
lock. Between the two, a client waits in `World.removing`, and other clients' steps run.

Every step is one of five (`World.step_eq_some`), and the run-level results follow from it:

* under every interleaving a `Get` returns only a spec that a `Set` of the run stored under the
  same key (`run_returns_set_specs`, from the invariant `World.Sound`);
* a `Get` within the TTL of a `Set` before it, run without interruption, returns the spec set
  (`get_set`);
* but `Remove` deletes whatever entry the key has when it runs: a `Set` of the same key in the
  gap is deleted by a `Get` that never saw it (`World.run_set_getRemove`), and
  `interleaving_lost_update` is such a run, after which a `Get` within the TTL of the completed
  `Set` misses.
-/

namespace TlsFingerprint.Cache

open Utls

/-- One atomic step of a concurrent run. -/
inductive Action
  /-- A client starts `Get(key)`: the read-locked lookup. -/
  | getLookup (client : Nat) (key : String)
  /-- A client whose lookup found an expired entry takes the write lock and removes its key. -/
  | getRemove (client : Nat)
  | set (client : Nat) (key : String) (spec : ClientHelloSpec)
  | clear (client : Nat)
  /-- The clock advances. -/
  | tick (d : Nat)
  deriving DecidableEq, Repr

/-- The cache, the clock, the clients between the two sections of a `Get` with their key, and
what each completed `Get` returned. -/
structure World where
  cache : LRUCache
  now : Nat
  removing : List (Nat × String)
  log : List (Nat × String × Option ClientHelloSpec)

/-- Whether a client is in the middle of a `Get`. -/
def World.busy (w : World) (client : Nat) : Bool :=
  (w.removing.lookup client).isSome

/-- What a client's read-locked lookup leaves: a result logged, or the client waiting to remove
an expired entry. -/
def World.finishLookup (w : World) (client : Nat) (key : String) : Lookup × LRUCache → World
  | (.expired, c) => { w with cache := c, removing := (client, key) :: w.removing }
  | (.hit spec, c) => { w with cache := c, log := w.log ++ [(client, key, some spec)] }
  | (_, c) => { w with cache := c, log := w.log ++ [(client, key, none)] }

/-- One step; `none` when the action is not enabled (a busy client starting a call, or a client
removing with no `Get` in progress). -/
def World.step (w : World) : Action → Option World
  | .getLookup client key =>
    if w.busy client then none else some (w.finishLookup client key (w.cache.lookup key w.now))
  | .getRemove client =>
    match w.removing.lookup client with
    | some key =>
      some { w with cache := w.cache.expire key,
                    removing := w.removing.filter (·.1 ≠ client),
                    log := w.log ++ [(client, key, none)] }
    | none => none
  | .set client key spec =>
    if w.busy client then none else some { w with cache := w.cache.set key (some spec) w.now }
  | .clear client => if w.busy client then none else some { w with cache := w.cache.clear }
  | .tick d => some { w with now := w.now + d }

/-- A run of steps, `none` as soon as one is not enabled. -/
def World.run (w : World) : List Action → Option World
  | [] => some w
  | a :: as => (w.step a).bind (·.run as)

/-- A fresh world around a cache created at time 0. -/
def World.init (config : CacheConfig) : Option World :=
  (newLRUCache (some config) 0).toOption.map fun c => ⟨c, 0, [], []⟩

/-! ## What one step can do -/

/-- Finishing a lookup installs the cache the lookup left. -/
@[simp] theorem World.cache_finishLookup (w : World) (client : Nat) (key : String)
    (r : Lookup × LRUCache) : (w.finishLookup client key r).cache = r.2 := by
  obtain ⟨l, c⟩ := r; cases l <;> rfl

/-- A lookup logs nothing, a miss, or the spec of its hit. -/
theorem World.mem_log_finishLookup {w : World} {client : Nat} {key : String}
    {r : Lookup × LRUCache} {e : Nat × String × Option ClientHelloSpec}
    (he : e ∈ (w.finishLookup client key r).log) :
    e ∈ w.log ∨ e = (client, key, none) ∨ ∃ s, r.1 = .hit s ∧ e = (client, key, some s) := by
  obtain ⟨l, c⟩ := r
  cases l <;> simp only [finishLookup, List.mem_append, List.mem_singleton] at he <;>
    first | exact .inl he | exact he.imp_right .inl | exact he.imp_right fun h => .inr ⟨_, rfl, h⟩

/-- Every step, with its guard. -/
theorem World.step_eq_some {w w' : World} {a : Action} (h : w.step a = some w') :
    (∃ client key, a = .getLookup client key ∧ w.busy client = false ∧
      w' = w.finishLookup client key (w.cache.lookup key w.now)) ∨
    (∃ client key, a = .getRemove client ∧ w.removing.lookup client = some key ∧
      w' = { w with cache := w.cache.expire key, removing := w.removing.filter (·.1 ≠ client),
                    log := w.log ++ [(client, key, none)] }) ∨
    (∃ client key spec, a = .set client key spec ∧ w.busy client = false ∧
      w' = { w with cache := w.cache.set key (some spec) w.now }) ∨
    (∃ client, a = .clear client ∧ w.busy client = false ∧ w' = { w with cache := w.cache.clear }) ∨
    (∃ d, a = .tick d ∧ w' = { w with now := w.now + d }) := by
  cases a with
  | getLookup client key =>
    simp only [step] at h
    split_ifs at h with hb
    exact .inl ⟨client, key, rfl, by simpa using hb, (Option.some.inj h).symm⟩
  | getRemove client =>
    simp only [step] at h
    split at h
    · next key hk => exact .inr (.inl ⟨client, key, rfl, hk, (Option.some.inj h).symm⟩)
    · cases h
  | set client key spec =>
    simp only [step] at h
    split_ifs at h with hb
    exact .inr (.inr (.inl ⟨client, key, spec, rfl, by simpa using hb, (Option.some.inj h).symm⟩))
  | clear client =>
    simp only [step] at h
    split_ifs at h with hb
    exact .inr (.inr (.inr (.inl ⟨client, rfl, by simpa using hb, (Option.some.inj h).symm⟩)))
  | tick d => exact .inr (.inr (.inr (.inr ⟨d, rfl, (Option.some.inj h).symm⟩)))

/-- A run is its first step, then the rest. -/
theorem World.run_cons (w : World) (a : Action) (as : List Action) :
    w.run (a :: as) = (w.step a).bind (·.run as) := rfl

/-- Two runs one after the other are the run of both. -/
theorem World.run_append (w : World) (as bs : List Action) :
    w.run (as ++ bs) = (w.run as).bind (·.run bs) := by
  induction as generalizing w with
  | nil => rfl
  | cons a as ih => simp only [List.cons_append, run_cons, Option.bind_assoc, ih]

/-- A `Get` of a key with no entry returns nil at once. -/
theorem World.step_getLookup_of_peek_none (w : World) (client : Nat) (key : String)
    (hb : w.busy client = false) (h : w.cache.cache.peek key = none) :
    ∃ w', w.step (.getLookup client key) = some w' ∧ w'.log = w.log ++ [(client, key, none)] := by
  simp only [step, hb, Bool.false_eq_true, ↓reduceIte, Option.some.injEq, exists_eq_left']
  have hl := @lookup_of_peek_none _ _ w.now h
  generalize w.cache.lookup key w.now = r at hl ⊢
  obtain ⟨l, c⟩ := r
  dsimp only at hl
  rcases hl with rfl | rfl <;> rfl

/-! ## Every interleaving: the cache returns only specs that were set

Under any interleaving, every entry of the cache, and every spec a `Get` returned, was stored
under its key by some `Set` of the run. -/

/-- What a `Set` action stores. -/
def Action.stored : Action → List (String × ClientHelloSpec)
  | .set _ key spec => [(key, spec)]
  | _ => []

/-- Every entry, and every spec returned, was stored under its key by one of `stored`. -/
def World.Sound (stored : List (String × ClientHelloSpec)) (w : World) : Prop :=
  (∀ p ∈ w.cache.cache.entries, (p.1, p.2.spec) ∈ stored) ∧
  ∀ e ∈ w.log, ∀ s ∈ e.2.2, (e.2.1, s) ∈ stored

/-- A read-locked lookup keeps `World.Sound`. -/
theorem World.Sound.finishLookup {stored : List (String × ClientHelloSpec)} {w : World}
    (h : w.Sound stored) (client : Nat) (key : String) :
    (w.finishLookup client key (w.cache.lookup key w.now)).Sound stored := by
  refine ⟨fun p hp => h.1 p (mem_of_mem_lookup (by simpa using hp)), fun e he s hs => ?_⟩
  rcases World.mem_log_finishLookup he with he | rfl | ⟨s', hhit, rfl⟩
  · exact h.2 e he s hs
  · cases hs
  · obtain ⟨entry, hpeek, rfl⟩ := lookup_eq_hit hhit
    cases hs
    exact h.1 _ (Lru.mem_of_peek hpeek)

/-- One step keeps `World.Sound`, with what it stores added. -/
theorem World.Sound.step {stored : List (String × ClientHelloSpec)} {w w' : World} {a : Action}
    (h : w.Sound stored) (hs : w.step a = some w') : w'.Sound (stored ++ a.stored) := by
  have hlog : ∀ e ∈ w.log, ∀ s ∈ e.2.2, (e.2.1, s) ∈ stored ++ a.stored :=
    fun e he s hs => List.mem_append_left _ (h.2 e he s hs)
  rcases World.step_eq_some hs with
    ⟨client, key, rfl, -, rfl⟩ | ⟨client, key, rfl, -, rfl⟩ | ⟨client, key, spec, rfl, -, rfl⟩ |
    ⟨client, rfl, -, rfl⟩ | ⟨d, rfl, rfl⟩
  · simpa [Action.stored] using h.finishLookup client key
  · refine ⟨fun p hp => List.mem_append_left _ (h.1 p (Lru.mem_of_mem_remove hp)),
      fun e he s hs => ?_⟩
    rcases List.mem_append.mp he with he | he
    · exact hlog e he s hs
    · rw [List.mem_singleton.mp he] at hs; cases hs
  · refine ⟨fun p hp => ?_, hlog⟩
    rw [cache_set] at hp
    split_ifs at hp
    · rcases Lru.mem_of_mem_add hp with rfl | hp
      · simp [Action.stored]
      · exact List.mem_append_left _ (h.1 p hp)
    · exact List.mem_append_left _ (h.1 p hp)
  · exact ⟨fun p hp => by simp at hp, hlog⟩
  · exact ⟨fun p hp => List.mem_append_left _ (h.1 p hp), hlog⟩

/-- A whole run keeps `World.Sound`, with what its `Set`s store added. -/
theorem World.Sound.run {stored : List (String × ClientHelloSpec)} {w w' : World}
    {acts : List Action} (h : w.Sound stored) (hr : w.run acts = some w') :
    w'.Sound (stored ++ acts.flatMap Action.stored) := by
  induction acts generalizing stored w with
  | nil => cases hr; simpa using h
  | cons a as ih =>
    obtain ⟨w₁, h₁, h₂⟩ := Option.bind_eq_some.mp hr
    simpa [List.flatMap_cons, List.append_assoc] using ih (h.step h₁) h₂

/-- A world fresh from `NewLRUCache` is sound with nothing stored. -/
theorem World.sound_init {config : CacheConfig} {w : World} (h : World.init config = some w) :
    w.Sound [] := by
  simp only [World.init, Option.map_eq_some'] at h
  obtain ⟨c, hc, rfl⟩ := h
  simp only [newLRUCache] at hc
  split_ifs at hc <;> cases hc <;> exact ⟨fun p hp => (by cases hp), fun e he => (by cases he)⟩

/-- **Under every interleaving, a `Get` returns only a spec that a `Set` of the run stored under
the same key.** -/
theorem run_returns_set_specs (config : CacheConfig) (acts : List Action) :
    ∀ w' ∈ (World.init config).bind (·.run acts), ∀ e ∈ w'.log, ∀ s ∈ e.2.2,
      ∃ client, Action.set client e.2.1 s ∈ acts := by
  intro w' hw' e he s hs
  obtain ⟨w, hw, hr⟩ := Option.bind_eq_some.mp hw'
  obtain ⟨a, ha, hmem⟩ := List.mem_flatMap.mp ((World.sound_init hw).run hr |>.2 e he s hs)
  cases a with
  | set client key spec =>
    obtain ⟨rfl, rfl⟩ := Prod.mk.inj (List.mem_singleton.mp hmem)
    exact ⟨client, ha⟩
  | _ => cases hmem

/-- A `Get` after a `Set` of its key returns the spec that `Set` stored. -/
theorem run_returns_set_specs_hit :
    ∃ client, Action.set client "k" ⟨[], [], [], 0x0303, 0x0303⟩ ∈
      [.set 1 "k" ⟨[], [], [], 0x0303, 0x0303⟩, .getLookup 2 "k"] :=
  run_returns_set_specs ⟨true, 1000, 10, true⟩ [.set 1 "k" ⟨[], [], [], 0x0303, 0x0303⟩,
    .getLookup 2 "k"] _ rfl (2, "k", some ⟨[], [], [], 0x0303, 0x0303⟩) (by decide) _ rfl

/-! ## The lost update -/

/-- **A `Get` that found an expired entry deletes whatever its key holds when it takes the write
lock**: a `Set` of the key by another client in between is lost, and the `Get` returns nil. -/
theorem World.run_set_getRemove (w : World) (client client' : Nat) (key : String)
    (s : ClientHelloSpec) (hk : w.removing.lookup client = some key)
    (hb : w.busy client' = false) :
    ∃ w', w.run [.set client' key s, .getRemove client] = some w' ∧
      w'.cache.cache.peek key = none ∧ w'.removing = w.removing.filter (·.1 ≠ client) ∧
      w'.log = w.log ++ [(client, key, none)] := by
  rw [run_cons, step, hb, if_neg Bool.false_ne_true, Option.some_bind, run_cons]
  simp only [step]
  rw [hk]
  exact ⟨_, rfl, by simp, rfl, rfl⟩

/-- Client 1 sets `k` at time 0; at time 11, past the TTL of 10, client 2's `Get(k)` finds the
entry expired; client 1 sets `k` again; client 2 removes `k`, deleting the new entry; client 3's
`Get(k)`, at the time of the second `Set`, misses. -/
theorem interleaving_lost_update :
    ((World.init ⟨true, 1000, 10, true⟩).bind fun w =>
      w.run [.set 1 "k" ⟨[], [], [], 0x0303, 0x0303⟩, .tick 11, .getLookup 2 "k",
        .set 1 "k" ⟨[], [], [], 0x0304, 0x0304⟩, .getRemove 2, .getLookup 3 "k"]).map
      World.log = some [(2, "k", none), (3, "k", none)] := by
  -- Client 2's lookup leaves it waiting to remove `k`, with nothing logged.
  obtain ⟨w₁, hw₁, hk, hb, hrem, hlog⟩ : ∃ w₁, ((World.init ⟨true, 1000, 10, true⟩).bind fun w =>
      w.run [.set 1 "k" ⟨[], [], [], 0x0303, 0x0303⟩, .tick 11, .getLookup 2 "k"]) = some w₁ ∧
      w₁.removing.lookup 2 = some "k" ∧ w₁.busy 1 = false ∧ w₁.removing = [(2, "k")] ∧
      w₁.log = [] := ⟨_, rfl, rfl, rfl, rfl, rfl⟩
  -- Client 1's second `Set` is deleted by client 2's `Remove`.
  obtain ⟨w₂, hw₂, hpeek, hrem₂, hlog₂⟩ :=
    World.run_set_getRemove w₁ 2 1 "k" ⟨[], [], [], 0x0304, 0x0304⟩ hk hb
  -- Client 3's `Get` then finds no entry.
  have hb₃ : w₂.busy 3 = false := by simp [World.busy, hrem₂, hrem]
  obtain ⟨w₃, hw₃, hlog₃⟩ := World.step_getLookup_of_peek_none w₂ 3 "k" hb₃ hpeek
  have hsplit : ((World.init ⟨true, 1000, 10, true⟩).bind fun w =>
      w.run [.set 1 "k" ⟨[], [], [], 0x0303, 0x0303⟩, .tick 11, .getLookup 2 "k",
        .set 1 "k" ⟨[], [], [], 0x0304, 0x0304⟩, .getRemove 2, .getLookup 3 "k"]) =
      ((((World.init ⟨true, 1000, 10, true⟩).bind fun w =>
        w.run [.set 1 "k" ⟨[], [], [], 0x0303, 0x0303⟩, .tick 11, .getLookup 2 "k"]).bind
        (·.run [.set 1 "k" ⟨[], [], [], 0x0304, 0x0304⟩, .getRemove 2])).bind
        (·.run [.getLookup 3 "k"])) := by
    simp only [Option.bind_assoc, ← World.run_append]; rfl
  rw [hsplit, hw₁, Option.some_bind, hw₂, Option.some_bind, World.run_cons, hw₃, Option.some_bind]
  simp only [World.run, Option.map_some', hlog₃, hlog₂, hlog, List.nil_append,
    List.singleton_append]

end TlsFingerprint.Cache
