import TlsFingerprint.Go.Basic

/-!
# The LRU list under the spec cache

The spec cache stores its entries in a `lru.Cache[string, *cacheEntry]` of
`github.com/hashicorp/golang-lru/v2`. The model follows the library's documented behaviour: the
entries are kept most recent first with distinct keys and at most `size` of them; `Get` moves a
found entry to the front; `Add` updates and moves an existing key, or puts a new one at the front
and evicts the oldest entry when that passes `size`, reporting the eviction; `Remove` and `Purge`
delete. Both invariants are fields of `Lru`, so every operation proves it keeps them.

The lemmas say what the cache's calls read back through a lookup (`Lru.peek`): `Get` returns the
stored value (`get_fst`), `Remove` clears its key (`peek_remove`) and `Add` stores its value
(`peek_add_self`). No operation invents an entry (`mem_add_cases`).
-/

namespace TlsFingerprint.Cache

/-- A `lru.Cache[string, α]`: entries most recent first, keys distinct, at most `size` of them. -/
structure Lru (α : Type) where
  size : Nat
  entries : List (String × α)
  nodup : (entries.map Prod.fst).Nodup
  length_le : entries.length ≤ size

namespace Lru

variable {α : Type}

/-- `lru.NewWithEvict(size, onEvict)` for a positive `size`: an empty cache. -/
def new (size : Nat) : Lru α := ⟨size, [], List.nodup_nil, Nat.zero_le _⟩

/-- The value stored under a key, without touching recency (`Peek`). -/
def peek (c : Lru α) (k : String) : Option α := c.entries.lookup k

/-- `Len()`. -/
def len (c : Lru α) : Nat := c.entries.length

/-- The entries without the one of key `k`. -/
def others (c : Lru α) (k : String) : List (String × α) := c.entries.filter (·.1 ≠ k)

/-- The keys other than `k` stay distinct. -/
theorem nodup_others (c : Lru α) (k : String) : ((c.others k).map Prod.fst).Nodup :=
  c.nodup.sublist ((List.filter_sublist _).map _)

/-- Key `k` is not among the others. -/
theorem not_mem_others (c : Lru α) (k : String) : k ∉ (c.others k).map Prod.fst := fun h => by
  obtain ⟨p, hp, rfl⟩ := List.mem_map.mp h
  exact of_decide_eq_true (List.mem_filter.mp hp).2 rfl

/-- Removing a present key shortens the entries. -/
theorem length_others_lt {c : Lru α} {k : String} (h : (c.peek k).isSome) :
    (c.others k).length < c.entries.length := by
  obtain ⟨p, hp, hk⟩ := List.lookup_isSome_iff.mp h
  exact List.length_filter_lt_length_iff_exists.mpr
    ⟨p, hp, fun hne => of_decide_eq_true hne (eq_of_beq hk).symm⟩

/-- The entry of `k` moved to the front with value `v`, for a present `k`. -/
def moveToFront (c : Lru α) (k : String) (v : α) (h : (c.peek k).isSome) : Lru α :=
  ⟨c.size, (k, v) :: c.others k, List.nodup_cons.mpr ⟨c.not_mem_others k, c.nodup_others k⟩,
    Nat.succ_le_of_lt (Nat.lt_of_lt_of_le (length_others_lt h) c.length_le)⟩

/-- `Get(k)`: the value, and the cache with the entry moved to the front. -/
def get (c : Lru α) (k : String) : Option α × Lru α :=
  match h : c.peek k with
  | some v => (some v, c.moveToFront k v (by simp [h]))
  | none => (none, c)

/-- `Add(k, v)`: whether an entry was evicted, and the new cache. -/
def add (c : Lru α) (k : String) (v : α) : Bool × Lru α :=
  if h : (c.peek k).isSome then (false, c.moveToFront k v h)
  else
    have hk : k ∉ c.entries.map Prod.fst := fun hm => h (List.lookup_isSome_iff.mpr (by
      obtain ⟨p, hp, rfl⟩ := List.mem_map.mp hm; exact ⟨p, hp, by simp⟩))
    if hs : c.entries.length + 1 > c.size then
      (true, ⟨c.size, ((k, v) :: c.entries).dropLast,
        (List.nodup_cons.mpr ⟨hk, c.nodup⟩).sublist ((List.dropLast_sublist _).map _),
        by have := c.length_le; rw [List.length_dropLast, List.length_cons]; omega⟩)
    else (false, ⟨c.size, (k, v) :: c.entries, List.nodup_cons.mpr ⟨hk, c.nodup⟩, by
      rw [List.length_cons]; omega⟩)

/-- `Remove(k)`. -/
def remove (c : Lru α) (k : String) : Lru α :=
  ⟨c.size, c.others k, c.nodup_others k,
    Nat.le_trans (List.length_filter_le _ _) c.length_le⟩

/-- `Purge()`. -/
def purge (c : Lru α) : Lru α := ⟨c.size, [], List.nodup_nil, Nat.zero_le _⟩

/-! ## Lookups after each operation -/

/-- A lookup skips an entry of another key. -/
theorem lookup_cons_of_ne {k : String} {p : String × α} (l : List (String × α)) (h : k ≠ p.1) :
    (p :: l).lookup k = l.lookup k := by
  rw [List.lookup_cons, beq_false_of_ne h]

/-- A lookup stops at the first entry of its key. -/
theorem lookup_cons_of_eq {k : String} {p : String × α} (l : List (String × α)) (h : k = p.1) :
    (p :: l).lookup k = some p.2 := by
  rw [List.lookup_cons, h, beq_self_eq_true]

/-- Filtering out key `k` clears its lookup and keeps the others. -/
theorem lookup_filter_ne (l : List (String × α)) (k k' : String) :
    (l.filter (·.1 ≠ k)).lookup k' = if k' = k then none else l.lookup k' := by
  induction l with
  | nil => simp
  | cons p l ih =>
    rw [List.filter_cons]
    by_cases hp : p.1 = k
    · rw [if_neg (by simpa using hp), ih]
      split_ifs with hk
      · rfl
      · exact (lookup_cons_of_ne l (hp ▸ hk)).symm
    · rw [if_pos (by simpa using hp)]
      split_ifs with hk
      · rw [lookup_cons_of_ne _ (hk ▸ Ne.symm hp), ih, if_pos hk]
      · by_cases hq : k' = p.1
        · rw [lookup_cons_of_eq _ hq, lookup_cons_of_eq _ hq]
        · rw [lookup_cons_of_ne _ hq, lookup_cons_of_ne _ hq, ih, if_neg hk]

/-- Moving `k` to the front sets its value and keeps the other lookups. -/
theorem peek_moveToFront (c : Lru α) (k k' : String) (v : α) (h : (c.peek k).isSome) :
    (c.moveToFront k v h).peek k' = if k' = k then some v else c.peek k' := by
  simp only [peek, moveToFront, others]
  split_ifs with hk
  · exact lookup_cons_of_eq _ hk
  · rw [lookup_cons_of_ne _ hk, lookup_filter_ne, if_neg hk]

/-- `Get` returns the stored value. -/
@[simp] theorem get_fst (c : Lru α) (k : String) : (c.get k).1 = c.peek k := by
  unfold get; split <;> simp_all

/-- `Get` as the lookup paired with the reordered cache. -/
theorem get_eq (c : Lru α) (k : String) : c.get k = (c.peek k, (c.get k).2) := by
  rw [← get_fst]

/-- `Remove` clears its key and keeps the other lookups. -/
@[simp] theorem peek_remove (c : Lru α) (k k' : String) :
    (c.remove k).peek k' = if k' = k then none else c.peek k' :=
  lookup_filter_ne _ _ _

/-- `Get` keeps the size. -/
@[simp] theorem size_get (c : Lru α) (k : String) : (c.get k).2.size = c.size := by
  unfold get; split <;> rfl

/-- `Add` stores the value under its key, in a cache of positive size. -/
theorem peek_add_self (c : Lru α) (k : String) (v : α) (hpos : 0 < c.size) :
    (c.add k v).2.peek k = some v := by
  unfold add
  split_ifs with h hs
  · simp [peek_moveToFront]
  · have hne : c.entries ≠ [] := by
      intro he; simp [he] at hs; omega
    simp only [peek]
    rw [List.dropLast_cons_of_ne_nil hne]
    simp
  · simp [peek]

/-! ## Where entries come from

No operation invents an entry: `Get` and `Remove` keep a subset of the entries, and `Add` keeps a
subset of them together with the one it adds. -/

/-- A stored value is an entry. -/
theorem mem_of_peek {c : Lru α} {k : String} {v : α} (h : c.peek k = some v) :
    (k, v) ∈ c.entries := by
  obtain ⟨l₁, l₂, he, -⟩ := List.lookup_eq_some_iff.mp h
  simp [he]

/-- The entries after `Get` were entries before. -/
theorem mem_of_mem_get {c : Lru α} {k : String} {p : String × α}
    (h : p ∈ (c.get k).2.entries) : p ∈ c.entries := by
  unfold get at h
  split at h
  · next v hv =>
    rcases List.mem_cons.mp h with rfl | h
    · exact mem_of_peek hv
    · exact List.mem_of_mem_filter h
  · exact h

/-- The entries after `Add` are the one added and entries from before. -/
theorem mem_of_mem_add {c : Lru α} {k : String} {v : α} {p : String × α}
    (h : p ∈ (c.add k v).2.entries) : p = (k, v) ∨ p ∈ c.entries := by
  unfold add at h
  split_ifs at h
  · exact (List.mem_cons.mp h).imp_right List.mem_of_mem_filter
  · exact List.mem_cons.mp (List.dropLast_subset _ h)
  · exact List.mem_cons.mp h

/-- An entry after `Add` is the one added, or an earlier entry of another key. -/
theorem mem_add_cases {c : Lru α} {k : String} {v : α} {p : String × α}
    (h : p ∈ (c.add k v).2.entries) : p = (k, v) ∨ (p ∈ c.entries ∧ p.1 ≠ k) := by
  have habsent : ¬(c.peek k).isSome → p ∈ c.entries → p.1 ≠ k := fun hk hp he =>
    hk (List.lookup_isSome_iff.mpr ⟨p, hp, by simp [he]⟩)
  unfold add at h
  split_ifs at h with hk
  · rcases List.mem_cons.mp h with rfl | h
    · exact .inl rfl
    · exact .inr ⟨List.mem_of_mem_filter h, of_decide_eq_true (List.mem_filter.mp h).2⟩
  · rcases List.mem_cons.mp (List.dropLast_subset _ h) with rfl | h
    · exact .inl rfl
    · exact .inr ⟨h, habsent hk h⟩
  · rcases List.mem_cons.mp h with rfl | h
    · exact .inl rfl
    · exact .inr ⟨h, habsent hk h⟩

/-- The entries after `Remove` were entries before. -/
theorem mem_of_mem_remove {c : Lru α} {k : String} {p : String × α}
    (h : p ∈ (c.remove k).entries) : p ∈ c.entries :=
  List.mem_of_mem_filter h

/-- `Purge` leaves no entry. -/
@[simp] theorem entries_purge (c : Lru α) : c.purge.entries = [] := rfl

end Lru

end TlsFingerprint.Cache
