import TlsFingerprint.Go.Basic

/-!
# GREASE values

RFC 8701 reserves sixteen 16-bit values, `0x0a0a`, `0x1a1a`, …, `0xfafa`, for a client to send so
that a server learns to ignore what it does not know. `grease.go` keeps them in `GREASEValues`,
looks them up in a map that `init` fills (`IsGREASE`), and filters, counts, locates, injects and
normalizes them in lists of identifiers.

* `isGREASE_iff`: `IsGREASE` accepts exactly the values whose two bytes are equal and end in the
  nibble `a`.
* `InjectGREASE` is a loop over `len(values) + len(positions) + 1` iterations; `injectLoop` runs it
  and `InjectInv` is what it keeps. From it: the values come out in order (`sublist_injectGREASE`),
  what is added is GREASE (`filterGREASE_injectGREASE`). For a nonempty GREASE-free list and distinct
  positions that fit, GREASE lands exactly at the positions (`injectGREASE_positions`, from the
  sharper invariant `ExactInv`); an empty list is returned as it is, with no GREASE. For any
  positions, `injectGREASE_adds` counts the GREASE values added and names them.
* `normalizeWithGREASE_eq_iff`: two lists normalize alike exactly when they have GREASE at the same
  positions and the same other values, which is what the normalization is for.
-/

namespace TlsFingerprint.Fingerprint

/-! ## The values and the lookup -/

/-- `GREASEValues`. -/
def greaseValues : List UInt16 :=
  [0x0a0a, 0x1a1a, 0x2a2a, 0x3a3a, 0x4a4a, 0x5a5a, 0x6a6a, 0x7a7a,
   0x8a8a, 0x9a9a, 0xaaaa, 0xbaba, 0xcaca, 0xdada, 0xeaea, 0xfafa]

/-- `greaseMap` as `init` fills it: `true` under every GREASE value. -/
def greaseMap : List (UInt16 × Bool) :=
  greaseValues.map fun v => (v, true)

/-- `IsGREASE(value)`: the map's entry, `false` when it has none. -/
def isGREASE (value : UInt16) : Bool :=
  (greaseMap.lookup value).getD false

/-- A key is found `true` in a map filled from a list exactly when it is in the list. -/
theorem lookup_map_true (l : List UInt16) (k : UInt16) :
    ((l.map fun v => (v, true)).lookup k).getD false = true ↔ k ∈ l := by
  induction l with
  | nil => simp
  | cons a l ih =>
    rw [List.map_cons, List.lookup_cons]
    by_cases h : k = a
    · simp [h]
    · simp [beq_false_of_ne h, h, ih]

/-- `IsGREASE` accepts exactly the values of `GREASEValues`. -/
theorem isGREASE_iff_mem {v : UInt16} : isGREASE v = true ↔ v ∈ greaseValues :=
  lookup_map_true greaseValues v

/-- Every value of `GREASEValues` is GREASE. -/
theorem isGREASE_of_mem {v : UInt16} (h : v ∈ greaseValues) : isGREASE v = true :=
  isGREASE_iff_mem.mpr h

/-- `0x0a0a`, the value normalization writes, is GREASE. -/
@[simp] theorem isGREASE_0a0a : isGREASE 0x0a0a = true := rfl

/-- `FilterGREASE(values)`: the values that are not GREASE, in order. -/
def filterGREASE (values : List UInt16) : List UInt16 :=
  if values.length = 0 then values else values.filter fun v => !isGREASE v

/-- `PreserveGREASE(values)`: a copy. -/
def preserveGREASE (values : List UInt16) : List UInt16 :=
  values

/-- `CountGREASE(values)`. -/
def countGREASE (values : List UInt16) : Nat :=
  values.foldl (fun count v => if isGREASE v then count + 1 else count) 0

/-- The positions loop of `GetGREASEPositions`, from index `i` on. -/
def greasePositionsFrom : Nat → List UInt16 → List Nat
  | _, [] => []
  | i, v :: vs => if isGREASE v then i :: greasePositionsFrom (i + 1) vs
    else greasePositionsFrom (i + 1) vs

/-- `GetGREASEPositions(values)`: the indices of the GREASE values, ascending. -/
def getGREASEPositions (values : List UInt16) : List Nat :=
  greasePositionsFrom 0 values

/-- `HasGREASE(values)`. -/
def hasGREASE (values : List UInt16) : Bool :=
  values.any isGREASE

/-- The replacement of `NormalizeWithGREASE`: a GREASE value becomes `0x0a0a`. -/
def normalizeOne (v : UInt16) : UInt16 :=
  if isGREASE v then 0x0a0a else v

/-- `NormalizeWithGREASE(values)`. -/
def normalizeWithGREASE (values : List UInt16) : List UInt16 :=
  if values.length = 0 then values else values.map normalizeOne

/-- `FilterGREASE` is a filter; its early return for an empty list agrees. -/
theorem filterGREASE_eq (values : List UInt16) :
    filterGREASE values = values.filter fun v => !isGREASE v := by
  cases values <;> simp [filterGREASE]

/-- `NormalizeWithGREASE` is a map; its early return for an empty list agrees. -/
theorem normalizeWithGREASE_eq (values : List UInt16) :
    normalizeWithGREASE values = values.map normalizeOne := by
  cases values <;> simp [normalizeWithGREASE]

/-- `CountGREASE` counts the GREASE values. -/
theorem countGREASE_eq (values : List UInt16) :
    countGREASE values = (values.filter isGREASE).length := by
  suffices ∀ n, values.foldl (fun count v => if isGREASE v then count + 1 else count) n =
      n + (values.filter isGREASE).length from (this 0).trans (Nat.zero_add _)
  induction values with
  | nil => simp
  | cons v vs ih =>
    intro n
    by_cases h : isGREASE v
    · simp [List.filter_cons, h, ih]; omega
    · simp [List.filter_cons, h, ih]

/-- The positions loop lists one index per GREASE value. -/
theorem length_greasePositionsFrom (i : Nat) (values : List UInt16) :
    (greasePositionsFrom i values).length = (values.filter isGREASE).length := by
  induction values generalizing i with
  | nil => rfl
  | cons v vs ih => by_cases h : isGREASE v <;> simp [greasePositionsFrom, List.filter_cons, h, ih]

/-- The positions loop lists no index below its start. -/
theorem le_of_mem_greasePositionsFrom {i j : Nat} {values : List UInt16}
    (h : j ∈ greasePositionsFrom i values) : i ≤ j := by
  induction values generalizing i with
  | nil => cases h
  | cons v vs ih =>
    unfold greasePositionsFrom at h
    split_ifs at h
    · rcases List.mem_cons.mp h with rfl | h
      · exact le_rfl
      · exact Nat.le_of_succ_le (ih h)
    · exact Nat.le_of_succ_le (ih h)

/-! ## Normalizing -/

/-- Normalizing keeps whether a value is GREASE. -/
@[simp] theorem isGREASE_normalizeOne (v : UInt16) : isGREASE (normalizeOne v) = isGREASE v := by
  unfold normalizeOne
  split_ifs with h
  · rw [h]; rfl
  · rfl

/-- Normalizing keeps the positions of GREASE. -/
theorem greasePositionsFrom_map_normalizeOne (i : Nat) (values : List UInt16) :
    greasePositionsFrom i (values.map normalizeOne) = greasePositionsFrom i values := by
  induction values generalizing i with
  | nil => rfl
  | cons v vs ih => simp only [List.map_cons, greasePositionsFrom, isGREASE_normalizeOne, ih]

/-- Normalizing keeps the values that are not GREASE. -/
theorem filter_map_normalizeOne (values : List UInt16) :
    (values.map normalizeOne).filter (fun v => !isGREASE v) =
      values.filter fun v => !isGREASE v := by
  induction values with
  | nil => rfl
  | cons v vs ih =>
    by_cases h : isGREASE v <;> simp [List.filter_cons, normalizeOne, h, ih]

/-- Lists with GREASE at the same positions and the same other values normalize alike. -/
theorem map_normalizeOne_eq_of {v w : List UInt16} {i : Nat}
    (hp : greasePositionsFrom i v = greasePositionsFrom i w)
    (hf : v.filter (fun x => !isGREASE x) = w.filter fun x => !isGREASE x) :
    v.map normalizeOne = w.map normalizeOne := by
  induction v generalizing w i with
  | nil =>
    cases w with
    | nil => rfl
    | cons x w => by_cases hx : isGREASE x <;> simp [greasePositionsFrom, hx] at hp hf
  | cons a v ih =>
    cases w with
    | nil => by_cases ha : isGREASE a <;> simp [greasePositionsFrom, ha] at hp hf
    | cons b w =>
      by_cases ha : isGREASE a <;> by_cases hb : isGREASE b <;>
        simp only [greasePositionsFrom, ha, hb, List.filter_cons, if_true, if_false,
          Bool.not_true, Bool.not_false, List.cons.injEq] at hp hf
      · simp only [List.map_cons, normalizeOne, ha, hb, if_true, ih hp.2 hf]
      · have := le_of_mem_greasePositionsFrom (hp ▸ List.mem_cons_self i _)
        omega
      · have := le_of_mem_greasePositionsFrom (hp.symm ▸ List.mem_cons_self i _)
        omega
      · simp only [List.map_cons, normalizeOne, ha, hb, if_false, hf.1, ih hp hf.2]

/-- **`NormalizeWithGREASE` forgets the GREASE values and nothing else**: two lists normalize
alike exactly when they have GREASE at the same positions and the same other values in order. -/
theorem normalizeWithGREASE_eq_iff (v w : List UInt16) :
    normalizeWithGREASE v = normalizeWithGREASE w ↔
      getGREASEPositions v = getGREASEPositions w ∧ filterGREASE v = filterGREASE w := by
  simp only [normalizeWithGREASE_eq, getGREASEPositions, filterGREASE_eq]
  constructor
  · intro h
    refine ⟨?_, ?_⟩
    · rw [← greasePositionsFrom_map_normalizeOne, h, greasePositionsFrom_map_normalizeOne]
    · rw [← filter_map_normalizeOne, h, filter_map_normalizeOne]
  · exact fun ⟨hp, hf⟩ => map_normalizeOne_eq_of hp hf

/-! ## Injecting -/

/-- The variables of `InjectGREASE`'s loop. -/
structure InjectState where
  result : List UInt16
  greaseIdx : Nat
  valueIdx : Nat

/-- Iteration `i` of `InjectGREASE`'s loop: a GREASE value when `i` is one of the positions and
fewer than sixteen were added, else the next value if one is left. -/
def injectStep (values : List UInt16) (positions : List Int) (st : InjectState) (i : Nat) :
    InjectState :=
  if positions.any fun pos => (i : Int) == pos && decide (st.greaseIdx < greaseValues.length) then
    { st with
      result := st.result ++
        [greaseValues.get ⟨st.greaseIdx % greaseValues.length, Nat.mod_lt _ (by decide)⟩]
      greaseIdx := st.greaseIdx + 1 }
  else if h : st.valueIdx < values.length then
    { st with result := st.result ++ [values.get ⟨st.valueIdx, h⟩], valueIdx := st.valueIdx + 1 }
  else st

/-- The loop run for the iterations `0, …, k - 1`. -/
def injectLoop (values : List UInt16) (positions : List Int) : Nat → InjectState
  | 0 => ⟨[], 0, 0⟩
  | k + 1 => injectStep values positions (injectLoop values positions k) k

/-- `InjectGREASE(values, positions)`. -/
def injectGREASE (values : List UInt16) (positions : List Int) : List UInt16 :=
  if values.length = 0 ∨ positions.length = 0 then values
  else (injectLoop values positions (values.length + positions.length + 1)).result

/-- The iterations before `k` whose index is a position. -/
def positionHits (positions : List Int) (k : Nat) : List Nat :=
  (List.range k).filter fun i => (i : Int) ∈ positions

/-- No more iterations hit a position than there are positions. -/
theorem length_positionHits_le (positions : List Int) (k : Nat) :
    (positionHits positions k).length ≤ positions.length := by
  have hnd : ((positionHits positions k).map fun i : Nat => (i : Int)).Nodup :=
    ((List.nodup_range k).filter _).map fun a b h => Int.ofNat.inj h
  have hsub : ((positionHits positions k).map fun i : Nat => (i : Int)) ⊆ positions := by
    intro x hx
    obtain ⟨i, hi, rfl⟩ := List.mem_map.mp hx
    simpa using (List.mem_filter.mp hi).2
  simpa using (List.subperm_of_subset hnd hsub).length_le

/-- What the loop keeps after `k` iterations: every value taken so far is in the result, in
order; everything else added is GREASE, at most one per position hit and sixteen in all; and the
values run out only after every iteration that added none took one. -/
structure InjectInv (values : List UInt16) (positions : List Int) (k : Nat) (st : InjectState) :
    Prop where
  sublist : (values.take st.valueIdx).Sublist st.result
  filter : st.result.filter (fun v => !isGREASE v) =
    (values.take st.valueIdx).filter fun v => !isGREASE v
  length : st.result.length = st.greaseIdx + st.valueIdx
  greaseIdx_le_hits : st.greaseIdx ≤ (positionHits positions k).length
  greaseIdx_le : st.greaseIdx ≤ greaseValues.length
  valueIdx_eq : st.valueIdx = min values.length (k - st.greaseIdx)

/-- Taking one more value appends it. -/
theorem take_succ_of_lt {values : List UInt16} {n : Nat} (h : n < values.length) :
    values.take (n + 1) = values.take n ++ [values.get ⟨n, h⟩] := by
  rw [List.take_succ, List.getElem?_eq_getElem h]
  rfl

/-- One more iteration hits one more position when its index is one. -/
theorem length_positionHits_succ (positions : List Int) (k : Nat) :
    (positionHits positions (k + 1)).length =
      (positionHits positions k).length + if (k : Int) ∈ positions then 1 else 0 := by
  simp only [positionHits, List.range_succ, List.filter_append, List.length_append]
  split_ifs with h <;> simp [h]

/-- No more iterations hit a position than there are iterations. -/
theorem length_positionHits_le_self (positions : List Int) (k : Nat) :
    (positionHits positions k).length ≤ k :=
  (List.length_filter_le _ _).trans (List.length_range k).le

/-- The hits never decrease with more iterations. -/
theorem length_positionHits_le_succ (positions : List Int) (k : Nat) :
    (positionHits positions k).length ≤ (positionHits positions (k + 1)).length := by
  rw [length_positionHits_succ]
  exact Nat.le_add_right _ _

/-- One iteration keeps `InjectInv`. -/
theorem InjectInv.step {values : List UInt16} {positions : List Int} {k : Nat}
    {st : InjectState} (hi : InjectInv values positions k st) :
    InjectInv values positions (k + 1) (injectStep values positions st k) := by
  have hhits := hi.greaseIdx_le_hits.trans (length_positionHits_le_succ positions k)
  have hval := hi.valueIdx_eq
  unfold injectStep
  split_ifs with hinj hv
  · -- a GREASE value is added
    obtain ⟨pos, hpos, hk⟩ := List.any_eq_true.mp hinj
    simp only [Bool.and_eq_true, beq_iff_eq, decide_eq_true_eq] at hk
    obtain ⟨rfl, hlt⟩ := hk
    have hmod : st.greaseIdx % greaseValues.length < greaseValues.length := Nat.mod_lt _ (by decide)
    have hg : isGREASE greaseValues[st.greaseIdx % greaseValues.length] = true :=
      isGREASE_of_mem (List.getElem_mem _)
    have hsucc := length_positionHits_succ positions k
    rw [if_pos hpos] at hsucc
    refine ⟨hi.sublist.trans (List.sublist_append_left _ _), by simp [hi.filter, hg], ?_, ?_,
      hlt, ?_⟩ <;> dsimp only
    · rw [List.length_append, List.length_singleton, hi.length, Nat.add_right_comm]
    · rw [hsucc]
      exact Nat.succ_le_succ hi.greaseIdx_le_hits
    · rw [Nat.add_sub_add_right]
      exact hval
  · -- the next value is added
    have hk := hi.greaseIdx_le_hits.trans (length_positionHits_le_self positions k)
    refine ⟨?_, ?_, ?_, hhits, hi.greaseIdx_le, ?_⟩ <;> dsimp only
    · rw [take_succ_of_lt hv]; exact hi.sublist.append (List.Sublist.refl _)
    · rw [take_succ_of_lt hv, List.filter_append, List.filter_append, hi.filter]
    · rw [List.length_append, List.length_singleton, hi.length, Nat.add_assoc]
    · omega
  · -- nothing is added
    exact ⟨hi.sublist, hi.filter, hi.length, hhits, hi.greaseIdx_le, by omega⟩

/-- Every run of the loop keeps `InjectInv`. -/
theorem injectInv_loop (values : List UInt16) (positions : List Int) (k : Nat) :
    InjectInv values positions k (injectLoop values positions k) := by
  induction k with
  | zero => exact ⟨by simp [injectLoop], by simp [injectLoop], rfl, Nat.zero_le _,
      Nat.zero_le _, by simp [injectLoop]⟩
  | succ k ih => exact ih.step

/-- After its `len(values) + len(positions) + 1` iterations the loop has taken every value. -/
theorem valueIdx_injectLoop (values : List UInt16) (positions : List Int) :
    (injectLoop values positions (values.length + positions.length + 1)).valueIdx =
      values.length := by
  have hi := injectInv_loop values positions (values.length + positions.length + 1)
  have := length_positionHits_le positions (values.length + positions.length + 1)
  have := hi.greaseIdx_le_hits
  rw [hi.valueIdx_eq]
  omega

/-- **`InjectGREASE` keeps every value, in order.** -/
theorem sublist_injectGREASE (values : List UInt16) (positions : List Int) :
    values.Sublist (injectGREASE values positions) := by
  unfold injectGREASE
  split_ifs
  · exact List.Sublist.refl _
  · have hi := injectInv_loop values positions (values.length + positions.length + 1)
    simpa [valueIdx_injectLoop] using hi.sublist

/-- **What `InjectGREASE` adds is GREASE**: filtering the result gives what filtering the values
gives. -/
theorem filterGREASE_injectGREASE (values : List UInt16) (positions : List Int) :
    filterGREASE (injectGREASE values positions) = filterGREASE values := by
  simp only [filterGREASE_eq]
  unfold injectGREASE
  split_ifs
  · rfl
  · have hi := injectInv_loop values positions (values.length + positions.length + 1)
    simpa [valueIdx_injectLoop] using hi.filter

/-! ## Where the GREASE goes

With distinct positions, at most sixteen of them, each below `len(values) + len(positions)`, and a
GREASE-free list, iteration `i` adds a GREASE value exactly when `i` is a position and a value
otherwise: the loop's counter is then the index of what it appends (`ExactInv`). Counting the
positions the loop meets shows the values never run out before the last position. -/

/-- One more iteration appends its index when it is a position. -/
theorem positionHits_succ (positions : List Int) (k : Nat) :
    positionHits positions (k + 1) =
      positionHits positions k ++ if (k : Int) ∈ positions then [k] else [] := by
  simp only [positionHits, List.range_succ, List.filter_append]
  split_ifs with h <;> simp [h]

/-- `d` more iterations hit at most `d` more positions. -/
theorem length_positionHits_add (positions : List Int) (k d : Nat) :
    (positionHits positions (k + d)).length ≤ (positionHits positions k).length + d := by
  induction d with
  | zero => exact le_rfl
  | succ d ih => rw [← Nat.add_assoc, length_positionHits_succ]; split_ifs <;> omega

/-- Distinct positions below `N` are all met in the first `N` iterations. -/
theorem map_positionHits_perm {positions : List Int} {N : Nat} (hnd : positions.Nodup)
    (hin : ∀ p ∈ positions, 0 ≤ p ∧ p < N) :
    ((positionHits positions N).map fun i : Nat => (i : Int)).Perm positions := by
  refine (List.perm_ext_iff_of_nodup
    (((List.nodup_range N).filter _).map fun a b h => Int.ofNat.inj h) hnd).mpr fun x => ?_
  simp only [positionHits, List.mem_map, List.mem_filter, List.mem_range, decide_eq_true_eq]
  constructor
  · rintro ⟨i, ⟨-, hi⟩, rfl⟩; exact hi
  · intro hx
    obtain ⟨h0, hN⟩ := hin x hx
    exact ⟨x.toNat, ⟨by omega, by rwa [Int.toNat_of_nonneg h0]⟩, Int.toNat_of_nonneg h0⟩

/-- Distinct positions below `N` are met `len(positions)` times in `N` iterations. -/
theorem length_positionHits_of_nodup {positions : List Int} {N : Nat} (hnd : positions.Nodup)
    (hin : ∀ p ∈ positions, 0 ≤ p ∧ p < N) :
    (positionHits positions N).length = positions.length := by
  simpa using (map_positionHits_perm hnd hin).length_eq

/-- The positions met come in ascending order. -/
theorem sorted_map_positionHits (positions : List Int) (k : Nat) :
    ((positionHits positions k).map fun i : Nat => (i : Int)).Sorted (· ≤ ·) :=
  (((List.pairwise_lt_range k).filter _).map _ fun _ _ h => by omega).imp le_of_lt

/-- The positions of a list with one value appended: that of the value comes last, if it is GREASE. -/
theorem greasePositionsFrom_append_singleton (i : Nat) (l : List UInt16) (x : UInt16) :
    greasePositionsFrom i (l ++ [x]) =
      greasePositionsFrom i l ++ if isGREASE x then [i + l.length] else [] := by
  induction l generalizing i with
  | nil => by_cases hx : isGREASE x <;> simp [greasePositionsFrom, hx]
  | cons v vs ih =>
    by_cases hv : isGREASE v <;>
      simp [greasePositionsFrom, hv, ih, Nat.add_assoc, Nat.add_comm 1]

/-- A GREASE-free list has no GREASE positions. -/
theorem getGREASEPositions_of_free {values : List UInt16}
    (hfree : ∀ v ∈ values, isGREASE v = false) : getGREASEPositions values = [] := by
  rw [← List.length_eq_zero, getGREASEPositions, length_greasePositionsFrom, List.length_eq_zero,
    List.filter_eq_nil_iff]
  simpa using hfree

/-- The test of one iteration: `i` is a position and fewer than sixteen values were added. -/
theorem any_position (positions : List Int) (i g : Nat) :
    (positions.any fun pos => (i : Int) == pos && decide (g < greaseValues.length)) =
      (decide ((i : Int) ∈ positions) && decide (g < greaseValues.length)) := by
  apply Bool.eq_iff_iff.mpr
  simp only [List.any_eq_true, Bool.and_eq_true, beq_iff_eq, decide_eq_true_eq]
  exact ⟨fun ⟨_, hx, rfl, hg⟩ => ⟨hx, hg⟩, fun ⟨hx, hg⟩ => ⟨_, hx, rfl, hg⟩⟩

/-- What the loop keeps after `k` iterations under the hypotheses of this section: one element per
iteration, GREASE exactly at the positions met. -/
structure ExactInv (positions : List Int) (k : Nat) (st : InjectState) : Prop where
  greasePositions : getGREASEPositions st.result = positionHits positions k
  length : st.result.length = k
  greaseIdx : st.greaseIdx = (positionHits positions k).length

section Exact

variable {values : List UInt16} {positions : List Int}
  (hfree : ∀ v ∈ values, isGREASE v = false) (hnd : positions.Nodup)
  (hcap : positions.length ≤ greaseValues.length)
  (hin : ∀ p ∈ positions, 0 ≤ p ∧ p < values.length + positions.length)

include hfree hnd hcap hin in
/-- One iteration before the last keeps `ExactInv`. At a position fewer than sixteen values were
added; elsewhere a value is left, since the positions still to come fit in the iterations left. -/
theorem ExactInv.step {k : Nat} {st : InjectState} (hk : k < values.length + positions.length)
    (he : ExactInv positions k st) (hi : InjectInv values positions k st) :
    ExactInv positions (k + 1) (injectStep values positions st k) := by
  have hN := length_positionHits_add positions (k + 1) (values.length + positions.length - (k + 1))
  rw [Nat.add_sub_cancel' hk, length_positionHits_of_nodup hnd hin] at hN
  have hs := length_positionHits_succ positions k
  have hle := length_positionHits_le positions (k + 1)
  have hself := length_positionHits_le_self positions k
  have hval := hi.valueIdx_eq
  have hgi := he.greaseIdx
  unfold injectStep
  rw [any_position]
  by_cases hkP : (k : Int) ∈ positions
  · -- a GREASE value is added at the position
    rw [if_pos hkP] at hs
    have hg : isGREASE (greaseValues.get ⟨st.greaseIdx % greaseValues.length,
        Nat.mod_lt _ (by decide)⟩) = true := isGREASE_of_mem (List.get_mem _ _ _)
    rw [if_pos (by simp only [hkP, decide_True, Bool.true_and, decide_eq_true_eq]; omega)]
    refine ⟨?_, ?_, ?_⟩ <;> dsimp only
    · rw [getGREASEPositions, greasePositionsFrom_append_singleton, ← getGREASEPositions,
        he.greasePositions, he.length, hg, positionHits_succ, if_pos hkP, if_pos rfl, Nat.zero_add]
    · rw [List.length_append, he.length, List.length_singleton]
    · omega
  · -- the next value is added
    rw [if_neg hkP] at hs
    have hv : st.valueIdx < values.length := by omega
    rw [if_neg (by simp [hkP]), dif_pos hv]
    refine ⟨?_, ?_, ?_⟩ <;> dsimp only
    · rw [getGREASEPositions, greasePositionsFrom_append_singleton, ← getGREASEPositions,
        he.greasePositions, hfree _ (List.get_mem _ _ _), positionHits_succ, if_neg hkP]; rfl
    · rw [List.length_append, he.length, List.length_singleton]
    · omega

include hfree hnd hcap hin in
/-- Every run of the loop up to `len(values) + len(positions)` keeps `ExactInv`. -/
theorem exactInv_loop {k : Nat} (hk : k ≤ values.length + positions.length) :
    ExactInv positions k (injectLoop values positions k) := by
  induction k with
  | zero => exact ⟨rfl, rfl, rfl⟩
  | succ k ih =>
    exact (ih (Nat.le_of_succ_le hk)).step hfree hnd hcap hin hk (injectInv_loop values positions k)

include hfree hnd hcap hin in
/-- The last iteration, `i = len(values) + len(positions)`, adds nothing: no position is that
large, and every value is taken. -/
theorem injectLoop_last :
    (injectLoop values positions (values.length + positions.length + 1)).result =
      (injectLoop values positions (values.length + positions.length)).result := by
  have he := exactInv_loop hfree hnd hcap hin (le_refl _)
  have hi := injectInv_loop values positions (values.length + positions.length)
  have hgi := he.greaseIdx
  rw [length_positionHits_of_nodup hnd hin] at hgi
  have hval := hi.valueIdx_eq
  have hnot : ((values.length + positions.length : Nat) : Int) ∉ positions := fun h => by
    have := (hin _ h).2
    omega
  rw [injectLoop, injectStep, any_position, if_neg (by simp only [hnot, decide_False,
    Bool.false_and, Bool.false_eq_true, not_false_eq_true]), dif_neg (by omega)]

end Exact

/-- The positions of GREASE in what `InjectGREASE` returns for a GREASE-free list: the requested
ones, in the order the loop meets them. -/
theorem getGREASEPositions_injectGREASE {values : List UInt16} {positions : List Int}
    (hne : values ≠ []) (hfree : ∀ v ∈ values, isGREASE v = false) (hnd : positions.Nodup)
    (hcap : positions.length ≤ greaseValues.length)
    (hin : ∀ p ∈ positions, 0 ≤ p ∧ p < values.length + positions.length) :
    getGREASEPositions (injectGREASE values positions) =
      positionHits positions (values.length + positions.length) := by
  unfold injectGREASE
  split_ifs with h
  · have hp : positions = [] :=
      List.length_eq_zero.mp (h.resolve_left (mt List.length_eq_zero.mp hne))
    subst hp
    simp [getGREASEPositions_of_free hfree, positionHits]
  · rw [injectLoop_last hfree hnd hcap hin]
    exact (exactInv_loop hfree hnd hcap hin (le_refl _)).greasePositions

/-- **Where `InjectGREASE` puts GREASE.** For a nonempty GREASE-free list and distinct positions,
at most sixteen, each below `len(values) + len(positions)`, the result has GREASE exactly at the
positions, which `GetGREASEPositions` lists ascending, and its other values are the list. An empty
list comes back empty, whatever the positions. For any list and positions the values are kept in
order and what is added is GREASE. -/
theorem injectGREASE_positions (values : List UInt16) (positions : List Int) :
    (values ≠ [] → (∀ v ∈ values, isGREASE v = false) → positions.Nodup →
        positions.length ≤ 16 → (∀ p ∈ positions, 0 ≤ p ∧ p < values.length + positions.length) →
        (getGREASEPositions (injectGREASE values positions)).map (fun i : Nat => (i : Int)) =
            positions.mergeSort (fun a b => decide (a ≤ b)) ∧
          filterGREASE (injectGREASE values positions) = values) ∧
      injectGREASE [] positions = [] ∧
      values.Sublist (injectGREASE values positions) ∧
      filterGREASE (injectGREASE values positions) = filterGREASE values := by
  refine ⟨fun hne hfree hnd hcap hin => ⟨?_, ?_⟩, rfl, sublist_injectGREASE _ _,
    filterGREASE_injectGREASE _ _⟩
  · rw [getGREASEPositions_injectGREASE hne hfree hnd hcap hin]
    exact List.eq_of_perm_of_sorted
      ((map_positionHits_perm hnd hin).trans (List.mergeSort_perm _ _).symm)
      (sorted_map_positionHits _ _) (List.sorted_mergeSort' _)
  · rw [filterGREASE_injectGREASE, filterGREASE_eq, List.filter_eq_self.mpr]
    simpa using hfree

/-- Two values, GREASE requested at 3 and at 0. -/
theorem injectGREASE_positions_three_zero :
    (getGREASEPositions (injectGREASE [1, 2] [3, 0])).map (fun i : Nat => (i : Int)) =
        [3, 0].mergeSort (fun a b => decide (a ≤ b)) ∧
      filterGREASE (injectGREASE [1, 2] [3, 0]) = [1, 2] :=
  (injectGREASE_positions [1, 2] [3, 0]).1 (by decide) (by decide) (by decide) (by decide)
    (by decide)

/-- No values and GREASE requested at 0, which is below `len(values) + len(positions) = 1`: the
early return gives back the empty list, with no GREASE. -/
theorem injectGREASE_nil_positions :
    ([0] : List Int).Nodup ∧ (∀ p ∈ ([0] : List Int), 0 ≤ p ∧ p < 0 + 1) ∧
      getGREASEPositions (injectGREASE [] [0]) = [] := by
  decide

/-! ## What is added, for any positions

`GreaseInv` follows the GREASE values the loop adds whatever the positions are: the guard
`greaseIdx < len(GREASEValues)` stops them at sixteen, so the index is never reduced modulo the
table, and one is added per distinct position met before that. -/

/-- What the loop has added after `k` iterations, for any positions: one GREASE value at each
position met while fewer than sixteen were added, `GREASEValues` in order. -/
structure GreaseInv (values : List UInt16) (positions : List Int) (k : Nat) (st : InjectState) :
    Prop where
  greaseIdx : st.greaseIdx = min greaseValues.length (positionHits positions k).length
  count : (st.result.filter isGREASE).length =
    ((values.take st.valueIdx).filter isGREASE).length + st.greaseIdx
  free : (∀ v ∈ values, isGREASE v = false) →
    st.result.filter isGREASE = greaseValues.take st.greaseIdx

/-- One iteration keeps `GreaseInv`. -/
theorem GreaseInv.step {values : List UInt16} {positions : List Int} {k : Nat}
    {st : InjectState} (hi : GreaseInv values positions k st) :
    GreaseInv values positions (k + 1) (injectStep values positions st k) := by
  have hs := length_positionHits_succ positions k
  have hg := hi.greaseIdx
  have hstay : ¬((k : Int) ∈ positions ∧ st.greaseIdx < greaseValues.length) →
      st.greaseIdx = min greaseValues.length (positionHits positions (k + 1)).length := by
    intro hinj
    rw [hs]
    split_ifs with hkP
    · have := Nat.le_of_not_lt fun hlt => hinj ⟨hkP, hlt⟩
      omega
    · omega
  unfold injectStep
  rw [any_position]
  split_ifs with hinj hv
  · -- a GREASE value is added
    simp only [Bool.and_eq_true, decide_eq_true_eq] at hinj
    obtain ⟨hkP, hlt⟩ := hinj
    rw [if_pos hkP] at hs
    have hmod : st.greaseIdx % greaseValues.length = st.greaseIdx := Nat.mod_eq_of_lt hlt
    have hgv : isGREASE (greaseValues.get ⟨st.greaseIdx % greaseValues.length,
        Nat.mod_lt _ (by decide)⟩) = true := isGREASE_of_mem (List.get_mem _ _ _)
    refine ⟨by dsimp only; omega, ?_, fun hfree => ?_⟩ <;> dsimp only
    · rw [List.filter_append, List.length_append, hi.count, List.filter_singleton, hgv]
      rfl
    · rw [List.filter_append, hi.free hfree, List.filter_singleton, hgv, List.take_succ,
        List.getElem?_eq_getElem hlt]
      simp only [hmod]
      rfl
  · -- the next value is added
    simp only [Bool.and_eq_true, decide_eq_true_eq] at hinj
    refine ⟨hstay hinj, ?_, fun hfree => ?_⟩ <;> dsimp only
    · rw [take_succ_of_lt hv, List.filter_append, List.filter_append, List.length_append,
        List.length_append, hi.count, List.filter_singleton]
      omega
    · rw [List.filter_append, hi.free hfree, List.filter_singleton,
        hfree _ (List.get_mem _ _ _), cond_false, List.append_nil]
  · -- nothing is added
    simp only [Bool.and_eq_true, decide_eq_true_eq] at hinj
    exact ⟨hstay hinj, hi.count, hi.free⟩

/-- Every run of the loop keeps `GreaseInv`. -/
theorem greaseInv_loop (values : List UInt16) (positions : List Int) (k : Nat) :
    GreaseInv values positions k (injectLoop values positions k) := by
  induction k with
  | zero => exact ⟨rfl, by simp [injectLoop], fun _ => rfl⟩
  | succ k ih => exact ih.step


/-- **What `InjectGREASE` adds, for any positions.** Into a nonempty list it adds one GREASE value
for each distinct position among its `len(values) + len(positions) + 1` iterations, sixteen at
most, and they are the first values of `GREASEValues` in order: positions repeated, negative or
past the last iteration add nothing, and no GREASE value is added twice. -/
theorem injectGREASE_adds (values : List UInt16) (positions : List Int) (hne : values ≠ []) :
    (injectGREASE values positions).length = values.length +
        min 16 (positionHits positions (values.length + positions.length + 1)).length ∧
      countGREASE (injectGREASE values positions) = countGREASE values +
        min 16 (positionHits positions (values.length + positions.length + 1)).length ∧
      ((∀ v ∈ values, isGREASE v = false) →
        (injectGREASE values positions).filter isGREASE =
          greaseValues.take
            (min 16 (positionHits positions (values.length + positions.length + 1)).length)) := by
  unfold injectGREASE
  split_ifs with h
  · have hp : positions = [] :=
      List.length_eq_zero.mp (h.resolve_left (mt List.length_eq_zero.mp hne))
    subst hp
    refine ⟨by simp [positionHits], by simp [positionHits], fun hfree => ?_⟩
    simpa [positionHits, List.filter_eq_nil_iff] using hfree
  · have hg := greaseInv_loop values positions (values.length + positions.length + 1)
    have hi := injectInv_loop values positions (values.length + positions.length + 1)
    have hval := valueIdx_injectLoop values positions
    have hgi := hg.greaseIdx
    refine ⟨?_, ?_, fun hfree => hgi ▸ hg.free hfree⟩
    · rw [hi.length, hval, hgi, Nat.add_comm]; rfl
    · rw [countGREASE_eq, countGREASE_eq, hg.count, hval, List.take_length, hgi]; rfl

/-- Two values, the position 0 twice, 7 (the last iteration), -1 and 3: three GREASE values. -/
theorem injectGREASE_adds_repeated :
    (injectGREASE [1, 2] [0, 0, 7, -1, 3]).length =
        [1, 2].length + min 16 (positionHits [0, 0, 7, -1, 3] (2 + 5 + 1)).length ∧
      countGREASE (injectGREASE [1, 2] [0, 0, 7, -1, 3]) =
        countGREASE [1, 2] + min 16 (positionHits [0, 0, 7, -1, 3] (2 + 5 + 1)).length ∧
      ((∀ v ∈ ([1, 2] : List UInt16), isGREASE v = false) →
        (injectGREASE [1, 2] [0, 0, 7, -1, 3]).filter isGREASE =
          greaseValues.take (min 16 (positionHits [0, 0, 7, -1, 3] (2 + 5 + 1)).length)) :=
  injectGREASE_adds [1, 2] [0, 0, 7, -1, 3] (by decide)

end TlsFingerprint.Fingerprint
