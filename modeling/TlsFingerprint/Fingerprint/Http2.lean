import TlsFingerprint.Go.Basic

/-!
# The Akamai HTTP/2 fingerprint

`GenerateHTTP2Fingerprint` prints an `HTTP2Fingerprint` as `SETTINGS|WINDOW_UPDATE|PRIORITY|ORDER`:
the settings as `k:v` pairs joined by `;` with the keys sorted (the map is ranged over in an
unspecified order, then `sort.Ints`), the window update and the priority's stream dependency (0
without a priority) in decimal, and the pseudo-header order (`m,a,s,p` when empty).
`ParseHTTP2Fingerprint` splits on `|` into exactly four parts and reads them back, skipping any
setting that is not `k:v` with a 16-bit key and a 32-bit value, reading a priority only when its
dependency is positive.

A Go map is a list of entries with distinct keys, its order the iteration order; two maps are
the same when they answer every key alike (`SettingsMap.Equiv`). The generated string does not
depend on the iteration order, because the keys are sorted (`settingsStr_equiv`).

`http2Fingerprint_roundTrip` is the round trip both ways: parsing a generated fingerprint gives
back its settings, window update and order, and its priority's dependency when positive;
printing a parsed canonical string gives the string back.
-/

namespace TlsFingerprint.Fingerprint

open Go

/-! ## Settings maps -/

/-- A Go `map[uint16]uint32`: its entries in iteration order, the keys distinct. -/
structure SettingsMap where
  entries : List (UInt16 × UInt32)
  nodup : (entries.map Prod.fst).Nodup

namespace SettingsMap

/-- `make(map[uint16]uint32)`. -/
def empty : SettingsMap := ⟨[], List.nodup_nil⟩

/-- The value of a key, `none` when the map has no entry for it. -/
def get? (m : SettingsMap) (k : UInt16) : Option UInt32 :=
  m.entries.lookup k

/-- The keys, in iteration order. -/
def keys (m : SettingsMap) : List UInt16 :=
  m.entries.map Prod.fst

/-- `m[k] = v`. -/
def insert (m : SettingsMap) (k : UInt16) (v : UInt32) : SettingsMap :=
  ⟨(k, v) :: m.entries.filter (·.1 ≠ k), by
    refine List.nodup_cons.mpr ⟨?_, m.nodup.sublist ((List.filter_sublist _).map _)⟩
    simp [List.mem_filter]⟩

/-- Two maps are the same Go map when they answer every key alike. -/
def Equiv (m m' : SettingsMap) : Prop :=
  ∀ k, m.get? k = m'.get? k

/-- The empty map has no setting. -/
@[simp] theorem get?_empty (k : UInt16) : SettingsMap.empty.get? k = none := rfl

/-- The empty map has no entry. -/
@[simp] theorem entries_empty : SettingsMap.empty.entries = [] := rfl

/-- The empty map has no key. -/
@[simp] theorem keys_empty : SettingsMap.empty.keys = [] := rfl

/-- Filtering out key `k` keeps the lookups of the other keys. -/
theorem lookup_filter_ne (l : List (UInt16 × UInt32)) {k k' : UInt16} (h : k' ≠ k) :
    (l.filter (·.1 ≠ k)).lookup k' = l.lookup k' := by
  induction l with
  | nil => rfl
  | cons p l ih =>
    rw [List.filter_cons]
    split_ifs with hp
    · rw [List.lookup_cons, List.lookup_cons, ih]
    · have hp : p.1 = k := by simpa using hp
      rw [ih, List.lookup_cons]
      have : (k' == p.1) = false := by simp [hp, h]
      rw [this]

/-- An assignment sets its key and keeps the others. -/
@[simp] theorem get?_insert (m : SettingsMap) (k k' : UInt16) (v : UInt32) :
    (m.insert k v).get? k' = if k' = k then some v else m.get? k' := by
  simp only [get?, insert, List.lookup_cons]
  split_ifs with h
  · simp [h]
  · have : (k' == k) = false := by simp [h]
    rw [this]
    exact lookup_filter_ne _ h

/-- The keys are the settings the map has. -/
theorem mem_keys {m : SettingsMap} {k : UInt16} : k ∈ m.keys ↔ (m.get? k).isSome := by
  rw [get?, List.lookup_isSome_iff, keys, List.mem_map]
  constructor
  · rintro ⟨p, hp, rfl⟩; exact ⟨p, hp, beq_self_eq_true _⟩
  · rintro ⟨p, hp, he⟩; exact ⟨p, hp, (eq_of_beq he).symm⟩

end SettingsMap

/-- The lookup of a graph: a listed key finds its value. -/
theorem lookup_map_graph (l : List UInt16) (f : UInt16 → UInt32) (k : UInt16) :
    (l.map fun k => (k, f k)).lookup k = if k ∈ l then some (f k) else none := by
  induction l with
  | nil => simp
  | cons a l ih =>
    rw [List.map_cons, List.lookup_cons, ih]
    by_cases h : k = a
    · subst h; simp
    · have : (k == a) = false := by simp [h]
      simp [this, h]

/-- In a list with distinct keys, a key finds the value listed with it. -/
theorem lookup_of_mem {l : List (UInt16 × UInt32)} (hnd : (l.map Prod.fst).Nodup)
    {k : UInt16} {v : UInt32} (h : (k, v) ∈ l) : l.lookup k = some v := by
  induction l with
  | nil => cases h
  | cons p l ih =>
    obtain ⟨hp, hnd⟩ := List.nodup_cons.mp hnd
    rcases List.mem_cons.mp h with rfl | h
    · exact List.lookup_cons_self
    · have hne : (k == p.1) = false := by
        simp only [beq_eq_false_iff_ne]
        rintro rfl; exact hp (List.mem_map.mpr ⟨_, h, rfl⟩)
      rw [List.lookup_cons, hne]
      exact ih hnd h

/-! ## Fingerprints -/

/-- `HTTP2Priority`. -/
structure HTTP2Priority where
  streamDependency : UInt32
  weight : UInt8
  exclusive : Bool
  deriving DecidableEq, Repr

/-- `HTTP2Fingerprint`; a nil `Priority` is `none`. -/
structure HTTP2Fingerprint where
  settings : SettingsMap
  windowUpdate : UInt32
  priority : Option HTTP2Priority
  headerTableSize : UInt32
  pseudoHeaderOrder : String

/-- The settings keys of `GenerateHTTP2Fingerprint`, as `int`s sorted by `sort.Ints`. -/
def settingsKeys (m : SettingsMap) : List Nat :=
  (m.keys.map UInt16.toNat).insertionSort (· ≤ ·)

/-- `fmt.Sprintf("%d:%d", k, fp.Settings[uint16(k)])`. -/
def settingPart (m : SettingsMap) (k : Nat) : String :=
  formatUint k 10 ++ ":" ++ formatUint ((m.get? (UInt16.ofNat k)).getD 0).toNat 10

/-- The settings part: the `k:v` pairs in key order, joined by `;`. -/
def settingsStr (m : SettingsMap) : String :=
  join ((settingsKeys m).map (settingPart m)) ';'

/-- The priority part: the stream dependency, `"0"` without a priority. -/
def priorityStr : Option HTTP2Priority → String
  | some p => formatUint p.streamDependency.toNat 10
  | none => "0"

/-- `GenerateHTTP2Fingerprint(fp)`. -/
def generateHTTP2Fingerprint (fp : HTTP2Fingerprint) : String :=
  let pseudoHeaderOrder := if fp.pseudoHeaderOrder = "" then "m,a,s,p" else fp.pseudoHeaderOrder
  settingsStr fp.settings ++ "|" ++ formatUint fp.windowUpdate.toNat 10 ++ "|" ++
    priorityStr fp.priority ++ "|" ++ pseudoHeaderOrder

/-- The errors of `ParseHTTP2Fingerprint`. -/
inductive ParseHTTP2Error
  /-- `invalid HTTP/2 fingerprint format: expected 4 parts, got %d` -/
  | format (got : Nat)
  deriving DecidableEq, Repr

/-- One `k:v` setting: a 16-bit key and a 32-bit value, `none` for a setting the loop skips. -/
def parseSetting (setting : String) : Option (UInt16 × UInt32) :=
  match split setting ':' with
  | [k, v] =>
    match parseUint k 10 16, parseUint v 10 32 with
    | .ok key, .ok value => some (UInt16.ofNat key, UInt32.ofNat value)
    | _, _ => none
  | _ => none

/-- One iteration of the settings loop: a setting that parses is stored. -/
def settingStep (m : SettingsMap) (setting : String) : SettingsMap :=
  match parseSetting setting with
  | some (k, v) => m.insert k v
  | none => m

/-- The settings loop, a later setting overriding an earlier one. -/
def parseSettings (settings : List String) : SettingsMap :=
  settings.foldl settingStep SettingsMap.empty

/-- The settings part of `ParseHTTP2Fingerprint`: the loop over its `;`-separated settings,
skipped when the part is empty. -/
def parseSettingsPart (settings : String) : SettingsMap :=
  if settings ≠ "" then parseSettings (split settings ';') else .empty

/-- The window update part: a 32-bit decimal, 0 when it does not parse. -/
def parseWindowUpdate (windowUpdate : String) : UInt32 :=
  match parseUint windowUpdate 10 32 with
  | .ok w => UInt32.ofNat w
  | .error _ => 0

/-- The priority part: a positive 32-bit stream dependency, with weight 255 and exclusive. -/
def parsePriority (priority : String) : Option HTTP2Priority :=
  match parseUint priority 10 32 with
  | .ok d => if d > 0 then some ⟨UInt32.ofNat d, 255, true⟩ else none
  | .error _ => none

/-- `ParseHTTP2Fingerprint(fingerprint)`. -/
def parseHTTP2Fingerprint (fingerprint : String) : Except ParseHTTP2Error HTTP2Fingerprint :=
  match split fingerprint '|' with
  | [settings, windowUpdate, priority, pseudoHeaderOrder] =>
    .ok { settings := parseSettingsPart settings
          windowUpdate := parseWindowUpdate windowUpdate
          priority := parsePriority priority
          headerTableSize := 0
          pseudoHeaderOrder := pseudoHeaderOrder }
  | parts => .error (.format parts.length)

/-! ## Generating then parsing -/

/-- The settings loop from a map `m`: a key takes the value of its last parsed setting, else its
value in `m`. -/
theorem get?_foldl_parseSetting (settings : List String) (m : SettingsMap) (k : UInt16) :
    (settings.foldl settingStep m).get? k =
      ((settings.filterMap parseSetting).reverse.lookup k).or (m.get? k) := by
  induction settings generalizing m with
  | nil => rfl
  | cons s rest ih =>
    rw [List.foldl_cons, ih]
    cases hs : parseSetting s with
    | none => simp [settingStep, hs]
    | some kv =>
      obtain ⟨k0, v0⟩ := kv
      simp only [settingStep, hs, List.filterMap_cons, List.reverse_cons, List.lookup_append,
        SettingsMap.get?_insert, Option.or_assoc, List.lookup_cons, List.lookup_nil]
      by_cases h : k = k0
      · simp [h]
      · have : (k == k0) = false := by simp [h]
        simp [h, this]

/-- A printed decimal holds neither separator of the Akamai format. -/
theorem formatUint_no_sep {c : Char} (hc : c = ':' ∨ c = ';' ∨ c = '|') (n : Nat) :
    c ∉ (formatUint n 10).data :=
  not_mem_formatUint (by rcases hc with rfl | rfl | rfl <;> decide) n

/-- The keys printed are those of the map. -/
theorem map_ofNat_settingsKeys (m : SettingsMap) :
    ((settingsKeys m).map UInt16.ofNat).Perm m.keys := by
  have := ((List.perm_insertionSort (· ≤ ·) (m.keys.map UInt16.toNat)).map UInt16.ofNat)
  rwa [List.map_map, show UInt16.ofNat ∘ UInt16.toNat = id from funext uint16_ofNat_toNat,
    List.map_id] at this

/-- Every settings key fits in 16 bits. -/
theorem lt_of_mem_settingsKeys {m : SettingsMap} {k : Nat} (h : k ∈ settingsKeys m) :
    k < 2 ^ 16 := by
  obtain ⟨a, -, rfl⟩ := List.mem_map.mp ((List.perm_insertionSort _ _).subset h)
  exact a.toNat_lt_size

/-- A printed setting parses back to its key and value. -/
theorem parseSetting_settingPart (m : SettingsMap) {k : Nat} (hk : k < 2 ^ 16) :
    parseSetting (settingPart m k) = some (UInt16.ofNat k, (m.get? (UInt16.ofNat k)).getD 0) := by
  have hsplit : split (settingPart m k) ':' =
      [formatUint k 10, formatUint ((m.get? (UInt16.ofNat k)).getD 0).toNat 10] := by
    rw [settingPart, show (":" : String) = ⟨[':']⟩ from rfl, ← join_two]
    exact split_join (by simp) (by simp [formatUint_no_sep])
  have hv : ((m.get? (UInt16.ofNat k)).getD 0).toNat < 2 ^ 32 := UInt32.toNat_lt_size _
  simp only [parseSetting, hsplit, parseUint_formatUint hk, parseUint_formatUint hv,
    uint32_ofNat_toNat]

/-- **Parsing the printed settings gives back the map**, whatever its iteration order. -/
theorem get?_parseSettings_settingParts (m : SettingsMap) (k : UInt16) :
    (parseSettings ((settingsKeys m).map (settingPart m))).get? k = m.get? k := by
  have hfm : ((settingsKeys m).map (settingPart m)).filterMap parseSetting =
      ((settingsKeys m).map UInt16.ofNat).map fun k => (k, (m.get? k).getD 0) := by
    rw [List.filterMap_map, List.map_map, ← List.filterMap_eq_map]
    exact List.filterMap_congr fun n hn => parseSetting_settingPart m (lt_of_mem_settingsKeys hn)
  rw [parseSettings, get?_foldl_parseSetting, hfm, ← List.map_reverse, lookup_map_graph]
  simp only [List.mem_reverse, (map_ofNat_settingsKeys m).mem_iff, SettingsMap.mem_keys,
    SettingsMap.get?_empty, Option.or_none]
  cases m.get? k <;> rfl


/-- The printed settings hold no `|`, and parse back to the loop over the printed pairs. -/
theorem settingsStr_spec (m : SettingsMap) :
    '|' ∉ (settingsStr m).data ∧
      parseSettingsPart (settingsStr m) = parseSettings ((settingsKeys m).map (settingPart m)) := by
  have hpart : ∀ k, ∀ c ∈ (settingPart m k).data, c = ':' ∨ IsDigit c := fun k c hc => by
    simp only [settingPart, String.data_append, List.mem_append] at hc
    rcases hc with (hc | hc) | hc
    · exact .inr ((formatUint_isDecimal _).2 c hc)
    · exact .inl (by simpa using hc)
    · exact .inr ((formatUint_isDecimal _).2 c hc)
  refine ⟨fun h => ?_, ?_⟩
  · rcases mem_join h with h | ⟨e, he, h⟩
    · cases h
    · obtain ⟨k, -, rfl⟩ := List.mem_map.mp he
      rcases hpart k _ h with h | h
      · cases h
      · exact absurd h (by decide)
  · unfold parseSettingsPart settingsStr
    cases hks : settingsKeys m with
    | nil => rfl
    | cons k ks =>
      have hne : ∀ e ∈ (k :: ks).map (settingPart m), e ≠ "" := fun e he hempty => by
        obtain ⟨k', -, rfl⟩ := List.mem_map.mp he
        have := congrArg String.length hempty
        simp [settingPart, String.length_append] at this
        exact absurd this.1.2 (by decide)
      rw [if_pos (join_ne_empty (by simp) hne), split_join (by simp)]
      intro e he hsemi
      obtain ⟨k', -, rfl⟩ := List.mem_map.mp he
      rcases hpart k' _ hsemi with h | h
      · cases h
      · exact absurd h (by decide)

/-- The priority part parses back to the dependency when it is positive. -/
theorem parsePriority_priorityStr (priority : Option HTTP2Priority) :
    (parsePriority (priorityStr priority)).map HTTP2Priority.streamDependency =
      (priority.map HTTP2Priority.streamDependency).filter (· != 0) := by
  cases priority with
  | none => rfl
  | some p =>
    have hlt : p.streamDependency.toNat < 2 ^ 32 := UInt32.toNat_lt_size _
    have h0 : 0 < p.streamDependency.toNat ↔ p.streamDependency ≠ 0 :=
      ⟨fun h e => by simp [e] at h, fun h => Nat.pos_of_ne_zero fun e =>
        h (UInt32.toNat.inj (show p.streamDependency.toNat = (0 : UInt32).toNat from e))⟩
    simp only [parsePriority, priorityStr, parseUint_formatUint hlt]
    by_cases h : p.streamDependency = 0 <;> simp [h, h0, Option.filter, uint32_ofNat_toNat]

/-- What `ParseHTTP2Fingerprint` reads back of a generated fingerprint with a nonempty pseudo-header
order free of `|`: the same settings, window update and order, and the priority's stream dependency
unless it was 0. -/
theorem parseHTTP2Fingerprint_generate (fp : HTTP2Fingerprint) (hne : fp.pseudoHeaderOrder ≠ "")
    (hbar : '|' ∉ fp.pseudoHeaderOrder.data) :
    ∃ fp', parseHTTP2Fingerprint (generateHTTP2Fingerprint fp) = .ok fp' ∧
      fp'.settings.Equiv fp.settings ∧ fp'.windowUpdate = fp.windowUpdate ∧
      fp'.priority.map HTTP2Priority.streamDependency =
        (fp.priority.map HTTP2Priority.streamDependency).filter (· != 0) ∧
      fp'.pseudoHeaderOrder = fp.pseudoHeaderOrder := by
  obtain ⟨hs, hsettings⟩ := settingsStr_spec fp.settings
  have hdig : ∀ n, '|' ∉ (formatUint n 10).data := formatUint_no_sep (by simp)
  have hsplit : split (generateHTTP2Fingerprint fp) '|' =
      [settingsStr fp.settings, formatUint fp.windowUpdate.toNat 10, priorityStr fp.priority,
        fp.pseudoHeaderOrder] := by
    rw [generateHTTP2Fingerprint, if_neg hne, show ("|" : String) = ⟨['|']⟩ from rfl,
      ← join_four]
    refine split_join (by simp) ?_
    simp only [List.mem_cons, List.mem_singleton, List.not_mem_nil, or_false, forall_eq_or_imp,
      forall_eq]
    refine ⟨hs, hdig _, ?_, hbar⟩
    cases fp.priority <;> simp [priorityStr, hdig]
  have hw : fp.windowUpdate.toNat < 2 ^ 32 := UInt32.toNat_lt_size _
  refine ⟨⟨parseSettingsPart (settingsStr fp.settings),
    parseWindowUpdate (formatUint fp.windowUpdate.toNat 10), parsePriority (priorityStr fp.priority),
    0, fp.pseudoHeaderOrder⟩, by rw [parseHTTP2Fingerprint, hsplit], fun k => ?_, ?_,
    parsePriority_priorityStr _, rfl⟩
  · simp only [hsettings, get?_parseSettings_settingParts]
  · simp only [parseWindowUpdate, parseUint_formatUint hw, uint32_ofNat_toNat]


/-! ## Parsing then generating -/

/-- One canonical setting `k:v`: canonical decimals, a 16-bit key and a 32-bit value. -/
def CanonicalSetting (kv : String × String) : Prop :=
  IsCanonicalDecimal kv.1 ∧ decimalValue kv.1.data < 2 ^ 16 ∧
    IsCanonicalDecimal kv.2 ∧ decimalValue kv.2.data < 2 ^ 32

/-- A canonical Akamai string: canonical settings joined by `;` with strictly ascending keys, a
canonical 32-bit window update and priority, and a non-empty order without `|`. -/
def IsCanonicalAkamai (s : String) : Prop :=
  ∃ (settings : List (String × String)) (windowUpdate priority order : String),
    s = join [join (settings.map fun kv => kv.1 ++ ":" ++ kv.2) ';', windowUpdate, priority, order]
      '|' ∧
    (∀ kv ∈ settings, CanonicalSetting kv) ∧
    (settings.map fun kv => decimalValue kv.1.data).Sorted (· < ·) ∧
    IsCanonicalDecimal windowUpdate ∧ decimalValue windowUpdate.data < 2 ^ 32 ∧
    IsCanonicalDecimal priority ∧ decimalValue priority.data < 2 ^ 32 ∧
    order ≠ "" ∧ '|' ∉ order.data

/-- A canonical decimal holds none of the Akamai separators. -/
theorem canonical_no_sep {s : String} (h : IsCanonicalDecimal s) {c : Char}
    (hc : c = ':' ∨ c = ';' ∨ c = '|') : c ∉ s.data := fun hm => by
  have := h.1.2 c hm
  rcases hc with rfl | rfl | rfl <;> exact absurd this (by decide)

/-- The value a canonical setting stores. -/
def settingValue (kv : String × String) : UInt16 × UInt32 :=
  (UInt16.ofNat (decimalValue kv.1.data), UInt32.ofNat (decimalValue kv.2.data))

/-- A canonical `id:value` pair parses to its setting. -/
theorem parseSetting_canonical {kv : String × String} (h : CanonicalSetting kv) :
    parseSetting (kv.1 ++ ":" ++ kv.2) = some (settingValue kv) := by
  obtain ⟨hk, hkb, hv, hvb⟩ := h
  have hsplit : split (kv.1 ++ ":" ++ kv.2) ':' = [kv.1, kv.2] := by
    rw [show (":" : String) = ⟨[':']⟩ from rfl, ← join_two]
    exact split_join (by simp) (by simp [canonical_no_sep hk, canonical_no_sep hv])
  simp only [parseSetting, hsplit, parseUint_canonical hk hkb, parseUint_canonical hv hvb,
    settingValue]

/-- Settings with distinct keys are all kept: the loop's entries are the parsed settings, the last
first, before the entries it started from. -/
theorem entries_foldl_settingStep (ss : List String) (m : SettingsMap)
    (hnd : ((ss.filterMap parseSetting).map Prod.fst ++ m.keys).Nodup) :
    (ss.foldl settingStep m).entries = (ss.filterMap parseSetting).reverse ++ m.entries := by
  induction ss generalizing m with
  | nil => rfl
  | cons s rest ih =>
    rw [List.foldl_cons]
    cases hs : parseSetting s with
    | none =>
      simp only [List.filterMap_cons, hs] at hnd ⊢
      rw [show settingStep m s = m by simp [settingStep, hs]]
      exact ih m hnd
    | some kv =>
      obtain ⟨k, v⟩ := kv
      simp only [List.filterMap_cons, hs] at hnd ⊢
      have hk : k ∉ m.keys := fun h => by
        simp only [List.map_cons, List.cons_append, List.nodup_cons, List.mem_append] at hnd
        exact hnd.1 (.inr h)
      have hstep : settingStep m s = ⟨(k, v) :: m.entries, by
          simpa [SettingsMap.keys] using List.nodup_cons.mpr ⟨hk, m.nodup⟩⟩ := by
        simp only [settingStep, hs, SettingsMap.insert, SettingsMap.mk.injEq, List.cons.injEq,
          true_and]
        refine List.filter_eq_self.mpr fun p hp => ?_
        simp only [ne_eq, decide_eq_true_eq]
        rintro rfl; exact hk (List.mem_map.mpr ⟨p, hp, rfl⟩)
      rw [hstep, ih]
      · simp
      · simpa [SettingsMap.keys, List.nodup_middle] using hnd


/-- **Printing parsed canonical settings gives them back.** -/
theorem settingsStr_parseSettings {settings : List (String × String)}
    (hc : ∀ kv ∈ settings, CanonicalSetting kv)
    (hs : (settings.map fun kv => decimalValue kv.1.data).Sorted (· < ·)) :
    settingsStr (parseSettings (settings.map fun kv => kv.1 ++ ":" ++ kv.2)) =
      join (settings.map fun kv => kv.1 ++ ":" ++ kv.2) ';' := by
  have hfm : (settings.map fun kv => kv.1 ++ ":" ++ kv.2).filterMap parseSetting =
      settings.map settingValue := by
    rw [List.filterMap_map, ← List.filterMap_eq_map]
    exact List.filterMap_congr fun kv hkv => parseSetting_canonical (hc kv hkv)
  have hkeys : (settings.map settingValue).map Prod.fst =
      (settings.map fun kv => decimalValue kv.1.data).map UInt16.ofNat := by
    simp only [List.map_map]; rfl
  have hlt : ∀ n ∈ settings.map fun kv => decimalValue kv.1.data, n < 2 ^ 16 := by
    simp only [List.mem_map]
    rintro _ ⟨kv, hkv, rfl⟩; exact (hc kv hkv).2.1
  have hnd : ((settings.map settingValue).map Prod.fst).Nodup := by
    rw [hkeys]
    refine hs.nodup.map_on fun a ha b hb hab => ?_
    rw [← UInt16.toNat_ofNat_of_lt (hlt a ha), hab, UInt16.toNat_ofNat_of_lt (hlt b hb)]
  have hentries : (parseSettings (settings.map fun kv => kv.1 ++ ":" ++ kv.2)).entries =
      (settings.map settingValue).reverse := by
    rw [parseSettings, entries_foldl_settingStep _ _ (by simpa [hfm] using hnd), hfm,
      SettingsMap.entries_empty, List.append_nil]
  set M := parseSettings (settings.map fun kv => kv.1 ++ ":" ++ kv.2)
  have hsk : settingsKeys M = settings.map fun kv => decimalValue kv.1.data := by
    refine List.eq_of_perm_of_sorted ((List.perm_insertionSort _ _).trans ?_)
      (List.sorted_insertionSort _ _) (hs.imp le_of_lt)
    rw [SettingsMap.keys, hentries, List.map_reverse, List.map_reverse, hkeys, List.map_map]
    refine (List.reverse_perm _).trans (List.Perm.of_eq ?_)
    exact (List.map_congr_left fun n hn => UInt16.toNat_ofNat_of_lt (hlt n hn)).trans
      (List.map_id _)
  have hpart : ∀ kv ∈ settings, settingPart M (decimalValue kv.1.data) = kv.1 ++ ":" ++ kv.2 := by
    intro kv hkv
    obtain ⟨hk, hkb, hv, hvb⟩ := hc kv hkv
    have hget : M.get? (UInt16.ofNat (decimalValue kv.1.data)) =
        some (UInt32.ofNat (decimalValue kv.2.data)) := by
      refine lookup_of_mem ?_ ?_
      · rw [hentries, List.map_reverse]; exact List.nodup_reverse.mpr hnd
      · rw [hentries, List.mem_reverse]; exact List.mem_map_of_mem settingValue hkv
    rw [settingPart, hget, Option.getD_some, UInt32.toNat_ofNat_of_lt hvb,
      formatUint_decimalValue hk, formatUint_decimalValue hv]
  rw [settingsStr, hsk, List.map_map]
  exact congrArg (join · ';') (List.map_congr_left hpart)

/-- A canonical setting is digits around one `:`. -/
theorem canonicalSetting_chars {kv : String × String} (h : CanonicalSetting kv) :
    ∀ c ∈ (kv.1 ++ ":" ++ kv.2).data, c = ':' ∨ IsDigit c := fun c hc => by
  simp only [String.data_append, List.mem_append] at hc
  rcases hc with (hc | hc) | hc
  · exact .inr (h.1.1.2 c hc)
  · exact .inl (by simpa using hc)
  · exact .inr (h.2.2.1.1.2 c hc)

/-- The settings part of a canonical string parses as the loop over its settings. -/
theorem parseSettingsPart_canonical {settings : List (String × String)}
    (hc : ∀ kv ∈ settings, CanonicalSetting kv) :
    parseSettingsPart (join (settings.map fun kv => kv.1 ++ ":" ++ kv.2) ';') =
      parseSettings (settings.map fun kv => kv.1 ++ ":" ++ kv.2) := by
  unfold parseSettingsPart
  cases settings with
  | nil => rfl
  | cons kv rest =>
    have hne : ∀ e ∈ (kv :: rest).map (fun kv => kv.1 ++ ":" ++ kv.2), e ≠ "" := by
      simp only [List.mem_map]
      rintro _ ⟨kv', -, rfl⟩ hempty
      have := congrArg String.length hempty
      simp [String.length_append] at this
      exact absurd this.1.2 (by decide)
    rw [if_pos (join_ne_empty (by simp) hne), split_join (by simp)]
    simp only [List.mem_map]
    rintro _ ⟨kv', hkv', rfl⟩ hsemi
    rcases canonicalSetting_chars (hc kv' hkv') _ hsemi with h | h
    · cases h
    · exact absurd h (by decide)

/-- A canonical window update prints back as itself. -/
theorem formatUint_parseWindowUpdate {w : String} (h : IsCanonicalDecimal w)
    (hb : decimalValue w.data < 2 ^ 32) : formatUint (parseWindowUpdate w).toNat 10 = w := by
  rw [parseWindowUpdate, parseUint_canonical h hb]
  simp only [UInt32.toNat_ofNat_of_lt hb, formatUint_decimalValue h]

/-- A canonical priority prints back as itself. -/
theorem priorityStr_parsePriority {p : String} (h : IsCanonicalDecimal p)
    (hb : decimalValue p.data < 2 ^ 32) : priorityStr (parsePriority p) = p := by
  rw [parsePriority, parseUint_canonical h hb]
  dsimp only
  split_ifs with hpos
  · simp only [priorityStr, UInt32.toNat_ofNat_of_lt hb, formatUint_decimalValue h]
  · rw [← formatUint_decimalValue h, show decimalValue p.data = 0 by omega]; rfl

/-- **Printing a parsed canonical string gives it back.** -/
theorem generate_parseHTTP2Fingerprint {s : String} (h : IsCanonicalAkamai s) :
    ∃ fp, parseHTTP2Fingerprint s = .ok fp ∧ generateHTTP2Fingerprint fp = s := by
  obtain ⟨settings, w, p, o, rfl, hc, hs, hw, hwb, hp, hpb, hne, hbar⟩ := h
  have hS : '|' ∉ (join (settings.map fun kv => kv.1 ++ ":" ++ kv.2) ';').data := fun hm => by
    rcases mem_join hm with h | ⟨e, he, h⟩
    · cases h
    · obtain ⟨kv, hkv, rfl⟩ := List.mem_map.mp he
      rcases canonicalSetting_chars (hc kv hkv) _ h with h | h
      · cases h
      · exact absurd h (by decide)
  have hsplit : split (join [join (settings.map fun kv => kv.1 ++ ":" ++ kv.2) ';', w, p, o] '|')
      '|' = [join (settings.map fun kv => kv.1 ++ ":" ++ kv.2) ';', w, p, o] :=
    split_join (by simp) (by simp [hS, canonical_no_sep hw, canonical_no_sep hp, hbar])
  refine ⟨_, by rw [parseHTTP2Fingerprint, hsplit], ?_⟩
  rw [generateHTTP2Fingerprint, if_neg hne, join_four, parseSettingsPart_canonical hc,
    settingsStr_parseSettings hc hs, formatUint_parseWindowUpdate hw hwb,
    priorityStr_parsePriority hp hpb]

/-! ## The round trip -/

/-- **The generated string does not depend on the map's iteration order**: maps that answer
every key alike print the same settings. -/
theorem settingsStr_equiv {m m' : SettingsMap} (h : m.Equiv m') :
    settingsStr m = settingsStr m' := by
  have hperm : (m.keys.map UInt16.toNat).Perm (m'.keys.map UInt16.toNat) := by
    refine (List.perm_ext_iff_of_nodup (m.nodup.map fun _ _ => UInt16.toNat.inj)
      (m'.nodup.map fun _ _ => UInt16.toNat.inj)).mpr fun n => ?_
    rw [List.mem_map, List.mem_map]
    exact exists_congr fun k => and_congr_left fun _ => by
      show k ∈ m.keys ↔ k ∈ m'.keys
      rw [SettingsMap.mem_keys, SettingsMap.mem_keys, h k]
  have hkeys : settingsKeys m = settingsKeys m' :=
    List.eq_of_perm_of_sorted ((List.perm_insertionSort _ _).trans
      (hperm.trans (List.perm_insertionSort _ _).symm)) (List.sorted_insertionSort _ _)
      (List.sorted_insertionSort _ _)
  rw [settingsStr, settingsStr, hkeys]
  exact congrArg (join · ';') (List.map_congr_left fun k _ => by rw [settingPart, settingPart, h])

/-- Two maps that hold settings 3 and 6 in the two iteration orders print alike. -/
theorem settingsStr_equiv_swap :
    settingsStr ⟨[(3, 100), (6, 262144)], by decide⟩ =
      settingsStr ⟨[(6, 262144), (3, 100)], by decide⟩ :=
  settingsStr_equiv fun k => by
    by_cases h3 : k = 3
    · subst h3; rfl
    · by_cases h6 : k = 6
      · subst h6; rfl
      · simp only [SettingsMap.get?, List.lookup_cons, beq_false_of_ne h3, beq_false_of_ne h6,
          List.lookup_nil]

/-- **The Akamai round trip.** A fingerprint with a non-empty pseudo-header order free of `|`
prints to a string that parses back to the same settings map, window update and order, with a
priority exactly when it had one of positive dependency. A canonical string parses to a
fingerprint that prints back to it. -/
theorem http2Fingerprint_roundTrip :
    (∀ fp : HTTP2Fingerprint, fp.pseudoHeaderOrder ≠ "" → '|' ∉ fp.pseudoHeaderOrder.data →
      ∃ fp', parseHTTP2Fingerprint (generateHTTP2Fingerprint fp) = .ok fp' ∧
        fp'.settings.Equiv fp.settings ∧ fp'.windowUpdate = fp.windowUpdate ∧
        fp'.priority.map HTTP2Priority.streamDependency =
          (fp.priority.map HTTP2Priority.streamDependency).filter (· != 0) ∧
        fp'.pseudoHeaderOrder = fp.pseudoHeaderOrder) ∧
    (∀ s, IsCanonicalAkamai s →
      ∃ fp, parseHTTP2Fingerprint s = .ok fp ∧ generateHTTP2Fingerprint fp = s) :=
  ⟨parseHTTP2Fingerprint_generate, fun _ => generate_parseHTTP2Fingerprint⟩

/-- Chrome's settings, window update and order with no priority: the fingerprint parses back, and
its canonical string parses to a fingerprint that prints back to it. -/
theorem http2Fingerprint_roundTrip_chrome :
    (∃ fp', parseHTTP2Fingerprint (generateHTTP2Fingerprint
          ⟨⟨[(1, 65536), (4, 6291456)], by decide⟩, 15663105, none, 65536, "m,a,s,p"⟩) = .ok fp' ∧
        fp'.settings.Equiv ⟨[(1, 65536), (4, 6291456)], by decide⟩ ∧ fp'.windowUpdate = 15663105 ∧
        fp'.priority.map HTTP2Priority.streamDependency = none ∧ fp'.pseudoHeaderOrder = "m,a,s,p") ∧
    ∃ fp, parseHTTP2Fingerprint "1:65536;4:6291456|15663105|0|m,a,s,p" = .ok fp ∧
      generateHTTP2Fingerprint fp = "1:65536;4:6291456|15663105|0|m,a,s,p" :=
  have hset : ∀ kv ∈ [("1", "65536"), ("4", "6291456")], CanonicalSetting kv := by
    simp only [List.mem_cons, List.mem_singleton, List.not_mem_nil, or_false]
    rintro kv (rfl | rfl) <;> exact ⟨by decide, by decide, by decide, by decide⟩
  ⟨http2Fingerprint_roundTrip.1 _ (by decide) (by decide),
    http2Fingerprint_roundTrip.2 _ ⟨[("1", "65536"), ("4", "6291456")], "15663105", "0", "m,a,s,p",
      by decide, hset, by decide, by decide, by decide, by decide, by decide, by decide, by decide⟩⟩

end TlsFingerprint.Fingerprint
