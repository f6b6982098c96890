import TlsFingerprint.Cache.Global
import TlsFingerprint.Fingerprint.Json
import TlsFingerprint.Go.Sha256

/-!
# Spec files through the global cache: `ParseClientHelloJSON`

`ParseClientHelloJSON(path)` looks the file up in the global cache under `CacheKeyForFile(path)`,
the SHA-256 of `file:<path>:<mtime>` with the modification time in whole Unix seconds. On a miss it
reads, decodes and builds the file, and stores the spec under that key.

A cached spec is returned for as long as the key stays the same. So the cache is transparent
exactly when every rewrite of the file gives it a key that no earlier version had
(`parseClientHelloJSON_transparent`, over every run of rewrites and calls, from the invariant
`FileWorld.Coherent`). A rewrite within the same second keeps the key, and the next call returns
the spec of the content before it (`parseClientHelloJSON_same_second`).

Every cache key is a namespace, a colon and a hex digest, so the keys of JA3s, JA4s, profiles and
files never collide, whatever the hash (`cacheKeys_nodup`).

The file is its modification time in nanoseconds and what `json.Unmarshal` makes of its bytes.
The hash is a parameter; `Go.sum256` is the one the program calls.
-/

namespace TlsFingerprint.Cache

open Go Utls Fingerprint

/-! ## Cache keys -/

section Keys

variable (sha256 : List UInt8 → Digest)

/-- The cache keys' common form: a namespace, a colon, and the hex SHA-256 of the data. -/
def namespacedKey (ns data : String) : String :=
  ns ++ ":" ++ hexEncode (sha256 (bytes data)).bytes

/-- `CacheKeyForJA3(ja3)`. -/
def cacheKeyForJA3 (ja3 : String) : String := namespacedKey sha256 "ja3" ja3

/-- `CacheKeyForJA4(ja4)`. -/
def cacheKeyForJA4 (ja4 : String) : String := namespacedKey sha256 "ja4" ja4

/-- `CacheKeyForProfile(profileName, serverName)`. -/
def cacheKeyForProfile (profileName serverName : String) : String :=
  namespacedKey sha256 "profile" ("profile:" ++ profileName ++ ":" ++ serverName)

/-- The key `CacheKeyForFile` gives a file version: its path and its modification time in whole
Unix seconds (`ModTime().Unix()`). -/
def fileKey (path : String) (modTime : Nat) : String :=
  namespacedKey sha256 "file" ("file:" ++ path ++ ":" ++ formatUint (modTime / 10 ^ 9) 10)

/-- A key's namespace is what comes before its first colon. -/
theorem takeWhile_namespacedKey (ns data : String) (h : ':' ∉ ns.data) :
    (namespacedKey sha256 ns data).data.takeWhile (· ≠ ':') = ns.data := by
  have key : ∀ l rest, ':' ∉ l → (l ++ ':' :: rest).takeWhile (· ≠ ':') = l := by
    intro l rest hl
    induction l with
    | nil => simp
    | cons c l ih =>
      have hc : c ≠ ':' := fun hc => hl (hc ▸ List.mem_cons_self _ _)
      rw [List.cons_append, List.takeWhile_cons_of_pos (by simpa using hc),
        ih fun h => hl (List.mem_cons_of_mem _ h)]
  simpa [namespacedKey] using key ns.data (hexEncode (sha256 (bytes data)).bytes).data h

/-- Keys of two namespaces never collide, whatever the hash. -/
theorem namespacedKey_ne {ns ns' : String} (data data' : String) (hne : ns ≠ ns')
    (h : ':' ∉ ns.data) (h' : ':' ∉ ns'.data) :
    namespacedKey sha256 ns data ≠ namespacedKey sha256 ns' data' := fun heq =>
  hne (String.ext (by
    rw [← takeWhile_namespacedKey sha256 ns data h, ← takeWhile_namespacedKey sha256 ns' data' h',
      heq]))

/-- A spec file's cache key is never empty. -/
theorem fileKey_ne_empty (path : String) (modTime : Nat) : fileKey sha256 path modTime ≠ "" :=
  fun h => by simpa [fileKey, namespacedKey] using congrArg String.data h

/-! ## `ParseClientHelloJSON` -/

/-- What `os.Stat` and `os.ReadFile` see of a file: what `json.Unmarshal` makes of its bytes, and
its modification time in nanoseconds since the epoch. -/
structure FileInfo where
  content : Except String ClientHelloJSON
  modTime : Nat

/-- `CacheKeyForFile(filePath)`; a missing file is the `os.Stat` error. -/
def cacheKeyForFile (files : List (String × FileInfo)) (path : String) : Except String String :=
  match files.lookup path with
  | some info => .ok (fileKey sha256 path info.modTime)
  | none => .error ("stat " ++ path ++ ": no such file or directory")

/-- **Keys of the four kinds never collide**, whatever the hash: the keys of a JA3, a JA4, a
profile and a file are four different strings, so an entry stored under one kind is never found
under another. -/
theorem cacheKeys_nodup (ja3 ja4 profileName serverName : String) (files : List (String × FileInfo))
    (path : String) {key : String} (hkey : cacheKeyForFile sha256 files path = .ok key) :
    [cacheKeyForJA3 sha256 ja3, cacheKeyForJA4 sha256 ja4,
      cacheKeyForProfile sha256 profileName serverName, key].Nodup := by
  obtain ⟨modTime, rfl⟩ : ∃ modTime, key = fileKey sha256 path modTime := by
    unfold cacheKeyForFile at hkey
    split at hkey <;> cases hkey
    exact ⟨_, rfl⟩
  simp only [List.nodup_cons, List.mem_cons, List.mem_singleton, not_or, List.not_mem_nil,
    not_false_eq_true, List.nodup_nil, and_true]
  refine ⟨⟨?_, ?_, ?_⟩, ⟨?_, ?_⟩, ?_⟩ <;>
    exact namespacedKey_ne sha256 _ _ (by decide) (by decide) (by decide)

end Keys

/-- A JA3, a JA4, a profile and a file present in the file system get four different keys. -/
theorem cacheKeys_nodup_sum256 :
    [cacheKeyForJA3 sum256 "771,4865,0-16,29,0",
      cacheKeyForJA4 sum256 "t13d0102_8daaf6152771_e5627efa2ab1",
      cacheKeyForProfile sum256 "chrome_120" "example.com",
      fileKey sum256 "chrome.json" 1700000000000000000].Nodup :=
  cacheKeys_nodup sum256 _ _ _ _ [("chrome.json", ⟨.error "", 1700000000000000000⟩)]
    "chrome.json" rfl

/-- `os.ReadFile`, `json.Unmarshal` and `BuildClientHelloSpecFromJSON`, with the errors
`ParseClientHelloJSON` wraps. -/
def readSpec (files : List (String × FileInfo)) (path : String) : Except String ClientHelloSpec :=
  match files.lookup path with
  | none =>
    .error ("failed to read ClientHello JSON file: open " ++ path ++ ": no such file or directory")
  | some info =>
    match info.content with
    | .error e => .error ("failed to parse ClientHello JSON: " ++ e)
    | .ok chJSON => .ok (buildClientHelloSpecFromJSON chJSON)

/-- The cache lookup of `ParseClientHelloJSON`: `GetGlobalCache()`, then `Get(key)` on it. -/
def cachedSpec (g : Globals) (key : String) (now : Nat) : Option ClientHelloSpec × Globals :=
  match getGlobalCache g now with
  | (some p, g) => let (r, g) := g.withCache p fun c => c.get key now; (r.bind id, g)
  | (none, g) => (none, g)

/-- The cache store of `ParseClientHelloJSON`: `GetGlobalCache()`, then `Set(key, spec)` on it. -/
def storeSpec (g : Globals) (key : String) (spec : ClientHelloSpec) (now : Nat) : Globals :=
  match getGlobalCache g now with
  | (some p, g) => (g.withCache p fun c => ((), c.set key (some spec) now)).2
  | (none, g) => g

section Parse

variable (sha256 : List UInt8 → Digest)

/-- `ParseClientHelloJSON(filePath)` at `now`. -/
def parseClientHelloJSON (files : List (String × FileInfo)) (g : Globals) (path : String)
    (now : Nat) : Except String ClientHelloSpec × Globals :=
  let keyResult := cacheKeyForFile sha256 files path
  let cacheKey := match keyResult with
    | .ok key => key
    | .error _ => ""
  let (cached, g) := match keyResult with
    | .ok key => cachedSpec g key now
    | .error _ => (none, g)
  match cached with
  | some spec => (.ok spec, g)
  | none =>
    match readSpec files path with
    | .error e => (.error e, g)
    | .ok spec => (.ok spec, if cacheKey ≠ "" then storeSpec g cacheKey spec now else g)

/-- A step of a run on one spec file: a rewrite, with the content and modification time it
leaves, or a `ParseClientHelloJSON` call at `now`. -/
inductive FileOp
  | rewrite (content : Except String ClientHelloJSON) (modTime : Nat)
  | parse (now : Nat)

/-- The spec file at the path of the run, and the package variables. -/
structure FileWorld where
  file : FileInfo
  globals : Globals

/-- What the calls of a run on the file at `path` return. -/
def FileWorld.run (path : String) (w : FileWorld) : List FileOp → List (Except String ClientHelloSpec)
  | [] => []
  | .rewrite content modTime :: ops => FileWorld.run path ⟨⟨content, modTime⟩, w.globals⟩ ops
  | .parse now :: ops =>
    let (r, g) := parseClientHelloJSON sha256 [(path, w.file)] w.globals path now
    r :: FileWorld.run path ⟨w.file, g⟩ ops

/-- What the calls return when every call reads the file: the build of the current content. -/
def referenceRun (path : String) (file : FileInfo) : List FileOp → List (Except String ClientHelloSpec)
  | [] => []
  | .rewrite content modTime :: ops => referenceRun path ⟨content, modTime⟩ ops
  | .parse _ :: ops => readSpec [(path, file)] path :: referenceRun path file ops

/-- Every rewrite gives the file a key that none of `used`, nor an earlier rewrite, gave it. -/
def FreshRewrites (path : String) : List String → List FileOp → Prop
  | _, [] => True
  | used, .rewrite _ modTime :: ops =>
    fileKey sha256 path modTime ∉ used ∧ FreshRewrites path (fileKey sha256 path modTime :: used) ops
  | used, .parse _ :: ops => FreshRewrites path used ops

/-- An entry agrees with the file: its key is one of `used`, and under the current version's key
it holds the build of the current content. -/
def EntryOK (path : String) (file : FileInfo) (used : List String) (p : String × CacheEntry) :
    Prop :=
  p.1 ∈ used ∧ (p.1 = fileKey sha256 path file.modTime → readSpec [(path, file)] path = .ok p.2.spec)

/-- The invariant of a run: the current key is one of `used`, and every entry of the installed
cache agrees with the file. -/
def FileWorld.Coherent (path : String) (used : List String) (w : FileWorld) : Prop :=
  fileKey sha256 path w.file.modTime ∈ used ∧ w.globals.AllEntries (EntryOK sha256 path w.file used)

/-! ## Every run with fresh keys reads through -/

/-- `CacheKeyForFile` of a file that exists is its key at the file's modification time. -/
theorem cacheKeyForFile_single (path : String) (info : FileInfo) :
    cacheKeyForFile sha256 [(path, info)] path = .ok (fileKey sha256 path info.modTime) := by
  simp [cacheKeyForFile]

end Parse

/-- The lookup keeps a property of the entries, and a spec it returns is one of an entry. -/
theorem cachedSpec_allEntries {P : String × CacheEntry → Prop} {g : Globals} (key : String)
    (now : Nat) (h : g.AllEntries P) :
    (cachedSpec g key now).2.AllEntries P ∧
      ∀ s, (cachedSpec g key now).1 = some s → ∃ e, P (key, e) ∧ e.spec = s := by
  have h₁ := allEntries_getGlobalCache now h
  unfold cachedSpec
  rcases hg : getGlobalCache g now with ⟨_ | p, g₁⟩
  · rw [hg] at h₁; exact ⟨h₁, fun s hs => by cases hs⟩
  · rw [hg] at h₁
    have hp := getGlobalCache_eq_some hg
    refine ⟨allEntries_withCache h₁ hp _ fun c hc q hq => hc q (mem_of_mem_get hq), fun s hs => ?_⟩
    simp only [(withCache_installed hp _).1, Option.bind_eq_some, Option.map_eq_some', id] at hs
    obtain ⟨_, ⟨c, hc, rfl⟩, hs⟩ := hs
    obtain ⟨e, he, rfl⟩ := get_eq_some hs
    exact ⟨e, h₁ c hc _ (Lru.mem_of_peek he), rfl⟩

/-- The store keeps a property of the entries that the stored entry has. -/
theorem storeSpec_allEntries {P : String × CacheEntry → Prop} {g : Globals} {key : String}
    {spec : ClientHelloSpec} {now : Nat} (h : g.AllEntries P) (hp : P (key, ⟨spec, now⟩)) :
    (storeSpec g key spec now).AllEntries P := by
  have h₁ := allEntries_getGlobalCache now h
  unfold storeSpec
  rcases hg : getGlobalCache g now with ⟨_ | p, g₁⟩
  · rw [hg] at h₁; exact h₁
  · rw [hg] at h₁
    refine allEntries_withCache h₁ (getGlobalCache_eq_some hg) _ fun c hc q hq => ?_
    rw [cache_set] at hq
    split_ifs at hq
    · rcases Lru.mem_of_mem_add hq with rfl | hq
      exacts [hp, hc q hq]
    · exact hc q hq

section Run

variable (sha256 : List UInt8 → Digest) (path : String)

/-- One call keeps the invariant and returns the build of the current content. -/
theorem parse_coherent {used : List String} {w : FileWorld} (now : Nat)
    (hc : w.Coherent sha256 path used) :
    (parseClientHelloJSON sha256 [(path, w.file)] w.globals path now).1 =
        readSpec [(path, w.file)] path ∧
      FileWorld.Coherent sha256 path used
        ⟨w.file, (parseClientHelloJSON sha256 [(path, w.file)] w.globals path now).2⟩ := by
  obtain ⟨hkey, hall⟩ := hc
  have hcached := cachedSpec_allEntries (fileKey sha256 path w.file.modTime) now hall
  simp only [parseClientHelloJSON, cacheKeyForFile_single]
  rcases hcs : cachedSpec w.globals (fileKey sha256 path w.file.modTime) now with ⟨_ | s, g₁⟩
  all_goals rw [hcs] at hcached; obtain ⟨hall₁, hspec⟩ := hcached
  · cases hr : readSpec [(path, w.file)] path with
    | error e => exact ⟨rfl, hkey, hall₁⟩
    | ok spec =>
      dsimp only
      rw [if_pos (fileKey_ne_empty sha256 path _)]
      exact ⟨rfl, hkey, storeSpec_allEntries hall₁ ⟨hkey, fun _ => hr⟩⟩
  · obtain ⟨e, ⟨-, he⟩, rfl⟩ := hspec s rfl
    exact ⟨(he rfl).symm, hkey, hall₁⟩

/-- A rewrite to a fresh key keeps the invariant, with the new key used. -/
theorem coherent_rewrite {used : List String} {w : FileWorld} (content : Except String ClientHelloJSON)
    {modTime : Nat} (hc : w.Coherent sha256 path used) (hfresh : fileKey sha256 path modTime ∉ used) :
    FileWorld.Coherent sha256 path (fileKey sha256 path modTime :: used)
      ⟨⟨content, modTime⟩, w.globals⟩ :=
  ⟨List.mem_cons_self _ _, fun c hc' p hp =>
    have hused := (hc.2 c hc' p hp).1
    ⟨List.mem_cons_of_mem _ hused, fun heq => absurd (heq ▸ hused) hfresh⟩⟩

/-- **The cache is transparent when every rewrite gives a fresh key**: from a coherent state,
every call returns the build of the file's current content. -/
theorem parseClientHelloJSON_transparent (w : FileWorld) (used : List String) (ops : List FileOp)
    (hc : w.Coherent sha256 path used) (hf : FreshRewrites sha256 path used ops) :
    w.run sha256 path ops = referenceRun path w.file ops := by
  induction ops generalizing w used with
  | nil => rfl
  | cons op ops ih =>
    cases op with
    | rewrite content modTime => exact ih _ _ (coherent_rewrite sha256 path content hc hf.1) hf.2
    | parse now =>
      obtain ⟨hr, hc'⟩ := parse_coherent sha256 path now hc
      simp only [FileWorld.run, referenceRun]
      rw [hr, ih _ _ hc' hf]

end Run

/-! ## Two versions in one second -/

/-- The cache of `GetGlobalCache` at `now` on a fresh program: the default one, created then. -/
def defaultCache (now : Nat) : LRUCache := ⟨Lru.new 1000, defaultCacheConfig, 0, 0, 0, now⟩

/-- The first `GetGlobalCache` of a program creates the default cache and installs it. -/
theorem getGlobalCache_init (now : Nat) :
    getGlobalCache Globals.init now = (some 0, ⟨[defaultCache now], some 0, true⟩) := rfl

/-- Reading a file whose content parses builds the spec from it. -/
theorem readSpec_single {path : String} {info : FileInfo} {a : ClientHelloJSON}
    (ha : info.content = .ok a) :
    readSpec [(path, info)] path = .ok (buildClientHelloSpecFromJSON a) := by
  simp [readSpec, ha]

/-- A lookup of a stored entry within its TTL hits, once the global cache is created. -/
theorem cachedSpec_of_peek {g : Globals} {c : LRUCache} {key : String} {now : Nat} {e : CacheEntry}
    (ho : g.onceDone = true) (hc : g.installed = some c) (hen : c.config.enabled = true)
    (hp : c.cache.peek key = some e) (hx : ¬c.config.Expired e.createdAt now) :
    (cachedSpec g key now).1 = some e.spec := by
  obtain ⟨p, hgp⟩ : ∃ p, g.globalCache = some p := by
    cases h : g.globalCache with
    | none => simp [Globals.installed, h] at hc
    | some p => exact ⟨p, rfl⟩
  simp only [cachedSpec, getGlobalCache_of_onceDone g now ho, hgp]
  rw [(withCache_installed hgp _).1, hc]
  simp [get_of_peek hen hp hx]

section Run

variable (sha256 : List UInt8 → Digest) (path : String)

/-- A call whose key has an entry within its TTL returns the entry's spec. -/
theorem parse_of_peek (info : FileInfo) {g : Globals} {c : LRUCache} {e : CacheEntry} (now : Nat)
    (ho : g.onceDone = true) (hc : g.installed = some c) (hen : c.config.enabled = true)
    (hp : c.cache.peek (fileKey sha256 path info.modTime) = some e)
    (hx : ¬c.config.Expired e.createdAt now) :
    (parseClientHelloJSON sha256 [(path, info)] g path now).1 = .ok e.spec := by
  have hhit := cachedSpec_of_peek ho hc hen hp hx
  simp only [parseClientHelloJSON, cacheKeyForFile_single]
  rcases hcs : cachedSpec g (fileKey sha256 path info.modTime) now with ⟨_ | s, g₁⟩
  all_goals rw [hcs] at hhit; cases hhit
  rfl

/-- The first call of a program reads the file and stores its spec under the file's key. -/
theorem parse_init {info : FileInfo} {a : ClientHelloJSON} (now : Nat) (ha : info.content = .ok a) :
    (parseClientHelloJSON sha256 [(path, info)] Globals.init path now).1 =
        .ok (buildClientHelloSpecFromJSON a) ∧
      (parseClientHelloJSON sha256 [(path, info)] Globals.init path now).2.onceDone = true ∧
      ∃ c, (parseClientHelloJSON sha256 [(path, info)] Globals.init path now).2.installed = some c ∧
        c.config = defaultCacheConfig ∧
        c.cache.peek (fileKey sha256 path info.modTime) = some ⟨buildClientHelloSpecFromJSON a, now⟩ := by
  set key := fileKey sha256 path info.modTime
  set c₁ := ((defaultCache now).get key now).2
  have hmiss : ((defaultCache now).get key now).1 = none := by
    cases h : ((defaultCache now).get key now).1 with
    | none => rfl
    | some s => obtain ⟨e, he, -⟩ := get_eq_some h; cases he
  have hcached : cachedSpec Globals.init key now = (none, ⟨[c₁], some 0, true⟩) := by
    simp [cachedSpec, getGlobalCache_init, Globals.withCache, hmiss, c₁]
  have hen : c₁.config.enabled = true := by simp [c₁, defaultCache, defaultCacheConfig]
  have hpos : 0 < c₁.cache.size := by simp [c₁, defaultCache, Lru.new]
  simp only [parseClientHelloJSON, cacheKeyForFile_single, hcached, readSpec_single ha]
  rw [if_pos (fileKey_ne_empty sha256 path _)]
  refine ⟨by trivial, by trivial, c₁.set key (some (buildClientHelloSpecFromJSON a)) now, ?_, ?_,
    peek_set key _ now hen hpos⟩
  · simp [storeSpec, getGlobalCache, Globals.withCache, Globals.installed]
  · simp [c₁, defaultCache]

/-- A rewrite within the same Unix second keeps the key: the call after it returns the spec of the
content before it. -/
theorem run_same_second {a : ClientHelloJSON} {t t' : Nat} (content' : Except String ClientHelloJSON)
    (now now' : Nat) (hsec : t / 10 ^ 9 = t' / 10 ^ 9) :
    FileWorld.run sha256 path ⟨⟨.ok a, t⟩, Globals.init⟩ [.parse now, .rewrite content' t', .parse now'] =
      [.ok (buildClientHelloSpecFromJSON a), .ok (buildClientHelloSpecFromJSON a)] := by
  obtain ⟨h₁, ho, c, hc, hcfg, hpeek⟩ := parse_init sha256 path now (rfl : (⟨.ok a, t⟩ : FileInfo).content = _)
  have hkey : fileKey sha256 path t' = fileKey sha256 path t := by simp only [fileKey, hsec]
  have h₂ := parse_of_peek sha256 path ⟨content', t'⟩ now' ho hc (by simp [hcfg, defaultCacheConfig])
    (by rw [hkey]; exact hpeek) (by simp [hcfg, CacheConfig.Expired, defaultCacheConfig])
  simp only [FileWorld.run, h₁, h₂]

end Run

/-- The file holds one cipher suite, is read, and is rewritten half a second later with another;
the call after the rewrite returns the spec of the first content. -/
theorem parseClientHelloJSON_same_second :
    FileWorld.run sum256 "fp.json" ⟨⟨.ok ⟨["TLS_AES_128_GCM_SHA256"], []⟩, 1700000000000000000⟩, Globals.init⟩
        [.parse 1700000000000000000, .rewrite (.ok ⟨["TLS_AES_256_GCM_SHA384"], []⟩) 1700000000500000000,
          .parse 1700000000500000000] =
      [.ok (buildClientHelloSpecFromJSON ⟨["TLS_AES_128_GCM_SHA256"], []⟩),
        .ok (buildClientHelloSpecFromJSON ⟨["TLS_AES_128_GCM_SHA256"], []⟩)] ∧
    buildClientHelloSpecFromJSON ⟨["TLS_AES_128_GCM_SHA256"], []⟩ ≠
      buildClientHelloSpecFromJSON ⟨["TLS_AES_256_GCM_SHA384"], []⟩ :=
  ⟨run_same_second sum256 "fp.json" _ _ _ (by norm_num), by decide⟩

/-- The first 32 bytes of a message, zero-padded: a digest with no collision among messages of at
most 32 bytes, such as the key data of a short path. -/
def prefixDigest (msg : List UInt8) : Digest :=
  ⟨(msg ++ List.replicate 32 0).take 32, by simp⟩

/-- `FormatUint(1, 10)` is `1`. -/
theorem formatUint_one : formatUint 1 10 = "1" := by
  simp [formatUint]; rfl

/-- A spec file read at time 0, rewritten one second later, and read again: the second call
returns the build of the new content. -/
theorem parseClientHelloJSON_transparent_rewrite :
    FileWorld.Coherent prefixDigest "fp.json" [fileKey prefixDigest "fp.json" 0]
        ⟨⟨.ok ⟨[], []⟩, 0⟩, Globals.init⟩ ∧
      FreshRewrites prefixDigest "fp.json" [fileKey prefixDigest "fp.json" 0]
        [.parse 0, .rewrite (.ok ⟨["TLS_AES_128_GCM_SHA256"], []⟩) (10 ^ 9), .parse (10 ^ 9)] ∧
      FileWorld.run prefixDigest "fp.json" ⟨⟨.ok ⟨[], []⟩, 0⟩, Globals.init⟩
          [.parse 0, .rewrite (.ok ⟨["TLS_AES_128_GCM_SHA256"], []⟩) (10 ^ 9), .parse (10 ^ 9)] =
        referenceRun "fp.json" ⟨.ok ⟨[], []⟩, 0⟩
          [.parse 0, .rewrite (.ok ⟨["TLS_AES_128_GCM_SHA256"], []⟩) (10 ^ 9), .parse (10 ^ 9)] :=
  have hc : FileWorld.Coherent prefixDigest "fp.json" [fileKey prefixDigest "fp.json" 0]
      ⟨⟨.ok ⟨[], []⟩, 0⟩, Globals.init⟩ := ⟨List.mem_singleton_self _, fun _ hc => nomatch hc⟩
  have hf : FreshRewrites prefixDigest "fp.json" [fileKey prefixDigest "fp.json" 0]
      [.parse 0, .rewrite (.ok ⟨["TLS_AES_128_GCM_SHA256"], []⟩) (10 ^ 9), .parse (10 ^ 9)] :=
    ⟨by simp only [fileKey, Nat.div_self (by norm_num : 0 < 10 ^ 9), formatUint_one]; decide, trivial⟩
  ⟨hc, hf, parseClientHelloJSON_transparent prefixDigest "fp.json" _ _ _ hc hf⟩

end TlsFingerprint.Cache
