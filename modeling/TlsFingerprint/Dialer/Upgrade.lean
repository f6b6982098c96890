import TlsFingerprint.Ja3.File
import TlsFingerprint.Fingerprint.Json
import TlsFingerprint.Fingerprint.Profiles
import TlsFingerprint.Cache.SpecFile

/-!
# The fingerprinted TLS dialers

`DialTLSWithFingerprint` opens a connection and `UpgradeConnWithFingerprint` takes one; both then
pick the ClientHello the handshake sends and drive the uTLS engine through the handshake. The
`ja3` package has one copy of each (`internal/util/ja3/dialer.go`), and the `fingerprint` package
another. The `fingerprint` copies first check the context's deadline: one already passed fails at
once with `context.DeadlineExceeded`, and otherwise the deadline is set on the connection.

What the dialers share is one definition here: the choice of ClientHello (`selectClientHello`, in
the order spec file, JA3 string, browser profile, default) and the engine steps after it
(`runEngine`). Each entry point keeps its own body for what only it does. The choice calls two
functions of the dialer's own package, `ParseClientHelloJSON` and `GetBrowserJA3` (`Package`). In
the `fingerprint` package they are modelled: `ParseClientHelloJSON` reads the spec file through the
global cache (`Cache.parseClientHelloJSON`), whose state the `fingerprint` dialers thread, and
`GetBrowserJA3` reads `BrowserProfiles`. The `ja3` package's two, whose code is not in the sources,
and the calls that reach out of the process (the file reader of the package's own format, the
socket, the engine) are the fields of `Env`. Every entry point returns the list of the calls out
it made (`Effect`), so that a theorem can say what a call does not do.

* `ja3.UpgradeConnWithFingerprint`, the one the MITM sniffer calls, has no deadline check: with a
  deadline already passed it still builds the spec and drives the engine
  (`upgradeConnWithFingerprint_expired`), while the `fingerprint` copy returns at once, making no
  call and leaving the cache as it was (`Fingerprint.upgradeConnWithFingerprint_of_expired`).
* With no spec file the spec comes from a JA3 string, the configured one or a profile's: its SNI
  names the caller's server, and its ALPN offers `[h2, http/1.1]` whatever `ALPNProtocols` the
  caller passed (`selectClientHello_ja3Params`, `upgradeConnWithFingerprint_alpn`). The engine is
  handed only the spec the choice made (`applyPreset_of_mem_upgradePipeline`), so this holds of
  every spec the four entry points hand it (`applyPreset_ja3Params`). A spec file's JSON capture
  brings its own SNI (`Fingerprint.mem_sni_buildClientHelloSpecFromJSON`).
* Every handshake of `DialTLSWithJA3` presents exactly the ClientHello its JA3 string describes,
  version, cipher suites and extension ids in order, or Chrome's for an empty string
  (`dialTLSWithJA3_hello`); one of `DialTLSWithProfile`, the profile's JA3 string's or the
  engine's built-in imitation of the profile (`dialTLSWithProfile_hello`). For a profile of
  `BrowserProfiles` the `fingerprint` copy always presents the spec of its JA3 string
  (`dialTLSWithProfile_browserProfile`).
-/

namespace TlsFingerprint.Dialer

open Go Utls Ja3

/-! ## Configuration, effects and errors -/

/-- The fields of `crypto/tls.Config` the dialers read; `RootCAs` is left out. -/
structure TLSConfig where
  insecureSkipVerify : Bool
  minVersion : UInt16
  maxVersion : UInt16
  deriving DecidableEq, Repr

/-- `TLSDialerConfig`; `TLSConfig` is `none` for nil. -/
structure TLSDialerConfig where
  ja3 : String
  clientHelloSpecFile : String
  browserProfile : String
  serverName : String
  alpnProtocols : List String
  tlsConfig : Option TLSConfig
  deriving DecidableEq, Repr

/-- A `context.Context`: its deadline, in nanoseconds, if it has one. -/
structure Context where
  deadline : Option Nat
  deriving DecidableEq, Repr

/-- The calls a dialer makes out of the process. -/
inductive Effect
  /-- `net.Dialer.DialContext(ctx, network, addr)`. -/
  | dial (network addr : String)
  /-- `rawConn.SetDeadline(deadline)`. -/
  | setDeadline (deadline : Nat)
  /-- The package's `ParseClientHelloJSON(path)`, which reads the spec file on a cache miss. -/
  | parseClientHelloJSON (path : String)
  /-- `LoadClientHelloSpecFromFile(path)`, which reads the spec file. -/
  | loadClientHelloSpecFromFile (path : String)
  /-- `utls.UClient(rawConn, config, id)` then `ApplyPreset(spec)`: the engine takes the spec. -/
  | applyPreset (config : Config) (id : ClientHelloID) (spec : ClientHelloSpec)
  /-- `HandshakeContext(ctx)`: the engine reads and writes the connection. -/
  | handshake (config : Config) (id : ClientHelloID) (spec : Option ClientHelloSpec)
  /-- `rawConn.Close()`. -/
  | close
  deriving DecidableEq, Repr

/-- What the outside answers to the dialers' calls. -/
structure Env where
  /-- The `ja3` package's `ParseClientHelloJSON(path)`, whose code is not in the sources. -/
  parseClientHelloJSON : String → Except String ClientHelloSpec
  /-- `ja3.LoadClientHelloSpecFromFile(path)`: what `os.ReadFile` and `json.Unmarshal` give. -/
  loadClientHelloSpecFromFile : String → Except String ClientHelloSpecFile
  /-- The `ja3` package's `GetBrowserJA3(profileName)`, whose code is not in the sources. -/
  getBrowserJA3 : String → String
  dial : String → String → Except String Unit
  setDeadline : Nat → Except String Unit
  applyPreset : ClientHelloSpec → Except String Unit
  handshake : Context → Config → ClientHelloID → Option ClientHelloSpec → Except String Unit

/-- The errors the dialers return, one per `fmt.Errorf` of the source. -/
inductive DialError
  /-- `TLSDialerConfig is nil` -/
  | configNil
  /-- `context.DeadlineExceeded` -/
  | deadlineExceeded
  /-- `failed to dial: %w` -/
  | dial (err : String)
  /-- `failed to set deadline: %w` -/
  | setDeadline (err : String)
  /-- `failed to load ClientHello spec (tried both formats): peet.ws format: %w, custom format: %v` -/
  | loadSpec (peetErr customErr : String)
  /-- `failed to build ClientHello spec from file: %w` -/
  | buildFromFile (err : String)
  /-- `failed to parse JA3: %w` -/
  | parseJA3 (err : ParseJA3Error)
  /-- `failed to build ClientHello spec from JA3: %w` -/
  | buildFromJA3 (err : String)
  /-- `failed to parse JA3 from profile %s: %w` -/
  | parseProfileJA3 (profile : String) (err : ParseJA3Error)
  /-- `failed to build ClientHello spec from profile %s: %w` -/
  | buildFromProfile (profile : String) (err : String)
  /-- `failed to apply custom ClientHello spec: %w` -/
  | applyPreset (err : String)
  /-- `TLS handshake failed: %w` -/
  | handshake (err : String)
  deriving DecidableEq, Repr

/-- The two functions of its own package the ClientHello choice calls: `ParseClientHelloJSON`,
which may update the package's state `σ`, and `GetBrowserJA3`. -/
structure Package (σ : Type) where
  parseClientHelloJSON : String → σ → Except String ClientHelloSpec × σ
  getBrowserJA3 : String → String

/-- The `ja3` package: both functions answered by `Env`, and no state. -/
def Env.ja3Package (env : Env) : Package Unit :=
  ⟨fun path _ => (env.parseClientHelloJSON path, ()), env.getBrowserJA3⟩

/-! ## The shared steps -/

/-- `GetUTLSClientHelloID(profile)`: the engine's imitation of a browser family named case-blind
(`strings.ToLower`, which lowers every Unicode letter), Chrome by default. -/
def getUTLSClientHelloID (profile : String) : ClientHelloID :=
  match toLower profile with
  | "chrome" | "chrome_auto" => .helloChrome_Auto
  | "firefox" | "firefox_auto" => .helloFirefox_Auto
  | "safari" | "safari_auto" => .helloSafari_Auto
  | "edge" | "edge_auto" => .helloEdge_Auto
  | "ios" | "ios_auto" => .helloIOS_Auto
  | "android" | "android_auto" => .helloAndroid_11_OkHttp
  | _ => .helloChrome_Auto

/-- An empty profile name gets Chrome. -/
theorem getUTLSClientHelloID_empty : getUTLSClientHelloID "" = .helloChrome_Auto := rfl

/-- The `utls.Config` the dialers build from the caller's configuration. -/
def utlsConfigOf (config : TLSDialerConfig) : Config :=
  { serverName := config.serverName
    insecureSkipVerify := config.tlsConfig.any (·.insecureSkipVerify)
    nextProtos := config.alpnProtocols
    minVersion := (config.tlsConfig.map (·.minVersion)).getD 0
    maxVersion := (config.tlsConfig.map (·.maxVersion)).getD 0 }

/-- The choice of ClientHello when no spec file is named: the JA3 string, else a browser profile's
JA3 (from the package's `GetBrowserJA3`) or its built-in family, else Chrome. -/
def selectWithoutFile (getBrowserJA3 : String → String) (config : TLSDialerConfig) :
    Except DialError (ClientHelloID × Option ClientHelloSpec) :=
  if config.ja3 ≠ "" then
    match parseJA3 config.ja3 with
    | .error e => .error (.parseJA3 e)
    | .ok data =>
      match buildClientHelloSpecFromJA3 (some data) config.serverName with
      | .error e => .error (.buildFromJA3 e)
      | .ok spec => .ok (.helloCustom, some spec)
  else if config.browserProfile ≠ "" then
    let ja3String := getBrowserJA3 config.browserProfile
    if ja3String ≠ "" then
      match parseJA3 ja3String with
      | .error e => .error (.parseProfileJA3 config.browserProfile e)
      | .ok data =>
        match buildClientHelloSpecFromJA3 (some data) config.serverName with
        | .error e => .error (.buildFromProfile config.browserProfile e)
        | .ok spec => .ok (.helloCustom, some spec)
    else .ok (getUTLSClientHelloID config.browserProfile, none)
  else .ok (.helloChrome_Auto, none)

/-- The choice of ClientHello shared by the four dialers: the spec file (read as a peet.ws JSON
capture by the package's `ParseClientHelloJSON`, else as the `ja3` package's own format), else
`selectWithoutFile`. -/
def selectClientHello {σ : Type} (env : Env) (pkg : Package σ) (config : TLSDialerConfig) (s : σ) :
    (Except DialError (ClientHelloID × Option ClientHelloSpec) × List Effect) × σ :=
  if config.clientHelloSpecFile ≠ "" then
    let path := config.clientHelloSpecFile
    let (parsed, s) := pkg.parseClientHelloJSON path s
    match parsed with
    | .ok spec => ((.ok (.helloCustom, some spec), [.parseClientHelloJSON path]), s)
    | .error err =>
      let effects := [.parseClientHelloJSON path, .loadClientHelloSpecFromFile path]
      match env.loadClientHelloSpecFromFile path with
      | .error err2 => ((.error (.loadSpec err err2), effects), s)
      | .ok specFile =>
        match buildClientHelloSpecFromFile (some specFile) config.serverName with
        | .error e => ((.error (.buildFromFile e), effects), s)
        | .ok spec => ((.ok (.helloCustom, some spec), effects), s)
  else ((selectWithoutFile pkg.getBrowserJA3 config, []), s)

/-- The engine steps shared by the four dialers: `UClient`, `ApplyPreset` of a custom spec, and
`HandshakeContext`. -/
def runEngine (env : Env) (ctx : Context) (config : Config) (id : ClientHelloID)
    (spec : Option ClientHelloSpec) : Except DialError Unit × List Effect :=
  let handshake : Except DialError Unit × List Effect :=
    match env.handshake ctx config id spec with
    | .error e => (.error (.handshake e), [.handshake config id spec])
    | .ok () => (.ok (), [.handshake config id spec])
  match spec with
  | none => handshake
  | some s =>
    match env.applyPreset s with
    | .error e => (.error (.applyPreset e), [.applyPreset config id s])
    | .ok () => (handshake.1, .applyPreset config id s :: handshake.2)

/-- The ClientHello choice and the engine steps, on a connection already open. -/
def upgradePipeline {σ : Type} (env : Env) (pkg : Package σ) (ctx : Context)
    (config : TLSDialerConfig) (s : σ) : (Except DialError Unit × List Effect) × σ :=
  match selectClientHello env pkg config s with
  | ((.error e, effects), s) => ((.error e, effects), s)
  | ((.ok (id, spec), effects), s) =>
    let (r, effects') := runEngine env ctx (utlsConfigOf config) id spec
    ((r, effects ++ effects'), s)

/-- The connection closed after a failure, as the dial functions do on every error path after
the dial. -/
def closeOnError (r : Except DialError Unit × List Effect) : Except DialError Unit × List Effect :=
  match r.1 with
  | .error _ => (r.1, r.2 ++ [.close])
  | .ok () => r

/-- Whether a deadline is already passed at `now`: `time.Until(deadline) <= 0`. -/
def Context.expired (ctx : Context) (now : Nat) : Bool :=
  match ctx.deadline with
  | some deadline => deadline ≤ now
  | none => false

/-- The configuration `DialTLSWithJA3` builds, in both packages. -/
def TLSDialerConfig.ofJA3 (ja3 serverName : String) (tlsConfig : Option TLSConfig) :
    TLSDialerConfig :=
  { ja3, clientHelloSpecFile := "", browserProfile := "", serverName, alpnProtocols := [],
    tlsConfig }

/-- The configuration `DialTLSWithProfile` builds, in both packages. -/
def TLSDialerConfig.ofProfile (profile serverName : String) (tlsConfig : Option TLSConfig) :
    TLSDialerConfig :=
  { ja3 := "", clientHelloSpecFile := "", browserProfile := profile, serverName,
    alpnProtocols := [], tlsConfig }

/-! ## The spec a JA3 string yields -/

/-- A spec the JA3 builder returns carries the JA3's version, cipher suites and extension ids. -/
theorem ids_of_build {data : JA3Data} {serverName : String} {s : ClientHelloSpec}
    (hb : buildClientHelloSpecFromJA3 (some data) serverName = .ok s) :
    s.tlsVersMin = data.version ∧ s.tlsVersMax = data.version ∧
      s.cipherSuites = data.cipherSuites ∧ s.extensions.map TLSExtension.id = data.extensions := by
  obtain ⟨s', hb', h₁, h₂, h₃, h₄⟩ := buildClientHelloSpecFromJA3_ids data serverName
  cases hb.symm.trans hb'
  exact ⟨h₂, h₃, h₁, h₄⟩

/-- Without a spec file, the choice reads no file and leaves the package's state as it was. -/
theorem selectClientHello_of_noFile {σ : Type} (env : Env) (pkg : Package σ)
    {config : TLSDialerConfig} (s : σ) (hfile : config.clientHelloSpecFile = "") :
    selectClientHello env pkg config s = ((selectWithoutFile pkg.getBrowserJA3 config, []), s) := by
  simp [selectClientHello, hfile]

section Pipeline

variable {σ : Type} (env : Env) (pkg : Package σ) (ctx : Context)

/-- The dialers apply the spec they select, with the configuration they build. -/
theorem applyPreset_mem_upgradePipeline {config : TLSDialerConfig} {s : σ} {id : ClientHelloID}
    {spec : ClientHelloSpec} {effects : List Effect}
    (h : (selectClientHello env pkg config s).1 = (.ok (id, some spec), effects)) :
    Effect.applyPreset (utlsConfigOf config) id spec ∈ (upgradePipeline env pkg ctx config s).1.2 := by
  unfold upgradePipeline
  generalize selectClientHello env pkg config s = p at h ⊢
  obtain ⟨⟨r, effects'⟩, s'⟩ := p
  cases h
  simp only [runEngine]
  split <;> simp

/-- The calls the ClientHello choice makes: reads of the spec file, nothing else. -/
theorem mem_selectClientHello {config : TLSDialerConfig} {s : σ} {e : Effect}
    (h : e ∈ (selectClientHello env pkg config s).1.2) :
    e = .parseClientHelloJSON config.clientHelloSpecFile ∨
      e = .loadClientHelloSpecFromFile config.clientHelloSpecFile := by
  unfold selectClientHello at h
  dsimp only at h
  split_ifs at h <;> (repeat' split at h) <;>
    simp only [List.mem_cons, List.not_mem_nil, or_false] at h <;> first | exact h | exact .inl h

/-- The calls the engine steps make: the hand-over of the spec they are given, if any, and the
handshake. -/
theorem mem_runEngine {config : Config} {id : ClientHelloID} {spec : Option ClientHelloSpec}
    {e : Effect} (h : e ∈ (runEngine env ctx config id spec).2) :
    (∃ s, spec = some s ∧ e = .applyPreset config id s) ∨ e = .handshake config id spec := by
  unfold runEngine at h
  (repeat' split at h) <;> simp_all

/-- The calls of the steps after the dial: reads of the spec file, the hand-over of the spec the
choice made, and the handshake of the ClientHello it made. -/
theorem mem_upgradePipeline {config : TLSDialerConfig} {s : σ} {e : Effect}
    (h : e ∈ (upgradePipeline env pkg ctx config s).1.2) :
    (e = .parseClientHelloJSON config.clientHelloSpecFile ∨
      e = .loadClientHelloSpecFromFile config.clientHelloSpecFile) ∨
    (∃ id spec effects, (selectClientHello env pkg config s).1 = (.ok (id, some spec), effects) ∧
      e = .applyPreset (utlsConfigOf config) id spec) ∨
    ∃ id spec effects, (selectClientHello env pkg config s).1 = (.ok (id, spec), effects) ∧
      e = .handshake (utlsConfigOf config) id spec := by
  have hsel : e ∈ (selectClientHello env pkg config s).1.2 → _ := mem_selectClientHello env pkg
  unfold upgradePipeline at h
  generalize selectClientHello env pkg config s = p at h hsel ⊢
  obtain ⟨⟨r, effects⟩, s'⟩ := p
  rcases r with err | ⟨id, spec⟩
  · exact .inl (hsel h)
  · rcases List.mem_append.mp h with h | h
    · exact .inl (hsel h)
    · rcases mem_runEngine env ctx h with ⟨sp, rfl, rfl⟩ | rfl
      · exact .inr (.inl ⟨id, sp, effects, rfl, rfl⟩)
      · exact .inr (.inr ⟨id, spec, effects, rfl, rfl⟩)

/-- The handshake of the steps after the dial runs with the configuration they build and the
ClientHello they select. -/
theorem handshake_of_mem_upgradePipeline {config : TLSDialerConfig} {s : σ} {c : Config}
    {id : ClientHelloID} {spec : Option ClientHelloSpec}
    (h : Effect.handshake c id spec ∈ (upgradePipeline env pkg ctx config s).1.2) :
    c = utlsConfigOf config ∧
      ∃ effects, (selectClientHello env pkg config s).1 = (.ok (id, spec), effects) := by
  rcases mem_upgradePipeline env pkg ctx h with (h | h) | ⟨_, _, _, _, h⟩ | ⟨_, _, effects, hs, he⟩
  · cases h
  · cases h
  · cases h
  · cases he
    exact ⟨rfl, effects, hs⟩

/-- Without a spec file, a handshake presents what `selectWithoutFile` chose with the package's
`GetBrowserJA3`. -/
theorem handshake_of_mem_upgradePipeline_noFile {config : TLSDialerConfig} {s : σ} {c : Config}
    {id : ClientHelloID} {spec : Option ClientHelloSpec} (hfile : config.clientHelloSpecFile = "")
    (h : Effect.handshake c id spec ∈ (upgradePipeline env pkg ctx config s).1.2) :
    c = utlsConfigOf config ∧ selectWithoutFile pkg.getBrowserJA3 config = .ok (id, spec) := by
  obtain ⟨hc, effects, hs⟩ := handshake_of_mem_upgradePipeline env pkg ctx h
  rw [selectClientHello_of_noFile env pkg s hfile] at hs
  exact ⟨hc, congrArg Prod.fst hs⟩

end Pipeline

/-- The ClientHello chosen for a `DialTLSWithJA3` configuration, whatever `GetBrowserJA3`:
Chrome's for an empty string, else the spec the JA3 string builds. -/
theorem selectWithoutFile_ofJA3 (getBrowserJA3 : String → String) (ja3 serverName : String)
    (tlsConfig : Option TLSConfig) {id : ClientHelloID} {spec : Option ClientHelloSpec}
    (h : selectWithoutFile getBrowserJA3 (.ofJA3 ja3 serverName tlsConfig) = .ok (id, spec)) :
    (ja3 = "" ∧ id = .helloChrome_Auto ∧ spec = none) ∨
      ∃ data s, parseJA3 ja3 = .ok data ∧ buildClientHelloSpecFromJA3 (some data) serverName = .ok s ∧
        id = .helloCustom ∧ spec = some s := by
  unfold selectWithoutFile at h
  simp only [TLSDialerConfig.ofJA3, ne_eq, not_true_eq_false, if_false] at h
  split_ifs at h with hja3
  · cases h
    exact .inl ⟨hja3, rfl, rfl⟩
  · split at h
    · cases h
    · next data hdata =>
      split at h
      · cases h
      · next s hb => cases h; exact .inr ⟨data, s, hdata, hb, rfl, rfl⟩

/-- The ClientHello chosen for a `DialTLSWithProfile` configuration: the spec the profile's JA3
string builds when `GetBrowserJA3` has one, else the engine's built-in imitation of the profile. -/
theorem selectWithoutFile_ofProfile (getBrowserJA3 : String → String) (profile serverName : String)
    (tlsConfig : Option TLSConfig) {id : ClientHelloID} {spec : Option ClientHelloSpec}
    (h : selectWithoutFile getBrowserJA3 (.ofProfile profile serverName tlsConfig) = .ok (id, spec)) :
    ((profile = "" ∨ getBrowserJA3 profile = "") ∧ id = getUTLSClientHelloID profile ∧
        spec = none) ∨
      ∃ data s, parseJA3 (getBrowserJA3 profile) = .ok data ∧
        buildClientHelloSpecFromJA3 (some data) serverName = .ok s ∧ id = .helloCustom ∧
        spec = some s := by
  unfold selectWithoutFile at h
  simp only [TLSDialerConfig.ofProfile, ne_eq, not_true_eq_false, if_false] at h
  split_ifs at h with hp hja3
  · cases h
    exact .inl ⟨.inl hp, by rw [hp, getUTLSClientHelloID_empty], rfl⟩
  · cases h
    exact .inl ⟨.inr hja3, rfl, rfl⟩
  · split at h
    · cases h
    · next data hdata =>
      split at h
      · cases h
      · next s hb => cases h; exact .inr ⟨data, s, hdata, hb, rfl, rfl⟩

/-- Closing on error adds at most the close. -/
theorem mem_closeOnError {r : Except DialError Unit × List Effect} {e : Effect}
    (h : e ∈ (closeOnError r).2) : e ∈ r.2 ∨ e = .close := by
  unfold closeOnError at h
  split at h
  · simpa using h
  · exact .inl h

end TlsFingerprint.Dialer

namespace TlsFingerprint.Ja3

open Utls Dialer

/-- `ja3.UpgradeConnWithFingerprint(ctx, rawConn, config)`; `none` is a nil config. -/
def upgradeConnWithFingerprint (env : Env) (ctx : Context) :
    Option TLSDialerConfig → Except DialError Unit × List Effect
  | none => (.error .configNil, [])
  | some config => (upgradePipeline env env.ja3Package ctx config ()).1

/-- `ja3.DialTLSWithFingerprint(ctx, network, addr, config)`. -/
def dialTLSWithFingerprint (env : Env) (ctx : Context) (network addr : String) :
    Option TLSDialerConfig → Except DialError Unit × List Effect
  | none => (.error .configNil, [])
  | some config =>
    match env.dial network addr with
    | .error e => (.error (.dial e), [.dial network addr])
    | .ok () =>
      let (r, effects) := closeOnError (upgradePipeline env env.ja3Package ctx config ()).1
      (r, .dial network addr :: effects)

/-- `ja3.DialTLSWithJA3(ctx, network, addr, ja3, serverName, tlsConfig)`. -/
def dialTLSWithJA3 (env : Env) (ctx : Context) (network addr ja3 serverName : String)
    (tlsConfig : Option TLSConfig) : Except DialError Unit × List Effect :=
  dialTLSWithFingerprint env ctx network addr (some (.ofJA3 ja3 serverName tlsConfig))

/-- `ja3.DialTLSWithProfile(ctx, network, addr, profile, serverName, tlsConfig)`. -/
def dialTLSWithProfile (env : Env) (ctx : Context) (network addr profile serverName : String)
    (tlsConfig : Option TLSConfig) : Except DialError Unit × List Effect :=
  dialTLSWithFingerprint env ctx network addr (some (.ofProfile profile serverName tlsConfig))

/-- The calls of `ja3.DialTLSWithFingerprint`: the dial, the close, and the steps after the
dial. -/
theorem mem_dialTLSWithFingerprint {env : Env} {ctx : Context} {network addr : String}
    {config : TLSDialerConfig} {e : Effect}
    (h : e ∈ (dialTLSWithFingerprint env ctx network addr config).2) :
    e = .dial network addr ∨ e = .close ∨
      e ∈ (upgradePipeline env env.ja3Package ctx config ()).1.2 := by
  simp only [dialTLSWithFingerprint] at h
  split at h
  · exact .inl (List.mem_singleton.mp h)
  · rcases List.mem_cons.mp h with h | h
    · exact .inl h
    · exact (mem_closeOnError h).elim (.inr ∘ .inr) (.inr ∘ .inl)

end TlsFingerprint.Ja3

namespace TlsFingerprint.Fingerprint

open Go Utls Dialer Cache

section Dialers

variable (env : Env) (sha256 : List UInt8 → Digest) (files : List (String × FileInfo))

/-- The `fingerprint` package at `now`: its `ParseClientHelloJSON`, through the global cache over
the files `files`, and its `GetBrowserJA3`, over `BrowserProfiles`. -/
def fingerprintPackage (now : Nat) : Package Globals :=
  ⟨fun path g => Cache.parseClientHelloJSON sha256 files g path now, getBrowserJA3⟩

/-- `fingerprint.UpgradeConnWithFingerprint(ctx, rawConn, config)` at `now`, from the package
variables `g`: the steps after a deadline check, the deadline set on the connection, and the
package variables after the call. -/
def upgradeConnWithFingerprint (g : Globals) (ctx : Context) (now : Nat) :
    Option TLSDialerConfig → (Except DialError Unit × List Effect) × Globals
  | none => ((.error .configNil, []), g)
  | some config =>
    match ctx.deadline with
    | some deadline =>
      if deadline ≤ now then ((.error .deadlineExceeded, []), g)
      else
        match env.setDeadline deadline with
        | .error e => ((.error (.setDeadline e), [.setDeadline deadline]), g)
        | .ok () =>
          let ((r, effects), g) := upgradePipeline env (fingerprintPackage sha256 files now) ctx config g
          ((r, .setDeadline deadline :: effects), g)
    | none => upgradePipeline env (fingerprintPackage sha256 files now) ctx config g

/-- `fingerprint.DialTLSWithFingerprint(ctx, network, addr, config)` at `now`, from the package
variables `g`: a deadline check before the dial, and the deadline set on the new connection. -/
def dialTLSWithFingerprint (g : Globals) (ctx : Context) (now : Nat) (network addr : String) :
    Option TLSDialerConfig → (Except DialError Unit × List Effect) × Globals
  | none => ((.error .configNil, []), g)
  | some config =>
    if ctx.expired now then ((.error .deadlineExceeded, []), g)
    else
      match env.dial network addr with
      | .error e => ((.error (.dial e), [.dial network addr]), g)
      | .ok () =>
        match ctx.deadline with
        | some deadline =>
          match env.setDeadline deadline with
          | .error e =>
            ((.error (.setDeadline e), [.dial network addr, .setDeadline deadline, .close]), g)
          | .ok () =>
            let (r, g) := upgradePipeline env (fingerprintPackage sha256 files now) ctx config g
            let (r, effects) := closeOnError r
            ((r, .dial network addr :: .setDeadline deadline :: effects), g)
        | none =>
          let (r, g) := upgradePipeline env (fingerprintPackage sha256 files now) ctx config g
          let (r, effects) := closeOnError r
          ((r, .dial network addr :: effects), g)

/-- `fingerprint.DialTLSWithJA3(ctx, network, addr, ja3, serverName, tlsConfig)` at `now`. -/
def dialTLSWithJA3 (g : Globals) (ctx : Context) (now : Nat) (network addr ja3 serverName : String)
    (tlsConfig : Option TLSConfig) : (Except DialError Unit × List Effect) × Globals :=
  dialTLSWithFingerprint env sha256 files g ctx now network addr
    (some (.ofJA3 ja3 serverName tlsConfig))

/-- `fingerprint.DialTLSWithProfile(ctx, network, addr, profile, serverName, tlsConfig)` at
`now`. -/
def dialTLSWithProfile (g : Globals) (ctx : Context) (now : Nat)
    (network addr profile serverName : String) (tlsConfig : Option TLSConfig) :
    (Except DialError Unit × List Effect) × Globals :=
  dialTLSWithFingerprint env sha256 files g ctx now network addr
    (some (.ofProfile profile serverName tlsConfig))

/-- **The `fingerprint` upgrade honours a passed deadline**: it returns `context.DeadlineExceeded`,
makes no call out of the process, and leaves the package variables as they were. -/
theorem upgradeConnWithFingerprint_of_expired (g : Globals) {ctx : Context} {now : Nat}
    (config : TLSDialerConfig) (h : ctx.expired now = true) :
    upgradeConnWithFingerprint env sha256 files g ctx now (some config) =
      ((.error .deadlineExceeded, []), g) := by
  unfold Context.expired at h
  cases hd : ctx.deadline with
  | none => simp [hd] at h
  | some deadline =>
    simp only [hd, decide_eq_true_eq] at h
    simp only [upgradeConnWithFingerprint, hd, if_pos h]

/-- The calls of `fingerprint.DialTLSWithFingerprint`: the dial, the deadline, the close, and the
steps after the dial. -/
theorem mem_dialTLSWithFingerprint {g : Globals} {ctx : Context} {now : Nat}
    {network addr : String} {config : TLSDialerConfig} {e : Effect}
    (h : e ∈ (dialTLSWithFingerprint env sha256 files g ctx now network addr config).1.2) :
    e = .dial network addr ∨ (∃ d, e = .setDeadline d) ∨ e = .close ∨
      e ∈ (upgradePipeline env (fingerprintPackage sha256 files now) ctx config g).1.2 := by
  have hrest : ∀ {r}, e ∈ (closeOnError r).2 → e = .close ∨ e ∈ r.2 := fun h =>
    (mem_closeOnError h).symm
  simp only [dialTLSWithFingerprint] at h
  split_ifs at h
  · cases h
  · split at h
    · exact .inl (List.mem_singleton.mp h)
    · split at h
      · split at h
        · simp only [List.mem_cons, List.not_mem_nil, or_false] at h
          rcases h with h | h | h
          exacts [.inl h, .inr (.inl ⟨_, h⟩), .inr (.inr (.inl h))]
        · simp only [List.mem_cons] at h
          rcases h with h | h | h
          exacts [.inl h, .inr (.inl ⟨_, h⟩), .inr (.inr (hrest h))]
      · rcases List.mem_cons.mp h with h | h
        exacts [.inl h, .inr (.inr (hrest h))]

end Dialers

end TlsFingerprint.Fingerprint

namespace TlsFingerprint.Ja3

open Utls Dialer

/-- `ja3.UpgradeConnWithFingerprint` reads no deadline: whatever the context, it applies the spec it
selects. -/
theorem applyPreset_mem_upgradeConnWithFingerprint (env : Env) (ctx : Context)
    {config : TLSDialerConfig} {id : ClientHelloID} {spec : ClientHelloSpec} {effects : List Effect}
    (h : (selectClientHello env env.ja3Package config ()).1 = (.ok (id, some spec), effects)) :
    Effect.applyPreset (utlsConfigOf config) id spec ∈
      (upgradeConnWithFingerprint env ctx (some config)).2 :=
  applyPreset_mem_upgradePipeline env env.ja3Package ctx h

/-- A JA3 configuration with an explicit ALPN list `[http/1.1]`. -/
def alpnConfig : TLSDialerConfig :=
  ⟨"771,4865,0-16,29,0", "", "", "example.com", ["http/1.1"], none⟩

/-- The spec `selectClientHello` chooses for `alpnConfig`. -/
theorem selectClientHello_alpnConfig (env : Env) :
    (selectClientHello env env.ja3Package alpnConfig ()).1 =
      (.ok (.helloCustom, some ⟨[4865], [], [.sniExtension "example.com",
        .alpnExtension ["h2", "http/1.1"]], 771, 771⟩), []) :=
  rfl

/-- The spec `ja3.UpgradeConnWithFingerprint` hands the engine for `alpnConfig` offers ALPN
`[h2, http/1.1]`, not the caller's `[http/1.1]`. -/
theorem upgradeConnWithFingerprint_alpn (env : Env) (ctx : Context) :
    ∃ spec, Effect.applyPreset (utlsConfigOf alpnConfig) .helloCustom spec ∈
        (upgradeConnWithFingerprint env ctx (some alpnConfig)).2 ∧
      alpnConfig.alpnProtocols = ["http/1.1"] ∧ .alpnExtension ["h2", "http/1.1"] ∈ spec.extensions :=
  ⟨_, applyPreset_mem_upgradeConnWithFingerprint env ctx (selectClientHello_alpnConfig env), rfl,
    by simp⟩

/-- With a deadline already passed, the `fingerprint` upgrade returns at once, leaving the package
variables as they were, while the `ja3` upgrade, which the sniffer calls, hands a spec to the
engine. -/
theorem upgradeConnWithFingerprint_expired (env : Env) (sha256 : List UInt8 → Go.Digest)
    (files : List (String × Cache.FileInfo)) (g : Cache.Globals) :
    Fingerprint.upgradeConnWithFingerprint env sha256 files g ⟨some 0⟩ 1 (some alpnConfig) =
        ((.error .deadlineExceeded, []), g) ∧
      ∃ spec, Effect.applyPreset (utlsConfigOf alpnConfig) .helloCustom spec ∈
        (upgradeConnWithFingerprint env ⟨some 0⟩ (some alpnConfig)).2 :=
  ⟨Fingerprint.upgradeConnWithFingerprint_of_expired env sha256 files g alpnConfig rfl,
    _, applyPreset_mem_upgradeConnWithFingerprint env _ (selectClientHello_alpnConfig env)⟩

end TlsFingerprint.Ja3

namespace TlsFingerprint.Dialer

open Go Utls Ja3 Cache

/-! ## What the entry points hand the engine

Whatever the outside answers, every spec the four entry points hand the engine without a spec file
is a JA3 builder's, and every handshake the `DialTLSWithJA3` and `DialTLSWithProfile` of either
package run presents the ClientHello their configuration selects: the one a JA3 string describes,
or a built-in imitation with no spec. -/

/-- An outside that answers every call with success, and reads no spec file. -/
def Env.succeeding : Env :=
  ⟨fun _ => .error "", fun _ => .error "", fun _ => "", fun _ _ => .ok (), fun _ => .ok (),
    fun _ => .ok (), fun _ _ _ _ => .ok ()⟩

section EntryPoints

variable (env : Env) (sha256 : List UInt8 → Digest) (files : List (String × FileInfo))
  (g : Globals) (ctx : Context) (now : Nat)

/-- A handshake of the `ja3` package's `DialTLSWithFingerprint` without a spec file presents what
`selectWithoutFile` chose with the package's `GetBrowserJA3`. -/
theorem handshake_of_mem_ja3Dial {network addr : String} {config : TLSDialerConfig} {c : Config}
    {id : ClientHelloID} {spec : Option ClientHelloSpec} (hfile : config.clientHelloSpecFile = "")
    (h : Effect.handshake c id spec ∈ (Ja3.dialTLSWithFingerprint env ctx network addr config).2) :
    c = utlsConfigOf config ∧ selectWithoutFile env.getBrowserJA3 config = .ok (id, spec) := by
  rcases Ja3.mem_dialTLSWithFingerprint h with h | h | h
  · cases h
  · cases h
  · exact handshake_of_mem_upgradePipeline_noFile env env.ja3Package ctx hfile h

/-- The same for the `fingerprint` package, whose `GetBrowserJA3` reads `BrowserProfiles`. -/
theorem handshake_of_mem_fingerprintDial {network addr : String} {config : TLSDialerConfig}
    {c : Config} {id : ClientHelloID} {spec : Option ClientHelloSpec}
    (hfile : config.clientHelloSpecFile = "")
    (h : Effect.handshake c id spec ∈
      (Fingerprint.dialTLSWithFingerprint env sha256 files g ctx now network addr config).1.2) :
    c = utlsConfigOf config ∧
      selectWithoutFile Fingerprint.getBrowserJA3 config = .ok (id, spec) := by
  rcases Fingerprint.mem_dialTLSWithFingerprint env sha256 files h with h | ⟨_, h⟩ | h | h
  · cases h
  · cases h
  · cases h
  · exact handshake_of_mem_upgradePipeline_noFile env _ ctx hfile h

/-- The ClientHello of a `DialTLSWithJA3` handshake: Chrome's built-in one for an empty string,
else the one the JA3 string describes. -/
theorem ja3Hello_of_selectWithoutFile (getBrowserJA3 : String → String)
    (ja3 serverName : String) (tlsConfig : Option TLSConfig) {id : ClientHelloID}
    {spec : Option ClientHelloSpec}
    (h : selectWithoutFile getBrowserJA3 (.ofJA3 ja3 serverName tlsConfig) = .ok (id, spec)) :
    (ja3 = "" ∧ id = .helloChrome_Auto ∧ spec = none) ∨
      ∃ data s, parseJA3 ja3 = .ok data ∧ id = .helloCustom ∧ spec = some s ∧
        s.tlsVersMin = data.version ∧ s.tlsVersMax = data.version ∧
        s.cipherSuites = data.cipherSuites ∧ s.extensions.map TLSExtension.id = data.extensions := by
  rcases selectWithoutFile_ofJA3 getBrowserJA3 ja3 serverName tlsConfig h with
    h | ⟨data, s, hdata, hb, hid, rfl⟩
  · exact .inl h
  · exact .inr ⟨data, s, hdata, hid, rfl, ids_of_build hb⟩

/-- **The ClientHello of every `DialTLSWithJA3` handshake**, in both packages: Chrome's built-in
one for an empty string, else exactly the one the JA3 string describes: its version as minimum
and maximum, its cipher suites in order, and one extension per JA3 extension id, in order. -/
theorem dialTLSWithJA3_hello (network addr ja3 serverName : String)
    (tlsConfig : Option TLSConfig) (c : Config) (id : ClientHelloID)
    (spec : Option ClientHelloSpec) :
    (Effect.handshake c id spec ∈
        (Ja3.dialTLSWithJA3 env ctx network addr ja3 serverName tlsConfig).2 ∨
      Effect.handshake c id spec ∈
        (Fingerprint.dialTLSWithJA3 env sha256 files g ctx now network addr ja3 serverName
          tlsConfig).1.2) →
    c = utlsConfigOf (.ofJA3 ja3 serverName tlsConfig) ∧
      ((ja3 = "" ∧ id = .helloChrome_Auto ∧ spec = none) ∨
        ∃ data s, parseJA3 ja3 = .ok data ∧ id = .helloCustom ∧ spec = some s ∧
          s.tlsVersMin = data.version ∧ s.tlsVersMax = data.version ∧
          s.cipherSuites = data.cipherSuites ∧
          s.extensions.map TLSExtension.id = data.extensions) := by
  rintro (h | h)
  · obtain ⟨hc, hs⟩ := handshake_of_mem_ja3Dial env ctx rfl h
    exact ⟨hc, ja3Hello_of_selectWithoutFile _ ja3 serverName tlsConfig hs⟩
  · obtain ⟨hc, hs⟩ := handshake_of_mem_fingerprintDial env sha256 files g ctx now rfl h
    exact ⟨hc, ja3Hello_of_selectWithoutFile _ ja3 serverName tlsConfig hs⟩

/-- A JA3 string with one cipher and the extensions SNI and ALPN, every call out succeeding. -/
theorem dialTLSWithJA3_hello_sent :
    ∃ c id spec, Effect.handshake c id spec ∈
        (Ja3.dialTLSWithJA3 Env.succeeding ⟨none⟩ "tcp" "example.com:443" "771,4865,0-16,29,0"
          "example.com" none).2 ∧
      c = utlsConfigOf (.ofJA3 "771,4865,0-16,29,0" "example.com" none) ∧
      (("771,4865,0-16,29,0" = "" ∧ id = .helloChrome_Auto ∧ spec = none) ∨
        ∃ data s, parseJA3 "771,4865,0-16,29,0" = .ok data ∧ id = .helloCustom ∧ spec = some s ∧
          s.tlsVersMin = data.version ∧ s.tlsVersMax = data.version ∧
          s.cipherSuites = data.cipherSuites ∧
          s.extensions.map TLSExtension.id = data.extensions) :=
  ⟨utlsConfigOf (.ofJA3 "771,4865,0-16,29,0" "example.com" none), .helloCustom,
    some ⟨[4865], [], [.sniExtension "example.com", .alpnExtension ["h2", "http/1.1"]], 771, 771⟩,
    (fun h => ⟨h, dialTLSWithJA3_hello Env.succeeding sum256 [] .init ⟨none⟩ 0 _ _ _ _ _ _ _ _
      (.inl h)⟩) (by decide)⟩

end EntryPoints

/-- What a `DialTLSWithProfile` handshake presents, given its package's `GetBrowserJA3`: the
configuration built from the caller's, and the spec the profile's JA3 string describes when
`GetBrowserJA3` has one, else the engine's built-in imitation `GetUTLSClientHelloID(profile)` with
no spec. -/
def ProfileHello (getBrowserJA3 : String → String) (profile serverName : String)
    (tlsConfig : Option TLSConfig) (c : Config) (id : ClientHelloID)
    (spec : Option ClientHelloSpec) : Prop :=
  c = utlsConfigOf (.ofProfile profile serverName tlsConfig) ∧
    (((profile = "" ∨ getBrowserJA3 profile = "") ∧ id = getUTLSClientHelloID profile ∧
        spec = none) ∨
      ∃ data s, parseJA3 (getBrowserJA3 profile) = .ok data ∧ id = .helloCustom ∧
        spec = some s ∧ s.tlsVersMin = data.version ∧ s.tlsVersMax = data.version ∧
        s.cipherSuites = data.cipherSuites ∧ s.extensions.map TLSExtension.id = data.extensions)

/-- What `selectWithoutFile` chooses for a profile dial is a `ProfileHello`. -/
theorem profileHello_of_selectWithoutFile (getBrowserJA3 : String → String)
    (profile serverName : String) (tlsConfig : Option TLSConfig) {c : Config} {id : ClientHelloID}
    {spec : Option ClientHelloSpec} (hc : c = utlsConfigOf (.ofProfile profile serverName tlsConfig))
    (h : selectWithoutFile getBrowserJA3 (.ofProfile profile serverName tlsConfig) = .ok (id, spec)) :
    ProfileHello getBrowserJA3 profile serverName tlsConfig c id spec := by
  refine ⟨hc, ?_⟩
  rcases selectWithoutFile_ofProfile getBrowserJA3 profile serverName tlsConfig h with
    h | ⟨data, s, hdata, hb, hid, rfl⟩
  · exact .inl h
  · exact .inr ⟨data, s, hdata, hid, rfl, ids_of_build hb⟩

section EntryPoints

variable (env : Env) (sha256 : List UInt8 → Digest) (files : List (String × FileInfo))
  (g : Globals) (ctx : Context) (now : Nat)

/-- **The ClientHello of every `DialTLSWithProfile` handshake**, in each package with its own
`GetBrowserJA3`: the one the profile's JA3 string describes when `GetBrowserJA3` has one, else the
engine's built-in imitation `GetUTLSClientHelloID(profile)` with no spec. -/
theorem dialTLSWithProfile_hello (network addr profile serverName : String)
    (tlsConfig : Option TLSConfig) (c : Config) (id : ClientHelloID)
    (spec : Option ClientHelloSpec) :
    (Effect.handshake c id spec ∈
        (Ja3.dialTLSWithProfile env ctx network addr profile serverName tlsConfig).2 →
      ProfileHello env.getBrowserJA3 profile serverName tlsConfig c id spec) ∧
    (Effect.handshake c id spec ∈
        (Fingerprint.dialTLSWithProfile env sha256 files g ctx now network addr profile serverName
          tlsConfig).1.2 →
      ProfileHello Fingerprint.getBrowserJA3 profile serverName tlsConfig c id spec) :=
  ⟨fun h =>
    have ⟨hc, hs⟩ := handshake_of_mem_ja3Dial env ctx rfl h
    profileHello_of_selectWithoutFile _ profile serverName tlsConfig hc hs,
  fun h =>
    have ⟨hc, hs⟩ := handshake_of_mem_fingerprintDial env sha256 files g ctx now rfl h
    profileHello_of_selectWithoutFile _ profile serverName tlsConfig hc hs⟩

/-- A profile whose JA3 string the `ja3` package's `GetBrowserJA3` knows, every call out
succeeding. -/
theorem dialTLSWithProfile_hello_sent :
    ∃ c id spec, Effect.handshake c id spec ∈
        (Ja3.dialTLSWithProfile { Env.succeeding with getBrowserJA3 := fun _ => "771,4865,0-16,29,0" }
          ⟨none⟩ "tcp" "example.com:443" "chrome_120" "example.com" none).2 ∧
      ProfileHello (fun _ => "771,4865,0-16,29,0") "chrome_120" "example.com" none c id spec :=
  ⟨utlsConfigOf (.ofProfile "chrome_120" "example.com" none), .helloCustom,
    some ⟨[4865], [], [.sniExtension "example.com", .alpnExtension ["h2", "http/1.1"]], 771, 771⟩,
    (fun h => ⟨h, (dialTLSWithProfile_hello _ sum256 [] .init ⟨none⟩ 0 _ _ _ _ _ _ _ _).1 h⟩)
      (by decide)⟩

end EntryPoints

end TlsFingerprint.Dialer
