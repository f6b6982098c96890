import TlsFingerprint.Fingerprint.Http2
import TlsFingerprint.Dialer.Upgrade
import TlsFingerprint.Go.Sha256
import Mathlib.Data.String.Basic

/-!
# HTTP/2 transports configured from a profile

`ConfigureHTTP2Transport` carries what it can of a browser's HTTP/2 profile over to a
`golang.org/x/net/http2` transport: `MaxHeaderListSize` from setting 6, strict stream limits when
setting 3 is positive, a read-idle timeout of 10, 15 or 30 seconds chosen by the size of the
initial window update, and `AllowHTTP` off. The rest of the fingerprint the library does not let a
client set: `ValidateHTTP2Config` lists it as warnings, while `GetConfigurableSettings` and
`GetHTTP2FingerprintInfo` report what is set. `GetHTTP2Transport`, `NewHTTP2Transport` and
`NewHTTP2Client` build transports and clients on top.

The profile table `HTTP2ProfilesDB` is a parameter `db`, looked up as a Go map. The source passes
the transport by pointer: `configureHTTP2Transport` returns the transport after the call with the
error, and a call that fails leaves it as it was (`configureHTTP2Transport_of_none`).

* `configureHTTP2Transport_spec` says in one update what a successful call does, and
  `getHTTP2Transport_eq` and `newHTTP2Transport_spec` carry it to the builders.
* `getConfigurableSettings_agree`: what `GetConfigurableSettings` reports of a profile is what
  `GetHTTP2Transport` sets.
* `newHTTP2Transport_allowHTTP`: a profile turns the caller's `AllowHTTP` off, for the profile is
  applied after `AllowHTTP` is copied and it is not one of the overrides, which win over the
  profile.
-/

namespace TlsFingerprint.Fingerprint

open Go Dialer

/-! ## Profiles and transports -/

/-- `HTTP2Profile`: a browser's Akamai fingerprint with its parsed parts; a nil `Priority` is
`none`. `HeaderTableSize` is read by no function here. -/
structure HTTP2Profile where
  name : String
  fingerprint : String
  settings : SettingsMap
  windowUpdate : UInt32
  priority : Option HTTP2Priority
  pseudoHeaderOrder : String

/-- `SettingsHeaderTableSize`. -/
def settingsHeaderTableSize : UInt16 := 0x1

/-- `SettingsEnablePush`. -/
def settingsEnablePush : UInt16 := 0x2

/-- `SettingsMaxConcurrentStreams`. -/
def settingsMaxConcurrentStreams : UInt16 := 0x3

/-- `SettingsInitialWindowSize`. -/
def settingsInitialWindowSize : UInt16 := 0x4

/-- `SettingsMaxFrameSize`. -/
def settingsMaxFrameSize : UInt16 := 0x5

/-- `SettingsMaxHeaderListSize`. -/
def settingsMaxHeaderListSize : UInt16 := 0x6

/-- `GetHTTP2Profile(name)`: the entry of the profile table. -/
def getHTTP2Profile (db : List (String × HTTP2Profile)) (name : String) : Option HTTP2Profile :=
  db.lookup name

/-- `GetHTTP2Fingerprint(profileName)`: the profile's Akamai string, `""` for an unknown name. -/
def getHTTP2Fingerprint (db : List (String × HTTP2Profile)) (profileName : String) : String :=
  match getHTTP2Profile db profileName with
  | some profile => profile.fingerprint
  | none => ""

/-- `GenerateHTTP2FingerprintHash(fingerprint)`: the SHA-256 digest of the string in lower-case
hex, `sha256` being `crypto/sha256.Sum256`. -/
def generateHTTP2FingerprintHash (sha256 : List UInt8 → Digest) (fingerprint : String) : String :=
  hexEncode (sha256 (bytes fingerprint)).bytes

/-- `ListHTTP2Profiles()`: the table's names in the order `sort.Strings` gives them. -/
def listHTTP2Profiles (db : List (String × HTTP2Profile)) : List String :=
  (db.map Prod.fst).mergeSort fun a b => decide (a ≤ b)

/-- The fields of `http2.Transport` the code sets, at their zero values by default. A
`time.Duration` is an integer number of nanoseconds. -/
structure Transport where
  tlsClientConfig : Option TLSConfig := none
  disableCompression : Bool := false
  allowHTTP : Bool := false
  maxHeaderListSize : UInt32 := 0
  strictMaxConcurrentStreams : Bool := false
  readIdleTimeout : Int := 0
  pingTimeout : Int := 0
  deriving DecidableEq, Repr

/-- `time.Second`. -/
def second : Int := 1000000000

/-- The errors of this file, one per `fmt.Errorf`. -/
inductive TransportError
  /-- `HTTP/2 profile not found: %s` -/
  | profileNotFound (name : String)
  /-- `HTTP2ClientConfig is nil` -/
  | clientConfigNil
  /-- `failed to create HTTP/2 transport: %w` -/
  | createTransport (err : TransportError)
  deriving DecidableEq, Repr

/-- `if err != nil { return nil, err }` after a call that updates its receiver. -/
def okUnlessErr {α ε : Type} : α × Option ε → Except ε α
  | (_, some err) => .error err
  | (a, none) => .ok a

/-- The shape the entry points share: look the profile up, fail with `HTTP/2 profile not found`
when it is missing, and go on with it otherwise. -/
def withProfile {α : Type} (db : List (String × HTTP2Profile)) (profileName : String)
    (k : HTTP2Profile → α) : Except TransportError α :=
  match getHTTP2Profile db profileName with
  | none => .error (.profileNotFound profileName)
  | some profile => .ok (k profile)

section
variable {α β : Type} {db : List (String × HTTP2Profile)} {profileName : String}
  {k : HTTP2Profile → α}

/-- A missing profile fails with `HTTP/2 profile not found`. -/
@[simp] theorem withProfile_of_none (h : getHTTP2Profile db profileName = none) :
    withProfile db profileName k = .error (.profileNotFound profileName) := by
  simp only [withProfile, h]

/-- A found profile goes on with it. -/
@[simp] theorem withProfile_of_some {profile : HTTP2Profile}
    (h : getHTTP2Profile db profileName = some profile) :
    withProfile db profileName k = .ok (k profile) := by
  simp only [withProfile, h]

/-- A map after the lookup is a map of what goes on with the profile. -/
@[simp] theorem map_withProfile (f : α → β) :
    f <$> withProfile db profileName k = withProfile db profileName (f ∘ k) := by
  unfold withProfile
  split <;> rfl

end

/-! ## `ConfigureHTTP2Transport` -/

/-- Step 3 of `ConfigureHTTP2Transport`: the read-idle timeout inferred from the initial window
update, longer for a larger window. -/
def readIdleTimeoutFor (windowUpdate : UInt32) : Int :=
  if windowUpdate > 10000000 then 30 * second
  else if windowUpdate > 1000000 then 15 * second
  else 10 * second

/-- `ConfigureHTTP2Transport(transport, profileName)`: the transport after the call, and the error
it returns. -/
def configureHTTP2Transport (db : List (String × HTTP2Profile)) (transport : Transport)
    (profileName : String) : Transport × Option TransportError :=
  match getHTTP2Profile db profileName with
  | none => (transport, some (.profileNotFound profileName))
  | some profile =>
    let transport := match profile.settings.get? settingsMaxHeaderListSize with
      | some maxHeaderSize => { transport with maxHeaderListSize := maxHeaderSize }
      | none => transport
    let transport := match profile.settings.get? settingsMaxConcurrentStreams with
      | some maxStreams => { transport with strictMaxConcurrentStreams := maxStreams > 0 }
      | none => transport
    ({ transport with readIdleTimeout := readIdleTimeoutFor profile.windowUpdate,
                      allowHTTP := false }, none)

/-- What a profile makes of a transport: the four fields `ConfigureHTTP2Transport` sets. -/
def HTTP2Profile.configure (profile : HTTP2Profile) (transport : Transport) : Transport :=
  { transport with
    maxHeaderListSize :=
      (profile.settings.get? settingsMaxHeaderListSize).getD transport.maxHeaderListSize
    strictMaxConcurrentStreams :=
      ((profile.settings.get? settingsMaxConcurrentStreams).map fun v => decide (v > 0)).getD
        transport.strictMaxConcurrentStreams
    readIdleTimeout := readIdleTimeoutFor profile.windowUpdate
    allowHTTP := false }

section
variable {db : List (String × HTTP2Profile)} {transport : Transport} {profileName : String}

/-- A call that finds no profile fails and leaves the transport as it was. -/
theorem configureHTTP2Transport_of_none (h : getHTTP2Profile db profileName = none) :
    configureHTTP2Transport db transport profileName =
      (transport, some (.profileNotFound profileName)) := by
  simp only [configureHTTP2Transport, h]

/-- A call that finds its profile succeeds and applies it. -/
theorem configureHTTP2Transport_spec {profile : HTTP2Profile}
    (h : getHTTP2Profile db profileName = some profile) :
    configureHTTP2Transport db transport profileName = (profile.configure transport, none) := by
  simp only [configureHTTP2Transport, h, HTTP2Profile.configure]
  cases profile.settings.get? settingsMaxHeaderListSize <;>
    cases profile.settings.get? settingsMaxConcurrentStreams <;> rfl

end

/-! ## Transports and clients -/

/-- `GetHTTP2Transport(tlsConfig, profileName)`. -/
def getHTTP2Transport (db : List (String × HTTP2Profile)) (tlsConfig : Option TLSConfig)
    (profileName : String) : Except TransportError Transport :=
  okUnlessErr (configureHTTP2Transport db { tlsClientConfig := tlsConfig } profileName)

/-- `GetHTTP2Transport` applies the profile to a transport holding the TLS configuration. -/
theorem getHTTP2Transport_eq (db : List (String × HTTP2Profile)) (tlsConfig : Option TLSConfig)
    (profileName : String) :
    getHTTP2Transport db tlsConfig profileName =
      withProfile db profileName (·.configure { tlsClientConfig := tlsConfig }) := by
  cases h : getHTTP2Profile db profileName with
  | none =>
    simp only [getHTTP2Transport, configureHTTP2Transport_of_none h, okUnlessErr,
      withProfile_of_none h]
  | some profile =>
    simp only [getHTTP2Transport, configureHTTP2Transport_spec h, okUnlessErr,
      withProfile_of_some h]

/-- `HTTP2TransportConfig`; a nil override is `none`. -/
structure HTTP2TransportConfig where
  tlsConfig : Option TLSConfig := none
  profileName : String := ""
  maxHeaderListSize : Option UInt32 := none
  readIdleTimeout : Option Int := none
  pingTimeout : Option Int := none
  disableCompression : Bool := false
  allowHTTP : Bool := false
  deriving DecidableEq, Repr

/-- The overrides of `NewHTTP2Transport`, each set when the caller gave one. -/
def HTTP2TransportConfig.applyOverrides (config : HTTP2TransportConfig) (transport : Transport) :
    Transport :=
  { transport with
    maxHeaderListSize := config.maxHeaderListSize.getD transport.maxHeaderListSize
    readIdleTimeout := config.readIdleTimeout.getD transport.readIdleTimeout
    pingTimeout := config.pingTimeout.getD transport.pingTimeout }

/-- The transport `NewHTTP2Transport` starts from: the caller's fields, before any profile. -/
def HTTP2TransportConfig.base (config : HTTP2TransportConfig) : Transport :=
  { tlsClientConfig := config.tlsConfig, disableCompression := config.disableCompression,
    allowHTTP := config.allowHTTP }

/-- `NewHTTP2Transport(config)`; a nil config is `none`. -/
def newHTTP2Transport (db : List (String × HTTP2Profile)) (config : Option HTTP2TransportConfig) :
    Except TransportError Transport :=
  let config := config.getD {}
  let configured : Except TransportError Transport :=
    if config.profileName ≠ "" then
      okUnlessErr (configureHTTP2Transport db config.base config.profileName)
    else .ok config.base
  config.applyOverrides <$> configured

/-- `NewHTTP2Transport` applies the profile, if one is named and found, then the overrides. -/
theorem newHTTP2Transport_spec (db : List (String × HTTP2Profile)) (config : HTTP2TransportConfig) :
    newHTTP2Transport db (some config) =
      if config.profileName = "" then .ok (config.applyOverrides config.base)
      else withProfile db config.profileName
        fun profile => config.applyOverrides (profile.configure config.base) := by
  simp only [newHTTP2Transport, Option.getD_some, ne_eq, ite_not]
  split_ifs
  · rfl
  · cases h : getHTTP2Profile db config.profileName with
    | none => simp only [configureHTTP2Transport_of_none h, okUnlessErr, withProfile_of_none h]; rfl
    | some profile =>
      simp only [configureHTTP2Transport_spec h, okUnlessErr, withProfile_of_some h]; rfl

/-- **A profile turns `AllowHTTP` off.** The transport `NewHTTP2Transport` returns allows HTTP
exactly when the caller asked for it and named no profile. -/
theorem newHTTP2Transport_allowHTTP {db : List (String × HTTP2Profile)}
    {config : HTTP2TransportConfig} {transport : Transport}
    (h : newHTTP2Transport db (some config) = .ok transport) :
    transport.allowHTTP = (config.allowHTTP && config.profileName == "") := by
  rw [newHTTP2Transport_spec] at h
  split_ifs at h with hp
  · cases h; simp [hp, HTTP2TransportConfig.applyOverrides, HTTP2TransportConfig.base]
  · cases hg : getHTTP2Profile db config.profileName with
    | none => rw [withProfile_of_none hg] at h; cases h
    | some profile =>
      rw [withProfile_of_some hg] at h
      cases h; simp [hp, HTTP2TransportConfig.applyOverrides, HTTP2Profile.configure]

/-- A Chrome profile turns off the `AllowHTTP` its caller asked for. -/
theorem newHTTP2Transport_allowHTTP_chrome :
    ({ maxHeaderListSize := 262144, strictMaxConcurrentStreams := true,
       readIdleTimeout := 30 * second } : Transport).allowHTTP = (true && "chrome_120" == "") :=
  @newHTTP2Transport_allowHTTP
    [("chrome_120", ⟨"Chrome 120", "", ⟨[(3, 100), (6, 262144)], by decide⟩, 15663105, none, ""⟩)]
    { profileName := "chrome_120", allowHTTP := true } _ (by decide)

example : newHTTP2Transport
    [("chrome_120", ⟨"Chrome 120", "", ⟨[(3, 100), (6, 262144)], by decide⟩, 15663105, none, ""⟩)]
    (some { profileName := "chrome_120", allowHTTP := true }) =
      .ok { maxHeaderListSize := 262144, strictMaxConcurrentStreams := true,
            readIdleTimeout := 30 * second } := by
  decide

/-- `HTTP2ClientConfig`; `DialTimeout`, `UserAgent` and `Headers` are read by no function here. -/
structure HTTP2ClientConfig where
  tlsConfig : Option TLSConfig
  browserProfile : String
  http2Profile : String
  requestTimeout : Int
  readIdleTimeout : Int
  deriving DecidableEq, Repr

/-- The fields of `http.Client` `NewHTTP2Client` sets. -/
structure Client where
  transport : Transport
  timeout : Int := 0
  deriving DecidableEq, Repr

/-- The profile `NewHTTP2Client` asks for: `HTTP2Profile`, or `BrowserProfile` when empty. -/
def HTTP2ClientConfig.http2ProfileName (config : HTTP2ClientConfig) : String :=
  if config.http2Profile = "" then config.browserProfile else config.http2Profile

/-- `NewHTTP2Client(config)`; a nil config is `none`. -/
def newHTTP2Client (db : List (String × HTTP2Profile)) :
    Option HTTP2ClientConfig → Except TransportError Client
  | none => .error .clientConfigNil
  | some config =>
    match getHTTP2Transport db config.tlsConfig config.http2ProfileName with
    | .error err => .error (.createTransport err)
    | .ok http2Transport =>
      let http2Transport := if config.readIdleTimeout > 0 then
        { http2Transport with readIdleTimeout := config.readIdleTimeout } else http2Transport
      let client : Client := { transport := http2Transport }
      .ok (if config.requestTimeout > 0 then { client with timeout := config.requestTimeout }
        else client)

/-! ## What the reports say -/

/-- The values of the `map[string]interface{}` of `GetConfigurableSettings`. -/
inductive ConfigValue
  | uint32 (v : UInt32)
  | string (s : String)
  | bool (b : Bool)
  deriving DecidableEq, Repr

/-- The map `GetConfigurableSettings` builds for a profile, as its entries. -/
def HTTP2Profile.configurable (profile : HTTP2Profile) : List (String × ConfigValue) :=
  let configurable := match profile.settings.get? settingsMaxHeaderListSize with
    | some maxHeaderSize => [("MaxHeaderListSize", ConfigValue.uint32 maxHeaderSize)]
    | none => []
  configurable ++
    [("ReadIdleTimeout", .string "inferred from WindowUpdate size"),
     ("StrictMaxConcurrentStreams",
      .bool ((profile.settings.get? settingsMaxConcurrentStreams).getD 0 > 0))]

/-- `GetConfigurableSettings(profileName)`. -/
def getConfigurableSettings (db : List (String × HTTP2Profile)) (profileName : String) :
    Except TransportError (List (String × ConfigValue)) :=
  withProfile db profileName HTTP2Profile.configurable

/-- **`GetConfigurableSettings` reports what `GetHTTP2Transport` sets.** The two fail on the same
names; otherwise the reported `StrictMaxConcurrentStreams` is the transport's, and so is the
reported `MaxHeaderListSize` when there is one (the transport keeps its zero value when none is
reported). -/
theorem getConfigurableSettings_agree (db : List (String × HTTP2Profile))
    (tlsConfig : Option TLSConfig) (profileName : String) :
    (fun configurable => (configurable.lookup "StrictMaxConcurrentStreams",
        (configurable.lookup "MaxHeaderListSize").getD (.uint32 0))) <$>
      getConfigurableSettings db profileName =
    (fun transport : Transport => (some (.bool transport.strictMaxConcurrentStreams),
        ConfigValue.uint32 transport.maxHeaderListSize)) <$>
      getHTTP2Transport db tlsConfig profileName := by
  rw [getHTTP2Transport_eq, getConfigurableSettings, map_withProfile, map_withProfile]
  congr 1
  funext profile
  simp only [Function.comp, HTTP2Profile.configurable, HTTP2Profile.configure]
  cases profile.settings.get? settingsMaxHeaderListSize <;>
    cases profile.settings.get? settingsMaxConcurrentStreams <;> rfl

/-- The line `GetHTTP2FingerprintInfo` prints for a profile: its name, its fingerprint and its
`MaxHeaderListSize` setting, 0 when it has none. -/
def HTTP2Profile.info (profile : HTTP2Profile) : String :=
  "Profile: " ++ profile.name ++ " | Fingerprint: " ++ profile.fingerprint ++
    " | Configurable: MaxHeaderListSize=" ++
    formatUint ((profile.settings.get? settingsMaxHeaderListSize).getD 0).toNat 10

/-- `GetHTTP2FingerprintInfo(profileName)`. -/
def getHTTP2FingerprintInfo (db : List (String × HTTP2Profile)) (profileName : String) :
    Except TransportError String :=
  withProfile db profileName HTTP2Profile.info

/-! ## `ValidateHTTP2Config` -/

/-- `if cond { warnings = append(warnings, msg) }`. -/
def warnIf (cond : Bool) (msg : String) : List String :=
  if cond then [msg] else []

/-- The warnings of `ValidateHTTP2Config` for a profile, in the order the code appends them. -/
def limitationWarnings (profile : HTTP2Profile) : List String :=
  warnIf (profile.settings.get? settingsHeaderTableSize).isSome
      "SETTINGS_HEADER_TABLE_SIZE cannot be configured (http2 library limitation)" ++
    warnIf ((profile.settings.get? settingsEnablePush).any (· != 0))
      "SETTINGS_ENABLE_PUSH is always 0 in Go (HTTP/2 push deprecated)" ++
    warnIf (profile.settings.get? settingsInitialWindowSize).isSome
      "SETTINGS_INITIAL_WINDOW_SIZE cannot be configured directly" ++
    warnIf (profile.settings.get? settingsMaxFrameSize).isSome
      "SETTINGS_MAX_FRAME_SIZE is hardcoded to 16384" ++
    warnIf (profile.windowUpdate != 0 && profile.windowUpdate != 65535)
      ("Initial WINDOW_UPDATE (" ++ formatUint profile.windowUpdate.toNat 10 ++
        ") cannot be configured") ++
    warnIf (profile.pseudoHeaderOrder != "" && profile.pseudoHeaderOrder != "m,a,s,p")
      ("Pseudo-header order \x27" ++ profile.pseudoHeaderOrder ++
        "\x27 cannot be configured (library uses \x27m,a,s,p\x27)") ++
    warnIf profile.priority.isSome "PRIORITY frames are not sent by Go HTTP/2 client"

/-- `ValidateHTTP2Config(profileName)`. -/
def validateHTTP2Config (db : List (String × HTTP2Profile)) (profileName : String) :
    Except TransportError (List String) :=
  withProfile db profileName limitationWarnings

end TlsFingerprint.Fingerprint
