import TlsFingerprint.Ja3.Build
import TlsFingerprint.Go.Unicode

/-!
# The descriptor builder of the `ja3` package: `BuildClientHelloSpecFromFile`

A ClientHello descriptor (the `tls.peet.ws` JSON) lists cipher names and an array of extension
objects. Both JSON builders walk that array with a `switch` whose arms test
`strings.Contains(ext.Name, …)` in a fixed order (`switchCase`); the first test that holds picks
the arm, and a name no test matches falls out of the switch and emits nothing.

`BuildClientHelloSpecFromFile`, the builder the dialers fall back to, emits only some arms' extensions
in place (SNI with the caller's server name, padding, session ticket, extended master secret,
status request, PSK modes, SCT, renegotiation info). The arms of groups, point formats, signature
algorithms, supported versions and ALPN only collect values, and the collected extensions are
appended after the whole array, in that fixed order, each when it collected something.
`buildClientHelloSpecFromFile_ids` states this on extension ids: the in-place ids in array order
(`foldl_fileExtensionStep_ids`), then a sublist of `[10, 11, 13, 43, 16]`.
-/

namespace TlsFingerprint

open Go Utls

/-! ## The extension switch of the JSON builders -/

/-- The arms of the `switch` over an extension object's name in the JSON builders. -/
inductive ExtensionCase
  | serverName
  | supportedGroups
  | ecPointFormats
  | alpn
  | signatureAlgorithms
  | supportedVersions
  | keyShare
  | pskKeyExchangeModes
  | sessionTicket
  | statusRequest
  | signedCertificateTimestamp
  | extendedMasterSecret
  | renegotiationInfo
  | padding
  deriving DecidableEq, Repr

/-- The extension type an arm is about. -/
def ExtensionCase.id : ExtensionCase → UInt16
  | .serverName => 0
  | .supportedGroups => 10
  | .ecPointFormats => 11
  | .alpn => 16
  | .signatureAlgorithms => 13
  | .supportedVersions => 43
  | .keyShare => 51
  | .pskKeyExchangeModes => 45
  | .sessionTicket => 35
  | .statusRequest => 5
  | .signedCertificateTimestamp => 18
  | .extendedMasterSecret => 23
  | .renegotiationInfo => 65281
  | .padding => 21

/-- `switch { case strings.Contains(name, sub₁): … case strings.Contains(name, sub₂): … }`: the arm
of the first test, in order, whose substring `name` contains; `none` when no test holds. -/
def switchCase (tests : List (String × ExtensionCase)) (name : String) : Option ExtensionCase :=
  (tests.find? fun t => contains name t.1).map Prod.snd

/-- The values of a list of parses that succeeded, in order: a Go loop that appends `v` when
`v, err := parse(x)` has `err == nil`. -/
def okValues {ε α : Type} (parse : String → Except ε α) (xs : List String) : List α :=
  xs.filterMap fun x => (parse x).toOption

namespace Ja3

/-! ## Name tables -/

/-- A lookup in one of the name maps of the `ja3` parsers, failing with `err`. -/
def lookupName (table : List (String × UInt16)) (err name : String) : Except String UInt16 :=
  match table.lookup name with
  | some id => .ok id
  | none => .error err

/-- The `cipherMap` of `ParseCipherName`. -/
def cipherMap : List (String × UInt16) :=
  [("TLS_AES_128_GCM_SHA256", 0x1301), ("TLS_AES_256_GCM_SHA384", 0x1302),
    ("TLS_CHACHA20_POLY1305_SHA256", 0x1303),
    ("TLS_ECDHE_ECDSA_WITH_AES_128_GCM_SHA256", 0xc02b),
    ("TLS_ECDHE_RSA_WITH_AES_128_GCM_SHA256", 0xc02f),
    ("TLS_ECDHE_ECDSA_WITH_AES_256_GCM_SHA384", 0xc02c),
    ("TLS_ECDHE_RSA_WITH_AES_256_GCM_SHA384", 0xc030),
    ("TLS_ECDHE_ECDSA_WITH_CHACHA20_POLY1305_SHA256", 0xcca9),
    ("TLS_ECDHE_RSA_WITH_CHACHA20_POLY1305_SHA256", 0xcca8),
    ("TLS_ECDHE_RSA_WITH_AES_128_CBC_SHA", 0xc013),
    ("TLS_ECDHE_RSA_WITH_AES_256_CBC_SHA", 0xc014),
    ("TLS_RSA_WITH_AES_128_GCM_SHA256", 0x009c), ("TLS_RSA_WITH_AES_256_GCM_SHA384", 0x009d),
    ("TLS_RSA_WITH_AES_128_CBC_SHA", 0x002f), ("TLS_RSA_WITH_AES_256_CBC_SHA", 0x0035),
    ("TLS_ECDHE_ECDSA_WITH_AES_128_CBC_SHA", 0xc009),
    ("TLS_ECDHE_ECDSA_WITH_AES_256_CBC_SHA", 0xc00a)]

/-- `ParseCipherName(name)`. -/
def parseCipherName (name : String) : Except String UInt16 :=
  lookupName cipherMap ("unknown cipher: " ++ name) name

/-- The `groupMap` of `ParseSupportedGroup`. -/
def groupMap : List (String × UInt16) :=
  [("X25519", 29), ("P-256", 23), ("P-384", 24), ("P-521", 25), ("secp256r1", 23),
    ("secp384r1", 24), ("secp521r1", 25), ("x25519", 29)]

/-- The parenthesised id of `ParseSupportedGroup`: a `(` after the first byte, a first `)` after
it, and a 16-bit decimal between them. -/
def parenthesisedGroup (name : String) : Option UInt16 :=
  match index name '(', index name ')' with
  | some idx, some endIdx =>
    if idx > 0 ∧ endIdx > idx then
      (parseUint (trimSpace (slice name (idx + 1) endIdx)) 10 16).toOption.map UInt16.ofNat
    else none
  | _, _ => none

/-- `ParseSupportedGroup(name)`: the parenthesised id, else the name map on the trimmed name. -/
def parseSupportedGroup (name : String) : Except String UInt16 :=
  match parenthesisedGroup name with
  | some id => .ok id
  | none => lookupName groupMap ("unknown supported group: " ++ name) (trimSpace name)

/-- The `sigAlgMap` of `ParseSignatureAlgorithm`. -/
def sigAlgMap : List (String × UInt16) :=
  [("rsa_pkcs1_sha256", 0x0401), ("rsa_pkcs1_sha384", 0x0501), ("rsa_pkcs1_sha512", 0x0601),
    ("ecdsa_secp256r1_sha256", 0x0403), ("ecdsa_secp384r1_sha384", 0x0503),
    ("ecdsa_secp521r1_sha512", 0x0603), ("rsa_pss_rsae_sha256", 0x0804),
    ("rsa_pss_rsae_sha384", 0x0805), ("rsa_pss_rsae_sha512", 0x0806), ("ed25519", 0x0807),
    ("rsa_pss_pss_sha256", 0x0809), ("rsa_pss_pss_sha384", 0x080a),
    ("rsa_pss_pss_sha512", 0x080b)]

/-- `ParseSignatureAlgorithm(name)`. -/
def parseSignatureAlgorithm (name : String) : Except String UInt16 :=
  lookupName sigAlgMap ("unknown signature algorithm: " ++ name) name

/-- The `versionMap` of `ParseTLSVersion`. -/
def versionMap : List (String × UInt16) :=
  [("TLS 1.0", 0x0301), ("TLS 1.1", 0x0302), ("TLS 1.2", 0x0303), ("TLS 1.3", 0x0304),
    ("SSL 3.0", 0x0300)]

/-- `ParseTLSVersion(version)`: the version map, else a 16-bit decimal. -/
def parseTLSVersion (version : String) : Except String UInt16 :=
  match versionMap.lookup version with
  | some id => .ok id
  | none =>
    match parseUint version 10 16 with
    | .ok v => .ok (UInt16.ofNat v)
    | .error _ => .error ("unknown TLS version: " ++ version)

/-- The point formats of an `ec_point_formats` object: each string without its `0x`, kept when two
bytes long, read by `Sscanf("%02x")` (0 when the scan fails, the error being ignored). -/
def parsePointFormats (points : List String) : List UInt8 :=
  points.filterMap fun p =>
    let p := trimPrefix p "0x"
    if p.length = 2 then some ((sscanfHex02 p).getD 0) else none

/-! ## The descriptor and the builder -/

/-- An element of `ClientHelloSpecFile`'s `tls.extensions`, with the fields the builder and
`GetJA4FromClientHelloFile` read. -/
structure FileExtension where
  name : String
  serverName : String
  ellipticCurvesPointFormats : List String
  supportedGroups : List String
  protocols : List String
  signatureAlgorithms : List String
  versions : List String
  paddingDataLength : Int
  deriving DecidableEq, Repr

/-- `ClientHelloSpecFile`: the fields of its `tls` object the builder and
`GetJA4FromClientHelloFile` read. -/
structure ClientHelloSpecFile where
  ciphers : List String
  extensions : List FileExtension
  ja4 : String
  tlsVersionRecord : String
  tlsVersionNegotiated : String
  deriving DecidableEq, Repr

/-- The tests of the builder's `switch`, in source order. -/
def fileExtensionTests : List (String × ExtensionCase) :=
  [("server_name", .serverName), ("supported_groups", .supportedGroups),
    ("ec_point_formats", .ecPointFormats), ("signature_algorithms", .signatureAlgorithms),
    ("application_layer_protocol_negotiation", .alpn), ("supported_versions", .supportedVersions),
    ("key_share", .keyShare), ("padding", .padding), ("session_ticket", .sessionTicket),
    ("extended_master_secret", .extendedMasterSecret), ("status_request", .statusRequest),
    ("psk_key_exchange_modes", .pskKeyExchangeModes),
    ("signed_certificate_timestamp", .signedCertificateTimestamp),
    ("renegotiation_info", .renegotiationInfo)]

/-- The locals the builder's loop updates: the extensions emitted so far and the values collected
for the extensions appended after the loop. -/
structure FileLoop where
  extensions : List TLSExtension
  supportedGroups : List UInt16
  supportedPoints : List UInt8
  signatureAlgorithms : List UInt16
  supportedVersions : List UInt16
  alpnProtocols : List String
  deriving DecidableEq, Repr

/-- The loop's locals before the first element. -/
def FileLoop.init : FileLoop := ⟨[], [], [], [], [], []⟩

/-- Append one extension to the emitted ones. -/
def FileLoop.emit (st : FileLoop) (ext : TLSExtension) : FileLoop :=
  { st with extensions := st.extensions ++ [ext] }

/-- One iteration of the builder's loop over the extension objects. -/
def fileExtensionStep (serverName : String) (st : FileLoop) (ext : FileExtension) : FileLoop :=
  match switchCase fileExtensionTests ext.name with
  | some .serverName => if serverName ≠ "" then st.emit (.sniExtension serverName) else st
  | some .supportedGroups =>
    { st with supportedGroups :=
        st.supportedGroups ++ okValues parseSupportedGroup ext.supportedGroups }
  | some .ecPointFormats =>
    { st with supportedPoints :=
        st.supportedPoints ++ parsePointFormats ext.ellipticCurvesPointFormats }
  | some .signatureAlgorithms =>
    { st with signatureAlgorithms :=
        st.signatureAlgorithms ++ okValues parseSignatureAlgorithm ext.signatureAlgorithms }
  | some .alpn => { st with alpnProtocols := ext.protocols }
  | some .supportedVersions =>
    { st with supportedVersions := st.supportedVersions ++ okValues parseTLSVersion ext.versions }
  | some .keyShare => st
  | some .padding =>
    if ext.paddingDataLength > 0 then st.emit (.utlsPaddingExtension .boringPaddingStyle) else st
  | some .sessionTicket => st.emit .sessionTicketExtension
  | some .extendedMasterSecret => st.emit .extendedMasterSecretExtension
  | some .statusRequest => st.emit .statusRequestExtension
  | some .pskKeyExchangeModes => st.emit (.pskKeyExchangeModesExtension [1])
  | some .signedCertificateTimestamp => st.emit .sctExtension
  | some .renegotiationInfo => st.emit (.renegotiationInfoExtension RenegotiateOnceAsClient)
  | none => st

/-- The extensions appended after the loop, each when its collected list is not empty. -/
def collectedExtensions (st : FileLoop) : List TLSExtension :=
  (if st.supportedGroups.length > 0 then [.supportedCurvesExtension st.supportedGroups] else []) ++
  (if st.supportedPoints.length > 0 then [.supportedPointsExtension st.supportedPoints] else []) ++
  (if st.signatureAlgorithms.length > 0 then
    [.signatureAlgorithmsExtension st.signatureAlgorithms] else []) ++
  (if st.supportedVersions.length > 0 then
    [.supportedVersionsExtension st.supportedVersions] else []) ++
  (if st.alpnProtocols.length > 0 then [.alpnExtension st.alpnProtocols] else [])

/-- The version `tls_version_record` sets for both ends of the range, when it is present and
parses. -/
def recordVersion (spec : ClientHelloSpecFile) : Option UInt16 :=
  if spec.tlsVersionRecord ≠ "" then (parseTLSVersion spec.tlsVersionRecord).toOption else none

/-- `BuildClientHelloSpecFromFile(spec, serverName)`; `none` is a nil `spec`. The compression
methods are left nil. -/
def buildClientHelloSpecFromFile :
    Option ClientHelloSpecFile → String → Except String ClientHelloSpec
  | none, _ => .error "ClientHelloSpec file data is nil"
  | some spec, serverName =>
    let st := spec.extensions.foldl (fileExtensionStep serverName) FileLoop.init
    .ok { cipherSuites := okValues parseCipherName spec.ciphers
          compressionMethods := []
          extensions := st.extensions ++ collectedExtensions st
          tlsVersMin := (recordVersion spec).getD 0
          tlsVersMax := (recordVersion spec).getD 0 }

/-! ## Where the builder's extensions come from -/

/-- The id of the extension an element emits in place: SNI when the caller gave a server name,
padding when its length is positive, and the arms that always emit; the collecting arms,
`key_share` and a name no test matches emit nothing. -/
def fileElementId (serverName : String) (ext : FileExtension) : Option UInt16 :=
  match switchCase fileExtensionTests ext.name with
  | some .serverName => if serverName ≠ "" then some 0 else none
  | some .padding => if ext.paddingDataLength > 0 then some 21 else none
  | some .supportedGroups | some .ecPointFormats | some .signatureAlgorithms | some .alpn
  | some .supportedVersions | some .keyShare | none => none
  | some c => some c.id

/-- One iteration emits at most the extension `fileElementId` names. -/
theorem fileExtensionStep_ids (serverName : String) (st : FileLoop) (ext : FileExtension) :
    (fileExtensionStep serverName st ext).extensions.map TLSExtension.id =
      st.extensions.map TLSExtension.id ++ (fileElementId serverName ext).toList := by
  unfold fileExtensionStep fileElementId
  cases switchCase fileExtensionTests ext.name with
  | none => simp
  | some c => cases c <;> simp only <;> (try split_ifs) <;> simp [FileLoop.emit] <;> rfl

/-- The loop emits in place, in array order, the extensions `fileElementId` names. -/
theorem foldl_fileExtensionStep_ids (serverName : String) (exts : List FileExtension)
    (st : FileLoop) :
    (exts.foldl (fileExtensionStep serverName) st).extensions.map TLSExtension.id =
      st.extensions.map TLSExtension.id ++ exts.filterMap (fileElementId serverName) := by
  induction exts generalizing st with
  | nil => simp
  | cons e es ih =>
    rw [List.foldl_cons, ih, fileExtensionStep_ids, List.filterMap_cons]
    cases fileElementId serverName e <;> simp

/-- The extensions appended after the loop are at most one each of supported groups, point
formats, signature algorithms, supported versions and ALPN, in that order. -/
theorem collectedExtensions_ids (st : FileLoop) :
    ((collectedExtensions st).map TLSExtension.id).Sublist [10, 11, 13, 43, 16] := by
  have one : ∀ (b : Prop) [Decidable b] (e : TLSExtension),
      ((if b then [e] else []).map TLSExtension.id).Sublist [e.id] := fun b _ e => by
    split_ifs <;> simp
  simp only [collectedExtensions, List.map_append]
  exact ((((one _ _).append (one _ _)).append (one _ _)).append (one _ _)).append (one _ _)

/-- **The builder's extension ids**: the elements' in-place extensions in array order, then at
most one each of the collected extensions. -/
theorem buildClientHelloSpecFromFile_ids (spec : ClientHelloSpecFile) (serverName : String) :
    ∃ hello tail, buildClientHelloSpecFromFile (some spec) serverName = .ok hello ∧
      tail.Sublist [10, 11, 13, 43, 16] ∧
      hello.extensions.map TLSExtension.id =
        spec.extensions.filterMap (fileElementId serverName) ++ tail :=
  ⟨_, _, rfl, collectedExtensions_ids _, by
    rw [List.map_append, foldl_fileExtensionStep_ids]; rfl⟩

end Ja3

end TlsFingerprint
