import TlsFingerprint.Ja3.File

/-!
# The descriptor builder of the `fingerprint` package: `BuildClientHelloSpecFromJSON`

`BuildClientHelloSpecFromJSON` walks the descriptor's extension array once and appends at most one
extension per element, in array order, from the arm `switchCase` picks on the element's name. The
arms are tested by substring in the code's order, so a name such as
`signature_algorithms_cert (50)` takes the `signature_algorithms` arm, and a name that matches no
test (a GREASE entry, any other extension) is dropped. Three arms emit conditionally: SNI when the
element's `server_name` is not empty, `key_share` when some group was collected by an earlier
`supported_groups` element, padding when `padding_data_length` is positive.

`buildClientHelloSpecFromJSON_ids_snoc` is that law, element by element: the ids of a descriptor
extended by one element are those of the descriptor followed by what `jsonElementId` gives the new
element. `jsonBuilders_extension_order` puts it next to the fallback builder's law.

The value lists go through tables and parsers that drop what maps to "unknown": the cipher suites
are exactly the names of the cipher table (`buildClientHelloSpecFromJSON_cipherSuites`), and each
`supported_groups` element emits all the groups collected so far
(`buildClientHelloSpecFromJSON_supportedGroups`).
-/

namespace TlsFingerprint.Fingerprint

open Go Utls

/-! ## Name tables -/

/-- A lookup in one of the name maps of the `fingerprint` parsers: the mapped value, else 0. -/
def lookupOrZero (table : List (String × UInt16)) (name : String) : UInt16 :=
  (table.lookup name).getD 0

/-- The `cipherMap` of `parseCipherSuiteName`. -/
def cipherSuiteMap : List (String × UInt16) :=
  [("TLS_AES_128_GCM_SHA256", 0x1301), ("TLS_AES_256_GCM_SHA384", 0x1302),
    ("TLS_CHACHA20_POLY1305_SHA256", 0x1303), ("TLS_AES_128_CCM_SHA256", 0x1304),
    ("TLS_AES_128_CCM_8_SHA256", 0x1305),
    ("TLS_ECDHE_ECDSA_WITH_AES_128_GCM_SHA256", 0xc02b),
    ("TLS_ECDHE_ECDSA_WITH_AES_256_GCM_SHA384", 0xc02c),
    ("TLS_ECDHE_ECDSA_WITH_AES_128_CBC_SHA", 0xc009),
    ("TLS_ECDHE_ECDSA_WITH_AES_256_CBC_SHA", 0xc00a),
    ("TLS_ECDHE_ECDSA_WITH_AES_128_CBC_SHA256", 0xc023),
    ("TLS_ECDHE_ECDSA_WITH_AES_256_CBC_SHA384", 0xc024),
    ("TLS_ECDHE_ECDSA_WITH_CHACHA20_POLY1305_SHA256", 0xcca9),
    ("TLS_ECDHE_RSA_WITH_AES_128_GCM_SHA256", 0xc02f),
    ("TLS_ECDHE_RSA_WITH_AES_256_GCM_SHA384", 0xc030),
    ("TLS_ECDHE_RSA_WITH_AES_128_CBC_SHA", 0xc013),
    ("TLS_ECDHE_RSA_WITH_AES_256_CBC_SHA", 0xc014),
    ("TLS_ECDHE_RSA_WITH_AES_128_CBC_SHA256", 0xc027),
    ("TLS_ECDHE_RSA_WITH_AES_256_CBC_SHA384", 0xc028),
    ("TLS_ECDHE_RSA_WITH_CHACHA20_POLY1305_SHA256", 0xcca8),
    ("TLS_RSA_WITH_AES_128_GCM_SHA256", 0x009c), ("TLS_RSA_WITH_AES_256_GCM_SHA384", 0x009d),
    ("TLS_RSA_WITH_AES_128_CBC_SHA", 0x002f), ("TLS_RSA_WITH_AES_256_CBC_SHA", 0x0035),
    ("TLS_RSA_WITH_AES_128_CBC_SHA256", 0x003c), ("TLS_RSA_WITH_AES_256_CBC_SHA256", 0x003d),
    ("TLS_DHE_RSA_WITH_AES_128_GCM_SHA256", 0x009e),
    ("TLS_DHE_RSA_WITH_AES_256_GCM_SHA384", 0x009f),
    ("TLS_DHE_RSA_WITH_AES_128_CBC_SHA", 0x0033), ("TLS_DHE_RSA_WITH_AES_256_CBC_SHA", 0x0039),
    ("TLS_DHE_RSA_WITH_AES_128_CBC_SHA256", 0x0067),
    ("TLS_DHE_RSA_WITH_AES_256_CBC_SHA256", 0x006b),
    ("TLS_DHE_RSA_WITH_CHACHA20_POLY1305_SHA256", 0xccaa),
    ("TLS_RSA_WITH_3DES_EDE_CBC_SHA", 0x000a), ("TLS_RSA_WITH_RC4_128_SHA", 0x0005),
    ("TLS_RSA_WITH_RC4_128_MD5", 0x0004), ("TLS_ECDHE_RSA_WITH_3DES_EDE_CBC_SHA", 0xc012),
    ("TLS_ECDHE_ECDSA_WITH_3DES_EDE_CBC_SHA", 0xc008),
    ("TLS_PSK_WITH_AES_128_GCM_SHA256", 0x00a8), ("TLS_PSK_WITH_AES_256_GCM_SHA384", 0x00a9),
    ("TLS_PSK_WITH_AES_128_CBC_SHA256", 0x00ae),
    ("TLS_DHE_PSK_WITH_AES_128_GCM_SHA256", 0x00aa),
    ("TLS_DHE_PSK_WITH_AES_256_GCM_SHA384", 0x00ab),
    ("TLS_ECDHE_PSK_WITH_AES_128_CBC_SHA256", 0xc037),
    ("TLS_ECDHE_PSK_WITH_AES_256_CBC_SHA384", 0xc038),
    ("TLS_ECDHE_PSK_WITH_CHACHA20_POLY1305_SHA256", 0xccac),
    ("TLS_RSA_WITH_ARIA_128_GCM_SHA256", 0xc050), ("TLS_RSA_WITH_ARIA_256_GCM_SHA384", 0xc051),
    ("TLS_ECDHE_ECDSA_WITH_ARIA_128_GCM_SHA256", 0xc05c),
    ("TLS_ECDHE_ECDSA_WITH_ARIA_256_GCM_SHA384", 0xc05d),
    ("TLS_ECDHE_RSA_WITH_ARIA_128_GCM_SHA256", 0xc060),
    ("TLS_ECDHE_RSA_WITH_ARIA_256_GCM_SHA384", 0xc061)]

/-- `parseCipherSuiteName(name)`: the suite's id, 0 for an unknown name. -/
def parseCipherSuiteName (name : String) : UInt16 :=
  lookupOrZero cipherSuiteMap name

/-- The `groupMap` of `parseSupportedGroup`. -/
def groupMap : List (String × UInt16) :=
  [("X25519 (29)", X25519), ("P-256 (23)", CurveP256), ("P-384 (24)", CurveP384),
    ("P-521 (25)", CurveP521)]

/-- `parseSupportedGroup(name)`: the exact name map, else the `Atoi` of what stands between the
first `(` and the first `)` after it, converted to a `CurveID`; 0 when neither applies. -/
def parseSupportedGroup (name : String) : UInt16 :=
  match groupMap.lookup name with
  | some curve => curve
  | none =>
    match index name '(' with
    | none => 0
    | some idx =>
      match index ⟨name.data.drop idx⟩ ')' with
      | none => 0
      | some endIdx =>
        match atoi (trimSpace (slice name (idx + 1) (idx + endIdx))) with
        | .ok id => uint16OfInt id
        | .error _ => 0

/-- `parsePointFormat(pf)`: a hexadecimal byte after an optional `0x`, 255 when it does not
parse. -/
def parsePointFormat (pf : String) : UInt8 :=
  match parseUint (trimPrefix pf "0x") 16 8 with
  | .ok v => UInt8.ofNat v
  | .error _ => 255

/-- The `algoMap` of `parseSignatureAlgorithm`. -/
def algoMap : List (String × UInt16) :=
  [("ecdsa_secp256r1_sha256", ECDSAWithP256AndSHA256),
    ("ecdsa_secp384r1_sha384", ECDSAWithP384AndSHA384),
    ("ecdsa_secp521r1_sha512", ECDSAWithP521AndSHA512), ("rsa_pss_rsae_sha256", PSSWithSHA256),
    ("rsa_pss_rsae_sha384", PSSWithSHA384), ("rsa_pss_rsae_sha512", PSSWithSHA512),
    ("rsa_pkcs1_sha256", PKCS1WithSHA256), ("rsa_pkcs1_sha384", PKCS1WithSHA384),
    ("rsa_pkcs1_sha512", PKCS1WithSHA512), ("rsa_pkcs1_sha1", PKCS1WithSHA1)]

/-- `parseSignatureAlgorithm(name)`: the scheme, 0 for an unknown name. -/
def parseSignatureAlgorithm (name : String) : UInt16 :=
  lookupOrZero algoMap name

/-- The `versionMap` of `parseTLSVersion`. -/
def versionMap : List (String × UInt16) :=
  [("TLS 1.3", VersionTLS13), ("TLS 1.2", VersionTLS12), ("TLS 1.1", VersionTLS11),
    ("TLS 1.0", VersionTLS10)]

/-- `parseTLSVersion(ver)`: the version, 0 for an unknown name. -/
def parseTLSVersion (ver : String) : UInt16 :=
  lookupOrZero versionMap ver

/-! ## The descriptor and the builder -/

/-- `ExtensionJSON`, with the fields the builder reads. -/
structure ExtensionJSON where
  name : String
  serverName : String
  ellipticCurvesPointFormats : List String
  supportedGroups : List String
  protocols : List String
  versions : List String
  signatureAlgorithms : List String
  paddingDataLength : Int
  deriving DecidableEq, Repr

/-- `ClientHelloJSON`: the fields of its `tls` object the builder reads. -/
structure ClientHelloJSON where
  ciphers : List String
  extensions : List ExtensionJSON
  deriving DecidableEq, Repr

/-- The tests of the builder's `switch`, in source order; the `renegotiation_info` arm tests two
substrings. -/
def jsonExtensionTests : List (String × ExtensionCase) :=
  [("server_name", .serverName), ("supported_groups", .supportedGroups),
    ("ec_point_formats", .ecPointFormats), ("application_layer_protocol_negotiation", .alpn),
    ("signature_algorithms", .signatureAlgorithms), ("supported_versions", .supportedVersions),
    ("key_share", .keyShare), ("psk_key_exchange_modes", .pskKeyExchangeModes),
    ("session_ticket", .sessionTicket), ("status_request", .statusRequest),
    ("signed_certificate_timestamp", .signedCertificateTimestamp),
    ("extended_master_secret", .extendedMasterSecret), ("renegotiation_info", .renegotiationInfo),
    ("extensionRenegotiationInfo", .renegotiationInfo), ("padding", .padding)]

/-- The locals the builder's loop carries from one element to the next: the extensions emitted and
the curves collected so far. (`serverName` and `alpnProtocols` are written and read within one
iteration.) -/
structure JSONLoop where
  extensions : List TLSExtension
  curves : List UInt16
  deriving DecidableEq, Repr

/-- Append one extension to the emitted ones. -/
def JSONLoop.emit (st : JSONLoop) (ext : TLSExtension) : JSONLoop :=
  { st with extensions := st.extensions ++ [ext] }

/-- The parses of a list of names that are not `bad`, in order. -/
def keepParsed {α : Type} [DecidableEq α] (parse : String → α) (bad : α) (xs : List String) :
    List α :=
  (xs.map parse).filter (· ≠ bad)

/-- One iteration of the builder's loop over the extension objects. The `supported_groups` arm
appends this element's groups to every group collected before and emits all of them. -/
def jsonExtensionStep (st : JSONLoop) (ext : ExtensionJSON) : JSONLoop :=
  match switchCase jsonExtensionTests ext.name with
  | some .serverName => if ext.serverName ≠ "" then st.emit (.sniExtension ext.serverName) else st
  | some .supportedGroups =>
    let curves := st.curves ++ keepParsed parseSupportedGroup 0 ext.supportedGroups
    ⟨st.extensions ++ [.supportedCurvesExtension curves], curves⟩
  | some .ecPointFormats =>
    st.emit (.supportedPointsExtension (keepParsed parsePointFormat 255 ext.ellipticCurvesPointFormats))
  | some .alpn => st.emit (.alpnExtension ext.protocols)
  | some .signatureAlgorithms =>
    st.emit (.signatureAlgorithmsExtension
      (keepParsed parseSignatureAlgorithm 0 ext.signatureAlgorithms))
  | some .supportedVersions =>
    st.emit (.supportedVersionsExtension (keepParsed parseTLSVersion 0 ext.versions))
  | some .keyShare => if st.curves.length > 0 then st.emit (.keyShareExtension []) else st
  | some .pskKeyExchangeModes => st.emit (.pskKeyExchangeModesExtension [PskModeDHE])
  | some .sessionTicket => st.emit .sessionTicketExtension
  | some .statusRequest => st.emit .statusRequestExtension
  | some .signedCertificateTimestamp => st.emit .sctExtension
  | some .extendedMasterSecret => st.emit .extendedMasterSecretExtension
  | some .renegotiationInfo => st.emit (.renegotiationInfoExtension RenegotiateOnceAsClient)
  | some .padding =>
    if ext.paddingDataLength > 0 then st.emit (.utlsPaddingExtension .boringPaddingStyle) else st
  | none => st

/-- `BuildClientHelloSpecFromJSON(chJSON)`: TLS 1.0 to 1.3, the known cipher suites in order, the
loop's extensions and the null compression method. It never returns an error. -/
def buildClientHelloSpecFromJSON (chJSON : ClientHelloJSON) : ClientHelloSpec :=
  { tlsVersMin := VersionTLS10
    tlsVersMax := VersionTLS13
    cipherSuites := keepParsed parseCipherSuiteName 0 chJSON.ciphers
    extensions := (chJSON.extensions.foldl jsonExtensionStep ⟨[], []⟩).extensions
    compressionMethods := [0] }

/-! ## Where the builder's extensions come from -/

/-- The curves the `supported_groups` elements of `exts` collect, in order. -/
def collectedCurves (exts : List ExtensionJSON) : List UInt16 :=
  exts.flatMap fun e =>
    if switchCase jsonExtensionTests e.name = some .supportedGroups then
      keepParsed parseSupportedGroup 0 e.supportedGroups
    else []

/-- The id of the extension an element adds, given whether groups were collected before it: its
arm's id, except for an SNI element without a server name, a `key_share` element before any group
and a padding element with no positive length; nothing for a name no test matches. -/
def jsonElementId (groupsBefore : Bool) (ext : ExtensionJSON) : Option UInt16 :=
  match switchCase jsonExtensionTests ext.name with
  | some .serverName => if ext.serverName ≠ "" then some 0 else none
  | some .keyShare => if groupsBefore then some 51 else none
  | some .padding => if ext.paddingDataLength > 0 then some 21 else none
  | some c => some c.id
  | none => none

/-- One iteration adds at most the extension `jsonElementId` names. -/
theorem jsonExtensionStep_ids (st : JSONLoop) (ext : ExtensionJSON) :
    (jsonExtensionStep st ext).extensions.map TLSExtension.id =
      st.extensions.map TLSExtension.id ++ (jsonElementId (!st.curves.isEmpty) ext).toList := by
  unfold jsonExtensionStep jsonElementId
  cases switchCase jsonExtensionTests ext.name with
  | none => simp
  | some c =>
    cases c <;> simp only <;> (try split_ifs) <;> simp_all [JSONLoop.emit, List.length_pos] <;> rfl

/-- One iteration adds to the curves only in the `supported_groups` arm. -/
theorem jsonExtensionStep_curves (st : JSONLoop) (ext : ExtensionJSON) :
    (jsonExtensionStep st ext).curves = st.curves ++ collectedCurves [ext] := by
  simp only [collectedCurves, List.flatMap_cons, List.flatMap_nil, List.append_nil]
  unfold jsonExtensionStep
  cases switchCase jsonExtensionTests ext.name with
  | none => simp
  | some c => cases c <;> simp [JSONLoop.emit, apply_ite JSONLoop.curves]

/-- The loop's curves are those of its start and every `supported_groups` element's. -/
theorem foldl_jsonExtensionStep_curves (exts : List ExtensionJSON) (st : JSONLoop) :
    (exts.foldl jsonExtensionStep st).curves = st.curves ++ collectedCurves exts := by
  induction exts generalizing st with
  | nil => simp [collectedCurves]
  | cons e es ih =>
    rw [List.foldl_cons, ih, jsonExtensionStep_curves, List.append_assoc]
    simp [collectedCurves]

/-- **The builder emits in array order, element by element**: extending the descriptor by one
element extends the spec's extension ids by what `jsonElementId` gives that element, given the
groups collected by the elements before it. -/
theorem buildClientHelloSpecFromJSON_ids_snoc (ciphers : List String) (exts : List ExtensionJSON)
    (ext : ExtensionJSON) :
    (buildClientHelloSpecFromJSON ⟨ciphers, exts ++ [ext]⟩).extensions.map TLSExtension.id =
      (buildClientHelloSpecFromJSON ⟨ciphers, exts⟩).extensions.map TLSExtension.id ++
        (jsonElementId (!(collectedCurves exts).isEmpty) ext).toList := by
  simp only [buildClientHelloSpecFromJSON, List.foldl_append, List.foldl_cons, List.foldl_nil,
    jsonExtensionStep_ids, foldl_jsonExtensionStep_curves, List.nil_append]

/-- The two JSON builders' extension ids, in order. The primary builder starts from no extension
and adds, per element, what `jsonElementId` gives it (nothing for a name no arm tests, such as a
GREASE entry). The fallback builder emits the in-place extensions of `fileElementId` in array
order, then at most one each of the collected groups, point formats, signature algorithms,
supported versions and ALPN. -/
theorem jsonBuilders_extension_order :
    (∀ ciphers, (buildClientHelloSpecFromJSON ⟨ciphers, []⟩).extensions = []) ∧
    (∀ ciphers exts ext,
      (buildClientHelloSpecFromJSON ⟨ciphers, exts ++ [ext]⟩).extensions.map TLSExtension.id =
        (buildClientHelloSpecFromJSON ⟨ciphers, exts⟩).extensions.map TLSExtension.id ++
          (jsonElementId (!(collectedCurves exts).isEmpty) ext).toList) ∧
    (∀ spec serverName, ∃ hello tail,
      Ja3.buildClientHelloSpecFromFile (some spec) serverName = .ok hello ∧
      tail.Sublist [10, 11, 13, 43, 16] ∧
      hello.extensions.map TLSExtension.id =
        spec.extensions.filterMap (Ja3.fileElementId serverName) ++ tail) :=
  ⟨fun _ => rfl, buildClientHelloSpecFromJSON_ids_snoc, Ja3.buildClientHelloSpecFromFile_ids⟩

/-- One iteration emits SNI only with the element's own `server_name`. -/
theorem mem_jsonExtensionStep_sni {st : JSONLoop} {ext : ExtensionJSON} {n : String}
    (h : .sniExtension n ∈ (jsonExtensionStep st ext).extensions) :
    .sniExtension n ∈ st.extensions ∨ n = ext.serverName := by
  unfold jsonExtensionStep at h
  cases hc : switchCase jsonExtensionTests ext.name with
  | none => rw [hc] at h; exact .inl h
  | some c =>
    rw [hc] at h
    cases c <;> simp only at h <;> (try split_ifs at h) <;> simp_all [JSONLoop.emit]

/-- **The JSON builder's SNI comes from the descriptor**: every server name it puts in an SNI
extension is the `server_name` of one of the descriptor's elements. -/
theorem mem_sni_buildClientHelloSpecFromJSON {chJSON : ClientHelloJSON} {n : String}
    (h : .sniExtension n ∈ (buildClientHelloSpecFromJSON chJSON).extensions) :
    ∃ ext ∈ chJSON.extensions, ext.serverName = n := by
  suffices ∀ (exts : List ExtensionJSON) (st : JSONLoop),
      .sniExtension n ∈ (exts.foldl jsonExtensionStep st).extensions →
        .sniExtension n ∈ st.extensions ∨ ∃ ext ∈ exts, ext.serverName = n by
    simpa using this chJSON.extensions ⟨[], []⟩ h
  intro exts
  induction exts with
  | nil => exact fun _ h => .inl h
  | cons e es ih =>
    intro st h
    rcases ih _ h with h | ⟨ext, hm, hn⟩
    · rcases mem_jsonExtensionStep_sni h with h | rfl
      exacts [.inl h, .inr ⟨e, List.mem_cons_self _ _, rfl⟩]
    · exact .inr ⟨ext, List.mem_cons_of_mem _ hm, hn⟩

/-- A descriptor whose `server_name` element names `example.com`. -/
theorem mem_sni_buildClientHelloSpecFromJSON_named :
    ∃ ext ∈ (⟨[], [⟨"server_name (0)", "example.com", [], [], [], [], [], 0⟩]⟩ :
        ClientHelloJSON).extensions, ext.serverName = "example.com" :=
  @mem_sni_buildClientHelloSpecFromJSON
    ⟨[], [⟨"server_name (0)", "example.com", [], [], [], [], [], 0⟩]⟩ "example.com" (by decide)

/-- A descriptor of three elements, a GREASE entry, a `key_share` and a `supported_groups`, gives
one extension: the GREASE entry matches no arm and the key share precedes every group. -/
theorem buildClientHelloSpecFromJSON_grease_keyShare :
    (buildClientHelloSpecFromJSON ⟨[], [⟨"GREASE (0x0a0a)", "", [], [], [], [], [], 0⟩,
      ⟨"key_share (51)", "", [], [], [], [], [], 0⟩,
      ⟨"supported_groups (10)", "", [], ["X25519 (29)"], [], [], [], 0⟩]⟩).extensions.map
        TLSExtension.id = [10] := by
  decide

/-! ## The value lists

The builders turn each list of names into ids through a table or a parser and drop what maps to
the "unknown" value. The cipher table holds names only, so a `0x` literal or a GREASE entry names
no suite (`buildClientHelloSpecFromJSON_cipherSuites`). The curves the `supported_groups` arm
collects are never reset, so each of its extensions carries the groups of every earlier
`supported_groups` element too (`buildClientHelloSpecFromJSON_supportedGroups`). -/

/-- **A `supported_groups` element emits every group collected so far**: its own and those of
every `supported_groups` element before it. -/
theorem buildClientHelloSpecFromJSON_supportedGroups (ciphers : List String)
    (exts : List ExtensionJSON) (ext : ExtensionJSON)
    (h : switchCase jsonExtensionTests ext.name = some .supportedGroups) :
    (buildClientHelloSpecFromJSON ⟨ciphers, exts ++ [ext]⟩).extensions =
      (buildClientHelloSpecFromJSON ⟨ciphers, exts⟩).extensions ++
        [.supportedCurvesExtension (collectedCurves (exts ++ [ext]))] := by
  have hstep : ∀ st, jsonExtensionStep st ext =
      ⟨st.extensions ++ [.supportedCurvesExtension
          (st.curves ++ keepParsed parseSupportedGroup 0 ext.supportedGroups)],
        st.curves ++ keepParsed parseSupportedGroup 0 ext.supportedGroups⟩ := by
    intro st; unfold jsonExtensionStep; rw [h]
  simp only [buildClientHelloSpecFromJSON, List.foldl_append, List.foldl_cons, List.foldl_nil,
    hstep, foldl_jsonExtensionStep_curves]
  simp [collectedCurves, h]

/-- A second `supported_groups` element, whose only group is out of range, emits the first one's
group again. -/
theorem buildClientHelloSpecFromJSON_supportedGroups_second :
    switchCase jsonExtensionTests "supported_groups" = some .supportedGroups ∧
      (buildClientHelloSpecFromJSON ⟨[], [⟨"supported_groups", "", [], ["X25519 (29)"], [], [], [], 0⟩]
          ++ [⟨"supported_groups", "", [], ["(65565)"], [], [], [], 0⟩]⟩).extensions =
        (buildClientHelloSpecFromJSON
            ⟨[], [⟨"supported_groups", "", [], ["X25519 (29)"], [], [], [], 0⟩]⟩).extensions ++
          [.supportedCurvesExtension (collectedCurves
            ([⟨"supported_groups", "", [], ["X25519 (29)"], [], [], [], 0⟩] ++
              [⟨"supported_groups", "", [], ["(65565)"], [], [], [], 0⟩]))] :=
  ⟨by decide, buildClientHelloSpecFromJSON_supportedGroups [] _ _ (by decide)⟩

/-- A descriptor with a `0x` cipher and two `supported_groups` elements, the second holding the
out-of-range id 65565, and a fallback descriptor with the point format `zz`: the JSON builder
keeps no suite and emits the group 29 three times, the fallback builder reads `zz` as 0. -/
theorem jsonBuilders_value_lists :
    buildClientHelloSpecFromJSON ⟨["0x1301"],
        [⟨"supported_groups", "", [], ["X25519 (29)"], [], [], [], 0⟩,
          ⟨"supported_groups", "", [], ["(65565)"], [], [], [], 0⟩]⟩ =
      ⟨[], [0], [.supportedCurvesExtension [29], .supportedCurvesExtension [29, 29]],
        VersionTLS10, VersionTLS13⟩ ∧
    Ja3.buildClientHelloSpecFromFile
        (some ⟨[], [⟨"ec_point_formats", "", ["zz"], [], [], [], [], 0⟩], "", "", ""⟩) "" =
      .ok ⟨[], [], [.supportedPointsExtension [0]], 0, 0⟩ := by
  decide

end TlsFingerprint.Fingerprint
