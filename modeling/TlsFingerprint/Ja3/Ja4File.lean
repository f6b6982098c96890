import TlsFingerprint.Ja3.Ja4
import TlsFingerprint.Ja3.File

/-!
# The JA4 of a ClientHello descriptor: `GetJA4FromClientHelloFile`

`GetJA4FromClientHelloFile` parses the descriptor's own `ja4` when it has one. Otherwise it fills a
`JA4Data` and runs `GenerateJA4`: the negotiated version (`parseTLSVersionString`), the cipher
names that map to a nonzero id (`parseCipherSuiteString`), and, over the extension objects in array
order, the id `extensionNameToID` gives each name unless it is 0, the server name of an object
named exactly `server_name`, and the protocols of one named exactly
`application_layer_protocol_negotiation`.

`extensionNameToID` looks the trimmed, lower-cased name up in a table that gives `server_name` the
id 0, the value the caller also reads as "unknown", so the SNI extension is never counted. The
lookup is exact, so a name in the descriptors' `<name> (<id>)` form counts for nothing either.
`foldl_ja4ExtensionStep` is what the loop builds, and `getJA4FromClientHelloFile_spec` the
fingerprint it gives: part a's extension count and part c are those of the known ids, the SNI
byte that of the last named server.
-/

namespace TlsFingerprint.Ja3

open Go

/-! ## Names -/

/-- The `commonCiphers` of `parseCipherSuiteString`. -/
def commonCiphers : List (String × UInt16) :=
  [("TLS_AES_128_GCM_SHA256", 0x1301), ("TLS_AES_256_GCM_SHA384", 0x1302),
    ("TLS_CHACHA20_POLY1305_SHA256", 0x1303), ("TLS_ECDHE_RSA_WITH_AES_128_GCM_SHA256", 0xC02F),
    ("TLS_ECDHE_RSA_WITH_AES_256_GCM_SHA384", 0xC030),
    ("TLS_ECDHE_ECDSA_WITH_AES_128_GCM_SHA256", 0xC02B),
    ("TLS_ECDHE_ECDSA_WITH_AES_256_GCM_SHA384", 0xC02C)]

/-- `parseCipherSuiteString(name)`: on the trimmed, upper-cased name, a `0X` hex literal that
parses, else the name's id in `commonCiphers`, else 0. -/
def parseCipherSuiteString (name : String) : UInt16 :=
  let name := trimSpace (toUpper name)
  match hasPrefix name "0X", parseUint ⟨name.data.drop 2⟩ 16 16 with
  | true, .ok val => UInt16.ofNat val
  | _, _ => (commonCiphers.lookup name).getD 0

/-- `parseTLSVersionString(version)`: on the upper-cased, trimmed string, the first of `1.3`,
`1.2`, `1.1`, `1.0` it contains, else a `0X` hex literal that parses. -/
def parseTLSVersionString (version : String) : Except String UInt16 :=
  let version := trimSpace (toUpper version)
  if contains version "1.3" then .ok 0x0304
  else if contains version "1.2" then .ok 0x0303
  else if contains version "1.1" then .ok 0x0302
  else if contains version "1.0" then .ok 0x0301
  else
    match hasPrefix version "0X", parseUint ⟨version.data.drop 2⟩ 16 16 with
    | true, .ok val => .ok (UInt16.ofNat val)
    | _, _ => .error ("unknown TLS version: " ++ version)

/-- The `extensionMap` of `extensionNameToID`. -/
def extensionMap : List (String × UInt16) :=
  [("server_name", 0), ("max_fragment_length", 1), ("status_request", 5),
    ("supported_groups", 10), ("ec_point_formats", 11), ("signature_algorithms", 13),
    ("application_layer_protocol_negotiation", 16), ("signed_certificate_timestamp", 18),
    ("padding", 21), ("extended_master_secret", 23), ("session_ticket", 35),
    ("supported_versions", 43), ("psk_key_exchange_modes", 45), ("key_share", 51),
    ("renegotiation_info", 65281)]

/-- `extensionNameToID(name)`: the id of the trimmed, lower-cased name, 0 for a name the table
lacks. -/
def extensionNameToID (name : String) : UInt16 :=
  (extensionMap.lookup (toLower (trimSpace name))).getD 0

set_option maxRecDepth 2000 in
/-- Trimming and lowering read UTF-8: a leading no-break space U+00A0 is trimmed, and the Kelvin
sign U+212A lowers to `k`. -/
example : extensionNameToID "\xc2\xa0supported_groups" = 10 ∧
    extensionNameToID "\xe2\x84\xaaey_share" = 51 := by
  decide

/-! ## The descriptor's summary -/

/-- One iteration of the extension loop: the name's id when it is not 0, the server name of an
object named `server_name`, the protocols of one named `application_layer_protocol_negotiation`. -/
def ja4ExtensionStep (data : JA4Data) (ext : FileExtension) : JA4Data :=
  let extID := extensionNameToID ext.name
  let data := if extID ≠ 0 then { data with extensions := data.extensions ++ [extID] } else data
  let data :=
    if ext.name = "server_name" ∧ ext.serverName ≠ "" then { data with serverName := ext.serverName }
    else data
  if ext.name = "application_layer_protocol_negotiation" then
    { data with alpnProtocols := ext.protocols }
  else data

/-- The `JA4Data` that `GetJA4FromClientHelloFile` fills from a descriptor without `ja4`. -/
def ja4DataOfFile (file : ClientHelloSpecFile) (isQUIC : Bool) : JA4Data :=
  let tlsVersion :=
    if file.tlsVersionNegotiated ≠ "" then
      ((parseTLSVersionString file.tlsVersionNegotiated).toOption).getD 0
    else 0
  file.extensions.foldl ja4ExtensionStep
    ⟨isQUIC, tlsVersion, "", (file.ciphers.map parseCipherSuiteString).filter (· ≠ 0), [], []⟩

/-- `GetJA4FromClientHelloFile(file, isQUIC)`; `none` is a nil `file`. Go's one `error` type is a
message (`inl`) or a parse error of the descriptor's own `ja4` (`inr`). -/
def getJA4FromClientHelloFile (sha256 : List UInt8 → Digest) :
    Option ClientHelloSpecFile → Bool → Except (String ⊕ ParseJA4Error) JA4Fingerprint
  | none, _ => .error (.inl "ClientHelloSpecFile cannot be nil")
  | some file, isQUIC =>
    if file.ja4 ≠ "" then (parseJA4String file.ja4).mapError .inr
    else (generateJA4 sha256 (some (ja4DataOfFile file isQUIC))).mapError .inl

/-! ## What the loop builds -/

/-- The id the loop collects for an object: its name's id, unless that is 0. -/
def knownID (ext : FileExtension) : Option UInt16 :=
  if extensionNameToID ext.name ≠ 0 then some (extensionNameToID ext.name) else none

/-- The object whose server name the loop keeps: the last one named `server_name` with a
non-empty server name. -/
def lastServerName (exts : List FileExtension) : Option FileExtension :=
  exts.reverse.find? fun ext => ext.name = "server_name" ∧ ext.serverName ≠ ""

/-- The object whose protocols the loop keeps: the last one named
`application_layer_protocol_negotiation`. -/
def lastALPN (exts : List FileExtension) : Option FileExtension :=
  exts.reverse.find? fun ext => ext.name = "application_layer_protocol_negotiation"

/-- The three fields one iteration writes. -/
theorem ja4ExtensionStep_eq (data : JA4Data) (ext : FileExtension) :
    ja4ExtensionStep data ext =
      { data with
        serverName :=
          if ext.name = "server_name" ∧ ext.serverName ≠ "" then ext.serverName else data.serverName
        extensions := data.extensions ++ (knownID ext).toList
        alpnProtocols :=
          if ext.name = "application_layer_protocol_negotiation" then ext.protocols
          else data.alpnProtocols } := by
  unfold ja4ExtensionStep knownID
  dsimp only
  split_ifs <;> simp only [Option.toList, List.append_nil]

/-- The last object that passes a test, after one more object in front. -/
theorem getD_find?_reverse_cons {β : Type} (p : FileExtension → Bool) (f : FileExtension → β)
    (e : FileExtension) (es : List FileExtension) (d : β) :
    ((es.reverse.find? p).map f).getD (if p e then f e else d) =
      (((e :: es).reverse.find? p).map f).getD d := by
  rw [List.reverse_cons, List.find?_append]
  cases es.reverse.find? p <;> cases h : p e <;> simp [h]

/-- **The loop over the extension objects**: it appends the known ids in array order and keeps
the server name and the protocols of the last objects that carry them. -/
theorem foldl_ja4ExtensionStep (exts : List FileExtension) (data : JA4Data) :
    exts.foldl ja4ExtensionStep data =
      { data with
        serverName := ((lastServerName exts).map (·.serverName)).getD data.serverName
        extensions := data.extensions ++ exts.filterMap knownID
        alpnProtocols := ((lastALPN exts).map (·.protocols)).getD data.alpnProtocols } := by
  induction exts generalizing data with
  | nil => simp [lastServerName, lastALPN]
  | cons e es ih =>
    have hsn := getD_find?_reverse_cons
      (fun ext => decide (ext.name = "server_name" ∧ ext.serverName ≠ "")) (·.serverName) e es
      data.serverName
    have hal := getD_find?_reverse_cons
      (fun ext => decide (ext.name = "application_layer_protocol_negotiation")) (·.protocols) e es
      data.alpnProtocols
    simp only [decide_eq_true_eq] at hsn hal
    rw [List.foldl_cons, ih, ja4ExtensionStep_eq]
    simp only [lastServerName, lastALPN, hsn, hal, List.append_assoc]
    cases h : knownID e <;> simp [List.filterMap_cons, h]

/-! ## The fingerprint -/

section Hash

variable (sha256 : List UInt8 → Digest)

/-- **The JA4 of a descriptor without `ja4`**: part a counts the known ids, clamped to 255, part c
hashes them, and the SNI byte is that of the last server name of an object named `server_name`. -/
theorem getJA4FromClientHelloFile_spec (file : ClientHelloSpecFile) (isQUIC : Bool)
    (h : file.ja4 = "") :
    ∃ fp, getJA4FromClientHelloFile sha256 (some file) isQUIC = .ok fp ∧
      fp.rawExtensions = file.extensions.filterMap knownID ∧
      fp.extensionCount = sprintfHex 2 (min (file.extensions.filterMap knownID).length 255) ∧
      fp.extensionHash = generateExtensionHash sha256 (file.extensions.filterMap knownID) ∧
      fp.sni = determineSNIType (((lastServerName file.extensions).map (·.serverName)).getD "") := by
  simp only [getJA4FromClientHelloFile, h, ne_eq, not_true_eq_false, if_false, generateJA4,
    Except.mapError, ja4DataOfFile, foldl_ja4ExtensionStep, List.nil_append]
  exact ⟨_, rfl, rfl, rfl, rfl, rfl⟩

/-- A descriptor with one `server_name` object, which the JA4 does not count. -/
theorem getJA4FromClientHelloFile_spec_sni :
    ∃ fp, getJA4FromClientHelloFile sum256 (some ⟨["TLS_AES_128_GCM_SHA256"],
        [⟨"server_name", "example.com", [], [], [], [], [], 0⟩], "", "", "TLS 1.3"⟩) false = .ok fp ∧
      fp.rawExtensions = [⟨"server_name", "example.com", [], [], [], [], [], 0⟩].filterMap knownID ∧
      fp.extensionCount = sprintfHex 2
        (min ([⟨"server_name", "example.com", [], [], [], [], [], 0⟩].filterMap knownID).length 255) ∧
      fp.extensionHash = generateExtensionHash sum256
        ([⟨"server_name", "example.com", [], [], [], [], [], 0⟩].filterMap knownID) ∧
      fp.sni = determineSNIType (((lastServerName
        [⟨"server_name", "example.com", [], [], [], [], [], 0⟩]).map (·.serverName)).getD "") :=
  getJA4FromClientHelloFile_spec sum256 _ false rfl

/-- A descriptor with a bare `server_name` object carrying a domain and a `supported_groups (10)`
object: the JA4 counts neither extension. -/
theorem getJA4FromClientHelloFile_serverName :
    ∃ fp, getJA4FromClientHelloFile sha256
        (some ⟨[], [⟨"server_name", "example.com", [], [], [], [], [], 0⟩,
          ⟨"supported_groups (10)", "", [], ["X25519 (29)"], [], [], [], 0⟩], "", "", ""⟩) false =
          .ok fp ∧
      fp.rawExtensions = [] ∧ fp.extensionCount = "00" ∧ fp.sni = "d" :=
  ⟨_, rfl, rfl, rfl, rfl⟩

end Hash

end TlsFingerprint.Ja3
