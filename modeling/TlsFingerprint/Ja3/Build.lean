import TlsFingerprint.Ja3.Parse
import TlsFingerprint.Utls.Spec
import TlsFingerprint.Go.Sha256

/-!
# Building a ClientHello template from a JA3

`BuildClientHelloSpecFromJA3` (`internal/util/ja3` builder) copies the JA3's cipher suites and
version and turns each extension id of the JA3, in order, into an extension with `buildExtension`.
The `switch` of `buildExtension` returns a typed extension for the ids it knows; control that leaves
the switch without returning reaches `return &utls.GenericExtension{Id: extID}`.

`buildClientHelloSpecFromJA3_spec` is the builder's whole behaviour: ciphers and versions copied,
one extension per JA3 id, each `buildExtensionOf` the id. Two consequences carry the fingerprint:
every emitted extension writes the JA3's id at the same position
(`buildClientHelloSpecFromJA3_ids`), so the JA3 extension order and its GREASE values survive; and
every id the switch does not return for is emitted as a `GenericExtension`. The last includes the
guarded arms: SNI with an empty server name and the group and point arms with an empty field fall
out of the switch and emit `GenericExtension{Id: 0}`, `{Id: 10}` and `{Id: 11}`
(`buildClientHelloSpecFromJA3_empty_serverName`), though the caller's `if ext != nil` is there to
drop an extension.

`GenerateRandomSessionID` hashes a 32-byte buffer that nothing fills: it returns the SHA-256 of 64
ASCII zeros on every call.
-/

namespace TlsFingerprint.Ja3

open Go Utls

/-- The signature algorithms `buildExtension` offers for id 13. -/
def defaultSignatureAlgorithms : List UInt16 :=
  [ECDSAWithP256AndSHA256, PSSWithSHA256, PKCS1WithSHA256, ECDSAWithP384AndSHA384, PSSWithSHA384,
    PKCS1WithSHA384, PSSWithSHA512, PKCS1WithSHA512]

/-- The `switch extID` of `buildExtension`: the extension an arm returns, or `none` when control
leaves the switch without returning (an id with no arm, or a guarded arm whose test fails). -/
def buildExtensionSwitch (extID : UInt16) (data : JA3Data) (serverName : String) :
    Option TLSExtension :=
  match extID.toNat with
  | 0 => if serverName ≠ "" then some (.sniExtension serverName) else none
  | 5 => some .statusRequestExtension
  | 10 =>
    if data.supportedGroups.length > 0 then some (.supportedCurvesExtension data.supportedGroups)
    else none
  | 11 =>
    if data.ellipticCurvePoint.length > 0 then
      some (.supportedPointsExtension data.ellipticCurvePoint)
    else none
  | 13 => some (.signatureAlgorithmsExtension defaultSignatureAlgorithms)
  | 16 => some (.alpnExtension ["h2", "http/1.1"])
  | 18 => some .sctExtension
  | 21 => some (.utlsPaddingExtension .boringPaddingStyle)
  | 23 => some .extendedMasterSecretExtension
  | 27 => some (.genericExtension 27 [])
  | 35 => some .sessionTicketExtension
  | 43 => some (.supportedVersionsExtension [VersionTLS13, VersionTLS12])
  | 45 => some (.pskKeyExchangeModesExtension [1])
  | 51 => some (.keyShareExtension [⟨X25519, []⟩])
  | 65281 => some (.renegotiationInfoExtension RenegotiateOnceAsClient)
  | _ => none

/-- The extension `buildExtension` returns: the switch's, else `GenericExtension{Id: extID}`. -/
def buildExtensionOf (extID : UInt16) (data : JA3Data) (serverName : String) : TLSExtension :=
  (buildExtensionSwitch extID data serverName).getD (.genericExtension extID [])

/-- `buildExtension(extID, data, serverName)`. Go returns an interface value its caller tests
against `nil`; every path of the function returns an extension. -/
def buildExtension (extID : UInt16) (data : JA3Data) (serverName : String) :
    Option TLSExtension :=
  some (buildExtensionOf extID data serverName)

/-- `BuildClientHelloSpecFromJA3(data, serverName)`; `none` is a nil `data`. -/
def buildClientHelloSpecFromJA3 : Option JA3Data → String → Except String ClientHelloSpec
  | none, _ => .error "JA3 data is nil"
  | some data, serverName =>
    .ok { tlsVersMin := data.version
          tlsVersMax := data.version
          cipherSuites := data.cipherSuites
          compressionMethods := []
          extensions := data.extensions.filterMap (buildExtension · data serverName) }

/-! ## The builder's behaviour -/

/-- Each arm of the switch returns an extension that writes the id it switched on. -/
theorem buildExtensionSwitch_id {extID : UInt16} {data : JA3Data} {serverName : String}
    {ext : TLSExtension} (h : buildExtensionSwitch extID data serverName = some ext) :
    ext.id = extID := by
  unfold buildExtensionSwitch at h
  split at h <;> (try split_ifs at h) <;> cases h <;>
    exact UInt16.toNat.inj (Eq.symm ‹extID.toNat = _›)

/-- **`buildExtension` keeps the id**: the extension it returns writes `extID`. -/
@[simp] theorem buildExtensionOf_id (extID : UInt16) (data : JA3Data) (serverName : String) :
    (buildExtensionOf extID data serverName).id = extID := by
  unfold buildExtensionOf
  cases h : buildExtensionSwitch extID data serverName with
  | none => rfl
  | some ext => exact buildExtensionSwitch_id h

/-- **The builder's behaviour**: ciphers and version copied, and one extension per JA3 id, in
order, each the one `buildExtension` returns. -/
theorem buildClientHelloSpecFromJA3_spec (data : JA3Data) (serverName : String) :
    buildClientHelloSpecFromJA3 (some data) serverName =
      .ok { tlsVersMin := data.version
            tlsVersMax := data.version
            cipherSuites := data.cipherSuites
            compressionMethods := []
            extensions := data.extensions.map (buildExtensionOf · data serverName) } := by
  simp only [buildClientHelloSpecFromJA3, buildExtension]
  rw [show (fun x => some (buildExtensionOf x data serverName)) =
    some ∘ (buildExtensionOf · data serverName) from rfl, List.filterMap_eq_map]

/-- **JA3 order survives**: the spec's extensions write exactly the JA3's extension ids, position
by position, GREASE and unknown ids included. -/
theorem buildClientHelloSpecFromJA3_ids (data : JA3Data) (serverName : String) :
    ∃ spec, buildClientHelloSpecFromJA3 (some data) serverName = .ok spec ∧
      spec.cipherSuites = data.cipherSuites ∧ spec.tlsVersMin = data.version ∧
      spec.tlsVersMax = data.version ∧ spec.extensions.map TLSExtension.id = data.extensions :=
  ⟨_, buildClientHelloSpecFromJA3_spec data serverName, rfl, rfl, rfl, by
    simp [Function.comp_def]⟩

/-- With an empty server name the SNI arm falls out of the switch: a JA3 listing id 0 gets a
payload-less `GenericExtension{Id: 0}` where the spec omits SNI. -/
theorem buildClientHelloSpecFromJA3_empty_serverName :
    buildClientHelloSpecFromJA3 (some ⟨771, [4865], [0, 10, 11], [], []⟩) "" =
      .ok ⟨[4865], [], [.genericExtension 0 [], .genericExtension 10 [],
        .genericExtension 11 []], 771, 771⟩ := by
  decide

/-! ## The session id -/

/-- `GenerateRandomSessionID()`: the SHA-256 of the hex encoding of `make([]byte, 32)`, which the
function never fills. -/
def generateRandomSessionID (sha256 : List UInt8 → Digest) : List UInt8 :=
  (sha256 (bytes (hexEncode (List.replicate 32 0)))).bytes

end TlsFingerprint.Ja3
