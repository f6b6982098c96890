import TlsFingerprint.Go.Basic

/-!
# The uTLS ClientHello template

Every builder of the fingerprint core produces a `utls.ClientHelloSpec`, the template the uTLS
engine writes on the wire: cipher suites, compression methods, the version range and the extensions
in emission order. The model keeps the extension variants the builders construct, with the payload
fields they set, and the extension type each of them writes (`TLSExtension.id`).

The named constants are the TLS registry code points uTLS gives them.
-/

namespace TlsFingerprint.Utls

/-! ## Constants -/

/-- `utls.VersionTLS10` … `utls.VersionTLS13`. -/
def VersionTLS10 : UInt16 := 0x0301
def VersionTLS11 : UInt16 := 0x0302
def VersionTLS12 : UInt16 := 0x0303
def VersionTLS13 : UInt16 := 0x0304

/-- `utls.X25519`, `utls.CurveP256`, `utls.CurveP384`, `utls.CurveP521`: named-group ids. -/
def X25519 : UInt16 := 29
def CurveP256 : UInt16 := 23
def CurveP384 : UInt16 := 24
def CurveP521 : UInt16 := 25

/-- The `utls.SignatureScheme` code points the builders name. -/
def PKCS1WithSHA256 : UInt16 := 0x0401
def PKCS1WithSHA384 : UInt16 := 0x0501
def PKCS1WithSHA512 : UInt16 := 0x0601
def PSSWithSHA256 : UInt16 := 0x0804
def PSSWithSHA384 : UInt16 := 0x0805
def PSSWithSHA512 : UInt16 := 0x0806
def ECDSAWithP256AndSHA256 : UInt16 := 0x0403
def ECDSAWithP384AndSHA384 : UInt16 := 0x0503
def ECDSAWithP521AndSHA512 : UInt16 := 0x0603
def PKCS1WithSHA1 : UInt16 := 0x0201

/-- `utls.PskModeDHE`, the `psk_dhe_ke` key exchange mode. -/
def PskModeDHE : UInt8 := 1

/-- `utls.RenegotiateOnceAsClient`. -/
def RenegotiateOnceAsClient : Nat := 1

/-! ## Extensions and specs -/

/-- How `UtlsPaddingExtension` computes its length; the builders only use
`utls.BoringPaddingStyle`. -/
inductive PaddingStyle
  | boringPaddingStyle
  deriving DecidableEq, Repr

/-- `utls.KeyShare`: a group and its key material, generated by the engine when empty. -/
structure KeyShare where
  group : UInt16
  data : List UInt8
  deriving DecidableEq, Repr

/-- The `utls.TLSExtension` values the builders construct, with the fields they set. -/
inductive TLSExtension
  | sniExtension (serverName : String)
  | statusRequestExtension
  | supportedCurvesExtension (curves : List UInt16)
  | supportedPointsExtension (supportedPoints : List UInt8)
  | signatureAlgorithmsExtension (supportedSignatureAlgorithms : List UInt16)
  | alpnExtension (alpnProtocols : List String)
  | sctExtension
  | utlsPaddingExtension (getPaddingLen : PaddingStyle)
  | extendedMasterSecretExtension
  | sessionTicketExtension
  | supportedVersionsExtension (versions : List UInt16)
  | pskKeyExchangeModesExtension (modes : List UInt8)
  | keyShareExtension (keyShares : List KeyShare)
  | renegotiationInfoExtension (renegotiation : Nat)
  | genericExtension (id : UInt16) (data : List UInt8)
  deriving DecidableEq, Repr

/-- The extension type a uTLS extension writes on the wire. -/
def TLSExtension.id : TLSExtension → UInt16
  | .sniExtension _ => 0
  | .statusRequestExtension => 5
  | .supportedCurvesExtension _ => 10
  | .supportedPointsExtension _ => 11
  | .signatureAlgorithmsExtension _ => 13
  | .alpnExtension _ => 16
  | .sctExtension => 18
  | .utlsPaddingExtension _ => 21
  | .extendedMasterSecretExtension => 23
  | .sessionTicketExtension => 35
  | .supportedVersionsExtension _ => 43
  | .pskKeyExchangeModesExtension _ => 45
  | .keyShareExtension _ => 51
  | .renegotiationInfoExtension _ => 65281
  | .genericExtension id _ => id

/-- `utls.ClientHelloSpec`: the template a handshake emits, extensions in wire order. -/
structure ClientHelloSpec where
  cipherSuites : List UInt16
  compressionMethods : List UInt8
  extensions : List TLSExtension
  tlsVersMin : UInt16
  tlsVersMax : UInt16
  deriving DecidableEq, Repr

/-- The zero `ClientHelloSpec`: nil lists and version 0. -/
instance : Inhabited ClientHelloSpec := ⟨⟨[], [], [], 0, 0⟩⟩

/-! ## The engine's handle -/

/-- The `utls.ClientHelloID`s the dialers pick: `HelloCustom` for a spec of their own, or one of
the engine's built-in browser imitations. -/
inductive ClientHelloID
  | helloCustom
  | helloChrome_Auto
  | helloFirefox_Auto
  | helloSafari_Auto
  | helloEdge_Auto
  | helloIOS_Auto
  | helloAndroid_11_OkHttp
  deriving DecidableEq, Repr

/-- The fields of `utls.Config` the dialers set; `RootCAs` is left out. -/
structure Config where
  serverName : String
  insecureSkipVerify : Bool
  nextProtos : List String
  minVersion : UInt16
  maxVersion : UInt16
  deriving DecidableEq, Repr

end TlsFingerprint.Utls
