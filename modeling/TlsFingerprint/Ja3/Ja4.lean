import TlsFingerprint.Ja3.Parse
import TlsFingerprint.Go.Sha256

/-!
# JA4: generation, printing and parsing

`GenerateJA4` summarises a ClientHello in three parts `a_b_c`: part a is the protocol byte, the
two-byte version tag, the SNI byte and the cipher and extension counts, each clamped to 255 and
printed as two hex digits; parts b and c are the first 12 hex digits of SHA-256 digests.
`ParseJA4String` splits a string on `_` into three parts and validates part a's bytes and the
hashes' lengths.

The hash is a parameter `sha256` that returns a 32-byte `Digest` (`Go.sum256` is the standard
library's); every result below holds for any such function.

The SNI byte is `i` exactly for an empty name, a name of digits and dots, or a name of hex digits
and colons with at least one colon (`determineSNIType_eq_i`): the IPv6 loop's early exit loses
nothing (`ipv6Scan_and`).

`parseJA4String_generateJA4` is the round trip: for every summary whose version is not SSL 3.0, the
printed fingerprint parses back to the same seven fields. The parser's version set has no `s3`,
the tag `formatTLSVersion` gives 0x0300, and `parseJA4String_generateJA4_ssl3` is that case.

The other way round, `toString_parseJA4String`: an accepted string prints back with part a cut to
the eight bytes the parser reads. `parseJA4String_panics`: the parser panics exactly on a part a of
seven bytes, which passes its length check.
-/

namespace TlsFingerprint.Ja3

open Go

/-! ## Data -/

/-- `JA4Fingerprint`: the seven printed fields and the raw data `GenerateJA4` keeps. -/
structure JA4Fingerprint where
  protocol : String
  tlsVersion : String
  sni : String
  cipherCount : String
  extensionCount : String
  cipherHash : String
  extensionHash : String
  rawCipherSuites : List UInt16
  rawExtensions : List UInt16
  hasSNI : Bool
  alpnProtocols : List String
  deriving DecidableEq, Repr

/-- `JA4Data`: the ClientHello summary `GenerateJA4` reads. -/
structure JA4Data where
  isQUIC : Bool
  tlsVersion : UInt16
  serverName : String
  cipherSuites : List UInt16
  extensions : List UInt16
  alpnProtocols : List String
  deriving DecidableEq, Repr

/-- `(*JA4Fingerprint).String()`: `"%s%s%s%s%s"` of part a's fields, then `"%s_%s_%s"`. -/
def JA4Fingerprint.toString (j : JA4Fingerprint) : String :=
  let partA := j.protocol ++ j.tlsVersion ++ j.sni ++ j.cipherCount ++ j.extensionCount
  partA ++ "_" ++ j.cipherHash ++ "_" ++ j.extensionHash

/-- The seven fields `String()` prints and `ParseJA4String` fills. -/
def JA4Fingerprint.printed (j : JA4Fingerprint) :
    String × String × String × String × String × String × String :=
  (j.protocol, j.tlsVersion, j.sni, j.cipherCount, j.extensionCount, j.cipherHash, j.extensionHash)

/-! ## Generation -/

/-- `formatTLSVersion(version)`. -/
def formatTLSVersion (version : UInt16) : String :=
  match version.toNat with
  | 0x0300 => "s3"
  | 0x0301 => "10"
  | 0x0302 => "11"
  | 0x0303 => "12"
  | 0x0304 => "13"
  | _ => "00"

/-- An ASCII hex digit, as `determineSNIType`'s IPv6 test spells it out. -/
def isHexByte (c : Char) : Bool :=
  ('0' ≤ c && c ≤ '9') || ('a' ≤ c && c ≤ 'f') || ('A' ≤ c && c ≤ 'F')

/-- The IPv6 loop of `determineSNIType`, from a given `hasColon`: the final `hasColon` and
`allHexOrColon`, the loop stopping at the first byte that is neither a colon nor a hex digit. -/
def ipv6Scan (hasColon : Bool) : List Char → Bool × Bool
  | [] => (hasColon, true)
  | c :: cs =>
    if c = ':' then ipv6Scan true cs
    else if isHexByte c then ipv6Scan hasColon cs
    else (hasColon, false)

/-- `determineSNIType(serverName)`: `"i"` for no name, an IPv4-looking name (digits and dots) or
an IPv6-looking one (hex digits and at least one colon), else `"d"`. -/
def determineSNIType (serverName : String) : String :=
  if serverName = "" then "i"
  else if serverName.data.all (fun c => ('0' ≤ c && c ≤ '9') || c = '.') then "i"
  else
    let (hasColon, allHexOrColon) := ipv6Scan false serverName.data
    if hasColon && allHexOrColon then "i" else "d"

section Hash

variable (sha256 : List UInt8 → Digest)

/-- `hex.EncodeToString(hash[:])[:12]`. -/
def hashPrefix (d : Digest) : String :=
  ⟨(hexEncode d.bytes).data.take 12⟩

/-- The hash of ids printed `%04x` and joined by commas. -/
def idListHash (ids : List UInt16) : String :=
  hashPrefix (sha256 (bytes (join (ids.map fun id => sprintfHex 4 id.toNat) ',')))

/-- `generateCipherHash(cipherSuites)`: the hash of the empty string for no suite, else of the
suites in their original order. -/
def generateCipherHash (cipherSuites : List UInt16) : String :=
  if cipherSuites = [] then hashPrefix (sha256 []) else idListHash sha256 cipherSuites

/-- `generateExtensionHash(extensions)`: the hash of the ids other than 0 (SNI) and 16 (ALPN),
sorted ascending; the hash of the empty string when there is none. -/
def generateExtensionHash (extensions : List UInt16) : String :=
  if extensions = [] then hashPrefix (sha256 [])
  else
    let filtered := (extensions.filter fun e => e ≠ 0 ∧ e ≠ 16).insertionSort (· ≤ ·)
    if filtered = [] then hashPrefix (sha256 []) else idListHash sha256 filtered

/-- `GenerateJA4(data)`; `none` is a nil `data`. -/
def generateJA4 : Option JA4Data → Except String JA4Fingerprint
  | none => .error "JA4Data cannot be nil"
  | some data =>
    .ok { protocol := if data.isQUIC then "q" else "t"
          tlsVersion := formatTLSVersion data.tlsVersion
          sni := determineSNIType data.serverName
          cipherCount := sprintfHex 2 (min data.cipherSuites.length 255)
          extensionCount := sprintfHex 2 (min data.extensions.length 255)
          cipherHash := generateCipherHash sha256 data.cipherSuites
          extensionHash := generateExtensionHash sha256 data.extensions
          rawCipherSuites := data.cipherSuites
          rawExtensions := data.extensions
          hasSNI := data.serverName ≠ ""
          alpnProtocols := data.alpnProtocols }

end Hash

/-- `ConvertJA3ToJA4(ja3Data, serverName, isQUIC)`: the JA3's version, suites and extension ids,
with no ALPN protocols (its `SupportedGroups`, which `GenerateJA4` does not read, has no field
here). -/
def convertJA3ToJA4 (ja3Data : JA3Data) (serverName : String) (isQUIC : Bool) : JA4Data :=
  { isQUIC, tlsVersion := ja3Data.version, serverName, cipherSuites := ja3Data.cipherSuites,
    extensions := ja3Data.extensions, alpnProtocols := [] }

/-! ## Parsing -/

/-- The errors of `ParseJA4String`, and the slice panic it can hit. -/
inductive ParseJA4Error
  /-- `invalid JA4 format: expected 'a_b_c', got %d parts` -/
  | format (got : Nat)
  /-- `invalid JA4 part A: too short (got %d chars, need at least 7)` -/
  | partATooShort (got : Nat)
  /-- Not an error value: the runtime panic `slice bounds out of range [:high] with length len`. -/
  | sliceBoundsOutOfRange (high len : Nat)
  /-- `invalid protocol: must be 'q' or 't', got '%s'` -/
  | protocol (got : String)
  /-- `invalid TLS version: %s` -/
  | tlsVersion (got : String)
  /-- `invalid SNI indicator: must be 'd' or 'i', got '%s'` -/
  | sni (got : String)
  /-- `invalid cipher hash length: expected 12, got %d` -/
  | cipherHashLength (got : Nat)
  /-- `invalid extension hash length: expected 12, got %d` -/
  | extensionHashLength (got : Nat)
  deriving DecidableEq, Repr

/-- The keys of `validVersions`. -/
def validVersions : List String := ["10", "11", "12", "13", "00"]

/-- The checks `ParseJA4String` makes on the fields it read, in order. -/
def validateJA4 (fp : JA4Fingerprint) : Except ParseJA4Error JA4Fingerprint :=
  if fp.protocol ≠ "q" ∧ fp.protocol ≠ "t" then .error (.protocol fp.protocol)
  else if fp.tlsVersion ∉ validVersions then .error (.tlsVersion fp.tlsVersion)
  else if fp.sni ≠ "d" ∧ fp.sni ≠ "i" then .error (.sni fp.sni)
  else if fp.cipherHash.length ≠ 12 then .error (.cipherHashLength fp.cipherHash.length)
  else if fp.extensionHash.length ≠ 12 then .error (.extensionHashLength fp.extensionHash.length)
  else .ok fp

/-- `ParseJA4String(ja4String)`. A part a of seven bytes passes the length check and then panics
on `partA[6:8]`. -/
def parseJA4String (ja4String : String) : Except ParseJA4Error JA4Fingerprint :=
  match split ja4String '_' with
  | [partA, cipherHash, extensionHash] =>
    if partA.length < 7 then .error (.partATooShort partA.length)
    else if partA.length < 8 then .error (.sliceBoundsOutOfRange 8 partA.length)
    else
      validateJA4
        { protocol := stringOfByte (partA.data.getD 0 '\x00')
          tlsVersion := slice partA 1 3
          sni := stringOfByte (partA.data.getD 3 '\x00')
          cipherCount := slice partA 4 6
          extensionCount := slice partA 6 8
          cipherHash := cipherHash
          extensionHash := extensionHash
          rawCipherSuites := []
          rawExtensions := []
          hasSNI := false
          alpnProtocols := [] }
  | parts => .error (.format parts.length)

/-! ## Printing then parsing -/

/-- A string of two bytes. -/
theorem exists_of_length_two {s : String} (h : s.length = 2) : ∃ a b, s = ⟨[a, b]⟩ := by
  obtain ⟨l⟩ := s
  match l, h with
  | [a, b], _ => exact ⟨a, b, rfl⟩

/-- The shape of a fingerprint `GenerateJA4` returns: protocol `q` or `t`, SNI `d` or `i`, a
two-byte version tag and two-byte counts, and no `_` in any printed field. -/
structure JA4Fingerprint.Printable (j : JA4Fingerprint) : Prop where
  protocol : j.protocol = "q" ∨ j.protocol = "t"
  sni : j.sni = "d" ∨ j.sni = "i"
  tlsVersion : j.tlsVersion.length = 2 ∧ '_' ∉ j.tlsVersion.data
  cipherCount : j.cipherCount.length = 2 ∧ '_' ∉ j.cipherCount.data
  extensionCount : j.extensionCount.length = 2 ∧ '_' ∉ j.extensionCount.data
  cipherHash : '_' ∉ j.cipherHash.data
  extensionHash : '_' ∉ j.extensionHash.data

/-- The fingerprint with the raw fields `ParseJA4String` leaves at their zero values. -/
def JA4Fingerprint.stripRaw (j : JA4Fingerprint) : JA4Fingerprint :=
  { j with rawCipherSuites := [], rawExtensions := [], hasSNI := false, alpnProtocols := [] }

/-- **Parsing a printed fingerprint** reads its seven fields back and then runs the validation. -/
theorem parseJA4String_toString {j : JA4Fingerprint} (h : j.Printable) :
    parseJA4String j.toString = validateJA4 j.stripRaw := by
  obtain ⟨hp, hs, ⟨hv, hnv⟩, ⟨hc, hnc⟩, ⟨he, hne⟩, hnb, hnx⟩ := h
  obtain ⟨v1, v2, hv⟩ := exists_of_length_two hv
  obtain ⟨c1, c2, hc⟩ := exists_of_length_two hc
  obtain ⟨e1, e2, he⟩ := exists_of_length_two he
  obtain ⟨pc, hp, hpb⟩ : ∃ pc, j.protocol = ⟨[pc]⟩ ∧ stringOfByte pc = ⟨[pc]⟩ ∧ '_' ≠ pc := by
    rcases hp with hp | hp <;> exact ⟨_, hp, by decide⟩
  obtain ⟨sc, hs, hsb⟩ : ∃ sc, j.sni = ⟨[sc]⟩ ∧ stringOfByte sc = ⟨[sc]⟩ ∧ '_' ≠ sc := by
    rcases hs with hs | hs <;> exact ⟨_, hs, by decide⟩
  have hsplit : split j.toString '_' =
      [⟨[pc, v1, v2, sc, c1, c2, e1, e2]⟩, j.cipherHash, j.extensionHash] := by
    rw [JA4Fingerprint.toString, hp, hv, hs, hc, he, ← join_three]
    apply split_join (by simp)
    simp_all
  rw [parseJA4String, hsplit]
  simp [Go.slice, hpb.1, hsb.1, JA4Fingerprint.stripRaw, hp, hv, hs, hc, he]

/-- `formatTLSVersion` gives one of six tags. -/
theorem formatTLSVersion_mem (v : UInt16) :
    formatTLSVersion v ∈ ["s3", "10", "11", "12", "13", "00"] := by
  unfold formatTLSVersion; split <;> simp

/-- Every version but SSL 3.0 prints as a tag the parser accepts. -/
theorem formatTLSVersion_mem_validVersions {v : UInt16} (h : v.toNat ≠ 0x0300) :
    formatTLSVersion v ∈ validVersions := by
  unfold formatTLSVersion
  split
  · contradiction
  all_goals decide

/-- The SNI type is `d` or `i`. -/
theorem determineSNIType_mem (serverName : String) :
    determineSNIType serverName = "d" ∨ determineSNIType serverName = "i" := by
  unfold determineSNIType
  split_ifs
  · simp
  · simp
  · cases ipv6Scan false serverName.data with
    | mk hasColon allHexOrColon => cases hasColon <;> cases allHexOrColon <;> simp

/-- The IPv6 loop reads a colon anywhere, and stops at the first byte that is neither a colon nor
a hex digit. -/
theorem ipv6Scan_and (hasColon : Bool) (l : List Char) :
    ((ipv6Scan hasColon l).1 && (ipv6Scan hasColon l).2) =
      ((hasColon || l.contains ':') && l.all fun c => c = ':' || isHexByte c) := by
  induction l generalizing hasColon with
  | nil => simp [ipv6Scan]
  | cons c cs ih =>
    unfold ipv6Scan
    by_cases hc : c = ':'
    · subst hc; simp [ih]
    · by_cases hx : isHexByte c
      · simp [hc, Ne.symm hc, hx, ih]
      · simp [hc, hx]

/-- The SNI letter is `"i"` exactly for no name, a name of digits and dots, or a name of hex digits
and colons with at least one colon. -/
theorem determineSNIType_eq_i_iff (serverName : String) :
    determineSNIType serverName = "i" ↔
      serverName = "" ∨ (∀ c ∈ serverName.data, ('0' ≤ c ∧ c ≤ '9') ∨ c = '.') ∨
        (':' ∈ serverName.data ∧ ∀ c ∈ serverName.data, c = ':' ∨ isHexByte c = true) := by
  have hscan := ipv6Scan_and false serverName.data
  unfold determineSNIType
  rcases hs : ipv6Scan false serverName.data with ⟨hasColon, allHexOrColon⟩
  have hv6 : (hasColon = true ∧ allHexOrColon = true) ↔
      ':' ∈ serverName.data ∧ ∀ c ∈ serverName.data, c = ':' ∨ isHexByte c = true := by
    rw [hs] at hscan
    rw [← Bool.and_eq_true, hscan]
    simp
  simp only [List.all_eq_true, Bool.or_eq_true, Bool.and_eq_true, decide_eq_true_eq, hv6]
  split_ifs with h0 h4 h6
  · exact iff_of_true rfl (.inl h0)
  · exact iff_of_true rfl (.inr (.inl h4))
  · exact iff_of_true rfl (.inr (.inr h6))
  · exact iff_of_false (by decide) (by rintro (h | h | h) <;> contradiction)

/-- The SNI letter is `"i"` for no name, a name of digits and dots, or a name of hex digits and
colons with at least one colon, and `"d"` for every other name. -/
theorem determineSNIType_eq_i (serverName : String) :
    determineSNIType serverName =
      if serverName = "" ∨ (∀ c ∈ serverName.data, ('0' ≤ c ∧ c ≤ '9') ∨ c = '.') ∨
          (':' ∈ serverName.data ∧ ∀ c ∈ serverName.data, c = ':' ∨ isHexByte c = true)
      then "i" else "d" := by
  split_ifs with h
  · exact (determineSNIType_eq_i_iff serverName).mpr h
  · exact (determineSNIType_mem serverName).resolve_right
      (mt (determineSNIType_eq_i_iff serverName).mp h)

/-- A hex printing has no `_`. -/
theorem underscore_not_mem_sprintfHex (width n : Nat) : '_' ∉ (sprintfHex width n).data := by
  intro h
  obtain ⟨d, hd, he⟩ := mem_sprintfHex h
  exact digitChar_ne_underscore hd he.symm

/-- A truncated hex digest has twelve bytes and no `_`. -/
theorem hashPrefix_printable (d : Digest) :
    (hashPrefix d).length = 12 ∧ '_' ∉ (hashPrefix d).data := by
  refine ⟨?_, fun h => ?_⟩
  · show ((hexEncode d.bytes).data.take 12).length = 12
    have := hexEncode_length d.bytes
    rw [d.length_bytes] at this
    simp only [List.length_take, String.length] at this ⊢
    omega
  · obtain ⟨k, hk, he⟩ := mem_hexEncode (List.mem_of_mem_take h)
    exact digitChar_ne_underscore hk he.symm

section Hash

variable (sha256 : List UInt8 → Digest)

/-- The cipher hash is a prefix of a SHA-256 digest. -/
theorem generateCipherHash_eq (cipherSuites : List UInt16) :
    ∃ d, generateCipherHash sha256 cipherSuites = hashPrefix d := by
  unfold generateCipherHash idListHash; split_ifs <;> exact ⟨_, rfl⟩

/-- The extension hash is a prefix of a SHA-256 digest. -/
theorem generateExtensionHash_eq (extensions : List UInt16) :
    ∃ d, generateExtensionHash sha256 extensions = hashPrefix d := by
  unfold generateExtensionHash idListHash; dsimp only; split_ifs <;> exact ⟨_, rfl⟩

/-- A count clamped to 255 prints in two hex digits. -/
theorem sprintfHex_min_length (n : Nat) : (sprintfHex 2 (min n 255)).length = 2 :=
  sprintfHex_length (by norm_num) (by omega)

/-- **`GenerateJA4` returns a printable fingerprint** for every summary. -/
theorem generateJA4_printable (data : JA4Data) :
    ∃ fp, generateJA4 sha256 (some data) = .ok fp ∧ fp.Printable := by
  refine ⟨_, rfl, ⟨by cases data.isQUIC <;> simp, determineSNIType_mem _, ?_,
    ⟨sprintfHex_min_length _, underscore_not_mem_sprintfHex _ _⟩,
    ⟨sprintfHex_min_length _, underscore_not_mem_sprintfHex _ _⟩, ?_, ?_⟩⟩
  · show (formatTLSVersion _).length = 2 ∧ '_' ∉ (formatTLSVersion _).data
    have := formatTLSVersion_mem data.tlsVersion
    simp only [List.mem_cons, List.mem_singleton, List.not_mem_nil, or_false] at this
    rcases this with h | h | h | h | h | h <;> rw [h] <;> decide
  · obtain ⟨d, hd⟩ := generateCipherHash_eq sha256 data.cipherSuites
    exact hd ▸ (hashPrefix_printable d).2
  · obtain ⟨d, hd⟩ := generateExtensionHash_eq sha256 data.extensions
    exact hd ▸ (hashPrefix_printable d).2

/-- **The JA4 round trip**: for every summary whose version is not SSL 3.0, the printed
fingerprint parses back to its seven printed fields. -/
theorem parseJA4String_generateJA4 (data : JA4Data) (hv : data.tlsVersion ≠ 0x0300) :
    ∃ fp fp', generateJA4 sha256 (some data) = .ok fp ∧
      parseJA4String fp.toString = .ok fp' ∧ fp'.printed = fp.printed := by
  obtain ⟨fp, hfp, hp⟩ := generateJA4_printable sha256 data
  refine ⟨fp, fp.stripRaw, hfp, ?_, rfl⟩
  rw [parseJA4String_toString hp]
  cases hfp
  have hver : formatTLSVersion data.tlsVersion ∈ validVersions :=
    formatTLSVersion_mem_validVersions fun h => hv (UInt16.toNat.inj h)
  obtain ⟨dc, hdc⟩ := generateCipherHash_eq sha256 data.cipherSuites
  obtain ⟨de, hde⟩ := generateExtensionHash_eq sha256 data.extensions
  rcases determineSNIType_mem data.serverName with hs | hs <;>
    cases data.isQUIC <;>
    simp [validateJA4, JA4Fingerprint.stripRaw, hver, hs, hdc, hde, hashPrefix_printable]

/-- A TLS 1.3 summary with a domain, one suite and the extensions SNI and ALPN. -/
theorem parseJA4String_generateJA4_tls13 :
    ∃ fp fp', generateJA4 sum256 (some ⟨false, 0x0304, "example.com", [4865], [0, 16], ["h2"]⟩) =
        .ok fp ∧ parseJA4String fp.toString = .ok fp' ∧ fp'.printed = fp.printed :=
  parseJA4String_generateJA4 sum256 _ (by decide)

/-- With version 0x0300 the printed fingerprint carries the tag `s3`, which the parser rejects. -/
theorem parseJA4String_generateJA4_ssl3 :
    ∃ fp, generateJA4 sha256 (some ⟨false, 0x0300, "", [], [], []⟩) = .ok fp ∧
      parseJA4String fp.toString = .error (.tlsVersion "s3") := by
  obtain ⟨fp, hfp, hp⟩ := generateJA4_printable sha256 ⟨false, 0x0300, "", [], [], []⟩
  refine ⟨fp, hfp, ?_⟩
  rw [parseJA4String_toString hp]
  cases hfp
  rfl

end Hash

/-! ## What the parser reads

`ParseJA4String` reads bytes 0 to 7 of part a and none after them. A part a of seven bytes passes
the length check and then panics on `partA[6:8]`; on every other string the parser returns a
fingerprint or an error value. An accepted string prints back with part a cut to eight bytes, so a
part a that carries the two-byte ALPN tag loses it. -/

/-- The validation returns the fingerprint it checked, with protocol `q` or `t` and SNI `d` or
`i`. -/
theorem validateJA4_eq_ok {fp fp' : JA4Fingerprint} (h : validateJA4 fp = .ok fp') :
    fp' = fp ∧ (fp.protocol = "q" ∨ fp.protocol = "t") ∧ (fp.sni = "d" ∨ fp.sni = "i") := by
  simp only [validateJA4, error_ite_eq_ok] at h
  obtain ⟨hp, -, hs, -, -, h⟩ := h
  cases h
  exact ⟨rfl, or_iff_not_and_not.mpr hp, or_iff_not_and_not.mpr hs⟩

/-- `ValidateJA4` never panics on a slice bound. -/
theorem validateJA4_ne_panic (fp : JA4Fingerprint) (high len : Nat) :
    validateJA4 fp ≠ .error (.sliceBoundsOutOfRange high len) := by
  unfold validateJA4
  repeat' refine error_ite_ne (fun h => nomatch h) ?_
  exact fun h => nomatch h

/-- **`ParseJA4String` panics exactly on a part a of seven bytes.** -/
theorem parseJA4String_panics (s : String) :
    (∃ high len, parseJA4String s = .error (.sliceBoundsOutOfRange high len)) ↔
      ∃ partA cipherHash extensionHash,
        split s '_' = [partA, cipherHash, extensionHash] ∧ partA.length = 7 := by
  unfold parseJA4String
  split
  · next partA cipherHash extensionHash hs =>
    split_ifs with h7 h8
    · simp [hs]; omega
    · simp [hs]; omega
    · simp [hs, validateJA4_ne_panic]; omega
  · next parts hne =>
    exact ⟨(fun ⟨_, _, h⟩ => nomatch h), fun ⟨a, b, c, hs, _⟩ => (hne a b c hs).elim⟩

example :
    parseJA4String "t13d151_8daaf6152771_e5627efa2ab1" = .error (.sliceBoundsOutOfRange 8 7) := by
  decide

/-- `string(b)` is a one-byte string only for an ASCII byte, and then it is that byte. -/
theorem stringOfByte_eq_single {c d : Char} (h : stringOfByte c = ⟨[d]⟩) : c = d := by
  unfold stringOfByte at h
  split_ifs at h
  · exact (List.cons.inj (String.ext_iff.mp h)).1
  · exact absurd (congrArg (·.data.length) h) (by simp)

/-- A byte whose `string(b)` is one character is that character. -/
theorem stringOfByte_of_single {c d : Char} (h : stringOfByte c = ⟨[d]⟩) :
    stringOfByte c = ⟨[c]⟩ := by
  rw [h, stringOfByte_eq_single h]

/-- The five fields the parser cuts from part a print back as its first eight bytes. -/
theorem partA_take_eight {partA : String} (h : 8 ≤ partA.length) :
    (⟨[partA.data.getD 0 '\x00']⟩ : String) ++ slice partA 1 3 ++ ⟨[partA.data.getD 3 '\x00']⟩ ++
      slice partA 4 6 ++ slice partA 6 8 = ⟨partA.data.take 8⟩ := by
  obtain ⟨l⟩ := partA
  obtain ⟨pre, rest, rfl, hpre⟩ : ∃ pre rest, l = pre ++ rest ∧ pre.length = 8 :=
    ⟨l.take 8, l.drop 8, (List.take_append_drop 8 l).symm, by simp at h ⊢; omega⟩
  match pre, hpre with
  | [c0, c1, c2, c3, c4, c5, c6, c7], _ => rfl

/-- **An accepted string prints back with part a cut to eight bytes**: the fingerprint's
`String()` is the string itself exactly when part a has eight bytes. -/
theorem toString_parseJA4String {s : String} {fp : JA4Fingerprint}
    (h : parseJA4String s = .ok fp) :
    ∃ partA rest, s = partA ++ "_" ++ rest ∧ '_' ∉ partA.data ∧ 8 ≤ partA.length ∧
      fp.toString = ⟨partA.data.take 8⟩ ++ "_" ++ rest ∧ (fp.toString = s ↔ partA.length = 8) := by
  unfold parseJA4String at h
  split at h
  · next partA cipherHash extensionHash hs =>
    split_ifs at h with h7 h8
    obtain ⟨hfp, hp, hsni⟩ := validateJA4_eq_ok h
    have hs' : s = partA ++ "_" ++ (cipherHash ++ "_" ++ extensionHash) := by
      rw [← join_split s '_', hs, join_three]; simp [String.append_assoc]
    have hprint : fp.toString =
        ⟨partA.data.take 8⟩ ++ "_" ++ (cipherHash ++ "_" ++ extensionHash) := by
      subst hfp
      dsimp only at hp hsni
      rcases hp with hp | hp <;> rcases hsni with hsni | hsni <;>
      simp only [JA4Fingerprint.toString, stringOfByte_of_single hp, stringOfByte_of_single hsni,
        ← partA_take_eight (Nat.le_of_not_lt h8), String.append_assoc]
    refine ⟨partA, _, hs', not_mem_of_mem_split (hs ▸ List.mem_cons_self _ _),
      Nat.le_of_not_lt h8, hprint, ?_⟩
    rw [hprint, hs', String.ext_iff]
    simp only [String.data_append, List.append_cancel_right_eq, List.append_assoc]
    have hl : partA.length = partA.data.length := rfl
    constructor
    · intro he; have := congrArg List.length he; simp at this; omega
    · intro he; exact List.take_of_length_le (le_of_eq he)
  · cases h

/-- The JA4 `t13d1516h2_8daaf6152771_e5627efa2ab1`, whose part a is eight bytes: it prints back as
itself. -/
theorem toString_parseJA4String_h2 :
    ∃ fp, parseJA4String "t13d1516h2_8daaf6152771_e5627efa2ab1" = .ok fp ∧
      ∃ partA rest, "t13d1516h2_8daaf6152771_e5627efa2ab1" = partA ++ "_" ++ rest ∧
        '_' ∉ partA.data ∧ 8 ≤ partA.length ∧ fp.toString = ⟨partA.data.take 8⟩ ++ "_" ++ rest ∧
        (fp.toString = "t13d1516h2_8daaf6152771_e5627efa2ab1" ↔ partA.length = 8) :=
  ⟨_, rfl, toString_parseJA4String rfl⟩

/-- A JA4 string of the profiles, with its ten-byte part a, prints back without its ALPN tag. -/
theorem parseJA4String_canonical_toString :
    ∃ fp, parseJA4String "t13d1516h2_8daaf6152771_e5627efa2ab1" = .ok fp ∧
      fp.toString = "t13d1516_8daaf6152771_e5627efa2ab1" ∧
      fp.toString ≠ "t13d1516h2_8daaf6152771_e5627efa2ab1" :=
  ⟨_, rfl, by decide, by decide⟩

end TlsFingerprint.Ja3
