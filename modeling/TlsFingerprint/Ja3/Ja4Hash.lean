import TlsFingerprint.Ja3.Ja4

/-!
# What the JA4 hashes read

Parts b and c of a JA4 are truncated SHA-256 digests of one string: ids printed `%04x` and joined
by commas (`hashInput`). The cipher hash takes the suites in their order; the extension hash takes
the ids other than 0 (SNI) and 16 (ALPN), sorted ascending (`extensionHashInput`). In every branch
of `generateCipherHash` and `generateExtensionHash`, the empty lists included, the digest is of
that string (`generateCipherHash_eq_input`, `generateExtensionHash_eq_input`).

The string gives its list back: four hex digits per id and a comma between two ids
(`hashInput_inj`). So the cipher hash's input tells any two cipher orders apart, while the
extension hash's input is fixed by the multiset of the hashed ids and by nothing else
(`ja4HashInputs_spec`).

`ConvertJA3ToJA4` copies a JA3's version, suites and extension ids into a JA4 summary. Two JA3s
that differ only in the order of their extensions convert to one JA4 string
(`generateJA4_convertJA3ToJA4_reorder`), though their JA3 strings differ.
-/

namespace TlsFingerprint.Ja3

open Go

/-! ## Sorting 16-bit ids -/

instance uint16_isTotal_le : IsTotal UInt16 (· ≤ ·) := ⟨UInt16.le_total⟩

instance uint16_isTrans_le : IsTrans UInt16 (· ≤ ·) := ⟨fun _ _ _ => UInt16.le_trans⟩

instance uint16_isAntisymm_le : IsAntisymm UInt16 (· ≤ ·) :=
  ⟨fun _ _ h₁ h₂ => UInt16.toNat.inj (Nat.le_antisymm h₁ h₂)⟩

/-- Sorting forgets the order of its input. -/
theorem insertionSort_eq_of_perm {l₁ l₂ : List UInt16} (h : l₁.Perm l₂) :
    l₁.insertionSort (· ≤ ·) = l₂.insertionSort (· ≤ ·) :=
  List.eq_of_perm_of_sorted
    ((List.perm_insertionSort _ _).trans (h.trans (List.perm_insertionSort _ _).symm))
    (List.sorted_insertionSort _ _) (List.sorted_insertionSort _ _)

/-! ## The hashed strings -/

/-- The string a JA4 hash digests: the ids printed `%04x`, joined by commas. -/
def hashInput (ids : List UInt16) : String :=
  join (ids.map fun id => sprintfHex 4 id.toNat) ','

/-- The ids the extension hash reads: all but 0 (SNI) and 16 (ALPN), in order. -/
def hashedExtensions (extensions : List UInt16) : List UInt16 :=
  extensions.filter fun e => e ≠ 0 ∧ e ≠ 16

/-- The string `generateExtensionHash` digests: the hashed ids, sorted ascending. -/
def extensionHashInput (extensions : List UInt16) : String :=
  hashInput ((hashedExtensions extensions).insertionSort (· ≤ ·))

section Hash

variable (sha256 : List UInt8 → Digest)

/-- The cipher hash digests `hashInput` of the suites, the empty string for none. -/
theorem generateCipherHash_eq_input (cipherSuites : List UInt16) :
    generateCipherHash sha256 cipherSuites = hashPrefix (sha256 (bytes (hashInput cipherSuites))) := by
  unfold generateCipherHash
  split_ifs with h
  · rw [h]; rfl
  · rfl

/-- The extension hash digests `extensionHashInput`, in all three of its branches. -/
theorem generateExtensionHash_eq_input (extensions : List UInt16) :
    generateExtensionHash sha256 extensions =
      hashPrefix (sha256 (bytes (extensionHashInput extensions))) := by
  unfold generateExtensionHash extensionHashInput hashedExtensions
  dsimp only
  split_ifs with h₁ h₂
  · rw [h₁]; rfl
  · rw [h₂]; rfl
  · rfl

end Hash

/-! ## The strings give their lists back -/

/-- No hexadecimal digit is a comma. -/
theorem digitChar_ne_comma {d : Nat} (h : d < 16) : Nat.digitChar d ≠ ',' := by
  interval_cases d <;> decide

/-- An id prints in four bytes, none of them a comma. -/
theorem sprintfHex_id (id : UInt16) :
    (sprintfHex 4 id.toNat).length = 4 ∧ ',' ∉ (sprintfHex 4 id.toNat).data := by
  refine ⟨sprintfHex_length (by norm_num) id.toNat_lt_size, fun h => ?_⟩
  obtain ⟨d, hd, he⟩ := mem_sprintfHex h
  exact digitChar_ne_comma hd he.symm

/-- The hash input of a nonempty list splits at its commas into the ids' four-digit hex. -/
theorem split_hashInput {ids : List UInt16} (h : ids ≠ []) :
    split (hashInput ids) ',' = ids.map fun id => sprintfHex 4 id.toNat :=
  split_join (by simpa using h) (by simpa using fun id _ => (sprintfHex_id id).2)

/-- The hash input of a nonempty list is not empty. -/
theorem hashInput_ne_empty {ids : List UInt16} (h : ids ≠ []) : hashInput ids ≠ "" :=
  join_ne_empty (by simpa using h) (by
    simp only [List.mem_map]
    rintro _ ⟨id, -, rfl⟩ he
    simpa [he] using (sprintfHex_id id).1)

/-- **The hashed string determines the list of ids.** -/
theorem hashInput_inj {l₁ l₂ : List UInt16} (h : hashInput l₁ = hashInput l₂) : l₁ = l₂ := by
  rcases l₁ with _ | ⟨a, l₁⟩ <;> rcases l₂ with _ | ⟨b, l₂⟩
  · rfl
  · exact absurd h.symm (hashInput_ne_empty (List.cons_ne_nil _ _))
  · exact absurd h (hashInput_ne_empty (List.cons_ne_nil _ _))
  · have hmap := (split_hashInput (List.cons_ne_nil a l₁)).symm.trans
      (h ▸ split_hashInput (List.cons_ne_nil b l₂))
    exact List.map_injective_iff.mpr (fun a b hab => UInt16.toNat.inj (sprintfHex_inj hab)) hmap

/-- **What the JA4 hashes are sensitive to.** The extension hash digests the sorted hashed ids in
every branch, so lists with the same multiset of ids other than 0 and 16 hash alike, and its
input differs whenever those multisets differ; the cipher hash digests the suites in order, and
its input tells any two lists apart. -/
theorem ja4HashInputs_spec :
    (∀ (sha256 : List UInt8 → Digest) (extensions : List UInt16),
      generateExtensionHash sha256 extensions =
        hashPrefix (sha256 (bytes (extensionHashInput extensions)))) ∧
    (∀ (sha256 : List UInt8 → Digest) (l₁ l₂ : List UInt16),
      (hashedExtensions l₁).Perm (hashedExtensions l₂) →
        generateExtensionHash sha256 l₁ = generateExtensionHash sha256 l₂) ∧
    (∀ l₁ l₂ : List UInt16,
      extensionHashInput l₁ = extensionHashInput l₂ ↔
        (hashedExtensions l₁).Perm (hashedExtensions l₂)) ∧
    (∀ (sha256 : List UInt8 → Digest) (cipherSuites : List UInt16),
      generateCipherHash sha256 cipherSuites =
        hashPrefix (sha256 (bytes (hashInput cipherSuites)))) ∧
    (∀ l₁ l₂ : List UInt16, hashInput l₁ = hashInput l₂ ↔ l₁ = l₂) := by
  have hinput : ∀ l₁ l₂ : List UInt16, extensionHashInput l₁ = extensionHashInput l₂ ↔
      (hashedExtensions l₁).Perm (hashedExtensions l₂) := by
    refine fun l₁ l₂ => ⟨fun h => ?_, fun h => congrArg hashInput (insertionSort_eq_of_perm h)⟩
    have hsorted := List.perm_insertionSort (· ≤ ·) (hashedExtensions l₁)
    rw [show (hashedExtensions l₁).insertionSort (· ≤ ·) =
      (hashedExtensions l₂).insertionSort (· ≤ ·) from hashInput_inj h] at hsorted
    exact hsorted.symm.trans (List.perm_insertionSort _ _)
  refine ⟨generateExtensionHash_eq_input, fun sha256 l₁ l₂ h => ?_, hinput,
    generateCipherHash_eq_input, fun _ _ => ⟨hashInput_inj, congrArg hashInput⟩⟩
  rw [generateExtensionHash_eq_input, generateExtensionHash_eq_input, (hinput l₁ l₂).mpr h]

/-- Moving SNI and ALPN, or the other ids, does not change the extension hash. -/
theorem ja4HashInputs_spec_reorder :
    generateExtensionHash sum256 [0, 10, 16, 11] = generateExtensionHash sum256 [11, 10] :=
  ja4HashInputs_spec.2.1 sum256 _ _ (by decide)

/-! ## The JA4 of a JA3 -/

/-- **Reordering a JA3's extensions leaves the JA4 it converts to unchanged**, whatever the hash:
the count does not see the order and the extension hash sorts. -/
theorem generateJA4_convertJA3ToJA4_reorder (sha256 : List UInt8 → Digest) (d₁ d₂ : JA3Data)
    (serverName : String) (isQUIC : Bool) (hv : d₁.version = d₂.version)
    (hc : d₁.cipherSuites = d₂.cipherSuites) (he : d₁.extensions.Perm d₂.extensions) :
    JA4Fingerprint.toString <$> generateJA4 sha256 (some (convertJA3ToJA4 d₁ serverName isQUIC)) =
      JA4Fingerprint.toString <$>
        generateJA4 sha256 (some (convertJA3ToJA4 d₂ serverName isQUIC)) := by
  have hhash : generateExtensionHash sha256 d₁.extensions =
      generateExtensionHash sha256 d₂.extensions := by
    rw [generateExtensionHash_eq_input, generateExtensionHash_eq_input, extensionHashInput,
      extensionHashInput, hashedExtensions, hashedExtensions,
      insertionSort_eq_of_perm (he.filter _)]
  simp only [generateJA4, convertJA3ToJA4, hv, hc, he.length_eq, hhash]
  rfl

/-- A JA3 with its extensions shuffled, as a browser that permutes them sends it. -/
theorem generateJA4_convertJA3ToJA4_shuffled :
    JA4Fingerprint.toString <$> generateJA4 sum256
        (some (convertJA3ToJA4 ⟨771, [4865, 4866], [0, 23, 65281, 10, 11, 16], [29], [0]⟩
          "example.com" false)) =
      JA4Fingerprint.toString <$> generateJA4 sum256
        (some (convertJA3ToJA4 ⟨771, [4865, 4866], [16, 10, 0, 65281, 23, 11], [29], [0]⟩
          "example.com" false)) :=
  generateJA4_convertJA3ToJA4_reorder sum256 _ _ _ _ rfl rfl (by decide)

end TlsFingerprint.Ja3
