import TlsFingerprint.Go.Basic
import Mathlib.Data.List.Forall2

/-!
# Parsing JA3 strings

`ParseJA3` (`internal/util/ja3/parser.go`) reads the five comma-separated fields of a JA3
fingerprint: the record version, then the cipher suites, extensions and supported groups as
dash-separated 16-bit decimals, and the point formats as 8-bit decimals. An empty field means no
values.

`parseJA3_eq_ok` describes every successful parse: `s` splits into five fields and the result
holds the values they spell (`JA3Denotes`). The three laws of the JA3 codec follow from it:
`parseJA3` succeeds exactly on the JA3 language (`IsJA3`), it inverts the canonical serializer of
the JA3 format (`JA3Data.serialize`), and the serializer inverts it on canonical strings
(`IsCanonicalJA3`). `parseJA3_codec` states the three together.
-/

namespace TlsFingerprint.Ja3

open Go

/-- `JA3Data`: the fields of a parsed JA3 fingerprint. -/
structure JA3Data where
  version : UInt16
  cipherSuites : List UInt16
  extensions : List UInt16
  supportedGroups : List UInt16
  ellipticCurvePoint : List UInt8
  deriving DecidableEq, Repr

/-- The errors `ParseJA3` returns, one per `fmt.Errorf` of the source, with the values it
formats. -/
inductive ParseJA3Error
  /-- `invalid JA3 format: expected 5 parts, got %d` -/
  | format (got : Nat)
  /-- `invalid SSL version: %w` -/
  | sslVersion (err : NumError)
  /-- `invalid cipher suite %s: %w` -/
  | cipherSuite (token : String) (err : NumError)
  /-- `invalid extension %s: %w` -/
  | extension (token : String) (err : NumError)
  /-- `invalid elliptic curve %s: %w` -/
  | ellipticCurve (token : String) (err : NumError)
  /-- `invalid point format %s: %w` -/
  | pointFormat (token : String) (err : NumError)
  deriving DecidableEq, Repr

/-- The loop over the tokens of one list field: each is parsed as a `bitSize`-bit decimal, and the
first that fails is reported through `err`. -/
def parseTokens (bitSize : Nat) (err : String → NumError → ParseJA3Error) :
    List String → Except ParseJA3Error (List Nat)
  | [] => .ok []
  | tok :: toks => do
    let v ← (parseUint tok 10 bitSize).mapError (err tok)
    let vs ← parseTokens bitSize err toks
    return v :: vs

/-- One list field of `ParseJA3`: no values when the field is empty, else its `-`-separated
tokens. -/
def parseList (bitSize : Nat) (err : String → NumError → ParseJA3Error) (part : String) :
    Except ParseJA3Error (List Nat) :=
  if part = "" then .ok [] else parseTokens bitSize err (split part '-')

/-- The version field of `ParseJA3`: zero when empty, else a 16-bit decimal. -/
def parseVersion (part : String) : Except ParseJA3Error Nat :=
  if part = "" then .ok 0 else (parseUint part 10 16).mapError .sslVersion

/-- `ParseJA3(ja3)`. -/
def parseJA3 (ja3 : String) : Except ParseJA3Error JA3Data :=
  match split ja3 ',' with
  | [p0, p1, p2, p3, p4] => do
    let version ← parseVersion p0
    let ciphers ← parseList 16 .cipherSuite p1
    let exts ← parseList 16 .extension p2
    let curves ← parseList 16 .ellipticCurve p3
    let points ← parseList 8 .pointFormat p4
    return ⟨.ofNat version, ciphers.map .ofNat, exts.map .ofNat, curves.map .ofNat,
      points.map .ofNat⟩
  | parts => .error (.format parts.length)

example : parseJA3 "771,4865-4866,0-23,29,0" = .ok ⟨771, [4865, 4866], [0, 23], [29], [0]⟩ := by
  decide

/-! ## The JA3 language -/

/-- `part` is a list field spelling `vs`: empty for no values, else one decimal numeral per value,
dash-separated. -/
def ListField {α : Type} (toNat : α → Nat) (part : String) (vs : List α) : Prop :=
  if part = "" then vs = []
  else List.Forall₂ (fun tok v => IsDecimal tok ∧ decimalValue tok.data = toNat v)
    (split part '-') vs

/-- The version field spells `v`: empty for zero, else one decimal numeral. -/
def VersionField (part : String) (v : UInt16) : Prop :=
  if part = "" then v = 0 else IsDecimal part ∧ decimalValue part.data = v.toNat

/-- `s` has exactly five comma-separated fields, and they spell the fields of `d`. -/
def JA3Denotes (s : String) (d : JA3Data) : Prop :=
  ∃ p0 p1 p2 p3 p4, split s ',' = [p0, p1, p2, p3, p4] ∧ VersionField p0 d.version ∧
    ListField UInt16.toNat p1 d.cipherSuites ∧ ListField UInt16.toNat p2 d.extensions ∧
    ListField UInt16.toNat p3 d.supportedGroups ∧ ListField UInt8.toNat p4 d.ellipticCurvePoint

/-- A field of numerals of at most `bound`: empty, or dash-separated decimal numerals. -/
def NumeralsField (bound : Nat) (part : String) : Prop :=
  part = "" ∨ ∀ tok ∈ split part '-', IsDecimal tok ∧ decimalValue tok.data ≤ bound

/-- The JA3 language: five comma-separated fields, the first empty or one numeral of at most
65535, the next three 16-bit numeral lists and the last an 8-bit numeral list. -/
def IsJA3 (s : String) : Prop :=
  ∃ p0 p1 p2 p3 p4, split s ',' = [p0, p1, p2, p3, p4] ∧
    (p0 = "" ∨ IsDecimal p0 ∧ decimalValue p0.data ≤ 65535) ∧
    NumeralsField 65535 p1 ∧ NumeralsField 65535 p2 ∧ NumeralsField 65535 p3 ∧
    NumeralsField 255 p4

/-- The dash-joined decimal numerals of a list. -/
def decimalList (vs : List Nat) : String :=
  join (vs.map (formatUint · 10)) '-'

/-- The canonical JA3 string, `v,c1-c2-…,e1-…,g1-…,p1-…`, numbers in decimal. The code has no
serializer; this one writes the JA3 format as the parser reads it. -/
def JA3Data.serialize (d : JA3Data) : String :=
  join [formatUint d.version.toNat 10, decimalList (d.cipherSuites.map UInt16.toNat),
    decimalList (d.extensions.map UInt16.toNat), decimalList (d.supportedGroups.map UInt16.toNat),
    decimalList (d.ellipticCurvePoint.map UInt8.toNat)] ','

/-- A canonical list field: empty, or dash-separated canonical numerals of at most `bound`. -/
def CanonicalField (bound : Nat) (part : String) : Prop :=
  part = "" ∨ ∀ tok ∈ split part '-', IsCanonicalDecimal tok ∧ decimalValue tok.data ≤ bound

/-- A JA3 string in canonical form: a non-empty version and numerals without
leading zeros. -/
def IsCanonicalJA3 (s : String) : Prop :=
  ∃ p0 p1 p2 p3 p4, split s ',' = [p0, p1, p2, p3, p4] ∧
    IsCanonicalDecimal p0 ∧ decimalValue p0.data ≤ 65535 ∧
    CanonicalField 65535 p1 ∧ CanonicalField 65535 p2 ∧ CanonicalField 65535 p3 ∧
    CanonicalField 255 p4

/-! ## Successful parses -/

/-- The token loop succeeds exactly when every token is a numeral below `2 ^ bitSize`, and returns
their values. -/
theorem parseTokens_eq_ok {b : Nat} {err : String → NumError → ParseJA3Error} :
    ∀ {toks : List String} {vs : List Nat}, parseTokens b err toks = .ok vs ↔
      List.Forall₂ (fun tok v => IsDecimal tok ∧ decimalValue tok.data = v ∧ v < 2 ^ b) toks vs
  | [], vs => by simp [parseTokens, eq_comm]
  | tok :: toks, vs => by
    simp only [parseTokens, bind_eq_ok, mapError_eq_ok, parseUint_eq_ok, pure_eq_ok,
      parseTokens_eq_ok, List.forall₂_cons_left_iff]
    constructor
    · rintro ⟨v, hv, vs', hvs, rfl⟩; exact ⟨v, vs', hv, hvs, rfl⟩
    · rintro ⟨v, vs', hv, hvs, rfl⟩; exact ⟨v, hv, vs', hvs, rfl⟩

/-- Casting values below the width `N` into a fixed-width type: the cast list is the one whose
`toNat`s the tokens spell. -/
theorem forall₂_ofNat {α : Type} {N : Nat} {ofNat : Nat → α} {toNat : α → Nat}
    (hto : ∀ n, n < N → toNat (ofNat n) = n) (hof : ∀ a, ofNat (toNat a) = a)
    (hlt : ∀ a, toNat a < N) {P : String → Prop} {f : String → Nat} :
    ∀ {toks : List String} {cs : List α},
      (∃ vs, List.Forall₂ (fun tok v => P tok ∧ f tok = v ∧ v < N) toks vs ∧ cs = vs.map ofNat) ↔
        List.Forall₂ (fun tok c => P tok ∧ f tok = toNat c) toks cs
  | [], cs => by simp [eq_comm]
  | tok :: toks, cs => by
    simp only [List.forall₂_cons_left_iff]
    constructor
    · rintro ⟨_, ⟨v, vs, ⟨hp, rfl, hv⟩, hvs, rfl⟩, rfl⟩
      exact ⟨ofNat (f tok), vs.map ofNat, ⟨hp, (hto _ hv).symm⟩,
        (forall₂_ofNat hto hof hlt).1 ⟨vs, hvs, rfl⟩, rfl⟩
    · rintro ⟨c, cs, ⟨hp, hc⟩, hcs, rfl⟩
      obtain ⟨vs, hvs, rfl⟩ := (forall₂_ofNat hto hof hlt).2 hcs
      exact ⟨toNat c :: vs, ⟨toNat c, vs, ⟨hp, hc, hlt c⟩, hvs, rfl⟩, by simp [hof]⟩

/-- A 16-bit list field parses to the list it spells. -/
theorem parseList16_eq_ok {err : String → NumError → ParseJA3Error} {part : String}
    {cs : List UInt16} :
    (∃ vs, parseList 16 err part = .ok vs ∧ cs = vs.map UInt16.ofNat) ↔
      ListField UInt16.toNat part cs := by
  unfold parseList ListField
  split_ifs
  · simp [eq_comm]
  · simp only [parseTokens_eq_ok]
    exact forall₂_ofNat (fun n h => UInt16.toNat_ofNat_of_lt h) uint16_ofNat_toNat
      UInt16.toNat_lt_size

/-- An 8-bit list field parses to the list it spells. -/
theorem parseList8_eq_ok {err : String → NumError → ParseJA3Error} {part : String}
    {cs : List UInt8} :
    (∃ vs, parseList 8 err part = .ok vs ∧ cs = vs.map UInt8.ofNat) ↔
      ListField UInt8.toNat part cs := by
  unfold parseList ListField
  split_ifs
  · simp [eq_comm]
  · simp only [parseTokens_eq_ok]
    exact forall₂_ofNat (fun n h => UInt8.toNat_ofNat_of_lt h) uint8_ofNat_toNat
      UInt8.toNat_lt_size

/-- The version field parses to the version it spells. -/
theorem parseVersion_eq_ok {part : String} {ver : UInt16} :
    (∃ v, parseVersion part = .ok v ∧ ver = UInt16.ofNat v) ↔ VersionField part ver := by
  unfold parseVersion VersionField
  split_ifs
  · simp only [Except.ok.injEq, exists_eq_left']; rfl
  · simp only [mapError_eq_ok, parseUint_eq_ok]
    constructor
    · rintro ⟨v, ⟨hd, rfl, hv⟩, rfl⟩
      exact ⟨hd, (UInt16.toNat_ofNat_of_lt hv).symm⟩
    · rintro ⟨hd, hv⟩
      exact ⟨ver.toNat, ⟨hd, hv, ver.toNat_lt_size⟩, (uint16_ofNat_toNat ver).symm⟩

/-- **Every successful parse**: `ParseJA3(s)` returns `d` exactly when `s` has five fields that
spell the fields of `d`. -/
theorem parseJA3_eq_ok {s : String} {d : JA3Data} : parseJA3 s = .ok d ↔ JA3Denotes s d := by
  unfold parseJA3 JA3Denotes
  split
  · next p0 p1 p2 p3 p4 h =>
    obtain ⟨ver, cs, es, gs, ps⟩ := d
    have hfields : (∃ q0 q1 q2 q3 q4, split s ',' = [q0, q1, q2, q3, q4] ∧
        VersionField q0 ver ∧ ListField UInt16.toNat q1 cs ∧ ListField UInt16.toNat q2 es ∧
        ListField UInt16.toNat q3 gs ∧ ListField UInt8.toNat q4 ps) ↔
        VersionField p0 ver ∧ ListField UInt16.toNat p1 cs ∧ ListField UInt16.toNat p2 es ∧
        ListField UInt16.toNat p3 gs ∧ ListField UInt8.toNat p4 ps := by
      refine ⟨fun ⟨q0, q1, q2, q3, q4, hq, hr⟩ => ?_, fun hr => ⟨p0, p1, p2, p3, p4, h, hr⟩⟩
      rw [h] at hq
      simp only [List.cons.injEq, and_true] at hq
      obtain ⟨rfl, rfl, rfl, rfl, rfl⟩ := hq
      exact hr
    rw [hfields]
    simp only [bind_eq_ok, pure_eq_ok, JA3Data.mk.injEq]
    constructor
    · rintro ⟨v, hv, c, hc, e, he, g, hg, p, hp, rfl, rfl, rfl, rfl, rfl⟩
      exact ⟨parseVersion_eq_ok.1 ⟨v, hv, rfl⟩, parseList16_eq_ok.1 ⟨c, hc, rfl⟩,
        parseList16_eq_ok.1 ⟨e, he, rfl⟩, parseList16_eq_ok.1 ⟨g, hg, rfl⟩,
        parseList8_eq_ok.1 ⟨p, hp, rfl⟩⟩
    · rintro ⟨hv, hc, he, hg, hp⟩
      obtain ⟨v, hv', rfl⟩ := parseVersion_eq_ok.2 hv
      obtain ⟨c, hc', rfl⟩ := (@parseList16_eq_ok ParseJA3Error.cipherSuite _ _).2 hc
      obtain ⟨e, he', rfl⟩ := (@parseList16_eq_ok ParseJA3Error.extension _ _).2 he
      obtain ⟨g, hg', rfl⟩ := (@parseList16_eq_ok ParseJA3Error.ellipticCurve _ _).2 hg
      obtain ⟨p, hp', rfl⟩ := (@parseList8_eq_ok ParseJA3Error.pointFormat _ _).2 hp
      exact ⟨v, hv', c, hc', e, he', g, hg', p, hp', rfl, rfl, rfl, rfl, rfl⟩
  · next h =>
    simp only [reduceCtorEq, false_iff, not_exists, not_and]
    exact fun p0 p1 p2 p3 p4 hs => absurd hs (h p0 p1 p2 p3 p4)

/-! ## The JA3 language -/

/-- What a relation says of its left side holds of every element of a related left list. -/
theorem forall₂_forall_left {α β : Type} {R : α → β → Prop} {P : α → Prop}
    (hRP : ∀ a b, R a b → P a) : ∀ {l₁ : List α} {l₂ : List β}, List.Forall₂ R l₁ l₂ → ∀ a ∈ l₁, P a
  | _, _, .nil => by simp
  | _, _, .cons hab h => by
    simp only [List.mem_cons, forall_eq_or_imp]
    exact ⟨hRP _ _ hab, forall₂_forall_left hRP h⟩

/-- A field of numerals of at most `B` is a list field of a type whose values are `0..B`. -/
theorem numeralsField_iff {α : Type} {B : Nat} {ofNat : Nat → α} {toNat : α → Nat}
    (hto : ∀ n, n ≤ B → toNat (ofNat n) = n) (hle : ∀ a, toNat a ≤ B) {part : String} :
    NumeralsField B part ↔ ∃ cs, ListField toNat part cs := by
  unfold NumeralsField ListField
  by_cases hp : part = ""
  · simp [hp]
  · simp only [hp, false_or, if_false]
    constructor
    · intro h
      refine ⟨(split part '-').map fun tok => ofNat (decimalValue tok.data), ?_⟩
      rw [List.forall₂_map_right_iff, List.forall₂_same]
      exact fun tok htok => ⟨(h tok htok).1, (hto _ (h tok htok).2).symm⟩
    · rintro ⟨cs, hcs⟩
      exact forall₂_forall_left (fun _ c ⟨hd, hv⟩ => ⟨hd, hv ▸ hle c⟩) hcs

/-- A version field is empty or a decimal numeral of at most 65535. -/
theorem versionField_iff {part : String} :
    (part = "" ∨ IsDecimal part ∧ decimalValue part.data ≤ 65535) ↔ ∃ v, VersionField part v := by
  unfold VersionField
  by_cases hp : part = ""
  · simp [hp]
  · simp only [hp, false_or, if_false]
    constructor
    · rintro ⟨hd, hv⟩
      exact ⟨.ofNat (decimalValue part.data), hd, (UInt16.toNat_ofNat_of_lt (by
        simp [UInt16.size]; omega)).symm⟩
    · rintro ⟨v, hd, hv⟩
      exact ⟨hd, hv ▸ Nat.le_of_lt_succ v.toNat_lt_size⟩

/-- A string is a JA3 string exactly when it denotes some JA3 data. -/
theorem isJA3_iff {s : String} : IsJA3 s ↔ ∃ d, JA3Denotes s d := by
  have h16 := @numeralsField_iff UInt16 65535 UInt16.ofNat UInt16.toNat
    (fun n h => UInt16.toNat_ofNat_of_lt (by simp [UInt16.size]; omega))
    (fun a => Nat.le_of_lt_succ a.toNat_lt_size)
  have h8 := @numeralsField_iff UInt8 255 UInt8.ofNat UInt8.toNat
    (fun n h => UInt8.toNat_ofNat_of_lt (by simp [UInt8.size]; omega))
    (fun a => Nat.le_of_lt_succ a.toNat_lt_size)
  unfold IsJA3 JA3Denotes
  constructor
  · rintro ⟨p0, p1, p2, p3, p4, h, hv, hc, he, hg, hp⟩
    obtain ⟨v, hv⟩ := versionField_iff.1 hv
    obtain ⟨c, hc⟩ := h16.1 hc
    obtain ⟨e, he⟩ := h16.1 he
    obtain ⟨g, hg⟩ := h16.1 hg
    obtain ⟨p, hp⟩ := h8.1 hp
    exact ⟨⟨v, c, e, g, p⟩, p0, p1, p2, p3, p4, h, hv, hc, he, hg, hp⟩
  · rintro ⟨d, p0, p1, p2, p3, p4, h, hv, hc, he, hg, hp⟩
    exact ⟨p0, p1, p2, p3, p4, h, versionField_iff.2 ⟨_, hv⟩, h16.2 ⟨_, hc⟩, h16.2 ⟨_, he⟩,
      h16.2 ⟨_, hg⟩, h8.2 ⟨_, hp⟩⟩

/-- **`ParseJA3` accepts exactly the JA3 language.** -/
theorem parseJA3_ok_iff {s : String} : (∃ d, parseJA3 s = .ok d) ↔ IsJA3 s := by
  simp only [parseJA3_eq_ok, isJA3_iff]

/-! ## Round trips -/

/-- `FormatUint(n, 10)` is never empty. -/
theorem formatUint_ne_empty (n : Nat) : formatUint n 10 ≠ "" :=
  fun h => (formatUint_isDecimal n).1 (by rw [h])

/-- A list of numbers, printed and dash-joined, spells that list. -/
theorem listField_decimalList {α : Type} (toNat : α → Nat) (cs : List α) :
    ListField toNat (decimalList (cs.map toNat)) cs := by
  unfold ListField decimalList
  by_cases hcs : cs = []
  · subst hcs; simp
  · have hne : (cs.map toNat).map (formatUint · 10) ≠ [] := by simpa using hcs
    have hsep : ∀ e ∈ (cs.map toNat).map (formatUint · 10), '-' ∉ e.data := by
      simp only [List.map_map, List.mem_map, forall_exists_index, and_imp]
      rintro _ n _ rfl; exact not_mem_formatUint (by decide) _
    rw [if_neg (join_ne_empty hne (by simp [formatUint_ne_empty])), split_join hne hsep,
      List.map_map, List.forall₂_map_left_iff, List.forall₂_same]
    exact fun c _ => ⟨formatUint_isDecimal _, decimalValue_formatUint _⟩

/-- A list of numerals joined by dashes holds no comma. -/
theorem comma_not_mem_decimalList (vs : List Nat) : ',' ∉ (decimalList vs).data := by
  intro h
  rcases mem_join h with h | ⟨e, he, h⟩
  · cases h
  · simp only [List.mem_map] at he
    obtain ⟨n, _, rfl⟩ := he
    exact not_mem_formatUint (by decide) n h

/-- The serialized string spells the data it came from. -/
theorem ja3Denotes_serialize (d : JA3Data) : JA3Denotes d.serialize d := by
  refine ⟨_, _, _, _, _, split_join (by simp) ?_, ?_, listField_decimalList _ _,
    listField_decimalList _ _, listField_decimalList _ _, listField_decimalList _ _⟩
  · simp only [List.mem_cons, List.mem_singleton, forall_eq_or_imp, forall_eq, List.not_mem_nil,
      false_implies, implies_true, and_true]
    exact ⟨not_mem_formatUint (by decide) _, comma_not_mem_decimalList _,
      comma_not_mem_decimalList _, comma_not_mem_decimalList _, comma_not_mem_decimalList _⟩
  · unfold VersionField
    rw [if_neg (formatUint_ne_empty _)]
    exact ⟨formatUint_isDecimal _, decimalValue_formatUint _⟩

/-- **Parsing inverts serializing**, for every JA3 data. -/
theorem parseJA3_serialize (d : JA3Data) : parseJA3 d.serialize = .ok d :=
  parseJA3_eq_ok.2 (ja3Denotes_serialize d)

/-- A canonical field is a field of numerals. -/
theorem numeralsField_of_canonical {B : Nat} {part : String} (h : CanonicalField B part) :
    NumeralsField B part :=
  h.imp id fun h tok htok => ⟨(h tok htok).1.1, (h tok htok).2⟩

/-- A canonical list field is the printed list it spells. -/
theorem decimalList_of_listField {α : Type} {toNat : α → Nat} {B : Nat} {part : String}
    {cs : List α} (hc : CanonicalField B part) (hf : ListField toNat part cs) :
    decimalList (cs.map toNat) = part := by
  unfold ListField at hf
  unfold decimalList
  split_ifs at hf with hp
  · subst hf; simp [hp]
  · have hcan : ∀ tok ∈ split part '-', IsCanonicalDecimal tok := fun tok htok =>
      (hc.resolve_left hp tok htok).1
    have heq : List.Forall₂ (fun tok c => tok = formatUint (toNat c) 10) (split part '-') cs :=
      ((List.forall₂_and_left _ _).2 ⟨hcan, hf⟩).imp fun tok c ⟨hct, _, hv⟩ =>
        hv ▸ (formatUint_decimalValue hct).symm
    rw [← List.forall₂_map_right_iff, List.forall₂_eq_eq_eq] at heq
    rw [List.map_map, Function.comp_def, ← heq]
    exact join_split part '-'

/-- **Serializing inverts parsing** on canonical JA3 strings. -/
theorem serialize_parseJA3 {x : String} (h : IsCanonicalJA3 x) :
    ∃ d, parseJA3 x = .ok d ∧ d.serialize = x := by
  obtain ⟨p0, p1, p2, p3, p4, hx, hv, hb, hc, he, hg, hp⟩ := h
  obtain ⟨d, hd⟩ := parseJA3_ok_iff.2 ⟨p0, p1, p2, p3, p4, hx, .inr ⟨hv.1, hb⟩,
    numeralsField_of_canonical hc, numeralsField_of_canonical he, numeralsField_of_canonical hg,
    numeralsField_of_canonical hp⟩
  refine ⟨d, hd, ?_⟩
  obtain ⟨q0, q1, q2, q3, q4, hq, fv, fc, fe, fg, fp⟩ := parseJA3_eq_ok.1 hd
  rw [hx] at hq
  simp only [List.cons.injEq, and_true] at hq
  obtain ⟨rfl, rfl, rfl, rfl, rfl⟩ := hq
  have hver : formatUint d.version.toNat 10 = p0 := by
    unfold VersionField at fv
    rw [if_neg (fun h => hv.1.1 (by rw [h]))] at fv
    rw [← fv.2, formatUint_decimalValue hv]
  unfold JA3Data.serialize
  rw [hver, decimalList_of_listField hc fc, decimalList_of_listField he fe,
    decimalList_of_listField hg fg, decimalList_of_listField hp fp, ← hx, join_split]

/-- The JA3 codec: `ParseJA3` accepts exactly the JA3 language, returns the values the fields
spell, inverts the canonical serializer, and is inverted by it on canonical strings. -/
theorem parseJA3_codec :
    (∀ s, (∃ d, parseJA3 s = .ok d) ↔ IsJA3 s) ∧
    (∀ s d, parseJA3 s = .ok d ↔ JA3Denotes s d) ∧
    (∀ d, parseJA3 d.serialize = .ok d) ∧
    (∀ x, IsCanonicalJA3 x → ∃ d, parseJA3 x = .ok d ∧ d.serialize = x) :=
  ⟨fun _ => parseJA3_ok_iff, fun _ _ => parseJA3_eq_ok, parseJA3_serialize,
    fun _ => serialize_parseJA3⟩

end TlsFingerprint.Ja3
