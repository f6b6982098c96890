import TlsFingerprint.Go.Basic

/-!
# `unicode/utf8`, `unicode`, and the case and space functions of `strings`

`strings.ToLower`, `strings.ToUpper` and `strings.TrimSpace` read a Go string as UTF-8. Each has a
fast path for a string of ASCII bytes. Otherwise `ToLower` and `ToUpper` are `strings.Map` of
`unicode.ToLower` and `unicode.ToUpper` over the runes, and `TrimSpace` drops the runes
`unicode.IsSpace` accepts from both ends (`TrimFunc`, `TrimRightFunc`).

The model's strings hold one character per byte (`Go.Basic`); the functions here read the bytes as
numbers (`byteValues`), and a character of code 256 or more reads as a byte that starts no
encoding. `Utf8.decodeRune` is `utf8.DecodeRune` with Go's table of first bytes and of the ranges
their second byte must lie in; a byte that starts no valid encoding reads as `RuneError` of width
1, as `for range` reads it. `Utf8.decodeLastRune` is `utf8.DecodeLastRune`, which `TrimRightFunc`
calls, and `Utf8.encodeRune` is the encoding `strings.Builder.WriteRune` appends.

`Unicode.toLower` and `Unicode.toUpper` shift the ASCII letters by 32 and look every other rune up
in `Unicode.caseRanges` by Go's binary search (`Unicode.toCase`). The table holds Unicode's simple
case mappings in the form of Go's `unicode.CaseRanges`: ranges of code points with the deltas to
their upper- and lower-case forms, or marked `upperLower` for a run of alternating upper- and
lower-case pairs. The title-case deltas, which neither function reads, are left out. So the
Kelvin sign U+212A lowers to `k`, and U+0130 to `i`.
-/

namespace TlsFingerprint.Go

/-- The bytes of a string, as numbers. -/
def byteValues (s : String) : List Nat := s.data.map Char.toNat

/-- The string of the given bytes. -/
def ofByteValues (bs : List Nat) : String := ⟨bs.map Char.ofNat⟩

namespace Utf8

/-- `utf8.RuneError`, U+FFFD. -/
def runeError : Nat := 0xFFFD

/-- A byte that continues a multi-byte encoding, `0x80`–`0xBF`: one `RuneStart` rejects. -/
def isContinuation (b : Nat) : Bool := 0x80 ≤ b && b ≤ 0xBF

/-- What the table `first` of `unicode/utf8` says of a first byte. -/
inductive FirstByte
  /-- `as`: an ASCII byte, a rune of its own. -/
  | ascii
  /-- `xx`: a byte that starts no encoding. -/
  | invalid
  /-- The first byte of an encoding of `size` bytes whose second byte lies in `lo`–`hi`
  (`acceptRanges`). -/
  | multi (size lo hi : Nat)

/-- The table `first`, by ranges of bytes. -/
def firstByte (b : Nat) : FirstByte :=
  if b < 0x80 then .ascii
  else if b < 0xC2 then .invalid
  else if b < 0xE0 then .multi 2 0x80 0xBF
  else if b = 0xE0 then .multi 3 0xA0 0xBF
  else if b < 0xED then .multi 3 0x80 0xBF
  else if b = 0xED then .multi 3 0x80 0x9F
  else if b < 0xF0 then .multi 3 0x80 0xBF
  else if b = 0xF0 then .multi 4 0x90 0xBF
  else if b < 0xF4 then .multi 4 0x80 0xBF
  else if b = 0xF4 then .multi 4 0x80 0x8F
  else .invalid

/-- `utf8.DecodeRune(p)`: the rune the bytes start with and its width; `(RuneError, 1)` when they
start no valid encoding, a missing byte included, and `(RuneError, 0)` when there are none. -/
def decodeRune : List Nat → Nat × Nat
  | [] => (runeError, 0)
  | p0 :: rest =>
    match firstByte p0 with
    | .ascii => (p0, 1)
    | .invalid => (runeError, 1)
    | .multi size lo hi =>
      match rest with
      | [] => (runeError, 1)
      | b1 :: rest =>
        if b1 < lo || hi < b1 then (runeError, 1)
        else if size ≤ 2 then ((p0 &&& 0x1F) <<< 6 ||| (b1 &&& 0x3F), 2)
        else
          match rest with
          | [] => (runeError, 1)
          | b2 :: rest =>
            if !isContinuation b2 then (runeError, 1)
            else if size ≤ 3 then
              ((p0 &&& 0x0F) <<< 12 ||| (b1 &&& 0x3F) <<< 6 ||| (b2 &&& 0x3F), 3)
            else
              match rest with
              | [] => (runeError, 1)
              | b3 :: _ =>
                if !isContinuation b3 then (runeError, 1)
                else ((p0 &&& 0x07) <<< 18 ||| (b1 &&& 0x3F) <<< 12 ||| (b2 &&& 0x3F) <<< 6 |||
                  (b3 &&& 0x3F), 4)

/-- The loop of `DecodeLastRune` that looks for the first byte of the last encoding, given one past
the index it tries next: it goes down from `end - 2` to `lim` and stops at a byte that is not a
continuation; past `lim` it stops below it, and past the start at 0. -/
def runeStartBelow (p : List Nat) (lim : Nat) : Nat → Nat
  | 0 => 0
  | start + 1 =>
    if start < lim then start
    else if !isContinuation (p.getD start 0) then start
    else runeStartBelow p lim start

/-- `utf8.DecodeLastRune(p)`: the last rune and its width, read from the last byte that is not a
continuation among the last four; `(RuneError, 1)` when that encoding does not end the bytes. -/
def decodeLastRune (p : List Nat) : Nat × Nat :=
  match p.getLast? with
  | none => (runeError, 0)
  | some b =>
    if b < 0x80 then (b, 1)
    else
      let start := runeStartBelow p (p.length - 4) (p.length - 1)
      let (r, size) := decodeRune (p.drop start)
      if start + size ≠ p.length then (runeError, 1) else (r, size)

/-- `utf8.EncodeRune(p, r)`, as `strings.Builder.WriteRune` appends it: one to four bytes, and
those of `RuneError` for a surrogate or a value past `MaxRune`. -/
def encodeRune (r : Nat) : List Nat :=
  if r ≤ 0x7F then [r]
  else if r ≤ 0x7FF then [0xC0 ||| r >>> 6, 0x80 ||| (r &&& 0x3F)]
  else if r < 0xD800 ∨ 0xDFFF < r ∧ r ≤ 0xFFFF then
    [0xE0 ||| r >>> 12, 0x80 ||| (r >>> 6 &&& 0x3F), 0x80 ||| (r &&& 0x3F)]
  else if 0x10FFFF < r ∨ 0xD800 ≤ r ∧ r ≤ 0xDFFF then [0xEF, 0xBF, 0xBD]
  else
    [0xF0 ||| r >>> 18, 0x80 ||| (r >>> 12 &&& 0x3F), 0x80 ||| (r >>> 6 &&& 0x3F),
      0x80 ||| (r &&& 0x3F)]

/-- `for i, r := range s` from byte `i`, with fuel for the loop: each rune with the index of its
first byte. -/
def rangeRunesFrom : Nat → Nat → List Nat → List (Nat × Nat)
  | 0, _, _ => []
  | _ + 1, _, [] => []
  | fuel + 1, i, b :: bs =>
    let (r, width) := decodeRune (b :: bs)
    (i, r) :: rangeRunesFrom fuel (i + width) ((b :: bs).drop width)

/-- `for i, r := range s`: every rune needs a byte, so the length is enough fuel. -/
def rangeRunes (s : List Nat) : List (Nat × Nat) := rangeRunesFrom s.length 0 s

end Utf8

namespace Unicode

/-- The two mappings `unicode.To` is asked for here: `UpperCase` and `LowerCase`. -/
inductive Case
  | upper
  | lower

/-- The deltas of a range of `unicode.CaseRanges`. -/
inductive CaseDelta
  /-- `d{UpperLower, UpperLower, UpperLower}`: upper case at even offsets from the start of the
  range, each followed by its lower case. -/
  | upperLower
  /-- What to add to reach the upper- and the lower-case form. -/
  | delta (toUpper toLower : Int)

/-- A `unicode.CaseRange`, without the title-case delta. -/
structure CaseRange where
  lo : Nat
  hi : Nat
  delta : CaseDelta

/-- `unicode.CaseRanges`: the code points with a simple upper- or lower-case mapping, in sorted
disjoint ranges. -/
def caseRanges : Array CaseRange := #[
  CaseRange.mk 0x0041 0x005A (.delta 0 32), CaseRange.mk 0x0061 0x007A (.delta (-32) 0),
  CaseRange.mk 0x00B5 0x00B5 (.delta 743 0), CaseRange.mk 0x00C0 0x00D6 (.delta 0 32),
  CaseRange.mk 0x00D8 0x00DE (.delta 0 32), CaseRange.mk 0x00E0 0x00F6 (.delta (-32) 0),
  CaseRange.mk 0x00F8 0x00FE (.delta (-32) 0), CaseRange.mk 0x00FF 0x00FF (.delta 121 0),
  CaseRange.mk 0x0100 0x012F (.upperLower), CaseRange.mk 0x0130 0x0130 (.delta 0 (-199)),
  CaseRange.mk 0x0131 0x0131 (.delta (-232) 0), CaseRange.mk 0x0132 0x0137 (.upperLower),
  CaseRange.mk 0x0139 0x0148 (.upperLower), CaseRange.mk 0x014A 0x0177 (.upperLower),
  CaseRange.mk 0x0178 0x0178 (.delta 0 (-121)), CaseRange.mk 0x0179 0x017E (.upperLower),
  CaseRange.mk 0x017F 0x017F (.delta (-300) 0), CaseRange.mk 0x0180 0x0180 (.delta 195 0),
  CaseRange.mk 0x0181 0x0181 (.delta 0 210), CaseRange.mk 0x0182 0x0185 (.upperLower),
  CaseRange.mk 0x0186 0x0186 (.delta 0 206), CaseRange.mk 0x0187 0x0188 (.upperLower),
  CaseRange.mk 0x0189 0x018A (.delta 0 205), CaseRange.mk 0x018B 0x018C (.upperLower),
  CaseRange.mk 0x018E 0x018E (.delta 0 79), CaseRange.mk 0x018F 0x018F (.delta 0 202),
  CaseRange.mk 0x0190 0x0190 (.delta 0 203), CaseRange.mk 0x0191 0x0192 (.upperLower),
  CaseRange.mk 0x0193 0x0193 (.delta 0 205), CaseRange.mk 0x0194 0x0194 (.delta 0 207),
  CaseRange.mk 0x0195 0x0195 (.delta 97 0), CaseRange.mk 0x0196 0x0196 (.delta 0 211),
  CaseRange.mk 0x0197 0x0197 (.delta 0 209), CaseRange.mk 0x0198 0x0199 (.upperLower),
  CaseRange.mk 0x019A 0x019A (.delta 163 0), CaseRange.mk 0x019C 0x019C (.delta 0 211),
  CaseRange.mk 0x019D 0x019D (.delta 0 213), CaseRange.mk 0x019E 0x019E (.delta 130 0),
  CaseRange.mk 0x019F 0x019F (.delta 0 214), CaseRange.mk 0x01A0 0x01A5 (.upperLower),
  CaseRange.mk 0x01A6 0x01A6 (.delta 0 218), CaseRange.mk 0x01A7 0x01A8 (.upperLower),
  CaseRange.mk 0x01A9 0x01A9 (.delta 0 218), CaseRange.mk 0x01AC 0x01AD (.upperLower),
  CaseRange.mk 0x01AE 0x01AE (.delta 0 218), CaseRange.mk 0x01AF 0x01B0 (.upperLower),
  CaseRange.mk 0x01B1 0x01B2 (.delta 0 217), CaseRange.mk 0x01B3 0x01B6 (.upperLower),
  CaseRange.mk 0x01B7 0x01B7 (.delta 0 219), CaseRange.mk 0x01B8 0x01B9 (.upperLower),
  CaseRange.mk 0x01BC 0x01BD (.upperLower), CaseRange.mk 0x01BF 0x01BF (.delta 56 0),
  CaseRange.mk 0x01C4 0x01C4 (.delta 0 2), CaseRange.mk 0x01C5 0x01C5 (.delta (-1) 1),
  CaseRange.mk 0x01C6 0x01C6 (.delta (-2) 0), CaseRange.mk 0x01C7 0x01C7 (.delta 0 2),
  CaseRange.mk 0x01C8 0x01C8 (.delta (-1) 1), CaseRange.mk 0x01C9 0x01C9 (.delta (-2) 0),
  CaseRange.mk 0x01CA 0x01CA (.delta 0 2), CaseRange.mk 0x01CB 0x01CB (.delta (-1) 1),
  CaseRange.mk 0x01CC 0x01CC (.delta (-2) 0), CaseRange.mk 0x01CD 0x01DC (.upperLower),
  CaseRange.mk 0x01DD 0x01DD (.delta (-79) 0), CaseRange.mk 0x01DE 0x01EF (.upperLower),
  CaseRange.mk 0x01F1 0x01F1 (.delta 0 2), CaseRange.mk 0x01F2 0x01F2 (.delta (-1) 1),
  CaseRange.mk 0x01F3 0x01F3 (.delta (-2) 0), CaseRange.mk 0x01F4 0x01F5 (.upperLower),
  CaseRange.mk 0x01F6 0x01F6 (.delta 0 (-97)), CaseRange.mk 0x01F7 0x01F7 (.delta 0 (-56)),
  CaseRange.mk 0x01F8 0x021F (.upperLower), CaseRange.mk 0x0220 0x0220 (.delta 0 (-130)),
  CaseRange.mk 0x0222 0x0233 (.upperLower), CaseRange.mk 0x023A 0x023A (.delta 0 10795),
  CaseRange.mk 0x023B 0x023C (.upperLower), CaseRange.mk 0x023D 0x023D (.delta 0 (-163)),
  CaseRange.mk 0x023E 0x023E (.delta 0 10792), CaseRange.mk 0x023F 0x0240 (.delta 10815 0),
  CaseRange.mk 0x0241 0x0242 (.upperLower), CaseRange.mk 0x0243 0x0243 (.delta 0 (-195)),
  CaseRange.mk 0x0244 0x0244 (.delta 0 69), CaseRange.mk 0x0245 0x0245 (.delta 0 71),
  CaseRange.mk 0x0246 0x024F (.upperLower), CaseRange.mk 0x0250 0x0250 (.delta 10783 0),
  CaseRange.mk 0x0251 0x0251 (.delta 10780 0), CaseRange.mk 0x0252 0x0252 (.delta 10782 0),
  CaseRange.mk 0x0253 0x0253 (.delta (-210) 0), CaseRange.mk 0x0254 0x0254 (.delta (-206) 0),
  CaseRange.mk 0x0256 0x0257 (.delta (-205) 0), CaseRange.mk 0x0259 0x0259 (.delta (-202) 0),
  CaseRange.mk 0x025B 0x025B (.delta (-203) 0), CaseRange.mk 0x025C 0x025C (.delta 42319 0),
  CaseRange.mk 0x0260 0x0260 (.delta (-205) 0), CaseRange.mk 0x0261 0x0261 (.delta 42315 0),
  CaseRange.mk 0x0263 0x0263 (.delta (-207) 0), CaseRange.mk 0x0265 0x0265 (.delta 42280 0),
  CaseRange.mk 0x0266 0x0266 (.delta 42308 0), CaseRange.mk 0x0268 0x0268 (.delta (-209) 0),
  CaseRange.mk 0x0269 0x0269 (.delta (-211) 0), CaseRange.mk 0x026A 0x026A (.delta 42308 0),
  CaseRange.mk 0x026B 0x026B (.delta 10743 0), CaseRange.mk 0x026C 0x026C (.delta 42305 0),
  CaseRange.mk 0x026F 0x026F (.delta (-211) 0), CaseRange.mk 0x0271 0x0271 (.delta 10749 0),
  CaseRange.mk 0x0272 0x0272 (.delta (-213) 0), CaseRange.mk 0x0275 0x0275 (.delta (-214) 0),
  CaseRange.mk 0x027D 0x027D (.delta 10727 0), CaseRange.mk 0x0280 0x0280 (.delta (-218) 0),
  CaseRange.mk 0x0282 0x0282 (.delta 42307 0), CaseRange.mk 0x0283 0x0283 (.delta (-218) 0),
  CaseRange.mk 0x0287 0x0287 (.delta 42282 0), CaseRange.mk 0x0288 0x0288 (.delta (-218) 0),
  CaseRange.mk 0x0289 0x0289 (.delta (-69) 0), CaseRange.mk 0x028A 0x028B (.delta (-217) 0),
  CaseRange.mk 0x028C 0x028C (.delta (-71) 0), CaseRange.mk 0x0292 0x0292 (.delta (-219) 0),
  CaseRange.mk 0x029D 0x029D (.delta 42261 0), CaseRange.mk 0x029E 0x029E (.delta 42258 0),
  CaseRange.mk 0x0345 0x0345 (.delta 84 0), CaseRange.mk 0x0370 0x0373 (.upperLower),
  CaseRange.mk 0x0376 0x0377 (.upperLower), CaseRange.mk 0x037B 0x037D (.delta 130 0),
  CaseRange.mk 0x037F 0x037F (.delta 0 116), CaseRange.mk 0x0386 0x0386 (.delta 0 38),
  CaseRange.mk 0x0388 0x038A (.delta 0 37), CaseRange.mk 0x038C 0x038C (.delta 0 64),
  CaseRange.mk 0x038E 0x038F (.delta 0 63), CaseRange.mk 0x0391 0x03A1 (.delta 0 32),
  CaseRange.mk 0x03A3 0x03AB (.delta 0 32), CaseRange.mk 0x03AC 0x03AC (.delta (-38) 0),
  CaseRange.mk 0x03AD 0x03AF (.delta (-37) 0), CaseRange.mk 0x03B1 0x03C1 (.delta (-32) 0),
  CaseRange.mk 0x03C2 0x03C2 (.delta (-31) 0), CaseRange.mk 0x03C3 0x03CB (.delta (-32) 0),
  CaseRange.mk 0x03CC 0x03CC (.delta (-64) 0), CaseRange.mk 0x03CD 0x03CE (.delta (-63) 0),
  CaseRange.mk 0x03CF 0x03CF (.delta 0 8), CaseRange.mk 0x03D0 0x03D0 (.delta (-62) 0),
  CaseRange.mk 0x03D1 0x03D1 (.delta (-57) 0), CaseRange.mk 0x03D5 0x03D5 (.delta (-47) 0),
  CaseRange.mk 0x03D6 0x03D6 (.delta (-54) 0), CaseRange.mk 0x03D7 0x03D7 (.delta (-8) 0),
  CaseRange.mk 0x03D8 0x03EF (.upperLower), CaseRange.mk 0x03F0 0x03F0 (.delta (-86) 0),
  CaseRange.mk 0x03F1 0x03F1 (.delta (-80) 0), CaseRange.mk 0x03F2 0x03F2 (.delta 7 0),
  CaseRange.mk 0x03F3 0x03F3 (.delta (-116) 0), CaseRange.mk 0x03F4 0x03F4 (.delta 0 (-60)),
  CaseRange.mk 0x03F5 0x03F5 (.delta (-96) 0), CaseRange.mk 0x03F7 0x03F8 (.upperLower),
  CaseRange.mk 0x03F9 0x03F9 (.delta 0 (-7)), CaseRange.mk 0x03FA 0x03FB (.upperLower),
  CaseRange.mk 0x03FD 0x03FF (.delta 0 (-130)), CaseRange.mk 0x0400 0x040F (.delta 0 80),
  CaseRange.mk 0x0410 0x042F (.delta 0 32), CaseRange.mk 0x0430 0x044F (.delta (-32) 0),
  CaseRange.mk 0x0450 0x045F (.delta (-80) 0), CaseRange.mk 0x0460 0x0481 (.upperLower),
  CaseRange.mk 0x048A 0x04BF (.upperLower), CaseRange.mk 0x04C0 0x04C0 (.delta 0 15),
  CaseRange.mk 0x04C1 0x04CE (.upperLower), CaseRange.mk 0x04CF 0x04CF (.delta (-15) 0),
  CaseRange.mk 0x04D0 0x052F (.upperLower), CaseRange.mk 0x0531 0x0556 (.delta 0 48),
  CaseRange.mk 0x0561 0x0586 (.delta (-48) 0), CaseRange.mk 0x10A0 0x10C5 (.delta 0 7264),
  CaseRange.mk 0x10C7 0x10C7 (.delta 0 7264), CaseRange.mk 0x10CD 0x10CD (.delta 0 7264),
  CaseRange.mk 0x10D0 0x10FA (.delta 3008 0), CaseRange.mk 0x10FD 0x10FF (.delta 3008 0),
  CaseRange.mk 0x13A0 0x13EF (.delta 0 38864), CaseRange.mk 0x13F0 0x13F5 (.delta 0 8),
  CaseRange.mk 0x13F8 0x13FD (.delta (-8) 0), CaseRange.mk 0x1C80 0x1C80 (.delta (-6254) 0),
  CaseRange.mk 0x1C81 0x1C81 (.delta (-6253) 0), CaseRange.mk 0x1C82 0x1C82 (.delta (-6244) 0),
  CaseRange.mk 0x1C83 0x1C84 (.delta (-6242) 0), CaseRange.mk 0x1C85 0x1C85 (.delta (-6243) 0),
  CaseRange.mk 0x1C86 0x1C86 (.delta (-6236) 0), CaseRange.mk 0x1C87 0x1C87 (.delta (-6181) 0),
  CaseRange.mk 0x1C88 0x1C88 (.delta 35266 0), CaseRange.mk 0x1C90 0x1CBA (.delta 0 (-3008)),
  CaseRange.mk 0x1CBD 0x1CBF (.delta 0 (-3008)), CaseRange.mk 0x1D79 0x1D79 (.delta 35332 0),
  CaseRange.mk 0x1D7D 0x1D7D (.delta 3814 0), CaseRange.mk 0x1D8E 0x1D8E (.delta 35384 0),
  CaseRange.mk 0x1E00 0x1E95 (.upperLower), CaseRange.mk 0x1E9B 0x1E9B (.delta (-59) 0),
  CaseRange.mk 0x1E9E 0x1E9E (.delta 0 (-7615)), CaseRange.mk 0x1EA0 0x1EFF (.upperLower),
  CaseRange.mk 0x1F00 0x1F07 (.delta 8 0), CaseRange.mk 0x1F08 0x1F0F (.delta 0 (-8)),
  CaseRange.mk 0x1F10 0x1F15 (.delta 8 0), CaseRange.mk 0x1F18 0x1F1D (.delta 0 (-8)),
  CaseRange.mk 0x1F20 0x1F27 (.delta 8 0), CaseRange.mk 0x1F28 0x1F2F (.delta 0 (-8)),
  CaseRange.mk 0x1F30 0x1F37 (.delta 8 0), CaseRange.mk 0x1F38 0x1F3F (.delta 0 (-8)),
  CaseRange.mk 0x1F40 0x1F45 (.delta 8 0), CaseRange.mk 0x1F48 0x1F4D (.delta 0 (-8)),
  CaseRange.mk 0x1F51 0x1F51 (.delta 8 0), CaseRange.mk 0x1F53 0x1F53 (.delta 8 0),
  CaseRange.mk 0x1F55 0x1F55 (.delta 8 0), CaseRange.mk 0x1F57 0x1F57 (.delta 8 0),
  CaseRange.mk 0x1F59 0x1F59 (.delta 0 (-8)), CaseRange.mk 0x1F5B 0x1F5B (.delta 0 (-8)),
  CaseRange.mk 0x1F5D 0x1F5D (.delta 0 (-8)), CaseRange.mk 0x1F5F 0x1F5F (.delta 0 (-8)),
  CaseRange.mk 0x1F60 0x1F67 (.delta 8 0), CaseRange.mk 0x1F68 0x1F6F (.delta 0 (-8)),
  CaseRange.mk 0x1F70 0x1F71 (.delta 74 0), CaseRange.mk 0x1F72 0x1F75 (.delta 86 0),
  CaseRange.mk 0x1F76 0x1F77 (.delta 100 0), CaseRange.mk 0x1F78 0x1F79 (.delta 128 0),
  CaseRange.mk 0x1F7A 0x1F7B (.delta 112 0), CaseRange.mk 0x1F7C 0x1F7D (.delta 126 0),
  CaseRange.mk 0x1F80 0x1F87 (.delta 8 0), CaseRange.mk 0x1F88 0x1F8F (.delta 0 (-8)),
  CaseRange.mk 0x1F90 0x1F97 (.delta 8 0), CaseRange.mk 0x1F98 0x1F9F (.delta 0 (-8)),
  CaseRange.mk 0x1FA0 0x1FA7 (.delta 8 0), CaseRange.mk 0x1FA8 0x1FAF (.delta 0 (-8)),
  CaseRange.mk 0x1FB0 0x1FB1 (.delta 8 0), CaseRange.mk 0x1FB3 0x1FB3 (.delta 9 0),
  CaseRange.mk 0x1FB8 0x1FB9 (.delta 0 (-8)), CaseRange.mk 0x1FBA 0x1FBB (.delta 0 (-74)),
  CaseRange.mk 0x1FBC 0x1FBC (.delta 0 (-9)), CaseRange.mk 0x1FBE 0x1FBE (.delta (-7205) 0),
  CaseRange.mk 0x1FC3 0x1FC3 (.delta 9 0), CaseRange.mk 0x1FC8 0x1FCB (.delta 0 (-86)),
  CaseRange.mk 0x1FCC 0x1FCC (.delta 0 (-9)), CaseRange.mk 0x1FD0 0x1FD1 (.delta 8 0),
  CaseRange.mk 0x1FD8 0x1FD9 (.delta 0 (-8)), CaseRange.mk 0x1FDA 0x1FDB (.delta 0 (-100)),
  CaseRange.mk 0x1FE0 0x1FE1 (.delta 8 0), CaseRange.mk 0x1FE5 0x1FE5 (.delta 7 0),
  CaseRange.mk 0x1FE8 0x1FE9 (.delta 0 (-8)), CaseRange.mk 0x1FEA 0x1FEB (.delta 0 (-112)),
  CaseRange.mk 0x1FEC 0x1FEC (.delta 0 (-7)), CaseRange.mk 0x1FF3 0x1FF3 (.delta 9 0),
  CaseRange.mk 0x1FF8 0x1FF9 (.delta 0 (-128)), CaseRange.mk 0x1FFA 0x1FFB (.delta 0 (-126)),
  CaseRange.mk 0x1FFC 0x1FFC (.delta 0 (-9)), CaseRange.mk 0x2126 0x2126 (.delta 0 (-7517)),
  CaseRange.mk 0x212A 0x212A (.delta 0 (-8383)), CaseRange.mk 0x212B 0x212B (.delta 0 (-8262)),
  CaseRange.mk 0x2132 0x2132 (.delta 0 28), CaseRange.mk 0x214E 0x214E (.delta (-28) 0),
  CaseRange.mk 0x2160 0x216F (.delta 0 16), CaseRange.mk 0x2170 0x217F (.delta (-16) 0),
  CaseRange.mk 0x2183 0x2184 (.upperLower), CaseRange.mk 0x24B6 0x24CF (.delta 0 26),
  CaseRange.mk 0x24D0 0x24E9 (.delta (-26) 0), CaseRange.mk 0x2C00 0x2C2F (.delta 0 48),
  CaseRange.mk 0x2C30 0x2C5F (.delta (-48) 0), CaseRange.mk 0x2C60 0x2C61 (.upperLower),
  CaseRange.mk 0x2C62 0x2C62 (.delta 0 (-10743)), CaseRange.mk 0x2C63 0x2C63 (.delta 0 (-3814)),
  CaseRange.mk 0x2C64 0x2C64 (.delta 0 (-10727)), CaseRange.mk 0x2C65 0x2C65 (.delta (-10795) 0),
  CaseRange.mk 0x2C66 0x2C66 (.delta (-10792) 0), CaseRange.mk 0x2C67 0x2C6C (.upperLower),
  CaseRange.mk 0x2C6D 0x2C6D (.delta 0 (-10780)), CaseRange.mk 0x2C6E 0x2C6E (.delta 0 (-10749)),
  CaseRange.mk 0x2C6F 0x2C6F (.delta 0 (-10783)), CaseRange.mk 0x2C70 0x2C70 (.delta 0 (-10782)),
  CaseRange.mk 0x2C72 0x2C73 (.upperLower), CaseRange.mk 0x2C75 0x2C76 (.upperLower),
  CaseRange.mk 0x2C7E 0x2C7F (.delta 0 (-10815)), CaseRange.mk 0x2C80 0x2CE3 (.upperLower),
  CaseRange.mk 0x2CEB 0x2CEE (.upperLower), CaseRange.mk 0x2CF2 0x2CF3 (.upperLower),
  CaseRange.mk 0x2D00 0x2D25 (.delta (-7264) 0), CaseRange.mk 0x2D27 0x2D27 (.delta (-7264) 0),
  CaseRange.mk 0x2D2D 0x2D2D (.delta (-7264) 0), CaseRange.mk 0xA640 0xA66D (.upperLower),
  CaseRange.mk 0xA680 0xA69B (.upperLower), CaseRange.mk 0xA722 0xA72F (.upperLower),
  CaseRange.mk 0xA732 0xA76F (.upperLower), CaseRange.mk 0xA779 0xA77C (.upperLower),
  CaseRange.mk 0xA77D 0xA77D (.delta 0 (-35332)), CaseRange.mk 0xA77E 0xA787 (.upperLower),
  CaseRange.mk 0xA78B 0xA78C (.upperLower), CaseRange.mk 0xA78D 0xA78D (.delta 0 (-42280)),
  CaseRange.mk 0xA790 0xA793 (.upperLower), CaseRange.mk 0xA794 0xA794 (.delta 48 0),
  CaseRange.mk 0xA796 0xA7A9 (.upperLower), CaseRange.mk 0xA7AA 0xA7AA (.delta 0 (-42308)),
  CaseRange.mk 0xA7AB 0xA7AB (.delta 0 (-42319)), CaseRange.mk 0xA7AC 0xA7AC (.delta 0 (-42315)),
  CaseRange.mk 0xA7AD 0xA7AD (.delta 0 (-42305)), CaseRange.mk 0xA7AE 0xA7AE (.delta 0 (-42308)),
  CaseRange.mk 0xA7B0 0xA7B0 (.delta 0 (-42258)), CaseRange.mk 0xA7B1 0xA7B1 (.delta 0 (-42282)),
  CaseRange.mk 0xA7B2 0xA7B2 (.delta 0 (-42261)), CaseRange.mk 0xA7B3 0xA7B3 (.delta 0 928),
  CaseRange.mk 0xA7B4 0xA7C3 (.upperLower), CaseRange.mk 0xA7C4 0xA7C4 (.delta 0 (-48)),
  CaseRange.mk 0xA7C5 0xA7C5 (.delta 0 (-42307)), CaseRange.mk 0xA7C6 0xA7C6 (.delta 0 (-35384)),
  CaseRange.mk 0xA7C7 0xA7CA (.upperLower), CaseRange.mk 0xA7D0 0xA7D1 (.upperLower),
  CaseRange.mk 0xA7D6 0xA7D9 (.upperLower), CaseRange.mk 0xA7F5 0xA7F6 (.upperLower),
  CaseRange.mk 0xAB53 0xAB53 (.delta (-928) 0), CaseRange.mk 0xAB70 0xABBF (.delta (-38864) 0),
  CaseRange.mk 0xFF21 0xFF3A (.delta 0 32), CaseRange.mk 0xFF41 0xFF5A (.delta (-32) 0),
  CaseRange.mk 0x10400 0x10427 (.delta 0 40), CaseRange.mk 0x10428 0x1044F (.delta (-40) 0),
  CaseRange.mk 0x104B0 0x104D3 (.delta 0 40), CaseRange.mk 0x104D8 0x104FB (.delta (-40) 0),
  CaseRange.mk 0x10570 0x1057A (.delta 0 39), CaseRange.mk 0x1057C 0x1058A (.delta 0 39),
  CaseRange.mk 0x1058C 0x10592 (.delta 0 39), CaseRange.mk 0x10594 0x10595 (.delta 0 39),
  CaseRange.mk 0x10597 0x105A1 (.delta (-39) 0), CaseRange.mk 0x105A3 0x105B1 (.delta (-39) 0),
  CaseRange.mk 0x105B3 0x105B9 (.delta (-39) 0), CaseRange.mk 0x105BB 0x105BC (.delta (-39) 0),
  CaseRange.mk 0x10C80 0x10CB2 (.delta 0 64), CaseRange.mk 0x10CC0 0x10CF2 (.delta (-64) 0),
  CaseRange.mk 0x118A0 0x118BF (.delta 0 32), CaseRange.mk 0x118C0 0x118DF (.delta (-32) 0),
  CaseRange.mk 0x16E40 0x16E5F (.delta 0 32), CaseRange.mk 0x16E60 0x16E7F (.delta (-32) 0),
  CaseRange.mk 0x1E900 0x1E921 (.delta 0 34), CaseRange.mk 0x1E922 0x1E943 (.delta (-34) 0)]

/-- The binary search of `unicode.to` over the ranges `lo` to `hi`, with fuel for its loop: the
range holding `r`, if any. -/
def searchRange (r : Nat) : Nat → Nat → Nat → Option CaseRange
  | 0, _, _ => none
  | fuel + 1, lo, hi =>
    if lo < hi then
      let m := (lo + hi) / 2
      let cr := caseRanges.getD m ⟨0, 0, .upperLower⟩
      if cr.lo ≤ r ∧ r ≤ cr.hi then some cr
      else if r < cr.lo then searchRange r fuel lo m
      else searchRange r fuel (m + 1) hi
    else none

/-- `unicode.To(_case, r)`: `r` with the delta of its range, in an `upperLower` range the even
offset below it (upper case) or that offset plus one (lower case); `r` itself outside every
range. -/
def toCase (c : Case) (r : Nat) : Nat :=
  match searchRange r caseRanges.size 0 caseRanges.size with
  | none => r
  | some cr =>
    match cr.delta with
    | .upperLower => cr.lo + (2 * ((r - cr.lo) / 2) + match c with | .upper => 0 | .lower => 1)
    | .delta toUpper toLower =>
      ((r : Int) + match c with | .upper => toUpper | .lower => toLower).toNat

/-- `unicode.ToLower(r)`. -/
def toLower (r : Nat) : Nat :=
  if r ≤ 0x7F then (if 0x41 ≤ r ∧ r ≤ 0x5A then r + 32 else r) else toCase .lower r

/-- `unicode.ToUpper(r)`. -/
def toUpper (r : Nat) : Nat :=
  if r ≤ 0x7F then (if 0x61 ≤ r ∧ r ≤ 0x7A then r - 32 else r) else toCase .upper r

/-- `unicode.IsSpace(r)`: in Latin-1 `'\t'`, `'\n'`, `'\v'`, `'\f'`, `'\r'`, `' '`, U+0085
and U+00A0; above it the `White_Space` code points. -/
def isSpace (r : Nat) : Bool :=
  if r ≤ 0xFF then
    r = 0x09 || r = 0x0A || r = 0x0B || r = 0x0C || r = 0x0D || r = 0x20 || r = 0x85 || r = 0xA0
  else
    r = 0x1680 || (0x2000 ≤ r && r ≤ 0x200A) || r = 0x2028 || r = 0x2029 || r = 0x202F ||
      r = 0x205F || r = 0x3000

end Unicode

/-! ## `strings` -/

/-- `strings.Map(mapping, s)` for a mapping that drops no rune: every rune replaced by the encoding
of its image, a byte that starts no valid encoding being read as `RuneError`. Go copies the bytes
before the first rune that changes, and returns `s` itself when none does; a valid rune encodes
back to its own bytes, so the result is the same. -/
def mapRunes (mapping : Nat → Nat) (s : List Nat) : List Nat :=
  (Utf8.rangeRunes s).flatMap fun (_, r) => Utf8.encodeRune (mapping r)

/-- `strings.ToLower(s)`: on a string of ASCII bytes the letters `'A'`–`'Z'` lowered (the string
itself when it has none), else `strings.Map(unicode.ToLower, s)`. -/
def toLower (s : String) : String :=
  if s.data.all (·.toNat < 0x80) then ⟨s.data.map Char.toLower⟩
  else ofByteValues (mapRunes Unicode.toLower (byteValues s))

/-- `strings.ToUpper(s)`: on a string of ASCII bytes the letters `'a'`–`'z'` raised, else
`strings.Map(unicode.ToUpper, s)`. -/
def toUpper (s : String) : String :=
  if s.data.all (·.toNat < 0x80) then ⟨s.data.map Char.toUpper⟩
  else ofByteValues (mapRunes Unicode.toUpper (byteValues s))

/-- `strings.TrimLeftFunc(s, unicode.IsSpace)`: `s` from the first rune that is not white space
(`indexFunc`), empty when there is none. -/
def trimLeftSpace (s : List Nat) : List Nat :=
  match (Utf8.rangeRunes s).find? fun (_, r) => !Unicode.isSpace r with
  | some (i, _) => s.drop i
  | none => []

/-- `lastIndexFunc(s, unicode.IsSpace, false)` on `s[:i]`, with fuel for its loop: the index of
the last rune that is not white space, the runes read from the end. -/
def lastIndexNonSpace (s : List Nat) : Nat → Nat → Option Nat
  | 0, _ => none
  | fuel + 1, i =>
    if i = 0 then none
    else
      let (r, size) := Utf8.decodeLastRune (s.take i)
      if Unicode.isSpace r then lastIndexNonSpace s fuel (i - size) else some (i - size)

/-- `strings.TrimRightFunc(s, unicode.IsSpace)`: `s` up to the end of its last rune that is not
white space. -/
def trimRightSpace (s : List Nat) : List Nat :=
  match lastIndexNonSpace s s.length s.length with
  | some i =>
    if 0x80 ≤ s.getD i 0 then s.take (i + (Utf8.decodeRune (s.drop i)).2) else s.take (i + 1)
  | none => []

/-- The ASCII white space of `strings.asciiSpace`: `'\t'`, `'\n'`, `'\v'`, `'\f'`, `'\r'`,
`' '`. -/
def isAsciiSpace (b : Nat) : Bool :=
  b = 0x09 || b = 0x0A || b = 0x0B || b = 0x0C || b = 0x0D || b = 0x20

/-- The second loop of `strings.TrimSpace`, on `s[start:]` given reversed: ASCII white space
dropped from the end; a non-ASCII byte hands what is left to `TrimRightFunc`. -/
def trimSpaceEnd : List Nat → List Nat
  | [] => []
  | b :: rev =>
    if 0x80 ≤ b then trimRightSpace (b :: rev).reverse
    else if isAsciiSpace b then trimSpaceEnd rev
    else (b :: rev).reverse

/-- The first loop of `strings.TrimSpace`: ASCII white space dropped from the front; a non-ASCII
byte hands the rest to `TrimFunc`, and the first other byte starts the second loop. -/
def trimSpaceStart : List Nat → List Nat
  | [] => []
  | b :: s =>
    if 0x80 ≤ b then trimRightSpace (trimLeftSpace (b :: s))
    else if isAsciiSpace b then trimSpaceStart s
    else trimSpaceEnd (b :: s).reverse

/-- `strings.TrimSpace(s)`: the white space runes at both ends removed. -/
def trimSpace (s : String) : String := ofByteValues (trimSpaceStart (byteValues s))

end TlsFingerprint.Go
