import Mathlib.Data.Nat.Digits

/-!
# Go strings, `strings` and `strconv`

The fingerprint code works on Go `string`s, which are byte sequences. The model keeps a Go string
as a Lean `String` whose characters stand one for one for its bytes: `len`, indexing and slicing
count characters as Go counts bytes, and every function below reads a character where Go reads a
byte. A theorem over all `String`s therefore covers every Go string.

`strings.Split` and `strings.Join` with a one-byte separator are `List.splitOn` and
`List.intercalate` on the characters; `split_join` inverts the one by the other when no piece holds
the separator. `strings.SplitN(s, sep, 2)` cuts at the first separator (`splitN2_of_mem`).
`strconv.ParseUint` is its digit loop (`parseUintDigits`), and `parseUint_eq_ok`
says what it accepts in base 10: a non-empty run of ASCII digits whose value fits the bit size.
`formatUint` prints a number as `fmt`'s `%d` and `%x` do; `parseUint_formatUint` and
`formatUint_decimalValue` are the two halves of the numeral round trip. `%0Nx` is read back by
`hexValue` (`hexValue_sprintfHex`), so distinct numbers print distinct (`sprintfHex_inj`).
-/

namespace TlsFingerprint.Go

/-! ## Error results

A Go function returning `(T, error)` is a function into `Except`; a `return nil, fmt.Errorf(...)`
is an `.error` carrying the values the message formats. -/

instance instDecidableEqExcept {ε α : Type} [DecidableEq ε] [DecidableEq α] :
    DecidableEq (Except ε α)
  | .ok a, .ok b => if h : a = b then isTrue (h ▸ rfl) else isFalse fun e => h (Except.ok.inj e)
  | .error a, .error b =>
    if h : a = b then isTrue (h ▸ rfl) else isFalse fun e => h (Except.error.inj e)
  | .ok _, .error _ => isFalse Except.noConfusion
  | .error _, .ok _ => isFalse Except.noConfusion

/-- A bind succeeds exactly when both computations do. -/
@[simp] theorem bind_eq_ok {ε α β : Type} {x : Except ε α} {f : α → Except ε β} {b : β} :
    x >>= f = .ok b ↔ ∃ a, x = .ok a ∧ f a = .ok b := by
  cases x <;> simp [bind, Except.bind]

/-- Renaming the error keeps a success. -/
@[simp] theorem mapError_eq_ok {ε ε' α : Type} {x : Except ε α} {g : ε → ε'} {a : α} :
    x.mapError g = .ok a ↔ x = .ok a := by
  cases x <;> simp [Except.mapError]

/-- A `pure` succeeds with its value. -/
@[simp] theorem pure_eq_ok {ε α : Type} {a b : α} : (pure a : Except ε α) = .ok b ↔ a = b := by
  simp [pure, Except.pure]

/-- A check that fails with an error, then the rest: it succeeds when the check passes and the
rest succeeds. -/
theorem error_ite_eq_ok {ε α : Type} {c : Prop} [Decidable c] {e : ε} {x : Except ε α} {a : α} :
    (if c then .error e else x) = .ok a ↔ ¬c ∧ x = .ok a := by
  by_cases h : c <;> simp [h]

/-- A guard failing with an error other than `e'`, before a computation that does not fail with
`e'`, does not fail with `e'`. -/
theorem error_ite_ne {ε α : Type} {c : Prop} [Decidable c] {e e' : ε} {x : Except ε α}
    (he : e ≠ e') (hx : x ≠ .error e') : (if c then .error e else x) ≠ .error e' := by
  by_cases h : c <;> simp [h, he, hx]

/-! ## `strings` -/

/-- `strings.Split(s, sep)` for a one-byte separator: the pieces between separators, `[""]` for
the empty string. -/
def split (s : String) (sep : Char) : List String :=
  (s.data.splitOn sep).map String.mk

/-- `strings.Join(elems, sep)` for a one-byte separator. -/
def join (elems : List String) (sep : Char) : String :=
  ⟨[sep].intercalate (elems.map String.data)⟩

/-- `strings.Contains(s, substr)`. -/
def contains (s substr : String) : Bool :=
  decide (substr.data <:+: s.data)

/-- `strings.HasPrefix(s, prefix)`. -/
def hasPrefix (s pre : String) : Bool :=
  pre.data.isPrefixOf s.data

/-- `strings.TrimPrefix(s, prefix)`. -/
def trimPrefix (s pre : String) : String :=
  if hasPrefix s pre then ⟨s.data.drop pre.length⟩ else s

/-- `strings.Index(s, string(c))` for a one-byte substring: the first position of `c`, `none`
for Go's `-1`. -/
def index (s : String) (c : Char) : Option Nat :=
  s.data.findIdx? (· = c)

/-- The slice `s[i:j]`, for bounds the caller has checked. -/
def slice (s : String) (i j : Nat) : String :=
  ⟨(s.data.drop i).take (j - i)⟩

/-- `strings.SplitN(s, sep, 2)` for a one-byte separator: the text before the first `sep` and the
rest, `[s]` when `s` has no `sep`. -/
def splitN2 (s : String) (sep : Char) : List String :=
  match s.data.span (· != sep) with
  | (_, []) => [s]
  | (before, _ :: after) => [⟨before⟩, ⟨after⟩]

/-- `strings.Join` undoes `strings.Split`. -/
@[simp] theorem join_split (s : String) (sep : Char) : join (split s sep) sep = s := by
  have hid : (String.data ∘ String.mk) = id := rfl
  simp only [join, split, List.map_map, hid, List.map_id]
  exact congrArg String.mk (List.intercalate_splitOn _ _)

/-- Joining nothing gives the empty string. -/
@[simp] theorem join_nil (sep : Char) : join [] sep = "" := rfl

/-- Joining one element gives it back. -/
@[simp] theorem join_singleton (e : String) (sep : Char) : join [e] sep = e := by
  simp [join, List.intercalate]

/-- Joining two or more elements puts the separator after the first. -/
theorem join_cons_cons (e f : String) (rest : List String) (sep : Char) :
    (join (e :: f :: rest) sep).data = e.data ++ sep :: (join (f :: rest) sep).data := by
  simp [join, List.intercalate]

/-- A byte of a joined string is the separator or a byte of a piece. -/
theorem mem_join {c sep : Char} : ∀ {elems : List String},
    c ∈ (join elems sep).data → c = sep ∨ ∃ e ∈ elems, c ∈ e.data
  | [], h => by simp [join, List.intercalate] at h
  | [e], h => .inr ⟨e, List.mem_singleton_self e, by simpa using h⟩
  | e :: f :: rest, h => by
    rw [join_cons_cons] at h
    simp only [List.mem_append, List.mem_cons] at h
    rcases h with h | h | h
    · exact .inr ⟨e, List.mem_cons_self _ _, h⟩
    · exact .inl h
    · rcases mem_join h with h | ⟨x, hx, h⟩
      · exact .inl h
      · exact .inr ⟨x, List.mem_cons_of_mem _ hx, h⟩

/-- Joining non-empty pieces gives a non-empty string. -/
theorem join_ne_empty {elems : List String} {sep : Char} (hne : elems ≠ [])
    (hpiece : ∀ e ∈ elems, e ≠ "") : join elems sep ≠ "" := by
  match elems, hne with
  | [e], _ => simpa using hpiece e (List.mem_singleton_self e)
  | e :: f :: rest, _ =>
    intro h
    have := congrArg String.data h
    rw [join_cons_cons] at this
    simp at this

/-- **Split inverts join** when no piece holds the separator. -/
theorem split_join {elems : List String} {sep : Char} (hne : elems ≠ [])
    (hsep : ∀ e ∈ elems, sep ∉ e.data) : split (join elems sep) sep = elems := by
  have hx : ∀ l ∈ elems.map String.data, sep ∉ l := List.forall_mem_map.mpr hsep
  simp only [split, join]
  rw [List.splitOn_intercalate _ _ hx (by simpa using hne), List.map_map]
  exact List.map_id _

/-- `strings.Join` of two elements. -/
theorem join_two (a b : String) (sep : Char) : join [a, b] sep = a ++ ⟨[sep]⟩ ++ b := by
  simp [join, List.intercalate, String.ext_iff]

/-- `strings.Join` of three elements. -/
theorem join_three (a b c : String) (sep : Char) :
    join [a, b, c] sep = a ++ ⟨[sep]⟩ ++ b ++ ⟨[sep]⟩ ++ c := by
  simp [join, List.intercalate, String.ext_iff]

/-- `strings.Join` of four elements. -/
theorem join_four (a b c d : String) (sep : Char) :
    join [a, b, c, d] sep = a ++ ⟨[sep]⟩ ++ b ++ ⟨[sep]⟩ ++ c ++ ⟨[sep]⟩ ++ d := by
  simp [join, List.intercalate, String.ext_iff]

/-- `SplitN(s, sep, 2)` cuts a string at its first separator, losing nothing. -/
theorem splitN2_of_mem {s : String} {sep : Char} (h : sep ∈ s.data) :
    ∃ before after, splitN2 s sep = [before, after] ∧
      before.data ++ sep :: after.data = s.data ∧ sep ∉ before.data := by
  unfold splitN2
  rw [List.span_eq_take_drop]
  have hsplit := List.takeWhile_append_dropWhile (fun c => c != sep) s.data
  cases hd : s.data.dropWhile (· != sep) with
  | nil =>
    have := List.dropWhile_eq_nil_iff.mp hd sep h
    simp at this
  | cons x after =>
    have hx : x = sep := by
      have := List.head_dropWhile_not (fun c => c != sep) s.data (by simp [hd])
      simpa [hd] using this
    subst hx
    refine ⟨⟨s.data.takeWhile (· != x)⟩, ⟨after⟩, rfl, by rwa [hd] at hsplit, fun hm => ?_⟩
    simpa using List.mem_takeWhile_imp hm

/-- `SplitN(s, sep, 2)` of a string with no separator is the string alone. -/
theorem splitN2_of_not_mem {s : String} {sep : Char} (h : sep ∉ s.data) : splitN2 s sep = [s] := by
  unfold splitN2
  rw [List.span_eq_take_drop,
    List.dropWhile_eq_nil_iff.mpr fun c (hc : c ∈ s.data) =>
      bne_iff_ne.mpr fun (e : c = sep) => h (e ▸ hc)]

/-- No piece of a split holds the separator. -/
theorem not_mem_of_mem_splitOnP {sep : Char} :
    ∀ {xs l : List Char}, l ∈ xs.splitOnP (· == sep) → sep ∉ l
  | [], l, hl => by rw [List.mem_singleton.mp hl]; exact List.not_mem_nil _
  | x :: xs, l, hl => by
    rw [List.splitOnP_cons] at hl
    have ih : ∀ {l}, l ∈ xs.splitOnP (· == sep) → sep ∉ l := not_mem_of_mem_splitOnP
    split_ifs at hl with hx
    · rcases List.mem_cons.mp hl with rfl | hl
      exacts [List.not_mem_nil _, ih hl]
    · obtain ⟨q, qs, hs⟩ := List.exists_cons_of_ne_nil (List.splitOnP_ne_nil (· == sep) xs)
      rw [hs] at hl ih
      rcases List.mem_cons.mp hl with rfl | hl
      · simp only [beq_iff_eq] at hx
        exact List.not_mem_cons_of_ne_of_not_mem (Ne.symm hx) (ih (List.mem_cons_self _ _))
      · exact ih (List.mem_cons_of_mem _ hl)

/-- No piece of a split holds the separator. -/
theorem not_mem_of_mem_split {s p : String} {sep : Char} (h : p ∈ split s sep) :
    sep ∉ p.data := by
  obtain ⟨l, hl, rfl⟩ := List.mem_map.mp h
  exact not_mem_of_mem_splitOnP hl

/-! ## `strconv` -/

/-- An ASCII decimal digit, the bytes `'0'`–`'9'` (48–57). -/
def IsDigit (c : Char) : Prop := 48 ≤ c.toNat ∧ c.toNat ≤ 57

instance : DecidablePred IsDigit := fun _ => inferInstanceAs (Decidable (_ ∧ _))

/-- The two ways `strconv.ParseUint` fails: `ErrSyntax` and `ErrRange`. -/
inductive NumErr
  | errSyntax
  | errRange
  deriving DecidableEq, Repr

/-- `strconv.NumError`: the failing function, its input and the reason. -/
structure NumError where
  func : String
  num : String
  err : NumErr
  deriving DecidableEq, Repr

/-- The digit value `ParseUint` gives a byte: `'0'`–`'9'`, then the letters `'a'`–`'z'` (97–122)
after case folding by `c | 0x20`, from 10 on. -/
def digitVal (c : Char) : Option Nat :=
  if IsDigit c then some (c.toNat - 48)
  else if 97 ≤ (c.toNat ||| 0x20) ∧ (c.toNat ||| 0x20) ≤ 122 then
    some ((c.toNat ||| 0x20) - 97 + 10)
  else none

/-- The digit loop of `strconv.ParseUint`: each byte must be a digit below `base`, and the value
may never pass `maxVal`. For the bit sizes the code uses (at most 32) Go's separate 64-bit
overflow test never fires, so it is left out. -/
def parseUintDigits (base maxVal : Nat) : Nat → List Char → Except NumErr Nat
  | n, [] => .ok n
  | n, c :: cs =>
    match digitVal c with
    | none => .error .errSyntax
    | some d =>
      if base ≤ d then .error .errSyntax
      else if maxVal < n * base + d then .error .errRange
      else parseUintDigits base maxVal (n * base + d) cs

/-- `strconv.ParseUint(s, base, bitSize)` for `base` in 2..36 and `bitSize` in 1..64; the empty
string is a syntax error. -/
def parseUint (s : String) (base bitSize : Nat) : Except NumError Nat :=
  if s.data = [] then .error ⟨"ParseUint", s, .errSyntax⟩
  else (parseUintDigits base (2 ^ bitSize - 1) 0 s.data).mapError (⟨"ParseUint", s, ·⟩)

/-- One step of reading a decimal numeral: shift in the digit `c`. -/
def decimalStep (n : Nat) (c : Char) : Nat := n * 10 + (c.toNat - 48)

/-- The value of a run of decimal digits, read left to right as `ParseUint` reads it. -/
def decimalValue (l : List Char) : Nat := l.foldl decimalStep 0

/-- A decimal numeral: a non-empty run of ASCII digits, leading zeros allowed. -/
def IsDecimal (s : String) : Prop := s.data ≠ [] ∧ ∀ c ∈ s.data, IsDigit c

instance : DecidablePred IsDecimal := fun _ => inferInstanceAs (Decidable (_ ∧ _))

/-- A numeral in canonical form: decimal, and no leading zero unless it is `"0"`. -/
def IsCanonicalDecimal (s : String) : Prop :=
  IsDecimal s ∧ (s.data.head? = some '0' → s.data = ['0'])

instance : DecidablePred IsCanonicalDecimal := fun _ => inferInstanceAs (Decidable (_ ∧ _))

/-- The value of a decimal digit is its distance from `0`. -/
theorem digitVal_of_isDigit {c : Char} (h : IsDigit c) : digitVal c = some (c.toNat - 48) := by
  simp [digitVal, h]

/-- A base-10 digit `ParseUint` accepts is an ASCII digit. -/
theorem isDigit_of_digitVal {c : Char} {d : Nat} (h : digitVal c = some d) (hd : d < 10) :
    IsDigit c ∧ d = c.toNat - 48 := by
  unfold digitVal at h
  split_ifs at h with h1 h2
  · exact ⟨h1, (Option.some.inj h).symm⟩
  · cases h; omega

/-- Reading more digits never lowers the value read so far. -/
theorem foldl_decimal_ge (n : Nat) (l : List Char) : n ≤ l.foldl decimalStep n := by
  induction l generalizing n with
  | nil => exact le_rfl
  | cons c cs ih => exact le_trans (by simp [decimalStep]; omega) (ih _)

/-- The base-10 digit loop succeeds exactly on digit runs whose value stays within `maxVal`. -/
theorem parseUintDigits_ok {M n v : Nat} {l : List Char} (hn : n ≤ M) :
    parseUintDigits 10 M n l = .ok v ↔
      (∀ c ∈ l, IsDigit c) ∧ l.foldl decimalStep n = v ∧ v ≤ M := by
  induction l generalizing n with
  | nil =>
    simp only [parseUintDigits, Except.ok.injEq, List.not_mem_nil, false_implies, implies_true,
      List.foldl_nil, true_and]
    exact ⟨fun h => ⟨h, h ▸ hn⟩, And.left⟩
  | cons c cs ih =>
    simp only [parseUintDigits, List.mem_cons, forall_eq_or_imp, List.foldl_cons]
    cases hc : digitVal c with
    | none =>
      simp only [reduceCtorEq, false_iff, not_and]
      rintro ⟨hd, -⟩; simp [digitVal_of_isDigit hd] at hc
    | some d =>
      by_cases hb : 10 ≤ d
      · simp only [hb, ↓reduceIte, reduceCtorEq, false_iff, not_and]
        rintro ⟨hd, -⟩; rw [digitVal_of_isDigit hd] at hc; cases hc; unfold IsDigit at hd; omega
      · obtain ⟨hdig, rfl⟩ := isDigit_of_digitVal hc (by omega)
        simp only [hb, ↓reduceIte, hdig, true_and, decimalStep]
        split_ifs with hM
        · simp only [reduceCtorEq, false_iff, not_and]
          intro _ hv
          have := foldl_decimal_ge (n * 10 + (c.toNat - 48)) cs
          omega
        · exact ih (by omega)

/-- **What `ParseUint(s, 10, bitSize)` accepts**: a decimal numeral whose value is below
`2 ^ bitSize`, and it returns that value. -/
theorem parseUint_eq_ok {s : String} {b v : Nat} :
    parseUint s 10 b = .ok v ↔ IsDecimal s ∧ decimalValue s.data = v ∧ v < 2 ^ b := by
  have hpos := Nat.one_le_two_pow (n := b)
  unfold parseUint IsDecimal decimalValue
  by_cases hs : s.data = []
  · simp [hs]
  · have key : parseUintDigits 10 (2 ^ b - 1) 0 s.data = .ok v ↔ _ :=
      parseUintDigits_ok (Nat.zero_le _)
    simp only [hs, ↓reduceIte, ne_eq, not_false_eq_true, true_and]
    cases h : parseUintDigits 10 (2 ^ b - 1) 0 s.data <;>
      simp only [h, Except.mapError, reduceCtorEq, false_iff, Except.ok.injEq] at key ⊢
    · exact fun ⟨h1, h2, h3⟩ => key ⟨h1, h2, by omega⟩
    · rw [key]; exact and_congr_right fun _ => and_congr_right fun _ => by omega

/-- `strconv.Atoi(s)` for a 64-bit `int`: an optional sign, then a decimal numeral whose value
fits `int64`. Only the reason of a failure is kept; the callers discard the error. -/
def atoi (s : String) : Except NumErr Int :=
  let (neg, digits) : Bool × List Char :=
    match s.data with
    | '+' :: r => (false, r)
    | '-' :: r => (true, r)
    | r => (false, r)
  match parseUint ⟨digits⟩ 10 64 with
  | .error e => .error e.err
  | .ok v =>
    if neg then (if v ≤ 2 ^ 63 then .ok (-v) else .error .errRange)
    else if v < 2 ^ 63 then .ok v else .error .errRange

/-- Go's conversion of an `int` to a 16-bit type (`utls.CurveID(id)`): the low 16 bits of the
two's complement value. -/
def uint16OfInt (i : Int) : UInt16 :=
  UInt16.ofNat (i % 65536).toNat

/-- The blanks `fmt`'s scanner skips before a number on one line: `'\t'`, `'\v'`, `'\f'`,
`'\r'` and `' '` (a newline is an error). -/
def isScanBlank (c : Char) : Bool :=
  c = '\t' || c = '\x0b' || c = '\x0c' || c = '\r' || c = ' '

/-- A hexadecimal digit. -/
def isHexDigit (c : Char) : Bool :=
  match digitVal c with
  | some d => d < 16
  | none => false

/-- `fmt.Sscanf(s, "%02x", &v)` into a `uint8`: within the width of two bytes, the blanks are
skipped and the hex digits that follow are read; `none` is the error of a width holding no digit.
Two digits always fit the `uint8`. -/
def sscanfHex02 (s : String) : Option UInt8 :=
  let digits := ((s.data.take 2).dropWhile isScanBlank).takeWhile isHexDigit
  if digits = [] then none
  else some (UInt8.ofNat (digits.foldl (fun n c => n * 16 + (digitVal c).getD 0) 0))

/-- A byte converted to a number and back is itself. -/
theorem uint8_ofNat_toNat (a : UInt8) : UInt8.ofNat a.toNat = a :=
  UInt8.toNat.inj (UInt8.toNat_ofNat_of_lt a.toNat_lt_size)

/-- A `uint16` converted to a number and back is itself. -/
theorem uint16_ofNat_toNat (a : UInt16) : UInt16.ofNat a.toNat = a :=
  UInt16.toNat.inj (UInt16.toNat_ofNat_of_lt a.toNat_lt_size)

/-- A `uint32` converted to a number and back is itself. -/
theorem uint32_ofNat_toNat (a : UInt32) : UInt32.ofNat a.toNat = a :=
  UInt32.toNat.inj (UInt32.toNat_ofNat_of_lt a.toNat_lt_size)

/-- `ParseUint(s, 10, b)` accepts a canonical numeral whose value fits. -/
theorem parseUint_canonical {s : String} {b : Nat} (h : IsCanonicalDecimal s)
    (hb : decimalValue s.data < 2 ^ b) : parseUint s 10 b = .ok (decimalValue s.data) :=
  parseUint_eq_ok.2 ⟨h.1, rfl, hb⟩

/-! ## Printing numbers -/

/-- `strconv.FormatUint(n, base)`, what `fmt` prints for `%d` (base 10) and `%x` (base 16): the
digits most significant first, lower-case letters past 9, `"0"` for zero. -/
def formatUint (n base : Nat) : String :=
  ⟨if n = 0 then ['0'] else (Nat.digits base n).reverse.map Nat.digitChar⟩

/-- A decimal digit's character is `0` shifted by the digit. -/
theorem digitChar_eq_ofNat {d : Nat} (h : d < 10) : Nat.digitChar d = Char.ofNat (48 + d) := by
  interval_cases d <;> rfl

/-- The code of a decimal digit's character. -/
theorem digitChar_toNat {d : Nat} (h : d < 10) : (Nat.digitChar d).toNat = 48 + d := by
  interval_cases d <;> rfl

/-- A decimal digit's character is a digit. -/
theorem digitChar_isDigit {d : Nat} (h : d < 10) : IsDigit (Nat.digitChar d) := by
  simp only [IsDigit, digitChar_toNat h]; omega

/-- A digit is printed back as itself. -/
theorem digitChar_sub {c : Char} (h : IsDigit c) : Nat.digitChar (c.toNat - 48) = c := by
  unfold IsDigit at h
  rw [digitChar_eq_ofNat (by omega), Nat.add_sub_cancel' h.1, Char.ofNat_toNat]

/-- `decimalValue` is `Nat.ofDigits` of the digits read from the right. -/
theorem foldl_decimal_eq (n : Nat) (l : List Char) :
    l.foldl decimalStep n = n * 10 ^ l.length + Nat.ofDigits 10 (l.reverse.map (·.toNat - 48)) := by
  induction l generalizing n with
  | nil => simp
  | cons c cs ih =>
    simp only [List.foldl_cons, ih, List.reverse_cons, List.map_append, List.map_cons,
      List.map_nil, Nat.ofDigits_append, List.length_map, List.length_reverse, Nat.ofDigits_cons,
      Nat.ofDigits_nil, List.length_cons, pow_succ, decimalStep]
    ring

/-- The value of a numeral as `Nat.ofDigits` of its digits, least significant first. -/
theorem decimalValue_eq_ofDigits (l : List Char) :
    decimalValue l = Nat.ofDigits 10 (l.reverse.map (·.toNat - 48)) := by
  simp [decimalValue, foldl_decimal_eq]

/-- `FormatUint(n, 10)` is a decimal numeral. -/
theorem formatUint_isDecimal (n : Nat) : IsDecimal (formatUint n 10) := by
  unfold IsDecimal formatUint
  split_ifs with h
  · exact ⟨by simp, by simp [IsDigit]⟩
  · refine ⟨by simpa [Nat.digits_ne_nil_iff_ne_zero] using h, ?_⟩
    simp only [List.mem_map, List.mem_reverse, forall_exists_index, and_imp]
    rintro _ d hd rfl
    exact digitChar_isDigit (Nat.digits_lt_base (by norm_num) hd)

/-- `FormatUint(n, 10)` reads back as `n`. -/
theorem decimalValue_formatUint (n : Nat) : decimalValue (formatUint n 10).data = n := by
  rw [decimalValue_eq_ofDigits]
  unfold formatUint
  split_ifs with h
  · simp [h]
  · simp only [List.map_reverse, List.reverse_reverse, List.map_map]
    conv_rhs => rw [← Nat.ofDigits_digits 10 n]
    congr 1
    refine (List.map_congr_left fun d hd => ?_).trans (List.map_id _)
    simp [digitChar_toNat (Nat.digits_lt_base (by norm_num) hd)]

/-- **Printing then parsing a number gives it back**, when it fits the bit size. -/
theorem parseUint_formatUint {n b : Nat} (h : n < 2 ^ b) :
    parseUint (formatUint n 10) 10 b = .ok n :=
  parseUint_eq_ok.2 ⟨formatUint_isDecimal n, decimalValue_formatUint n, h⟩

/-- **Parsing then printing a canonical numeral gives it back.** -/
theorem formatUint_decimalValue {s : String} (h : IsCanonicalDecimal s) :
    formatUint (decimalValue s.data) 10 = s := by
  obtain ⟨⟨hne, hdig⟩, hlead⟩ := h
  obtain ⟨c, cs, hs⟩ := List.exists_cons_of_ne_nil hne
  by_cases h0 : c = '0'
  · have : s.data = ['0'] := hlead (by simp [hs, h0])
    cases s; simp only at this; subst this; rfl
  set L := s.data.reverse.map (·.toNat - 48) with hL
  have hlt : ∀ d ∈ L, d < 10 := by
    simp only [hL, List.mem_map, List.mem_reverse, forall_exists_index, and_imp]
    rintro _ c hc rfl; have := hdig c hc; unfold IsDigit at this; omega
  have hlast : ∀ h : L ≠ [], L.getLast h ≠ 0 := by
    intro h
    simp only [hL, List.getLast_map, List.getLast_reverse, hs, List.head_cons]
    intro hc; apply h0
    rw [← digitChar_sub (hdig c (by simp [hs])), hc]; rfl
  have hd := Nat.digits_ofDigits 10 (by norm_num) L hlt hlast
  have hn0 : Nat.ofDigits 10 L ≠ 0 := by
    rw [← Nat.digits_ne_nil_iff_ne_zero, hd]; simp [hL, hs]
  rw [decimalValue_eq_ofDigits, ← hL]
  cases s with
  | mk l =>
    show String.mk (if _ then _ else _) = _
    rw [if_neg hn0, hd]
    simp only [hL, List.map_reverse, List.reverse_reverse, List.map_map, Function.comp_def]
    exact congrArg String.mk
      ((List.map_congr_left fun c hc => digitChar_sub (hdig c hc)).trans (List.map_id' _))

/-- A printed number holds no byte but digits. -/
theorem not_mem_formatUint {c : Char} (hc : ¬IsDigit c) (n : Nat) : c ∉ (formatUint n 10).data :=
  fun h => hc ((formatUint_isDecimal n).2 c h)

/-- Every byte `formatUint` prints is the character of a digit below the base. -/
theorem mem_formatUint {c : Char} {n b : Nat} (hb : 1 < b) (h : c ∈ (formatUint n b).data) :
    ∃ d < b, c = Nat.digitChar d := by
  unfold formatUint at h
  split_ifs at h
  · exact ⟨0, by omega, by simpa using h⟩
  · obtain ⟨d, hd, rfl⟩ := List.mem_map.mp h
    exact ⟨d, Nat.digits_lt_base hb (List.mem_reverse.mp hd), rfl⟩

/-- A number below `b ^ k` prints in at most `k` digits. -/
theorem formatUint_length_le {n b k : Nat} (hb : 1 < b) (hk : 1 ≤ k) (h : n < b ^ k) :
    (formatUint n b).length ≤ k := by
  unfold formatUint
  split_ifs with h0
  · exact hk
  · show ((b.digits n).reverse.map _).length ≤ k
    rw [List.length_map, List.length_reverse]
    have hpow : b ^ (b.digits n).length < b ^ (k + 1) :=
      calc b ^ (b.digits n).length ≤ b * n := Nat.base_pow_length_digits_le b n hb h0
        _ < b * b ^ k := Nat.mul_lt_mul_of_pos_left h (by omega)
        _ = b ^ (k + 1) := (Nat.pow_succ' ..).symm
    exact Nat.lt_succ_iff.mp ((Nat.pow_lt_pow_iff_right hb).mp hpow)

/-- `fmt.Sprintf("%0<width>x", n)`: the hex digits of `n`, zero-padded on the left to `width`. -/
def sprintfHex (width n : Nat) : String :=
  ⟨List.replicate (width - (formatUint n 16).length) '0' ++ (formatUint n 16).data⟩

/-- A number below `16 ^ width` prints in exactly `width` bytes. -/
theorem sprintfHex_length {width n : Nat} (hw : 1 ≤ width) (h : n < 16 ^ width) :
    (sprintfHex width n).length = width := by
  have := formatUint_length_le (by norm_num) hw h
  show (List.replicate _ _ ++ _).length = _
  rw [List.length_append, List.length_replicate]
  exact Nat.sub_add_cancel this

/-- Every byte `sprintfHex` prints is a digit character. -/
theorem mem_sprintfHex {c : Char} {width n : Nat} (h : c ∈ (sprintfHex width n).data) :
    ∃ d < 16, c = Nat.digitChar d := by
  rcases List.mem_append.mp h with h | h
  · exact ⟨0, by norm_num, (List.eq_of_mem_replicate h).trans rfl⟩
  · exact mem_formatUint (by norm_num) h

/-- No hex digit character is an underscore, the JA4 separator. -/
theorem digitChar_ne_underscore {d : Nat} (h : d < 16) : Nat.digitChar d ≠ '_' := by
  interval_cases d <;> decide

/-- The value of a run of hex digits, read most significant first. -/
def hexValue (l : List Char) : Nat :=
  l.foldl (fun n c => n * 16 + (digitVal c).getD 0) 0

/-- A hexadecimal digit's character reads back as the digit. -/
theorem digitVal_digitChar {d : Nat} (h : d < 16) : digitVal (Nat.digitChar d) = some d := by
  interval_cases d <;> rfl

/-- Reading hexadecimal digits after the value `n` gives `n` shifted by their number, plus their
value. -/
theorem foldl_hex_eq (n : Nat) {l : List Nat} (hl : ∀ d ∈ l, d < 16) :
    (l.map Nat.digitChar).foldl (fun n c => n * 16 + (digitVal c).getD 0) n =
      n * 16 ^ l.length + Nat.ofDigits 16 l.reverse := by
  induction l generalizing n with
  | nil => simp
  | cons d ds ih =>
    rw [List.map_cons, List.foldl_cons, digitVal_digitChar (hl d (List.mem_cons_self _ _)),
      Option.getD_some, ih _ fun e he => hl e (List.mem_cons_of_mem _ he), List.reverse_cons,
      Nat.ofDigits_append, List.length_cons, List.length_reverse, Nat.ofDigits_singleton]
    ring

/-- Zero digits have the value zero. -/
theorem ofDigits_replicate_zero (b k : Nat) : Nat.ofDigits b (List.replicate k 0) = 0 := by
  induction k with
  | zero => rfl
  | succ k ih => simp [List.replicate_succ, Nat.ofDigits_cons, ih]

/-- **A zero-padded hex printing reads back as its number.** -/
theorem hexValue_sprintfHex (width n : Nat) : hexValue (sprintfHex width n).data = n := by
  set D := if n = 0 then [0] else (Nat.digits 16 n).reverse with hD
  have hdig : ∀ d ∈ List.replicate (width - (formatUint n 16).length) 0 ++ D, d < 16 := by
    intro d hd
    rcases List.mem_append.mp hd with hd | hd
    · rw [List.eq_of_mem_replicate hd]; norm_num
    · rw [hD] at hd
      split_ifs at hd
      · rw [List.mem_singleton.mp hd]; norm_num
      · exact Nat.digits_lt_base (by norm_num) (List.mem_reverse.mp hd)
  have hs : (sprintfHex width n).data =
      (List.replicate (width - (formatUint n 16).length) 0 ++ D).map Nat.digitChar := by
    have h0 : Nat.digitChar 0 = '0' := rfl
    rw [List.map_append, List.map_replicate, hD, h0]
    split_ifs <;> simp [sprintfHex, formatUint, *]
  rw [hexValue, hs, foldl_hex_eq 0 hdig, List.reverse_append, List.reverse_replicate,
    Nat.ofDigits_append, ofDigits_replicate_zero, hD]
  split_ifs with h0
  · simp [h0]
  · simp [Nat.ofDigits_digits]

/-- Zero-padded hex printing is injective. -/
theorem sprintfHex_inj {width a b : Nat} (h : sprintfHex width a = sprintfHex width b) : a = b := by
  rw [← hexValue_sprintfHex width a, h, hexValue_sprintfHex]

/-! ## Bytes -/

/-- `[]byte(s)`: the bytes of a string. -/
def bytes (s : String) : List UInt8 :=
  s.data.map fun c => UInt8.ofNat c.toNat

/-- `string(b)` for a byte `b`: the UTF-8 encoding of the code point `b`, one byte below 128 and
two from there on. -/
def stringOfByte (c : Char) : String :=
  if c.toNat < 128 then ⟨[c]⟩
  else ⟨[Char.ofNat (0xC0 ||| c.toNat >>> 6), Char.ofNat (0x80 ||| c.toNat &&& 0x3F)]⟩

/-- `hex.EncodeToString(b)`: two lower-case hex digits per byte. -/
def hexEncode (bs : List UInt8) : String :=
  ⟨bs.flatMap fun b => [Nat.digitChar (b.toNat / 16), Nat.digitChar (b.toNat % 16)]⟩

/-- `hex.EncodeToString` writes two digits per byte. -/
theorem hexEncode_length (bs : List UInt8) : (hexEncode bs).length = 2 * bs.length := by
  show (bs.flatMap _).length = _
  induction bs with
  | nil => rfl
  | cons b bs ih => rw [List.flatMap_cons, List.length_append, ih]; simp; omega

/-- Every byte of a hex encoding is a digit character. -/
theorem mem_hexEncode {c : Char} {bs : List UInt8} (h : c ∈ (hexEncode bs).data) :
    ∃ d < 16, c = Nat.digitChar d := by
  obtain ⟨b, -, hb⟩ := List.mem_flatMap.mp h
  have := b.toNat_lt_size
  rcases List.mem_pair.mp hb with rfl | rfl
  exacts [⟨_, by simp only [UInt8.size] at this; omega, rfl⟩, ⟨_, Nat.mod_lt _ (by norm_num), rfl⟩]

end TlsFingerprint.Go
