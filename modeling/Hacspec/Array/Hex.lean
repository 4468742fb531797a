import Hacspec.Array.Base

/-!
# Hex strings of public byte arrays

`to_hex` writes each byte of an `array!($name, $l, u8)` with `format!("{:02x}", b)`
and joins the pieces. `from_hex` reads a string back through `hex_string_to_vec`,
which slices the string two bytes at a time, `&s[i..i + 2]` for `i` in
`(0..s.len()).step_by(2)`, and parses each slice with `u8::from_str_radix(_, 16)`;
the first parse error ends the collection and `expect` panics on it.

A `&str` is its UTF-8 bytes (`asBytes`): `s.len()`, the slicing and the parser all
work on bytes. `u8::from_str_radix` is the standard library's parser for unsigned
types: an optional leading `+`, then digits checked one by one, with the value checked
against `u8::MAX` after each digit.

`from_hex` returns exactly on the strings whose bytes are pairs that `readPairs` reads: two
ASCII hex digits, or a `+` and one hex digit, since the parser takes a leading `+`. Any
other string panics: at a slice that runs past the end or cuts a character, at the
`expect` on the first parse error, or at the length check. Reading back what `to_hex`
wrote gives the array back, and a string of hex digits is read and written back in lower
case.
-/

namespace Hacspec.Array

set_option autoImplicit false

def asBytes (s : String) : List UInt8 := s.toUTF8.data.toList

/-- `str::is_char_boundary` on the bytes of a string: the start, the end, or a byte that
does not continue a character (`(b as i8) >= -0x40`). -/
def isCharBoundary (s : List UInt8) (index : Nat) : Bool :=
  index == 0 || index == s.length ||
    match s[index]? with
    | some b => decide (b.toNat < 0x80 ∨ 0xC0 ≤ b.toNat)
    | none => false

def sliceStr (s : List UInt8) (start stop : Nat) : Except Panic (List UInt8) :=
  if start ≤ stop ∧ isCharBoundary s start ∧ isCharBoundary s stop then
    .ok ((s.drop start).take (stop - start))
  else if s.length < start then .error (.sliceOutOfBounds start)
  else if s.length < stop then .error (.sliceOutOfBounds stop)
  else if stop < start then .error (.sliceBeginAfterEnd start stop)
  else .error (.notCharBoundary (if isCharBoundary s start then stop else start))

/-- The `kind` of a `ParseIntError`. -/
inductive IntErrorKind where
  | empty
  | invalidDigit
  | posOverflow
deriving DecidableEq, Repr

/-- `(c as char).to_digit(radix)` for a byte `c`: an ASCII digit or letter, when its
value is below the radix; anything else is `u32::MAX`, which never is. -/
def toDigit (radix : Nat) (c : UInt8) : Option Nat :=
  let digit :=
    if 48 ≤ c.toNat ∧ c.toNat ≤ 57 then c.toNat - 48
    else if 97 ≤ c.toNat ∧ c.toNat ≤ 122 then c.toNat - 97 + 10
    else if 65 ≤ c.toNat ∧ c.toNat ≤ 90 then c.toNat - 65 + 10
    else 4294967295
  if digit < radix then some digit else none

def checkedU8 (value : Nat) : Except IntErrorKind Nat :=
  if value ≤ 255 then .ok value else .error .posOverflow

@[simp] theorem checked_u8_of_le {value : Nat} (le : value ≤ 255) : checkedU8 value = .ok value :=
  if_pos le

/-- `u8::from_str_radix(src, radix)`, on the bytes of `src`. A `-` is not taken as a
sign, since `u8` is unsigned. -/
def fromStrRadix (src : List UInt8) (radix : Nat) : Except IntErrorKind UInt8 := do
  let digits ← match src with
    | [] => throw .empty
    | c :: rest => pure (if c.toNat = 43 then rest else src)
  if digits.isEmpty then throw .empty
  let result ← digits.foldlM
    (fun result c => do
      let x ← match toDigit radix c with
        | some x => pure x
        | none => throw .invalidDigit
      let result ← checkedU8 (result * radix)
      checkedU8 (result + x))
    0
  pure (UInt8.ofNat result)

/-- The `map` of `hex_string_to_vec` over the indices `is`, collected into a `Result`:
each slice `&s[i..i + 2]` is parsed in turn, and the first parse error ends the
collection. -/
def parseChunks (s : List UInt8) : List Nat → Except Panic (Except IntErrorKind (List UInt8))
  | [] => pure (.ok [])
  | i :: is => do
      let chunk ← sliceStr s i (i + 2)
      match fromStrRadix chunk 16 with
      | .error e => pure (.error e)
      | .ok b => do
          let rest ← parseChunks s is
          pure (rest.map (b :: ·))

theorem parse_chunks_cons_eq_ok {s : List UInt8} {i : Nat} {is : List Nat} {v : List UInt8} :
    parseChunks s (i :: is) = .ok (.ok v) ↔
      ∃ chunk, sliceStr s i (i + 2) = .ok chunk ∧ ∃ b, fromStrRadix chunk 16 = .ok b ∧
        ∃ v', parseChunks s is = .ok (.ok v') ∧ b :: v' = v := by
  rw [parseChunks, bind_eq_ok]
  refine exists_congr fun chunk => and_congr_right fun _ => ?_
  cases fromStrRadix chunk 16 with
  | error e => simp [pure, Except.pure]
  | ok b =>
      simp only [bind_eq_ok, Except.ok.injEq, exists_eq_left']
      constructor
      · rintro ⟨_ | v', restParsed, same⟩
        · cases same
        · exact ⟨v', restParsed, Except.ok.inj (Except.ok.inj same)⟩
      · rintro ⟨v', restParsed, rfl⟩
        exact ⟨_, restParsed, rfl⟩

/-- `hex_string_to_vec` of `array!($name, $l, u8)`, where `<$t>::from` is the identity
and `size_of::<$t>()` is 1. -/
def hexStringToVec (s : String) : Except Panic (List UInt8) := do
  debugAssert ((asBytes s).length % 1 == 0)
    "assertion failed: s.len() % std::mem::size_of::<u8>() == 0"
  let collected ← parseChunks (asBytes s)
    ((List.range (((asBytes s).length + 1) / 2)).map (2 * ·))
  match collected with
  | .ok v => pure v
  | .error _ => throw (.expect "Error parsing hex string")

/-- `from_hex` of `array!($name, $l, u8)`. -/
def fromHex {l : Nat} (s : String) : Except Panic (FixedArray UInt8 l) := do
  let v ← hexStringToVec s
  let o : FixedArray UInt8 l := FixedArray.new
  debugAssert (v.length == l) ("assertion failed: v.len() == " ++ toString l)
  (List.range l).foldlM
    (fun o i => do
      let x ← index v i
      o.set i x)
    o

/-- A lowercase hex digit, as `{:x}` writes `d < 16`. -/
def hexDigit (d : Nat) : Char := if d < 10 then Char.ofNat (48 + d) else Char.ofNat (87 + d)

def formatHex02 (b : UInt8) : String := ⟨[hexDigit (b.toNat / 16), hexDigit (b.toNat % 16)]⟩

/-- `to_hex` of `array!($name, $l, u8)`:
`self.0.iter().map(|b| format!("{:02x}", b)).collect::<Vec<String>>().join("")`. -/
def toHex {l : Nat} (self : FixedArray UInt8 l) : String :=
  String.intercalate "" (self.toList.map formatHex02)

theorem is_char_boundary_of_ascii_at (s : List UInt8) (index : Nat) (le : index ≤ s.length)
    (ascii : ∀ b ∈ s[index]?, b.toNat < 128) : isCharBoundary s index = true := by
  rcases Nat.lt_or_eq_of_le le with lt | rfl
  · have present := List.getElem?_eq_getElem lt
    simp [isCharBoundary, present, ascii _ present]
  · simp [isCharBoundary]

theorem is_char_boundary_le {s : List UInt8} {index : Nat} (boundary : isCharBoundary s index = true) :
    index ≤ s.length := by
  by_contra far
  rw [isCharBoundary, List.getElem?_eq_none (by omega)] at boundary
  simp at boundary
  omega

theorem slice_str_ok {s chunk : List UInt8} {start stop : Nat}
    (ok : sliceStr s start stop = .ok chunk) :
    isCharBoundary s stop = true ∧ chunk = (s.drop start).take (stop - start) := by
  unfold sliceStr at ok
  split_ifs at ok with inside
  cases ok
  exact ⟨inside.2.2, rfl⟩

theorem slice_str_pair (s : List UInt8) (i : Nat) (hi lo : UInt8) (rest : List UInt8)
    (dropped : s.drop i = hi :: lo :: rest) (ascii : hi.toNat < 128)
    (next : ∀ b ∈ rest.head?, b.toNat < 128) : sliceStr s i (i + 2) = .ok [hi, lo] := by
  have length : s.length = i + 2 + rest.length := by
    have := congrArg List.length dropped
    simp only [List.length_drop, List.length_cons] at this
    omega
  have first : s[i]? = some hi := by rw [← Nat.add_zero i, ← List.getElem?_drop, dropped]; rfl
  have third : s[i + 2]? = rest.head? := by
    rw [← List.getElem?_drop, dropped]
    cases rest <;> simp
  rw [sliceStr, if_pos ⟨by omega, is_char_boundary_of_ascii_at s i (by omega)
    (by simpa [first] using ascii), is_char_boundary_of_ascii_at s (i + 2) (by omega)
    (by rwa [third])⟩, Nat.add_sub_cancel_left, dropped]
  rfl

def hexValue (c : UInt8) : Option Nat :=
  if 48 ≤ c.toNat ∧ c.toNat ≤ 57 then some (c.toNat - 48)
  else if 97 ≤ c.toNat ∧ c.toNat ≤ 102 then some (c.toNat - 87)
  else if 65 ≤ c.toNat ∧ c.toNat ≤ 70 then some (c.toNat - 55)
  else none

/-- The byte that the two bytes `hi lo` stand for: two hex digits, or a `+` and one digit. -/
def pairValue (hi lo : UInt8) : Option UInt8 := do
  let high ← if hi.toNat = 43 then some 0 else hexValue hi
  let low ← hexValue lo
  pure (UInt8.ofNat (16 * high + low))

/-- The bytes that a string of such pairs stands for. -/
def readPairs : List UInt8 → Option (List UInt8)
  | [] => some []
  | [_] => none
  | hi :: lo :: rest => do
      let b ← pairValue hi lo
      let bs ← readPairs rest
      pure (b :: bs)

theorem to_digit_sixteen (c : UInt8) : toDigit 16 c = hexValue c := by
  simp only [toDigit, hexValue]
  split_ifs <;> first | rfl | omega | (congr 1; omega)

theorem hex_value_spec {c : UInt8} {d : Nat} (value : hexValue c = some d) :
    d < 16 ∧ 43 < c.toNat ∧ c.toNat < 128 := by
  unfold hexValue at value
  split_ifs at value <;> cases value <;> omega

theorem hex_value_cases (c : UInt8) : hexValue c = none ∨ ∃ d < 16, hexValue c = some d := by
  cases value : hexValue c with
  | none => exact .inl rfl
  | some d => exact .inr ⟨d, (hex_value_spec value).1, rfl⟩

theorem from_str_radix_pair (hi lo b : UInt8) :
    fromStrRadix [hi, lo] 16 = .ok b ↔ pairValue hi lo = some b := by
  rcases hex_value_cases lo with low | ⟨d, _, low⟩ <;>
  rcases hex_value_cases hi with high | ⟨h, _, high⟩ <;>
  by_cases plus : hi.toNat = 43 <;>
  simp (disch := omega) [fromStrRadix, pairValue, plus, to_digit_sixteen, high, low, bind,
    Except.bind, pure, Except.pure, throw, throwThe, MonadExceptOf.throw, checked_u8_of_le,
    Nat.mul_comm 16]

theorem pair_value_ascii {hi lo b : UInt8} (value : pairValue hi lo = some b) :
    hi.toNat < 128 ∧ lo.toNat < 128 := by
  rcases hex_value_cases lo with low | ⟨d, _, low⟩
  · simp [pairValue, low] at value
  · refine ⟨?_, (hex_value_spec low).2.2⟩
    by_cases plus : hi.toNat = 43
    · omega
    · rcases hex_value_cases hi with high | ⟨h, _, high⟩
      · simp [pairValue, plus, high] at value
      · exact (hex_value_spec high).2.2

theorem read_pairs_cons_cons_eq_some {hi lo : UInt8} {rest v : List UInt8} :
    readPairs (hi :: lo :: rest) = some v ↔
      ∃ b, pairValue hi lo = some b ∧ ∃ v', readPairs rest = some v' ∧ b :: v' = v := by
  rw [readPairs]
  simp only [bind, Option.bind_eq_some, pure, Option.some.injEq]

theorem read_pairs_ascii (t : List UInt8) :
    ∀ v, readPairs t = some v → ∀ x ∈ t, x.toNat < 128 := by
  induction t using readPairs.induct with
  | case1 => intro _ _ x mem; cases mem
  | case2 => intro v read; simp [readPairs] at read
  | case3 hi lo rest ih =>
      intro v read
      obtain ⟨b, pair, v', restRead, _⟩ := read_pairs_cons_cons_eq_some.1 read
      intro x mem
      rcases List.mem_cons.1 mem with rfl | mem
      · exact (pair_value_ascii pair).1
      rcases List.mem_cons.1 mem with rfl | mem
      · exact (pair_value_ascii pair).2
      · exact ih v' restRead x mem

theorem parse_chunks_iff (s t : List UInt8) : ∀ (i : Nat) (v : List UInt8), s.drop i = t →
    (parseChunks s (List.range' i ((t.length + 1) / 2) 2) = .ok (.ok v) ↔
      readPairs t = some v) := by
  induction t using readPairs.induct with
  | case1 => intro i v _; simp [parseChunks, readPairs, pure, Except.pure]
  | case2 c =>
      intro i v dropped
      have length : s.length = i + 1 := by
        have := congrArg List.length dropped
        simp only [List.length_drop, List.length_cons, List.length_nil] at this
        omega
      rw [List.length_singleton]
      simp only [readPairs, reduceCtorEq, iff_false]
      intro parsed
      obtain ⟨chunk, slice, _⟩ := parse_chunks_cons_eq_ok.1 (parsed : parseChunks s [i] = _)
      have := is_char_boundary_le (slice_str_ok slice).1
      omega
  | case3 hi lo rest ih =>
      intro i v dropped
      have restAt : s.drop (i + 2) = rest := by rw [← List.drop_drop, dropped]; rfl
      have count : (rest.length + 2 + 1) / 2 = (rest.length + 1) / 2 + 1 := by omega
      rw [List.length_cons, List.length_cons, count, List.range'_succ, parse_chunks_cons_eq_ok,
        read_pairs_cons_cons_eq_some]
      constructor
      · rintro ⟨chunk, slice, b, pair, v', restParsed, rfl⟩
        obtain rfl : chunk = [hi, lo] := by
          rw [(slice_str_ok slice).2, dropped, Nat.add_sub_cancel_left]; rfl
        exact ⟨b, (from_str_radix_pair hi lo b).1 pair, v', (ih (i + 2) v' restAt).1 restParsed, rfl⟩
      · rintro ⟨b, pair, v', restRead, rfl⟩
        have ascii := read_pairs_ascii _ _ (read_pairs_cons_cons_eq_some.2 ⟨b, pair, v', restRead, rfl⟩)
        exact ⟨[hi, lo], slice_str_pair s i hi lo rest dropped (ascii hi (by simp))
          (fun x mem => ascii x (by simp [List.mem_of_mem_head? mem])), b,
          (from_str_radix_pair hi lo b).2 pair, v', (ih (i + 2) v' restAt).2 restRead, rfl⟩

theorem map_two_mul_range (n : Nat) : (List.range n).map (2 * ·) = List.range' 0 n 2 := by
  induction n with
  | zero => rfl
  | succ n ih => rw [List.range_succ, List.map_append, ih, List.range'_concat, Nat.zero_add]; rfl

theorem hex_string_to_vec_eq_ok (s : String) (v : List UInt8) :
    hexStringToVec s = .ok v ↔ readPairs (asBytes s) = some v := by
  rw [← parse_chunks_iff (asBytes s) (asBytes s) 0 v rfl, ← map_two_mul_range]
  simp only [hexStringToVec, Nat.mod_one, beq_self_eq_true, debug_assert_true, ok_bind, bind_eq_ok]
  constructor
  · rintro ⟨collected, parsed, matched⟩
    cases collected with
    | ok w => cases matched; exact parsed
    | error e => cases matched
  · exact fun parsed => ⟨_, parsed, rfl⟩

theorem from_hex_of_hex_string_to_vec {l : Nat} {s : String} {v : List UInt8}
    (read : hexStringToVec s = .ok v) :
    (fromHex s : Except Panic (FixedArray UInt8 l)) =
      if length : v.length = l then .ok ⟨v, length⟩
      else .error (.assertion ("assertion failed: v.len() == " ++ toString l)) := by
  by_cases length : v.length = l
  · have loop := FixedArray.foldlM_write (fun o i => do let x ← index v i; o.set i x)
      (List.range l) v (by simp [length]) (FixedArray.new : FixedArray UInt8 l) 0 (by simp [length])
      (fun o k lt => by
        simp only [List.getElem_range, Nat.zero_add, index_of_lt (length ▸ List.length_range l ▸ lt)]
        rfl)
    simp only [bind, Except.bind] at loop
    simp only [fromHex, read, bind, Except.bind, length, beq_self_eq_true, debug_assert_true, loop,
      FixedArray.write_zero_of_length _ _ length, dif_pos]
  · simp [fromHex, read, debugAssert, length, bind, Except.bind]

theorem from_hex_accepts_exactly_pairs {l : Nat} (s : String) (a : FixedArray UInt8 l) :
    fromHex s = .ok a ↔ readPairs (asBytes s) = some a.toList := by
  rw [← hex_string_to_vec_eq_ok]
  constructor
  · intro parsed
    cases read : hexStringToVec s with
    | error e => simp [fromHex, read, bind, Except.bind] at parsed
    | ok v =>
        rw [from_hex_of_hex_string_to_vec read] at parsed
        split at parsed
        · cases parsed; rfl
        · cases parsed
  · intro read
    rw [from_hex_of_hex_string_to_vec read, dif_pos a.length_toList]

def isHexChar (c : Char) : Bool :=
  c.isDigit || decide ('a' ≤ c ∧ c ≤ 'f') || decide ('A' ≤ c ∧ c ≤ 'F')

/-- A hex encoding of `l` bytes: `2 * l` characters, each an ASCII hexadecimal digit. -/
def isHexEncoding (l : Nat) (s : String) : Bool :=
  s.length == 2 * l && s.data.all isHexChar

/-- `u8::from_str_radix` takes a leading `+`, so `from_hex` reads `"+a"` as the byte `0x0a`:
the string is not a hex encoding, and `to_hex` of what was read is `"0a"`. -/
theorem from_hex_accepts_plus_sign :
    isHexEncoding 1 "+a" = false ∧
      (fromHex "+a" : Except Panic (FixedArray UInt8 1)) = .ok ⟨[10], rfl⟩ ∧
      toHex (⟨[10], rfl⟩ : FixedArray UInt8 1) = "0a" :=
  ⟨by decide, rfl, rfl⟩

def hexByte (d : Nat) : UInt8 := UInt8.ofNat (hexDigit d).toNat

def hexBytes (b : UInt8) : List UInt8 := [hexByte (b.toNat / 16), hexByte (b.toNat % 16)]

theorem hex_byte_spec : ∀ d, d < 16 →
    String.utf8EncodeChar (hexDigit d) = [hexByte d] ∧ hexValue (hexByte d) = some d
  | 0, _ | 1, _ | 2, _ | 3, _ | 4, _ | 5, _ | 6, _ | 7, _ | 8, _ | 9, _ | 10, _ | 11, _
  | 12, _ | 13, _ | 14, _ | 15, _ => by decide
  | _ + 16, h => absurd h (by omega)

theorem as_bytes_eq (s : String) : asBytes s = s.data.flatMap String.utf8EncodeChar := rfl

theorem intercalate_go_data (ss : List String) : ∀ acc : String,
    (String.intercalate.go acc "" ss).data = acc.data ++ ss.flatMap String.data := by
  induction ss with
  | nil => intro acc; simp [String.intercalate.go]
  | cons s ss ih => intro acc; simp [String.intercalate.go, ih]

theorem to_hex_data {l : Nat} (a : FixedArray UInt8 l) :
    (toHex a).data = a.toList.flatMap fun b => (formatHex02 b).data := by
  rw [toHex]
  cases a.toList with
  | nil => rfl
  | cons b bs =>
      rw [List.map_cons, String.intercalate, intercalate_go_data]
      simp [List.flatMap_map]

theorem as_bytes_to_hex {l : Nat} (a : FixedArray UInt8 l) :
    asBytes (toHex a) = a.toList.flatMap hexBytes := by
  have digits (b : UInt8) : (formatHex02 b).data.flatMap String.utf8EncodeChar = hexBytes b := by
    have lt : b.toNat < 256 := UInt8.toNat_lt_size b
    simp [formatHex02, hexBytes, (hex_byte_spec (b.toNat / 16) (by omega)).1,
      (hex_byte_spec (b.toNat % 16) (by omega)).1]
  rw [as_bytes_eq, to_hex_data, List.flatMap_assoc]
  exact congrArg a.toList.flatMap (funext digits)

theorem pair_value_hex_bytes (b : UInt8) :
    pairValue (hexByte (b.toNat / 16)) (hexByte (b.toNat % 16)) = some b := by
  have lt : b.toNat < 256 := UInt8.toNat_lt_size b
  have high := (hex_byte_spec (b.toNat / 16) (by omega)).2
  have low := (hex_byte_spec (b.toNat % 16) (by omega)).2
  have value : 16 * (b.toNat / 16) + b.toNat % 16 = b.toNat := Nat.div_add_mod _ _
  simp [pairValue, high, low, Nat.ne_of_gt (hex_value_spec high).2.1, value]
  exact UInt8.toNat.inj (UInt8.toNat_ofNat_of_lt lt)

theorem read_pairs_flatMap_hex_bytes (bs : List UInt8) : readPairs (bs.flatMap hexBytes) = some bs := by
  induction bs with
  | nil => rfl
  | cons b bs ih => exact read_pairs_cons_cons_eq_some.2 ⟨b, pair_value_hex_bytes b, bs, ih, rfl⟩

theorem hex_string_to_vec_to_hex {l : Nat} (a : FixedArray UInt8 l) :
    hexStringToVec (toHex a) = .ok a.toList := by
  rw [hex_string_to_vec_eq_ok, as_bytes_to_hex, read_pairs_flatMap_hex_bytes]

theorem from_hex_to_hex {l : Nat} (a : FixedArray UInt8 l) : fromHex (toHex a) = .ok a := by
  rw [from_hex_of_hex_string_to_vec (hex_string_to_vec_to_hex a), dif_pos a.length_toList]

theorem hex_char_spec_lt : ∀ n < 128, isHexChar (Char.ofNat n) = true →
    String.utf8EncodeChar (Char.ofNat n) = [UInt8.ofNat n] ∧
      (hexValue (UInt8.ofNat n)).map hexDigit = some (Char.ofNat n).toLower := by
  decide

theorem is_hex_char_lt {c : Char} (hex : isHexChar c = true) : c.toNat < 128 := by
  simp [isHexChar, Char.isDigit, Char.le_def, UInt32.le_def, BitVec.le_def, Char.toNat,
    UInt32.toNat] at hex ⊢
  omega

theorem hex_char_spec {c : Char} (hex : isHexChar c = true) :
    String.utf8EncodeChar c = [UInt8.ofNat c.toNat] ∧
      (hexValue (UInt8.ofNat c.toNat)).map hexDigit = some c.toLower := by
  have spec := hex_char_spec_lt c.toNat (is_hex_char_lt hex) (by rwa [Char.ofNat_toNat])
  rwa [Char.ofNat_toNat] at spec

theorem read_pairs_hex_chars (n : Nat) :
    ∀ cs : List Char, cs.length = 2 * n → (∀ c ∈ cs, isHexChar c = true) →
      ∃ v, readPairs (cs.flatMap String.utf8EncodeChar) = some v ∧ v.length = n ∧
        v.flatMap (fun b => (formatHex02 b).data) = cs.map Char.toLower := by
  induction n with
  | zero =>
      intro cs length _
      obtain rfl := List.eq_nil_of_length_eq_zero length
      exact ⟨[], rfl, rfl, rfl⟩
  | succ n ih =>
      intro cs length hex
      match cs, length with
      | c0 :: c1 :: rest, length =>
          obtain ⟨v, read, count, written⟩ :=
            ih rest (by simp at length; omega) fun c mem => hex c (by simp [mem])
          obtain ⟨encoded0, value0⟩ := hex_char_spec (hex c0 (by simp))
          obtain ⟨encoded1, value1⟩ := hex_char_spec (hex c1 (by simp))
          obtain ⟨d0, value0, digit0⟩ := Option.map_eq_some'.1 value0
          obtain ⟨d1, value1, digit1⟩ := Option.map_eq_some'.1 value1
          have small0 := hex_value_spec value0
          have small1 := (hex_value_spec value1).1
          have byte : (UInt8.ofNat (16 * d0 + d1)).toNat = 16 * d0 + d1 :=
            UInt8.toNat_ofNat_of_lt (by show _ < 256; omega)
          refine ⟨UInt8.ofNat (16 * d0 + d1) :: v, ?_, by simp [count], ?_⟩
          · rw [List.flatMap_cons, List.flatMap_cons, encoded0, encoded1]
            exact read_pairs_cons_cons_eq_some.2 ⟨_, by
              simp [pairValue, value0, value1, Nat.ne_of_gt small0.2.1], v, read, rfl⟩
          · rw [List.flatMap_cons, written]
            simp [formatHex02, byte, show (16 * d0 + d1) / 16 = d0 by omega,
              show (16 * d0 + d1) % 16 = d1 by omega, digit0, digit1]

/-- A hex encoding is read without a panic, and `to_hex` writes it back in lower case. -/
theorem hex_encoding_read_lowercased {l : Nat} (s : String) (hex : isHexEncoding l s = true) :
    ∃ a : FixedArray UInt8 l, fromHex s = .ok a ∧ toHex a = ⟨s.data.map Char.toLower⟩ := by
  simp only [isHexEncoding, Bool.and_eq_true, beq_iff_eq, List.all_eq_true] at hex
  obtain ⟨v, read, count, written⟩ := read_pairs_hex_chars l s.data hex.1 hex.2
  refine ⟨⟨v, count⟩, ?_, ?_⟩
  · rw [from_hex_of_hex_string_to_vec ((hex_string_to_vec_eq_ok s v).2 read), dif_pos count]
  · show String.mk (toHex ⟨v, count⟩).data = _
    rw [to_hex_data, written]

theorem hex_encoding_read_lowercased_witness :
    isHexEncoding 1 "0A" = true ∧
      ∃ a : FixedArray UInt8 1, fromHex "0A" = .ok a ∧ toHex a = ⟨"0A".data.map Char.toLower⟩ :=
  ⟨by decide, hex_encoding_read_lowercased "0A" (by decide)⟩

end Hacspec.Array
