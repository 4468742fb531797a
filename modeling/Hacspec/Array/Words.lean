import Mathlib.Algebra.Group.Nat.Basic
import Hacspec.Array.Base

/-!
# Big-endian words

`array!($name, $l, u32)` (and `u64`, `u128`) makes arrays of words, and the public byte
arrays of `array!($name, $l, u8)` read words with `to_u32s_be`, `to_u64s_be` and
`to_u128s_be`. A word of `bytes` bytes (`core::mem::size_of`: 4, 8 or 16) is a
`Word bytes`, a value below `256 ^ bytes`. `to_be_bytes` gives its base-256 digits,
most significant first (`toBeBytes`), and `from_be_bytes` reads them back
(`fromBeBytes`).

`to_bytes_be` writes the digits of word `i` at `i * FACTOR + j` (`to_bytes_be_eq`), and
`to_u32s_be` cuts the bytes with `chunks(4)` and reads chunk `i` into `out[i]` of
`Seq::new($l / 4)` (`to_words_be_eq`); through `from_seq` the two invert each other.

When the length is not a whole number of words the last chunk is short, and its
`debug_assert!` panics after the full chunks have been read (`to_words_be_ragged`).
`to_u32s_le` runs the same loop with `from_le_bytes`, so it reads each word with its bytes
swapped (`to_words_le_eq_swap_bytes`), panics included.
-/

namespace Hacspec.Array

set_option autoImplicit false

/-- A `u32`, `u64` or `u128` (`bytes` = 4, 8, 16), by its value. -/
abbrev Word (bytes : Nat) := Fin (256 ^ bytes)

instance (bytes : Nat) : Inhabited (Word bytes) := ⟨⟨0, Nat.pos_pow_of_pos bytes (by decide)⟩⟩

/-- `n.to_be_bytes()` for a word of `bytes` bytes: the base-256 digits of `n`, most
significant first. -/
def toBeBytes : Nat → Nat → List UInt8
  | 0, _ => []
  | bytes + 1, n => toBeBytes bytes (n / 256) ++ [UInt8.ofNat (n % 256)]

/-- The value of base-256 digits, most significant first. -/
def beValue (digits : List UInt8) : Nat := digits.foldl (fun acc b => acc * 256 + b.toNat) 0

@[simp] theorem length_to_be_bytes (bytes n : Nat) : (toBeBytes bytes n).length = bytes := by
  induction bytes generalizing n with
  | zero => rfl
  | succ bytes ih => simp [toBeBytes, ih]

theorem be_value_append_singleton (digits : List UInt8) (b : UInt8) :
    beValue (digits ++ [b]) = beValue digits * 256 + b.toNat := by
  rw [beValue, List.foldl_append]
  rfl

theorem be_value_lt (digits : List UInt8) : beValue digits < 256 ^ digits.length := by
  induction digits using List.reverseRecOn with
  | nil => decide
  | append_singleton digits b ih =>
      have digit := b.toNat_lt_size
      rw [be_value_append_singleton, List.length_append, List.length_singleton, Nat.pow_succ]
      change b.toNat < 256 at digit
      calc beValue digits * 256 + b.toNat < beValue digits * 256 + 256 := by omega
        _ = (beValue digits + 1) * 256 := by rw [Nat.succ_mul]
        _ ≤ 256 ^ digits.length * 256 := Nat.mul_le_mul_right _ ih

theorem be_value_to_be_bytes (bytes n : Nat) : beValue (toBeBytes bytes n) = n % 256 ^ bytes := by
  induction bytes generalizing n with
  | zero => simp [toBeBytes, beValue, Nat.mod_one]
  | succ bytes ih =>
      rw [toBeBytes, be_value_append_singleton, ih,
        UInt8.toNat_ofNat_of_lt (n := n % 256) (Nat.mod_lt _ (by decide)), Nat.pow_succ,
        Nat.mul_comm (256 ^ bytes), Nat.mod_mul]
      omega

theorem to_be_bytes_be_value (digits : List UInt8) : toBeBytes digits.length (beValue digits) = digits := by
  induction digits using List.reverseRecOn with
  | nil => rfl
  | append_singleton digits b ih =>
      have digit := b.toNat_lt_size
      change b.toNat < 256 at digit
      have high : (beValue digits * 256 + b.toNat) / 256 = beValue digits := by omega
      have low : (beValue digits * 256 + b.toNat) % 256 = b.toNat := by omega
      rw [List.length_append, List.length_singleton, toBeBytes, be_value_append_singleton, high, low,
        ih, UInt8.toNat.inj (UInt8.toNat_ofNat_of_lt b.toNat_lt_size)]

/-- The value of base-256 digits, least significant first. -/
def leValue (digits : List UInt8) : Nat := digits.foldr (fun b acc => b.toNat + 256 * acc) 0

theorem le_value_eq_be_value_reverse (digits : List UInt8) : leValue digits = beValue digits.reverse := by
  rw [beValue, List.foldl_reverse]
  induction digits with
  | nil => rfl
  | cons b digits ih =>
      rw [leValue, List.foldr_cons, List.foldr_cons, ← leValue, ih, Nat.add_comm, Nat.mul_comm]

/-- `w.swap_bytes()`: the word whose big-endian digits are those of `w`, reversed. -/
def swapBytes {bytes : Nat} (w : Word bytes) : Word bytes :=
  ⟨beValue (toBeBytes bytes w.val).reverse, by
    simpa only [List.length_reverse, length_to_be_bytes] using be_value_lt (toBeBytes bytes w.val).reverse⟩

/-- `u32::from_be_bytes(bytes)` (and `u64`, `u128`) on `[u8; N]`. -/
def fromBeBytes {bytes : Nat} (block : FixedArray UInt8 bytes) : Word bytes :=
  ⟨beValue block.toList, by simpa only [block.length_toList] using be_value_lt block.toList⟩

/-- `to_array(block)` into `[u8; N]`. `to_array` is not among the sources: it is taken as
`copy_from_slice` into a default array, which panics when the lengths differ. -/
def toArray {N : Nat} (block : List UInt8) : Except Panic (FixedArray UInt8 N) :=
  if h : block.length = N then .ok ⟨block, h⟩ else .error (.copyFromSlice block.length N)

/-- `chunks(size)` of a slice: pieces of `size` elements from the start, the last one
shorter when `size` does not divide the length. -/
def chunks {α : Type} (size : Nat) (xs : List α) : List (List α) :=
  (List.range ((xs.length + size - 1) / size)).map fun i => (xs.drop (i * size)).take size

/-- The loop of `to_u32s_be`, `to_u64s_be` and `to_u128s_be`, for words of `bytes`
bytes. `Seq::new($l / bytes)` keeps its length through the loop, so `out` is an array
of that length here, and the `Seq` returned is its elements. -/
def toWordsBe (bytes : Nat) {l : Nat} (self : FixedArray UInt8 l) : Except Panic (List (Word bytes)) := do
  let out ← (chunks bytes self.toList).enum.foldlM
    (fun out (i, block) => do
      debugAssert (block.length == bytes) ("assertion failed: block.len() == " ++ toString bytes)
      let word ← toArray block
      out.set i (fromBeBytes word))
    (FixedArray.new : FixedArray (Word bytes) (l / bytes))
  pure out.toList

def toU32sBe {l : Nat} (self : FixedArray UInt8 l) : Except Panic (List (Word 4)) := toWordsBe 4 self

def toU64sBe {l : Nat} (self : FixedArray UInt8 l) : Except Panic (List (Word 8)) := toWordsBe 8 self

def toU128sBe {l : Nat} (self : FixedArray UInt8 l) : Except Panic (List (Word 16)) :=
  toWordsBe 16 self

/-- `u32::from_le_bytes(bytes)` (and `u64`, `u128`) on `[u8; N]`. -/
def fromLeBytes {bytes : Nat} (block : FixedArray UInt8 bytes) : Word bytes :=
  ⟨leValue block.toList, by
    simpa only [le_value_eq_be_value_reverse, List.length_reverse, block.length_toList] using
      be_value_lt block.toList.reverse⟩

/-- The loop of `to_u32s_le`, `to_u64s_le` and `to_u128s_le`: the loop of the big-endian
reads with `from_le_bytes` in place of `from_be_bytes`. -/
def toWordsLe (bytes : Nat) {l : Nat} (self : FixedArray UInt8 l) : Except Panic (List (Word bytes)) := do
  let out ← (chunks bytes self.toList).enum.foldlM
    (fun out (i, block) => do
      debugAssert (block.length == bytes) ("assertion failed: block.len() == " ++ toString bytes)
      let word ← toArray block
      out.set i (fromLeBytes word))
    (FixedArray.new : FixedArray (Word bytes) (l / bytes))
  pure out.toList

def toU32sLe {l : Nat} (self : FixedArray UInt8 l) : Except Panic (List (Word 4)) := toWordsLe 4 self

def toU64sLe {l : Nat} (self : FixedArray UInt8 l) : Except Panic (List (Word 8)) := toWordsLe 8 self

def toU128sLe {l : Nat} (self : FixedArray UInt8 l) : Except Panic (List (Word 16)) :=
  toWordsLe 16 self

/-- One turn of the outer loop of `to_bytes_be`: `tmp = self[i].to_be_bytes()`, then
`out[i * FACTOR + j] = tmp[j]` for `j` in `0..FACTOR`. -/
def writeWordBytes {bytes l : Nat} (self : FixedArray (Word bytes) l)
    (out : FixedArray UInt8 (l * bytes)) (i : Nat) : Except Panic (FixedArray UInt8 (l * bytes)) := do
  let w ← index self.toList i
  let tmp := toBeBytes bytes w.val
  (List.range bytes).foldlM
    (fun out j => do
      let b ← index tmp j
      out.set (i * bytes + j) b)
    out

/-- `to_bytes_be` on an array of words of `bytes` bytes: `FACTOR = bytes`, and `out`
starts as `[0u8; $l * FACTOR]`. -/
def toBytesBe {bytes l : Nat} (self : FixedArray (Word bytes) l) :
    Except Panic (FixedArray UInt8 (l * bytes)) :=
  (List.range l).foldlM (writeWordBytes self) FixedArray.new

section Chunks

variable {α : Type} {size : Nat}

theorem chunks_nil (pos : 0 < size) : chunks size ([] : List α) = [] := by
  rw [chunks, List.length_nil, Nat.zero_add, Nat.div_eq_of_lt (by omega), List.range_zero,
    List.map_nil]

theorem chunks_append (pos : 0 < size) (c rest : List α) (full : c.length = size) :
    chunks size (c ++ rest) = c :: chunks size rest := by
  have count : ((c ++ rest).length + size - 1) / size = (rest.length + size - 1) / size + 1 := by
    rw [List.length_append, full,
      show size + rest.length + size - 1 = rest.length + size - 1 + 1 * size by omega,
      Nat.add_mul_div_right _ _ pos]
  rw [chunks, count, List.range_succ_eq_map, List.map_cons, List.map_map, chunks]
  congr 1
  · rw [Nat.zero_mul, List.drop_zero, List.take_append_of_le_length (by omega),
      List.take_of_length_le (by omega)]
  · refine List.map_congr_left fun i _ => ?_
    rw [Function.comp_apply, Nat.succ_mul, Nat.add_comm, ← full, List.drop_append]

theorem chunks_flatMap {β : Type} (pos : 0 < size) (g : β → List α)
    (full : ∀ y, (g y).length = size) :
    ∀ ys : List β, chunks size (ys.flatMap g) = ys.map g
  | [] => chunks_nil pos
  | y :: ys => by rw [List.flatMap_cons, chunks_append pos _ _ (full y), chunks_flatMap pos g full ys,
      List.map_cons]

theorem chunks_of_length (pos : 0 < size) :
    ∀ (n : Nat) (xs : List α), xs.length = n * size →
      (chunks size xs).length = n ∧ (∀ c ∈ chunks size xs, c.length = size) ∧
        (chunks size xs).flatten = xs
  | 0, xs, length => by
      obtain rfl : xs = [] := List.eq_nil_of_length_eq_zero (by simpa using length)
      rw [chunks_nil pos]
      exact ⟨rfl, fun _ member => (nomatch member), rfl⟩
  | n + 1, xs, length => by
      have first : (xs.take size).length = size := by
        rw [List.length_take]; rw [Nat.succ_mul] at length; omega
      obtain ⟨count, full, flat⟩ := chunks_of_length pos n (xs.drop size)
        (by rw [List.length_drop, length, Nat.succ_mul]; omega)
      rw [← List.take_append_drop size xs, chunks_append pos _ _ first]
      refine ⟨by rw [List.length_cons, count], ?_, by rw [List.flatten_cons, flat]⟩
      rintro c (_ | ⟨_, member⟩)
      · exact first
      · exact full c member

theorem chunks_of_ragged_length (pos : 0 < size) :
    ∀ (n : Nat) (xs : List α), n * size < xs.length → xs.length < n * size + size →
      chunks size xs = chunks size (xs.take (n * size)) ++ [xs.drop (n * size)]
  | 0, xs, nonempty, short => by
      have count : (xs.length + size - 1) / size = 1 := Nat.div_eq_of_lt_le (by omega) (by omega)
      rw [Nat.zero_mul, List.take_zero, chunks_nil pos, List.drop_zero, chunks, count]
      show [(xs.drop (0 * size)).take size] = [xs]
      rw [Nat.zero_mul, List.drop_zero, List.take_of_length_le (by omega)]
  | n + 1, xs, long, short => by
      rw [Nat.succ_mul] at long short ⊢
      have first : (xs.take size).length = size := by rw [List.length_take]; omega
      rw [Nat.add_comm (n * size), List.take_add, ← List.drop_drop,
        chunks_append pos _ _ first, List.cons_append, ← chunks_of_ragged_length pos n (xs.drop size)
          (by rw [List.length_drop]; omega) (by rw [List.length_drop]; omega),
        ← chunks_append pos _ _ first, List.take_append_drop]

end Chunks

section Conversions

variable {bytes : Nat}

theorem length_flatMap_to_be_bytes (ws : List (Word bytes)) :
    (ws.flatMap fun w => toBeBytes bytes w.val).length = ws.length * bytes := by
  induction ws with
  | nil => simp
  | cons w ws ih => rw [List.flatMap_cons, List.length_append, ih, length_to_be_bytes, List.length_cons,
      Nat.succ_mul, Nat.add_comm]

theorem write_word_bytes_eq {l : Nat} (self : FixedArray (Word bytes) l)
    (out : FixedArray UInt8 (l * bytes))
    (i : Nat) (lt : i < self.toList.length)
    (fits : i * bytes + (toBeBytes bytes self.toList[i].val).length ≤ l * bytes) :
    writeWordBytes self out i =
      .ok (out.write (i * bytes) (toBeBytes bytes self.toList[i].val) fits) := by
  rw [writeWordBytes, index_of_lt lt]
  exact FixedArray.foldlM_write _ (List.range bytes) _ (by simp) out _ fits fun _ k lt => by
    rw [List.getElem_range, index_of_lt (by simpa using lt)]
    rfl

theorem foldlM_write_word_bytes {l : Nat} (self : FixedArray (Word bytes) l) (n : Nat) :
    ∀ (m start : Nat) (out : FixedArray UInt8 (l * bytes)), start = m * bytes → m + n ≤ l →
      (fits : start + (((self.toList.drop m).take n).flatMap fun w => toBeBytes bytes w.val).length ≤
        l * bytes) →
      (List.range' m n).foldlM (writeWordBytes self) out =
        .ok (out.write start (((self.toList.drop m).take n).flatMap fun w => toBeBytes bytes w.val)
          fits) := by
  have length := self.length_toList
  induction n with
  | zero =>
      intro m start out _ _ fits
      simp only [List.range'_zero, List.foldlM_nil, List.take_zero, List.flatMap_nil]
      exact congrArg _ (out.write_nil start _).symm
  | succ n ih =>
      intro m start out atStart le fits
      subst atStart
      have lt : m < self.toList.length := by omega
      have fitsHere : m * bytes + (toBeBytes bytes self.toList[m].val).length ≤ l * bytes := by
        rw [length_flatMap_to_be_bytes] at fits
        have one : 1 ≤ ((self.toList.drop m).take (n + 1)).length := by simp; omega
        rw [length_to_be_bytes]
        exact Nat.le_trans (Nat.add_le_add_left (Nat.le_mul_of_pos_left bytes one) _) fits
      have rest : (self.toList.drop m).take (n + 1) =
          self.toList[m] :: (self.toList.drop (m + 1)).take n := by
        rw [List.drop_eq_getElem_cons lt, List.take_succ_cons]
      rw [List.range'_succ, List.foldlM_cons, write_word_bytes_eq self out m lt fitsHere]
      show List.foldlM _ _ _ = _
      simp only [rest, List.flatMap_cons] at fits ⊢
      rw [ih (m + 1) (m * bytes + (toBeBytes bytes self.toList[m].val).length) _
          (by rw [length_to_be_bytes, Nat.succ_mul]) (by omega)
          (by rw [Nat.add_assoc, ← List.length_append]; exact fits)]
      rw [← FixedArray.write_write _ _ _ _ fitsHere]

theorem to_bytes_be_eq {l : Nat} (self : FixedArray (Word bytes) l) :
    ∃ out, toBytesBe self = .ok out ∧
      out.toList = self.toList.flatMap fun w => toBeBytes bytes w.val := by
  have length := self.length_toList
  have fits : 0 + (((self.toList.drop 0).take l).flatMap fun w => toBeBytes bytes w.val).length ≤
      l * bytes := by
    rw [length_flatMap_to_be_bytes, List.drop_zero, List.take_of_length_le (by omega), length]; omega
  refine ⟨_, by
    rw [toBytesBe, List.range_eq_range']
    exact foldlM_write_word_bytes self l 0 0 _ (Nat.zero_mul _).symm (by omega) fits, ?_⟩
  simp only [FixedArray.write, List.drop_zero, List.take_of_length_le (Nat.le_of_eq length),
    List.take_zero, List.nil_append, FixedArray.new, List.drop_replicate, length_flatMap_to_be_bytes,
    length, Nat.zero_add, Nat.sub_self, List.replicate_zero, List.append_nil]

theorem to_words_be_eq (pos : 0 < bytes) {n l : Nat} (self : FixedArray UInt8 l) (whole : l = n * bytes) :
    ∃ ws, toWordsBe bytes self = .ok ws ∧
      ws.map Fin.val = (chunks bytes self.toList).map beValue := by
  obtain ⟨count, full, -⟩ := chunks_of_length pos n self.toList (by rw [self.length_toList, whole])
  have quotient : l / bytes = n := by rw [whole, Nat.mul_div_cancel _ pos]
  have small : ∀ c ∈ chunks bytes self.toList, beValue c < 256 ^ bytes := fun c member =>
    full c member ▸ be_value_lt c
  let words : List (Word bytes) := (chunks bytes self.toList).attach.map fun c =>
    ⟨beValue c.1, small c.1 c.2⟩
  have fits : 0 + words.length ≤ l / bytes := by simp [words, count, quotient]
  refine ⟨words, ?_, by simp [words, Function.comp_def]⟩
  rw [toWordsBe, FixedArray.foldlM_write _ _ words (by simp [words]) _ 0 fits fun out k lt => ?_]
  · show Except.ok (FixedArray.write _ 0 words fits).toList = .ok words
    congr 1
    simp [FixedArray.write, FixedArray.new, quotient, words, count]
  · have inRange : k < (chunks bytes self.toList).length := by simpa using lt
    have block := full _ (List.getElem_mem inRange)
    simp only [List.get_eq_getElem, List.getElem_enum, Nat.zero_add, words, List.getElem_map,
      List.getElem_attach]
    rw [debugAssert, if_pos (by simpa using block), toArray, dif_pos block]
    rfl

theorem bytes_words_bytes (pos : 0 < bytes) {n l : Nat} (b : FixedArray UInt8 l) (whole : l = n * bytes) :
    (toWordsBe bytes b >>= fun words =>
        (FixedArray.fromSeq words : Except Panic (FixedArray (Word bytes) n)) >>= toBytesBe).map
      FixedArray.toList = .ok b.toList := by
  obtain ⟨count, full, flat⟩ := chunks_of_length pos n b.toList (by rw [b.length_toList, whole])
  obtain ⟨ws, run, values⟩ := to_words_be_eq pos b whole
  have length : ws.length = n := by rw [← List.length_map ws Fin.val, values, List.length_map, count]
  obtain ⟨out, written, bytesOut⟩ := to_bytes_be_eq (⟨ws, length⟩ : FixedArray (Word bytes) n)
  rw [run, ok_bind, FixedArray.from_seq_eq ws length, ok_bind, written, Except.map, bytesOut]
  congr 1
  calc (ws.flatMap fun x => toBeBytes bytes x.val)
      = (ws.map Fin.val).flatMap (toBeBytes bytes) := (List.flatMap_map _ _ _).symm
    _ = (chunks bytes b.toList).flatMap fun c => toBeBytes bytes (beValue c) := by
        rw [values, List.flatMap_map]
    _ = (chunks bytes b.toList).flatMap id := by
        rw [List.flatMap_def, List.flatMap_def]
        exact congrArg _ (List.map_congr_left fun c member => full c member ▸ to_be_bytes_be_value c)
    _ = b.toList := by rw [List.flatMap_id, flat]

theorem words_bytes_words (pos : 0 < bytes) {n : Nat} (w : FixedArray (Word bytes) n) :
    (toBytesBe w >>= toWordsBe bytes) = .ok w.toList := by
  obtain ⟨out, written, bytesOut⟩ := to_bytes_be_eq w
  obtain ⟨ws, run, values⟩ := to_words_be_eq pos out rfl
  rw [written, ok_bind, run]
  congr 1
  apply List.map_injective_iff.mpr fun _ _ same => Fin.eq_of_val_eq same
  rw [values, bytesOut, chunks_flatMap pos _ (fun _ => length_to_be_bytes _ _), List.map_map]
  refine List.map_congr_left fun x _ => ?_
  rw [Function.comp_apply, be_value_to_be_bytes, Nat.mod_eq_of_lt x.isLt]

end Conversions

/-- For `u32`, `u64` and `u128` alike: bytes read as words, put into a word array with
`from_seq` and written back with `to_bytes_be` are the bytes read, without a panic; and
words written as bytes and read back are the words written. -/
theorem words_round_trip_be :
    (∀ (n : Nat) (b : FixedArray UInt8 (4 * n)),
        (toU32sBe b >>= fun words =>
          (FixedArray.fromSeq words : Except Panic (FixedArray (Word 4) n)) >>= toBytesBe).map
            FixedArray.toList = .ok b.toList) ∧
      (∀ (n : Nat) (w : FixedArray (Word 4) n), (toBytesBe w >>= toU32sBe) = .ok w.toList) ∧
      (∀ (n : Nat) (b : FixedArray UInt8 (8 * n)),
        (toU64sBe b >>= fun words =>
          (FixedArray.fromSeq words : Except Panic (FixedArray (Word 8) n)) >>= toBytesBe).map
            FixedArray.toList = .ok b.toList) ∧
      (∀ (n : Nat) (w : FixedArray (Word 8) n), (toBytesBe w >>= toU64sBe) = .ok w.toList) ∧
      (∀ (n : Nat) (b : FixedArray UInt8 (16 * n)),
        (toU128sBe b >>= fun words =>
          (FixedArray.fromSeq words : Except Panic (FixedArray (Word 16) n)) >>= toBytesBe).map
            FixedArray.toList = .ok b.toList) ∧
      (∀ (n : Nat) (w : FixedArray (Word 16) n), (toBytesBe w >>= toU128sBe) = .ok w.toList) :=
  ⟨fun n b => bytes_words_bytes (by decide) b (Nat.mul_comm 4 n),
    fun _ w => words_bytes_words (by decide) w,
    fun n b => bytes_words_bytes (by decide) b (Nat.mul_comm 8 n),
    fun _ w => words_bytes_words (by decide) w,
    fun n b => bytes_words_bytes (by decide) b (Nat.mul_comm 16 n),
    fun _ w => words_bytes_words (by decide) w⟩

theorem foldlM_append_error {ε β γ : Type} (step : β → γ → Except ε β) (last : γ) (e : ε)
    (fails : ∀ b, step b last = .error e) :
    ∀ (items : List γ) (b : β), (∀ b, ∀ x ∈ items, ∃ b', step b x = .ok b') →
      (items ++ [last]).foldlM step b = .error e
  | [], b, _ => by rw [List.nil_append, List.foldlM_cons, fails]; rfl
  | x :: items, b, each => by
      obtain ⟨b', here⟩ := each b x (List.mem_cons_self _ _)
      rw [List.cons_append, List.foldlM_cons, here]
      exact foldlM_append_error step last e fails items b' fun b y member =>
        each b y (List.mem_cons_of_mem _ member)

def FixedArray.map {α β : Type} {l : Nat} (f : α → β) (a : FixedArray α l) : FixedArray β l :=
  ⟨a.toList.map f, by rw [List.length_map, a.length_toList]⟩

theorem FixedArray.set_map {α β : Type} {l : Nat} (f : α → β) (a : FixedArray α l) (i : Nat) (x : α) :
    (a.map f).set i (f x) = (a.set i x).map (FixedArray.map f) := by
  unfold FixedArray.set
  split
  · exact congrArg _ (FixedArray.ext List.map_set.symm)
  · rfl

section Panics

variable {bytes : Nat}

/-- At a length that is not a whole number of words, the full chunks are read, and the
`debug_assert!` of the short last chunk panics. -/
theorem to_words_be_ragged (pos : 0 < bytes) {l : Nat} (self : FixedArray UInt8 l)
    (ragged : l % bytes ≠ 0) :
    toWordsBe bytes self = .error (.assertion ("assertion failed: block.len() == " ++ toString bytes)) := by
  have whole : l / bytes * bytes + l % bytes = l := by
    rw [Nat.mul_comm]; exact Nat.div_add_mod l bytes
  have rest := Nat.mod_lt l pos
  have split := chunks_of_ragged_length pos (l / bytes) self.toList
    (by rw [self.length_toList]; omega) (by rw [self.length_toList]; omega)
  obtain ⟨count, full, -⟩ := chunks_of_length pos (l / bytes) (self.toList.take (l / bytes * bytes))
    (by rw [List.length_take, self.length_toList]; exact Nat.min_eq_left (Nat.div_mul_le_self l bytes))
  have short : ((self.toList.drop (l / bytes * bytes)).length == bytes) = false := by
    rw [beq_eq_false_iff_ne, List.length_drop, self.length_toList]
    omega
  rw [toWordsBe, split, List.enum_append, List.enumFrom_singleton,
    foldlM_append_error _ _ _ (fun out => ?fails) _ _ (fun out x member => ?each)]
  · rfl
  · dsimp only
    rw [debugAssert, short]
    rfl
  · have length := full _ (List.snd_mem_of_mem_enum member)
    have lt := List.fst_lt_of_mem_enum member
    rcases x with ⟨i, block⟩
    dsimp only
    rw [debugAssert, if_pos (by simpa using length), ok_bind, toArray, dif_pos length, ok_bind,
      FixedArray.set, if_pos (count ▸ lt)]
    exact ⟨_, rfl⟩

theorem to_words_be_outcome (pos : 0 < bytes) {l : Nat} (self : FixedArray UInt8 l) :
    (toWordsBe bytes self).map (fun _ => ()) = if l % bytes = 0 then .ok ()
      else .error (.assertion ("assertion failed: block.len() == " ++ toString bytes)) := by
  split
  · rename_i whole
    obtain ⟨ws, ran, -⟩ := to_words_be_eq pos self (Nat.div_mul_cancel (Nat.dvd_of_mod_eq_zero whole)).symm
    rw [ran]
    rfl
  · rename_i ragged
    rw [to_words_be_ragged pos self ragged]
    rfl

end Panics

theorem be_value_to_be_bytes_zero_reverse : ∀ bytes : Nat, beValue (toBeBytes bytes 0).reverse = 0
  | 0 => rfl
  | bytes + 1 => by
      rw [toBeBytes, List.reverse_append, Nat.zero_div]
      exact be_value_to_be_bytes_zero_reverse bytes

theorem new_map_swap_bytes {bytes l : Nat} :
    (FixedArray.new : FixedArray (Word bytes) l).map swapBytes = FixedArray.new :=
  FixedArray.ext (List.map_replicate.trans (congrArg (List.replicate l)
    (Fin.eq_of_val_eq (be_value_to_be_bytes_zero_reverse bytes))))

theorem from_le_bytes_eq_swap_bytes {bytes : Nat} (block : FixedArray UInt8 bytes) :
    fromLeBytes block = swapBytes (fromBeBytes block) := by
  apply Fin.eq_of_val_eq
  show leValue block.toList = beValue (toBeBytes bytes (beValue block.toList)).reverse
  have digits := to_be_bytes_be_value block.toList
  rw [block.length_toList] at digits
  rw [digits, le_value_eq_be_value_reverse]

theorem foldlM_map {ε β β' γ : Type} (g : β → β') (stepA : β → γ → Except ε β)
    (stepB : β' → γ → Except ε β') (sim : ∀ b x, stepB (g b) x = (stepA b x).map g) :
    ∀ (items : List γ) (b : β), items.foldlM stepB (g b) = (items.foldlM stepA b).map g
  | [], _ => rfl
  | x :: items, b => by
      rw [List.foldlM_cons, List.foldlM_cons, sim]
      rcases stepA b x with _ | b'
      · rfl
      · exact foldlM_map g stepA stepB sim items b'

theorem to_words_le_eq_swap_bytes (bytes : Nat) {l : Nat} (self : FixedArray UInt8 l) :
    toWordsLe bytes self = (toWordsBe bytes self).map (List.map swapBytes) := by
  rw [toWordsLe, ← new_map_swap_bytes, foldlM_map (FixedArray.map swapBytes) _ _ ?sim, toWordsBe]
  · rcases List.foldlM _ _ _ with _ | _ <;> rfl
  · intro out ⟨i, block⟩
    dsimp only
    unfold debugAssert toArray
    split
    · split
      · rw [ok_bind, ok_bind, ok_bind, ok_bind, from_le_bytes_eq_swap_bytes, FixedArray.set_map]
      · rfl
    · rfl

theorem to_words_le_outcome {bytes : Nat} (pos : 0 < bytes) {l : Nat} (self : FixedArray UInt8 l) :
    (toWordsLe bytes self).map (fun _ => ()) = if l % bytes = 0 then .ok ()
      else .error (.assertion ("assertion failed: block.len() == " ++ toString bytes)) := by
  rw [to_words_le_eq_swap_bytes, ← to_words_be_outcome pos self]
  rcases toWordsBe bytes self with _ | _ <;> rfl

/-- `to_u32s_be`, `to_u64s_be`, `to_u128s_be` and their little-endian twins return
exactly when the array's length is a whole number of words, and otherwise panic at the
`debug_assert!` of the last chunk. -/
theorem word_reads_return_iff_whole_words {l : Nat} (self : FixedArray UInt8 l) :
    (toU32sBe self).map (fun _ => ()) = (if l % 4 = 0 then .ok ()
        else .error (.assertion "assertion failed: block.len() == 4")) ∧
      (toU32sLe self).map (fun _ => ()) = (if l % 4 = 0 then .ok ()
        else .error (.assertion "assertion failed: block.len() == 4")) ∧
      (toU64sBe self).map (fun _ => ()) = (if l % 8 = 0 then .ok ()
        else .error (.assertion "assertion failed: block.len() == 8")) ∧
      (toU64sLe self).map (fun _ => ()) = (if l % 8 = 0 then .ok ()
        else .error (.assertion "assertion failed: block.len() == 8")) ∧
      (toU128sBe self).map (fun _ => ()) = (if l % 16 = 0 then .ok ()
        else .error (.assertion "assertion failed: block.len() == 16")) ∧
      (toU128sLe self).map (fun _ => ()) = (if l % 16 = 0 then .ok ()
        else .error (.assertion "assertion failed: block.len() == 16")) :=
  ⟨to_words_be_outcome (by decide) self, to_words_le_outcome (by decide) self,
    to_words_be_outcome (by decide) self, to_words_le_outcome (by decide) self,
    to_words_be_outcome (by decide) self, to_words_le_outcome (by decide) self⟩

/-- On every byte array, `to_u32s_le` (and `to_u64s_le`, `to_u128s_le`) reads the words
`to_u32s_be` reads, each with its bytes swapped, and panics where it panics. -/
theorem word_reads_le_swap_be {l : Nat} (self : FixedArray UInt8 l) :
    toU32sLe self = (toU32sBe self).map (List.map swapBytes) ∧
      toU64sLe self = (toU64sBe self).map (List.map swapBytes) ∧
      toU128sLe self = (toU128sBe self).map (List.map swapBytes) :=
  ⟨to_words_le_eq_swap_bytes 4 self, to_words_le_eq_swap_bytes 8 self, to_words_le_eq_swap_bytes 16 self⟩

end Hacspec.Array
