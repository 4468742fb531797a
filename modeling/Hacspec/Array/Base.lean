import Mathlib.Data.List.Basic

/-!
# Fixed-length arrays

`_array_base!($name, $l, $t)` makes `pub struct $name(pub [$t; $l])`; a value of such a
type is a `FixedArray α l`, by the list of its `l` elements. The sequences the methods
take (`A: SeqTrait<$t>`, `Seq<$t>`, `Vec<$t>`) are lists, in the order of their
`iter()`, and `<$t>::default()` is `default`.

The model is of a debug build: a failed `debug_assert!`, an index past the end and a
`usize` subtraction below zero panic, and a function that panics returns the `Panic`.
`usize` arithmetic is otherwise unbounded.

The write loops of the library are all
`for (i, b) in bs.iter().enumerate() { self[start + i] = *b; }` for some `bs`: when `bs`
fits from `start` the loop does not panic and writes `bs` over the array from `start`
(`write_enumerated_eq`). `update`, `update_sub`, `from_seq`, `from_vec`, `copy_pad` and
`copy` run it after their assertions; `from_sub_pad` runs it over the part of its range
that lies inside the input (`from_sub_pad_eq`). `from_slice` alone copies by index, and
writes the same array as `copy_pad`.
-/

namespace Hacspec.Array

set_option autoImplicit false

/-- A Rust panic, by the message it prints. -/
inductive Panic where
  /-- A failed `debug_assert!`, with its message. -/
  | assertion (message : String)
  /-- `index out of bounds: the len is {len} but the index is {index}`. -/
  | indexOutOfBounds (len index : Nat)
  /-- `attempt to subtract with overflow`, in `usize`. -/
  | subtractOverflow
  /-- A `str` slice that ends past the end of the string, at byte `index`. -/
  | sliceOutOfBounds (index : Nat)
  /-- A `str` slice that starts or ends inside a character, at byte `index`. -/
  | notCharBoundary (index : Nat)
  /-- `begin <= end ({start} <= {stop})` failing for a `str` slice. -/
  | sliceBeginAfterEnd (start stop : Nat)
  /-- `source slice length ({src}) does not match destination slice length ({dst})`. -/
  | copyFromSlice (src dst : Nat)
  /-- `Result::expect(message)` on an `Err`. -/
  | expect (message : String)
deriving DecidableEq, Repr

/-- `debug_assert!`, failing with `message`. -/
def debugAssert (cond : Bool) (message : String) : Except Panic Unit :=
  if cond then .ok () else .error (.assertion message)

def usizeSub (a b : Nat) : Except Panic Nat :=
  if b ≤ a then .ok (a - b) else .error .subtractOverflow

def index {α : Type} (v : List α) (i : Nat) : Except Panic α :=
  match v[i]? with
  | some x => .ok x
  | none => .error (.indexOutOfBounds v.length i)

@[simp] theorem ok_bind {ε α β : Type} (a : α) (f : α → Except ε β) :
    (Except.ok a : Except ε α) >>= f = f a := rfl

theorem bind_eq_ok {ε α β : Type} {x : Except ε α} {f : α → Except ε β} {b : β} :
    x >>= f = .ok b ↔ ∃ a, x = .ok a ∧ f a = .ok b := by
  cases x <;> simp [bind, Except.bind]

@[simp] theorem debug_assert_true (message : String) : debugAssert true message = .ok () := rfl

@[simp] theorem usize_sub_of_le {a b : Nat} (le : b ≤ a) : usizeSub a b = .ok (a - b) :=
  if_pos le

theorem index_of_lt {α : Type} {v : List α} {i : Nat} (lt : i < v.length) :
    index v i = .ok v[i] := by
  rw [index, List.getElem?_eq_getElem lt]

structure Range where
  start : Nat
  «end» : Nat

/-- A value of `$name`, made by `_array_base!($name, $l, $t)`: the `$l` elements of
`self.0`. -/
structure FixedArray (α : Type) (l : Nat) where
  toList : List α
  length_toList : toList.length = l

namespace FixedArray

variable {α : Type} {l : Nat}

@[ext] theorem ext {a b : FixedArray α l} (same : a.toList = b.toList) : a = b := by
  cases a
  cases b
  cases same
  rfl

def new [Inhabited α] : FixedArray α l := ⟨List.replicate l default, List.length_replicate _ _⟩

def set (a : FixedArray α l) (i : Nat) (x : α) : Except Panic (FixedArray α l) :=
  if i < l then .ok ⟨a.toList.set i x, by rw [List.length_set, a.length_toList]⟩
  else .error (.indexOutOfBounds l i)

/-- `for (i, b) in bs.iter().enumerate() { self[start + i] = *b; }`. -/
def writeEnumerated (a : FixedArray α l) (start : Nat) (bs : List α) : Except Panic (FixedArray α l) :=
  bs.enum.foldlM (fun a (i, b) => a.set (start + i) b) a

def update (self : FixedArray α l) (start : Nat) (v : List α) : Except Panic (FixedArray α l) := do
  debugAssert (decide (l ≥ start + v.length)) "assertion failed: self.len() >= start + v.len()"
  writeEnumerated self start v

def updateSub (self : FixedArray α l) (startOut : Nat) (v : List α) (startIn len : Nat) :
    Except Panic (FixedArray α l) := do
  debugAssert (decide (l ≥ startOut + len)) "assertion failed: self.len() >= start_out + len"
  debugAssert (decide (v.length ≥ startIn + len)) "assertion failed: v.len() >= start_in + len"
  writeEnumerated self startOut ((v.drop startIn).take len)

/-- `from_sub_pad`: the loop over `r.clone().zip(input.iter().skip(r.start).take(r.end -
r.start))`, writing `a[i - r.start] = *v`. The subtraction in `take` is made before
the loop starts. -/
def fromSubPad [Inhabited α] (input : List α) (r : Range) : Except Panic (FixedArray α l) := do
  let width ← usizeSub r.«end» r.start
  ((List.range' r.start width).zip ((input.drop r.start).take width)).foldlM
    (fun a (i, v) => do
      let k ← usizeSub i r.start
      a.set k v) new

def fromSub [Inhabited α] (input : List α) (r : Range) : Except Panic (FixedArray α l) := do
  let width ← usizeSub r.«end» r.start
  debugAssert (l == width) "sub range is not the length of the output type "
  fromSubPad input r

/-- `from_seq`: `tmp = [<$t>::default(); $l]`, then `tmp[i] = *e` for each `(i, e)`. -/
def fromSeq [Inhabited α] (x : List α) : Except Panic (FixedArray α l) := do
  debugAssert (decide (x.length ≤ l)) ("assertion failed: x.len() <= " ++ toString l)
  writeEnumerated new 0 x

/-- The body `from_vec`, `copy_pad` and `copy` share with `from_seq`: `debug_assert!` of
`check`, then `tmp[i] = *e` for each `(i, e)` of `x` into `[<$t>::default(); $l]`. -/
def copyWith [Inhabited α] (check : Bool) (message : String) (x : List α) :
    Except Panic (FixedArray α l) := do
  debugAssert check message
  writeEnumerated new 0 x

def fromVec [Inhabited α] (x : List α) : Except Panic (FixedArray α l) :=
  copyWith (decide (x.length ≤ l)) ("assertion failed: x.len() <= " ++ toString l) x

def copyPad [Inhabited α] (v : List α) : Except Panic (FixedArray α l) :=
  copyWith (decide (v.length ≤ l)) ("assertion failed: v.len() <= " ++ toString l) v

/-- `copy`: the only member that asks for the length `$l` exactly. -/
def copy [Inhabited α] (v : List α) : Except Panic (FixedArray α l) :=
  copyWith (v.length == l) ("assertion failed: v.len() == " ++ toString l) v

/-- `from_slice`, which copies by index: `tmp[i] = v[i]` for `i` in `0..v.len()`. -/
def fromSlice [Inhabited α] (v : List α) : Except Panic (FixedArray α l) := do
  debugAssert (decide (v.length ≤ l)) ("assertion failed: v.len() <= " ++ toString l)
  (List.range v.length).foldlM
    (fun tmp i => do
      let x ← index v i
      tmp.set i x)
    new

def write (a : FixedArray α l) (start : Nat) (bs : List α) (fits : start + bs.length ≤ l) :
    FixedArray α l :=
  ⟨a.toList.take start ++ bs ++ a.toList.drop (start + bs.length), by
    simp only [List.length_append, List.length_take, List.length_drop, a.length_toList]
    omega⟩

theorem write_nil (a : FixedArray α l) (start : Nat) (fits : start + [].length ≤ l) :
    a.write start [] fits = a := by
  ext1
  simp [write]

theorem getElem?_write (a : FixedArray α l) (start : Nat) (bs : List α) (fits : start + bs.length ≤ l)
    (j : Nat) :
    (a.write start bs fits).toList[j]? =
      if start ≤ j ∧ j < start + bs.length then bs[j - start]? else a.toList[j]? := by
  have length := a.length_toList
  simp only [write, List.append_assoc]
  by_cases before : j < start
  · rw [List.getElem?_append_left (by simp; omega), List.getElem?_take, if_pos before,
      if_neg (by omega)]
  · rw [List.getElem?_append_right (by simp; omega), List.length_take, Nat.min_eq_left (by omega)]
    by_cases inside : j < start + bs.length
    · rw [List.getElem?_append_left (by omega), if_pos ⟨by omega, inside⟩]
    · rw [List.getElem?_append_right (by omega), List.getElem?_drop, if_neg (by omega)]
      congr 1
      omega

theorem write_write (a : FixedArray α l) (start : Nat) (bs cs : List α)
    (fits : start + bs.length ≤ l) (fits' : start + bs.length + cs.length ≤ l)
    (fitsBoth : start + (bs ++ cs).length ≤ l) :
    (a.write start bs fits).write (start + bs.length) cs fits' = a.write start (bs ++ cs) fitsBoth := by
  ext1
  apply List.ext_getElem?
  intro j
  rw [getElem?_write, getElem?_write, getElem?_write, List.length_append]
  by_cases first : j < start + bs.length
  · rw [if_neg (by omega)]
    by_cases before : start ≤ j
    · rw [if_pos ⟨before, first⟩, if_pos ⟨before, by omega⟩,
        List.getElem?_append_left (by omega)]
    · rw [if_neg (by omega), if_neg (by omega)]
  · by_cases second : j < start + bs.length + cs.length
    · rw [if_pos ⟨by omega, second⟩, if_pos ⟨by omega, by omega⟩,
        List.getElem?_append_right (by omega), Nat.sub_sub]
    · rw [if_neg (by omega), if_neg (by omega), if_neg (by omega)]

theorem write_zero_of_length (a : FixedArray α l) (bs : List α) (length : bs.length = l)
    (fits : 0 + bs.length ≤ l) : a.write 0 bs fits = ⟨bs, length⟩ := by
  ext1
  simp [write, length, a.length_toList]

theorem set_eq_write (a : FixedArray α l) (i : Nat) (x : α) (lt : i < l) :
    a.set i x = .ok (a.write i [x] lt) := by
  have length := a.length_toList
  rw [set, if_pos lt]
  congr 1
  ext1
  simp only [write, List.set_eq_take_append_cons_drop, length, lt, if_true, List.length_singleton,
    List.append_assoc, List.singleton_append]

/-- A loop whose step on its `k`-th item is `self[start + k] = bs[k]` writes `bs` from
`start`, when `bs` fits. -/
theorem foldlM_write {β : Type} (step : FixedArray α l → β → Except Panic (FixedArray α l))
    (items : List β) :
    ∀ (bs : List α) (same : items.length = bs.length) (a : FixedArray α l) (start : Nat)
      (fits : start + bs.length ≤ l),
      (∀ (a : FixedArray α l) (k : Nat) (lt : k < items.length),
        step a items[k] = a.set (start + k) bs[k]) →
      items.foldlM step a = .ok (a.write start bs fits) := by
  induction items with
  | nil =>
      intro bs same a start fits _
      cases bs with
      | nil => exact congrArg _ (a.write_nil start fits).symm
      | cons => cases same
  | cons item items ih =>
      intro bs same a start fits stepAt
      cases bs with
      | nil => cases same
      | cons b bs =>
          have fitsHere : start + [b].length ≤ l := by simp at fits ⊢; omega
          have fitsRest : start + [b].length + bs.length ≤ l := by simp at fits ⊢; omega
          have here : step a item = .ok (a.write start [b] fitsHere) := by
            simpa [set_eq_write a start b (by simp at fits; omega)] using stepAt a 0 (by simp)
          rw [List.foldlM_cons, here]
          show List.foldlM _ (a.write start [b] _) _ = _
          rw [ih bs (by simpa using same) _ (start + [b].length) fitsRest (fun a k lt => by
              simpa [Nat.add_assoc, Nat.add_comm 1 k] using stepAt a (k + 1) (by simp; omega)),
            write_write _ _ _ _ fitsHere fitsRest fits]
          rfl

theorem write_enumerated_eq (a : FixedArray α l) (start : Nat) (bs : List α)
    (fits : start + bs.length ≤ l) : a.writeEnumerated start bs = .ok (a.write start bs fits) :=
  foldlM_write _ bs.enum bs (List.enum_length) a start fits fun _ _ _ => by simp

theorem update_eq (self : FixedArray α l) (start : Nat) (v : List α) (fits : start + v.length ≤ l) :
    self.update start v = .ok (self.write start v fits) := by
  rw [update, debugAssert, if_pos (decide_eq_true fits)]
  exact write_enumerated_eq self start v fits

theorem update_sub_eq (self : FixedArray α l) (startOut : Nat) (v : List α) (startIn len : Nat)
    (fitsOut : startOut + len ≤ l) (fitsIn : startIn + len ≤ v.length)
    (fits : startOut + ((v.drop startIn).take len).length ≤ l) :
    self.updateSub startOut v startIn len =
      .ok (self.write startOut ((v.drop startIn).take len) fits) := by
  rw [updateSub, debugAssert, if_pos (decide_eq_true fitsOut)]
  show (debugAssert _ _ >>= fun _ => _) = _
  rw [debugAssert, if_pos (decide_eq_true fitsIn)]
  exact write_enumerated_eq self startOut _ fits

theorem from_seq_eq [Inhabited α] (x : List α) (length : x.length = l) :
    (fromSeq x : Except Panic (FixedArray α l)) = .ok ⟨x, length⟩ := by
  rw [fromSeq, debugAssert, if_pos (decide_eq_true (Nat.le_of_eq length))]
  show writeEnumerated _ _ _ = _
  rw [write_enumerated_eq new 0 x (by omega), write_zero_of_length _ _ length]

theorem from_seq_eq_copy_with [Inhabited α] (x : List α) :
    (fromSeq x : Except Panic (FixedArray α l)) =
      copyWith (decide (x.length ≤ l)) ("assertion failed: x.len() <= " ++ toString l) x := rfl

/-- Every member of the family: the failed assertion, or `x` padded with defaults. -/
theorem copy_with_pads_with_defaults [Inhabited α] (check : Bool) (message : String) (x : List α)
    (fits : check = true → x.length ≤ l) :
    (copyWith check message x : Except Panic (FixedArray α l)) =
      if passed : check = true then
        .ok ⟨x ++ List.replicate (l - x.length) default, by have := fits passed; simp; omega⟩
      else .error (.assertion message) := by
  cases check with
  | false => rfl
  | true =>
      have fits := fits rfl
      rw [copyWith, debug_assert_true, ok_bind, write_enumerated_eq new 0 x (by omega), dif_pos rfl]
      congr 1
      ext1
      simp [write, new]

theorem copy_with_pads_with_defaults_witness :
    (decide ([7, 8].length ≤ 3) = true → [7, 8].length ≤ 3) ∧
      (copyWith (decide ([7, 8].length ≤ 3)) "assertion failed: v.len() <= 3" [7, 8] :
          Except Panic (FixedArray Nat 3)) =
        if _ : decide ([7, 8].length ≤ 3) = true then
          .ok ⟨[7, 8] ++ List.replicate (3 - [7, 8].length) default, by decide⟩
        else .error (.assertion "assertion failed: v.len() <= 3") :=
  ⟨fun _ => by decide, copy_with_pads_with_defaults _ _ [7, 8] fun _ => by decide⟩

/-- `from_slice` copies by index and `copy_pad` by enumeration: the same array, or the same
failed assertion, on every input. -/
theorem from_slice_eq_copy_pad [Inhabited α] (v : List α) :
    (fromSlice v : Except Panic (FixedArray α l)) = copyPad v := by
  by_cases fits : v.length ≤ l
  · have loop := foldlM_write (fun tmp i => do let x ← index v i; tmp.set i x)
      (List.range v.length) v (List.length_range _) (new : FixedArray α l) 0 (by omega)
      fun tmp k lt => by
        dsimp only
        rw [List.getElem_range, index_of_lt (by simpa using lt), ok_bind, Nat.zero_add]
    rw [fromSlice, copyPad, copyWith, debugAssert, if_pos (decide_eq_true fits), ok_bind, ok_bind,
      loop, write_enumerated_eq new 0 v (by omega)]
  · rw [fromSlice, copyPad, copyWith, debugAssert, if_neg (by simpa using fits)]
    rfl

theorem zip_range'_of_length_le (ys : List α) :
    ∀ (s w : Nat), ys.length ≤ w → (List.range' s w).zip ys = ys.enumFrom s := by
  induction ys with
  | nil => intro s w _; simp
  | cons y ys ih =>
      intro s w le
      obtain ⟨w, rfl⟩ : ∃ w', w = w' + 1 := ⟨w - 1, by simp at le; omega⟩
      rw [List.range'_succ, List.zip_cons_cons, ih (s + 1) w (by simp at le; omega)]
      rfl

theorem from_sub_pad_eq [Inhabited α] (input : List α) (r : Range) (ordered : r.start ≤ r.«end»)
    (fits : 0 + ((input.drop r.start).take (r.«end» - r.start)).length ≤ l) :
    (fromSubPad input r : Except Panic (FixedArray α l)) =
      .ok (new.write 0 ((input.drop r.start).take (r.«end» - r.start)) fits) := by
  rw [fromSubPad, usize_sub_of_le ordered]
  show List.foldlM _ _ _ = _
  rw [zip_range'_of_length_le _ _ _ (List.length_take_le _ _)]
  exact foldlM_write _ _ _ (List.enumFrom_length) new 0 fits fun _ k _ => by
    simp only [List.get_eq_getElem, List.getElem_enumFrom, usize_sub_of_le (Nat.le_add_right r.start k),
      Nat.add_sub_cancel_left, Nat.zero_add]
    rfl

/-- `update_sub` within its assertions writes in bounds, sets the window from `v` and
keeps every other element; `update` is `update_sub` of the whole sequence. -/
theorem update_sub_writes_window (a : FixedArray α l) :
    (∀ (startOut : Nat) (v : List α) (startIn len : Nat),
      startOut + len ≤ l → startIn + len ≤ v.length →
        ∃ a', a.updateSub startOut v startIn len = .ok a' ∧
          ∀ j, a'.toList[j]? =
            if startOut ≤ j ∧ j < startOut + len then v[startIn + j - startOut]? else a.toList[j]?) ∧
      ∀ (start : Nat) (v : List α), start + v.length ≤ l →
        a.update start v = a.updateSub start v 0 v.length := by
  refine ⟨fun startOut v startIn len fitsOut fitsIn => ?_, fun start v fits => ?_⟩
  · have window : ((v.drop startIn).take len).length = len := by simp; omega
    refine ⟨_, update_sub_eq a startOut v startIn len fitsOut fitsIn (by omega), fun j => ?_⟩
    rw [getElem?_write, window]
    split
    · rw [List.getElem?_take, if_pos (by omega), List.getElem?_drop]
      congr 1
      omega
    · rfl
  · rw [update_eq a start v fits, update_sub_eq a start v 0 v.length fits (by simp) (by simpa using fits)]
    simp only [List.drop_zero, List.take_length]

theorem update_sub_writes_window_witness :
    (∃ a', (⟨[5, 6, 7, 8], rfl⟩ : FixedArray Nat 4).updateSub 1 [1, 2, 3] 1 2 = .ok a' ∧
      ∀ j, a'.toList[j]? = if 1 ≤ j ∧ j < 1 + 2 then [1, 2, 3][1 + j - 1]? else [5, 6, 7, 8][j]?) ∧
    (⟨[5, 6, 7, 8], rfl⟩ : FixedArray Nat 4).update 1 [1, 2] =
      (⟨[5, 6, 7, 8], rfl⟩ : FixedArray Nat 4).updateSub 1 [1, 2] 0 [1, 2].length :=
  ⟨(update_sub_writes_window _).1 1 [1, 2, 3] 1 2 (by decide) (by decide),
    (update_sub_writes_window _).2 1 [1, 2] (by decide)⟩

/-- `from_sub_pad` on a range of width at most `l` writes in bounds: element `k` is
`input[r.start + k]` inside the range and the input, and the default elsewhere. With a
range of width `l`, `from_sub` returns the same. -/
theorem from_sub_pad_pads [Inhabited α] (input : List α) (r : Range) (ordered : r.start ≤ r.«end»)
    (fits : r.«end» - r.start ≤ l) :
    (∃ a : FixedArray α l, fromSubPad input r = .ok a ∧
      ∀ k < l, a.toList[k]? =
        some (if k < r.«end» - r.start then input.getD (r.start + k) default else default)) ∧
      (r.«end» - r.start = l → (fromSub input r : Except Panic (FixedArray α l)) = fromSubPad input r) := by
  refine ⟨⟨_, from_sub_pad_eq input r ordered (by simp; omega), fun k lt => ?_⟩, fun width => ?_⟩
  · rw [getElem?_write, List.length_take, List.length_drop, Nat.sub_zero, Nat.zero_add]
    by_cases inside : k < r.«end» - r.start ∧ r.start + k < input.length
    · rw [if_pos ⟨Nat.zero_le _, by omega⟩, if_pos inside.1, List.getElem?_take, if_pos inside.1,
        List.getElem?_drop, List.getD_eq_getElem?_getD, List.getElem?_eq_getElem inside.2,
        Option.getD_some]
    · have past : ¬ (0 ≤ k ∧ k < min (r.«end» - r.start) (input.length - r.start)) := by omega
      rw [if_neg past, new, List.getElem?_replicate, if_pos lt]
      split
      · rw [List.getD_eq_getElem?_getD, List.getElem?_eq_none (by omega), Option.getD_none]
      · rfl
  · rw [fromSub, usize_sub_of_le ordered]
    show (debugAssert _ _ >>= fun _ => _) = _
    rw [width, beq_self_eq_true, debug_assert_true]
    rfl

theorem from_sub_pad_pads_witness :
    (∃ a : FixedArray Nat 3, fromSubPad [7, 8, 9] ⟨1, 3⟩ = .ok a ∧
      ∀ k < 3, a.toList[k]? = some (if k < 3 - 1 then [7, 8, 9].getD (1 + k) default else default)) :=
  (from_sub_pad_pads [7, 8, 9] ⟨1, 3⟩ (by decide) (by decide)).1

end FixedArray

end Hacspec.Array
