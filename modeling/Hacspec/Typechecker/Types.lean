import Hacspec.Rustspec

/-!
# `is_copy` and `equal_types`

`equal_types` compares two `Typ`s by their borrowings and their base types. Its
recursive calls rebuild a `Typ` with borrowing `Consumed` on both sides, so each of
them is the base-type comparison again; `equalBaseTyps` is that inner `match`, and
`equalTypes` adds the borrowing test around it.

The comparison ignores the spans it rebuilds (those of `Seq` elements, `Tuple`
components and the `Named` argument), but it compares the segments of `Named`
paths with `==` on `Spanned<Ident>`, span included. `eraseSpans` names both
readings: with `segments` it forgets every span, without it only the ones
`equal_types` drops.
-/

namespace Hacspec.Typechecker

open Hacspec.Rustspec

set_option autoImplicit false

mutual
def isCopy : BaseTyp → Bool
  | .unit | .bool | .uInt128 | .int128 | .uInt64 | .int64 | .uInt32 | .int32 | .uInt16
  | .int16 | .uInt8 | .int8 | .usize | .isize => true
  | .seq _ => false
  | .named _ _ => false
  | .tuple ts => isCopyAll ts
termination_by structural t => t
def isCopyAll : List (BaseTyp × Span) → Bool
  | [] => true
  | (t, _) :: ts => isCopy t && isCopyAll ts
termination_by structural ts => ts
end

mutual
def equalBaseTyps : BaseTyp → BaseTyp → Bool
  | .unit, .unit | .bool, .bool | .uInt128, .uInt128 | .int128, .int128 | .uInt64, .uInt64
  | .int64, .int64 | .uInt32, .uInt32 | .int32, .int32 | .uInt16, .uInt16 | .int16, .int16
  | .uInt8, .uInt8 | .int8, .int8 | .usize, .usize | .isize, .isize => true
  | .seq (tc1, _), .seq (tc2, _) => equalBaseTyps tc1 tc2
  | .named p1 a1, .named p2 a2 =>
      p1.length == p2.length && (p1.zip p2).all (fun (i1, i2) => i1 == i2) && equalArgs a1 a2
  | .tuple ts1, .tuple ts2 => ts1.length == ts2.length && equalComponents ts1 ts2
  | _, _ => false
termination_by structural t => t
def equalArgs : Option BaseTyp → Option BaseTyp → Bool
  | none, none => true
  | some tc1, some tc2 => equalBaseTyps tc1 tc2
  | _, _ => false
termination_by structural a => a
def equalComponents : List (BaseTyp × Span) → List (BaseTyp × Span) → Bool
  | (tc1, _) :: ts1, (tc2, _) :: ts2 => equalBaseTyps tc1 tc2 && equalComponents ts1 ts2
  | _, _ => true
termination_by structural ts => ts
end

def equalTypes (t1 t2 : Typ) : Bool :=
  match t1.1.1, t2.1.1 with
  | .consumed, .consumed | .borrowed, .borrowed => equalBaseTyps t1.2.1 t2.2.1
  | _, _ => false

def noSpan : Span := ⟨0, 0⟩

mutual
/-- The base type with the spans of `Seq` elements and `Tuple` components set to
`noSpan`, and those of `Named` path segments too when `segments` holds. -/
def eraseSpans (segments : Bool) : BaseTyp → BaseTyp
  | .seq (t, _) => .seq (eraseSpans segments t, noSpan)
  | .named l a =>
      .named (if segments then l.map fun (i, _) => (i, noSpan) else l) (eraseArg segments a)
  | .tuple ts => .tuple (eraseComponents segments ts)
  | t => t
termination_by structural t => t
def eraseArg (segments : Bool) : Option BaseTyp → Option BaseTyp
  | none => none
  | some t => some (eraseSpans segments t)
termination_by structural a => a
def eraseComponents (segments : Bool) : List (BaseTyp × Span) → List (BaseTyp × Span)
  | [] => []
  | (t, _) :: ts => (eraseSpans segments t, noSpan) :: eraseComponents segments ts
termination_by structural ts => ts
end

theorem erase_spans_of_leaf (segments : Bool) (t : BaseTyp) (leaf : t.ctorTag < 14) :
    eraseSpans segments t = t := by
  cases t <;> first | rfl | simp [BaseTyp.ctorTag] at leaf

theorem ctor_tag_erase_spans (segments : Bool) (t : BaseTyp) :
    (eraseSpans segments t).ctorTag = t.ctorTag := by
  cases t <;> rfl

theorem equal_base_typs_leaf (a b : BaseTyp) (leaf : a.ctorTag < 14) :
    equalBaseTyps a b = a.sameLeaf b := by
  cases a <;> cases b <;> first | rfl | simp [BaseTyp.ctorTag] at leaf

theorem equal_base_typs_iff_of_leaf (a b : BaseTyp) (leaf : a.ctorTag < 14) :
    equalBaseTyps a b = true ↔ eraseSpans false a = eraseSpans false b := by
  rw [equal_base_typs_leaf a b leaf, erase_spans_of_leaf false a leaf]
  constructor
  · intro same
    rw [← BaseTyp.eq_of_same_leaf same, erase_spans_of_leaf false a leaf]
  · intro same
    have bLeaf : b.ctorTag < 14 := by rw [← ctor_tag_erase_spans false b, ← same]; exact leaf
    rw [erase_spans_of_leaf false b bLeaf] at same
    subst same
    simp [BaseTyp.sameLeaf, leaf]

theorem equal_base_typs_iff_of_ctor_tag_ne (a b : BaseTyp) (differ : (a.ctorTag == b.ctorTag) = false) :
    equalBaseTyps a b = true ↔ eraseSpans false a = eraseSpans false b := by
  have tags : a.ctorTag ≠ b.ctorTag := ne_of_beq_false differ
  have unequal : equalBaseTyps a b = false := by
    cases a <;> cases b <;> first | rfl | exact absurd rfl tags
  refine iff_of_false (by rw [unequal]; exact Bool.false_ne_true) fun same => tags ?_
  rw [← ctor_tag_erase_spans false a, same, ctor_tag_erase_spans]

theorem length_eq_and_zip_all_iff {α : Type} [BEq α] [LawfulBEq α] (l1 l2 : List α) :
    (l1.length == l2.length && (l1.zip l2).all (fun (i1, i2) => i1 == i2)) = true ↔ l1 = l2 := by
  induction l1 generalizing l2 with
  | nil => cases l2 <;> simp
  | cons x xs ih =>
      cases l2 with
      | nil => simp
      | cons y ys =>
          have step := ih ys
          simp only [Bool.and_eq_true, beq_iff_eq] at step
          simp only [List.length_cons, List.zip_cons_cons, List.all_cons, Bool.and_eq_true,
            beq_iff_eq, add_left_inj, List.cons.injEq]
          constructor
          · rintro ⟨lengths, heads, tails⟩
            exact ⟨heads, step.1 ⟨lengths, tails⟩⟩
          · rintro ⟨rfl, rfl⟩
            exact ⟨rfl, rfl, (step.2 rfl).2⟩

mutual
theorem equal_base_typs_iff : ∀ (a b : BaseTyp),
    equalBaseTyps a b = true ↔ eraseSpans false a = eraseSpans false b
  | .seq (t, _), b => by
      cases b with
      | seq u =>
          obtain ⟨u, _⟩ := u
          show equalBaseTyps t u = true ↔
            BaseTyp.seq (eraseSpans false t, noSpan) = .seq (eraseSpans false u, noSpan)
          rw [BaseTyp.seq.injEq, Prod.mk.injEq, and_iff_left rfl]
          exact equal_base_typs_iff t u
      | _ => exact equal_base_typs_iff_of_ctor_tag_ne _ _ rfl
  | .named l a, b => by
      cases b with
      | named l' a' =>
          show ((l.length == l'.length && (l.zip l').all fun (i1, i2) => i1 == i2) &&
            equalArgs a a') = true ↔ _
          rw [Bool.and_eq_true, length_eq_and_zip_all_iff, equal_args_iff a a']
          show _ ↔ BaseTyp.named l (eraseArg false a) = .named l' (eraseArg false a')
          rw [BaseTyp.named.injEq]
      | _ => exact equal_base_typs_iff_of_ctor_tag_ne _ _ rfl
  | .tuple ts, b => by
      cases b with
      | tuple us =>
          show (ts.length == us.length && equalComponents ts us) = true ↔
            BaseTyp.tuple (eraseComponents false ts) = .tuple (eraseComponents false us)
          rw [Bool.and_eq_true, beq_iff_eq, BaseTyp.tuple.injEq]
          exact equal_components_iff ts us
      | _ => exact equal_base_typs_iff_of_ctor_tag_ne _ _ rfl
  | .unit, b | .bool, b | .uInt128, b | .int128, b | .uInt64, b | .int64, b | .uInt32, b
  | .int32, b | .uInt16, b | .int16, b | .uInt8, b | .int8, b | .usize, b | .isize, b =>
      equal_base_typs_iff_of_leaf _ b (by decide)
termination_by structural a => a
theorem equal_args_iff : ∀ (a b : Option BaseTyp),
    equalArgs a b = true ↔ eraseArg false a = eraseArg false b
  | none, none => iff_of_true rfl rfl
  | some t, some u => (equal_base_typs_iff t u).trans Option.some_inj.symm
  | none, some _ | some _, none => iff_of_false (fun h => nomatch h) (fun h => nomatch h)
termination_by structural a => a
theorem equal_components_iff : ∀ (ts us : List (BaseTyp × Span)),
    (ts.length = us.length ∧ equalComponents ts us = true) ↔
      eraseComponents false ts = eraseComponents false us
  | [], [] => iff_of_true ⟨rfl, rfl⟩ rfl
  | (t, _) :: ts, (u, _) :: us => by
      show (ts.length + 1 = us.length + 1 ∧ (equalBaseTyps t u && equalComponents ts us) = true) ↔
        (eraseSpans false t, noSpan) :: eraseComponents false ts =
          (eraseSpans false u, noSpan) :: eraseComponents false us
      rw [Bool.and_eq_true, equal_base_typs_iff t u, List.cons.injEq, Prod.mk.injEq,
        ← equal_components_iff ts us, add_left_inj]
      tauto
  | [], _ :: _ | _ :: _, [] => iff_of_false (fun h => nomatch h.1) (fun h => nomatch h)
termination_by structural ts => ts
end

theorem equal_types_iff (t1 t2 : Typ) :
    equalTypes t1 t2 = true ↔ t1.1.1 = t2.1.1 ∧ eraseSpans false t1.2.1 = eraseSpans false t2.2.1 := by
  obtain ⟨⟨b1, _⟩, ⟨a1, _⟩⟩ := t1
  obtain ⟨⟨b2, _⟩, ⟨a2, _⟩⟩ := t2
  cases b1 <;> cases b2
  case consumed.consumed | borrowed.borrowed =>
    exact (equal_base_typs_iff a1 a2).trans (and_iff_right rfl).symm
  all_goals exact iff_of_false (fun h => nomatch h) (fun h => nomatch h.1)

/-- `equal_types` is an equivalence: it is equality after the erasure. -/
theorem equal_types_equivalence : Equivalence fun t1 t2 => equalTypes t1 t2 = true := by
  simp only [equal_types_iff]
  exact ⟨fun _ => ⟨rfl, rfl⟩, fun ⟨b, e⟩ => ⟨b.symm, e.symm⟩,
    fun ⟨b, e⟩ ⟨b', e'⟩ => ⟨b.trans b', e.trans e'⟩⟩

/-- Two paths to `Foo` written at different places are different types for
`equal_types`, though they are equal once every span is erased. -/
theorem named_segments_compared_with_spans :
    let foo1 : Typ := ((.consumed, noSpan), (.named [("Foo", ⟨0, 3⟩)] none, noSpan))
    let foo2 : Typ := ((.consumed, noSpan), (.named [("Foo", ⟨9, 12⟩)] none, noSpan))
    equalTypes foo1 foo2 = false ∧ foo1.1.1 = foo2.1.1 ∧
      eraseSpans true foo1.2.1 = eraseSpans true foo2.2.1 :=
  ⟨by decide, rfl, rfl⟩

end Hacspec.Typechecker
