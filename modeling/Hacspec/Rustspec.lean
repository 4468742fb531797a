import Mathlib.Data.Finset.Basic

/-!
# The rustspec syntax the typechecker reads

`typechecker.rs` takes its syntax from `crate::rustspec`, which is not among the
sources. The types below are the shapes the typechecker takes apart: `Spanned<T>`
is a pair with its `Span`, a `Typ` is a spanned borrowing with a spanned base type,
and boxes are dropped. Fields the typechecker never reads (operator kinds, literal
values, the generic arguments of a method call) are left out.

`BaseTyp` nests through pairs, lists and options, which `deriving DecidableEq`
does not handle on this toolchain, so its equality test is written out here and
proved lawful. It is the derived `PartialEq` of the source, spans included.
-/

namespace Hacspec.Rustspec

set_option autoImplicit false

/-- `rustc_span::Span`, compared by its byte range. -/
structure Span where
  lo : Nat
  hi : Nat
deriving DecidableEq, Repr

abbrev Spanned (α : Type) := α × Span

abbrev Ident := String

inductive Borrowing where
  | consumed
  | borrowed
deriving DecidableEq, Repr

/-- The base types; `named` carries the two fields of the source's `Path`: its
spanned segments and its optional type argument. -/
inductive BaseTyp where
  | unit
  | bool
  | uInt128
  | int128
  | uInt64
  | int64
  | uInt32
  | int32
  | uInt16
  | int16
  | uInt8
  | int8
  | usize
  | isize
  | seq (elem : BaseTyp × Span)
  | named (location : List (Ident × Span)) (arg : Option BaseTyp)
  | tuple (components : List (BaseTyp × Span))
deriving Repr

abbrev Typ := Spanned Borrowing × Spanned BaseTyp

namespace BaseTyp

/-- The position of the constructor; the first fourteen have no fields. -/
def ctorTag : BaseTyp → Nat
  | unit => 0 | bool => 1 | uInt128 => 2 | int128 => 3 | uInt64 => 4 | int64 => 5
  | uInt32 => 6 | int32 => 7 | uInt16 => 8 | int16 => 9 | uInt8 => 10 | int8 => 11
  | usize => 12 | isize => 13 | seq _ => 14 | named _ _ => 15 | tuple _ => 16

def leafOfTag : Nat → BaseTyp
  | 0 => unit | 1 => bool | 2 => uInt128 | 3 => int128 | 4 => uInt64 | 5 => int64
  | 6 => uInt32 | 7 => int32 | 8 => uInt16 | 9 => int16 | 10 => uInt8 | 11 => int8
  | 12 => usize | _ => isize

theorem leaf_of_tag_ctor_tag (t : BaseTyp) (leaf : t.ctorTag < 14) : leafOfTag t.ctorTag = t := by
  cases t <;> first | rfl | simp [ctorTag] at leaf

def sameLeaf (a b : BaseTyp) : Bool := a.ctorTag < 14 && a.ctorTag == b.ctorTag

theorem eq_of_same_leaf {a b : BaseTyp} (same : a.sameLeaf b = true) : a = b := by
  simp only [sameLeaf, Bool.and_eq_true, decide_eq_true_eq, beq_iff_eq] at same
  rw [← leaf_of_tag_ctor_tag a same.1, ← leaf_of_tag_ctor_tag b (same.2 ▸ same.1), same.2]

mutual
def beq : BaseTyp → BaseTyp → Bool
  | seq t, seq u => spannedBeq t u
  | named l o, named l' o' => l == l' && optionBeq o o'
  | tuple ts, tuple us => listBeq ts us
  | a, b => a.sameLeaf b
termination_by structural a => a
def spannedBeq : BaseTyp × Span → BaseTyp × Span → Bool
  | (t, s), (u, s') => beq t u && s == s'
termination_by structural a => a
def optionBeq : Option BaseTyp → Option BaseTyp → Bool
  | none, none => true
  | some t, some u => beq t u
  | _, _ => false
termination_by structural a => a
def listBeq : List (BaseTyp × Span) → List (BaseTyp × Span) → Bool
  | [], [] => true
  | t :: ts, u :: us => spannedBeq t u && listBeq ts us
  | _, _ => false
termination_by structural a => a
end

mutual
theorem eq_of_beq : ∀ (a b : BaseTyp), beq a b = true → a = b
  | seq t, b, same => by
      cases b <;> first | cases same | exact congrArg _ (eq_of_spanned_beq t _ same)
  | named l o, b, same => by
      cases b <;> first | cases same | skip
      rename_i l' o'
      have fields : (l == l' && optionBeq o o') = true := same
      simp only [Bool.and_eq_true, beq_iff_eq] at fields
      rw [fields.1, eq_of_option_beq o _ fields.2]
  | tuple ts, b, same => by
      cases b <;> first | cases same | exact congrArg _ (eq_of_list_beq ts _ same)
  | unit, _, same | bool, _, same | uInt128, _, same | int128, _, same | uInt64, _, same
  | int64, _, same | uInt32, _, same | int32, _, same | uInt16, _, same | int16, _, same
  | uInt8, _, same | int8, _, same | usize, _, same | isize, _, same => eq_of_same_leaf same
termination_by structural a => a
theorem eq_of_spanned_beq : ∀ (a b : BaseTyp × Span), spannedBeq a b = true → a = b
  | (t, s), (u, s'), same => by
      have fields : (beq t u && s == s') = true := same
      simp only [Bool.and_eq_true, beq_iff_eq] at fields
      rw [eq_of_beq t u fields.1, fields.2]
termination_by structural a => a
theorem eq_of_option_beq : ∀ (a b : Option BaseTyp), optionBeq a b = true → a = b
  | none, none, _ => rfl
  | some t, some u, same => congrArg _ (eq_of_beq t u same)
  | none, some _, same | some _, none, same => nomatch same
termination_by structural a => a
theorem eq_of_list_beq : ∀ (a b : List (BaseTyp × Span)), listBeq a b = true → a = b
  | [], [], _ => rfl
  | t :: ts, u :: us, same => by
      have fields : (spannedBeq t u && listBeq ts us) = true := same
      simp only [Bool.and_eq_true] at fields
      rw [eq_of_spanned_beq t u fields.1, eq_of_list_beq ts us fields.2]
  | [], _ :: _, same | _ :: _, [], same => nomatch same
termination_by structural a => a
end

mutual
theorem beq_self : ∀ (a : BaseTyp), beq a a = true
  | seq t => spanned_beq_self t
  | named l o => by
      show (l == l && optionBeq o o) = true
      simp [option_beq_self o]
  | tuple ts => list_beq_self ts
  | unit | bool | uInt128 | int128 | uInt64 | int64 | uInt32 | int32 | uInt16 | int16
  | uInt8 | int8 | usize | isize => rfl
termination_by structural a => a
theorem spanned_beq_self : ∀ (a : BaseTyp × Span), spannedBeq a a = true
  | (t, s) => by
      show (beq t t && s == s) = true
      simp [beq_self t]
termination_by structural a => a
theorem option_beq_self : ∀ (a : Option BaseTyp), optionBeq a a = true
  | none => rfl
  | some t => beq_self t
termination_by structural a => a
theorem list_beq_self : ∀ (a : List (BaseTyp × Span)), listBeq a a = true
  | [] => rfl
  | t :: ts => by
      show (spannedBeq t t && listBeq ts ts) = true
      simp [spanned_beq_self t, list_beq_self ts]
termination_by structural a => a
end

instance : DecidableEq BaseTyp := fun a b =>
  decidable_of_iff (beq a b) ⟨eq_of_beq a b, fun same => same ▸ beq_self a⟩

example : seq (unit, ⟨0, 1⟩) ≠ seq (unit, ⟨0, 2⟩) := by decide

end BaseTyp

/-- The source's `Path`: spanned segments and an optional type argument. -/
structure Path where
  location : List (Spanned Ident)
  arg : Option BaseTyp
deriving DecidableEq

inductive Literal where
  | bool
  | int128
  | uInt128
  | int64
  | uInt64
  | int32
  | uInt32
  | int16
  | uInt16
  | int8
  | uInt8
  | usize
  | isize
deriving DecidableEq, Repr

/-- Expressions; every child is a `Spanned<Expression>`. -/
inductive Expression where
  | tuple (args : List (Expression × Span))
  | named (path : Path)
  | binary (e1 e2 : Expression × Span)
  | unary (e1 : Expression × Span)
  | lit (lit : Literal)
  | arrayIndex (e1 e2 : Expression × Span)
  | funcCall (f : Spanned Path) (args : List (Expression × Span))
  | methodCall (sel : Expression × Span) (f : Spanned Ident) (args : List (Expression × Span))

inductive Pattern where
  | tuple (args : List (Pattern × Span))
  | wildCard
  | identPat (x : Ident)

/-- Statements; the let binding is the only kind the typechecker handles. -/
inductive Statement where
  | letBinding (pat : Spanned Pattern) (typ : Option (Spanned Typ)) (expr : Spanned Expression)

abbrev VarSet := Finset Ident

structure Block where
  stmts : List (Spanned Statement)
  mutatedVars : Option VarSet
  returnTyp : Option Typ

structure FuncSig where
  args : List (Spanned Ident × Spanned Typ)
  ret : Spanned BaseTyp

inductive Item where
  | fnDecl (f : Spanned Ident) (sig : FuncSig) (body : Spanned Block)
  | use (path : Path)

abbrev Program := List (Spanned Item)

end Hacspec.Rustspec
