import Hacspec.Typechecker.Types

/-!
# Contexts, diagnostics and the checking monad

The typechecker threads two `im::HashMap`s: the function context, keyed by
`FnKey`, and the variable context, keyed by identifiers. An `im::HashMap` is a
persistent map, so it is modelled by what it stores under each key; two maps are
equal when they store the same values. `union` keeps the receiver's value on a key
both maps hold.

Every check reports through `sess.span_err` and returns a `TypecheckingResult`.
`Tc` pairs the two: the diagnostics a check reported, oldest first, and its
`Result`. Binding runs the continuation only on `Ok`, which is what `?` does.
-/

namespace Hacspec.Typechecker

open Hacspec.Rustspec

set_option autoImplicit false

/-- An `im::HashMap`, by the value it stores under each key. -/
structure HashMap (K V : Type) where
  get : K → Option V

namespace HashMap

variable {K V : Type}

@[ext] theorem ext {m n : HashMap K V} (same : ∀ k, m.get k = n.get k) : m = n := by
  cases m
  cases n
  exact congrArg _ (funext same)

def new : HashMap K V := ⟨fun _ => none⟩

/-- Keeps the value of `m` on a key both maps hold. -/
def union (m n : HashMap K V) : HashMap K V := ⟨fun k => (m.get k).or (n.get k)⟩

@[simp] theorem get_new (k : K) : (new : HashMap K V).get k = none := rfl

@[simp] theorem get_union (m n : HashMap K V) (k : K) :
    (m.union n).get k = (m.get k).or (n.get k) := rfl

@[simp] theorem new_union (m : HashMap K V) : new.union m = m := rfl

@[simp] theorem union_new (m : HashMap K V) : m.union new = m := ext fun _ => Option.or_none

theorem union_assoc (m n o : HashMap K V) : (m.union n).union o = m.union (n.union o) :=
  ext fun _ => Option.or_assoc

variable [DecidableEq K]

def unit (k : K) (v : V) : HashMap K V := ⟨fun k' => if k' = k then some v else none⟩

def update (m : HashMap K V) (k : K) (v : V) : HashMap K V :=
  ⟨fun k' => if k' = k then some v else m.get k'⟩

def without (m : HashMap K V) (k : K) : HashMap K V :=
  ⟨fun k' => if k' = k then none else m.get k'⟩

@[simp] theorem get_unit (k k' : K) (v : V) :
    (unit k v).get k' = if k' = k then some v else none := rfl

@[simp] theorem get_update (m : HashMap K V) (k k' : K) (v : V) :
    (m.update k v).get k' = if k' = k then some v else m.get k' := rfl

@[simp] theorem get_without (m : HashMap K V) (k k' : K) :
    (m.without k).get k' = if k' = k then none else m.get k' := rfl

theorem update_union (m n : HashMap K V) (k : K) (v : V) :
    (m.update k v).union n = (m.union n).update k v := by
  ext k'
  simp only [get_union, get_update]
  split <;> rfl

end HashMap

inductive FnKey where
  | static (f : Ident)
  | method (t : BaseTyp) (f : Ident)
deriving DecidableEq

abbrev FnContext := HashMap FnKey FuncSig

abbrev VarContext := HashMap Ident Typ

abbrev TypecheckingResult (α : Type) := Except Unit α

/-- The messages of the typechecker's `span_err` calls, each with the values its
`format!` prints. -/
inductive Message where
  /-- "borrowed values are forbidden in Rustspec tuples" -/
  | borrowedInTuple
  /-- "the variable {} is unknown", for a plain identifier -/
  | unknownVariable (id : Ident)
  /-- "the variable {} is unknown", for a path that is not one plain segment -/
  | unknownVariablePath (path : Path)
  /-- "wrong types of binary operators, left is {}{} while right is {}{}" -/
  | binaryOperatorTypes (left right : Borrowing × BaseTyp)
  /-- "cannot index array with a borrowed type" -/
  | borrowedIndex
  /-- "expected an integer to index array but got type {}{}" -/
  | nonIntegerIndex (found : Borrowing × BaseTyp)
  /-- "this expression should be an array or a sequence but instead has type {}{}" -/
  | notASequence (found : Borrowing × BaseTyp)
  /-- "unknown function {}" -/
  | unknownFunction (f : Path)
  /-- "function {} was expecting {} arguments but got {}" -/
  | functionArity (f : Path) (expected got : Nat)
  /-- "expected a borrow here but didn't find one" -/
  | expectedBorrow
  /-- "superflous borrow here, argument is consumed" -/
  | superfluousBorrow
  /-- "expected type {}, got {}" -/
  | expectedType (expected got : BaseTyp)
  /-- "calling foreign functions not supported for now in Rustspec" -/
  | foreignFunction
  /-- "unknown method {}::{}" -/
  | unknownMethod (t : BaseTyp) (f : Ident)
  /-- "method {}::{} was expecting {} arguments but got {}" -/
  | methodArity (t : BaseTyp) (f : Ident) (expected got : Nat)
  /-- "let-binding tuple pattern has {} variables but {} were expected from the type" -/
  | patternArity (patterns components : Nat)
  /-- "let-binding pattern expected a tuple but the type is {}" -/
  | patternNotTuple (found : BaseTyp)
  /-- "wrong type declared for variable: expected {}{}, found {}{}" -/
  | wrongDeclaredType (declared found : Borrowing × BaseTyp)
  /-- "statement shoud have an unit type here" -/
  | statementNotUnit
deriving DecidableEq

/-- The three messages after which the check goes on. -/
def Message.isArityMismatch : Message → Bool
  | functionArity _ _ _ | methodArity _ _ _ _ | patternArity _ _ => true
  | _ => false

structure Diagnostic where
  span : Span
  message : Message
deriving DecidableEq

/-- A check: the diagnostics it reported through `sess.span_err`, oldest first,
and its `TypecheckingResult`. -/
structure Tc (α : Type) where
  diags : List Diagnostic
  result : TypecheckingResult α

namespace Tc

variable {α β : Type}

def bind (x : Tc α) (f : α → Tc β) : Tc β :=
  match x.result with
  | .ok a => ⟨x.diags ++ (f a).diags, (f a).result⟩
  | .error e => ⟨x.diags, .error e⟩

instance : Monad Tc where
  pure a := ⟨[], .ok a⟩
  bind := bind

def spanErr (span : Span) (message : Message) : Tc Unit := ⟨[⟨span, message⟩], .ok ()⟩

def fail : Tc α := ⟨[], .error ()⟩

/-- `match o { None => { sess.span_err(span, message); return Err(()) } Some(v) => v }`. -/
def someOr (o : Option α) (span : Span) (message : Message) : Tc α :=
  match o with
  | none => do
      spanErr span message
      fail
  | some v => pure v

/-- `if failed { sess.span_err(span, message); return Err(()) }`. -/
def failIf (failed : Bool) (span : Span) (message : Message) : Tc Unit :=
  if failed then do
    spanErr span message
    fail
  else pure ()

/-- `if c { sess.span_err(span, message) }`, after which the check goes on. -/
def reportIf (c : Bool) (span : Span) (message : Message) : Tc Unit :=
  if c then spanErr span message else pure ()

def lift (r : TypecheckingResult α) : Tc α := ⟨[], r⟩

def attempt (x : Tc α) : Tc (TypecheckingResult α) := ⟨x.diags, .ok x.result⟩

@[simp] theorem pure_diags (a : α) : (pure a : Tc α).diags = [] := rfl

@[simp] theorem pure_result (a : α) : (pure a : Tc α).result = .ok a := rfl

theorem bind_of_ok {x : Tc α} {f : α → Tc β} {a : α} (ok : x.result = .ok a) :
    x >>= f = ⟨x.diags ++ (f a).diags, (f a).result⟩ := by
  show bind x f = _
  unfold bind
  rw [ok]

theorem bind_of_error {x : Tc α} {f : α → Tc β} (failed : x.result = .error ()) :
    x >>= f = ⟨x.diags, .error ()⟩ := by
  show bind x f = _
  unfold bind
  rw [failed]

theorem result_bind_eq_ok {x : Tc α} {f : α → Tc β} {b : β} :
    (x >>= f).result = .ok b ↔ ∃ a, x.result = .ok a ∧ (f a).result = .ok b := by
  rcases x with ⟨diags, _ | a⟩
  · simp [bind_of_error (x := ⟨diags, .error ()⟩) rfl]
  · simp [bind_of_ok (x := ⟨diags, .ok a⟩) rfl]

theorem diags_bind_of_ok {x : Tc α} {f : α → Tc β} {a : α} (ok : x.result = .ok a) :
    (x >>= f).diags = x.diags ++ (f a).diags := by
  rw [bind_of_ok ok]

@[simp] theorem span_err_diags (span : Span) (message : Message) :
    (spanErr span message).diags = [⟨span, message⟩] := rfl

@[simp] theorem span_err_result (span : Span) (message : Message) :
    (spanErr span message).result = .ok () := rfl

@[simp] theorem fail_diags : (fail : Tc α).diags = [] := rfl

@[simp] theorem fail_result : (fail : Tc α).result = .error () := rfl

@[simp] theorem report_if_result (c : Bool) (span : Span) (message : Message) :
    (reportIf c span message).result = .ok () := by
  cases c <;> rfl

@[simp] theorem lift_diags (r : TypecheckingResult α) : (lift r).diags = [] := rfl

@[simp] theorem lift_result (r : TypecheckingResult α) : (lift r).result = r := rfl

@[simp] theorem pure_bind (a : α) (f : α → Tc β) : pure a >>= f = f a := rfl

@[simp] theorem bind_pure (x : Tc α) : x >>= pure = x := by
  rcases x with ⟨diags, ⟨⟨⟩⟩ | a⟩
  · rfl
  · show (⟨diags ++ [], .ok a⟩ : Tc α) = ⟨diags, .ok a⟩
    rw [List.append_nil]

theorem bind_assoc {γ : Type} (x : Tc α) (f : α → Tc β) (g : β → Tc γ) :
    x >>= f >>= g = x >>= fun a => f a >>= g := by
  rcases x with ⟨diags, ⟨⟨⟩⟩ | a⟩
  · rfl
  · show bind (bind ⟨diags, .ok a⟩ f) g = bind ⟨diags, .ok a⟩ fun a => bind (f a) g
    simp only [bind]
    rcases (f a).result with ⟨⟨⟩⟩ | b <;> simp only [List.append_assoc]

@[simp] theorem lift_error_bind (f : α → Tc β) : lift (.error ()) >>= f = fail := rfl

@[simp] theorem lift_ok_bind (a : α) (f : α → Tc β) : lift (.ok a) >>= f = f a := rfl

@[simp] theorem attempt_diags (x : Tc α) : x.attempt.diags = x.diags := rfl

@[simp] theorem attempt_result (x : Tc α) : x.attempt.result = .ok x.result := rfl

def OkWith (allowed : Message → Bool) (x : Tc α) (a : α) : Prop :=
  x.result = .ok a ∧ ∀ d ∈ x.diags, allowed d.message = true

def Clean (x : Tc α) (a : α) : Prop := x.result = .ok a ∧ x.diags = []

theorem clean_iff_ok_with (x : Tc α) (a : α) : x.Clean a ↔ x.OkWith (fun _ => false) a := by
  simp [Clean, OkWith, List.eq_nil_iff_forall_not_mem]

section OkWith

variable (allowed : Message → Bool)

theorem ok_with_bind_iff {x : Tc α} {f : α → Tc β} {b : β} :
    (x >>= f).OkWith allowed b ↔ ∃ a, x.OkWith allowed a ∧ (f a).OkWith allowed b := by
  rcases x with ⟨diags, ⟨⟨⟩⟩ | a⟩
  · simp [OkWith, bind_of_error (x := ⟨diags, .error ()⟩) rfl]
  · simp only [OkWith, bind_of_ok (x := ⟨diags, .ok a⟩) rfl, List.mem_append, or_imp, forall_and,
      Except.ok.injEq]
    constructor
    · rintro ⟨result, here, there⟩
      exact ⟨a, ⟨rfl, here⟩, result, there⟩
    · rintro ⟨_, ⟨rfl, here⟩, result, there⟩
      exact ⟨result, here, there⟩

@[simp] theorem ok_with_pure_iff (a b : α) : (pure a : Tc α).OkWith allowed b ↔ a = b := by
  simp [OkWith]

@[simp] theorem ok_with_lift_iff (r : TypecheckingResult α) (a : α) :
    (lift r).OkWith allowed a ↔ r = .ok a := by
  simp [OkWith]

@[simp] theorem ok_with_attempt_iff (x : Tc α) (r : TypecheckingResult α) :
    x.attempt.OkWith allowed r ↔ x.result = r ∧ ∀ d ∈ x.diags, allowed d.message = true := by
  simp [OkWith]

@[simp] theorem ok_with_some_or_iff (o : Option α) (span : Span) (message : Message) (a : α) :
    (someOr o span message).OkWith allowed a ↔ o = some a := by
  cases o <;> simp [someOr, OkWith, bind_of_ok (span_err_result _ _)]

@[simp] theorem ok_with_fail_if_iff (failed : Bool) (span : Span) (message : Message) (u : Unit) :
    (failIf failed span message).OkWith allowed u ↔ failed = false := by
  cases failed <;> simp [failIf, OkWith, bind_of_ok (span_err_result _ _)]

@[simp] theorem ok_with_report_if_iff (c : Bool) (span : Span) (message : Message) (u : Unit) :
    (reportIf c span message).OkWith allowed u ↔ (c = true → allowed message = true) := by
  cases c <;> simp [reportIf, OkWith]

theorem not_ok_with_span_err_fail (span : Span) (message : Message) (a : α) :
    ¬ (spanErr span message >>= fun () => (fail : Tc α)).OkWith allowed a := by
  simp [OkWith, bind_of_ok (span_err_result _ _)]

end OkWith

theorem clean_bind_iff {x : Tc α} {f : α → Tc β} {b : β} :
    (x >>= f).Clean b ↔ ∃ a, x.Clean a ∧ (f a).Clean b := by
  simp only [clean_iff_ok_with, ok_with_bind_iff]

@[simp] theorem clean_pure_iff (a b : α) : (pure a : Tc α).Clean b ↔ a = b := by
  simp [clean_iff_ok_with]

theorem not_clean_span_err_fail (span : Span) (message : Message) (a : α) :
    ¬ (spanErr span message >>= fun () => (fail : Tc α)).Clean a := by
  rw [clean_iff_ok_with]
  exact not_ok_with_span_err_fail _ span message a

def AllDiags (P : Diagnostic → Prop) (x : Tc α) : Prop := ∀ d ∈ x.diags, P d

section AllDiags

variable {P : Diagnostic → Prop}

theorem AllDiags.bind {x : Tc α} {f : α → Tc β} (first : x.AllDiags P)
    (next : ∀ a, x.result = .ok a → (f a).AllDiags P) : (x >>= f).AllDiags P := by
  rcases ran : x.result with ⟨⟨⟩⟩ | a
  · rw [bind_of_error ran]
    exact first
  · rw [bind_of_ok ran]
    intro d member
    rcases List.mem_append.mp member with here | there
    · exact first d here
    · exact next a ran d there

theorem AllDiags.imp {Q : Diagnostic → Prop} {x : Tc α} (holds : x.AllDiags P)
    (implies : ∀ d, P d → Q d) : x.AllDiags Q :=
  fun d member => implies d (holds d member)

theorem AllDiags.of_pure (a : α) : (pure a : Tc α).AllDiags P :=
  fun d member => absurd member (List.not_mem_nil d)

theorem AllDiags.of_lift (r : TypecheckingResult α) : (lift r).AllDiags P :=
  fun d member => absurd member (List.not_mem_nil d)

theorem AllDiags.attempt {x : Tc α} (holds : x.AllDiags P) : x.attempt.AllDiags P := holds

theorem AllDiags.span_err_fail {span : Span} {message : Message} (holds : P ⟨span, message⟩) :
    (spanErr span message >>= fun _ => (fail : Tc α)).AllDiags P := by
  rw [bind_of_ok (span_err_result span message)]
  intro d member
  rw [span_err_diags, fail_diags, List.append_nil, List.mem_singleton] at member
  exact member ▸ holds

theorem AllDiags.some_or {span : Span} {message : Message} (holds : P ⟨span, message⟩)
    (o : Option α) : (someOr o span message).AllDiags P := by
  cases o
  · exact AllDiags.span_err_fail holds
  · exact AllDiags.of_pure _

theorem AllDiags.fail_if {span : Span} {message : Message} (holds : P ⟨span, message⟩)
    (c : Bool) : (failIf c span message).AllDiags P := by
  cases c
  · exact AllDiags.of_pure _
  · exact AllDiags.span_err_fail holds

theorem AllDiags.report_if {span : Span} {message : Message} (holds : P ⟨span, message⟩)
    (c : Bool) : (reportIf c span message).AllDiags P := by
  cases c
  · exact AllDiags.of_pure _
  · exact fun d member => (List.mem_singleton.mp member) ▸ holds

end AllDiags

end Tc

/-- `check_vec`: `Ok` of the values when every entry is `Ok`, else `Err(())`. -/
def checkVec {α : Type} : List (TypecheckingResult α) → TypecheckingResult (List α)
  | [] => .ok []
  | .ok a :: v => (checkVec v).map (a :: ·)
  | .error e :: _ => .error e

end Hacspec.Typechecker
