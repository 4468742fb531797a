import Hacspec.Typechecker.Linearity

/-!
# The check reads only the names the expression reads

`typecheck_expression` looks the variable context up only at the plain names the
expression reads (`vars`), and changes it only by `without` at such a name. So two
runs from contexts that agree on those names go in lockstep (`Tc.Lockstep`): they
report the same diagnostics, and either both fail, or both return the same value
having removed the same names from their contexts.

Every form of the checker is taken in turn; where both runs make the same call on the
same value (a signature lookup, an arity report, a failed test) they stay together by
`Tc.Lockstep.bind_same`.
-/

namespace Hacspec.Typechecker

open Hacspec.Rustspec

set_option autoImplicit false

namespace HashMap

variable {K V : Type} [DecidableEq K]

def withoutAll (m : HashMap K V) (ks : List K) : HashMap K V :=
  ⟨fun k => if k ∈ ks then none else m.get k⟩

@[simp] theorem get_without_all (m : HashMap K V) (ks : List K) (k : K) :
    (m.withoutAll ks).get k = if k ∈ ks then none else m.get k := rfl

theorem without_all_nil (m : HashMap K V) : m.withoutAll [] = m := by
  ext k
  simp

theorem without_all_without_all (m : HashMap K V) (ks ks' : List K) :
    (m.withoutAll ks).withoutAll ks' = m.withoutAll (ks ++ ks') := by
  ext k
  by_cases first : k ∈ ks <;> by_cases second : k ∈ ks' <;> simp [first, second]

theorem without_eq_without_all (m : HashMap K V) (k : K) : m.without k = m.withoutAll [k] := by
  ext k'
  simp

end HashMap

namespace Tc

variable {α β γ δ : Type}

/-- Two results that both fail, or both succeed with values related by `R`. -/
inductive ResultRel (R : α → β → Prop) : TypecheckingResult α → TypecheckingResult β → Prop
  | ok {a : α} {b : β} : R a b → ResultRel R (.ok a) (.ok b)
  | error : ResultRel R (.error ()) (.error ())

/-- Two checks that report the same diagnostics and whose results are related by
`ResultRel R`. -/
structure Lockstep (R : α → β → Prop) (x : Tc α) (y : Tc β) : Prop where
  diags : x.diags = y.diags
  result : ResultRel R x.result y.result

theorem ResultRel.imp {R S : α → β → Prop} {r : TypecheckingResult α} {s : TypecheckingResult β}
    (weaker : ∀ a b, R a b → S a b) : ResultRel R r s → ResultRel S r s
  | .ok related => .ok (weaker _ _ related)
  | .error => .error

theorem ResultRel.ok_iff {R : α → β → Prop} {r : TypecheckingResult α}
    {s : TypecheckingResult β} :
    ResultRel R r s → ((∃ a, r = .ok a) ↔ ∃ b, s = .ok b)
  | .ok _ => ⟨fun _ => ⟨_, rfl⟩, fun _ => ⟨_, rfl⟩⟩
  | .error => ⟨fun ⟨_, failed⟩ => (nomatch failed), fun ⟨_, failed⟩ => (nomatch failed)⟩

theorem ResultRel.of_ok {R : α → β → Prop} {a : α} {b : β} :
    ResultRel R (.ok a) (.ok b) → R a b
  | .ok related => related

theorem Lockstep.bind {R : α → β → Prop} {S : γ → δ → Prop} {x : Tc α} {y : Tc β}
    {f : α → Tc γ} {g : β → Tc δ} (first : Lockstep R x y)
    (next : ∀ a b, R a b → Lockstep S (f a) (g b)) : Lockstep S (x >>= f) (y >>= g) := by
  rcases x with ⟨_, _⟩
  rcases y with ⟨_, _⟩
  obtain ⟨sameDiags, related⟩ := first
  cases related with
  | ok related => exact ⟨congrArg₂ _ sameDiags (next _ _ related).diags, (next _ _ related).result⟩
  | error => exact ⟨sameDiags, .error⟩

theorem Lockstep.imp {R S : α → β → Prop} {x : Tc α} {y : Tc β} (both : Lockstep R x y)
    (weaker : ∀ a b, R a b → S a b) : Lockstep S x y :=
  ⟨both.diags, both.result.imp weaker⟩

theorem Lockstep.pure {R : α → β → Prop} {a : α} {b : β} (related : R a b) :
    Lockstep R (Pure.pure a) (Pure.pure b) :=
  ⟨rfl, .ok related⟩

theorem Lockstep.bind_same {S : γ → δ → Prop} (x : Tc α) {f : α → Tc γ} {g : α → Tc δ}
    (next : ∀ a, x.result = .ok a → Lockstep S (f a) (g a)) : Lockstep S (x >>= f) (x >>= g) := by
  rcases ran : x.result with ⟨⟨⟩⟩ | a
  · rw [bind_of_error ran, bind_of_error ran]
    exact ⟨rfl, .error⟩
  · rw [bind_of_ok ran, bind_of_ok ran]
    exact ⟨congrArg _ (next a ran).diags, (next a ran).result⟩

theorem Lockstep.span_err_fail {R : α → β → Prop} (span : Span) (message : Message) :
    Lockstep R (spanErr span message >>= fun _ => fail) (spanErr span message >>= fun _ => fail) :=
  ⟨rfl, .error⟩

theorem Lockstep.attempt {R : α → β → Prop} {x : Tc α} {y : Tc β} (both : Lockstep R x y) :
    Lockstep (ResultRel R) x.attempt y.attempt :=
  ⟨both.diags, .ok both.result⟩

end Tc

def AgreeOn (vs : List Ident) (varContext1 varContext2 : VarContext) : Prop :=
  ∀ x ∈ vs, varContext1.get x = varContext2.get x

/-- `varContext1'` and `varContext2'` are `varContext1` and `varContext2` with the same
names removed. -/
def SameRemoval (varContext1 varContext2 varContext1' varContext2' : VarContext) : Prop :=
  ∃ removed : List Ident,
    varContext1' = varContext1.withoutAll removed ∧ varContext2' = varContext2.withoutAll removed

def SameOutcome {α : Type} (varContext1 varContext2 : VarContext) (r1 r2 : α × VarContext) : Prop :=
  r1.1 = r2.1 ∧ SameRemoval varContext1 varContext2 r1.2 r2.2

section Removal

variable {vs ws : List Ident} {varContext1 varContext2 varContext1' varContext2' varContext1''
  varContext2'' : VarContext}

theorem AgreeOn.mono (agree : AgreeOn vs varContext1 varContext2) (sub : ∀ x ∈ ws, x ∈ vs) :
    AgreeOn ws varContext1 varContext2 :=
  fun x member => agree x (sub x member)

theorem AgreeOn.of_removal (agree : AgreeOn vs varContext1 varContext2)
    (removal : SameRemoval varContext1 varContext2 varContext1' varContext2') :
    AgreeOn vs varContext1' varContext2' := by
  obtain ⟨removed, rfl, rfl⟩ := removal
  intro x member
  simp only [HashMap.get_without_all, agree x member]

theorem SameRemoval.refl : SameRemoval varContext1 varContext2 varContext1 varContext2 :=
  ⟨[], (HashMap.without_all_nil _).symm, (HashMap.without_all_nil _).symm⟩

theorem SameRemoval.trans (first : SameRemoval varContext1 varContext2 varContext1' varContext2')
    (second : SameRemoval varContext1' varContext2' varContext1'' varContext2'') :
    SameRemoval varContext1 varContext2 varContext1'' varContext2'' := by
  obtain ⟨removed, rfl, rfl⟩ := first
  obtain ⟨removed', rfl, rfl⟩ := second
  exact ⟨removed ++ removed', HashMap.without_all_without_all _ _ _,
    HashMap.without_all_without_all _ _ _⟩

theorem SameRemoval.without (x : Ident) :
    SameRemoval varContext1 varContext2 (varContext1.without x) (varContext2.without x) :=
  ⟨[x], HashMap.without_eq_without_all _ _, HashMap.without_eq_without_all _ _⟩

theorem Tc.Lockstep.bind_outcome {α γ δ : Type} {S : γ → δ → Prop} {x y : Tc (α × VarContext)}
    {f : α × VarContext → Tc γ} {g : α × VarContext → Tc δ}
    (first : Tc.Lockstep (SameOutcome varContext1 varContext2) x y)
    (next : ∀ a varContext1' varContext2',
      SameRemoval varContext1 varContext2 varContext1' varContext2' →
      Tc.Lockstep S (f (a, varContext1')) (g (a, varContext2'))) :
    Tc.Lockstep S (x >>= f) (y >>= g) :=
  first.bind fun ⟨_, _⟩ ⟨_, _⟩ ⟨same, removal⟩ => by
    cases same
    exact next _ _ _ removal

end Removal

section Forms

variable {varContext1 varContext2 : VarContext}

theorem lockstep_typecheck_arg_with (param : Spanned Ident × Spanned Typ) (argSpan : Span)
    {checked1 checked2 : Tc (Typ × VarContext)}
    (both : Tc.Lockstep (SameOutcome varContext1 varContext2) checked1 checked2) :
    Tc.Lockstep (SameRemoval varContext1 varContext2) (typecheckArgWith param argSpan checked1)
      (typecheckArgWith param argSpan checked2) :=
  both.bind_outcome fun _ _ _ removal => Tc.Lockstep.bind_same _ fun _ _ => Tc.Lockstep.pure removal

theorem lockstep_tuple_component (argSpan : Span)
    {checked1 checked2 : TypecheckingResult (Typ × VarContext)}
    (both : Tc.ResultRel (SameOutcome varContext1 varContext2) checked1 checked2) :
    Tc.Lockstep (SameOutcome varContext1 varContext2) (tupleComponent argSpan varContext1 checked1)
      (tupleComponent argSpan varContext2 checked2) := by
  cases both with
  | error => exact Tc.Lockstep.pure ⟨rfl, SameRemoval.refl⟩
  | @ok r1 r2 related =>
      obtain ⟨⟨⟨borrowing, _⟩, _⟩, _⟩ := r1
      obtain ⟨_, _⟩ := r2
      obtain ⟨⟨⟩, removal⟩ := related
      cases borrowing
      · exact Tc.Lockstep.pure ⟨rfl, removal⟩
      · exact Tc.Lockstep.bind_same _ fun _ _ => Tc.Lockstep.pure ⟨rfl, removal⟩

end Forms

mutual
theorem lockstep_typecheck_expression (fnContext : FnContext) :
    ∀ (e : Expression × Span) {varContext1 varContext2 : VarContext},
      AgreeOn (vars e) varContext1 varContext2 →
      Tc.Lockstep (SameOutcome varContext1 varContext2) (typecheckExpression fnContext e varContext1)
        (typecheckExpression fnContext e varContext2)
  | (e, span), _, _, agree => lockstep_check_expression fnContext e span agree
termination_by structural e => e
theorem lockstep_check_expression (fnContext : FnContext) :
    ∀ (e : Expression) (span : Span) {varContext1 varContext2 : VarContext},
      AgreeOn (vars (e, span)) varContext1 varContext2 →
      Tc.Lockstep (SameOutcome varContext1 varContext2) (checkExpression fnContext e span varContext1)
        (checkExpression fnContext e span varContext2)
  | .tuple args, span, _, _, agree => by
      rw [vars_tuple] at agree
      rw [checkExpression, checkExpression]
      exact (lockstep_typecheck_tuple_args fnContext args agree).bind_outcome fun _ _ _ removal =>
        Tc.Lockstep.bind_same _ fun _ _ => Tc.Lockstep.pure ⟨rfl, removal⟩
  | .named ⟨location, pathArg⟩, span, varContext1, varContext2, agree => by
      rcases location with _ | ⟨⟨id, idSpan⟩, _ | _⟩ <;> rcases pathArg with _ | _ <;>
        try exact Tc.Lockstep.span_err_fail _ _
      rw [vars_named] at agree
      rw [checkExpression, checkExpression]
      dsimp only
      rw [agree id (List.mem_singleton_self _)]
      rcases varContext2.get id with _ | ⟨⟨_ | _, _⟩, t, _⟩
      · exact Tc.Lockstep.span_err_fail _ _
      · dsimp only
        split
        · exact Tc.Lockstep.pure ⟨rfl, SameRemoval.refl⟩
        · exact Tc.Lockstep.pure ⟨rfl, SameRemoval.without id⟩
      · exact Tc.Lockstep.pure ⟨rfl, SameRemoval.refl⟩
  | .binary e1 e2, span, _, _, agree => by
      rw [vars_binary] at agree
      rw [checkExpression, checkExpression]
      exact (lockstep_typecheck_expression fnContext e1
        (agree.mono fun _ => List.mem_append_left _)).bind_outcome fun _ _ _ removal =>
          (lockstep_typecheck_expression fnContext e2
            ((agree.mono fun _ => List.mem_append_right _).of_removal removal)).bind_outcome
              fun _ _ _ removal' =>
                Tc.Lockstep.bind_same _ fun _ _ => Tc.Lockstep.pure ⟨rfl, removal.trans removal'⟩
  | .unary e1, span, _, _, agree => by
      rw [vars_unary] at agree
      exact lockstep_typecheck_expression fnContext e1 agree
  | .lit _, _, _, _, _ => Tc.Lockstep.pure ⟨rfl, SameRemoval.refl⟩
  | .arrayIndex e1 e2, span, _, _, agree => by
      rw [vars_array_index] at agree
      rw [checkExpression, checkExpression]
      refine (lockstep_typecheck_expression fnContext e1
        (agree.mono fun _ => List.mem_append_left _)).bind_outcome fun _ _ _ removal =>
          (lockstep_typecheck_expression fnContext e2
            ((agree.mono fun _ => List.mem_append_right _).of_removal removal)).bind_outcome
              fun _ _ _ removal' => ?_
      dsimp only
      split
      · exact Tc.Lockstep.bind_same _ fun _ _ => Tc.Lockstep.bind_same _ fun _ _ =>
          Tc.Lockstep.pure ⟨rfl, removal.trans removal'⟩
      · exact Tc.Lockstep.span_err_fail _ _
  | .funcCall (f, fSpan) args, span, _, _, agree => by
      rw [vars_func_call] at agree
      rw [checkExpression, checkExpression]
      split
      · exact Tc.Lockstep.bind_same _ fun _ _ => Tc.Lockstep.bind_same _ fun _ _ =>
          (lockstep_typecheck_args fnContext _ args agree).bind fun _ _ removal =>
            Tc.Lockstep.pure ⟨rfl, removal⟩
      · exact Tc.Lockstep.span_err_fail _ _
  | .methodCall sel (f, fSpan) args, span, _, _, agree => by
      rw [vars_method_call] at agree
      rw [checkExpression, checkExpression]
      refine (lockstep_typecheck_expression fnContext sel
        (agree.mono fun _ => List.mem_append_left _)).bind_outcome fun _ _ _ removal => ?_
      refine Tc.Lockstep.bind_same _ fun _ _ => Tc.Lockstep.bind_same _ fun _ _ =>
        (lockstep_typecheck_args fnContext _ args
          ((agree.mono fun _ => List.mem_append_right _).of_removal removal)).bind
            fun _ _ removal' => ?_
      split
      · exact (lockstep_typecheck_arg_with _ _ (lockstep_typecheck_expression fnContext sel
          ((agree.mono fun _ => List.mem_append_left _).of_removal (removal.trans removal')))).bind
            fun _ _ removal'' => Tc.Lockstep.pure ⟨rfl, (removal.trans removal').trans removal''⟩
      · exact Tc.Lockstep.pure ⟨rfl, removal.trans removal'⟩
termination_by structural e => e
theorem lockstep_typecheck_tuple_args (fnContext : FnContext) :
    ∀ (args : List (Expression × Span)) {varContext1 varContext2 : VarContext},
      AgreeOn (varsList args) varContext1 varContext2 →
      Tc.Lockstep (SameOutcome varContext1 varContext2) (typecheckTupleArgs fnContext args varContext1)
        (typecheckTupleArgs fnContext args varContext2)
  | [], _, _, _ => Tc.Lockstep.pure ⟨rfl, SameRemoval.refl⟩
  | arg :: args, _, _, agree => by
      rw [vars_list_cons] at agree
      rw [typecheckTupleArgs, typecheckTupleArgs]
      exact (lockstep_typecheck_expression fnContext arg
        (agree.mono fun _ => List.mem_append_left _)).attempt.bind fun _ _ checked =>
          (lockstep_tuple_component arg.2 checked).bind_outcome fun _ _ _ removal =>
            (lockstep_typecheck_tuple_args fnContext args
              ((agree.mono fun _ => List.mem_append_right _).of_removal removal)).bind_outcome
                fun _ _ _ removal' => Tc.Lockstep.pure ⟨rfl, removal.trans removal'⟩
termination_by structural args => args
theorem lockstep_typecheck_args (fnContext : FnContext) :
    ∀ (params : List (Spanned Ident × Spanned Typ)) (args : List (Expression × Span))
      {varContext1 varContext2 : VarContext},
      AgreeOn (varsList args) varContext1 varContext2 →
      Tc.Lockstep (SameRemoval varContext1 varContext2) (typecheckArgs fnContext params args varContext1)
        (typecheckArgs fnContext params args varContext2)
  | param :: params, arg :: args, _, _, agree => by
      rw [vars_list_cons] at agree
      rw [typecheck_args_cons, typecheck_args_cons]
      exact (lockstep_typecheck_arg_with param arg.2 (lockstep_typecheck_expression fnContext arg
        (agree.mono fun _ => List.mem_append_left _))).bind fun _ _ removal =>
          (lockstep_typecheck_args fnContext params args
            ((agree.mono fun _ => List.mem_append_right _).of_removal removal)).imp fun _ _ removal' =>
              removal.trans removal'
  | [], args, _, _, _ => by
      rw [typecheck_args_params_nil, typecheck_args_params_nil]
      exact Tc.Lockstep.pure SameRemoval.refl
  | _ :: _, [], _, _, _ => Tc.Lockstep.pure SameRemoval.refl
termination_by structural _ args => args
end

/-- Two contexts that bind every name `e` reads alike give runs with the same
diagnostics that both succeed or both fail; when they succeed, the type is the same
and the same names are removed from both contexts. -/
theorem check_depends_only_on_read_bindings (fnContext : FnContext) (e : Expression × Span)
    (varContext1 varContext2 : VarContext)
    (agree : ∀ x ∈ vars e, varContext1.get x = varContext2.get x) :
    (typecheckExpression fnContext e varContext1).diags =
        (typecheckExpression fnContext e varContext2).diags ∧
      ((∃ r, (typecheckExpression fnContext e varContext1).result = .ok r) ↔
        ∃ r, (typecheckExpression fnContext e varContext2).result = .ok r) ∧
      ∀ t1 varContext1' t2 varContext2',
        (typecheckExpression fnContext e varContext1).result = .ok (t1, varContext1') →
        (typecheckExpression fnContext e varContext2).result = .ok (t2, varContext2') →
          t1 = t2 ∧ ∃ removed : List Ident,
            varContext1' = varContext1.withoutAll removed ∧
              varContext2' = varContext2.withoutAll removed := by
  obtain ⟨sameDiags, related⟩ := lockstep_typecheck_expression fnContext e agree
  refine ⟨sameDiags, related.ok_iff, fun t1 varContext1' t2 varContext2' ran1 ran2 => ?_⟩
  rw [ran1, ran2] at related
  exact related.of_ok

theorem check_depends_only_on_read_bindings_witness :
    (∀ x ∈ vars (readOf "x"), (HashMap.unit "x" ownedBytes).get x =
        ((HashMap.unit "x" ownedBytes).update "y" ownedBytes).get x) ∧
      (typecheckExpression HashMap.new (readOf "x") (HashMap.unit "x" ownedBytes)).diags =
          (typecheckExpression HashMap.new (readOf "x")
            ((HashMap.unit "x" ownedBytes).update "y" ownedBytes)).diags ∧
      ((∃ r, (typecheckExpression HashMap.new (readOf "x") (HashMap.unit "x" ownedBytes)).result =
          .ok r) ↔
        ∃ r, (typecheckExpression HashMap.new (readOf "x")
          ((HashMap.unit "x" ownedBytes).update "y" ownedBytes)).result = .ok r) ∧
      ∀ t1 varContext1' t2 varContext2',
        (typecheckExpression HashMap.new (readOf "x") (HashMap.unit "x" ownedBytes)).result =
          .ok (t1, varContext1') →
        (typecheckExpression HashMap.new (readOf "x")
          ((HashMap.unit "x" ownedBytes).update "y" ownedBytes)).result = .ok (t2, varContext2') →
          t1 = t2 ∧ ∃ removed : List Ident,
            varContext1' = (HashMap.unit "x" ownedBytes).withoutAll removed ∧
              varContext2' = ((HashMap.unit "x" ownedBytes).update "y" ownedBytes).withoutAll removed :=
  have agree : ∀ x ∈ vars (readOf "x"), (HashMap.unit "x" ownedBytes).get x =
      ((HashMap.unit "x" ownedBytes).update "y" ownedBytes).get x := fun x member => by
    rw [readOf, vars_named, List.mem_singleton] at member
    subst member
    rfl
  ⟨agree, check_depends_only_on_read_bindings HashMap.new (readOf "x") _ _ agree⟩

end Hacspec.Typechecker
