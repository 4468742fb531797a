import Hacspec.Typechecker.Linearity

/-!
# Unknown variables

`typecheck_expression` reports "the variable {} is unknown" when it reads a plain
identifier that the current context does not bind. The current context is the one
the check started from, less the linear names that earlier reads have moved out,
and a failed tuple component leaves it as it was. So a reported name occurs in the
expression, and the starting context either never bound it or bound it linearly: it
was undeclared, or it was moved by a read before this one (a method receiver is read
twice, so its own linear names are such a case).
-/

namespace Hacspec.Typechecker

open Hacspec.Rustspec

set_option autoImplicit false

/-- If `d` reports `x` unknown, then `x` is one of `vs`, and `varContext` does not
bind it or binds it linearly. -/
def NamesGone (vs : List Ident) (varContext : VarContext) (d : Diagnostic) : Prop :=
  ∀ x, d.message = .unknownVariable x → x ∈ vs ∧ (varContext.get x = none ∨ Linear varContext x)

variable {α : Type} {vs ws us : List Ident} {varContext varContext1 : VarContext}

theorem names_gone_of_removes {x : Tc α} (sub : ∀ y ∈ vs, y ∈ ws)
    (removes : Removes varContext us varContext1) (gone : x.AllDiags (NamesGone vs varContext1)) :
    x.AllDiags (NamesGone ws varContext) := fun d member y reported => by
  obtain ⟨named, unboundOrLinear⟩ := gone d member y reported
  refine ⟨sub y named, ?_⟩
  rcases unboundOrLinear with unbound | linear
  · by_cases bound : varContext.get y = none
    · exact .inl bound
    · exact .inr (removes.removedLinear y bound unbound).2
  · exact .inr (linear.of_kept removes.kept)

theorem names_gone_check_arg_typ (argT sigT : Typ) (argSpan : Span) :
    (checkArgTyp argT sigT argSpan).AllDiags (NamesGone vs varContext) :=
  (Tc.AllDiags.fail_if (fun _ same => nomatch same) _).bind fun _ _ =>
    (Tc.AllDiags.fail_if (fun _ same => nomatch same) _).bind fun _ _ =>
      Tc.AllDiags.fail_if (fun _ same => nomatch same) _

theorem names_gone_typecheck_arg_with (param : Spanned Ident × Spanned Typ) (argSpan : Span)
    {checked : Tc (Typ × VarContext)} (inner : checked.AllDiags (NamesGone vs varContext)) :
    (typecheckArgWith param argSpan checked).AllDiags (NamesGone vs varContext) :=
  inner.bind fun _ _ => (names_gone_check_arg_typ _ _ _).bind fun _ _ => Tc.AllDiags.of_pure _

theorem typecheck_arg_with_context {param : Spanned Ident × Spanned Typ} {argSpan : Span}
    {checked : Tc (Typ × VarContext)} {varContext' : VarContext}
    (ran : (typecheckArgWith param argSpan checked).result = .ok varContext') :
    ∃ argT, checked.result = .ok (argT, varContext') := by
  obtain ⟨⟨argT, varContextArg⟩, checkedOk, ran⟩ := Tc.result_bind_eq_ok.mp ran
  obtain ⟨_, -, returned⟩ := Tc.result_bind_eq_ok.mp ran
  cases returned
  exact ⟨argT, checkedOk⟩

theorem names_gone_tuple_component (argSpan : Span) (checked : TypecheckingResult (Typ × VarContext)) :
    (tupleComponent argSpan varContext checked).AllDiags (NamesGone vs varContext1) := by
  rcases checked with ⟨⟨⟩⟩ | ⟨⟨⟨_ | _, _⟩, _⟩, _⟩
  · exact Tc.AllDiags.of_pure _
  · exact Tc.AllDiags.of_pure _
  · exact fun d member => by
      rw [List.mem_singleton.mp member]
      exact fun _ same => nomatch same

theorem removes_of_tuple_component {fnContext : FnContext} {arg : Expression × Span}
    {r : TypecheckingResult (Spanned BaseTyp)}
    (stepped : (tupleComponent arg.2 varContext (typecheckExpression fnContext arg varContext).result).result =
      .ok (r, varContext1)) :
    Removes varContext (vars arg) varContext1 := by
  rcases ran : (typecheckExpression fnContext arg varContext).result with
    ⟨⟨⟩⟩ | ⟨⟨⟨_ | _, _⟩, _⟩, varContext'⟩ <;> rw [ran] at stepped <;> cases stepped
  · exact Removes.refl _
  · exact removes_of_ok ran
  · exact removes_of_ok ran

mutual
theorem names_gone_typecheck_expression (fnContext : FnContext) :
    ∀ (e : Expression × Span) (varContext : VarContext),
      (typecheckExpression fnContext e varContext).AllDiags (NamesGone (vars e) varContext)
  | (e, span), varContext => names_gone_check_expression fnContext e span varContext
termination_by structural e => e
theorem names_gone_check_expression (fnContext : FnContext) :
    ∀ (e : Expression) (span : Span) (varContext : VarContext),
      (checkExpression fnContext e span varContext).AllDiags (NamesGone (vars (e, span)) varContext)
  | .tuple args, span, varContext => by
      rw [checkExpression, vars_tuple]
      exact (names_gone_typecheck_tuple_args fnContext args varContext).bind fun _ _ =>
        (Tc.AllDiags.of_lift _).bind fun _ _ => Tc.AllDiags.of_pure _
  | .named ⟨location, pathArg⟩, span, varContext => by
      rcases location with _ | ⟨⟨id, idSpan⟩, _ | _⟩ <;> rcases pathArg with _ | _ <;>
        try exact Tc.AllDiags.span_err_fail fun _ same => nomatch same
      rw [checkExpression, vars_named]
      dsimp only
      split
      · next unbound =>
          exact Tc.AllDiags.span_err_fail fun x same => by
            cases same
            exact ⟨List.mem_singleton_self _, .inl unbound⟩
      · split
        · split <;> exact Tc.AllDiags.of_pure _
        · exact Tc.AllDiags.of_pure _
  | .binary e1 e2, span, varContext => by
      rw [checkExpression, vars_binary]
      exact (names_gone_of_removes (fun _ => List.mem_append_left _) (Removes.refl [])
        (names_gone_typecheck_expression fnContext e1 varContext)).bind fun ⟨_, _⟩ ran =>
          (names_gone_of_removes (fun _ => List.mem_append_right _) (removes_of_ok ran)
            (names_gone_typecheck_expression fnContext e2 _)).bind fun ⟨_, _⟩ _ =>
              (Tc.AllDiags.fail_if (fun _ same => nomatch same) _).bind fun _ _ =>
                Tc.AllDiags.of_pure _
  | .unary e1, span, varContext => by
      rw [checkExpression, vars_unary]
      exact names_gone_typecheck_expression fnContext e1 varContext
  | .lit _, _, _ => Tc.AllDiags.of_pure _
  | .arrayIndex e1 e2, span, varContext => by
      rw [checkExpression, vars_array_index]
      refine (names_gone_of_removes (fun _ => List.mem_append_left _) (Removes.refl [])
        (names_gone_typecheck_expression fnContext e1 varContext)).bind fun ⟨_, _⟩ ran =>
          (names_gone_of_removes (fun _ => List.mem_append_right _) (removes_of_ok ran)
            (names_gone_typecheck_expression fnContext e2 _)).bind fun ⟨_, _⟩ _ => ?_
      dsimp only
      split
      · exact (Tc.AllDiags.fail_if (fun _ same => nomatch same) _).bind fun _ _ =>
          (Tc.AllDiags.fail_if (fun _ same => nomatch same) _).bind fun _ _ => Tc.AllDiags.of_pure _
      · exact Tc.AllDiags.span_err_fail fun _ same => nomatch same
  | .funcCall (f, fSpan) args, span, varContext => by
      rw [checkExpression, vars_func_call]
      split
      · exact (Tc.AllDiags.some_or (fun _ same => nomatch same) _).bind fun _ _ =>
          (Tc.AllDiags.report_if (fun _ same => nomatch same) _).bind fun _ _ =>
            (names_gone_typecheck_args fnContext _ args varContext).bind fun _ _ =>
              Tc.AllDiags.of_pure _
      · exact Tc.AllDiags.span_err_fail fun _ same => nomatch same
  | .methodCall sel (f, fSpan) args, span, varContext => by
      rw [checkExpression, vars_method_call]
      refine (names_gone_of_removes (fun _ => List.mem_append_left _) (Removes.refl [])
        (names_gone_typecheck_expression fnContext sel varContext)).bind fun ⟨_, _⟩ ranSel =>
          (Tc.AllDiags.some_or (fun _ same => nomatch same) _).bind fun _ _ =>
            (Tc.AllDiags.report_if (fun _ same => nomatch same) _).bind fun _ _ =>
              (names_gone_of_removes (fun _ => List.mem_append_right _) (removes_of_ok ranSel)
                (names_gone_typecheck_args fnContext _ args _)).bind fun _ ranArgs => ?_
      split
      · exact (names_gone_typecheck_arg_with _ _ (names_gone_of_removes (fun _ => List.mem_append_left _)
          ((removes_of_ok ranSel).trans (removes_of_typecheck_args_ok ranArgs))
          (names_gone_typecheck_expression fnContext sel _))).bind fun _ _ => Tc.AllDiags.of_pure _
      · exact Tc.AllDiags.of_pure _
termination_by structural e => e
theorem names_gone_typecheck_tuple_args (fnContext : FnContext) :
    ∀ (args : List (Expression × Span)) (varContext : VarContext),
      (typecheckTupleArgs fnContext args varContext).AllDiags (NamesGone (varsList args) varContext)
  | [], _ => Tc.AllDiags.of_pure _
  | arg :: args, varContext => by
      rw [typecheckTupleArgs, vars_list_cons]
      refine (names_gone_of_removes (fun _ => List.mem_append_left _) (Removes.refl [])
        (names_gone_typecheck_expression fnContext arg varContext)).attempt.bind
          fun checked attempted => ?_
      cases attempted
      exact (names_gone_tuple_component _ _).bind fun ⟨_, _⟩ stepped =>
        (names_gone_of_removes (fun _ => List.mem_append_right _) (removes_of_tuple_component stepped)
          (names_gone_typecheck_tuple_args fnContext args _)).bind fun _ _ => Tc.AllDiags.of_pure _
termination_by structural args => args
theorem names_gone_typecheck_args (fnContext : FnContext) :
    ∀ (params : List (Spanned Ident × Spanned Typ)) (args : List (Expression × Span))
      (varContext : VarContext),
      (typecheckArgs fnContext params args varContext).AllDiags (NamesGone (varsList args) varContext)
  | param :: params, arg :: args, varContext => by
      rw [typecheck_args_cons, vars_list_cons]
      exact (names_gone_typecheck_arg_with param arg.2 (names_gone_of_removes
        (fun _ => List.mem_append_left _) (Removes.refl [])
          (names_gone_typecheck_expression fnContext arg varContext))).bind fun _ ran =>
        have ⟨_, argOk⟩ := typecheck_arg_with_context ran
        names_gone_of_removes (fun _ => List.mem_append_right _) (removes_of_ok argOk)
          (names_gone_typecheck_args fnContext params args _)
  | [], args, varContext => by
      rw [typecheck_args_params_nil]
      exact Tc.AllDiags.of_pure varContext
  | _ :: _, [], _ => Tc.AllDiags.of_pure _
termination_by structural _ args => args
end

/-- A variable is reported unknown only where the expression reads it and the
context the check starts from does not bind it or binds it linearly: it was never
bound, or a read before this one moved it. -/
theorem unknown_variable_unbound_or_moved (fnContext : FnContext) (e : Expression × Span)
    (varContext : VarContext) :
    ∀ d ∈ (typecheckExpression fnContext e varContext).diags, ∀ x, d.message = .unknownVariable x →
      x ∈ vars e ∧ (varContext.get x = none ∨ Linear varContext x) :=
  names_gone_typecheck_expression fnContext e varContext

theorem unknown_variable_unbound_or_moved_witness :
    (⟨noSpan, .unknownVariable "x"⟩ : Diagnostic) ∈
        (typecheckExpression HashMap.new (.tuple [readOf "x", readOf "x"], noSpan)
          (HashMap.unit "x" ownedBytes)).diags ∧
      ("x" ∈ vars (.tuple [readOf "x", readOf "x"], noSpan) ∧
        ((HashMap.unit "x" ownedBytes).get "x" = none ∨ Linear (HashMap.unit "x" ownedBytes) "x")) :=
  have reported : (⟨noSpan, .unknownVariable "x"⟩ : Diagnostic) ∈
      (typecheckExpression HashMap.new (.tuple [readOf "x", readOf "x"], noSpan)
        (HashMap.unit "x" ownedBytes)).diags := List.mem_singleton_self _
  ⟨reported, unknown_variable_unbound_or_moved HashMap.new _ _ _ reported "x" rfl⟩

end Hacspec.Typechecker
