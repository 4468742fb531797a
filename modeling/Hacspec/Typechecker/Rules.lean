import Hacspec.Typechecker.Diagnostics

/-!
# Typing rules of the expression checker

The rules below say when `typecheck_expression` succeeds, in two readings. With
`lax` false a derivation is a check that returns `Ok` and reports nothing
(`typed_iff_clean`); with `lax` true it is a check that returns `Ok`, after
reporting arity mismatches at most (`typed_iff_ok`). The two differ only at the
calls, where the strict reading adds the arity test.

The rules keep the checker's order (the context is threaded left to right, and a
method's receiver is checked once before the arguments and once after them, when a
parameter is left for it) and its tests (an argument fits its parameter when the
borrowings agree and the base types are equal values, spans included), but none of
its diagnostics. The argument loop stops with the shorter of the parameter and
argument lists, as the source's `zip` does. The linearity of contexts
(`Linearity`) and the calls of a function body (`Calls`) are proved on the rules.
-/

namespace Hacspec.Typechecker

open Hacspec.Rustspec

set_option autoImplicit false

/-- An argument of type `argT` fits the parameter type `sigT`: the same borrowing,
and the same base type, spans included. -/
def ArgFits (argT sigT : Typ) : Prop := argT.1.1 = sigT.1.1 ∧ argT.2.1 = sigT.2.1

/-- The messages a successful run may have reported: the arity mismatches when
`lax`, none otherwise. -/
def tolerated (lax : Bool) (m : Message) : Bool := lax && m.isArityMismatch

mutual
/-- `Typed lax fnContext varContext e t varContext'`: in `varContext`, `e` has type
`t` and leaves `varContext'`. -/
inductive Typed (lax : Bool) (fnContext : FnContext) :
    VarContext → Expression × Span → Typ → VarContext → Prop
  | tuple {varContext varContext' : VarContext} {args : List (Expression × Span)} {span : Span}
      {typArgs : List (Spanned BaseTyp)} :
      TupleTyped lax fnContext varContext args typArgs varContext' →
      Typed lax fnContext varContext (.tuple args, span) ((.consumed, span), (.tuple typArgs, span))
        varContext'
  /-- A consumed variable whose type is not copy is moved out of the context. -/
  | moved {varContext : VarContext} {id : Ident} {idSpan span : Span} {t : Typ} :
      varContext.get id = some t → t.1.1 = .consumed → isCopy t.2.1 = false →
      Typed lax fnContext varContext (.named ⟨[(id, idSpan)], none⟩, span) t (varContext.without id)
  | copied {varContext : VarContext} {id : Ident} {idSpan span : Span} {t : Typ} :
      varContext.get id = some t → t.1.1 = .consumed → isCopy t.2.1 = true →
      Typed lax fnContext varContext (.named ⟨[(id, idSpan)], none⟩, span) t varContext
  | borrowed {varContext : VarContext} {id : Ident} {idSpan span : Span} {t : Typ} :
      varContext.get id = some t → t.1.1 = .borrowed →
      Typed lax fnContext varContext (.named ⟨[(id, idSpan)], none⟩, span) t varContext
  | binary {varContext varContext1 varContext2 : VarContext} {e1 e2 : Expression × Span}
      {span : Span} {t1 t2 : Typ} :
      Typed lax fnContext varContext e1 t1 varContext1 →
      Typed lax fnContext varContext1 e2 t2 varContext2 → equalTypes t1 t2 = true →
      Typed lax fnContext varContext (.binary e1 e2, span) t1 varContext2
  | unary {varContext varContext' : VarContext} {e1 : Expression × Span} {span : Span} {t : Typ} :
      Typed lax fnContext varContext e1 t varContext' →
      Typed lax fnContext varContext (.unary e1, span) t varContext'
  | lit {varContext : VarContext} {lit : Literal} {span : Span} :
      Typed lax fnContext varContext (.lit lit, span) ((.consumed, span), (literalTyp lit, span))
        varContext
  | arrayIndex {varContext varContext1 varContext2 : VarContext} {e1 e2 : Expression × Span}
      {span : Span} {t1 t2 : Typ} {cellT : BaseTyp} {cellTSpan : Span} :
      Typed lax fnContext varContext e1 t1 varContext1 →
      Typed lax fnContext varContext1 e2 t2 varContext2 →
      t1.2.1 = .seq (cellT, cellTSpan) → t2.1.1 = .consumed → isInteger t2.2.1 = true →
      Typed lax fnContext varContext (.arrayIndex e1 e2, span)
        ((.consumed, t1.1.2), (cellT, cellTSpan)) varContext2
  | funcCall {varContext varContext' : VarContext} {id : Ident} {idSpan fSpan span : Span}
      {args : List (Expression × Span)} {sig : FuncSig} :
      fnContext.get (.static id) = some sig → (lax = true ∨ sig.args.length = args.length) →
      ArgsTyped lax fnContext varContext sig.args args varContext' →
      Typed lax fnContext varContext (.funcCall (⟨[(id, idSpan)], none⟩, fSpan) args, span)
        ((.consumed, fSpan), sig.ret) varContext'
  /-- The receiver is checked before the arguments, and again after them against
  the parameter that follows theirs. -/
  | methodCall {varContext varContext1 varContext2 varContext3 : VarContext}
      {sel : Expression × Span} {f : Ident} {fSpan span : Span} {args : List (Expression × Span)}
      {selTyp selTyp' : Typ} {sig : FuncSig} {param : Spanned Ident × Spanned Typ} :
      Typed lax fnContext varContext sel selTyp varContext1 →
      fnContext.get (.method selTyp.2.1 f) = some sig →
      (lax = true ∨ sig.args.length = args.length + 1) →
      ArgsTyped lax fnContext varContext1 sig.args args varContext2 →
      sig.args[args.length]? = some param →
      Typed lax fnContext varContext2 sel selTyp' varContext3 → ArgFits selTyp' param.2.1 →
      Typed lax fnContext varContext (.methodCall sel (f, fSpan) args, span)
        ((.consumed, fSpan), sig.ret) varContext3
  /-- With no parameter left for it, the receiver is not checked again. -/
  | methodCallNoParam {varContext varContext1 varContext2 : VarContext}
      {sel : Expression × Span} {f : Ident} {fSpan span : Span} {args : List (Expression × Span)}
      {selTyp : Typ} {sig : FuncSig} :
      Typed lax fnContext varContext sel selTyp varContext1 →
      fnContext.get (.method selTyp.2.1 f) = some sig → lax = true →
      ArgsTyped lax fnContext varContext1 sig.args args varContext2 →
      sig.args[args.length]? = none →
      Typed lax fnContext varContext (.methodCall sel (f, fSpan) args, span)
        ((.consumed, fSpan), sig.ret) varContext2
inductive TupleTyped (lax : Bool) (fnContext : FnContext) :
    VarContext → List (Expression × Span) → List (Spanned BaseTyp) → VarContext → Prop
  | nil {varContext : VarContext} : TupleTyped lax fnContext varContext [] [] varContext
  | cons {varContext varContext1 varContext' : VarContext} {arg : Expression × Span}
      {args : List (Expression × Span)} {borrowingSpan : Span} {typArg : Spanned BaseTyp}
      {typArgs : List (Spanned BaseTyp)} :
      Typed lax fnContext varContext arg ((.consumed, borrowingSpan), typArg) varContext1 →
      TupleTyped lax fnContext varContext1 args typArgs varContext' →
      TupleTyped lax fnContext varContext (arg :: args) (typArg :: typArgs) varContext'
inductive ArgsTyped (lax : Bool) (fnContext : FnContext) :
    VarContext → List (Spanned Ident × Spanned Typ) → List (Expression × Span) → VarContext → Prop
  | paramsDone {varContext : VarContext} {args : List (Expression × Span)} :
      ArgsTyped lax fnContext varContext [] args varContext
  | argsDone {varContext : VarContext} {params : List (Spanned Ident × Spanned Typ)} :
      ArgsTyped lax fnContext varContext params [] varContext
  | cons {varContext varContext1 varContext' : VarContext} {param : Spanned Ident × Spanned Typ}
      {params : List (Spanned Ident × Spanned Typ)} {arg : Expression × Span}
      {args : List (Expression × Span)} {argT : Typ} :
      Typed lax fnContext varContext arg argT varContext1 → ArgFits argT param.2.1 →
      ArgsTyped lax fnContext varContext1 params args varContext' →
      ArgsTyped lax fnContext varContext (param :: params) (arg :: args) varContext'
end

section Steps

variable (allowed : Message → Bool)

theorem ok_with_check_arg_typ_iff (argT sigT : Typ) (argSpan : Span) (u : Unit) :
    (checkArgTyp argT sigT argSpan).OkWith allowed u ↔ ArgFits argT sigT := by
  obtain ⟨⟨argB, _⟩, ⟨argBase, _⟩⟩ := argT
  obtain ⟨⟨sigB, _⟩, ⟨sigBase, _⟩⟩ := sigT
  simp only [checkArgTyp, Tc.ok_with_bind_iff, Tc.ok_with_fail_if_iff, ArgFits, exists_const,
    Tc.ok_with_pure_iff, bne_eq_false_iff_eq, beq_iff_eq, true_and]
  cases argB <;> cases sigB <;> simp

theorem ok_with_typecheck_arg_with_iff (param : Spanned Ident × Spanned Typ) (argSpan : Span)
    (checked : Tc (Typ × VarContext)) (varContext' : VarContext) :
    (typecheckArgWith param argSpan checked).OkWith allowed varContext' ↔
      ∃ argT, checked.OkWith allowed (argT, varContext') ∧ ArgFits argT param.2.1 := by
  simp only [typecheckArgWith, Tc.ok_with_bind_iff, ok_with_check_arg_typ_iff, Tc.ok_with_pure_iff]
  constructor
  · rintro ⟨⟨argT, _⟩, ran, _, fits, rfl⟩
    exact ⟨argT, ran, fits⟩
  · rintro ⟨argT, ran, fits⟩
    exact ⟨(argT, _), ran, (), fits, rfl⟩

theorem ok_with_tuple_component_ok_iff (argSpan : Span) (varContext varContext' : VarContext)
    (r : TypecheckingResult (Typ × VarContext)) (typArg : Spanned BaseTyp) :
    (tupleComponent argSpan varContext r).OkWith allowed (.ok typArg, varContext') ↔
      ∃ borrowingSpan, r = .ok (((.consumed, borrowingSpan), typArg), varContext') := by
  rcases r with ⟨⟨⟩⟩ | ⟨⟨⟨_ | _, borrowingSpan⟩, argTyp⟩, newVarContext⟩
  · simp [tupleComponent, Tc.OkWith]
  · simp [tupleComponent, Tc.OkWith]
  · simp [tupleComponent, Tc.OkWith, Tc.bind_of_ok (Tc.span_err_result _ _)]

end Steps

theorem lax_or_eq_of_tolerated {lax : Bool} {n m : Nat} {message : Message}
    (arity : message.isArityMismatch = true)
    (reported : (n != m) = true → tolerated lax message = true) : lax = true ∨ n = m := by
  by_cases same : n = m
  · exact .inr same
  · have := reported (bne_iff_ne.mpr same)
    simp only [tolerated, arity, Bool.and_true] at this
    exact .inl this

theorem tolerated_of_lax_or_eq {lax : Bool} {n m : Nat} {message : Message}
    (arity : message.isArityMismatch = true) (laxOrSame : lax = true ∨ n = m) :
    (n != m) = true → tolerated lax message = true := by
  rcases laxOrSame with rfl | rfl
  · simp [tolerated, arity]
  · simp

theorem check_vec_cons_eq_ok {α : Type} {r : TypecheckingResult α} {rs : List (TypecheckingResult α)}
    {vs : List α} (checked : checkVec (r :: rs) = .ok vs) :
    ∃ v vs', r = .ok v ∧ checkVec rs = .ok vs' ∧ vs = v :: vs' := by
  rcases r with ⟨⟨⟩⟩ | v
  · cases checked
  · rcases rest : checkVec rs with ⟨⟨⟩⟩ | vs'
    · rw [checkVec, rest] at checked
      cases checked
    · rw [checkVec, rest] at checked
      cases checked
      exact ⟨v, vs', rfl, rfl, rfl⟩

theorem check_vec_map_ok {α : Type} : ∀ (vs : List α), checkVec (vs.map .ok) = .ok vs
  | [] => rfl
  | v :: vs => by rw [List.map_cons, checkVec, check_vec_map_ok vs]; rfl

mutual
theorem typed_of_ok_with (lax : Bool) (fnContext : FnContext) :
    ∀ (e : Expression × Span) (varContext : VarContext) (t : Typ) (varContext' : VarContext),
      (typecheckExpression fnContext e varContext).OkWith (tolerated lax) (t, varContext') →
        Typed lax fnContext varContext e t varContext'
  | (e, span), varContext, t, varContext', ran =>
      typed_of_ok_with_check_expression lax fnContext e span varContext t varContext' ran
termination_by structural e => e
theorem typed_of_ok_with_check_expression (lax : Bool) (fnContext : FnContext) :
    ∀ (e : Expression) (span : Span) (varContext : VarContext) (t : Typ) (varContext' : VarContext),
      (checkExpression fnContext e span varContext).OkWith (tolerated lax) (t, varContext') →
        Typed lax fnContext varContext (e, span) t varContext'
  | .tuple args, span, varContext, t, varContext', ran => by
      rw [checkExpression] at ran
      simp only [Tc.ok_with_bind_iff, Tc.ok_with_lift_iff, Tc.ok_with_pure_iff, Prod.mk.injEq] at ran
      obtain ⟨⟨rs, _⟩, components, vs, checked, rfl, rfl⟩ := ran
      exact .tuple (tuple_typed_of_ok_with lax fnContext args varContext rs _ vs components checked)
  | .named ⟨location, arg⟩, span, varContext, t, varContext', ran => by
      rw [checkExpression] at ran
      rcases location with _ | ⟨⟨id, idSpan⟩, _ | _⟩ <;> rcases arg with _ | _ <;>
        try exact absurd ran (Tc.not_ok_with_span_err_fail _ _ _ _)
      dsimp only at ran
      split at ran
      · exact absurd ran (Tc.not_ok_with_span_err_fail _ _ _ _)
      · rename_i found
        split at ran
        · rename_i consumed
          split at ran <;> rw [Tc.ok_with_pure_iff, Prod.mk.injEq] at ran <;>
            obtain ⟨rfl, rfl⟩ := ran
          · exact .copied found consumed (by assumption)
          · exact .moved found consumed (Bool.eq_false_iff.mpr (by assumption))
        · rw [Tc.ok_with_pure_iff, Prod.mk.injEq] at ran
          obtain ⟨rfl, rfl⟩ := ran
          exact .borrowed found (by assumption)
  | .binary e1 e2, span, varContext, t, varContext', ran => by
      rw [checkExpression] at ran
      simp only [Tc.ok_with_bind_iff, Tc.ok_with_fail_if_iff, Tc.ok_with_pure_iff, Prod.mk.injEq,
        Bool.not_eq_false', exists_const] at ran
      obtain ⟨⟨t1, _⟩, left, ⟨t2, _⟩, right, equal, rfl, rfl⟩ := ran
      exact .binary (typed_of_ok_with lax fnContext e1 varContext _ _ left)
        (typed_of_ok_with lax fnContext e2 _ _ _ right) equal
  | .unary e1, span, varContext, t, varContext', ran => by
      rw [checkExpression] at ran
      exact .unary (typed_of_ok_with lax fnContext e1 varContext _ _ ran)
  | .lit lit, span, varContext, t, varContext', ran => by
      rw [checkExpression, Tc.ok_with_pure_iff, Prod.mk.injEq] at ran
      obtain ⟨rfl, rfl⟩ := ran
      exact .lit
  | .arrayIndex e1 e2, span, varContext, t, varContext', ran => by
      rw [checkExpression] at ran
      simp only [Tc.ok_with_bind_iff] at ran
      obtain ⟨⟨t1, _⟩, indexed, ⟨t2, _⟩, index, ran⟩ := ran
      split at ran
      · rename_i seq
        simp only [Tc.ok_with_bind_iff, Tc.ok_with_fail_if_iff, Tc.ok_with_pure_iff, Prod.mk.injEq,
          exists_const, beq_eq_false_iff_ne, ne_eq, Bool.not_eq_false'] at ran
        obtain ⟨notBorrowed, integer, rfl, rfl⟩ := ran
        have consumed : t2.1.1 = .consumed := by
          cases borrowing : t2.1.1
          · rfl
          · exact absurd borrowing notBorrowed
        exact .arrayIndex (typed_of_ok_with lax fnContext e1 varContext _ _ indexed)
          (typed_of_ok_with lax fnContext e2 _ _ _ index) seq consumed integer
      · exact absurd ran (Tc.not_ok_with_span_err_fail _ _ _ _)
  | .funcCall (⟨location, arg⟩, fSpan) args, span, varContext, t, varContext', ran => by
      rw [checkExpression] at ran
      rcases location with _ | ⟨⟨id, idSpan⟩, _ | _⟩ <;> rcases arg with _ | _ <;>
        try exact absurd ran (Tc.not_ok_with_span_err_fail _ _ _ _)
      simp only [Tc.ok_with_bind_iff, Tc.ok_with_some_or_iff, Tc.ok_with_report_if_iff,
        exists_const] at ran
      obtain ⟨sig, found, arity, _, arguments, ran⟩ := ran
      rw [Tc.ok_with_pure_iff, Prod.mk.injEq] at ran
      obtain ⟨rfl, rfl⟩ := ran
      exact .funcCall found (lax_or_eq_of_tolerated (by rfl) arity)
        (args_typed_of_ok_with lax fnContext sig.args args varContext _ arguments)
  | .methodCall sel (f, fSpan) args, span, varContext, t, varContext', ran => by
      rw [checkExpression] at ran
      simp only [Tc.ok_with_bind_iff, Tc.ok_with_some_or_iff, Tc.ok_with_report_if_iff,
        exists_const] at ran
      obtain ⟨⟨selTyp, _⟩, receiver, sig, found, arity, _, arguments, ran⟩ := ran
      have laxOrSame := lax_or_eq_of_tolerated (by rfl) arity
      split at ran
      · rename_i param last
        simp only [Tc.ok_with_bind_iff, ok_with_typecheck_arg_with_iff, Tc.ok_with_pure_iff,
          Prod.mk.injEq] at ran
        obtain ⟨_, ⟨selTyp', receiverAgain, fits⟩, rfl, rfl⟩ := ran
        exact .methodCall (typed_of_ok_with lax fnContext sel varContext _ _ receiver) found
          laxOrSame (args_typed_of_ok_with lax fnContext sig.args args _ _ arguments) last
          (typed_of_ok_with lax fnContext sel _ _ _ receiverAgain) fits
      · rename_i noParam
        rw [Tc.ok_with_pure_iff, Prod.mk.injEq] at ran
        obtain ⟨rfl, rfl⟩ := ran
        have isLax : lax = true := laxOrSame.resolve_right fun same => by
          rw [List.getElem?_eq_none_iff, same] at noParam
          exact Nat.not_succ_le_self _ noParam
        exact .methodCallNoParam (typed_of_ok_with lax fnContext sel varContext _ _ receiver) found
          isLax (args_typed_of_ok_with lax fnContext sig.args args _ _ arguments) noParam
termination_by structural e => e
theorem tuple_typed_of_ok_with (lax : Bool) (fnContext : FnContext) :
    ∀ (args : List (Expression × Span)) (varContext : VarContext)
      (rs : List (TypecheckingResult (Spanned BaseTyp))) (varContext' : VarContext)
      (vs : List (Spanned BaseTyp)),
      (typecheckTupleArgs fnContext args varContext).OkWith (tolerated lax) (rs, varContext') →
        checkVec rs = .ok vs → TupleTyped lax fnContext varContext args vs varContext'
  | [], varContext, rs, varContext', vs, ran, checked => by
      rw [typecheckTupleArgs, Tc.ok_with_pure_iff, Prod.mk.injEq] at ran
      obtain ⟨rfl, rfl⟩ := ran
      cases checked
      exact .nil
  | arg :: args, varContext, rs, varContext', vs, ran, checked => by
      rw [typecheckTupleArgs] at ran
      simp only [Tc.ok_with_bind_iff, Tc.ok_with_attempt_iff, Tc.ok_with_pure_iff, Prod.mk.injEq] at ran
      obtain ⟨r, ⟨first, tolerable⟩, ⟨c, _⟩, component, ⟨cs, _⟩, rest, rfl, rfl⟩ := ran
      obtain ⟨v, vs', rfl, checkedRest, rfl⟩ := check_vec_cons_eq_ok checked
      obtain ⟨borrowingSpan, rfl⟩ := (ok_with_tuple_component_ok_iff _ _ _ _ _ _).mp component
      exact .cons (typed_of_ok_with lax fnContext arg varContext _ _ ⟨first, tolerable⟩)
        (tuple_typed_of_ok_with lax fnContext args _ cs _ vs' rest checkedRest)
termination_by structural args => args
theorem args_typed_of_ok_with (lax : Bool) (fnContext : FnContext) :
    ∀ (params : List (Spanned Ident × Spanned Typ)) (args : List (Expression × Span))
      (varContext varContext' : VarContext),
      (typecheckArgs fnContext params args varContext).OkWith (tolerated lax) varContext' →
        ArgsTyped lax fnContext varContext params args varContext'
  | param :: params, arg :: args, varContext, varContext', ran => by
      rw [typecheck_args_cons] at ran
      simp only [Tc.ok_with_bind_iff, ok_with_typecheck_arg_with_iff] at ran
      obtain ⟨_, ⟨argT, first, fits⟩, rest⟩ := ran
      exact .cons (typed_of_ok_with lax fnContext arg varContext _ _ first) fits
        (args_typed_of_ok_with lax fnContext params args _ _ rest)
  | [], args, varContext, varContext', ran => by
      rw [typecheck_args_params_nil, Tc.ok_with_pure_iff] at ran
      exact ran ▸ .paramsDone
  | _ :: _, [], varContext, varContext', ran => by
      change (pure varContext : Tc VarContext).OkWith _ varContext' at ran
      rw [Tc.ok_with_pure_iff] at ran
      exact ran ▸ .argsDone
termination_by structural _ args => args
end

mutual
theorem ok_with_of_typed {lax : Bool} {fnContext : FnContext} :
    ∀ {varContext : VarContext} {e : Expression × Span} {t : Typ} {varContext' : VarContext},
      Typed lax fnContext varContext e t varContext' →
        (typecheckExpression fnContext e varContext).OkWith (tolerated lax) (t, varContext')
  | _, (_, _), _, _, typed => ok_with_of_typed_expr typed
termination_by structural _ e => e
theorem ok_with_of_typed_expr {lax : Bool} {fnContext : FnContext} :
    ∀ {varContext : VarContext} {e : Expression} {span : Span} {t : Typ} {varContext' : VarContext},
      Typed lax fnContext varContext (e, span) t varContext' →
        (checkExpression fnContext e span varContext).OkWith (tolerated lax) (t, varContext')
  | _, _, _, _, _, .tuple components => by
      rw [checkExpression, Tc.ok_with_bind_iff]
      refine ⟨_, ok_with_of_tuple_typed components, ?_⟩
      dsimp only
      rw [check_vec_map_ok]
      exact ⟨rfl, fun _ none => nomatch none⟩
  | _, _, _, _, _, .moved found consumed notCopy => by
      simp [checkExpression, found, consumed, notCopy, Tc.OkWith]
  | _, _, _, _, _, .copied found consumed copy => by
      simp [checkExpression, found, consumed, copy, Tc.OkWith]
  | _, _, _, _, _, .borrowed found borrowed => by
      simp [checkExpression, found, borrowed, Tc.OkWith]
  | _, _, _, _, _, .binary left right equal => by
      rw [checkExpression, Tc.ok_with_bind_iff]
      refine ⟨_, ok_with_of_typed left, ?_⟩
      dsimp only
      rw [Tc.ok_with_bind_iff]
      refine ⟨_, ok_with_of_typed right, ?_⟩
      simp [Tc.ok_with_bind_iff, equal]
  | _, _, _, _, _, .unary inner => by
      rw [checkExpression]
      exact ok_with_of_typed inner
  | _, _, _, _, _, .lit => ⟨rfl, fun _ none => nomatch none⟩
  | _, _, _, _, _, .arrayIndex indexed index seq consumed integer => by
      rw [checkExpression, Tc.ok_with_bind_iff]
      refine ⟨_, ok_with_of_typed indexed, ?_⟩
      dsimp only
      rw [Tc.ok_with_bind_iff]
      refine ⟨_, ok_with_of_typed index, ?_⟩
      dsimp only
      rw [seq]
      simp [Tc.ok_with_bind_iff, consumed, integer]
  | _, _, _, _, _, .funcCall found laxOrSame arguments => by
      rw [checkExpression]
      simp only [Tc.ok_with_bind_iff, Tc.ok_with_some_or_iff, Tc.ok_with_report_if_iff, exists_const,
        exists_eq_left', found, Option.some.injEq]
      exact ⟨tolerated_of_lax_or_eq rfl laxOrSame, _, ok_with_of_args_typed arguments, rfl,
        fun _ none => nomatch none⟩
  | _, _, _, _, _, .methodCall receiver found laxOrSame arguments last receiverAgain fits => by
      rw [checkExpression, Tc.ok_with_bind_iff]
      refine ⟨_, ok_with_of_typed receiver, ?_⟩
      dsimp only
      simp only [Tc.ok_with_bind_iff, Tc.ok_with_some_or_iff, Tc.ok_with_report_if_iff, exists_const,
        exists_eq_left', found, Option.some.injEq]
      refine ⟨tolerated_of_lax_or_eq rfl laxOrSame, _, ok_with_of_args_typed arguments, ?_⟩
      rw [last]
      simp only [Tc.ok_with_bind_iff, ok_with_typecheck_arg_with_iff]
      exact ⟨_, ⟨_, ok_with_of_typed receiverAgain, fits⟩, rfl, fun _ none => nomatch none⟩
  | _, _, _, _, _, .methodCallNoParam receiver found isLax arguments noParam => by
      rw [checkExpression, Tc.ok_with_bind_iff]
      refine ⟨_, ok_with_of_typed receiver, ?_⟩
      dsimp only
      simp only [Tc.ok_with_bind_iff, Tc.ok_with_some_or_iff, Tc.ok_with_report_if_iff, exists_const,
        exists_eq_left', found, Option.some.injEq]
      refine ⟨tolerated_of_lax_or_eq rfl (.inl isLax), _, ok_with_of_args_typed arguments, ?_⟩
      rw [noParam]
      exact ⟨rfl, fun _ none => nomatch none⟩
termination_by structural _ e => e
theorem ok_with_of_tuple_typed {lax : Bool} {fnContext : FnContext} :
    ∀ {varContext : VarContext} {args : List (Expression × Span)} {typArgs : List (Spanned BaseTyp)}
      {varContext' : VarContext},
      TupleTyped lax fnContext varContext args typArgs varContext' →
        (typecheckTupleArgs fnContext args varContext).OkWith (tolerated lax)
          (typArgs.map .ok, varContext')
  | _, _, _, _, .nil => ⟨rfl, fun _ none => nomatch none⟩
  | _, _, _, _, .cons first rest => by
      rw [typecheckTupleArgs, Tc.ok_with_bind_iff]
      obtain ⟨ran, tolerable⟩ := ok_with_of_typed first
      refine ⟨_, (Tc.ok_with_attempt_iff _ _ _).mpr ⟨ran, tolerable⟩, ?_⟩
      rw [Tc.ok_with_bind_iff]
      refine ⟨_, (ok_with_tuple_component_ok_iff _ _ _ _ _ _).mpr ⟨_, rfl⟩, ?_⟩
      dsimp only
      rw [Tc.ok_with_bind_iff]
      exact ⟨_, ok_with_of_tuple_typed rest, rfl, fun _ none => nomatch none⟩
termination_by structural _ args => args
theorem ok_with_of_args_typed {lax : Bool} {fnContext : FnContext} :
    ∀ {varContext : VarContext} {params : List (Spanned Ident × Spanned Typ)}
      {args : List (Expression × Span)} {varContext' : VarContext},
      ArgsTyped lax fnContext varContext params args varContext' →
        (typecheckArgs fnContext params args varContext).OkWith (tolerated lax) varContext'
  | _, _, args, _, .paramsDone => by cases args <;> exact ⟨rfl, fun _ none => nomatch none⟩
  | _, params, _, _, .argsDone => by cases params <;> exact ⟨rfl, fun _ none => nomatch none⟩
  | _, _, _, _, .cons first fits rest => by
      rw [typecheck_args_cons, Tc.ok_with_bind_iff]
      exact ⟨_, (ok_with_typecheck_arg_with_iff _ _ _ _ _).mpr ⟨_, ok_with_of_typed first, fits⟩,
        ok_with_of_args_typed rest⟩
termination_by structural _ _ args => args
end

/-- The strict rules are what the checker accepts without a diagnostic. -/
theorem typed_iff_clean (fnContext : FnContext) (e : Expression × Span) (varContext : VarContext)
    (t : Typ) (varContext' : VarContext) :
    Typed false fnContext varContext e t varContext' ↔
      (typecheckExpression fnContext e varContext).Clean (t, varContext') := by
  rw [Tc.clean_iff_ok_with]
  exact ⟨ok_with_of_typed, typed_of_ok_with false fnContext e varContext t varContext'⟩

theorem Tc.Reported.ok_with_tolerated {α : Type} {x : Tc α} {a : α} (reported : x.Reported)
    (ran : x.result = .ok a) : x.OkWith (tolerated true) a := by
  refine ⟨ran, fun d member => ?_⟩
  have quiet := mt reported.mpr
  rw [ran] at quiet
  have notFatal : ¬ d.Fatal := fun fatal => quiet (fun same => nomatch same) ⟨d, member, fatal⟩
  simpa [tolerated, Diagnostic.Fatal] using notFatal

theorem ok_with_tolerated_of_ok {fnContext : FnContext} {e : Expression × Span}
    {varContext : VarContext} {r : Typ × VarContext}
    (ran : (typecheckExpression fnContext e varContext).result = .ok r) :
    (typecheckExpression fnContext e varContext).OkWith (tolerated true) r :=
  (reported_typecheck_expression fnContext e varContext).ok_with_tolerated ran

/-- The lax rules are what the checker accepts. -/
theorem typed_iff_ok (fnContext : FnContext) (e : Expression × Span) (varContext : VarContext)
    (t : Typ) (varContext' : VarContext) :
    Typed true fnContext varContext e t varContext' ↔
      (typecheckExpression fnContext e varContext).result = .ok (t, varContext') :=
  ⟨fun typed => (ok_with_of_typed typed).1,
    fun ran => typed_of_ok_with true fnContext e varContext t varContext' (ok_with_tolerated_of_ok ran)⟩

end Hacspec.Typechecker
