import Hacspec.Typechecker.Rules

/-!
# The variable context through an expression check

Reading a consumed variable whose type is not copy moves it out of the context
(`typecheck_expression`, `Named` case); nothing else changes the context. So a
successful check only removes names, and only linear names it reads (`Removes`).
A check with no arity mismatch reads every sub-expression, and then it removes
exactly the linear names it reads, each of which it reads once (`Consumes`): a
second read of a moved name finds it unbound and fails. Both facts compose along
the checker's left-to-right order, and the rules of `Rules` give the rest. A
method's receiver is read twice; its linear names, if it has any, make the second
read fail, so the count of reads stays at one.
-/

namespace Hacspec.Typechecker

open Hacspec.Rustspec

set_option autoImplicit false

mutual
def subExpressions : Expression × Span → List (Expression × Span)
  | (e, span) => (e, span) :: childExpressions e
termination_by structural e => e
def childExpressions : Expression → List (Expression × Span)
  | .tuple args => subExpressionsList args
  | .named _ => []
  | .binary e1 e2 => subExpressions e1 ++ subExpressions e2
  | .unary e1 => subExpressions e1
  | .lit _ => []
  | .arrayIndex e1 e2 => subExpressions e1 ++ subExpressions e2
  | .funcCall _ args => subExpressionsList args
  | .methodCall sel _ args => subExpressions sel ++ subExpressionsList args
termination_by structural e => e
def subExpressionsList : List (Expression × Span) → List (Expression × Span)
  | [] => []
  | e :: es => subExpressions e ++ subExpressionsList es
termination_by structural es => es
end

def readVariable : Expression × Span → Option Ident
  | (.named ⟨[(id, _)], none⟩, _) => some id
  | _ => none

def vars (e : Expression × Span) : List Ident := (subExpressions e).filterMap readVariable

def varsList (es : List (Expression × Span)) : List Ident :=
  (subExpressionsList es).filterMap readVariable

@[simp] theorem vars_list_nil : varsList [] = [] := rfl

@[simp] theorem vars_list_cons (e : Expression × Span) (es : List (Expression × Span)) :
    varsList (e :: es) = vars e ++ varsList es := by
  simp only [varsList, vars, subExpressionsList, List.filterMap_append]

section Forms

variable (span : Span)

@[simp] theorem vars_tuple (args : List (Expression × Span)) :
    vars (.tuple args, span) = varsList args := by
  simp only [vars, varsList, subExpressions, childExpressions, readVariable, List.filterMap_cons]

@[simp] theorem vars_named (id : Ident) (idSpan : Span) :
    vars (.named ⟨[(id, idSpan)], none⟩, span) = [id] := by
  simp only [vars, subExpressions, childExpressions, readVariable, List.filterMap_cons,
    List.filterMap_nil]

@[simp] theorem vars_binary (e1 e2 : Expression × Span) :
    vars (.binary e1 e2, span) = vars e1 ++ vars e2 := by
  simp only [vars, subExpressions, childExpressions, readVariable, List.filterMap_cons,
    List.filterMap_append]

@[simp] theorem vars_unary (e1 : Expression × Span) : vars (.unary e1, span) = vars e1 := by
  simp only [vars, subExpressions, childExpressions, readVariable, List.filterMap_cons,
    List.filterMap_nil]

@[simp] theorem vars_lit (lit : Literal) : vars (.lit lit, span) = [] := by
  simp only [vars, subExpressions, childExpressions, readVariable, List.filterMap_cons,
    List.filterMap_nil]

@[simp] theorem vars_array_index (e1 e2 : Expression × Span) :
    vars (.arrayIndex e1 e2, span) = vars e1 ++ vars e2 := by
  simp only [vars, subExpressions, childExpressions, readVariable, List.filterMap_cons,
    List.filterMap_append]

@[simp] theorem vars_func_call (f : Spanned Path) (args : List (Expression × Span)) :
    vars (.funcCall f args, span) = varsList args := by
  simp only [vars, varsList, subExpressions, childExpressions, readVariable, List.filterMap_cons]

@[simp] theorem vars_method_call (sel : Expression × Span) (f : Spanned Ident)
    (args : List (Expression × Span)) :
    vars (.methodCall sel f args, span) = vars sel ++ varsList args := by
  simp only [vars, varsList, subExpressions, childExpressions, readVariable, List.filterMap_cons,
    List.filterMap_append]

end Forms

def Linear (varContext : VarContext) (x : Ident) : Prop :=
  ∃ t, varContext.get x = some t ∧ t.1.1 = .consumed ∧ isCopy t.2.1 = false

/-- `varContext'` is `varContext` with some names removed, each linear in
`varContext` and among `vs`. -/
structure Removes (varContext : VarContext) (vs : List Ident) (varContext' : VarContext) :
    Prop where
  kept : ∀ x t, varContext'.get x = some t → varContext.get x = some t
  removedLinear : ∀ x, varContext.get x ≠ none → varContext'.get x = none →
    x ∈ vs ∧ Linear varContext x

/-- `varContext'` is `varContext` with exactly the linear names of `vs` removed; every
name of `vs` is bound, and a linear one occurs in `vs` once at most. -/
structure Consumes (varContext : VarContext) (vs : List Ident) (varContext' : VarContext)
    extends Removes varContext vs varContext' : Prop where
  linearRemoved : ∀ x ∈ vs, Linear varContext x → varContext'.get x = none
  bound : ∀ x ∈ vs, varContext.get x ≠ none
  readOnce : ∀ x, Linear varContext x → vs.count x ≤ 1

variable {varContext varContext1 varContext2 : VarContext} {vs ws : List Ident}

theorem Linear.of_kept {x : Ident} (kept : ∀ x t, varContext1.get x = some t → varContext.get x = some t)
    (linear : Linear varContext1 x) : Linear varContext x := by
  obtain ⟨t, found, consumed, notCopy⟩ := linear
  exact ⟨t, kept x t found, consumed, notCopy⟩

theorem Removes.refl (vs : List Ident) : Removes varContext vs varContext :=
  ⟨fun _ _ found => found, fun _ bound unbound => absurd unbound bound⟩

theorem Removes.trans (first : Removes varContext vs varContext1)
    (second : Removes varContext1 ws varContext2) : Removes varContext (vs ++ ws) varContext2 where
  kept x t found := first.kept x t (second.kept x t found)
  removedLinear x bound unbound := by
    cases still : varContext1.get x with
    | none =>
        obtain ⟨member, linear⟩ := first.removedLinear x bound still
        exact ⟨List.mem_append_left _ member, linear⟩
    | some t =>
        obtain ⟨member, linear⟩ := second.removedLinear x (by simp [still]) unbound
        exact ⟨List.mem_append_right _ member, linear.of_kept first.kept⟩

theorem Removes.mono (removes : Removes varContext vs varContext1) (sub : ∀ x ∈ vs, x ∈ ws) :
    Removes varContext ws varContext1 :=
  ⟨removes.kept, fun x bound unbound =>
    (removes.removedLinear x bound unbound).imp_left (sub x)⟩

theorem Removes.get_eq_none (removes : Removes varContext vs varContext1) {x : Ident}
    (unbound : varContext.get x = none) : varContext1.get x = none := by
  cases still : varContext1.get x with
  | none => rfl
  | some t => rw [removes.kept x t still] at unbound; cases unbound

theorem Removes.get_of_not_mem (removes : Removes varContext vs varContext1) {x : Ident}
    (unread : x ∉ vs) : varContext1.get x = varContext.get x := by
  cases still : varContext1.get x with
  | some t => exact (removes.kept x t still).symm
  | none =>
      by_contra bound
      exact unread (removes.removedLinear x (Ne.symm bound) still).1

theorem Consumes.refl : Consumes varContext [] varContext :=
  { Removes.refl [] with
    linearRemoved := fun _ none => nomatch none
    bound := fun _ none => nomatch none
    readOnce := fun _ _ => Nat.zero_le _ }

/-- A name still bound after the first check was not linear-read by it, so the two
checks read linear names of the first context at most once together. -/
theorem Consumes.trans (first : Consumes varContext vs varContext1)
    (second : Consumes varContext1 ws varContext2) : Consumes varContext (vs ++ ws) varContext2 :=
  have linearStill : ∀ x, Linear varContext x → varContext1.get x ≠ none → Linear varContext1 x :=
    fun x ⟨t, found, consumed, notCopy⟩ bound => by
      obtain ⟨u, still⟩ := Option.ne_none_iff_exists'.mp bound
      rw [first.kept x u still] at found
      cases found
      exact ⟨t, still, consumed, notCopy⟩
  { first.toRemoves.trans second.toRemoves with
    linearRemoved := fun x member linear => by
      by_cases gone : varContext1.get x = none
      · exact second.get_eq_none gone
      · rcases List.mem_append.mp member with member | member
        · exact absurd (first.linearRemoved x member linear) gone
        · exact second.linearRemoved x member (linearStill x linear gone)
    bound := fun x member => by
      rcases List.mem_append.mp member with member | member
      · exact first.bound x member
      · intro unbound
        obtain ⟨u, still⟩ := Option.ne_none_iff_exists'.mp (second.bound x member)
        rw [first.kept x u still] at unbound
        cases unbound
    readOnce := fun x linear => by
      rw [List.count_append]
      by_cases gone : varContext1.get x = none
      · have notLater : ws.count x = 0 :=
          List.count_eq_zero.mpr fun member => second.bound x member gone
        have := first.readOnce x linear
        omega
      · have notFirst : vs.count x = 0 :=
          List.count_eq_zero.mpr fun member => gone (first.linearRemoved x member linear)
        have := second.readOnce x (linearStill x linear gone)
        omega }

theorem Consumes.of_fewer (consumes : Consumes varContext vs varContext1)
    (same : ∀ x, x ∈ ws ↔ x ∈ vs) (fewer : ∀ x, ws.count x ≤ vs.count x) :
    Consumes varContext ws varContext1 :=
  { consumes.toRemoves.mono fun x member => (same x).mpr member with
    linearRemoved := fun x member => consumes.linearRemoved x ((same x).mp member)
    bound := fun x member => consumes.bound x ((same x).mp member)
    readOnce := fun x linear => (fewer x).trans (consumes.readOnce x linear) }

theorem consumes_read {id : Ident} {t : Typ} (found : varContext.get id = some t) :
    (Linear varContext id → Consumes varContext [id] (varContext.without id)) ∧
      (¬ Linear varContext id → Consumes varContext [id] varContext) := by
  constructor
  · intro linear
    refine ⟨⟨fun x u still => ?_, fun x bound unbound => ?_⟩, ?_, ?_, ?_⟩
    · rw [HashMap.get_without] at still
      split at still
      · cases still
      · exact still
    · rw [HashMap.get_without] at unbound
      split at unbound
      · rename_i same
        exact ⟨List.mem_singleton.mpr same, same ▸ linear⟩
      · exact absurd unbound bound
    · intro x member _
      rw [List.mem_singleton.mp member, HashMap.get_without, if_pos rfl]
    · intro x member
      rw [List.mem_singleton.mp member, found]
      exact Option.some_ne_none t
    · intro x _
      rw [List.count_singleton]
      split <;> omega
  · intro notLinear
    refine { Removes.refl [id] with linearRemoved := ?_, bound := ?_, readOnce := ?_ }
    · intro x member linear
      rw [List.mem_singleton.mp member] at linear
      exact absurd linear notLinear
    · intro x member
      rw [List.mem_singleton.mp member, found]
      exact Option.some_ne_none t
    · intro x _
      rw [List.count_singleton]
      split <;> omega

mutual
theorem removes_of_typed {lax : Bool} {fnContext : FnContext} :
    ∀ {varContext : VarContext} {e : Expression × Span} {t : Typ} {varContext' : VarContext},
      Typed lax fnContext varContext e t varContext' → Removes varContext (vars e) varContext'
  | _, (_, _), _, _, typed => removes_of_typed_expr typed
termination_by structural _ e => e
theorem removes_of_typed_expr {lax : Bool} {fnContext : FnContext} :
    ∀ {varContext : VarContext} {e : Expression} {span : Span} {t : Typ} {varContext' : VarContext},
      Typed lax fnContext varContext (e, span) t varContext' →
        Removes varContext (vars (e, span)) varContext'
  | _, _, _, _, _, .tuple components => by
      rw [vars_tuple]
      exact removes_of_tuple_typed components
  | _, _, _, _, _, .moved found consumed notCopy =>
      ((consumes_read found).1 ⟨_, found, consumed, notCopy⟩).toRemoves
  | _, _, _, _, _, .copied .. | _, _, _, _, _, .borrowed .. => Removes.refl _
  | _, _, _, _, _, .binary left right _ | _, _, _, _, _, .arrayIndex left right .. => by
      simp only [vars_binary, vars_array_index]
      exact (removes_of_typed left).trans (removes_of_typed right)
  | _, _, _, _, _, .unary inner => by
      rw [vars_unary]
      exact removes_of_typed inner
  | _, _, _, _, _, .lit => Removes.refl _
  | _, _, _, _, _, .funcCall _ _ arguments => by
      rw [vars_func_call]
      exact removes_of_args_typed arguments
  | _, _, _, _, _, .methodCall receiver _ _ arguments _ receiverAgain _ => by
      rw [vars_method_call]
      exact (((removes_of_typed receiver).trans (removes_of_args_typed arguments)).trans
        (removes_of_typed receiverAgain)).mono fun x member =>
          (List.mem_append.mp member).elim id (List.mem_append_left _)
  | _, _, _, _, _, .methodCallNoParam receiver _ _ arguments _ => by
      rw [vars_method_call]
      exact (removes_of_typed receiver).trans (removes_of_args_typed arguments)
termination_by structural _ e => e
theorem removes_of_tuple_typed {lax : Bool} {fnContext : FnContext} :
    ∀ {varContext : VarContext} {args : List (Expression × Span)} {typArgs : List (Spanned BaseTyp)}
      {varContext' : VarContext},
      TupleTyped lax fnContext varContext args typArgs varContext' →
        Removes varContext (varsList args) varContext'
  | _, _, _, _, .nil => Removes.refl _
  | _, _, _, _, .cons first rest => by
      rw [vars_list_cons]
      exact (removes_of_typed first).trans (removes_of_tuple_typed rest)
termination_by structural _ args => args
theorem removes_of_args_typed {lax : Bool} {fnContext : FnContext} :
    ∀ {varContext : VarContext} {params : List (Spanned Ident × Spanned Typ)}
      {args : List (Expression × Span)} {varContext' : VarContext},
      ArgsTyped lax fnContext varContext params args varContext' →
        Removes varContext (varsList args) varContext'
  | _, _, _, _, .paramsDone | _, _, _, _, .argsDone => Removes.refl _
  | _, _, _, _, .cons first _ rest => by
      rw [vars_list_cons]
      exact (removes_of_typed first).trans (removes_of_args_typed rest)
termination_by structural _ _ args => args
end

mutual
theorem consumes_of_typed {fnContext : FnContext} :
    ∀ {varContext : VarContext} {e : Expression × Span} {t : Typ} {varContext' : VarContext},
      Typed false fnContext varContext e t varContext' → Consumes varContext (vars e) varContext'
  | _, (_, _), _, _, typed => consumes_of_typed_expr typed
termination_by structural _ e => e
theorem consumes_of_typed_expr {fnContext : FnContext} :
    ∀ {varContext : VarContext} {e : Expression} {span : Span} {t : Typ} {varContext' : VarContext},
      Typed false fnContext varContext (e, span) t varContext' →
        Consumes varContext (vars (e, span)) varContext'
  | _, _, _, _, _, .tuple components => by
      rw [vars_tuple]
      exact consumes_of_tuple_typed components
  | _, _, _, _, _, .moved found consumed notCopy => by
      rw [vars_named]
      exact (consumes_read found).1 ⟨_, found, consumed, notCopy⟩
  | _, _, _, _, _, .copied found _ copy => by
      rw [vars_named]
      exact (consumes_read found).2 fun ⟨_, same, _, notCopy⟩ => by
        rw [found] at same
        cases same
        rw [copy] at notCopy
        cases notCopy
  | _, _, _, _, _, .borrowed found borrowed => by
      rw [vars_named]
      exact (consumes_read found).2 fun ⟨_, same, consumed, _⟩ => by
        rw [found] at same
        cases same
        rw [borrowed] at consumed
        cases consumed
  | _, _, _, _, _, .binary left right _ | _, _, _, _, _, .arrayIndex left right .. => by
      simp only [vars_binary, vars_array_index]
      exact (consumes_of_typed left).trans (consumes_of_typed right)
  | _, _, _, _, _, .unary inner => by
      rw [vars_unary]
      exact consumes_of_typed inner
  | _, _, _, _, _, .lit => Consumes.refl
  | _, _, _, _, _, .funcCall _ arity arguments => by
      rw [vars_func_call]
      exact consumes_of_args_typed arguments (arity.resolve_left Bool.false_ne_true).ge
  | _, _, _, _, _, .methodCall receiver _ arity arguments _ receiverAgain _ => by
      rw [vars_method_call]
      have arity := arity.resolve_left Bool.false_ne_true
      refine (((consumes_of_typed receiver).trans
        (consumes_of_args_typed arguments (by omega))).trans
          (consumes_of_typed receiverAgain)).of_fewer (fun x => ⟨List.mem_append_left _,
            fun member => (List.mem_append.mp member).elim id (List.mem_append_left _)⟩) fun x => ?_
      simp only [List.count_append]
      omega
  | _, _, _, _, _, .methodCallNoParam _ _ isLax _ _ => absurd isLax Bool.false_ne_true
termination_by structural _ e => e
theorem consumes_of_tuple_typed {fnContext : FnContext} :
    ∀ {varContext : VarContext} {args : List (Expression × Span)} {typArgs : List (Spanned BaseTyp)}
      {varContext' : VarContext},
      TupleTyped false fnContext varContext args typArgs varContext' →
        Consumes varContext (varsList args) varContext'
  | _, _, _, _, .nil => Consumes.refl
  | _, _, _, _, .cons first rest => by
      rw [vars_list_cons]
      exact (consumes_of_typed first).trans (consumes_of_tuple_typed rest)
termination_by structural _ args => args
theorem consumes_of_args_typed {fnContext : FnContext} :
    ∀ {varContext : VarContext} {params : List (Spanned Ident × Spanned Typ)}
      {args : List (Expression × Span)} {varContext' : VarContext},
      ArgsTyped false fnContext varContext params args varContext' →
        args.length ≤ params.length → Consumes varContext (varsList args) varContext'
  | _, _, [], _, .paramsDone, _ | _, _, _, _, .argsDone, _ => Consumes.refl
  | _, _, _ :: _, _, .paramsDone, enough => absurd enough (Nat.not_succ_le_zero _)
  | _, _, _, _, .cons first _ rest, enough => by
      rw [vars_list_cons]
      exact (consumes_of_typed first).trans
        (consumes_of_args_typed rest (Nat.le_of_succ_le_succ enough))
termination_by structural _ _ args => args
end

theorem removes_of_ok {fnContext : FnContext} {e : Expression × Span} {varContext : VarContext}
    {t : Typ} {varContext' : VarContext}
    (ran : (typecheckExpression fnContext e varContext).result = .ok (t, varContext')) :
    Removes varContext (vars e) varContext' :=
  removes_of_typed (typed_of_ok_with true fnContext e varContext t varContext' (ok_with_tolerated_of_ok ran))

theorem removes_of_typecheck_args_ok {fnContext : FnContext} {params : List (Spanned Ident × Spanned Typ)}
    {args : List (Expression × Span)} {varContext varContext' : VarContext}
    (ran : (typecheckArgs fnContext params args varContext).result = .ok varContext') :
    Removes varContext (varsList args) varContext' :=
  removes_of_args_typed (args_typed_of_ok_with true fnContext params args varContext varContext'
    ((reported_typecheck_args fnContext params args varContext).ok_with_tolerated ran))

/-- A successful check only removes bindings, each one a linear name the expression
reads; with no arity mismatch it removes exactly those, and each is read once. -/
theorem check_moves_only_linear_reads (fnContext : FnContext) (e : Expression × Span)
    (varContext : VarContext) (t : Typ) (varContext' : VarContext)
    (ran : (typecheckExpression fnContext e varContext).result = .ok (t, varContext')) :
    (∀ x u, varContext'.get x = some u → varContext.get x = some u) ∧
      (∀ x, varContext.get x ≠ none → varContext'.get x = none →
        x ∈ vars e ∧ Linear varContext x) ∧
      ((∀ d ∈ (typecheckExpression fnContext e varContext).diags,
          d.message.isArityMismatch = false) →
        (∀ x, varContext.get x ≠ none ∧ varContext'.get x = none ↔
          x ∈ vars e ∧ Linear varContext x) ∧
        ∀ x ∈ vars e, Linear varContext x → (vars e).count x = 1) := by
  have removes := removes_of_ok ran
  refine ⟨removes.kept, removes.removedLinear, fun noArity => ?_⟩
  have clean := (reported_typecheck_expression fnContext e varContext).clean_of_ok ran noArity
  have consumes := consumes_of_typed
    (typed_of_ok_with false fnContext e varContext t varContext' ((Tc.clean_iff_ok_with _ _).mp clean))
  refine ⟨fun x => ⟨fun ⟨bound, unbound⟩ => removes.removedLinear x bound unbound, ?_⟩, ?_⟩
  · rintro ⟨member, linear⟩
    exact ⟨consumes.bound x member, consumes.linearRemoved x member linear⟩
  · intro x member linear
    have := consumes.readOnce x linear
    have := List.count_pos_iff.mpr member
    omega

def ownedBytes : Typ := ((.consumed, noSpan), (.seq (.uInt8, noSpan), noSpan))

theorem reading_owned_bytes_moves_them :
    (typecheckExpression HashMap.new (readOf "v") (HashMap.unit "v" ownedBytes)).result =
        .ok (ownedBytes, (HashMap.unit "v" ownedBytes).without "v") ∧
      (vars (readOf "v")).count "v" = 1 :=
  have ran : (typecheckExpression HashMap.new (readOf "v") (HashMap.unit "v" ownedBytes)).result =
      .ok (ownedBytes, (HashMap.unit "v" ownedBytes).without "v") := rfl
  ⟨ran, (check_moves_only_linear_reads _ _ _ _ _ ran).2.2 (fun _ none => nomatch none) |>.2 "v"
    (List.mem_singleton_self _) ⟨ownedBytes, rfl, rfl, rfl⟩⟩

end Hacspec.Typechecker
