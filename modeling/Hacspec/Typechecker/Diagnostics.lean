import Hacspec.Typechecker.ForwardPass

/-!
# Failure and diagnostics

Every `Err(())` of the typechecker is preceded by a `span_err`, and every
`span_err` other than the three arity reports is followed by `Err(())`; every
caller passes an `Err` on, through `?` or through `check_vec`. `Tc.Reported`
names this for one check: it fails exactly when it reported a diagnostic other than
an arity mismatch. The property is closed under `bind`, so each form of the
checker only has to show it for the steps it adds; the `map` and `fold` loops, which
keep going after a failure, carry it as `ComponentsReported`.

Since those loops keep going, a failure does not stop the check: the program check
is a fold over the items (`typecheck_program_append_item`), and every item and every
later tuple component is checked after one has failed.
-/

namespace Hacspec.Typechecker

open Hacspec.Rustspec

set_option autoImplicit false

def Diagnostic.Fatal (d : Diagnostic) : Prop := d.message.isArityMismatch = false

namespace Tc

variable {α β : Type}

/-- The check fails exactly when it reported a diagnostic other than an arity
mismatch. -/
def Reported (x : Tc α) : Prop := x.result = .error () ↔ ∃ d ∈ x.diags, d.Fatal

theorem Reported.of_pure (a : α) : (pure a : Tc α).Reported := by
  simp [Reported]

theorem Reported.bind {x : Tc α} {f : α → Tc β} (first : x.Reported)
    (next : ∀ a, x.result = .ok a → (f a).Reported) : (x >>= f).Reported := by
  rcases ran : x.result with ⟨⟨⟩⟩ | a
  · rw [bind_of_error ran]
    exact iff_of_true rfl (first.mp ran)
  · have quiet : ¬∃ d ∈ x.diags, d.Fatal := fun fatal => by
      rw [first.mpr fatal] at ran
      cases ran
    rw [bind_of_ok ran]
    simp only [Reported, List.mem_append, or_and_right, exists_or]
    exact (next a ran).trans (or_iff_right quiet).symm

theorem Reported.span_err_fail {m : Message} (fatal : m.isArityMismatch = false) (span : Span) :
    (spanErr span m >>= fun _ => (fail : Tc β)).Reported := by
  rw [bind_of_ok (span_err_result span m)]
  exact iff_of_true rfl ⟨_, List.mem_append_left _ (List.mem_singleton_self _), fatal⟩

theorem Reported.span_err_arity {m : Message} (arity : m.isArityMismatch = true) (span : Span) :
    (spanErr span m).Reported := by
  simp [Reported, Diagnostic.Fatal, arity]

theorem Reported.some_or {m : Message} (fatal : m.isArityMismatch = false) (o : Option α)
    (span : Span) : (someOr o span m).Reported := by
  cases o
  · exact Reported.span_err_fail fatal span
  · exact Reported.of_pure _

theorem Reported.fail_if {m : Message} (fatal : m.isArityMismatch = false) (c : Bool)
    (span : Span) : (failIf c span m).Reported := by
  cases c
  · exact Reported.of_pure _
  · exact Reported.span_err_fail fatal span

theorem Reported.clean_of_ok {x : Tc α} {a : α} (reported : x.Reported) (ran : x.result = .ok a)
    (noArity : ∀ d ∈ x.diags, d.message.isArityMismatch = false) : x.Clean a := by
  refine ⟨ran, List.eq_nil_iff_forall_not_mem.mpr fun d member => ?_⟩
  have failed := reported.mpr ⟨d, member, noArity d member⟩
  rw [ran] at failed
  cases failed

theorem Reported.report_if {m : Message} (arity : m.isArityMismatch = true) (c : Bool)
    (span : Span) : (reportIf c span m).Reported := by
  cases c
  · exact Reported.of_pure _
  · exact Reported.span_err_arity arity span

end Tc

theorem check_vec_eq_error_iff {α : Type} (rs : List (TypecheckingResult α)) :
    checkVec rs = .error () ↔ .error () ∈ rs := by
  induction rs with
  | nil => simp [checkVec]
  | cons r rs ih =>
      rcases r with ⟨⟨⟩⟩ | a
      · simp [checkVec]
      · cases rest : checkVec rs <;> simp_all [checkVec, Except.map]

/-- A loop that keeps going after a failing step: it returns its entries, and one
of them is `Err` exactly when it reported a diagnostic other than an arity
mismatch. -/
def ComponentsReported {α γ : Type} (x : Tc (List (TypecheckingResult α) × γ)) : Prop :=
  ∃ rs c, x.result = .ok (rs, c) ∧ (.error () ∈ rs ↔ ∃ d ∈ x.diags, d.Fatal)

theorem reported_of_components_reported {α γ β : Type} {x : Tc (List (TypecheckingResult α) × γ)}
    (loop : ComponentsReported x) (finish : List α → γ → Tc β)
    (finished : ∀ vs c, (finish vs c).Reported ∧ (finish vs c).diags = []) :
    (x >>= fun (rs, c) => Tc.lift (checkVec rs) >>= fun vs => finish vs c).Reported := by
  obtain ⟨rs, c, ran, components⟩ := loop
  rw [Tc.bind_of_ok ran]
  dsimp only
  rcases checked : checkVec rs with ⟨⟨⟩⟩ | vs
  · simp only [Tc.lift_error_bind, Tc.fail_diags, List.append_nil]
    exact iff_of_true rfl (components.mp ((check_vec_eq_error_iff rs).mp checked))
  · have quiet : ¬∃ d ∈ x.diags, d.Fatal := fun fatal => by
      rw [← components, ← check_vec_eq_error_iff, checked] at fatal
      cases fatal
    simp only [Tc.lift_ok_bind, (finished vs c).2, List.append_nil]
    exact (finished vs c).1.trans (iff_of_false (by simp [(finished vs c).2]) quiet)

theorem reported_check_arg_typ (argT sigT : Typ) (argSpan : Span) :
    (checkArgTyp argT sigT argSpan).Reported :=
  (Tc.Reported.fail_if (by rfl) _ _).bind fun _ _ =>
    (Tc.Reported.fail_if (by rfl) _ _).bind fun _ _ => Tc.Reported.fail_if (by rfl) _ _

theorem reported_typecheck_arg_with (param : Spanned Ident × Spanned Typ) (argSpan : Span)
    {checked : Tc (Typ × VarContext)} (inner : checked.Reported) :
    (typecheckArgWith param argSpan checked).Reported :=
  inner.bind fun _ _ => (reported_check_arg_typ _ _ _).bind fun _ _ => Tc.Reported.of_pure _

theorem tuple_component_reported (argSpan : Span) (varContext : VarContext)
    (checked : TypecheckingResult (Typ × VarContext)) :
    ∃ r c, (tupleComponent argSpan varContext checked).result = .ok (r, c) ∧
      (r = .error () ↔ checked = .error () ∨
        ∃ d ∈ (tupleComponent argSpan varContext checked).diags, d.Fatal) := by
  rcases checked with ⟨⟨⟩⟩ | ⟨⟨⟨_ | _, _⟩, _⟩, _⟩
  · exact ⟨_, _, rfl, by simp⟩
  · exact ⟨_, _, rfl, by simp [tupleComponent, Diagnostic.Fatal, Message.isArityMismatch]⟩
  · refine ⟨_, _, rfl, ?_⟩
    simp [tupleComponent, Tc.bind_of_ok (Tc.span_err_result _ _), Diagnostic.Fatal,
      Message.isArityMismatch]

mutual
theorem reported_typecheck_expression (fnContext : FnContext) :
    ∀ (e : Expression × Span) (varContext : VarContext),
      (typecheckExpression fnContext e varContext).Reported
  | (e, span), varContext => reported_check_expression fnContext e span varContext
termination_by structural e => e
theorem reported_check_expression (fnContext : FnContext) :
    ∀ (e : Expression) (span : Span) (varContext : VarContext),
      (checkExpression fnContext e span varContext).Reported
  | .tuple args, span, varContext => by
      rw [checkExpression]
      exact reported_of_components_reported
        (components_reported_typecheck_tuple_args fnContext args varContext)
        (fun typArgs varContext =>
          (pure (((.consumed, span), (.tuple typArgs, span)), varContext) : Tc (Typ × VarContext)))
        fun _ _ => ⟨Tc.Reported.of_pure _, rfl⟩
  | .named path, span, varContext => by
      rw [checkExpression]
      split
      · split
        · exact Tc.Reported.span_err_fail (by rfl) _
        · split
          · split <;> exact Tc.Reported.of_pure _
          · exact Tc.Reported.of_pure _
      · exact Tc.Reported.span_err_fail (by rfl) _
  | .binary e1 e2, span, varContext => by
      rw [checkExpression]
      exact (reported_typecheck_expression fnContext e1 varContext).bind fun _ _ =>
        (reported_typecheck_expression fnContext e2 _).bind fun _ _ =>
          (Tc.Reported.fail_if (by rfl) _ _).bind fun _ _ => Tc.Reported.of_pure _
  | .unary e1, _, varContext => by
      rw [checkExpression]
      exact reported_typecheck_expression fnContext e1 varContext
  | .lit _, _, _ => Tc.Reported.of_pure _
  | .arrayIndex e1 e2, _, varContext => by
      rw [checkExpression]
      refine (reported_typecheck_expression fnContext e1 varContext).bind fun ⟨_, _⟩ _ =>
        (reported_typecheck_expression fnContext e2 _).bind fun ⟨_, _⟩ _ => ?_
      dsimp only
      split
      · exact (Tc.Reported.fail_if (by rfl) _ _).bind fun _ _ =>
          (Tc.Reported.fail_if (by rfl) _ _).bind fun _ _ => Tc.Reported.of_pure _
      · exact Tc.Reported.span_err_fail (by rfl) _
  | .funcCall (f, fSpan) args, span, varContext => by
      rw [checkExpression]
      split
      · exact (Tc.Reported.some_or (by rfl) _ _).bind fun _ _ =>
          (Tc.Reported.report_if (by rfl) _ _).bind fun _ _ =>
            (reported_typecheck_args fnContext _ args varContext).bind fun _ _ =>
              Tc.Reported.of_pure _
      · exact Tc.Reported.span_err_fail (by rfl) _
  | .methodCall sel (f, fSpan) args, span, varContext => by
      rw [checkExpression]
      refine (reported_typecheck_expression fnContext sel varContext).bind fun _ _ =>
        (Tc.Reported.some_or (by rfl) _ _).bind fun _ _ =>
          (Tc.Reported.report_if (by rfl) _ _).bind fun _ _ =>
            (reported_typecheck_args fnContext _ args _).bind fun _ _ => ?_
      split
      · exact (reported_typecheck_arg_with _ _ (reported_typecheck_expression fnContext sel _)).bind
          fun _ _ => Tc.Reported.of_pure _
      · exact Tc.Reported.of_pure _
termination_by structural e => e
theorem components_reported_typecheck_tuple_args (fnContext : FnContext) :
    ∀ (args : List (Expression × Span)) (varContext : VarContext),
      ComponentsReported (typecheckTupleArgs fnContext args varContext)
  | [], varContext => ⟨[], varContext, rfl, by simp [typecheckTupleArgs]⟩
  | arg :: args, varContext => by
      have inner : _ ↔ _ := reported_typecheck_expression fnContext arg varContext
      obtain ⟨r, c, ranStep, step⟩ :=
        tuple_component_reported arg.2 varContext (typecheckExpression fnContext arg varContext).result
      obtain ⟨rs, c', ranRest, rest⟩ := components_reported_typecheck_tuple_args fnContext args c
      rw [typecheckTupleArgs, Tc.bind_of_ok (Tc.attempt_result _)]
      dsimp only
      rw [Tc.bind_of_ok ranStep]
      dsimp only
      rw [Tc.bind_of_ok ranRest]
      refine ⟨r :: rs, c', rfl, ?_⟩
      rw [List.mem_cons, rest, eq_comm, step, inner]
      simp only [Tc.attempt_diags, Tc.pure_diags, List.append_nil, List.mem_append, or_and_right,
        exists_or, or_assoc]
termination_by structural args => args
theorem reported_typecheck_args (fnContext : FnContext) :
    ∀ (params : List (Spanned Ident × Spanned Typ)) (args : List (Expression × Span))
      (varContext : VarContext), (typecheckArgs fnContext params args varContext).Reported
  | _ :: params, arg :: args, varContext => by
      rw [typecheck_args_cons]
      exact (reported_typecheck_arg_with _ _ (reported_typecheck_expression fnContext arg varContext)).bind
        fun _ _ => reported_typecheck_args fnContext params args _
  | [], _, varContext => by
      rw [typecheck_args_params_nil]
      exact Tc.Reported.of_pure varContext
  | _ :: _, [], varContext => Tc.Reported.of_pure varContext
termination_by structural _ args => args
end

theorem union_acc_eq_error_iff (sub acc : TypecheckingResult VarContext) :
    unionAcc sub acc = .error () ↔ acc = .error () ∨ sub = .error () := by
  rcases sub with ⟨⟨⟩⟩ | _ <;> rcases acc with ⟨⟨⟩⟩ | _ <;> simp [unionAcc]

mutual
theorem reported_typecheck_pattern :
    ∀ (p : Pattern × Span) (typ : Typ), (typecheckPattern p typ).Reported
  | (pat, patSpan), typ => reported_check_pattern pat patSpan typ
termination_by structural p => p
theorem reported_check_pattern :
    ∀ (pat : Pattern) (patSpan : Span) (typ : Typ), (checkPattern pat patSpan typ).Reported
  | .tuple patArgs, patSpan, (_, typ) => by
      rw [checkPattern]
      split
      · refine (Tc.Reported.report_if (by rfl) _ _).bind fun _ _ => ?_
        obtain ⟨acc, ran, spec⟩ :=
          reported_typecheck_pattern_args patSpan (.ok HashMap.new) patArgs _
        rw [Tc.bind_of_ok ran]
        simp only [Tc.Reported, Tc.lift_result, Tc.lift_diags, List.append_nil, spec]
        simp
      · exact Tc.Reported.span_err_fail (by rfl) _
  | .wildCard, _, _ => Tc.Reported.of_pure _
  | .identPat _, _, _ => Tc.Reported.of_pure _
termination_by structural p => p
theorem reported_typecheck_pattern_args (patSpan : Span) :
    ∀ (acc : TypecheckingResult VarContext) (patArgs : List (Pattern × Span))
      (typArgs : List (Spanned BaseTyp)), ∃ acc',
      (typecheckPatternArgs patSpan acc patArgs typArgs).result = .ok acc' ∧
        (acc' = .error () ↔ acc = .error () ∨
          ∃ d ∈ (typecheckPatternArgs patSpan acc patArgs typArgs).diags, d.Fatal)
  | acc, patArg :: patArgs, typArg :: typArgs => by
      have inner : _ ↔ _ := reported_typecheck_pattern patArg ((.consumed, patSpan), typArg)
      obtain ⟨acc', ran, spec⟩ := reported_typecheck_pattern_args patSpan
        (unionAcc (typecheckPattern patArg ((.consumed, patSpan), typArg)).result acc) patArgs typArgs
      rw [typecheck_pattern_args_cons, Tc.bind_of_ok (Tc.attempt_result _)]
      refine ⟨acc', ran, ?_⟩
      rw [spec, union_acc_eq_error_iff, inner]
      simp only [Tc.attempt_diags, List.mem_append, or_and_right, exists_or, or_assoc]
  | acc, [], _ | acc, _ :: _, [] => ⟨acc, rfl, by
      show acc = .error () ↔ acc = .error () ∨ ∃ d ∈ ([] : List Diagnostic), d.Fatal
      simp⟩
termination_by structural _ patArgs => patArgs
end

theorem reported_check_declared_typ (typ : Option (Spanned Typ)) (exprTyp : Typ) (patSpan : Span) :
    (checkDeclaredTyp typ exprTyp patSpan).Reported := by
  cases typ
  · exact Tc.Reported.of_pure _
  · exact Tc.Reported.fail_if (by rfl) _ _

theorem reported_typecheck_statement (fnContext : FnContext) (s : Spanned Statement)
    (varContext : VarContext) : (typecheckStatement fnContext s varContext).Reported := by
  obtain ⟨⟨⟨pat, patSpan⟩, typ, expr⟩, sSpan⟩ := s
  exact (reported_typecheck_expression fnContext expr varContext).bind fun _ _ =>
    (reported_check_declared_typ _ _ _).bind fun _ _ =>
      (reported_typecheck_pattern _ _).bind fun _ _ => Tc.Reported.of_pure _

theorem reported_typecheck_stmts (fnContext : FnContext) :
    ∀ (stmts : List (Spanned Statement)) (varContext : VarContext) (mutatedVars : VarSet)
      (returnTyp : Option Typ),
      (typecheckStmts fnContext stmts varContext mutatedVars returnTyp).Reported
  | [], _, _, _ => Tc.Reported.of_pure _
  | s :: rest, varContext, _, _ => by
      rw [typecheckStmts]
      refine (reported_typecheck_statement fnContext s varContext).bind fun ⟨_, _, _⟩ _ => ?_
      cases rest with
      | nil => exact Tc.Reported.of_pure _
      | cons next rest =>
          dsimp only
          split
          · exact reported_typecheck_stmts fnContext _ _ _ _
          · exact Tc.Reported.span_err_fail (by rfl) _
termination_by structural stmts => stmts

theorem reported_typecheck_block (fnContext : FnContext) (b : Block) (varContext : VarContext) :
    (typecheckBlock fnContext b varContext).Reported :=
  (reported_typecheck_stmts fnContext _ _ _ _).bind fun _ _ => Tc.Reported.of_pure _

theorem reported_typecheck_item (i : Item) (fnContext : FnContext) :
    (typecheckItem i fnContext).Reported := by
  rcases i with ⟨⟨f, fSpan⟩, sig, ⟨b, bSpan⟩⟩ | p
  · exact (reported_typecheck_block fnContext b _).bind fun _ _ => Tc.Reported.of_pure _
  · exact Tc.Reported.of_pure _

theorem reported_typecheck_items :
    ∀ (p : List (Spanned Item)) (fnContext : FnContext), ∃ items,
      (typecheckItems p fnContext).result = .ok items ∧
        (.error () ∈ items ↔ ∃ d ∈ (typecheckItems p fnContext).diags, d.Fatal)
  | [], _ => ⟨[], rfl, by simp [typecheckItems]⟩
  | (i, iSpan) :: p, fnContext => by
      have inner : _ ↔ _ := reported_typecheck_item i fnContext
      rw [typecheckItems, Tc.bind_of_ok (Tc.attempt_result _)]
      rcases checked : (typecheckItem i fnContext).result with ⟨⟨⟩⟩ | ⟨newI, newFnContext⟩
      all_goals
        dsimp only
        obtain ⟨items, ran, rest⟩ := reported_typecheck_items p _
        rw [Tc.bind_of_ok ran]
        refine ⟨_, rfl, ?_⟩
        rw [checked] at inner
        simp [rest, ← inner, or_and_right, exists_or]

theorem reported_typecheck_program (p : Program) : (typecheckProgram p).Reported := by
  obtain ⟨items, ran, entries⟩ := reported_typecheck_items p HashMap.new
  rw [typecheckProgram, Tc.bind_of_ok ran]
  rcases checked : checkVec items with ⟨⟨⟩⟩ | _
  · exact iff_of_true (by simp [checked])
      (by simpa using entries.mp ((check_vec_eq_error_iff items).mp checked))
  · refine iff_of_false (by simp [checked]) fun fatal => ?_
    rw [Tc.lift_diags, List.append_nil, ← entries, ← check_vec_eq_error_iff, checked] at fatal
    cases fatal

theorem typecheck_program_of_failed_take (p : Program) (k : Nat)
    (failed : (typecheckProgram (p.take k)).result = .error ()) :
    (typecheckProgram p).result = .error () ∧
      (typecheckProgram p).diags = (typecheckProgram (p.take k)).diags ++
        (typecheckItems (p.drop k) (fnContextAfter (p.take k) HashMap.new)).diags := by
  obtain ⟨before, ranBefore, -⟩ := reported_typecheck_items (p.take k) HashMap.new
  obtain ⟨rest, ranRest, -⟩ :=
    reported_typecheck_items (p.drop k) (fnContextAfter (p.take k) HashMap.new)
  have whole := typecheck_items_append (p.take k) (p.drop k) HashMap.new
  rw [List.take_append_drop, Tc.bind_of_ok ranBefore, Tc.bind_of_ok ranRest] at whole
  rw [typecheckProgram, Tc.bind_of_ok ranBefore] at failed
  have failedEntry : .error () ∈ before := (check_vec_eq_error_iff before).mp failed
  rw [typecheckProgram, typecheckProgram, whole, Tc.bind_of_ok ranBefore, Tc.bind_of_ok rfl]
  simp [check_vec_eq_error_iff, failedEntry]

theorem check_vec_append_singleton {α : Type} (rs : List (TypecheckingResult α))
    (r : TypecheckingResult α) :
    checkVec (rs ++ [r]) = (checkVec rs).bind fun vs => r.map fun v => vs ++ [v] := by
  induction rs with
  | nil => rcases r with ⟨⟨⟩⟩ | v <;> rfl
  | cons r' rs ih =>
      rcases r' with ⟨⟨⟩⟩ | v
      · rfl
      · rw [List.cons_append, checkVec, ih, checkVec]
        rcases checkVec rs with ⟨⟨⟩⟩ | vs <;> rcases r with ⟨⟨⟩⟩ | v' <;> rfl

theorem typecheck_items_singleton (i : Item) (iSpan : Span) (fnContext : FnContext) :
    typecheckItems [(i, iSpan)] fnContext =
      ⟨(typecheckItem i fnContext).diags,
        .ok [(typecheckItem i fnContext).result.map fun r => (r.1, iSpan)]⟩ := by
  rw [typecheckItems, Tc.bind_of_ok (Tc.attempt_result _)]
  rcases (typecheckItem i fnContext) with ⟨diags, ⟨⟨⟩⟩ | ⟨newI, newFnContext⟩⟩ <;>
    simp only [typecheckItems, Tc.pure_bind, Tc.pure_diags, List.append_nil] <;> rfl

/-- The program check is a fold over the items: one more item adds the diagnostics
of checking it against the table of the functions accepted before it, and the
program checks when the shorter program and the item both check. -/
theorem typecheck_program_append_item (p : Program) (i : Item) (iSpan : Span) :
    (typecheckProgram (p ++ [(i, iSpan)])).diags =
        (typecheckProgram p).diags ++ (typecheckItem i (declaredTable (acceptedItems p []))).diags ∧
      (typecheckProgram (p ++ [(i, iSpan)])).result =
        (typecheckProgram p).result.bind fun checked =>
          (typecheckItem i (declaredTable (acceptedItems p []))).result.map fun r =>
            checked ++ [(r.1, iSpan)] := by
  obtain ⟨before, ranBefore, -⟩ := reported_typecheck_items p HashMap.new
  rw [← fn_context_after_declared_table, declared_table_nil, typecheckProgram, typecheckProgram,
    typecheck_items_append, Tc.bind_of_ok ranBefore, Tc.bind_of_ok ranBefore,
    typecheck_items_singleton, Tc.bind_of_ok rfl, Tc.bind_of_ok rfl]
  refine ⟨by simp, ?_⟩
  simp only [Tc.lift_result, Tc.pure_result, check_vec_append_singleton]
  rcases (typecheckItem i (fnContextAfter p HashMap.new)).result with ⟨⟨⟩⟩ | r <;>
    rcases checkVec before with ⟨⟨⟩⟩ | vs <;> rfl

theorem typecheck_tuple_args_append (fnContext : FnContext) (args more : List (Expression × Span))
    (varContext : VarContext) :
    typecheckTupleArgs fnContext (args ++ more) varContext = (do
      let (typArgs, varContext) ← typecheckTupleArgs fnContext args varContext
      let (moreTypArgs, varContext) ← typecheckTupleArgs fnContext more varContext
      pure (typArgs ++ moreTypArgs, varContext)) := by
  induction args generalizing varContext with
  | nil => exact (Tc.bind_pure _).symm
  | cons arg args ih =>
      simp only [List.cons_append, typecheckTupleArgs, List.append_eq, ih, Tc.bind_assoc,
        Tc.pure_bind]

theorem check_expression_tuple_of_failed_component (fnContext : FnContext)
    (args more : List (Expression × Span)) (span : Span) (varContext : VarContext)
    {typArgs : List (TypecheckingResult (Spanned BaseTyp))} {afterArgs : VarContext}
    (ran : (typecheckTupleArgs fnContext args varContext).result = .ok (typArgs, afterArgs))
    (failed : .error () ∈ typArgs) :
    (checkExpression fnContext (.tuple (args ++ more)) span varContext).result = .error () ∧
      (checkExpression fnContext (.tuple (args ++ more)) span varContext).diags =
        (typecheckTupleArgs fnContext args varContext).diags ++
          (typecheckTupleArgs fnContext more afterArgs).diags := by
  obtain ⟨moreTypArgs, afterMore, ranMore, -⟩ :=
    components_reported_typecheck_tuple_args fnContext more afterArgs
  rw [checkExpression, typecheck_tuple_args_append, Tc.bind_assoc, Tc.bind_of_ok ran]
  dsimp only
  rw [Tc.bind_assoc, Tc.bind_of_ok ranMore]
  dsimp only
  rw [Tc.pure_bind]
  have failedAll : checkVec (typArgs ++ moreTypArgs) = .error () :=
    (check_vec_eq_error_iff _).mpr (List.mem_append_left _ failed)
  simp [failedAll]

theorem union_acc_error_right (sub : TypecheckingResult VarContext) :
    unionAcc sub (.error ()) = .error () := by
  cases sub <;> rfl

theorem typecheck_pattern_args_append (patSpan : Span) (acc : TypecheckingResult VarContext)
    (patArgs morePatArgs : List (Pattern × Span)) (typArgs moreTypArgs : List (Spanned BaseTyp))
    (same : patArgs.length = typArgs.length) :
    typecheckPatternArgs patSpan acc (patArgs ++ morePatArgs) (typArgs ++ moreTypArgs) =
      typecheckPatternArgs patSpan acc patArgs typArgs >>= fun acc =>
        typecheckPatternArgs patSpan acc morePatArgs moreTypArgs := by
  induction patArgs generalizing acc typArgs with
  | nil =>
      rw [List.length_nil, eq_comm, List.length_eq_zero] at same
      subst same
      rfl
  | cons patArg patArgs ih =>
      obtain _ | ⟨typArg, typArgs⟩ := typArgs
      · cases same
      · simp only [List.cons_append, typecheck_pattern_args_cons, List.append_eq,
          ih _ _ (Nat.succ.inj same), Tc.bind_assoc]

theorem typecheck_pattern_args_error (patSpan : Span) :
    ∀ (patArgs : List (Pattern × Span)) (typArgs : List (Spanned BaseTyp)),
      (typecheckPatternArgs patSpan (.error ()) patArgs typArgs).result = .ok (.error ())
  | _ :: patArgs, _ :: typArgs => by
      rw [typecheck_pattern_args_cons, Tc.bind_of_ok (Tc.attempt_result _), union_acc_error_right]
      exact typecheck_pattern_args_error patSpan patArgs typArgs
  | [], _ | _ :: _, [] => rfl

theorem check_pattern_tuple_of_failed_component (patSpan : Span) (borrowing : Spanned Borrowing)
    (patArgs morePatArgs : List (Pattern × Span)) (typArgs moreTypArgs : List (Spanned BaseTyp))
    (typSpan : Span) (same : patArgs.length = typArgs.length)
    (failed : (typecheckPatternArgs patSpan (.ok HashMap.new) patArgs typArgs).result =
      .ok (.error ())) :
    let checked := checkPattern (.tuple (patArgs ++ morePatArgs)) patSpan
      (borrowing, (.tuple (typArgs ++ moreTypArgs), typSpan))
    checked.result = .error () ∧
      checked.diags =
        (Tc.reportIf ((patArgs ++ morePatArgs).length != (typArgs ++ moreTypArgs).length) patSpan
            (.patternArity (patArgs ++ morePatArgs).length (typArgs ++ moreTypArgs).length)).diags ++
          (typecheckPatternArgs patSpan (.ok HashMap.new) patArgs typArgs).diags ++
          (typecheckPatternArgs patSpan (.error ()) morePatArgs moreTypArgs).diags := by
  rw [checkPattern]
  dsimp only
  rw [typecheck_pattern_args_append _ _ _ _ _ _ same, Tc.bind_assoc, Tc.bind_of_ok failed,
    Tc.bind_of_ok (Tc.report_if_result _ _ _), Tc.bind_of_ok (typecheck_pattern_args_error _ _ _)]
  simp

/-- After a failing item, tuple component or sub-pattern the checker goes on: the
whole fails, and the parts after the failing one are checked and add their
diagnostics after those of the parts up to it. -/
theorem failure_checks_remaining_parts :
    (∀ (p : Program) (k : Nat), (typecheckProgram (p.take k)).result = .error () →
      (typecheckProgram p).result = .error () ∧
        (typecheckProgram p).diags = (typecheckProgram (p.take k)).diags ++
          (typecheckItems (p.drop k) (fnContextAfter (p.take k) HashMap.new)).diags) ∧
    (∀ (fnContext : FnContext) (args more : List (Expression × Span)) (span : Span)
        (varContext afterArgs : VarContext) (typArgs : List (TypecheckingResult (Spanned BaseTyp))),
      (typecheckTupleArgs fnContext args varContext).result = .ok (typArgs, afterArgs) →
      .error () ∈ typArgs →
      (checkExpression fnContext (.tuple (args ++ more)) span varContext).result = .error () ∧
        (checkExpression fnContext (.tuple (args ++ more)) span varContext).diags =
          (typecheckTupleArgs fnContext args varContext).diags ++
            (typecheckTupleArgs fnContext more afterArgs).diags) ∧
    (∀ (patSpan : Span) (borrowing : Spanned Borrowing) (patArgs morePatArgs : List (Pattern × Span))
        (typArgs moreTypArgs : List (Spanned BaseTyp)) (typSpan : Span),
      patArgs.length = typArgs.length →
      (typecheckPatternArgs patSpan (.ok HashMap.new) patArgs typArgs).result = .ok (.error ()) →
      let checked := checkPattern (.tuple (patArgs ++ morePatArgs)) patSpan
        (borrowing, (.tuple (typArgs ++ moreTypArgs), typSpan))
      checked.result = .error () ∧
        checked.diags =
          (Tc.reportIf ((patArgs ++ morePatArgs).length != (typArgs ++ moreTypArgs).length) patSpan
              (.patternArity (patArgs ++ morePatArgs).length (typArgs ++ moreTypArgs).length)).diags ++
            (typecheckPatternArgs patSpan (.ok HashMap.new) patArgs typArgs).diags ++
            (typecheckPatternArgs patSpan (.error ()) morePatArgs moreTypArgs).diags) :=
  ⟨typecheck_program_of_failed_take,
    fun fnContext args more span varContext _ _ ran failed =>
      check_expression_tuple_of_failed_component fnContext args more span varContext ran failed,
    check_pattern_tuple_of_failed_component⟩

def readOf (y : Ident) : Expression × Span := (.named ⟨[(y, noSpan)], none⟩, noSpan)

/-- `fn f() { let a = y; } fn g() { let b = z; }`: both bodies read an unknown variable. -/
def twoFailingFunctions : Program :=
  [(.fnDecl ("f", noSpan) ⟨[], (.unit, noSpan)⟩
      (⟨[(.letBinding (.identPat "a", noSpan) none (readOf "y"), noSpan)], none, none⟩, noSpan),
      noSpan),
    (.fnDecl ("g", noSpan) ⟨[], (.unit, noSpan)⟩
      (⟨[(.letBinding (.identPat "b", noSpan) none (readOf "z"), noSpan)], none, none⟩, noSpan),
      noSpan)]

def unitPattern : Pattern × Span := (.tuple [], noSpan)

theorem failure_checks_remaining_parts_witness :
    ((typecheckProgram (twoFailingFunctions.take 1)).result = .error () ∧
      (typecheckProgram twoFailingFunctions).result = .error () ∧
      (typecheckProgram twoFailingFunctions).diags =
        (typecheckProgram (twoFailingFunctions.take 1)).diags ++
          (typecheckItems (twoFailingFunctions.drop 1)
            (fnContextAfter (twoFailingFunctions.take 1) HashMap.new)).diags) ∧
    ((typecheckTupleArgs HashMap.new [readOf "z"] HashMap.new).result = .ok ([.error ()], HashMap.new) ∧
      (checkExpression HashMap.new (.tuple ([readOf "z"] ++ [readOf "w"])) noSpan HashMap.new).result =
        .error () ∧
      (checkExpression HashMap.new (.tuple ([readOf "z"] ++ [readOf "w"])) noSpan HashMap.new).diags =
        (typecheckTupleArgs HashMap.new [readOf "z"] HashMap.new).diags ++
          (typecheckTupleArgs HashMap.new [readOf "w"] HashMap.new).diags) ∧
    ((typecheckPatternArgs noSpan (.ok HashMap.new) [unitPattern] [(.uInt8, noSpan)]).result =
        .ok (.error ()) ∧
      (checkPattern (.tuple ([unitPattern] ++ [unitPattern])) noSpan
          ((.consumed, noSpan), (.tuple ([(.uInt8, noSpan)] ++ [(.bool, noSpan)]), noSpan))).result =
        .error () ∧
      (checkPattern (.tuple ([unitPattern] ++ [unitPattern])) noSpan
          ((.consumed, noSpan), (.tuple ([(.uInt8, noSpan)] ++ [(.bool, noSpan)]), noSpan))).diags =
        (Tc.reportIf (2 != 2) noSpan (.patternArity 2 2)).diags ++
          (typecheckPatternArgs noSpan (.ok HashMap.new) [unitPattern] [(.uInt8, noSpan)]).diags ++
          (typecheckPatternArgs noSpan (.error ()) [unitPattern] [(.bool, noSpan)]).diags) :=
  ⟨⟨rfl, failure_checks_remaining_parts.1 twoFailingFunctions 1 rfl⟩,
    ⟨rfl, failure_checks_remaining_parts.2.1 HashMap.new [readOf "z"] [readOf "w"] noSpan HashMap.new
      HashMap.new [.error ()] rfl (List.mem_singleton_self _)⟩,
    ⟨rfl, failure_checks_remaining_parts.2.2 noSpan (.consumed, noSpan) [unitPattern] [unitPattern]
      [(.uInt8, noSpan)] [(.bool, noSpan)] noSpan rfl rfl⟩⟩

/-- The first item fails, yet the program reports more than the prefix up to it. -/
theorem second_failing_item_reported :
    (typecheckProgram (twoFailingFunctions.take 1)).result = .error () ∧
      (typecheckProgram twoFailingFunctions).diags =
        [⟨noSpan, .unknownVariable "y"⟩, ⟨noSpan, .unknownVariable "z"⟩] ∧
      (typecheckProgram (twoFailingFunctions.take 1)).diags = [⟨noSpan, .unknownVariable "y"⟩] :=
  ⟨rfl, rfl, rfl⟩

/-- No silent failure and no error without failure: each check of the typechecker
returns `Err` exactly when it reported a diagnostic other than an arity
mismatch. -/
theorem check_fails_iff_fatal_diagnostic :
    (∀ fnContext e varContext, (typecheckExpression fnContext e varContext).Reported) ∧
      (∀ p typ, (typecheckPattern p typ).Reported) ∧
      (∀ fnContext s varContext, (typecheckStatement fnContext s varContext).Reported) ∧
      (∀ fnContext b varContext, (typecheckBlock fnContext b varContext).Reported) ∧
      (∀ i fnContext, (typecheckItem i fnContext).Reported) ∧
      (∀ p, (typecheckProgram p).Reported) :=
  ⟨reported_typecheck_expression, reported_typecheck_pattern, reported_typecheck_statement,
    reported_typecheck_block, reported_typecheck_item, reported_typecheck_program⟩

end Hacspec.Typechecker
