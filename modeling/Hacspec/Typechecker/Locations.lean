import Hacspec.Typechecker.Linearity

/-!
# Where the checker reports

Every `span_err` of the checker is made at a span it takes from the code it is checking:
the span of an expression node, of the name a call or method call names, of a pattern or
sub-pattern, or of a let statement. So each diagnostic of `typecheck_program` points into
the body of one of the program's functions; none points at a signature, at a declared
type, at a `use` item, or outside the program. The proof follows the checker's own
recursion, one lemma per function, each built from the `AllDiags` combinators of the
monad.
-/

namespace Hacspec.Typechecker

open Hacspec.Rustspec

set_option autoImplicit false

def nodeSpans : Expression × Span → List Span
  | (.funcCall (_, fSpan) _, span) => [span, fSpan]
  | (.methodCall _ (_, fSpan) _, span) => [span, fSpan]
  | (_, span) => [span]

theorem span_mem_node_spans (n : Expression × Span) : n.2 ∈ nodeSpans n := by
  unfold nodeSpans
  split <;> simp

def PointsInto (nodes : List (Expression × Span)) (d : Diagnostic) : Prop :=
  ∃ n ∈ nodes, d.span ∈ nodeSpans n

theorem PointsInto.mono {nodes nodes' : List (Expression × Span)} (sub : ∀ n ∈ nodes, n ∈ nodes')
    {d : Diagnostic} : PointsInto nodes d → PointsInto nodes' d
  | ⟨n, member, here⟩ => ⟨n, sub n member, here⟩

theorem mem_sub_expressions_of_child {e : Expression} {span : Span} {n : Expression × Span}
    (child : n ∈ childExpressions e) : n ∈ subExpressions (e, span) := by
  rw [subExpressions]
  exact List.mem_cons_of_mem _ child

theorem mem_sub_expressions_self (e : Expression × Span) : e ∈ subExpressions e := by
  rw [subExpressions]
  exact List.mem_cons_self _ _

theorem mem_sub_expressions_of_operands {e : Expression} (span : Span) {e1 e2 : Expression × Span}
    (children : childExpressions e = subExpressions e1 ++ subExpressions e2) :
    (∀ n ∈ subExpressions e1, n ∈ subExpressions (e, span)) ∧
      ∀ n ∈ subExpressions e2, n ∈ subExpressions (e, span) :=
  ⟨fun _ member => mem_sub_expressions_of_child (children ▸ List.mem_append_left _ member),
    fun _ member => mem_sub_expressions_of_child (children ▸ List.mem_append_right _ member)⟩

section Forms

variable {α : Type} {nodes : List (Expression × Span)} {x : Tc α}

theorem Tc.AllDiags.points_into_mono {nodes' : List (Expression × Span)}
    (sub : ∀ n ∈ nodes, n ∈ nodes') (holds : x.AllDiags (PointsInto nodes)) :
    x.AllDiags (PointsInto nodes') :=
  holds.imp fun _ => PointsInto.mono sub

theorem points_into_check_arg_typ (argT sigT : Typ) (arg : Expression × Span) (member : arg ∈ nodes) :
    (checkArgTyp argT sigT arg.2).AllDiags (PointsInto nodes) :=
  have here : ∀ message, PointsInto nodes ⟨arg.2, message⟩ := fun _ =>
    ⟨arg, member, span_mem_node_spans arg⟩
  (Tc.AllDiags.fail_if (here _) _).bind fun _ _ => (Tc.AllDiags.fail_if (here _) _).bind fun _ _ =>
    Tc.AllDiags.fail_if (here _) _

theorem points_into_typecheck_arg_with (param : Spanned Ident × Spanned Typ) (arg : Expression × Span)
    (member : arg ∈ nodes) {checked : Tc (Typ × VarContext)}
    (inner : checked.AllDiags (PointsInto nodes)) :
    (typecheckArgWith param arg.2 checked).AllDiags (PointsInto nodes) :=
  inner.bind fun _ _ => (points_into_check_arg_typ _ _ arg member).bind fun _ _ => Tc.AllDiags.of_pure _

theorem points_into_tuple_component (arg : Expression × Span) (member : arg ∈ nodes)
    (varContext : VarContext) (checked : TypecheckingResult (Typ × VarContext)) :
    (tupleComponent arg.2 varContext checked).AllDiags (PointsInto nodes) := by
  rcases checked with ⟨⟨⟩⟩ | ⟨⟨⟨_ | _, _⟩, _⟩, _⟩
  · exact Tc.AllDiags.of_pure _
  · exact Tc.AllDiags.of_pure _
  · exact fun d listed => by
      rw [List.mem_singleton.mp listed]
      exact ⟨arg, member, span_mem_node_spans arg⟩

end Forms

theorem mem_sub_expressions_list_head {arg n : Expression × Span} {args : List (Expression × Span)}
    (member : n ∈ subExpressions arg) : n ∈ subExpressionsList (arg :: args) := by
  rw [subExpressionsList]
  exact List.mem_append_left _ member

theorem mem_sub_expressions_list_tail {arg n : Expression × Span} {args : List (Expression × Span)}
    (member : n ∈ subExpressionsList args) : n ∈ subExpressionsList (arg :: args) := by
  rw [subExpressionsList]
  exact List.mem_append_right _ member

mutual
theorem points_into_typecheck_expression (fnContext : FnContext) :
    ∀ (e : Expression × Span) (varContext : VarContext),
      (typecheckExpression fnContext e varContext).AllDiags (PointsInto (subExpressions e))
  | (e, span), varContext => points_into_check_expression fnContext e span varContext
termination_by structural e => e
theorem points_into_check_expression (fnContext : FnContext) :
    ∀ (e : Expression) (span : Span) (varContext : VarContext),
      (checkExpression fnContext e span varContext).AllDiags (PointsInto (subExpressions (e, span)))
  | .tuple args, span, varContext => by
      rw [checkExpression]
      exact ((points_into_typecheck_tuple_args fnContext args varContext).points_into_mono
        fun _ member => mem_sub_expressions_of_child (by rw [childExpressions]; exact member)).bind
          fun _ _ => (Tc.AllDiags.of_lift _).bind fun _ _ => Tc.AllDiags.of_pure _
  | .named path, span, varContext => by
      have here : ∀ message, PointsInto (subExpressions (.named path, span)) ⟨span, message⟩ :=
        fun _ => ⟨_, mem_sub_expressions_self _, span_mem_node_spans _⟩
      rw [checkExpression]
      split
      · split
        · exact Tc.AllDiags.span_err_fail (here _)
        · split
          · split <;> exact Tc.AllDiags.of_pure _
          · exact Tc.AllDiags.of_pure _
      · exact Tc.AllDiags.span_err_fail (here _)
  | .binary e1 e2, span, varContext => by
      obtain ⟨left, right⟩ := mem_sub_expressions_of_operands span (e := .binary e1 e2) rfl
      rw [checkExpression]
      exact ((points_into_typecheck_expression fnContext e1 varContext).points_into_mono left).bind
        fun _ _ => ((points_into_typecheck_expression fnContext e2 _).points_into_mono right).bind
          fun _ _ => (Tc.AllDiags.fail_if ⟨_, mem_sub_expressions_self _, span_mem_node_spans _⟩ _).bind
            fun _ _ => Tc.AllDiags.of_pure _
  | .unary e1, span, varContext => by
      rw [checkExpression]
      exact (points_into_typecheck_expression fnContext e1 varContext).points_into_mono fun _ member =>
        mem_sub_expressions_of_child (by rw [childExpressions]; exact member)
  | .lit _, _, _ => Tc.AllDiags.of_pure _
  | .arrayIndex e1 e2, span, varContext => by
      obtain ⟨left, right⟩ := mem_sub_expressions_of_operands span (e := .arrayIndex e1 e2) rfl
      rw [checkExpression]
      refine ((points_into_typecheck_expression fnContext e1 varContext).points_into_mono left).bind
        fun _ _ => ((points_into_typecheck_expression fnContext e2 _).points_into_mono right).bind
          fun _ _ => ?_
      dsimp only
      split
      · have index : ∀ message, PointsInto (subExpressions (.arrayIndex e1 e2, span)) ⟨e2.2, message⟩ :=
          fun _ => ⟨e2, right _ (mem_sub_expressions_self e2), span_mem_node_spans e2⟩
        exact (Tc.AllDiags.fail_if (index _) _).bind fun _ _ =>
          (Tc.AllDiags.fail_if (index _) _).bind fun _ _ => Tc.AllDiags.of_pure _
      · exact Tc.AllDiags.span_err_fail ⟨e1, left _ (mem_sub_expressions_self e1), span_mem_node_spans e1⟩
  | .funcCall (f, fSpan) args, span, varContext => by
      have here : ∀ s ∈ [span, fSpan], ∀ message,
          PointsInto (subExpressions (.funcCall (f, fSpan) args, span)) ⟨s, message⟩ :=
        fun _ listed _ => ⟨_, mem_sub_expressions_self _, listed⟩
      rw [checkExpression]
      split
      · exact (Tc.AllDiags.some_or (here fSpan (by simp) _) _).bind fun _ _ =>
          (Tc.AllDiags.report_if (here span (by simp) _) _).bind fun _ _ =>
            ((points_into_typecheck_args fnContext _ args varContext).points_into_mono
              fun _ member => mem_sub_expressions_of_child (by rw [childExpressions]; exact member)).bind
              fun _ _ => Tc.AllDiags.of_pure _
      · exact Tc.AllDiags.span_err_fail (here fSpan (by simp) _)
  | .methodCall sel (f, fSpan) args, span, varContext => by
      have here : ∀ s ∈ [span, fSpan], ∀ message,
          PointsInto (subExpressions (.methodCall sel (f, fSpan) args, span)) ⟨s, message⟩ :=
        fun _ listed _ => ⟨_, mem_sub_expressions_self _, listed⟩
      have receiver : ∀ n ∈ subExpressions sel, n ∈ subExpressions (.methodCall sel (f, fSpan) args, span) :=
        fun _ member => mem_sub_expressions_of_child
          (by rw [childExpressions]; exact List.mem_append_left _ member)
      rw [checkExpression]
      refine ((points_into_typecheck_expression fnContext sel varContext).points_into_mono receiver).bind
        fun _ _ => (Tc.AllDiags.some_or (here fSpan (by simp) _) _).bind fun _ _ =>
          (Tc.AllDiags.report_if (here span (by simp) _) _).bind fun _ _ =>
            ((points_into_typecheck_args fnContext _ args _).points_into_mono fun _ member =>
              mem_sub_expressions_of_child (by
                rw [childExpressions]; exact List.mem_append_right _ member)).bind fun _ _ => ?_
      split
      · exact (points_into_typecheck_arg_with _ sel (receiver _ (mem_sub_expressions_self sel))
          ((points_into_typecheck_expression fnContext sel _).points_into_mono receiver)).bind
            fun _ _ => Tc.AllDiags.of_pure _
      · exact Tc.AllDiags.of_pure _
termination_by structural e => e
theorem points_into_typecheck_tuple_args (fnContext : FnContext) :
    ∀ (args : List (Expression × Span)) (varContext : VarContext),
      (typecheckTupleArgs fnContext args varContext).AllDiags (PointsInto (subExpressionsList args))
  | [], _ => Tc.AllDiags.of_pure _
  | arg :: args, varContext => by
      rw [typecheckTupleArgs]
      exact ((points_into_typecheck_expression fnContext arg varContext).attempt.points_into_mono
        fun _ => mem_sub_expressions_list_head).bind fun _ _ =>
          (points_into_tuple_component arg (mem_sub_expressions_list_head (mem_sub_expressions_self arg))
            _ _).bind fun _ _ =>
            ((points_into_typecheck_tuple_args fnContext args _).points_into_mono
              fun _ => mem_sub_expressions_list_tail).bind fun _ _ => Tc.AllDiags.of_pure _
termination_by structural args => args
theorem points_into_typecheck_args (fnContext : FnContext) :
    ∀ (params : List (Spanned Ident × Spanned Typ)) (args : List (Expression × Span))
      (varContext : VarContext),
      (typecheckArgs fnContext params args varContext).AllDiags (PointsInto (subExpressionsList args))
  | param :: params, arg :: args, varContext => by
      rw [typecheck_args_cons]
      exact (points_into_typecheck_arg_with param arg
        (mem_sub_expressions_list_head (mem_sub_expressions_self arg))
        ((points_into_typecheck_expression fnContext arg varContext).points_into_mono
          fun _ => mem_sub_expressions_list_head)).bind fun _ _ =>
            (points_into_typecheck_args fnContext params args _).points_into_mono
              fun _ => mem_sub_expressions_list_tail
  | [], args, varContext => by
      rw [typecheck_args_params_nil]
      exact Tc.AllDiags.of_pure _
  | _ :: _, [], _ => Tc.AllDiags.of_pure _
termination_by structural _ args => args
end

mutual
/-- The spans of a pattern and of its sub-patterns, outermost first. -/
def patternSpans : Pattern × Span → List Span
  | (pat, span) => span :: subPatternSpans pat
termination_by structural p => p
def subPatternSpans : Pattern → List Span
  | .tuple patArgs => patternArgsSpans patArgs
  | .wildCard => []
  | .identPat _ => []
termination_by structural p => p
def patternArgsSpans : List (Pattern × Span) → List Span
  | [] => []
  | patArg :: patArgs => patternSpans patArg ++ patternArgsSpans patArgs
termination_by structural patArgs => patArgs
end

mutual
theorem spans_typecheck_pattern :
    ∀ (pat : Pattern × Span) (typ : Typ),
      (typecheckPattern pat typ).AllDiags fun d => d.span ∈ patternSpans pat
  | (pat, patSpan), typ => spans_check_pattern pat patSpan typ
termination_by structural pat => pat
theorem spans_check_pattern :
    ∀ (pat : Pattern) (patSpan : Span) (typ : Typ),
      (checkPattern pat patSpan typ).AllDiags fun d => d.span ∈ patternSpans (pat, patSpan)
  | .tuple patArgs, patSpan, (_, (typ, _)) => by
      have here : patSpan ∈ patternSpans (.tuple patArgs, patSpan) := List.mem_cons_self _ _
      cases typ with
      | tuple typArgs =>
          exact (Tc.AllDiags.report_if here _).bind fun _ _ =>
            ((spans_typecheck_pattern_args patSpan _ patArgs typArgs).imp fun _ member =>
              List.mem_cons_of_mem _ member).bind fun _ _ => Tc.AllDiags.of_lift _
      | _ => exact Tc.AllDiags.span_err_fail here
  | .wildCard, _, _ => Tc.AllDiags.of_pure _
  | .identPat _, _, _ => Tc.AllDiags.of_pure _
termination_by structural pat => pat
theorem spans_typecheck_pattern_args (patSpan : Span) :
    ∀ (acc : TypecheckingResult VarContext) (patArgs : List (Pattern × Span))
      (typArgs : List (Spanned BaseTyp)),
      (typecheckPatternArgs patSpan acc patArgs typArgs).AllDiags
        fun d => d.span ∈ patternArgsSpans patArgs
  | acc, patArg :: patArgs, typArg :: typArgs => by
      rw [typecheck_pattern_args_cons]
      exact ((spans_typecheck_pattern patArg _).attempt.imp fun _ member =>
        List.mem_append_left _ member).bind fun _ _ =>
          (spans_typecheck_pattern_args patSpan _ patArgs typArgs).imp fun _ member =>
            List.mem_append_right _ member
  | _, [], _ | _, _ :: _, [] => Tc.AllDiags.of_pure _
termination_by structural _ patArgs => patArgs
end

/-- The spans of a let binding: the statement's, those of its pattern, and those of the
nodes of its expression. The declared type's own span is not among them. -/
def statementSpans : Spanned Statement → List Span
  | (.letBinding pat _ expr, sSpan) =>
      sSpan :: (patternSpans pat ++ (subExpressions expr).flatMap nodeSpans)

def itemSpans : Item → List Span
  | .fnDecl _ _ (b, _) => b.stmts.flatMap statementSpans
  | .use _ => []

theorem span_mem_statement_spans (s : Spanned Statement) : s.2 ∈ statementSpans s := by
  rcases s with ⟨⟨_, _, _⟩, _⟩
  exact List.mem_cons_self _ _

theorem spans_check_declared_typ (typ : Option (Spanned Typ)) (exprTyp : Typ) {patSpan : Span}
    {spans : List Span} (member : patSpan ∈ spans) :
    (checkDeclaredTyp typ exprTyp patSpan).AllDiags fun d => d.span ∈ spans := by
  rcases typ with _ | ⟨typ, _⟩
  · exact Tc.AllDiags.of_pure _
  · exact Tc.AllDiags.fail_if member _

theorem spans_typecheck_statement (fnContext : FnContext) (s : Spanned Statement)
    (varContext : VarContext) :
    (typecheckStatement fnContext s varContext).AllDiags fun d => d.span ∈ statementSpans s := by
  rcases s with ⟨⟨⟨pat, patSpan⟩, typ, expr⟩, sSpan⟩
  have pattern : ∀ span ∈ patternSpans (pat, patSpan),
      span ∈ statementSpans (.letBinding (pat, patSpan) typ expr, sSpan) := fun _ member =>
    List.mem_cons_of_mem _ (List.mem_append_left _ member)
  rw [typecheckStatement]
  exact ((points_into_typecheck_expression fnContext expr varContext).imp
    fun _ ⟨_, node, here⟩ => List.mem_cons_of_mem _
      (List.mem_append_right _ (List.mem_flatMap_of_mem node here))).bind fun ⟨_, _⟩ _ =>
    (spans_check_declared_typ typ _ (pattern _ (List.mem_cons_self _ _))).bind fun _ _ =>
      ((spans_typecheck_pattern _ _).imp fun d => pattern d.span).bind fun _ _ => Tc.AllDiags.of_pure _

theorem spans_typecheck_stmts (fnContext : FnContext) :
    ∀ (stmts : List (Spanned Statement)) (varContext : VarContext) (mutatedVars : VarSet)
      (returnTyp : Option Typ),
      (typecheckStmts fnContext stmts varContext mutatedVars returnTyp).AllDiags
        fun d => d.span ∈ stmts.flatMap statementSpans
  | [], _, _, _ => Tc.AllDiags.of_pure _
  | s :: rest, varContext, mutatedVars, returnTyp => by
      have head : ∀ span ∈ statementSpans s, span ∈ (s :: rest).flatMap statementSpans :=
        fun _ => List.mem_flatMap_of_mem (List.mem_cons_self _ _)
      have tail : ∀ varContext mutatedVars returnTyp,
          (typecheckStmts fnContext rest varContext mutatedVars returnTyp).AllDiags
            fun d => d.span ∈ (s :: rest).flatMap statementSpans := fun _ _ _ =>
        (spans_typecheck_stmts fnContext rest _ _ _).imp fun _ member => by
          rw [List.flatMap_cons]
          exact List.mem_append_right _ member
      rw [typecheckStmts]
      refine ((spans_typecheck_statement fnContext s varContext).imp fun d => head d.span).bind fun ⟨_, _, _⟩ _ => ?_
      dsimp only
      split
      · exact tail _ _ _
      · split
        · exact tail _ _ _
        · exact Tc.AllDiags.span_err_fail (head _ (span_mem_statement_spans s))

theorem spans_typecheck_block (fnContext : FnContext) (b : Block) (varContext : VarContext) :
    (typecheckBlock fnContext b varContext).AllDiags fun d => d.span ∈ b.stmts.flatMap statementSpans :=
  (spans_typecheck_stmts fnContext b.stmts varContext ∅ none).bind fun ⟨_, _⟩ _ => Tc.AllDiags.of_pure _

theorem spans_typecheck_item (i : Item) (fnContext : FnContext) :
    (typecheckItem i fnContext).AllDiags fun d => d.span ∈ itemSpans i := by
  rcases i with ⟨_, _, b, _⟩ | _
  · exact (spans_typecheck_block fnContext b _).bind fun _ _ => Tc.AllDiags.of_pure _
  · exact Tc.AllDiags.of_pure _

theorem spans_typecheck_items :
    ∀ (p : Program) (fnContext : FnContext),
      (typecheckItems p fnContext).AllDiags fun d => ∃ item ∈ p, d.span ∈ itemSpans item.1
  | [], _ => Tc.AllDiags.of_pure _
  | (i, iSpan) :: p, fnContext => by
      rw [typecheckItems]
      refine ((spans_typecheck_item i fnContext).attempt.imp fun _ here =>
        ⟨(i, iSpan), List.mem_cons_self _ _, here⟩).bind fun checked _ => ?_
      rcases checked with ⟨⟨⟩⟩ | ⟨_, _⟩ <;>
        exact ((spans_typecheck_items p _).imp fun _ ⟨item, member, here⟩ =>
          ⟨item, List.mem_cons_of_mem _ member, here⟩).bind fun _ _ => Tc.AllDiags.of_pure _

/-- Every diagnostic of `typecheck_program` is made at a span of the statements of one of
the program's function bodies: a let statement, its pattern or a sub-pattern, a node of
its expression, or the name a call of it names. -/
theorem typecheck_program_diagnostics_in_bodies (p : Program) :
    ∀ d ∈ (typecheckProgram p).diags, ∃ item ∈ p, d.span ∈ itemSpans item.1 :=
  (spans_typecheck_items p HashMap.new).bind fun _ _ => Tc.AllDiags.of_lift _

/-- `fn f() -> () { let a = y; }`, each part at its own span: `y` is unknown. -/
def readsUnknownAt : Program :=
  [(.fnDecl ("f", ⟨3, 4⟩) ⟨[], (.unit, ⟨10, 12⟩)⟩
      (⟨[(.letBinding (.identPat "a", ⟨19, 20⟩) none (.named ⟨[("y", ⟨23, 24⟩)], none⟩, ⟨23, 24⟩),
          ⟨15, 25⟩)], none, none⟩, ⟨13, 27⟩),
      ⟨0, 27⟩)]

theorem diagnostics_in_bodies_reads_unknown_at :
    (⟨⟨23, 24⟩, .unknownVariable "y"⟩ : Diagnostic) ∈ (typecheckProgram readsUnknownAt).diags ∧
      ∃ item ∈ readsUnknownAt, (⟨23, 24⟩ : Span) ∈ itemSpans item.1 :=
  have reported : (⟨⟨23, 24⟩, .unknownVariable "y"⟩ : Diagnostic) ∈
      (typecheckProgram readsUnknownAt).diags := List.mem_singleton_self _
  ⟨reported, typecheck_program_diagnostics_in_bodies readsUnknownAt _ reported⟩

end Hacspec.Typechecker
