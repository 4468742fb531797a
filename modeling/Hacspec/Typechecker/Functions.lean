import Hacspec.Typechecker.Linearity

/-!
# Function bodies

`typecheck_statement` checks the expression of a let binding, tests the declared
type, binds the pattern, and returns the context `new_var_context.union(pat_var_context)`:
a name the pattern binds again keeps its earlier binding when that one is still
present. Every statement has type `Unit` at its own span, and `typecheck_block`
annotates the block with the type of its last statement; `typecheck_item` never
compares it with the declared return type, which it does not read. No statement
reports a mutated variable, so a program that checks comes back as it was, each body
annotated with the empty set and the `Unit` type of its last statement. The checker
never reads those annotations, so checking that program again gives the same run.

A program that checks without a diagnostic checks each body silently, against the
table of the functions declared before it (`ForwardPass`), and a silent check of an
expression resolves each of its free calls in that table: each call names a
function declared earlier.
-/

namespace Hacspec.Typechecker

open Hacspec.Rustspec

set_option autoImplicit false

def statementExpression : Statement → Expression × Span
  | .letBinding _ _ expr => expr

theorem typecheck_statement_context (fnContext : FnContext) (pat : Spanned Pattern)
    (typ : Option (Spanned Typ)) (expr : Expression × Span) (sSpan : Span) (varContext : VarContext)
    {t : Typ} {varContextOut : VarContext} {mutatedVars : VarSet}
    (ran : (typecheckStatement fnContext (.letBinding pat typ expr, sSpan) varContext).result =
      .ok (t, varContextOut, mutatedVars)) :
    ∃ exprTyp exprVarContext patVarContext,
      (typecheckExpression fnContext expr varContext).result = .ok (exprTyp, exprVarContext) ∧
      (typecheckPattern pat exprTyp).result = .ok patVarContext ∧
      t = ((.consumed, sSpan), (.unit, sSpan)) ∧ mutatedVars = ∅ ∧
      ∀ x, varContextOut.get x = (exprVarContext.get x).or (patVarContext.get x) := by
  obtain ⟨pat, patSpan⟩ := pat
  obtain ⟨⟨exprTyp, exprVarContext⟩, expression, ran⟩ := Tc.result_bind_eq_ok.mp ran
  obtain ⟨_, _, ran⟩ := Tc.result_bind_eq_ok.mp ran
  obtain ⟨patVarContext, pattern, returned⟩ := Tc.result_bind_eq_ok.mp ran
  cases returned
  exact ⟨exprTyp, exprVarContext, patVarContext, expression, pattern, rfl, rfl, fun _ => rfl⟩

def ownedByte : Typ := ((.consumed, noSpan), (.uInt8, noSpan))

def letOf (x : Ident) (e : Expression × Span) : Spanned Statement :=
  (.letBinding (.identPat x, noSpan) none e, noSpan)

/-- With `x` an owned byte, `let x = true;` leaves `x` a byte, though the pattern
binds it to `bool`. -/
theorem let_keeps_earlier_binding :
    ((typecheckStatement HashMap.new (letOf "x" (.lit .bool, noSpan))
        (HashMap.unit "x" ownedByte)).result.map fun r => r.2.1.get "x") = .ok (some ownedByte) ∧
      ((typecheckPattern (.identPat "x", noSpan) ((.consumed, noSpan), (.bool, noSpan))).result.map
        fun patVarContext => patVarContext.get "x") = .ok (some ((.consumed, noSpan), (.bool, noSpan))) :=
  ⟨rfl, rfl⟩

theorem typecheck_statement_eq_ok {fnContext : FnContext} {s : Spanned Statement}
    {varContext : VarContext} {r : Typ × VarContext × VarSet}
    (ran : (typecheckStatement fnContext s varContext).result = .ok r) :
    r.1 = ((.consumed, s.2), (.unit, s.2)) ∧ r.2.2 = ∅ := by
  obtain ⟨⟨pat, typ, expr⟩, sSpan⟩ := s
  obtain ⟨t, varContextOut, mutatedVars⟩ := r
  obtain ⟨_, _, _, _, _, typed, unmutated, _⟩ :=
    typecheck_statement_context fnContext pat typ expr sSpan varContext ran
  exact ⟨typed, unmutated⟩

theorem typecheck_stmts_eq_ok (fnContext : FnContext) :
    ∀ (stmts : List (Spanned Statement)) (varContext : VarContext) (mutatedVars : VarSet)
      (returnTyp : Option Typ) {r : VarSet × Option Typ},
      (typecheckStmts fnContext stmts varContext mutatedVars returnTyp).result = .ok r →
        r = (mutatedVars,
          (stmts.getLast?.map fun last => ((.consumed, last.2), (.unit, last.2))).or returnTyp)
  | [], _, _, _, _, ran => by
      cases ran
      rfl
  | s :: rest, varContext, mutatedVars, returnTyp, r, ran => by
      rw [typecheckStmts] at ran
      obtain ⟨⟨stmtTyp, varContext', newMutatedVars⟩, statement, ran⟩ := Tc.result_bind_eq_ok.mp ran
      obtain ⟨typed, unmutated⟩ := typecheck_statement_eq_ok statement
      dsimp only at typed unmutated ran
      subst typed unmutated
      rw [Finset.union_empty] at ran
      cases rest with
      | nil =>
          cases ran
          rfl
      | cons next rest =>
          rw [List.getLast?_cons_cons]
          exact typecheck_stmts_eq_ok fnContext (next :: rest) _ _ returnTyp ran
termination_by structural stmts => stmts

/-- The loop of `typecheck_block` without its test that each statement before the last
has type `Unit`. -/
def typecheckStmtsUntested (fnContext : FnContext) :
    List (Spanned Statement) → VarContext → VarSet → Option Typ → Tc (VarSet × Option Typ)
  | [], _, mutatedVars, returnTyp => pure (mutatedVars, returnTyp)
  | s :: rest, varContext, mutatedVars, returnTyp => do
      let (stmtTyp, varContext, newMutatedVars) ← typecheckStatement fnContext s varContext
      let mutatedVars := mutatedVars ∪ newMutatedVars
      match rest with
      | [] => typecheckStmtsUntested fnContext rest varContext mutatedVars (some stmtTyp)
      | _ :: _ => typecheckStmtsUntested fnContext rest varContext mutatedVars returnTyp

/-- The test of `typecheck_block` that each statement before the last has type `Unit`
never fails, so "statement shoud have an unit type here" is never reported: every
statement has type `Unit`. -/
theorem typecheck_stmts_eq_untested (fnContext : FnContext) :
    ∀ (stmts : List (Spanned Statement)) (varContext : VarContext) (mutatedVars : VarSet)
      (returnTyp : Option Typ),
      typecheckStmts fnContext stmts varContext mutatedVars returnTyp =
        typecheckStmtsUntested fnContext stmts varContext mutatedVars returnTyp
  | [], _, _, _ => rfl
  | s :: rest, varContext, mutatedVars, returnTyp => by
      rw [typecheckStmts, typecheckStmtsUntested]
      rcases ran : (typecheckStatement fnContext s varContext).result with
        ⟨⟨⟩⟩ | ⟨stmtTyp, varContext', newMutatedVars⟩
      · rw [Tc.bind_of_error ran, Tc.bind_of_error ran]
      · rw [Tc.bind_of_ok ran, Tc.bind_of_ok ran]
        obtain ⟨unit, -⟩ := typecheck_statement_eq_ok ran
        dsimp only at unit ⊢
        subst unit
        rcases rest with _ | ⟨s', rest⟩
        · rw [typecheck_stmts_eq_untested fnContext []]
        · dsimp only
          rw [typecheck_stmts_eq_untested fnContext (s' :: rest)]

def annotatedReturnTyp : Item → Option Typ
  | .fnDecl _ _ (b, _) => b.returnTyp
  | .use _ => none

/-- A checked body is annotated with `Unit` at its last statement, whatever its
declared return type; the check does not read that type. -/
theorem body_annotated_unit_whatever_declared (f : Spanned Ident) (sig : FuncSig) (b : Block)
    (bSpan : Span) (fnContext : FnContext) :
    (∀ (last : Spanned Statement) (checked : Item) (fnContext' : FnContext),
      b.stmts.getLast? = some last →
      (typecheckItem (.fnDecl f sig (b, bSpan)) fnContext).result = .ok (checked, fnContext') →
        annotatedReturnTyp checked = some ((.consumed, last.2), (.unit, last.2))) ∧
    ∀ ret : Spanned BaseTyp,
      (typecheckItem (.fnDecl f ⟨sig.args, ret⟩ (b, bSpan)) fnContext).diags =
          (typecheckItem (.fnDecl f sig (b, bSpan)) fnContext).diags ∧
        (typecheckItem (.fnDecl f ⟨sig.args, ret⟩ (b, bSpan)) fnContext).result.isOk =
          (typecheckItem (.fnDecl f sig (b, bSpan)) fnContext).result.isOk := by
  obtain ⟨f, fSpan⟩ := f
  refine ⟨fun last checked fnContext' isLast ran => ?_, fun ret => ?_⟩
  · obtain ⟨checkedBody, block, returned⟩ := Tc.result_bind_eq_ok.mp ran
    cases returned
    obtain ⟨r, stmts, returned⟩ := Tc.result_bind_eq_ok.mp block
    cases returned
    rw [typecheck_stmts_eq_ok fnContext b.stmts _ _ none stmts, isLast]
    rfl
  · show (typecheckBlock fnContext b (paramContext sig) >>= _).diags =
        (typecheckBlock fnContext b (paramContext sig) >>= _).diags ∧
      (typecheckBlock fnContext b (paramContext sig) >>= _).result.isOk =
        (typecheckBlock fnContext b (paramContext sig) >>= _).result.isOk
    rcases (typecheckBlock fnContext b (paramContext sig)) with ⟨diags, ⟨⟨⟩⟩ | checkedBody⟩
    · exact ⟨rfl, rfl⟩
    · exact ⟨rfl, rfl⟩

/-- `fn f() -> bool { let x = true; }`. -/
def boolFnEndingInLet : Item :=
  .fnDecl ("f", noSpan) ⟨[], (.bool, noSpan)⟩ (⟨[letOf "x" (.lit .bool, noSpan)], none, none⟩, noSpan)

theorem body_annotated_unit_whatever_declared_witness :
    (typecheckItem boolFnEndingInLet HashMap.new).result =
        .ok (.fnDecl ("f", noSpan) ⟨[], (.bool, noSpan)⟩
          (⟨[letOf "x" (.lit .bool, noSpan)], some ∅, some ((.consumed, noSpan), (.unit, noSpan))⟩,
            noSpan),
          HashMap.new.update (.static "f") ⟨[], (.bool, noSpan)⟩) ∧
      annotatedReturnTyp (.fnDecl ("f", noSpan) ⟨[], (.bool, noSpan)⟩
          (⟨[letOf "x" (.lit .bool, noSpan)], some ∅, some ((.consumed, noSpan), (.unit, noSpan))⟩,
            noSpan)) =
        some ((.consumed, noSpan), (.unit, noSpan)) :=
  have ran : (typecheckItem boolFnEndingInLet HashMap.new).result =
      .ok (.fnDecl ("f", noSpan) ⟨[], (.bool, noSpan)⟩
        (⟨[letOf "x" (.lit .bool, noSpan)], some ∅, some ((.consumed, noSpan), (.unit, noSpan))⟩,
          noSpan),
        HashMap.new.update (.static "f") ⟨[], (.bool, noSpan)⟩) := rfl
  ⟨ran, (body_annotated_unit_whatever_declared ("f", noSpan) ⟨[], (.bool, noSpan)⟩
    ⟨[letOf "x" (.lit .bool, noSpan)], none, none⟩ noSpan HashMap.new).1 _ _ _ rfl ran⟩

/-- A function declared to return `bool` whose body has type `Unit` checks without
a diagnostic. -/
theorem bool_function_with_unit_body_accepted :
    (typecheckItem boolFnEndingInLet HashMap.new).diags = [] ∧
      ((typecheckItem boolFnEndingInLet HashMap.new).result.map fun r => annotatedReturnTyp r.1) =
        .ok (some ((.consumed, noSpan), (.unit, noSpan))) ∧
      equalTypes ((.consumed, noSpan), (.unit, noSpan)) ((.consumed, noSpan), (.bool, noSpan)) =
        false :=
  ⟨rfl, rfl, rfl⟩

/-- The annotations `typecheck_block` puts on a body that checks: the statements as
they were, no mutated variable, and the type of the last statement. -/
def annotateBlock (b : Block) : Block where
  stmts := b.stmts
  mutatedVars := some ∅
  returnTyp := b.stmts.getLast?.map fun last => ((.consumed, last.2), (.unit, last.2))

def annotateItem : Item → Item
  | .fnDecl f sig (b, bSpan) => .fnDecl f sig (annotateBlock b, bSpan)
  | .use p => .use p

theorem typecheck_block_eq_ok {fnContext : FnContext} {b : Block} {varContext : VarContext}
    {checked : Block} (ran : (typecheckBlock fnContext b varContext).result = .ok checked) :
    checked = annotateBlock b := by
  obtain ⟨r, stmts, returned⟩ := Tc.result_bind_eq_ok.mp ran
  cases returned
  rw [typecheck_stmts_eq_ok fnContext b.stmts _ _ none stmts, Option.or_none]
  rfl

theorem typecheck_item_eq_ok {i : Item} {fnContext : FnContext} {r : Item × FnContext}
    (ran : (typecheckItem i fnContext).result = .ok r) : r.1 = annotateItem i := by
  rcases i with ⟨⟨f, fSpan⟩, sig, ⟨b, bSpan⟩⟩ | p
  · obtain ⟨checked, block, returned⟩ := Tc.result_bind_eq_ok.mp ran
    cases returned
    rw [typecheck_block_eq_ok block]
    rfl
  · cases ran
    rfl

theorem check_vec_typecheck_items :
    ∀ (p : Program) (fnContext : FnContext) {items : List (TypecheckingResult (Spanned Item))}
      {q : Program}, (typecheckItems p fnContext).result = .ok items → checkVec items = .ok q →
        q = p.map fun (i, iSpan) => (annotateItem i, iSpan)
  | [], _, _, _, ran, checked => by
      cases ran
      cases checked
      rfl
  | (i, iSpan) :: p, fnContext, _, q, ran, checked => by
      rw [typecheckItems, Tc.bind_of_ok (Tc.attempt_result _)] at ran
      rcases item : (typecheckItem i fnContext).result with ⟨⟨⟩⟩ | ⟨checkedItem, fnContext'⟩
      · rw [item] at ran
        obtain ⟨items, -, returned⟩ := Tc.result_bind_eq_ok.mp ran
        cases returned
        cases checked
      · rw [item] at ran
        obtain ⟨items, loop, returned⟩ := Tc.result_bind_eq_ok.mp ran
        cases returned
        rcases rest : checkVec items with ⟨⟨⟩⟩ | rest'
        · rw [checkVec, rest] at checked
          cases checked
        · rw [checkVec, rest] at checked
          cases checked
          have annotated : checkedItem = annotateItem i := typecheck_item_eq_ok item
          subst annotated
          rw [List.map_cons, ← check_vec_typecheck_items p fnContext' loop rest]
termination_by structural p => p

/-- A program that checks comes back as it was, each function body annotated with
an empty set of mutated variables and the `Unit` type of its last statement. -/
theorem typecheck_program_annotates {p q : Program} (ran : (typecheckProgram p).result = .ok q) :
    q = p.map fun (i, iSpan) => (annotateItem i, iSpan) := by
  obtain ⟨items, loop, lifted⟩ := Tc.result_bind_eq_ok.mp ran
  exact check_vec_typecheck_items p HashMap.new loop lifted

/-- `fn f() -> bool { let x = true; } use x;`. -/
def fnThenUse : Program := [(boolFnEndingInLet, noSpan), (.use ⟨[("x", noSpan)], none⟩, noSpan)]

theorem typecheck_program_annotates_witness :
    ∃ q, (typecheckProgram fnThenUse).result = .ok q ∧
      q = fnThenUse.map fun (i, iSpan) => (annotateItem i, iSpan) :=
  ⟨_, rfl, typecheck_program_annotates rfl⟩

theorem typecheck_block_congr_stmts (fnContext : FnContext) {b b' : Block} (same : b.stmts = b'.stmts) :
    typecheckBlock fnContext b = typecheckBlock fnContext b' := by
  rcases b with ⟨stmts, _, _⟩
  rcases b' with ⟨stmts', _, _⟩
  cases same
  rfl

theorem typecheck_item_annotate_item (i : Item) (fnContext : FnContext) :
    typecheckItem (annotateItem i) fnContext = typecheckItem i fnContext := by
  rcases i with ⟨⟨_, _⟩, _, b, _⟩ | _
  · simp only [annotateItem, typecheckItem]
    rw [typecheck_block_congr_stmts fnContext (show (annotateBlock b).stmts = b.stmts from rfl)]
  · rfl

theorem typecheck_items_annotate_item :
    ∀ (p : Program) (fnContext : FnContext),
      typecheckItems (p.map fun (i, iSpan) => (annotateItem i, iSpan)) fnContext =
        typecheckItems p fnContext
  | [], _ => rfl
  | (i, iSpan) :: p, fnContext => by
      simp only [List.map_cons, typecheckItems, typecheck_item_annotate_item,
        typecheck_items_annotate_item p]

/-- Checking a program that checks once more gives the same run: the same diagnostics, and
the program back as it came. The checker never reads the annotations it writes. -/
theorem typecheck_program_idempotent {p q : Program} (ran : (typecheckProgram p).result = .ok q) :
    typecheckProgram q = typecheckProgram p := by
  obtain ⟨items, loop, lifted⟩ := Tc.result_bind_eq_ok.mp ran
  rw [check_vec_typecheck_items p HashMap.new loop lifted, typecheckProgram, typecheckProgram,
    typecheck_items_annotate_item]

theorem typecheck_program_idempotent_fn_then_use :
    ∃ q, (typecheckProgram fnThenUse).result = .ok q ∧ typecheckProgram q = typecheckProgram fnThenUse :=
  ⟨_, rfl, typecheck_program_idempotent rfl⟩

/-- If `node` is a free call, it names a function of `fnContext` by one plain
segment. -/
def CallResolved (fnContext : FnContext) (node : Expression × Span) : Prop :=
  ∀ callee fSpan args, node.1 = .funcCall (callee, fSpan) args →
    ∃ id idSpan sig, callee = ⟨[(id, idSpan)], none⟩ ∧ fnContext.get (.static id) = some sig

theorem call_resolved_of_not_call {fnContext : FnContext} {node : Expression × Span}
    (notCall : ∀ callee args, node.1 ≠ .funcCall callee args) : CallResolved fnContext node :=
  fun callee fSpan args call => absurd call (notCall (callee, fSpan) args)

mutual
theorem calls_resolved_of_typed {fnContext : FnContext} :
    ∀ {varContext : VarContext} {e : Expression × Span} {t : Typ} {varContext' : VarContext},
      Typed false fnContext varContext e t varContext' →
        ∀ node ∈ subExpressions e, CallResolved fnContext node
  | _, (_, _), _, _, typed => calls_resolved_of_typed_expr typed
termination_by structural _ e => e
theorem calls_resolved_of_typed_expr {fnContext : FnContext} :
    ∀ {varContext : VarContext} {e : Expression} {span : Span} {t : Typ} {varContext' : VarContext},
      Typed false fnContext varContext (e, span) t varContext' →
        ∀ node ∈ subExpressions (e, span), CallResolved fnContext node
  | _, _, _, _, _, .tuple components, node, member => by
      simp only [subExpressions, childExpressions, List.mem_cons] at member
      rcases member with rfl | member
      · exact call_resolved_of_not_call fun _ _ => nofun
      · exact calls_resolved_of_tuple_typed components node member
  | _, _, _, _, _, .moved .., node, member | _, _, _, _, _, .copied .., node, member
  | _, _, _, _, _, .borrowed .., node, member | _, _, _, _, _, .lit, node, member => by
      simp only [subExpressions, childExpressions, List.mem_singleton] at member
      subst member
      exact call_resolved_of_not_call fun _ _ => nofun
  | _, _, _, _, _, .binary left right _, node, member
  | _, _, _, _, _, .arrayIndex left right .., node, member => by
      simp only [subExpressions, childExpressions, List.mem_cons, List.mem_append] at member
      rcases member with rfl | member | member
      · exact call_resolved_of_not_call fun _ _ => nofun
      · exact calls_resolved_of_typed left node member
      · exact calls_resolved_of_typed right node member
  | _, _, _, _, _, .unary inner, node, member => by
      simp only [subExpressions, childExpressions, List.mem_cons] at member
      rcases member with rfl | member
      · exact call_resolved_of_not_call fun _ _ => nofun
      · exact calls_resolved_of_typed inner node member
  | _, _, _, _, _, .funcCall found arity arguments, node, member => by
      simp only [subExpressions, childExpressions, List.mem_cons] at member
      rcases member with rfl | member
      · rintro _ _ _ ⟨rfl, -⟩
        exact ⟨_, _, _, rfl, found⟩
      · exact calls_resolved_of_args_typed arguments
          (arity.resolve_left Bool.false_ne_true).ge node member
  | _, _, _, _, _, .methodCall receiver _ arity arguments .., node, member => by
      simp only [subExpressions, childExpressions, List.mem_cons, List.mem_append] at member
      rcases member with rfl | member | member
      · exact call_resolved_of_not_call fun _ _ => nofun
      · exact calls_resolved_of_typed receiver node member
      · have arity := arity.resolve_left Bool.false_ne_true
        exact calls_resolved_of_args_typed arguments (by omega) node member
  | _, _, _, _, _, .methodCallNoParam _ _ isLax _ _, _, _ => absurd isLax Bool.false_ne_true
termination_by structural _ e => e
theorem calls_resolved_of_tuple_typed {fnContext : FnContext} :
    ∀ {varContext : VarContext} {args : List (Expression × Span)} {typArgs : List (Spanned BaseTyp)}
      {varContext' : VarContext},
      TupleTyped false fnContext varContext args typArgs varContext' →
        ∀ node ∈ subExpressionsList args, CallResolved fnContext node
  | _, _, _, _, .nil, _, member => nomatch member
  | _, _, _, _, .cons first rest, node, member => by
      rw [subExpressionsList, List.mem_append] at member
      rcases member with member | member
      · exact calls_resolved_of_typed first node member
      · exact calls_resolved_of_tuple_typed rest node member
termination_by structural _ args => args
theorem calls_resolved_of_args_typed {fnContext : FnContext} :
    ∀ {varContext : VarContext} {params : List (Spanned Ident × Spanned Typ)}
      {args : List (Expression × Span)} {varContext' : VarContext},
      ArgsTyped false fnContext varContext params args varContext' →
        args.length ≤ params.length → ∀ node ∈ subExpressionsList args, CallResolved fnContext node
  | _, _, [], _, .paramsDone, _, _, member | _, _, _, _, .argsDone, _, _, member => nomatch member
  | _, _, _ :: _, _, .paramsDone, enough, _, _ => absurd enough (by simp)
  | _, _, _, _, .cons first _ rest, enough, node, member => by
      rw [subExpressionsList, List.mem_append] at member
      rcases member with member | member
      · exact calls_resolved_of_typed first node member
      · exact calls_resolved_of_args_typed rest (Nat.le_of_succ_le_succ enough) node member
termination_by structural _ _ args => args
end

theorem clean_expression_of_clean_statement {fnContext : FnContext} {s : Spanned Statement}
    {varContext : VarContext} {r : Typ × VarContext × VarSet}
    (clean : (typecheckStatement fnContext s varContext).Clean r) :
    ∃ t varContext', (typecheckExpression fnContext (statementExpression s.1) varContext).Clean
      (t, varContext') := by
  obtain ⟨⟨⟨pat, patSpan⟩, typ, expr⟩, sSpan⟩ := s
  rw [typecheckStatement, Tc.clean_bind_iff] at clean
  obtain ⟨⟨t, varContext'⟩, expression, -⟩ := clean
  exact ⟨t, varContext', expression⟩

theorem clean_typecheck_stmts_cons {fnContext : FnContext} {s : Spanned Statement}
    {rest : List (Spanned Statement)} {varContext : VarContext} {mutatedVars : VarSet}
    {returnTyp : Option Typ} {r : VarSet × Option Typ}
    (clean : (typecheckStmts fnContext (s :: rest) varContext mutatedVars returnTyp).Clean r) :
    ∃ stmtTyp varContext' newMutatedVars,
      (typecheckStatement fnContext s varContext).Clean (stmtTyp, varContext', newMutatedVars) ∧
      ∃ mutatedVars' returnTyp' r',
        (typecheckStmts fnContext rest varContext' mutatedVars' returnTyp').Clean r' := by
  rw [typecheckStmts, Tc.clean_bind_iff] at clean
  obtain ⟨⟨stmtTyp, varContext', newMutatedVars⟩, statement, clean⟩ := clean
  refine ⟨stmtTyp, varContext', newMutatedVars, statement, ?_⟩
  cases rest with
  | nil => exact ⟨∅, none, _, rfl, rfl⟩
  | cons next rest =>
      dsimp only at clean
      split at clean
      · exact ⟨_, _, r, clean⟩
      · exact absurd clean (Tc.not_clean_span_err_fail _ _ _)

theorem clean_statements_of_clean_stmts (fnContext : FnContext) :
    ∀ (stmts : List (Spanned Statement)) (varContext : VarContext) (mutatedVars : VarSet)
      (returnTyp : Option Typ) (r : VarSet × Option Typ),
      (typecheckStmts fnContext stmts varContext mutatedVars returnTyp).Clean r →
        ∀ s ∈ stmts, ∃ varContext' r', (typecheckStatement fnContext s varContext').Clean r'
  | [], _, _, _, _, _, _, member => nomatch member
  | s :: rest, _, _, _, _, clean, s', member => by
      obtain ⟨_, _, _, statement, _, _, _, restClean⟩ := clean_typecheck_stmts_cons clean
      rcases List.mem_cons.mp member with rfl | member
      · exact ⟨_, _, statement⟩
      · exact clean_statements_of_clean_stmts fnContext rest _ _ _ _ restClean s' member
termination_by structural stmts => stmts

theorem clean_statements_of_clean_item {fnContext : FnContext} {f : Spanned Ident} {sig : FuncSig}
    {body : Block} {bSpan : Span} {v : Item × FnContext}
    (clean : (typecheckItem (.fnDecl f sig (body, bSpan)) fnContext).Clean v) :
    ∀ s ∈ body.stmts, ∃ varContext r, (typecheckStatement fnContext s varContext).Clean r := by
  obtain ⟨f, fSpan⟩ := f
  rw [typecheckItem, Tc.clean_bind_iff] at clean
  obtain ⟨_, block, -⟩ := clean
  rw [typecheckBlock, Tc.clean_bind_iff] at block
  obtain ⟨_, stmts, -⟩ := block
  exact clean_statements_of_clean_stmts fnContext _ _ _ _ _ stmts

theorem clean_items_of_clean_program {p checked : Program} (clean : (typecheckProgram p).Clean checked) :
    ∃ items, (typecheckItems p HashMap.new).Clean items ∧ .error () ∉ items := by
  rw [typecheckProgram, Tc.clean_bind_iff] at clean
  obtain ⟨items, ran, lifted⟩ := clean
  refine ⟨items, ran, fun member => ?_⟩
  rw [Tc.clean_iff_ok_with, Tc.ok_with_lift_iff, (check_vec_eq_error_iff items).mpr member] at lifted
  cases lifted

theorem clean_typecheck_item_of_clean_cons {i : Item} {iSpan : Span} {p : List (Spanned Item)}
    {fnContext : FnContext} {items : List (TypecheckingResult (Spanned Item))}
    (clean : (typecheckItems ((i, iSpan) :: p) fnContext).Clean items) (allOk : .error () ∉ items) :
    ∃ v, (typecheckItem i fnContext).Clean v := by
  rw [typecheckItems, Tc.clean_bind_iff] at clean
  obtain ⟨checked, ⟨ran, quiet⟩, clean⟩ := clean
  rcases checked with ⟨⟨⟩⟩ | v
  · rw [Tc.clean_bind_iff] at clean
    obtain ⟨_, _, returned⟩ := clean
    rw [Tc.clean_pure_iff] at returned
    exact absurd (returned ▸ List.mem_cons_self _ _) allOk
  · exact ⟨v, Except.ok.inj ran, quiet⟩

theorem clean_item_of_clean_program {p checked : Program} (clean : (typecheckProgram p).Clean checked)
    (k : Nat) (hk : k < p.length) :
    ∃ v, (typecheckItem p[k].1 (declaredTable ((p.take k).map Prod.fst))).Clean v := by
  obtain ⟨items, ran, allOk⟩ := clean_items_of_clean_program clean
  rw [typecheck_items_at p k, Tc.clean_bind_iff] at ran
  obtain ⟨before, ranBefore, ran⟩ := ran
  rw [Tc.clean_bind_iff] at ran
  obtain ⟨rest, ranRest, returned⟩ := ran
  rw [Tc.clean_pure_iff] at returned
  subst returned
  rw [← declared_table_nil] at ranBefore
  rw [accepted_items_of_all_ok _ [] ranBefore.1 fun member => allOk (List.mem_append_left _ member),
    List.nil_append, List.drop_eq_getElem_cons hk] at ranRest
  generalize p[k] = item at ranRest ⊢
  obtain ⟨i, iSpan⟩ := item
  exact clean_typecheck_item_of_clean_cons ranRest fun member => allOk (List.mem_append_right _ member)

/-- The program is checked in one pass: item `k` against the table of the accepted
items before it. When it checks without a diagnostic, every free call in the body
of a function names a function declared before that one. -/
theorem items_checked_in_one_forward_pass :
    (∀ (p : Program) (k : Nat), typecheckItems p HashMap.new = (do
      let before ← typecheckItems (p.take k) HashMap.new
      let rest ← typecheckItems (p.drop k) (declaredTable (acceptedItems (p.take k) []))
      pure (before ++ rest))) ∧
    ∀ (p checked : Program), (typecheckProgram p).Clean checked →
      ∀ (k : Nat) (hk : k < p.length) (f : Spanned Ident) (sig : FuncSig) (body : Block) (bSpan : Span),
        p[k].1 = .fnDecl f sig (body, bSpan) →
        ∀ s ∈ body.stmts, ∀ node ∈ subExpressions (statementExpression s.1),
        ∀ callee fSpan args, node.1 = .funcCall (callee, fSpan) args →
          ∃ id idSpan, callee = ⟨[(id, idSpan)], none⟩ ∧
            ∃ item ∈ p.take k, ∃ declSpan declSig declBody,
              item.1 = .fnDecl (id, declSpan) declSig declBody := by
  refine ⟨typecheck_items_at, ?_⟩
  intro p checked clean k hk f sig body bSpan decl s member node inNode callee fSpan args call
  obtain ⟨_, itemClean⟩ := clean_item_of_clean_program clean k hk
  rw [decl] at itemClean
  obtain ⟨varContext, _, statement⟩ := clean_statements_of_clean_item itemClean s member
  obtain ⟨t, varContext', expression⟩ := clean_expression_of_clean_statement statement
  obtain ⟨id, idSpan, sig', rfl, found⟩ := calls_resolved_of_typed
    (typed_of_ok_with false _ _ _ _ _ ((Tc.clean_iff_ok_with _ _).mp expression))
    node inNode callee fSpan args call
  obtain ⟨_, declared, declSpan, declBody, rfl⟩ := last_declared_eq_some found
  obtain ⟨item, itemMember, same⟩ := List.mem_map.mp declared
  exact ⟨id, idSpan, rfl, item, itemMember, declSpan, sig', declBody, same⟩

/-- `fn f() {} fn g() { let a = f(); }`. -/
def callsEarlierFunction : Program :=
  [(.fnDecl ("f", noSpan) ⟨[], (.unit, noSpan)⟩ (⟨[], none, none⟩, noSpan), noSpan),
    (.fnDecl ("g", noSpan) ⟨[], (.unit, noSpan)⟩
      (⟨[letOf "a" (.funcCall (⟨[("f", noSpan)], none⟩, noSpan) [], noSpan)], none, none⟩, noSpan),
      noSpan)]

theorem items_checked_in_one_forward_pass_witness :
    (∃ checked, (typecheckProgram callsEarlierFunction).Clean checked) ∧
      ∃ id idSpan, (⟨[("f", noSpan)], none⟩ : Path) = ⟨[(id, idSpan)], none⟩ ∧
        ∃ item ∈ callsEarlierFunction.take 1, ∃ declSpan declSig declBody,
          item.1 = .fnDecl (id, declSpan) declSig declBody := by
  obtain ⟨checked, ran⟩ : ∃ checked, (typecheckProgram callsEarlierFunction).result = .ok checked :=
    ⟨_, rfl⟩
  have clean : (typecheckProgram callsEarlierFunction).Clean checked := ⟨ran, rfl⟩
  exact ⟨⟨checked, clean⟩, items_checked_in_one_forward_pass.2 _ _ clean 1 (by decide) _ _ _ _ rfl _
    (List.mem_singleton_self _) _ (List.mem_cons_self _ _) _ _ _ rfl⟩

/-- `fn f(x: u8, s: Seq<u8>) { let x = s; let a = x; let b = x; }`: the second
and third statements both read the `x` that the first binds. -/
def readsRebindingTwice : Item :=
  .fnDecl ("f", noSpan)
    ⟨[(("x", noSpan), (ownedByte, noSpan)), (("s", noSpan), (ownedBytes, noSpan))], (.unit, noSpan)⟩
    (⟨[letOf "x" (readOf "s"), letOf "a" (readOf "x"), letOf "b" (readOf "x")], none, none⟩, noSpan)

/-- The body checks without a diagnostic, though the binding of `x` that
`let x = s;` makes is an owned sequence, which is not copy. -/
theorem rebound_owned_value_read_twice :
    (typecheckItem readsRebindingTwice HashMap.new).diags = [] ∧
      (typecheckItem readsRebindingTwice HashMap.new).result.isOk = true ∧
      (typecheckPattern (.identPat "x", noSpan) ownedBytes).result = .ok (HashMap.unit "x" ownedBytes) ∧
      isCopy ownedBytes.2.1 = false :=
  ⟨rfl, rfl, rfl, rfl⟩

end Hacspec.Typechecker
