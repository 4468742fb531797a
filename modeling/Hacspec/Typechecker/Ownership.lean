import Hacspec.Typechecker.Functions

/-!
# Ownership across the statements of a body

An occurrence of `x` in the expression of a statement refers to the binding made by
the last statement before it whose pattern binds `x`, or to the parameter `x` when
there is none. `readsOfBinding x stmts` counts the occurrences that refer to the
binding in force before `stmts`: those up to the next statement that binds `x`, whose
expression is checked before its pattern binds.

The loop of `typecheck_block` reads each linear name of its context at most once
before the name is bound again: the first read moves it out (`Consumes`), and a later
read finds it unbound and fails. So in a body that checks silently every linear
parameter is read at most once, and so is every linear binding of a let pattern whose
name the expression has left unbound. Where the name is still bound,
`new_var_context.union(pat_var_context)` keeps the earlier binding and the pattern's
is not in the context at all.
-/

namespace Hacspec.Typechecker

open Hacspec.Rustspec

set_option autoImplicit false

mutual
def patternNames : Pattern → List Ident
  | .tuple patArgs => patternArgsNames patArgs
  | .wildCard => []
  | .identPat x => [x]
termination_by structural p => p
def patternArgsNames : List (Pattern × Span) → List Ident
  | [] => []
  | (pat, _) :: patArgs => patternNames pat ++ patternArgsNames patArgs
termination_by structural patArgs => patArgs
end

/-- The occurrences of `x` that refer to the binding of `x` in force before `stmts`. -/
def readsOfBinding (x : Ident) : List (Spanned Statement) → Nat
  | [] => 0
  | (.letBinding (pat, _) _ expr, _) :: rest =>
      (vars expr).count x + if x ∈ patternNames pat then 0 else readsOfBinding x rest

/-- The context the loop of `typecheck_block` holds after `stmts`, when each of them
checks. -/
def contextAfterStmts (fnContext : FnContext) :
    List (Spanned Statement) → VarContext → Option VarContext
  | [], varContext => some varContext
  | s :: rest, varContext =>
      match (typecheckStatement fnContext s varContext).result with
      | .ok (_, varContext', _) => contextAfterStmts fnContext rest varContext'
      | .error () => none

section PatternNames

variable {x : Ident}

mutual
theorem typecheck_pattern_get_of_not_mem :
    ∀ (pat : Pattern × Span) (typ : Typ) {patVarContext : VarContext},
      (typecheckPattern pat typ).result = .ok patVarContext → x ∉ patternNames pat.1 →
        patVarContext.get x = none
  | (pat, patSpan), typ, _, ran, unnamed => check_pattern_get_of_not_mem pat patSpan typ ran unnamed
termination_by structural pat => pat
theorem check_pattern_get_of_not_mem :
    ∀ (pat : Pattern) (patSpan : Span) (typ : Typ) {patVarContext : VarContext},
      (checkPattern pat patSpan typ).result = .ok patVarContext → x ∉ patternNames pat →
        patVarContext.get x = none
  | .tuple patArgs, patSpan, (_, typ), _, ran, unnamed => by
      rw [checkPattern] at ran
      split at ran
      · obtain ⟨_, -, ran⟩ := Tc.result_bind_eq_ok.mp ran
        obtain ⟨acc, args, lifted⟩ := Tc.result_bind_eq_ok.mp ran
        exact typecheck_pattern_args_get_of_not_mem patSpan _ patArgs _ args unnamed
          (fun _ new => by cases new; rfl) _ lifted
      · obtain ⟨_, -, failed⟩ := Tc.result_bind_eq_ok.mp ran
        cases failed
  | .wildCard, _, _, _, ran, _ => by
      cases ran
      rfl
  | .identPat y, _, _, _, ran, unnamed => by
      cases ran
      rw [HashMap.get_unit, if_neg fun same => unnamed (List.mem_singleton.mpr same)]
termination_by structural pat => pat
theorem typecheck_pattern_args_get_of_not_mem (patSpan : Span) :
    ∀ (acc : TypecheckingResult VarContext) (patArgs : List (Pattern × Span))
      (typArgs : List (Spanned BaseTyp)) {out : TypecheckingResult VarContext},
      (typecheckPatternArgs patSpan acc patArgs typArgs).result = .ok out →
      x ∉ patternArgsNames patArgs → (∀ a, acc = .ok a → a.get x = none) →
        ∀ a, out = .ok a → a.get x = none
  | acc, (patArg, patArgSpan) :: patArgs, typArg :: typArgs, _, ran, unnamed, accUnbound => by
      rw [typecheck_pattern_args_cons, Tc.bind_of_ok (Tc.attempt_result _)] at ran
      rw [patternArgsNames, List.mem_append, not_or] at unnamed
      refine typecheck_pattern_args_get_of_not_mem patSpan _ patArgs typArgs ran unnamed.2 ?_
      intro joined union
      rcases sub : (typecheckPattern (patArg, patArgSpan) ((.consumed, patSpan), typArg)).result with
        ⟨⟨⟩⟩ | sub
      · rw [sub] at union
        cases union
      · rcases acc with ⟨⟨⟩⟩ | acc
        · rw [sub] at union
          cases union
        · rw [sub] at union
          cases union
          rw [HashMap.get_union, accUnbound acc rfl,
            typecheck_pattern_get_of_not_mem (patArg, patArgSpan) _ sub unnamed.1]
          rfl
  | acc, [], _, _, ran, _, accUnbound | acc, _ :: _, [], _, ran, _, accUnbound => by
      cases ran
      exact accUnbound
termination_by structural _ patArgs => patArgs
end

end PatternNames

theorem clean_typecheck_statement {fnContext : FnContext} {pat : Spanned Pattern}
    {typ : Option (Spanned Typ)} {expr : Expression × Span} {sSpan : Span} {varContext : VarContext}
    {t : Typ} {varContext' : VarContext} {mutatedVars : VarSet}
    (clean : (typecheckStatement fnContext (.letBinding pat typ expr, sSpan) varContext).Clean
      (t, varContext', mutatedVars)) :
    ∃ exprTyp exprVarContext patVarContext,
      (typecheckExpression fnContext expr varContext).result = .ok (exprTyp, exprVarContext) ∧
      Consumes varContext (vars expr) exprVarContext ∧
      (typecheckPattern pat exprTyp).result = .ok patVarContext ∧
      ∀ x, varContext'.get x = (exprVarContext.get x).or (patVarContext.get x) := by
  obtain ⟨exprTyp, exprVarContext, patVarContext, expression, pattern, -, -, joined⟩ :=
    typecheck_statement_context fnContext pat typ expr sSpan varContext clean.1
  obtain ⟨_, _, quiet⟩ := clean_expression_of_clean_statement clean
  cases quiet.1.symm.trans expression
  exact ⟨exprTyp, exprVarContext, patVarContext, expression,
    consumes_of_typed (typed_of_ok_with false _ _ _ _ _ ((Tc.clean_iff_ok_with _ _).mp quiet)),
    pattern, joined⟩

theorem clean_typecheck_stmts_drop {fnContext : FnContext} :
    ∀ (stmts : List (Spanned Statement)) (varContext : VarContext) (mutatedVars : VarSet)
      (returnTyp : Option Typ) (r : VarSet × Option Typ) (k : Nat) (varContextAt : VarContext),
      (typecheckStmts fnContext stmts varContext mutatedVars returnTyp).Clean r →
      contextAfterStmts fnContext (stmts.take k) varContext = some varContextAt →
      ∃ mutatedVars' returnTyp' r',
        (typecheckStmts fnContext (stmts.drop k) varContextAt mutatedVars' returnTyp').Clean r'
  | _, _, _, _, _, 0, _, clean, reached => by
      cases reached
      exact ⟨_, _, _, clean⟩
  | [], _, _, _, _, _ + 1, _, _, _ => ⟨∅, none, _, rfl, rfl⟩
  | s :: rest, _, _, _, _, k + 1, varContextAt, clean, reached => by
      obtain ⟨_, varContext', _, statement, _, _, _, restClean⟩ := clean_typecheck_stmts_cons clean
      rw [List.take_succ_cons, contextAfterStmts, statement.1] at reached
      exact clean_typecheck_stmts_drop rest varContext' _ _ _ k varContextAt restClean reached

section Reads

variable {fnContext : FnContext} {x : Ident}

/-- A name the context does not bind is not read before it is bound again: a read
would fail. -/
theorem reads_of_binding_eq_zero_of_unbound :
    ∀ (stmts : List (Spanned Statement)) (varContext : VarContext) (mutatedVars : VarSet)
      (returnTyp : Option Typ) (r : VarSet × Option Typ),
      (typecheckStmts fnContext stmts varContext mutatedVars returnTyp).Clean r →
      varContext.get x = none → readsOfBinding x stmts = 0
  | [], _, _, _, _, _, _ => rfl
  | (.letBinding (pat, patSpan) typ expr, sSpan) :: rest, varContext, _, _, _, clean, unbound => by
      obtain ⟨_, varContext', _, statement, _, _, _, restClean⟩ := clean_typecheck_stmts_cons clean
      obtain ⟨_, _, _, -, consumes, pattern, joined⟩ := clean_typecheck_statement statement
      have unread : x ∉ vars expr := fun read => consumes.bound x read unbound
      rw [readsOfBinding, List.count_eq_zero.mpr unread, Nat.zero_add]
      split
      · rfl
      · next unnamed =>
          have stillUnbound : varContext'.get x = none := by
            rw [joined, consumes.get_eq_none unbound,
              typecheck_pattern_get_of_not_mem _ _ pattern unnamed]
            rfl
          exact reads_of_binding_eq_zero_of_unbound rest varContext' _ _ _ restClean stillUnbound

theorem reads_of_binding_le_one_of_linear :
    ∀ (stmts : List (Spanned Statement)) (varContext : VarContext) (mutatedVars : VarSet)
      (returnTyp : Option Typ) (r : VarSet × Option Typ),
      (typecheckStmts fnContext stmts varContext mutatedVars returnTyp).Clean r →
      Linear varContext x → readsOfBinding x stmts ≤ 1
  | [], _, _, _, _, _, _ => Nat.zero_le _
  | (.letBinding (pat, patSpan) typ expr, sSpan) :: rest, varContext, _, _, _, clean, linear => by
      obtain ⟨_, varContext', _, statement, _, _, _, restClean⟩ := clean_typecheck_stmts_cons clean
      obtain ⟨_, exprVarContext, _, -, consumes, pattern, joined⟩ := clean_typecheck_statement statement
      have readOnce := consumes.readOnce x linear
      rw [readsOfBinding]
      split
      · exact readOnce
      · next unnamed =>
          have patUnbound := typecheck_pattern_get_of_not_mem _ _ pattern unnamed
          by_cases read : x ∈ vars expr
          · have moved : varContext'.get x = none := by
              rw [joined, consumes.linearRemoved x read linear, patUnbound]
              rfl
            rw [reads_of_binding_eq_zero_of_unbound rest varContext' _ _ _ restClean moved]
            exact readOnce
          · have kept : varContext'.get x = varContext.get x := by
              rw [joined, consumes.get_of_not_mem read, patUnbound, Option.or_none]
            obtain ⟨u, found, consumed, notCopy⟩ := linear
            rw [List.count_eq_zero.mpr read, Nat.zero_add]
            exact reads_of_binding_le_one_of_linear rest varContext' _ _ _ restClean
              ⟨u, kept.trans found, consumed, notCopy⟩

end Reads

/-- Every linear binding of a body that checks silently is read at most once: each
parameter, and each binding of a let pattern (at the type `typecheck_pattern` gives
it) whose name the statement's expression has left unbound. -/
theorem linear_bindings_read_at_most_once {f : Spanned Ident} {sig : FuncSig} {b : Block}
    {bSpan : Span} {fnContext : FnContext} {v : Item × FnContext}
    (clean : (typecheckItem (.fnDecl f sig (b, bSpan)) fnContext).Clean v) :
    (∀ x, Linear (paramContext sig) x → readsOfBinding x b.stmts ≤ 1) ∧
      ∀ (k : Nat) (pat : Spanned Pattern) (typ : Option (Spanned Typ)) (expr : Expression × Span)
        (sSpan : Span) (varContextAt : VarContext) (exprTyp : Typ)
        (exprVarContext patVarContext : VarContext),
        b.stmts[k]? = some (.letBinding pat typ expr, sSpan) →
        contextAfterStmts fnContext (b.stmts.take k) (paramContext sig) = some varContextAt →
        (typecheckExpression fnContext expr varContextAt).result = .ok (exprTyp, exprVarContext) →
        (typecheckPattern pat exprTyp).result = .ok patVarContext →
        ∀ x, Linear patVarContext x → exprVarContext.get x = none →
          readsOfBinding x (b.stmts.drop (k + 1)) ≤ 1 := by
  obtain ⟨f, fSpan⟩ := f
  rw [typecheckItem, Tc.clean_bind_iff] at clean
  obtain ⟨_, block, -⟩ := clean
  rw [typecheckBlock, Tc.clean_bind_iff] at block
  obtain ⟨_, stmts, -⟩ := block
  refine ⟨fun x linear => reads_of_binding_le_one_of_linear _ _ _ _ _ stmts linear, ?_⟩
  intro k pat typ expr sSpan varContextAt exprTyp exprVarContext patVarContext found reached
    expression pattern x linear unbound
  obtain ⟨_, _, _, fromK⟩ := clean_typecheck_stmts_drop _ _ _ _ _ k varContextAt stmts reached
  obtain ⟨inBody, atK⟩ := List.getElem?_eq_some_iff.mp found
  rw [List.drop_eq_getElem_cons inBody, atK] at fromK
  obtain ⟨_, varContext', _, statement, _, _, _, restClean⟩ := clean_typecheck_stmts_cons fromK
  obtain ⟨_, _, _, expression', -, pattern', joined⟩ := clean_typecheck_statement statement
  cases expression.symm.trans expression'
  cases pattern.symm.trans pattern'
  obtain ⟨u, found, consumed, notCopy⟩ := linear
  have bound : varContext'.get x = some u := by rw [joined, unbound, found]; rfl
  exact reads_of_binding_le_one_of_linear _ _ _ _ _ restClean ⟨u, bound, consumed, notCopy⟩

/-- `fn f(s: Seq<u8>) { let x = s; let a = x; }`. -/
def movesThrough : Item :=
  .fnDecl ("f", noSpan) ⟨[(("s", noSpan), (ownedBytes, noSpan))], (.unit, noSpan)⟩
    (⟨[letOf "x" (readOf "s"), letOf "a" (readOf "x")], none, none⟩, noSpan)

theorem linear_bindings_read_at_most_once_witness :
    (∃ v, (typecheckItem movesThrough HashMap.new).Clean v) ∧
      readsOfBinding "s" [letOf "x" (readOf "s"), letOf "a" (readOf "x")] ≤ 1 ∧
      readsOfBinding "x" [letOf "a" (readOf "x")] ≤ 1 := by
  obtain ⟨v, ran⟩ : ∃ v, (typecheckItem movesThrough HashMap.new).result = .ok v := ⟨_, rfl⟩
  have clean : (typecheckItem movesThrough HashMap.new).Clean v := ⟨ran, rfl⟩
  have owned : Linear (HashMap.unit "x" ownedBytes) "x" := ⟨ownedBytes, rfl, rfl, rfl⟩
  exact ⟨⟨v, clean⟩, (linear_bindings_read_at_most_once clean).1 "s" ⟨ownedBytes, rfl, rfl, rfl⟩,
    (linear_bindings_read_at_most_once clean).2 0 _ _ _ _ _ _ _ _ rfl rfl rfl rfl "x" owned rfl⟩

end Hacspec.Typechecker
