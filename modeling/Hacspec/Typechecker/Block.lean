import Hacspec.Typechecker.Expression

/-!
# Patterns, statements, blocks, items and programs

`typecheck_pattern` binds a pattern against a type; its tuple case folds the
sub-patterns, checking each one before it looks at the accumulator, so every
sub-pattern is checked even after one fails. `typecheck_statement` checks a let
binding and joins the pattern's bindings into the context with
`new_var_context.union(pat_var_context)`. `typecheck_block` runs the statements in
order, `typecheck_item` checks a function body against the parameters, and
`typecheck_program` maps over the items and ends with `check_vec`, so every item is
checked; the function context moves on only past an item that checks.
-/

namespace Hacspec.Typechecker

open Hacspec.Rustspec

set_option autoImplicit false

/-- `Ok(acc?.union(sub_var_context))`, once `sub_var_context` has been checked by
`?`: the bindings already made win over the sub-pattern's. -/
def unionAcc (sub acc : TypecheckingResult VarContext) : TypecheckingResult VarContext :=
  match sub, acc with
  | .ok sub, .ok acc => .ok (acc.union sub)
  | _, _ => .error ()

mutual
def typecheckPattern : Pattern × Span → Typ → Tc VarContext
  | (pat, patSpan), typ => checkPattern pat patSpan typ
termination_by structural p => p
/-- The body of `typecheck_pattern`, after `(pat, pat_span)` is taken apart. -/
def checkPattern : Pattern → Span → Typ → Tc VarContext
  | .tuple patArgs, patSpan, (_, typ) =>
      match typ.1 with
      | .tuple typArgs => do
          Tc.reportIf (patArgs.length != typArgs.length) patSpan
            (.patternArity patArgs.length typArgs.length)
          let acc ← typecheckPatternArgs patSpan (.ok HashMap.new) patArgs typArgs
          Tc.lift acc
      | _ => do
          Tc.spanErr patSpan (.patternNotTuple typ.1)
          Tc.fail
  | .wildCard, _, _ => pure HashMap.new
  | .identPat x, _, (borrowingTyp, typ) => pure (HashMap.unit x (borrowingTyp, typ))
termination_by structural p => p
/-- The `fold` over `pat_args.iter().zip(typ_args.iter())`. Every sub-pattern is
checked, also after the accumulator has become `Err`. -/
def typecheckPatternArgs (patSpan : Span) :
    TypecheckingResult VarContext → List (Pattern × Span) → List (Spanned BaseTyp) →
      Tc (TypecheckingResult VarContext)
  | acc, patArg :: patArgs, typArg :: typArgs => do
      let sub ← (typecheckPattern patArg ((.consumed, patSpan), typArg)).attempt
      typecheckPatternArgs patSpan (unionAcc sub acc) patArgs typArgs
  | acc, _, _ => pure acc
termination_by structural _ patArgs => patArgs
end

theorem typecheck_pattern_args_cons (patSpan : Span) (acc : TypecheckingResult VarContext)
    (patArg : Pattern × Span) (patArgs : List (Pattern × Span)) (typArg : Spanned BaseTyp)
    (typArgs : List (Spanned BaseTyp)) :
    typecheckPatternArgs patSpan acc (patArg :: patArgs) (typArg :: typArgs) = (do
      let sub ← (typecheckPattern patArg ((.consumed, patSpan), typArg)).attempt
      typecheckPatternArgs patSpan (unionAcc sub acc) patArgs typArgs) := rfl

/-- The check of the declared type of a let binding against the expression's. -/
def checkDeclaredTyp (typ : Option (Spanned Typ)) (exprTyp : Typ) (patSpan : Span) : Tc Unit :=
  match typ with
  | none => pure ()
  | some (typ, _) =>
      Tc.failIf (!equalTypes typ exprTyp) patSpan
        (.wrongDeclaredType (typ.1.1, typ.2.1) (exprTyp.1.1, exprTyp.2.1))

def typecheckStatement (fnContext : FnContext) :
    Spanned Statement → VarContext → Tc (Typ × VarContext × VarSet)
  | (.letBinding (pat, patSpan) typ expr, sSpan), varContext => do
      let (exprTyp, newVarContext) ← typecheckExpression fnContext expr varContext
      checkDeclaredTyp typ exprTyp patSpan
      let patVarContext ← typecheckPattern (pat, patSpan) exprTyp
      pure (((.consumed, sSpan), (.unit, sSpan)), newVarContext.union patVarContext, ∅)

/-- The loop of `typecheck_block`. The statements after the current one are
`rest`, so `i + 1 < b.stmts.len()` is `rest ≠ []`. -/
def typecheckStmts (fnContext : FnContext) :
    List (Spanned Statement) → VarContext → VarSet → Option Typ → Tc (VarSet × Option Typ)
  | [], _, mutatedVars, returnTyp => pure (mutatedVars, returnTyp)
  | s :: rest, varContext, mutatedVars, returnTyp => do
      let (stmtTyp, varContext, newMutatedVars) ← typecheckStatement fnContext s varContext
      let mutatedVars := mutatedVars ∪ newMutatedVars
      match rest with
      | [] => typecheckStmts fnContext rest varContext mutatedVars (some stmtTyp)
      | _ :: _ =>
          match stmtTyp with
          | ((.consumed, _), (.unit, _)) =>
              typecheckStmts fnContext rest varContext mutatedVars returnTyp
          | _ => do
              Tc.spanErr s.2 .statementNotUnit
              Tc.fail

/-- The block keeps its statements; the context it built is dropped, since the
block is the scope of the variables defined inside it. -/
def typecheckBlock (fnContext : FnContext) (b : Block) (varContext : VarContext) : Tc Block := do
  let (mutatedVars, returnTyp) ← typecheckStmts fnContext b.stmts varContext ∅ none
  pure { stmts := b.stmts, mutatedVars := some mutatedVars, returnTyp }

/-- The context a function body starts from: the `fold` of `update` over the
parameters. -/
def paramContext (sig : FuncSig) : VarContext :=
  sig.args.foldl (fun varContext ((x, _), (t, _)) => varContext.update x t) HashMap.new

def typecheckItem (i : Item) (fnContext : FnContext) : Tc (Item × FnContext) :=
  match i with
  | .fnDecl (f, fSpan) sig (b, bSpan) => do
      let b ← typecheckBlock fnContext b (paramContext sig)
      pure (.fnDecl (f, fSpan) sig (b, bSpan), fnContext.update (.static f) sig)
  | .use p => pure (.use p, fnContext)

/-- The `map` closure of `typecheck_program`: an item that fails yields `Err` and
leaves `fn_context` as it was, and the map goes on. -/
def typecheckItems : List (Spanned Item) → FnContext → Tc (List (TypecheckingResult (Spanned Item)))
  | [], _ => pure []
  | (i, iSpan) :: p, fnContext => do
      let checked ← (typecheckItem i fnContext).attempt
      let (item, fnContext) := match checked with
        | .ok (newI, newFnContext) => (.ok (newI, iSpan), newFnContext)
        | .error () => (.error (), fnContext)
      let items ← typecheckItems p fnContext
      pure (item :: items)

def typecheckProgram (p : Program) : Tc Program := do
  let items ← typecheckItems p HashMap.new
  Tc.lift (checkVec items)

end Hacspec.Typechecker
