import Hacspec.Typechecker.Ownership

/-!
# What a pattern binds

`typecheck_pattern` matches the sub-patterns of a tuple pattern with the components
of a tuple type one to one, up to the shorter of the two, and gives each name the
type it meets. `referenceBindings` lists the pairs so made, left to right; it fails
where a tuple pattern meets a type that is not a tuple, and that is exactly where the
check fails (`typecheck_pattern_result`).

The check accumulates the sub-patterns' maps with `acc.union(sub)`, and the union
keeps the receiver's value, so a name bound twice keeps the type of its first pair
(`firstBindings`). Inserting the pairs from left to right (`insertBindings`) gives it
the type of its last pair instead. The two maps agree when the pattern's names are
distinct.
-/

namespace Hacspec.Typechecker

open Hacspec.Rustspec

set_option autoImplicit false

mutual
/-- The pairs a pattern binds against a type, left to right. A sub-pattern of a tuple
meets its component as consumed, at the tuple pattern's span, as in
`typecheck_pattern`. -/
def referenceBindings : Pattern × Span → Typ → Option (List (Ident × Typ))
  | (pat, patSpan), typ => referencePatBindings pat patSpan typ
termination_by structural p => p
def referencePatBindings : Pattern → Span → Typ → Option (List (Ident × Typ))
  | .tuple patArgs, patSpan, (_, (.tuple typArgs, _)) =>
      referenceArgsBindings patSpan patArgs typArgs
  | .tuple _, _, _ => none
  | .wildCard, _, _ => some []
  | .identPat x, _, typ => some [(x, typ)]
termination_by structural p => p
def referenceArgsBindings (patSpan : Span) :
    List (Pattern × Span) → List (Spanned BaseTyp) → Option (List (Ident × Typ))
  | patArg :: patArgs, typArg :: typArgs => do
      let bindings ← referenceBindings patArg ((.consumed, patSpan), typArg)
      let rest ← referenceArgsBindings patSpan patArgs typArgs
      pure (bindings ++ rest)
  | _, _ => some []
termination_by structural patArgs => patArgs
end

theorem reference_args_bindings_cons (patSpan : Span) (patArg : Pattern × Span)
    (patArgs : List (Pattern × Span)) (typArg : Spanned BaseTyp) (typArgs : List (Spanned BaseTyp)) :
    referenceArgsBindings patSpan (patArg :: patArgs) (typArg :: typArgs) = (do
      let bindings ← referenceBindings patArg ((.consumed, patSpan), typArg)
      let rest ← referenceArgsBindings patSpan patArgs typArgs
      pure (bindings ++ rest)) := rfl

def insertBindings (bindings : List (Ident × Typ)) : VarContext :=
  bindings.foldl (fun varContext (x, t) => varContext.update x t) HashMap.new

def firstBindings (bindings : List (Ident × Typ)) : VarContext :=
  bindings.foldr (fun (x, t) varContext => varContext.update x t) HashMap.new

def bindingsResult : Option (List (Ident × Typ)) → TypecheckingResult VarContext
  | some bindings => .ok (firstBindings bindings)
  | none => .error ()

@[simp] theorem first_bindings_cons (pair : Ident × Typ) (bindings : List (Ident × Typ)) :
    firstBindings (pair :: bindings) = (firstBindings bindings).update pair.1 pair.2 := rfl

theorem first_bindings_append (bindings rest : List (Ident × Typ)) :
    firstBindings (bindings ++ rest) = (firstBindings bindings).union (firstBindings rest) := by
  induction bindings with
  | nil => exact (HashMap.new_union _).symm
  | cons pair bindings ih => rw [List.cons_append, first_bindings_cons, first_bindings_cons, ih,
      HashMap.update_union]

theorem first_bindings_get_of_not_mem {bindings : List (Ident × Typ)} {x : Ident}
    (unnamed : x ∉ bindings.map Prod.fst) : (firstBindings bindings).get x = none := by
  induction bindings with
  | nil => rfl
  | cons pair bindings ih =>
      rw [List.map_cons, List.mem_cons, not_or] at unnamed
      rw [first_bindings_cons, HashMap.get_update, if_neg unnamed.1]
      exact ih unnamed.2

theorem foldl_update_of_nodup {bindings : List (Ident × Typ)} (distinct : (bindings.map Prod.fst).Nodup)
    (m : VarContext) :
    bindings.foldl (fun varContext (x, t) => varContext.update x t) m =
      (firstBindings bindings).union m := by
  induction bindings generalizing m with
  | nil => exact (HashMap.new_union m).symm
  | cons pair bindings ih =>
      rw [List.map_cons, List.nodup_cons] at distinct
      rw [List.foldl_cons, ih distinct.2]
      ext k
      by_cases named : k = pair.1
      · simp [named, first_bindings_get_of_not_mem distinct.1]
      · simp [named]

theorem insert_bindings_eq_first_bindings {bindings : List (Ident × Typ)}
    (distinct : (bindings.map Prod.fst).Nodup) : insertBindings bindings = firstBindings bindings := by
  rw [insertBindings, foldl_update_of_nodup distinct, HashMap.union_new]

mutual
theorem typecheck_pattern_result :
    ∀ (pat : Pattern × Span) (typ : Typ),
      (typecheckPattern pat typ).result = bindingsResult (referenceBindings pat typ)
  | (pat, patSpan), typ => check_pattern_result pat patSpan typ
termination_by structural pat => pat
theorem check_pattern_result :
    ∀ (pat : Pattern) (patSpan : Span) (typ : Typ),
      (checkPattern pat patSpan typ).result = bindingsResult (referencePatBindings pat patSpan typ)
  | .tuple patArgs, patSpan, (_, (typ, _)) => by
      cases typ with
      | tuple typArgs =>
          show ((do
            Tc.reportIf _ patSpan _
            let acc ← typecheckPatternArgs patSpan (.ok HashMap.new) patArgs typArgs
            Tc.lift acc) : Tc VarContext).result =
              bindingsResult (referenceArgsBindings patSpan patArgs typArgs)
          rw [Tc.bind_of_ok (Tc.report_if_result _ _ _),
            Tc.bind_of_ok (typecheck_pattern_args_result patSpan _ patArgs typArgs)]
          cases referenceArgsBindings patSpan patArgs typArgs <;> rfl
      | _ => rfl
  | .wildCard, _, _ => rfl
  | .identPat _, _, _ => rfl
termination_by structural pat => pat
/-- The fold over the sub-patterns joins the first pairs of the sub-patterns behind
the accumulator. -/
theorem typecheck_pattern_args_result (patSpan : Span) :
    ∀ (acc : TypecheckingResult VarContext) (patArgs : List (Pattern × Span))
      (typArgs : List (Spanned BaseTyp)),
      (typecheckPatternArgs patSpan acc patArgs typArgs).result =
        .ok (unionAcc (bindingsResult (referenceArgsBindings patSpan patArgs typArgs)) acc)
  | acc, patArg :: patArgs, typArg :: typArgs => by
      rw [typecheck_pattern_args_cons, Tc.bind_of_ok (Tc.attempt_result _),
        typecheck_pattern_args_result patSpan _ patArgs typArgs,
        typecheck_pattern_result patArg ((.consumed, patSpan), typArg), reference_args_bindings_cons]
      rcases acc with ⟨⟨⟩⟩ | acc
      · rw [union_acc_error_right, union_acc_error_right, union_acc_error_right]
      rcases referenceBindings patArg ((.consumed, patSpan), typArg) with _ | bindings
      · exact congrArg _ (union_acc_error_right _)
      rcases referenceArgsBindings patSpan patArgs typArgs with _ | rest
      · rfl
      show (Except.ok (Except.ok ((acc.union (firstBindings bindings)).union (firstBindings rest))) :
          Except Unit (TypecheckingResult VarContext)) =
        Except.ok (Except.ok (acc.union (firstBindings (bindings ++ rest))))
      rw [first_bindings_append, HashMap.union_assoc]
  | acc, [], _ | acc, _ :: _, [] => by
      rcases acc with ⟨⟨⟩⟩ | acc
      · rfl
      · exact congrArg _ (congrArg _ (HashMap.union_new acc).symm)
termination_by structural _ patArgs => patArgs
end

/-- The check of a pattern fails exactly where the pairs it binds are not defined,
and otherwise binds each name to the type of its first pair. -/
theorem typecheck_pattern_binds_first (pat : Pattern × Span) (typ : Typ) :
    ((typecheckPattern pat typ).result = .error () ↔ referenceBindings pat typ = none) ∧
      ∀ bindings, referenceBindings pat typ = some bindings →
        (typecheckPattern pat typ).result = .ok (firstBindings bindings) := by
  rw [typecheck_pattern_result]
  cases referenceBindings pat typ <;> simp [bindingsResult]

theorem typecheck_pattern_binds_first_witness :
    referenceBindings (.tuple [(.identPat "x", noSpan), (.identPat "x", noSpan)], noSpan)
        ((.consumed, noSpan), (.tuple [(.uInt8, noSpan), (.bool, noSpan)], noSpan)) =
      some [("x", ((.consumed, noSpan), (.uInt8, noSpan))),
        ("x", ((.consumed, noSpan), (.bool, noSpan)))] ∧
    (typecheckPattern (.tuple [(.identPat "x", noSpan), (.identPat "x", noSpan)], noSpan)
        ((.consumed, noSpan), (.tuple [(.uInt8, noSpan), (.bool, noSpan)], noSpan))).result =
      .ok (firstBindings [("x", ((.consumed, noSpan), (.uInt8, noSpan))),
        ("x", ((.consumed, noSpan), (.bool, noSpan)))]) :=
  ⟨rfl, (typecheck_pattern_binds_first _ _).2 _ rfl⟩

/-- A pattern `(x, x)` against `(u8, bool)`: the pairs are `x: u8` then `x: bool`, and
the check binds `x` to `u8`, where inserting the pairs from left to right gives `bool`. -/
theorem duplicate_name_keeps_first_type :
    referenceBindings (.tuple [(.identPat "x", noSpan), (.identPat "x", noSpan)], noSpan)
        ((.consumed, noSpan), (.tuple [(.uInt8, noSpan), (.bool, noSpan)], noSpan)) =
      some [("x", ((.consumed, noSpan), (.uInt8, noSpan))),
        ("x", ((.consumed, noSpan), (.bool, noSpan)))] ∧
    ∃ patVarContext,
      (typecheckPattern (.tuple [(.identPat "x", noSpan), (.identPat "x", noSpan)], noSpan)
          ((.consumed, noSpan), (.tuple [(.uInt8, noSpan), (.bool, noSpan)], noSpan))).result =
        .ok patVarContext ∧
      patVarContext.get "x" = some ((.consumed, noSpan), (.uInt8, noSpan)) ∧
      (insertBindings [("x", ((.consumed, noSpan), (.uInt8, noSpan))),
        ("x", ((.consumed, noSpan), (.bool, noSpan)))]).get "x" =
          some ((.consumed, noSpan), (.bool, noSpan)) :=
  ⟨rfl, _, rfl, rfl, rfl⟩

mutual
theorem reference_bindings_names :
    ∀ (pat : Pattern × Span) (typ : Typ) {bindings : List (Ident × Typ)},
      referenceBindings pat typ = some bindings → (bindings.map Prod.fst).Sublist (patternNames pat.1)
  | (pat, patSpan), typ, _, bound => reference_pat_bindings_names pat patSpan typ bound
termination_by structural pat => pat
theorem reference_pat_bindings_names :
    ∀ (pat : Pattern) (patSpan : Span) (typ : Typ) {bindings : List (Ident × Typ)},
      referencePatBindings pat patSpan typ = some bindings →
        (bindings.map Prod.fst).Sublist (patternNames pat)
  | .tuple patArgs, patSpan, (_, (typ, _)), _, bound => by
      cases typ with
      | tuple typArgs => exact reference_args_bindings_names patSpan patArgs typArgs bound
      | _ => exact (Option.some_ne_none _ (bound.symm.trans rfl)).elim
  | .wildCard, _, _, _, bound => by
      obtain rfl := Option.some.inj bound
      exact List.nil_sublist _
  | .identPat _, _, _, _, bound => by
      obtain rfl := Option.some.inj bound
      exact List.Sublist.refl _
termination_by structural pat => pat
theorem reference_args_bindings_names (patSpan : Span) :
    ∀ (patArgs : List (Pattern × Span)) (typArgs : List (Spanned BaseTyp))
      {bindings : List (Ident × Typ)},
      referenceArgsBindings patSpan patArgs typArgs = some bindings →
        (bindings.map Prod.fst).Sublist (patternArgsNames patArgs)
  | patArg :: patArgs, typArg :: typArgs, _, bound => by
      rw [reference_args_bindings_cons] at bound
      obtain ⟨first, firstBound, bound⟩ := Option.bind_eq_some.mp bound
      obtain ⟨rest, restBound, bound⟩ := Option.bind_eq_some.mp bound
      cases bound
      rw [List.map_append, patternArgsNames]
      exact (reference_bindings_names patArg _ firstBound).append
        (reference_args_bindings_names patSpan patArgs typArgs restBound)
  | [], _, _, bound | _ :: _, [], _, bound => by
      obtain rfl := Option.some.inj bound
      exact List.nil_sublist _
termination_by structural patArgs => patArgs
end

/-- A pattern whose names are distinct binds what inserting its pairs from left to
right gives. -/
theorem typecheck_pattern_inserts_distinct_names (pat : Pattern × Span) (typ : Typ)
    (bindings : List (Ident × Typ)) (distinct : (patternNames pat.1).Nodup)
    (bound : referenceBindings pat typ = some bindings) :
    (typecheckPattern pat typ).result = .ok (insertBindings bindings) := by
  rw [typecheck_pattern_result, bound,
    insert_bindings_eq_first_bindings (distinct.sublist (reference_bindings_names pat typ bound))]
  rfl

theorem typecheck_pattern_inserts_distinct_names_witness :
    (patternNames (.tuple [(.identPat "x", noSpan), (.identPat "y", noSpan)])).Nodup ∧
      (typecheckPattern (.tuple [(.identPat "x", noSpan), (.identPat "y", noSpan)], noSpan)
          ((.consumed, noSpan), (.tuple [(.uInt8, noSpan), (.bool, noSpan)], noSpan))).result =
        .ok (insertBindings [("x", ((.consumed, noSpan), (.uInt8, noSpan))),
          ("y", ((.consumed, noSpan), (.bool, noSpan)))]) :=
  have distinct : (patternNames (.tuple [(.identPat "x", noSpan), (.identPat "y", noSpan)])).Nodup := by
    decide
  ⟨distinct, typecheck_pattern_inserts_distinct_names _ _ _ distinct rfl⟩

end Hacspec.Typechecker
