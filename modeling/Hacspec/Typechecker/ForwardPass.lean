import Hacspec.Typechecker.Block

/-!
# The forward pass over the items

`typecheck_program` checks the items in order against one function context that
grows as it goes: an item that checks adds its signature under `Static(f)`, one that
fails leaves the context as it was. `fnContextAfter` is that context after a list of
items, and `typecheck_items_append` splits the pass anywhere: the items after a prefix
are checked as a program of their own would be, from the context the prefix left.

`declaredTable` describes that context without the checker's state: `Static(f)` is
the signature of the last accepted declaration of `f`, and there is no other key.
-/

namespace Hacspec.Typechecker

open Hacspec.Rustspec

set_option autoImplicit false

def fnContextAfter : List (Spanned Item) → FnContext → FnContext
  | [], fnContext => fnContext
  | (i, _) :: p, fnContext =>
      fnContextAfter p (match (typecheckItem i fnContext).result with
        | .ok (_, newFnContext) => newFnContext
        | .error () => fnContext)

theorem typecheck_items_append (p q : List (Spanned Item)) (fnContext : FnContext) :
    typecheckItems (p ++ q) fnContext = (do
      let items ← typecheckItems p fnContext
      let rest ← typecheckItems q (fnContextAfter p fnContext)
      pure (items ++ rest)) := by
  induction p generalizing fnContext with
  | nil => exact (Tc.bind_pure _).symm
  | cons item p ih =>
      obtain ⟨i, iSpan⟩ := item
      show (typecheckItem i fnContext).attempt >>= _ =
        ((typecheckItem i fnContext).attempt >>= _) >>= _
      rw [Tc.bind_assoc, Tc.bind_of_ok (Tc.attempt_result _), Tc.bind_of_ok (Tc.attempt_result _),
        fnContextAfter]
      rcases (typecheckItem i fnContext).result with ⟨⟨⟩⟩ | ⟨newI, newFnContext⟩ <;>
        simp only [List.append_eq, ih, Tc.bind_assoc, Tc.pure_bind, List.cons_append]

def declare (i : Item) (fnContext : FnContext) : FnContext :=
  match i with
  | .fnDecl (f, _) sig _ => fnContext.update (.static f) sig
  | .use _ => fnContext

theorem fn_context_of_typecheck_item_ok {i i' : Item} {fnContext fnContext' : FnContext}
    (ok : (typecheckItem i fnContext).result = .ok (i', fnContext')) :
    fnContext' = declare i fnContext := by
  rcases i with ⟨⟨f, fSpan⟩, sig, ⟨b, bSpan⟩⟩ | p
  · obtain ⟨_, _, returned⟩ := Tc.result_bind_eq_ok.mp ok
    cases returned
    rfl
  · cases ok
    rfl

def lastDeclared (items : List Item) (f : Ident) : Option FuncSig :=
  items.foldl (fun found i => match i with
    | .fnDecl (g, _) sig _ => if f = g then some sig else found
    | .use _ => found) none

theorem last_declared_eq_some {items : List Item} {f : Ident} {sig : FuncSig}
    (found : lastDeclared items f = some sig) :
    ∃ i ∈ items, ∃ fSpan body, i = .fnDecl (f, fSpan) sig body := by
  suffices general : ∀ (init : Option FuncSig), items.foldl (fun found i => match i with
      | .fnDecl (g, _) sig _ => if f = g then some sig else found
      | .use _ => found) init = some sig →
      init = some sig ∨ ∃ i ∈ items, ∃ fSpan body, i = .fnDecl (f, fSpan) sig body from
    (general none found).resolve_left nofun
  clear found
  induction items with
  | nil => exact fun _ found => .inl found
  | cons i items ih =>
      intro init found
      rcases ih _ found with here | later
      · rcases i with ⟨⟨g, gSpan⟩, gSig, body⟩ | _
        · dsimp only at here
          split at here
          · rename_i same
            cases here
            exact .inr ⟨_, List.mem_cons_self _ _, gSpan, body, by rw [same]⟩
          · exact .inl here
        · exact .inl here
      · obtain ⟨i', member, fSpan, body, rfl⟩ := later
        exact .inr ⟨_, List.mem_cons_of_mem _ member, fSpan, body, rfl⟩

/-- `Static(f)` holds the last declaration of `f` among `items`; no other key is
present. -/
def declaredTable (items : List Item) : FnContext :=
  ⟨fun
    | .static f => lastDeclared items f
    | .method _ _ => none⟩

theorem declared_table_nil : declaredTable [] = HashMap.new :=
  HashMap.ext fun key => by cases key <;> rfl

theorem declared_table_append_singleton (items : List Item) (i : Item) :
    declaredTable (items ++ [i]) = declare i (declaredTable items) := by
  refine HashMap.ext fun key => ?_
  rcases i with ⟨⟨g, _⟩, sig, _⟩ | _ <;> rcases key with f | ⟨t, f⟩
  all_goals simp only [declaredTable, declare, lastDeclared, List.foldl_append, List.foldl_cons,
    List.foldl_nil, HashMap.get_update, FnKey.static.injEq, reduceCtorEq, if_false]

/-- The items of `p` that check, each against the table of the items accepted
before it, `accepted` first. -/
def acceptedItems : List (Spanned Item) → List Item → List Item
  | [], accepted => accepted
  | (i, _) :: p, accepted =>
      acceptedItems p
        (if (typecheckItem i (declaredTable accepted)).result.isOk then accepted ++ [i] else accepted)

theorem fn_context_after_declared_table (p : List (Spanned Item)) (accepted : List Item) :
    fnContextAfter p (declaredTable accepted) = declaredTable (acceptedItems p accepted) := by
  induction p generalizing accepted with
  | nil => rfl
  | cons item p ih =>
      obtain ⟨i, _⟩ := item
      rw [fnContextAfter, acceptedItems]
      rcases checked : (typecheckItem i (declaredTable accepted)).result with ⟨⟨⟩⟩ | ⟨_, _⟩
      · exact ih accepted
      · rw [fn_context_of_typecheck_item_ok checked, ← declared_table_append_singleton]
        exact ih _

theorem typecheck_items_at (p : Program) (k : Nat) :
    typecheckItems p HashMap.new = (do
      let before ← typecheckItems (p.take k) HashMap.new
      let rest ← typecheckItems (p.drop k) (declaredTable (acceptedItems (p.take k) []))
      pure (before ++ rest)) := by
  rw [← fn_context_after_declared_table, declared_table_nil, ← typecheck_items_append,
    List.take_append_drop]

theorem accepted_items_of_all_ok (p : List (Spanned Item)) (accepted : List Item)
    {items : List (TypecheckingResult (Spanned Item))}
    (ok : (typecheckItems p (declaredTable accepted)).result = .ok items)
    (allOk : .error () ∉ items) :
    acceptedItems p accepted = accepted ++ p.map Prod.fst := by
  induction p generalizing accepted items with
  | nil => exact (List.append_nil _).symm
  | cons item p ih =>
      obtain ⟨i, iSpan⟩ := item
      rw [typecheckItems, Tc.bind_of_ok (Tc.attempt_result _)] at ok
      rw [acceptedItems]
      revert ok
      rcases checked : (typecheckItem i (declaredTable accepted)).result with
        ⟨⟨⟩⟩ | ⟨newI, newFnContext⟩ <;> intro ok
      · obtain ⟨_, _, returned⟩ := Tc.result_bind_eq_ok.mp ok
        cases returned
        exact absurd (List.mem_cons_self _ _) allOk
      · rw [fn_context_of_typecheck_item_ok checked, ← declared_table_append_singleton] at ok
        obtain ⟨_, tailOk, returned⟩ := Tc.result_bind_eq_ok.mp ok
        cases returned
        show acceptedItems p (accepted ++ [i]) = _
        rw [ih _ tailOk fun mem => allOk (List.mem_cons_of_mem _ mem)]
        simp

end Hacspec.Typechecker
