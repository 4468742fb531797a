import Hacspec.Typechecker.Linearity

/-!
# Calls

A free call and a method call share one loop: `f_sig.args.iter().zip(args)`, whose
body checks the argument and then tests it against the parameter. The method case
first checks the receiver, then pushes it onto the arguments, so the loop checks the
receiver a second time, from the context the arguments left (`check_expression_method_call`).
The call thus runs like the free call over `args ++ [sel]` started from the context after
the receiver's own check. The tables `typecheck_program` builds hold only
`Static` keys, so inside a program every method call stops at "unknown method".
The argument test compares the borrowings and then the base types with the derived
`!=`, which sees every span inside them, where `equal_types` ignores the spans of
`Seq` elements and `Tuple` components.
-/

namespace Hacspec.Typechecker

open Hacspec.Rustspec

set_option autoImplicit false

theorem typecheck_args_append_receiver (fnContext : FnContext) (sel : Expression × Span) :
    ∀ (params : List (Spanned Ident × Spanned Typ)) (args : List (Expression × Span))
      (varContext : VarContext),
      typecheckArgs fnContext params (args ++ [sel]) varContext =
        typecheckArgs fnContext params args varContext >>= fun varContext =>
          match params[args.length]? with
          | some param => typecheckArgWith param sel.2 (typecheckExpression fnContext sel varContext)
          | none => pure varContext
  | [], args, varContext => by
      cases args <;> rfl
  | param :: params, [], varContext => by
      have stop : typecheckArgs fnContext params [] = pure := funext (typecheck_args_args_nil fnContext · params)
      show typecheckArgWith param sel.2 _ >>= typecheckArgs fnContext params [] = pure varContext >>= _
      rw [stop, Tc.bind_pure, Tc.pure_bind, List.length_nil, List.getElem?_cons_zero]
  | param :: params, arg :: args, varContext => by
      rw [List.cons_append, typecheck_args_cons, typecheck_args_cons, Tc.bind_assoc]
      simp only [typecheck_args_append_receiver fnContext sel params args, List.length_cons,
        List.getElem?_cons_succ]

/-- The method case as the source writes it: the receiver is checked, the method is
looked up at the receiver's base type, and the call loop runs over the arguments
with the receiver pushed at the end. -/
theorem check_expression_method_call (fnContext : FnContext) (sel : Expression × Span) (f : Ident)
    (fSpan : Span) (args : List (Expression × Span)) (span : Span) (varContext : VarContext) :
    checkExpression fnContext (.methodCall sel (f, fSpan) args) span varContext = (do
      let (selTyp, varContext) ← typecheckExpression fnContext sel varContext
      let fSig ← Tc.someOr (fnContext.get (.method selTyp.2.1 f)) fSpan (.unknownMethod selTyp.2.1 f)
      Tc.reportIf (fSig.args.length != (args ++ [sel]).length) span
        (.methodArity selTyp.2.1 f fSig.args.length (args ++ [sel]).length)
      let varContext ← typecheckArgs fnContext fSig.args (args ++ [sel]) varContext
      pure (((.consumed, fSpan), fSig.ret), varContext)) := by
  rw [checkExpression]
  simp only [List.length_append, List.length_singleton, typecheck_args_append_receiver,
    Tc.bind_assoc]
  congr 1
  funext ⟨selTyp, varContext⟩
  congr 1
  funext fSig
  congr 1
  funext u
  congr 1
  funext varContext
  split <;> next last => simp only [last, Tc.pure_bind]

def lenSig : FuncSig := ⟨[(("self", noSpan), (ownedBytes, noSpan))], (.usize, noSpan)⟩

/-- `len` as a method of `Seq<u8>`, and as the free function `g`. -/
def lenTable : FnContext :=
  (HashMap.new.update (.method (.seq (.uInt8, noSpan)) "len") lenSig).update (.static "g") lenSig

/-- A method call checks its receiver, looks the method up at the receiver's base type, and
then runs the argument loop of a free call over `args ++ [sel]` from the context the
receiver's check left, so the receiver is checked twice. No table that `typecheck_program`
checks a body against has a method key, so there every method call fails. -/
theorem method_call_rechecks_receiver :
    (∀ (fnContext : FnContext) (sel : Expression × Span) (f g : Ident) (fSpan gSpan span : Span)
        (args : List (Expression × Span)) (varContext afterSel : VarContext) (selTyp : Typ)
        (sig : FuncSig),
      (typecheckExpression fnContext sel varContext).result = .ok (selTyp, afterSel) →
      fnContext.get (.method selTyp.2.1 f) = some sig → fnContext.get (.static g) = some sig →
      (typecheckExpression fnContext (.methodCall sel (f, fSpan) args, span) varContext).result =
          (typecheckExpression fnContext
            (.funcCall (⟨[(g, gSpan)], none⟩, fSpan) (args ++ [sel]), span) afterSel).result ∧
        (sig.args.length = args.length + 1 →
          (typecheckExpression fnContext (.methodCall sel (f, fSpan) args, span) varContext).diags =
            (typecheckExpression fnContext sel varContext).diags ++
              (typecheckExpression fnContext
                (.funcCall (⟨[(g, gSpan)], none⟩, fSpan) (args ++ [sel]), span) afterSel).diags)) ∧
    ∀ (items : List Item) (sel : Expression × Span) (f : Ident) (fSpan span : Span)
        (args : List (Expression × Span)) (varContext : VarContext),
      (typecheckExpression (declaredTable items) (.methodCall sel (f, fSpan) args, span)
          varContext).result = .error () ∧
        ∀ selTyp afterSel,
          (typecheckExpression (declaredTable items) sel varContext).result = .ok (selTyp, afterSel) →
          ⟨fSpan, .unknownMethod selTyp.2.1 f⟩ ∈
            (typecheckExpression (declaredTable items) (.methodCall sel (f, fSpan) args, span)
              varContext).diags := by
  refine ⟨fun fnContext sel f g fSpan gSpan span args varContext afterSel selTyp sig ran method
      static => ?_, fun items sel f fSpan span args varContext => ?_⟩
  · have freeRun : typecheckExpression fnContext
        (.funcCall (⟨[(g, gSpan)], none⟩, fSpan) (args ++ [sel]), span) afterSel =
          Tc.reportIf (sig.args.length != (args ++ [sel]).length) span
            (.functionArity ⟨[(g, gSpan)], none⟩ sig.args.length (args ++ [sel]).length) >>= fun _ =>
              typecheckArgs fnContext sig.args (args ++ [sel]) afterSel >>= fun varContext =>
                pure (((.consumed, fSpan), sig.ret), varContext) := by
      show Tc.someOr (fnContext.get (.static g)) fSpan _ >>= _ = _
      rw [static]
      rfl
    rw [freeRun, typecheckExpression, check_expression_method_call, Tc.bind_of_ok ran]
    dsimp only
    rw [method]
    dsimp only [Tc.someOr]
    rw [Tc.pure_bind, Tc.bind_of_ok (Tc.report_if_result _ _ _),
      Tc.bind_of_ok (Tc.report_if_result _ _ _)]
    refine ⟨rfl, fun arity => ?_⟩
    have unflagged : (sig.args.length != (args ++ [sel]).length) = false := by simp [arity]
    simp only [unflagged]
    rfl
  · rw [typecheckExpression, check_expression_method_call]
    rcases ran : (typecheckExpression (declaredTable items) sel varContext).result with
      ⟨⟨⟩⟩ | ⟨selTyp, afterSel⟩
    · rw [Tc.bind_of_error ran]
      exact ⟨rfl, fun _ _ ok => nomatch ok⟩
    · rw [Tc.bind_of_ok ran]
      refine ⟨rfl, fun _ _ same => ?_⟩
      cases same
      exact List.mem_append_right _ (List.mem_singleton_self _)

theorem method_call_rechecks_receiver_len :
    (typecheckExpression lenTable (readOf "v") (HashMap.unit "v" ownedBytes)).result =
        .ok (ownedBytes, (HashMap.unit "v" ownedBytes).without "v") ∧
      lenTable.get (.method ownedBytes.2.1 "len") = some lenSig ∧
      lenTable.get (.static "g") = some lenSig ∧
      (typecheckExpression lenTable (.methodCall (readOf "v") ("len", noSpan) [], noSpan)
          (HashMap.unit "v" ownedBytes)).result =
        (typecheckExpression lenTable (.funcCall (⟨[("g", noSpan)], none⟩, noSpan) ([] ++ [readOf "v"]),
          noSpan) ((HashMap.unit "v" ownedBytes).without "v")).result :=
  ⟨rfl, rfl, rfl, (method_call_rechecks_receiver.1 lenTable (readOf "v") "len" "g" noSpan noSpan noSpan
    [] (HashMap.unit "v" ownedBytes) _ ownedBytes lenSig rfl rfl rfl).1⟩

/-- `v.len()` on an owned `v` reads `v` twice and fails on the second read, where
`g(v)` reads it once and succeeds. -/
theorem owned_receiver_read_twice :
    (typecheckExpression lenTable (.methodCall (readOf "v") ("len", noSpan) [], noSpan)
        (HashMap.unit "v" ownedBytes)).result = .error () ∧
      (typecheckExpression lenTable (.methodCall (readOf "v") ("len", noSpan) [], noSpan)
        (HashMap.unit "v" ownedBytes)).diags = [⟨noSpan, .unknownVariable "v"⟩] ∧
      (typecheckExpression lenTable (.funcCall (⟨[("g", noSpan)], none⟩, noSpan) [readOf "v"], noSpan)
        (HashMap.unit "v" ownedBytes)).result =
        .ok (((.consumed, noSpan), (.usize, noSpan)), (HashMap.unit "v" ownedBytes).without "v") :=
  ⟨rfl, rfl, rfl⟩

theorem check_arg_typ_ok_iff (argT sigT : Typ) (argSpan : Span) :
    (checkArgTyp argT sigT argSpan).result = .ok () ↔ argT.1.1 = sigT.1.1 ∧ argT.2.1 = sigT.2.1 := by
  refine Iff.trans ?_ (ok_with_check_arg_typ_iff (fun _ => true) argT sigT argSpan ())
  simp [Tc.OkWith]

/-- So it is stricter than `equal_types`. -/
theorem equal_types_of_check_arg_typ_ok {argT sigT : Typ} {argSpan : Span}
    (accepted : (checkArgTyp argT sigT argSpan).result = .ok ()) : equalTypes argT sigT = true := by
  obtain ⟨borrowings, bases⟩ := (check_arg_typ_ok_iff argT sigT argSpan).mp accepted
  exact (equal_types_iff argT sigT).mpr ⟨borrowings, by rw [bases]⟩

theorem equal_types_of_check_arg_typ_ok_witness :
    (checkArgTyp ownedBytes ownedBytes noSpan).result = .ok () ∧
      equalTypes ownedBytes ownedBytes = true :=
  ⟨rfl, @equal_types_of_check_arg_typ_ok ownedBytes ownedBytes noSpan rfl⟩

def bytesAt (elementSpan : Span) : Typ := ((.consumed, noSpan), (.seq (.uInt8, elementSpan), noSpan))

def takesBytes : FnContext :=
  HashMap.new.update (.static "g") ⟨[(("s", noSpan), (bytesAt ⟨14, 16⟩, noSpan))], (.unit, noSpan)⟩

def callG : Expression × Span := (.funcCall (⟨[("g", noSpan)], none⟩, noSpan) [readOf "v"], noSpan)

/-- Two argument types that `equal_types` identifies get different verdicts: only
the place where `u8` is written differs. -/
theorem call_depends_on_element_span :
    equalTypes (bytesAt ⟨44, 46⟩) (bytesAt ⟨14, 16⟩) = true ∧
      (typecheckExpression takesBytes callG (HashMap.unit "v" (bytesAt ⟨44, 46⟩))).result =
        .error () ∧
      (typecheckExpression takesBytes callG (HashMap.unit "v" (bytesAt ⟨44, 46⟩))).diags =
        [⟨noSpan, .expectedType (.seq (.uInt8, ⟨14, 16⟩)) (.seq (.uInt8, ⟨44, 46⟩))⟩] ∧
      (typecheckExpression takesBytes callG (HashMap.unit "v" (bytesAt ⟨14, 16⟩))).result.isOk =
        true :=
  ⟨rfl, rfl, rfl, rfl⟩

end Hacspec.Typechecker
