import BrowserScript.Proofs.Computation
import BrowserScript.Proofs.Minification.CallText
import BrowserScript.Proofs.Minification.QuotedText

/-!
What minification leaves of a script of calls. A script that calls functions of the world around it
with literals, and keeps the values in variables at most, comes out as the text of one function that
makes the same calls in the same order, without those of the helpers that have no effect of their
own (`minify_keeps_calls`). Names and arguments are those of the script; a string is read back from
the text unless it holds what looks like the escape for half a character.
-/

set_option autoImplicit false
set_option relaxedAutoImplicit false

namespace BrowserScript

namespace Script

/-! ### Scripts of calls -/

/-- The call that an expression is, if it is one of a name with literals. -/
def LiteralCall.ofExpr? : Expr → Option LiteralCall
  | .call pos (.ident calleePos ⟨callee, 0⟩) args =>
    (args.mapM argumentAt?).map (⟨pos, calleePos, callee, ·⟩)
  | _ => none
where
  argumentAt? : Expr → Option (Nat × Argument)
    | .lit pos (.number value) => some (pos, .number value)
    | .lit pos (.string text) => some (pos, .string text)
    | _ => none

/-- The call that a statement makes, alone or for a variable, if it is nothing else. -/
def CallStmt.ofStmt? : Stmt → Option CallStmt
  | .expr pos value => (LiteralCall.ofExpr? value).map (.alone pos)
  | .declaration pos .var [.mk declaratorPos (.ident namePos ⟨name, 0⟩) (some value)] =>
    (LiteralCall.ofExpr? value).map (.bound pos declaratorPos namePos name)
  | _ => none

/-- A list whose items have all been recognised is made of what they were recognised as. -/
theorem eq_map_of_mapM {α β : Type} {f : α → Option β} {g : β → α} {xs : List α} {ys : List β}
    (hf : ∀ x y, f x = some y → x = g y) (h : xs.mapM f = some ys) : xs = ys.map g := by
  induction xs generalizing ys with
  | nil =>
    cases h
    rfl
  | cons x xs ih =>
    rw [List.mapM_cons] at h
    obtain ⟨y, hy, h⟩ := Option.bind_eq_some_iff.mp h
    obtain ⟨rest, hrest, h⟩ := Option.bind_eq_some_iff.mp h
    cases h
    rw [List.map_cons, ← ih hrest, hf x y hy]

theorem LiteralCall.lit_of_argumentAt? (e : Expr) (arg : Nat × Argument)
    (h : ofExpr?.argumentAt? e = some arg) : e = argExpr arg := by
  unfold ofExpr?.argumentAt? at h
  split at h
  · cases h
    rfl
  · cases h
    rfl
  · cases h

theorem LiteralCall.expr_of_ofExpr? {e : Expr} {c : LiteralCall} (h : ofExpr? e = some c) :
    e = c.expr := by
  unfold ofExpr? at h
  split at h
  case h_1 =>
    obtain ⟨args, hargs, rfl⟩ := Option.map_eq_some_iff.mp h
    rw [eq_map_of_mapM lit_of_argumentAt? hargs]
    rfl
  case h_2 => cases h

theorem CallStmt.stmtIn_of_ofStmt? (statement : Stmt) (s : CallStmt)
    (h : ofStmt? statement = some s) : statement = s.stmtIn 0 := by
  unfold ofStmt? at h
  split at h
  case h_1 =>
    obtain ⟨c, hcall, rfl⟩ := Option.map_eq_some_iff.mp h
    rw [LiteralCall.expr_of_ofExpr? hcall]
    rfl
  case h_2 =>
    obtain ⟨c, hcall, rfl⟩ := Option.map_eq_some_iff.mp h
    rw [LiteralCall.expr_of_ofExpr? hcall]
    rfl
  case h_3 => cases h

theorem newerInExprs_map_argExpr (args : List (Nat × Argument)) :
    newerInExprs (args.map LiteralCall.argExpr) = [] := by
  induction args with
  | nil => rw [List.map_nil, newerInExprs]
  | cons arg args ih =>
    rw [List.map_cons, newerInExprs, ih, List.append_nil, LiteralCall.argExpr, Expr.newerUses]
    cases arg.2 <;> rfl

theorem newerUses_expr (c : LiteralCall) : c.expr.newerUses = [] := by
  rw [LiteralCall.expr, Expr.newerUses, Expr.newerUses, LiteralCall.argExprs,
    newerInExprs_map_argExpr, List.append_nil]

theorem newerInStmts_calls (scope : Nat) (script : List CallStmt) :
    newerInStmts (script.map (·.stmtIn scope)) = [] := by
  induction script with
  | nil => rw [List.map_nil, newerInStmts]
  | cons s script ih =>
    rw [List.map_cons, newerInStmts, ih]
    cases s <;> simp [CallStmt.stmtIn, Stmt.newerUses, newerInDeclarators, Declarator.newerUses,
      Pattern.newerUses, newerInOption, newerUses_expr]

theorem traceOf?_seq (pos : Nat) (calls : List LiteralCall) :
    traceOf? [.expr pos (.seq pos (calls.map LiteralCall.expr))] =
      some (calls.map LiteralCall.event) := by
  rw [traceOf?, Stmt.trace?, Expr.trace?, traceOfExprs?_calls, traceOf?]
  simp

theorem traceOf?_inSequence (calls : List LiteralCall) :
    traceOf? (inSequence calls) = some (calls.map LiteralCall.event) := by
  match calls with
  | [] => rw [List.map_nil]; exact traceOf?_calls 0 []
  | [c] => exact traceOf?_calls 0 [.alone c.pos c]
  | first :: second :: rest => exact traceOf?_seq first.pos (first :: second :: rest)

/-! ### Events -/

/-- A call of a helper without an effect of its own. -/
def CallEvent.isPure (e : CallEvent) : Bool := pureNames.contains e.callee

theorem events_keptCalls (script : List CallStmt) :
    (keptCalls script).map LiteralCall.event =
      (script.map (·.call.event)).filter (!·.isPure) := by
  have hmap : script.map (·.call.event) = (script.map (·.call)).map LiteralCall.event := by
    rw [List.map_map]
    rfl
  rw [hmap, List.filter_map]
  rfl

/-- A string that is read back from the text that is written for it, whatever comes next. -/
def IsReadBack (text : String) : Prop :=
  ∀ around lineBreak pos tail, ∃ raw after,
    readToken around lineBreak ⟨pos, (quotedText text).toList ++ tail⟩ =
      ⟨.string text raw, ⟨after, tail⟩, []⟩

end Script

open Script

theorem traceOf?_envelope (body : List Stmt) : traceOf? (envelope body) = traceOf? body := by
  have htrace : ∀ script, Encloses body script → traceOf? script = traceOf? body := by
    intro script h
    cases h with
    | call =>
      rw [traceOf?, Stmt.trace?, Expr.trace?, traceOf?]
      cases traceOf? body <;> simp
  exact htrace _ (encloses_envelope body)

/-- Assumes: a script of calls with literals, alone or for a variable, whose callees it does not
declare and which are not among the few globals that minification knows. The output makes the calls
that are not of pure helpers, as they are in the script, in their order and each as often; its text
is the text of these calls. -/
theorem minify_keeps_calls {text : String} {script : List CallStmt}
    (hparse : parse text = .ok (script.map (·.stmtIn 0)))
    (houtside : ∀ s ∈ script, IsOutside (declaredNames script) s.call.callee)
    (d : BuildDescriptor) :
    ∃ events output, traceOf? (script.map (·.stmtIn 0)) = some events ∧
      (minify text d).outcome = .ok ⟨d.banner ++ "\n" ++ printScript output⟩ ∧
      traceOf? output = some (events.filter (!·.isPure)) ∧
      printScript output =
        "(function()\x7b" ++ callsText (events.filter (!·.isPure)) ++ "\x7d)();" ∧
      ∀ e ∈ events, ∀ argument, .string argument ∈ e.args →
        holdsHalfEscape argument.toList = false → IsReadBack argument := by
  have hread : readBaselineScript text = .ok (script.map (·.stmtIn 0)) := by
    simp only [readBaselineScript, hparse, newerInStmts_calls]
  have hevents := events_keptCalls script
  refine ⟨_, envelope (inSequence (keptCalls script)), traceOf?_calls 0 script, ?_, ?_, ?_, ?_⟩
  · rw [outcome_minify, hread, ← optimized_calls houtside]
    rfl
  · rw [traceOf?_envelope, traceOf?_inSequence, hevents]
  · rw [printScript_envelope (encloses_envelope _), printScript_inSequence, hevents]
  · intro _ _ argument _ hhalf around lineBreak pos tail
    exact readToken_quotedText hhalf around lineBreak pos tail

theorem exists_parse_of_calls {text : String} {names callees : List String}
    (h : ((parse text).toOption.bind (·.mapM CallStmt.ofStmt?)).map
      (fun script ↦ (declaredNames script, script.map (·.call.callee))) = some (names, callees)) :
    ∃ script : List CallStmt, parse text = .ok (script.map (·.stmtIn 0)) ∧
      declaredNames script = names ∧ script.map (·.call.callee) = callees := by
  obtain ⟨script, hscript, hnames⟩ := Option.map_eq_some_iff.mp h
  obtain ⟨statements, hparse, hcalls⟩ := Option.bind_eq_some_iff.mp hscript
  have hform := eq_map_of_mapM CallStmt.stmtIn_of_ofStmt? hcalls
  obtain ⟨hdeclared, hcallees⟩ := Prod.mk.inj hnames
  exact ⟨script, (eq_ok_of_toOption hparse).trans (congrArg _ hform), hdeclared, hcallees⟩

theorem minify_keeps_calls_with_variables :
    ∃ script : List CallStmt,
      parse "var a=F2('x');g('y',2);A3(1);var b=g('z')" = .ok (script.map (·.stmtIn 0)) ∧
      (∀ s ∈ script, IsOutside (declaredNames script) s.call.callee) ∧
      ∃ events output, traceOf? (script.map (·.stmtIn 0)) = some events ∧
        (minify "var a=F2('x');g('y',2);A3(1);var b=g('z')" ⟨"a", "1", "c", true⟩).outcome =
          .ok ⟨BuildDescriptor.banner ⟨"a", "1", "c", true⟩ ++ "\n" ++ printScript output⟩ ∧
        traceOf? output = some (events.filter (!·.isPure)) ∧
        printScript output =
          "(function()\x7b" ++ callsText (events.filter (!·.isPure)) ++ "\x7d)();" ∧
        ∀ e ∈ events, ∀ argument, .string argument ∈ e.args →
          holdsHalfEscape argument.toList = false → IsReadBack argument := by
  obtain ⟨script, hparse, hnames, hcallees⟩ :=
    @exists_parse_of_calls "var a=F2('x');g('y',2);A3(1);var b=g('z')" ["a", "b"]
      ["F2", "g", "A3", "g"] (by decide +kernel)
  have houtside : ∀ s ∈ script, IsOutside (declaredNames script) s.call.callee := by
    intro s hs
    have hcallee : s.call.callee ∈ ["F2", "g", "A3", "g"] :=
      hcallees ▸ List.mem_map_of_mem hs
    have hall : ∀ name ∈ ["F2", "g", "A3", "g"],
        name ∉ ["a", "b"] ∧ name ∉ knownCallees := by decide
    rw [hnames]
    exact ⟨(hall _ hcallee).1, (hall _ hcallee).2⟩
  exact ⟨script, hparse, houtside, minify_keeps_calls hparse houtside ⟨"a", "1", "c", true⟩⟩

end BrowserScript
