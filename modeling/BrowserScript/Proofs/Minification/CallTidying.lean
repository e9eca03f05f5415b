import BrowserScript.Proofs.Minification.UnusedBinding

/-!
Tidying a list of calls. A call of a helper without an effect of its own goes, and nothing else
changes (`tidy_effects`); a list of statements that run such calls only is tidy (`tidy_runs`).
-/

set_option autoImplicit false
set_option relaxedAutoImplicit false

namespace BrowserScript.Script

variable {declared : List String}

/-! ### The effects of calls -/

theorem effectsOf_map_argExpr (args : List (Nat × Argument)) :
    effectsOf (args.map LiteralCall.argExpr) = [] := by
  induction args with
  | nil => rfl
  | cons arg args ih =>
    rw [List.map_cons, effectsOf, ih]
    rfl

theorem any_isSpread_argExprs (c : LiteralCall) : c.argExprs.any (·.isSpread) = false := by
  rw [List.any_eq_false]
  intro e he
  obtain ⟨arg, _, rfl⟩ := List.mem_map.mp he
  exact Bool.false_ne_true

theorem effects_expr (c : LiteralCall) : c.expr.effects = if c.isPure then [] else [c.expr] := by
  rw [LiteralCall.expr, Expr.effects, any_isSpread_argExprs, LiteralCall.argExprs,
    effectsOf_map_argExpr]
  simp only [Expr.isPureHelper, Expr.doesNothing, Bool.or_false, Bool.not_false, Bool.and_true]
  rfl

/-- A call that has to stay: its callee is no helper, and belongs to the world around. -/
structure IsKept (declared : List String) (c : LiteralCall) : Prop where
  outside : IsOutside declared c.callee
  impure : c.isPure = false

theorem IsKept.effects {c : LiteralCall} (h : IsKept declared c) : c.expr.effects = [c.expr] := by
  rw [effects_expr, h.impure, if_neg Bool.false_ne_true]

theorem effectsOf_kept {calls : List LiteralCall} (h : ∀ c ∈ calls, IsKept declared c) :
    effectsOf (calls.map LiteralCall.expr) = calls.map LiteralCall.expr := by
  induction calls with
  | nil => rfl
  | cons c calls ih =>
    rw [List.map_cons, effectsOf, (h c List.mem_cons_self).effects,
      ih fun d hd ↦ h d (List.mem_cons_of_mem _ hd), List.singleton_append]

theorem ofParts_of_two_le {exprs : List Expr} (h : 2 ≤ exprs.length) (pos : Nat) :
    Expr.ofParts pos exprs = some (.seq pos exprs) := by
  match exprs, h with
  | first :: second :: rest, _ => rfl

theorem flatMap_parts (calls : List LiteralCall) :
    (calls.map LiteralCall.expr).flatMap (·.parts) = calls.map LiteralCall.expr := by
  rw [List.flatMap_map]
  exact List.map_eq_flatMap.symm

/-! ### Tidy expressions -/

theorem foldCall_outside {c : LiteralCall} (h : IsOutside declared c.callee) :
    foldCall c.pos (.ident c.calleePos ⟨c.callee, 0⟩) c.argExprs = c.expr := by
  simp only [foldCall, Ident.isGlobal, h.ne_object, h.ne_array, decide_false, Bool.and_false,
    Bool.false_and, Bool.false_eq_true, if_false]
  rfl

theorem foldSeq_kept {calls : List LiteralCall} (h : ∀ c ∈ calls, IsKept declared c)
    (hlength : 2 ≤ calls.length) (pos : Nat) :
    foldSeq pos (calls.map LiteralCall.expr) = .seq pos (calls.map LiteralCall.expr) := by
  have hne : calls.map LiteralCall.expr ≠ [] := by
    rintro hnil
    rw [List.map_eq_nil_iff] at hnil
    rw [hnil] at hlength
    cases hlength
  have hdrop : effectsOf (calls.map LiteralCall.expr).dropLast =
      (calls.map LiteralCall.expr).dropLast := by
    rw [← List.map_dropLast]
    exact effectsOf_kept fun c hc ↦ h c (List.dropLast_subset _ hc)
  have hparts : Expr.ofParts pos (calls.map LiteralCall.expr) =
      some (.seq pos (calls.map LiteralCall.expr)) :=
    ofParts_of_two_le (by rwa [List.length_map]) pos
  simp only [foldSeq, flatMap_parts, List.getLast?_eq_some_getLast hne, hdrop,
    List.dropLast_concat_getLast, hparts, Option.getD_some]

section Tidying

variable (joining : Bool)

theorem tidyPlace_ident (fuel pos : Nat) (id : Ident) :
    tidyPlace joining fuel (.ident pos id) = pure (.ident pos id) := by
  cases fuel <;> rfl

theorem tidyExpr_lit (fuel pos : Nat) (arg : Argument) :
    tidyExpr joining fuel (.lit pos arg.lit) = pure (.lit pos arg.lit) := by
  cases fuel <;> rfl

theorem tidyExpr_call (fuel : Nat) {c : LiteralCall} (h : IsOutside declared c.callee) :
    tidyExpr joining fuel c.expr = pure c.expr := by
  cases fuel with
  | zero => rfl
  | succ fuel =>
    have hargs : c.argExprs.mapM (tidyExpr joining fuel) = pure c.argExprs := by
      refine mapM_eq_pure fun e he ↦ ?_
      obtain ⟨⟨pos, arg⟩, _, rfl⟩ := List.mem_map.mp he
      exact tidyExpr_lit joining fuel pos arg
    rw [LiteralCall.expr, tidyExpr]
    simp only [tidyPlace_ident, hargs, pure_bind, foldCall_outside h]
    rfl

theorem tidyExpr_seq (fuel : Nat) {calls : List LiteralCall} (h : ∀ c ∈ calls, IsKept declared c)
    (hlength : 2 ≤ calls.length) (pos : Nat) :
    tidyExpr joining fuel (.seq pos (calls.map LiteralCall.expr)) =
      pure (.seq pos (calls.map LiteralCall.expr)) := by
  cases fuel with
  | zero => rfl
  | succ fuel =>
    have hcalls : (calls.map LiteralCall.expr).mapM (tidyVisitor joining fuel).expr =
        pure (calls.map LiteralCall.expr) := by
      refine mapM_eq_pure fun e he ↦ ?_
      obtain ⟨c, hc, rfl⟩ := List.mem_map.mp he
      cases fuel with
      | zero => rfl
      | succ fuel => exact tidyExpr_call joining fuel (h c hc).outside
    show (do return (← Expr.mapParts (tidyVisitor joining fuel) _).folded) = _
    simp only [Expr.mapParts, hcalls, pure_bind, Expr.folded, foldSeq_kept h hlength]

end Tidying

/-! ### Lists of effects -/

/-- Statements that run calls that have to stay. One that runs several of them is a sequence. -/
inductive Runs (declared : List String) : Stmt → List LiteralCall → Prop
  | call {c : LiteralCall} (h : IsKept declared c) (pos : Nat) :
    Runs declared (.expr pos c.expr) [c]
  | seq {calls : List LiteralCall} (h : ∀ c ∈ calls, IsKept declared c)
    (hlength : 2 ≤ calls.length) (pos : Nat) :
    Runs declared (.expr pos (.seq pos (calls.map LiteralCall.expr))) calls

/-- A statement that runs calls that have to stay, or an empty one. -/
def IsEffect (declared : List String) (s : Stmt) : Prop :=
  s.isEmpty = true ∨ ∃ calls, Runs declared s calls

namespace Runs

variable {s : Stmt} {calls : List LiteralCall}

theorem isEmpty (h : Runs declared s calls) : s.isEmpty = false := by
  cases h <;> rfl

theorem isDirective (h : Runs declared s calls) : s.isDirective = false := by
  cases h <;> rfl

theorem toList (h : Runs declared s calls) : s.toList = [s] := by
  cases h <;> rfl

theorem tidied (h : Runs declared s calls) : s.tidied = s := by
  cases h with
  | @call c h pos =>
    rw [Stmt.tidied, (Runs.call h pos).isDirective, h.effects, if_neg Bool.false_ne_true]
    rfl
  | @seq calls h hlength pos =>
    have hparts : Expr.ofParts pos (calls.map LiteralCall.expr) =
        some (.seq pos (calls.map LiteralCall.expr)) :=
      ofParts_of_two_le (by rwa [List.length_map]) pos
    rw [Stmt.tidied, (Runs.seq h hlength pos).isDirective, Expr.effects, effectsOf_kept h, hparts,
      if_neg Bool.false_ne_true]

end Runs

section Lists

variable {statements : List Stmt}

theorem leaves_effect {s : Stmt} (h : IsEffect declared s) : s.leaves = false := by
  rcases h with h | ⟨calls, h⟩
  · cases s <;> first | rfl | cases h
  · cases h <;> rfl

theorem dropUnreachable_effects (h : ∀ s ∈ statements, IsEffect declared s) :
    dropUnreachable statements = statements := by
  induction statements with
  | nil => rfl
  | cons s statements ih =>
    rw [dropUnreachable, leaves_effect (h s List.mem_cons_self), if_neg Bool.false_ne_true,
      ih fun t ht ↦ h t (List.mem_cons_of_mem _ ht)]

theorem flatMap_toList_effects (h : ∀ s ∈ statements, IsEffect declared s) :
    statements.flatMap (·.toList) = statements.filter (!·.isEmpty) := by
  induction statements with
  | nil => rfl
  | cons s statements ih =>
    rw [List.flatMap_cons, List.filter_cons, ih fun t ht ↦ h t (List.mem_cons_of_mem _ ht)]
    rcases h s List.mem_cons_self with hempty | ⟨calls, hruns⟩
    · rw [hempty, Bool.not_true, if_neg Bool.false_ne_true]
      cases s <;> first | rfl | cases hempty
    · rw [hruns.toList, hruns.isEmpty, Bool.not_false, if_pos rfl, List.singleton_append]

theorem standsBehind_runs (h : ∀ s ∈ statements, ∃ calls, Runs declared s calls) (kind : VarKind)
    (behind : Bool) : standsBehind kind behind statements = false := by
  induction statements generalizing behind with
  | nil => rfl
  | cons s statements ih =>
    obtain ⟨calls, hruns⟩ := h s List.mem_cons_self
    have hrest := ih (fun t ht ↦ h t (List.mem_cons_of_mem _ ht)) true
    cases hruns <;> exact hrest

theorem flatMap_varLists_runs (h : ∀ s ∈ statements, ∃ calls, Runs declared s calls) :
    statements.flatMap (·.varLists) = [] := by
  rw [List.flatMap_eq_nil_iff]
  intro s hs
  obtain ⟨calls, hruns⟩ := h s hs
  cases hruns <;> rfl

theorem anyJoinable_runs (h : ∀ s ∈ statements, ∃ calls, Runs declared s calls) :
    anyJoinable statements = false := by
  induction statements with
  | nil => rfl
  | cons s statements ih =>
    obtain ⟨calls, hruns⟩ := h s List.mem_cons_self
    have hrest := ih fun t ht ↦ h t (List.mem_cons_of_mem _ ht)
    cases statements with
    | nil => rfl
    | cons t statements => cases hruns <;> exact hrest

/-- Of a list of effects nothing but the empty statements goes. -/
theorem tidyList_effects (joining : Bool) (h : ∀ s ∈ statements, IsEffect declared s) :
    tidyList joining statements = statements.filter (!·.isEmpty) := by
  have hruns : ∀ s ∈ statements.filter (!·.isEmpty), ∃ calls, Runs declared s calls := by
    intro s hs
    obtain ⟨hmem, hfull⟩ := List.mem_filter.mp hs
    rcases h s hmem with hempty | hruns
    · rw [hempty] at hfull
      cases hfull
    · exact hruns
  have hlets : gatherLets (statements.filter (!·.isEmpty)) = statements.filter (!·.isEmpty) := by
    rw [gatherLets, standsBehind_runs hruns, if_neg Bool.false_ne_true]
  have hvars : gatherVars (statements.filter (!·.isEmpty)) = statements.filter (!·.isEmpty) := by
    rw [gatherVars, standsBehind_runs hruns, flatMap_varLists_runs hruns]
    rfl
  have hjoined : joinDeclarations (statements.filter (!·.isEmpty)) =
      statements.filter (!·.isEmpty) := by
    rw [joinDeclarations, anyJoinable_runs hruns, if_neg Bool.false_ne_true]
  simp only [tidyList, dropUnreachable_effects h, flatMap_toList_effects h, hlets, hvars, hjoined,
    ite_self, List.filter_filter, Bool.and_self]

end Lists

/-! ### Tidy scripts -/

/-- Each statement gets its simplest form, and then the list. -/
theorem tidy_of_visited {statements done : List Stmt} (joining : Bool)
    (h : ∀ fuel, statements.mapM (fun s ↦
      (do return (← s.mapParts (tidyVisitor joining fuel)).tidied : Id Stmt)) = pure done) :
    tidy joining statements = tidyList joining done := by
  rw [tidy, tidyVisitor]
  dsimp only
  rw [h]
  rfl

theorem mapParts_tidyVisitor (joining : Bool) {e : Expr}
    (he : ∀ fuel, tidyExpr joining fuel e = pure e) (fuel pos : Nat) :
    (Stmt.expr pos e).mapParts (tidyVisitor joining fuel) = pure (.expr pos e) := by
  have hexpr : (tidyVisitor joining fuel).expr e = pure e := by
    cases fuel with
    | zero => rfl
    | succ fuel => exact he fuel
  simp only [Stmt.mapParts, hexpr, pure_bind]

theorem tidied_effect {s : CallStmt} (h : IsOutside declared s.call.callee) :
    s.effect.tidied = if s.call.isPure then .empty s.pos else s.effect := by
  cases hpure : s.call.isPure with
  | true =>
    have hdirective : s.effect.isDirective = false := rfl
    rw [CallStmt.effect] at hdirective ⊢
    rw [Stmt.tidied, hdirective, effects_expr, hpure]
    rfl
  | false => exact (Runs.call ⟨h, hpure⟩ s.pos).tidied

theorem isEffect_tidied {s : CallStmt} (h : IsOutside declared s.call.callee) :
    IsEffect declared s.effect.tidied := by
  rw [tidied_effect h]
  cases hpure : s.call.isPure with
  | true => exact .inl rfl
  | false => exact .inr ⟨_, .call ⟨h, hpure⟩ s.pos⟩

theorem filter_tidied {script : List CallStmt}
    (h : ∀ s ∈ script, IsOutside declared s.call.callee) :
    (script.map (·.effect.tidied)).filter (!·.isEmpty) =
      (script.filter (!·.call.isPure)).map (·.effect) := by
  induction script with
  | nil => rfl
  | cons s script ih =>
    rw [List.map_cons, List.filter_cons, List.filter_cons, tidied_effect (h s List.mem_cons_self),
      ih fun t ht ↦ h t (List.mem_cons_of_mem _ ht)]
    cases s.call.isPure <;> rfl

/-- The calls of helpers go, for nothing uses what they give. -/
theorem tidy_effects (joining : Bool) {script : List CallStmt}
    (h : ∀ s ∈ script, IsOutside declared s.call.callee) :
    tidy joining (script.map (·.effect)) =
      (script.filter (!·.call.isPure)).map (·.effect) := by
  have hvisit : tidy joining (script.map (·.effect)) =
      tidyList joining (script.map (·.effect.tidied)) := by
    refine tidy_of_visited joining fun fuel ↦ mapM_map_eq_pure fun s hs ↦ ?_
    rw [CallStmt.effect, mapParts_tidyVisitor joining
      (fun fuel ↦ tidyExpr_call joining fuel (h s hs)), pure_bind]
  rw [hvisit, tidyList_effects joining, filter_tidied h]
  intro s hs
  obtain ⟨form, hform, rfl⟩ := List.mem_map.mp hs
  exact isEffect_tidied (h form hform)

theorem Runs.mapParts_tidyVisitor {s : Stmt} {calls : List LiteralCall}
    (h : Runs declared s calls) (joining : Bool) (fuel : Nat) :
    s.mapParts (tidyVisitor joining fuel) = pure s := by
  cases h with
  | call h pos =>
    exact Script.mapParts_tidyVisitor joining (fun fuel ↦ tidyExpr_call joining fuel h.outside) _ _
  | seq h hlength pos =>
    exact Script.mapParts_tidyVisitor joining (fun fuel ↦ tidyExpr_seq joining fuel h hlength _) _ _

/-- A list of statements that run calls that have to stay is tidy. -/
theorem tidy_runs (joining : Bool) {statements : List Stmt}
    (h : ∀ s ∈ statements, ∃ calls, Runs declared s calls) :
    tidy joining statements = statements := by
  have hvisit : tidy joining statements = tidyList joining statements := by
    refine tidy_of_visited joining fun fuel ↦ mapM_eq_pure fun s hs ↦ ?_
    obtain ⟨calls, hruns⟩ := h s hs
    rw [hruns.mapParts_tidyVisitor, pure_bind, hruns.tidied]
  rw [hvisit, tidyList_effects joining fun s hs ↦ .inr (h s hs), List.filter_eq_self]
  intro s hs
  obtain ⟨calls, hruns⟩ := h s hs
  rw [hruns.isEmpty]
  rfl

end BrowserScript.Script
