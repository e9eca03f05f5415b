import BrowserScript.Proofs.Minification.CallSequence

/-!
The optimized form of a script of calls. The passes behind the optimizer look for names of the
script, for constants and for truth values, and there are none in a sequence of calls
(`simplify_calls`); new names go to bindings of the script only (`scope_ne_zero_of_named`), so a
callee keeps its own (`optimized_calls`).
-/

set_option autoImplicit false
set_option relaxedAutoImplicit false

namespace BrowserScript

namespace Script

variable {declared : List String} {s : Stmt} {calls : List LiteralCall} {statements : List Stmt}

/-! ### Passes that change nothing -/

theorem Runs.plainStmt (h : Runs declared s calls) : PlainStmt declared s := by
  cases h with
  | call h pos => exact .expr (.call h.outside) pos
  | seq h hlength pos => exact .expr (.seq (fun c hc ↦ (h c hc).outside) pos) pos

theorem Runs.mapParts {m : Type → Type} [Monad m] [LawfulMonad m] {v : Visitor m}
    (h : Runs declared s calls) (hv : LeavesPlain declared v) : s.mapParts v = pure s := by
  cases h with
  | call h pos => simp only [Stmt.mapParts, hv.expr _ (.call h.outside), pure_bind]
  | seq h hlength pos =>
    simp only [Stmt.mapParts, hv.expr _ (.seq (fun c hc ↦ (h c hc).outside) pos), pure_bind]

theorem leavesPlain_declarationVisitor :
    ∀ fuel, LeavesPlain declared (Spelling.declarationVisitor fuel) :=
  .of_fuel .pure (fun fuel _ _ ↦ by cases fuel <;> rfl) fun _ _ _ hparts ↦ hparts

theorem withoutConstants_runs (h : ∀ s ∈ statements, ∃ calls, Runs declared s calls) :
    withoutConstants statements = statements := by
  refine mapM_eq_pure (m := Id) fun s hs ↦ ?_
  obtain ⟨calls, hruns⟩ := h s hs
  rw [hruns.mapParts (leavesPlain_declarationVisitor _), pure_bind]
  cases hruns <;> rfl

theorem leavesPlain_booleanVisitor :
    ∀ fuel, LeavesPlain declared (Spelling.booleanVisitor fuel) := by
  refine .of_fuel .pure (fun fuel _ _ ↦ by cases fuel <;> rfl) fun fuel e he hparts ↦ ?_
  cases he with
  | lit pos arg => cases arg <;> exact hparts
  | ident | call | seq => exact hparts

theorem spelled_runs (h : ∀ s ∈ statements, ∃ calls, Runs declared s calls) :
    spelled statements = statements := by
  refine mapM_eq_pure (m := Id) fun s hs ↦ ?_
  obtain ⟨calls, hruns⟩ := h s hs
  exact hruns.mapParts (leavesPlain_booleanVisitor _)

theorem leavesPlain_sweepVisitor (table : UsageTable) :
    ∀ fuel, LeavesPlain declared (Sweep.visitor table fuel) :=
  .of_fuel .pure (fun fuel _ _ ↦ by cases fuel <;> rfl) fun _ _ _ hparts ↦ hparts

theorem filter_isEmpty_runs (h : ∀ s ∈ statements, ∃ calls, Runs declared s calls) :
    statements.filter (!·.isEmpty) = statements := by
  rw [List.filter_eq_self]
  intro s hs
  obtain ⟨calls, hruns⟩ := h s hs
  rw [hruns.isEmpty, Bool.not_false]

theorem swept_runs (h : ∀ s ∈ statements, ∃ calls, Runs declared s calls) :
    swept statements = statements := by
  have hvisit : statements.mapM (fun s ↦ (do
      return Sweep.withoutIdle (Census.take statements) (← s.mapParts
        (Sweep.visitor (Census.take statements) (2 * weightOfStmts statements + 1))) : Id Stmt)) =
      pure statements := by
    refine mapM_eq_pure fun s hs ↦ ?_
    obtain ⟨calls, hruns⟩ := h s hs
    rw [hruns.mapParts (leavesPlain_sweepVisitor _ _), pure_bind]
    cases hruns <;> rfl
  rw [swept, Sweep.visitor]
  dsimp only
  rw [hvisit, pure_bind, filter_isEmpty_runs h]
  rfl

theorem leavesPlain_sequenceVisitor : ∀ fuel, LeavesPlain declared (sequenceVisitor fuel) := by
  refine .of_fuel .pure (fun fuel _ _ ↦ by cases fuel <;> rfl) fun fuel e he hparts ↦ ?_
  simp only [sequenceVisitor, hparts, pure_bind]
  cases he <;> rfl

theorem sequenceScript_runsAll (h : RunsAll declared statements calls)
    (hkept : ∀ c ∈ calls, IsKept declared c) : sequenceScript statements = inSequence calls := by
  have hvisit : statements.mapM (fun s ↦ (do
      return (← s.mapParts (sequenceVisitor (2 * weightOfStmts statements + 1))).sequenced :
        Id Stmt)) = pure statements := by
    refine mapM_eq_pure fun s hs ↦ ?_
    obtain ⟨calls, hruns⟩ := h.runs s hs
    rw [hruns.mapParts (leavesPlain_sequenceVisitor _), pure_bind]
    cases hruns <;> rfl
  rw [sequenceScript, sequenceVisitor]
  dsimp only
  rw [hvisit, pure_bind, sequenceList_runsAll h hkept]
  rfl

theorem withoutIdleDirective_inSequence (calls : List LiteralCall) :
    withoutIdleDirective (inSequence calls) = inSequence calls := by
  match calls with
  | [] | [_] | _ :: _ :: _ => rfl

/-! ### The simplified script -/

/-- The calls of a script that have to stay, in order. -/
def keptCalls (script : List CallStmt) : List LiteralCall :=
  (script.map (·.call)).filter (!·.isPure)

theorem isKept_of_mem_keptCalls {script : List CallStmt}
    (h : ∀ s ∈ script, IsOutside declared s.call.callee) {c : LiteralCall}
    (hc : c ∈ keptCalls script) : IsKept declared c := by
  obtain ⟨hmem, himpure⟩ := List.mem_filter.mp hc
  obtain ⟨s, hs, rfl⟩ := List.mem_map.mp hmem
  exact ⟨h s hs, by simpa using himpure⟩

theorem runsAll_effects {script : List CallStmt}
    (h : ∀ s ∈ script, IsOutside declared s.call.callee) :
    RunsAll declared ((script.filter (!·.call.isPure)).map (·.effect)) (keptCalls script) := by
  induction script with
  | nil => exact .nil
  | cons s script ih =>
    have hrest := ih fun t ht ↦ h t (List.mem_cons_of_mem _ ht)
    rw [keptCalls, List.map_cons, List.filter_cons, List.filter_cons]
    cases hpure : s.call.isPure with
    | true => exact hrest
    | false => exact .cons (.call ⟨h s List.mem_cons_self, hpure⟩ s.pos) hrest

/-- The calls that have to stay become one sequence, and nothing else is left. -/
theorem simplify_calls {script : List CallStmt}
    (h : ∀ s ∈ script, IsOutside declared s.call.callee) :
    simplify (script.map (·.stmtIn 1)) = inSequence (keptCalls script) := by
  have hkept : ∀ c ∈ keptCalls script, IsKept declared c := fun c hc ↦ isKept_of_mem_keptCalls h hc
  have hall := runsAll_inSequence hkept
  simp only [simplify, dropUnused_calls h, tidy_effects false h,
    Inline.round_runsAll (runsAll_effects h) hkept, tidy_runs true hall.runs,
    Inline.round_runsAll hall hkept, withoutConstants_runs hall.runs, swept_runs hall.runs,
    sequenceScript_runsAll hall hkept, spelled_runs hall.runs, withoutIdleDirective_inSequence]

/-! ### Names -/

namespace NameRules

theorem scope_ne_zero_of_mem_nameAll {rules : NameRules} {visible ids : List Ident} {n : Nat}
    {given : List NewName} (hgiven : ∀ new ∈ given, new.id.scope ≠ 0) :
    ∀ new ∈ rules.nameAll visible ids n given, new.id.scope ≠ 0 := by
  induction ids generalizing n given with
  | nil => exact hgiven
  | cons id ids ih =>
    rw [nameAll]
    split
    case isTrue => exact ih hgiven
    case isFalse hown =>
      refine ih fun new hnew ↦ ?_
      rcases List.mem_append.mp hnew with hnew | hnew
      · exact hgiven new hnew
      · rw [List.mem_singleton.mp hnew]
        intro hscope
        have hid : id.scope = 0 := hscope
        exact hown (by rw [hid]; rfl)

mutual

/-- Only bindings of the script get new names. -/
theorem scope_ne_zero_of_named {rules : NameRules} {given : List NewName}
    (hgiven : ∀ new ∈ given, new.id.scope ≠ 0) :
    ∀ scope : NameScope, ∀ new ∈ rules.nameScope given scope, new.id.scope ≠ 0
  | .mk declared used inner, new, hnew => by
    have hnames : ∀ new ∈ rules.nameAll (NameScope.mk declared used inner).allUsed declared 0 given,
        new.id.scope ≠ 0 := scope_ne_zero_of_mem_nameAll hgiven
    rw [nameScope] at hnew
    rcases List.mem_append.mp hnew with hnew | hnew
    · exact hnames new (List.mem_of_mem_drop hnew)
    · exact scope_ne_zero_of_named_inside hnames inner new hnew

theorem scope_ne_zero_of_named_inside {rules : NameRules} {given : List NewName}
    (hgiven : ∀ new ∈ given, new.id.scope ≠ 0) :
    ∀ scopes : List NameScope, ∀ new ∈ rules.nameScopes given scopes, new.id.scope ≠ 0
  | [], _, hnew => by rw [nameScopes] at hnew; cases hnew
  | scope :: rest, new, hnew => by
    rw [nameScopes] at hnew
    rcases List.mem_append.mp hnew with hnew | hnew
    · exact scope_ne_zero_of_named hgiven scope new hnew
    · exact scope_ne_zero_of_named_inside hgiven rest new hnew

end

end NameRules

namespace NameTable

theorem rename_outside (alphabet : Alphabet) (scope : NameScope) (name : String) :
    (ofScope alphabet scope).rename ⟨name, 0⟩ = ⟨name, 0⟩ := by
  have hnone : (ofScope alphabet scope).get? ⟨name, 0⟩ = none := by
    rw [ofScope, Std.HashMap.get?_eq_getElem?]
    refine Std.HashMap.getElem?_ofList_of_contains_eq_false ?_
    rw [← Bool.not_eq_true, List.contains_iff_mem]
    intro hmem
    obtain ⟨pair, hpair, hid⟩ := List.mem_map.mp hmem
    obtain ⟨new, hnew, rfl⟩ := List.mem_map.mp hpair
    have hnone : ∀ new ∈ ([] : List NewName), new.id.scope ≠ 0 := nofun
    exact NameRules.scope_ne_zero_of_named hnone _ new hnew (congrArg Ident.scope hid)
  rw [rename, hnone]

theorem leavesPlain_visitor (alphabet : Alphabet) (scope : NameScope) :
    ∀ fuel, LeavesPlain declared ((ofScope alphabet scope).visitor fuel) := by
  refine .of_fuel .pure (fun fuel name _ ↦ ?_) fun _ _ _ hparts ↦ hparts
  cases fuel with
  | zero => rfl
  | succ fuel => exact congrArg pure (rename_outside alphabet scope name)

end NameTable

/-- There is nothing to rename in statements that run calls of outside names. -/
theorem renameScript_runs (h : ∀ s ∈ statements, ∃ calls, Runs declared s calls) :
    renameScript statements = statements := by
  have hdynamic : Search.dynamicNames.findsInStmts statements = false :=
    findsInStmts_dynamicNames fun s hs ↦ (h s hs).choose_spec.plainStmt
  simp only [renameScript, hdynamic, Bool.false_eq_true, if_false]
  refine mapM_eq_pure (m := Id) fun s hs ↦ ?_
  obtain ⟨calls, hruns⟩ := h s hs
  exact hruns.mapParts (NameTable.leavesPlain_visitor _ _ _)

end Script

open Script

/-- A script of calls whose callees it does not declare comes down to the calls that have to stay,
one after the other. -/
theorem optimized_calls {script : List CallStmt}
    (h : ∀ s ∈ script, IsOutside (declaredNames script) s.call.callee) :
    optimized (script.map (·.stmtIn 0)) = inSequence (keptCalls script) := by
  have hkept := fun c (hc : c ∈ keptCalls script) ↦ isKept_of_mem_keptCalls h hc
  rw [optimized, resolveScopes_calls h, simplify_calls h,
    renameScript_runs (runsAll_inSequence hkept).runs]

end BrowserScript
