import BrowserScript.Proofs.Minification.LiteralCall

/-!
Variables that only ever get the value of a call. When the names of a script have their scopes, the
callees belong to the world around and the variables to the script (`resolveScopes_calls`). Reading
such a script mentions no variable, so none is live and each declaration is left with its call
(`dropUnused_calls`).
-/

set_option autoImplicit false
set_option relaxedAutoImplicit false

namespace BrowserScript.Script

/-! ### Scopes -/

/-- The names that a script declares. -/
def declaredNames (script : List CallStmt) : List String := script.filterMap (·.name?)

theorem varNamesOf_calls (script : List CallStmt) :
    (varNamesOf (script.map (·.stmtIn 0))).map (·.name) = declaredNames script := by
  induction script with
  | nil => rfl
  | cons s script ih =>
    rw [List.map_cons, varNamesOf, List.map_append, ih]
    cases s <;> rfl

theorem blockNamesOf_calls (script : List CallStmt) :
    blockNamesOf (script.map (·.stmtIn 0)) = [] := by
  rw [blockNamesOf, List.flatMap_eq_nil_iff]
  intro s hs
  obtain ⟨form, _, rfl⟩ := List.mem_map.mp hs
  cases form <;> rfl

variable {declared : List String}

theorem resolve_outside {name : String} (h : IsOutside declared name) :
    Scopes.resolve [⟨1, declared⟩] ⟨name, 0⟩ = ⟨name, 0⟩ := by
  have hname : declared.contains name = false := by simpa using h.undeclared
  simp only [Scopes.resolve, List.find?_cons, hname, List.find?_nil]

theorem resolve_declared {name : String} (h : name ∈ declared) :
    Scopes.resolve [⟨1, declared⟩] ⟨name, 0⟩ = ⟨name, 1⟩ := by
  have hname : declared.contains name = true := by simpa using h
  simp only [Scopes.resolve, List.find?_cons, hname]

/-- The fuel goes down by two from an expression to its parts. -/
theorem leavesPlain_scopeVisitor :
    ∀ fuel, LeavesPlain declared (scopeVisitor fuel [⟨1, declared⟩])
  | 0 => ⟨.pure, fun _ _ ↦ rfl⟩
  | 1 => ⟨.pure, fun _ h ↦ congrArg pure (resolve_outside h)⟩
  | fuel + 2 => by
    refine ⟨fun e he ↦ ?_, fun _ h ↦ congrArg pure (resolve_outside h)⟩
    have hparts := (leavesPlain_scopeVisitor fuel).mapParts_plain e he
    cases he <;> exact hparts

theorem Stmt.weight_pos (s : Stmt) : 0 < s.weight := by
  cases s <;> simp only [Stmt.weight] <;> omega

theorem weightOfStmts_pos {s : Stmt} {statements : List Stmt} (h : s ∈ statements) :
    0 < weightOfStmts statements := by
  cases statements with
  | nil => cases h
  | cons first rest =>
    have hfirst := first.weight_pos
    rw [weightOfStmts]
    omega

theorem scopedStmt_call (fuel : Nat) {s : CallStmt} (hs : IsOutside declared s.call.callee)
    (hname : ∀ name, s.name? = some name → name ∈ declared) :
    scopedStmt (fuel + 3) [⟨1, declared⟩] (s.stmtIn 0) = pure (s.stmtIn 1) := by
  have hv := @leavesPlain_scopeVisitor declared (fuel + 2)
  cases s with
  | alone pos call =>
    have hcall : (scopeVisitor (fuel + 2) _).expr call.expr = pure call.expr :=
      hv.expr _ (.call hs)
    show (Stmt.expr pos call.expr).mapParts (scopeVisitor (fuel + 2) _) = _
    simp only [Stmt.mapParts, hcall, pure_bind]
    rfl
  | bound pos declaratorPos namePos name call =>
    have hcall : (scopeVisitor (fuel + 2) _).expr call.expr = pure call.expr :=
      hv.expr _ (.call hs)
    have hpattern : (scopeVisitor (fuel + 2) [⟨1, declared⟩]).pattern (.ident namePos ⟨name, 0⟩) =
        pure (.ident namePos ⟨name, 1⟩) := by
      simp only [scopeVisitor, Pattern.mapParts, resolve_declared (hname name rfl), pure_bind]
    show (Stmt.declaration pos .var _).mapParts (scopeVisitor (fuel + 2) _) = _
    simp only [Stmt.mapParts, List.mapM_cons, List.mapM_nil, Declarator.mapParts, hpattern,
      visitOption, hcall, pure_bind]
    rfl

/-- The callees belong to the world around, and the variables to the script. -/
theorem resolveScopes_calls {script : List CallStmt}
    (h : ∀ s ∈ script, IsOutside (declaredNames script) s.call.callee) :
    resolveScopes (script.map (·.stmtIn 0)) = script.map (·.stmtIn 1) := by
  have hnames : (varNamesOf (script.map (·.stmtIn 0)) ++
      blockNamesOf (script.map (·.stmtIn 0))).map (·.name) = declaredNames script := by
    rw [blockNamesOf_calls, List.append_nil, varNamesOf_calls]
  have hscoped : ∀ s ∈ script,
      scopedStmt (2 * weightOfStmts (script.map (·.stmtIn 0)) + 2) [⟨1, declaredNames script⟩]
        (s.stmtIn 0) = pure (s.stmtIn 1) := by
    intro s hs
    have hweight := weightOfStmts_pos (List.mem_map_of_mem (f := (·.stmtIn 0)) hs)
    obtain ⟨more, hmore⟩ := Nat.exists_eq_add_of_lt hweight
    rw [show 2 * weightOfStmts (script.map (·.stmtIn 0)) + 2 = 2 * more + 1 + 3 by omega]
    exact scopedStmt_call (2 * more + 1) (h s hs) fun name hname ↦
      List.mem_filterMap.mpr ⟨s, hs, hname⟩
  simp only [resolveScopes, hnames]
  rw [mapM_map_eq_pure hscoped]
  rfl

/-! ### Searches -/

section Searching

variable {search : Search} (hexpr : ∀ e, Plain declared e → search.expr e = false)
  (hident : ∀ id, search.ident id = false)

include hident in
theorem ident_searchVisitor (fuel : Nat) (id : Ident) :
    (search.visitor fuel).ident id = pure id := by
  cases fuel with
  | zero => rfl
  | succ fuel => simp only [Search.visitor, hident, Bool.false_eq_true, if_false, pure_bind]

include hident in
theorem pattern_searchVisitor (fuel pos : Nat) (id : Ident) :
    (search.visitor fuel).pattern (.ident pos id) = pure (.ident pos id) := by
  cases fuel with
  | zero => rfl
  | succ fuel =>
    simp only [Search.visitor, Pattern.mapParts, ident_searchVisitor hident, pure_bind]

include hexpr hident in
theorem leavesPlain_searchVisitor : ∀ fuel, LeavesPlain declared (search.visitor fuel) := by
  refine .of_fuel .pure (fun fuel _ _ ↦ ident_searchVisitor hident fuel _) fun fuel e he hparts ↦ ?_
  simp only [Search.visitor, hexpr e he, Bool.false_eq_true, if_false]
  cases he <;> exact hparts

include hexpr hident in
/-- What no plain expression is, is not found in plain statements. -/
theorem findsInStmts_plain {statements : List Stmt}
    (hstmt : ∀ s ∈ statements, search.stmt s = false)
    (hplain : ∀ s ∈ statements, PlainStmt declared s) :
    search.findsInStmts statements = false := by
  have hvisit : (search.visitor (weightOfStmts statements + 1)).stmts statements =
      pure statements := by
    refine mapM_eq_pure fun s hs ↦ ?_
    have hv := leavesPlain_searchVisitor hexpr hident (weightOfStmts statements)
    simp only [hstmt s hs, Bool.false_eq_true, if_false]
    exact hv.mapParts_plainStmt (fun pos name ↦ pattern_searchVisitor hident _ _ _) (hplain s hs)
  rw [Search.findsInStmts, hvisit]
  rfl

end Searching

theorem directEval_plain {e : Expr} (he : Plain declared e) : Search.directEval.expr e = false := by
  cases he with
  | lit | ident | seq => rfl
  | call h => exact decide_eq_false h.ne_eval

theorem findsInStmts_directEval {statements : List Stmt}
    (hplain : ∀ s ∈ statements, PlainStmt declared s) :
    Search.directEval.findsInStmts statements = false :=
  findsInStmts_plain (fun _ he ↦ directEval_plain he) (fun _ ↦ rfl) (fun _ _ ↦ rfl) hplain

theorem findsInStmts_dynamicNames {statements : List Stmt}
    (hplain : ∀ s ∈ statements, PlainStmt declared s) :
    Search.dynamicNames.findsInStmts statements = false := by
  refine @findsInStmts_plain declared Search.dynamicNames (fun _ he ↦ directEval_plain he)
    (fun _ ↦ rfl) _ (fun s hs ↦ ?_) hplain
  cases hplain s hs <;> rfl

/-! ### Mentions -/

namespace Mention

/-- All that has been noted is that names of the world around are read. -/
def ReadsOutside (r : Reading) : Prop := ∀ m ∈ r.mentions, m.id.scope = 0 ∧ m.isWrite = false

/-- Reading this notes no more than that names of the world around are read. -/
def StaysOutside {α : Type} (read : Read α) : Prop :=
  ∀ r, ReadsOutside r → ReadsOutside (read.run r).2

namespace StaysOutside

theorem pure {α : Type} (a : α) : StaysOutside (Pure.pure a) := fun _ h ↦ h

theorem bind {α β : Type} {first : Read α} {next : α → Read β} (hfirst : StaysOutside first)
    (hnext : ∀ a, StaysOutside (next a)) : StaysOutside (first >>= next) :=
  fun r h ↦ hnext _ _ (hfirst r h)

theorem mapM {α β : Type} {read : α → Read β} {xs : List α}
    (h : ∀ x ∈ xs, StaysOutside (read x)) : StaysOutside (xs.mapM read) := by
  induction xs with
  | nil => rw [List.mapM_nil]; exact pure []
  | cons x xs ih =>
    rw [List.mapM_cons]
    refine bind (h x List.mem_cons_self) fun y ↦ ?_
    exact bind (ih fun z hz ↦ h z (List.mem_cons_of_mem _ hz)) fun ys ↦ pure (y :: ys)

theorem forM {α : Type} {read : α → Read Unit} {xs : List α}
    (h : ∀ x ∈ xs, StaysOutside (read x)) : StaysOutside (xs.forM read) := by
  induction xs with
  | nil => exact pure ()
  | cons x xs ih =>
    exact bind (h x List.mem_cons_self) fun _ ↦ ih fun z hz ↦ h z (List.mem_cons_of_mem _ hz)

theorem discard {α : Type} {read : Read α} (h : StaysOutside read) :
    StaysOutside (Functor.discard read) := fun r hr ↦ h r hr

theorem note {id : Ident} (h : id.scope = 0) : StaysOutside (note id false) := by
  intro r hr m hm
  rcases List.mem_cons.mp hm with rfl | hm
  · exact ⟨h, rfl⟩
  · exact hr m hm

end StaysOutside

theorem staysOutside_mapParts {v : Visitor Read}
    (hv : ∀ e, Plain declared e → StaysOutside (v.expr e))
    (hident : ∀ name, StaysOutside (v.ident ⟨name, 0⟩)) {e : Expr} (he : Plain declared e) :
    StaysOutside (e.mapParts v) := by
  cases he with
  | lit pos arg => exact .pure _
  | ident h pos => exact .bind (hident _) fun id ↦ .pure _
  | @call c h =>
    refine .bind (hv _ (.ident h _)) fun callee ↦ .bind (.mapM fun e he ↦ ?_) fun args ↦ .pure _
    exact hv e (LiteralCall.plain_of_mem_argExprs he)
  | @seq calls h pos =>
    refine .bind (.mapM fun e he ↦ ?_) fun exprs ↦ .pure _
    obtain ⟨c, hc, rfl⟩ := List.mem_map.mp he
    exact hv _ (.call (h c hc))

theorem staysOutside_ident (fuel : Nat) (name : String) :
    StaysOutside ((visitor fuel false).ident ⟨name, 0⟩) := by
  cases fuel with
  | zero => exact .pure _
  | succ fuel => exact .bind (.note rfl) fun _ ↦ .pure _

theorem staysOutside_visitExpr_succ {fuel : Nat}
    (hv : ∀ e, Plain declared e → StaysOutside ((visitor fuel false).expr e)) {e : Expr}
    (he : Plain declared e) : StaysOutside (visitExpr (fuel + 1) e) := by
  have hparts := staysOutside_mapParts hv (staysOutside_ident fuel) he
  cases he with
  | ident => exact .note rfl
  | lit | call | seq => exact hparts.discard

/-- The fuel goes down by two from an expression to its parts. -/
theorem staysOutside_visitExpr : ∀ (fuel : Nat) {e : Expr}, Plain declared e →
    StaysOutside (visitExpr fuel e)
  | 0, _, _ => .pure ()
  | 1, _, he => staysOutside_visitExpr_succ (fun _ _ ↦ .pure _) he
  | fuel + 2, _, he =>
    @staysOutside_visitExpr_succ declared (fuel + 1)
      (fun _ he ↦ .bind (staysOutside_visitExpr fuel he) fun _ ↦ .pure _) _ he

theorem staysOutside_visitStmt (fuel : Nat) {s : Stmt} (hs : PlainStmt declared s) :
    StaysOutside (visitStmt fuel s) := by
  cases fuel with
  | zero => exact .pure ()
  | succ fuel =>
    cases hs with
    | expr he pos =>
      cases fuel with
      | zero => exact .discard (.bind (.pure _) fun _ ↦ .pure _)
      | succ fuel =>
        have hexpr := @staysOutside_visitExpr declared fuel _ he
        exact .discard (.bind (.bind hexpr fun _ ↦ .pure _) fun _ ↦ .pure _)
    | bound h pos declaratorPos namePos name =>
      refine .forM fun d hd ↦ ?_
      rw [List.mem_singleton.mp hd]
      match fuel with
      | 0 => exact .pure ()
      | 1 => exact .bind (.pure ()) fun _ ↦ .pure ()
      | fuel + 2 => exact .bind (.pure ()) fun _ ↦ staysOutside_visitExpr _ (.call h)

theorem readsOutside_all {statements : List Stmt}
    (hplain : ∀ s ∈ statements, PlainStmt declared s) {mention : Mention}
    (h : mention ∈ all statements) : mention.id.scope = 0 ∧ mention.isWrite = false := by
  have hread : StaysOutside (statements.forM (visitStmt (2 * weightOfStmts statements + 2))) :=
    .forM fun s hs ↦ staysOutside_visitStmt _ (hplain s hs)
  exact hread {} (by intro m hm; cases hm) mention h

end Mention

/-! ### Idle bindings -/

namespace Liveness

/-- Only what is mentioned becomes live. -/
theorem contains_grow {mentions : List Mention} {P : Ident → Prop}
    (hmentions : ∀ m ∈ mentions, P m.id) :
    ∀ (fuel : Nat) (live : Std.HashSet Ident), (∀ id, live.contains id → P id) →
      ∀ id, (grow mentions fuel live).contains id → P id := by
  intro fuel
  induction fuel with
  | zero => exact fun live hlive ↦ hlive
  | succ fuel ih =>
    intro live hlive
    have hstep : ∀ id, (mentions.foldl (fun live m ↦
        if !m.isWrite && m.owner.all live.contains then live.insert m.id else live) live).contains
          id → P id := by
      clear ih
      induction mentions generalizing live with
      | nil => exact hlive
      | cons m mentions ih =>
        refine ih (fun n hn ↦ hmentions n (List.mem_cons_of_mem _ hn)) _ fun id hid ↦ ?_
        dsimp only at hid
        split at hid
        · rw [Std.HashSet.contains_insert, Bool.or_eq_true, beq_iff_eq] at hid
          rcases hid with rfl | hid
          · exact hmentions m List.mem_cons_self
          · exact hlive id hid
        · exact hlive id hid
    rw [grow]
    split
    · exact hlive
    · exact ih _ hstep

theorem isIdle_ofScript {statements : List Stmt}
    (hplain : ∀ s ∈ statements, PlainStmt declared s) (name : String) :
    (ofScript statements).isIdle ⟨name, 1⟩ = true := by
  have houtside := fun m ↦ @Mention.readsOutside_all declared statements hplain m
  have hlive : (ofScript statements).live.contains ⟨name, 1⟩ = false := by
    rw [← Bool.not_eq_true]
    intro hcontains
    have hscope := contains_grow (P := (·.scope = 0)) (fun m hm ↦ (houtside m hm).1) _ ∅
      (by simp) _ hcontains
    cases hscope
  have hwritten : (ofScript statements).written.contains ⟨name, 1⟩ = false := by
    have hnone : (Mention.all statements).filter (·.isWrite) = [] := by
      rw [List.filter_eq_nil_iff]
      intro m hm
      rw [(houtside m hm).2]
      exact Bool.false_ne_true
    simp only [ofScript, hnone, List.map_nil]
    simp
  simp [isIdle, hlive, hwritten]

theorem pattern_visitor (l : Liveness) (fuel pos : Nat) (id : Ident) :
    (visitor l fuel).pattern (.ident pos id) = pure (.ident pos id) := by
  cases fuel with
  | zero => rfl
  | succ fuel => cases fuel <;> rfl

theorem leavesPlain_visitor (l : Liveness) : ∀ fuel, LeavesPlain declared (visitor l fuel) := by
  refine .of_fuel .pure (fun fuel _ _ ↦ by cases fuel <;> rfl) fun fuel e he hparts ↦ ?_
  simp only [visitor, hparts, pure_bind]
  cases he <;> rfl

end Liveness

namespace CallStmt

/-- The statement without its declaration. -/
def effect (s : CallStmt) : Stmt := .expr s.pos s.call.expr

end CallStmt

/-- A declaration of an idle binding is left with its call. -/
theorem reduced_stmtIn {l : Liveness} (hidle : ∀ name, l.isIdle ⟨name, 1⟩ = true) (s : CallStmt) :
    l.reduced (s.stmtIn 1) = s.effect := by
  cases s with
  | alone pos call => rfl
  | bound pos declaratorPos namePos name call =>
    simp only [CallStmt.stmtIn, Liveness.reduced, List.all_cons, Liveness.isIdleDeclarator,
      hidle name, List.all_nil, Bool.and_self, if_true]
    rfl

theorem plainStmt_of_mem_map {script : List CallStmt}
    (h : ∀ s ∈ script, IsOutside declared s.call.callee) :
    ∀ s ∈ script.map (·.stmtIn 1), PlainStmt declared s := by
  intro s hs
  obtain ⟨form, hform, rfl⟩ := List.mem_map.mp hs
  exact form.plainStmt (h form hform)

theorem visitor_calls {script : List CallStmt}
    (h : ∀ s ∈ script, IsOutside declared s.call.callee) (fuel : Nat) :
    ((Liveness.ofScript (script.map (·.stmtIn 1))).visitor (fuel + 1)).stmts
      (script.map (·.stmtIn 1)) = script.map (·.effect) := by
  have hplain := plainStmt_of_mem_map h
  refine mapM_map_eq_pure fun s hs ↦ ?_
  have hv := @Liveness.leavesPlain_visitor declared (.ofScript (script.map (·.stmtIn 1))) fuel
  have hparts := hv.mapParts_plainStmt (fun _ _ ↦ Liveness.pattern_visitor _ _ _ _)
    (s.plainStmt (h s hs))
  have hreduced := reduced_stmtIn (Liveness.isIdle_ofScript hplain) s
  cases s
  all_goals
    show (do return Liveness.reduced _ (← Stmt.mapParts _ _)) = _
    rw [hparts, pure_bind, hreduced]

theorem filter_effects {keep : Stmt → Bool} (h : ∀ pos e, keep (.expr pos e) = true)
    (script : List CallStmt) : (script.map (·.effect)).filter keep = script.map (·.effect) := by
  rw [List.filter_eq_self]
  intro s hs
  obtain ⟨form, _, rfl⟩ := List.mem_map.mp hs
  exact h _ _

theorem dropIdle_calls {script : List CallStmt}
    (h : ∀ s ∈ script, IsOutside declared s.call.callee) (fuel : Nat) :
    dropIdle (fuel + 1) (script.map (·.stmtIn 1)) =
      if weightOfStmts (script.map (·.effect)) < weightOfStmts (script.map (·.stmtIn 1)) then
        dropIdle fuel (script.map (·.effect))
      else script.map (·.effect) := by
  rw [dropIdle]
  simp only [visitor_calls h]
  rw [filter_effects fun _ _ ↦ rfl]

/-- Calls that give no variable a value are left as they are. -/
theorem dropIdle_effects {script : List CallStmt}
    (h : ∀ s ∈ script, IsOutside declared s.call.callee) (fuel : Nat) :
    dropIdle fuel (script.map (·.effect)) = script.map (·.effect) := by
  cases fuel with
  | zero => rfl
  | succ fuel =>
    have hstep := @dropIdle_calls declared (script.map fun s ↦ .alone s.pos s.call) (by
      intro s hs
      obtain ⟨form, hform, rfl⟩ := List.mem_map.mp hs
      exact h form hform) fuel
    have halone : (script.map fun s ↦ CallStmt.alone s.pos s.call).map (·.stmtIn 1) =
        script.map (·.effect) := List.map_map
    have heffect : (script.map fun s ↦ CallStmt.alone s.pos s.call).map (·.effect) =
        script.map (·.effect) := List.map_map
    rwa [halone, heffect, if_neg (Nat.lt_irrefl _)] at hstep

/-- No variable is read, so all that is left of the declarations are the calls. -/
theorem dropUnused_calls {script : List CallStmt}
    (h : ∀ s ∈ script, IsOutside declared s.call.callee) :
    dropUnused (script.map (·.stmtIn 1)) = script.map (·.effect) := by
  have hplain := plainStmt_of_mem_map h
  rw [dropUnused, findsInStmts_directEval hplain, if_neg Bool.false_ne_true]
  rcases Nat.eq_zero_or_pos (weightOfStmts (script.map (·.stmtIn 1))) with hweight | hweight
  · cases script with
    | nil => rfl
    | cons s script =>
      have hpos : 0 < weightOfStmts ((s :: script).map (·.stmtIn 1)) :=
        weightOfStmts_pos List.mem_cons_self
      omega
  · obtain ⟨fuel, hfuel⟩ := Nat.exists_eq_add_of_lt hweight
    rw [hfuel, dropIdle_calls h, dropIdle_effects h, ite_self]

end BrowserScript.Script
