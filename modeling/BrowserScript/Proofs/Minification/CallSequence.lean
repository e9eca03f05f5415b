import BrowserScript.Proofs.Minification.CallTidying

/-!
What the optimizer does with calls that have to stay. It carries no value to them, since they give
none to a variable (`mergeList_runs`), and finds nothing on its desk to put in the place of a name
(`Rests`). All that it does is to make one sequence of them (`round_runs`), and every later pass
leaves that as it is.
-/

set_option autoImplicit false
set_option relaxedAutoImplicit false

namespace BrowserScript.Script

variable {declared : List String} {s : Stmt} {calls : List LiteralCall} {statements : List Stmt}

/-! ### Merging -/

/-- The steps of some calls. -/
def stepsOf (calls : List LiteralCall) : List Step := calls.map fun c ↦ .effect c.expr

theorem map_effect_exprs (calls : List LiteralCall) :
    (calls.map LiteralCall.expr).map .effect = stepsOf calls := List.map_map

theorem filterMap_effect?_stepsOf (calls : List LiteralCall) :
    (stepsOf calls).filterMap (·.effect?) = calls.map LiteralCall.expr := by
  rw [stepsOf, List.filterMap_map]
  exact List.filterMap_eq_map ▸ rfl

namespace Runs

theorem steps? (h : Runs declared s calls) : s.steps? = some (stepsOf calls, true) := by
  cases h with
  | call h pos => rfl
  | seq h hlength pos =>
    show some (List.map Step.effect (calls.map LiteralCall.expr), true) = _
    rw [map_effect_exprs]

theorem withSteps (h : Runs declared s calls) : s.withSteps (stepsOf calls) = s := by
  cases h with
  | call h pos => rfl
  | seq h hlength pos =>
    rw [Stmt.withSteps, filterMap_effect?_stepsOf,
      ofParts_of_two_le (by rwa [List.length_map]) pos]

end Runs

namespace Merging

theorem mergeFirst_call (c : LiteralCall) (rest : List Step) :
    mergeFirst (.effect c.expr) rest = pure (.effect c.expr :: rest) := by
  cases rest <;> rfl

theorem mergeSteps_calls (fuel : Nat) (calls : List LiteralCall) :
    mergeSteps fuel (stepsOf calls) = pure (stepsOf calls) := by
  induction calls generalizing fuel with
  | nil => cases fuel <;> rfl
  | cons c calls ih =>
    cases fuel with
    | zero => rfl
    | succ fuel =>
      rw [stepsOf, List.map_cons, ← stepsOf, mergeSteps]
      simp only [mergeFirst_call, pure_bind, ih]

/-- Lists that have been put together are taken apart by their lengths. -/
theorem cut_flatMap {α β : Type} (f : α → List β) (xs : List α) :
    cut (xs.map fun x ↦ (f x).length) (xs.flatMap f) = xs.map f := by
  induction xs with
  | nil => rfl
  | cons x xs ih =>
    rw [List.map_cons, List.flatMap_cons, cut, List.take_left, List.drop_left, ih, List.map_cons]

/-- A statement with its steps, in which nothing is merged. -/
def IsSettled (entry : Stmt × List Step) : Prop :=
  (∃ calls, entry.2 = stepsOf calls) ∧ entry.1.withSteps entry.2 = entry.1

theorem flatMap_settled {run : List (Stmt × List Step)} (h : ∀ entry ∈ run, IsSettled entry) :
    ∃ calls, run.flatMap (·.2) = stepsOf calls := by
  induction run with
  | nil => exact ⟨[], rfl⟩
  | cons entry run ih =>
    obtain ⟨⟨first, hfirst⟩, -⟩ := h entry List.mem_cons_self
    obtain ⟨calls, hcalls⟩ := ih fun other hother ↦ h other (List.mem_cons_of_mem _ hother)
    refine ⟨first ++ calls, ?_⟩
    rw [List.flatMap_cons, hfirst, hcalls, stepsOf, stepsOf, stepsOf, List.map_append]

theorem map_zip_settled {run : List (Stmt × List Step)} (h : ∀ entry ∈ run, IsSettled entry) :
    ((run.zip (run.map (·.2))).map fun ((s, before), after) ↦
      if before.isEmpty then s else s.withSteps after) = run.map (·.1) := by
  induction run with
  | nil => rfl
  | cons entry run ih =>
    have hentry := (h entry List.mem_cons_self).2
    rw [List.map_cons, List.zip_cons_cons, List.map_cons, List.map_cons,
      ih fun other hother ↦ h other (List.mem_cons_of_mem _ hother)]
    dsimp only
    rw [hentry, ite_self]

theorem mergeRun_settled {run : List (Stmt × List Step)} (h : ∀ entry ∈ run, IsSettled entry) :
    mergeRun run = pure (run.map (·.1)) := by
  obtain ⟨calls, hcalls⟩ := flatMap_settled h
  have hcut := cut_flatMap (·.2) run
  rw [hcalls] at hcut
  simp only [mergeRun, hcalls, mergeSteps_calls, pure_bind, hcut]
  exact congrArg pure (map_zip_settled h)

theorem mergeRuns_runs (h : ∀ s ∈ statements, ∃ calls, Runs declared s calls)
    {run : List (Stmt × List Step)} (hrun : ∀ entry ∈ run, IsSettled entry) :
    mergeRuns run statements = pure (run.reverse.map (·.1) ++ statements) := by
  induction statements generalizing run with
  | nil =>
    rw [mergeRuns, mergeRun_settled fun entry hentry ↦ hrun entry (List.mem_reverse.mp hentry),
      List.append_nil]
  | cons s statements ih =>
    obtain ⟨calls, hruns⟩ := h s List.mem_cons_self
    have hentries : ∀ entry ∈ (s, stepsOf calls) :: run, IsSettled entry := by
      intro entry hentry
      rcases List.mem_cons.mp hentry with rfl | hentry
      · exact ⟨⟨calls, rfl⟩, hruns.withSteps⟩
      · exact hrun entry hentry
    rw [mergeRuns, hruns.steps?]
    dsimp only
    rw [ih (fun t ht ↦ h t (List.mem_cons_of_mem _ ht)) hentries, List.reverse_cons,
      List.map_append, List.append_assoc]
    rfl

/-- Nothing is merged in a list of statements that run calls that have to stay. -/
theorem mergeList_runs (h : ∀ s ∈ statements, ∃ calls, Runs declared s calls) :
    mergeList statements = pure statements :=
  mergeRuns_runs h nofun

theorem mergeSeq_calls (hlength : 2 ≤ calls.length) (pos : Nat) :
    mergeSeq pos (calls.map LiteralCall.expr) = pure (.seq pos (calls.map LiteralCall.expr)) := by
  have hjoined : Step.joined pos (stepsOf calls) = .seq pos (calls.map LiteralCall.expr) := by
    rw [Step.joined, filterMap_effect?_stepsOf,
      ofParts_of_two_le (by rwa [List.length_map]) pos, Option.getD_some]
  simp only [mergeSeq, map_effect_exprs, mergeSteps_calls, pure_bind, hjoined]

end Merging

/-! ### Sequences -/

/-- The calls of a list of statements, one statement after the other. -/
inductive RunsAll (declared : List String) : List Stmt → List LiteralCall → Prop
  | nil : RunsAll declared [] []
  | cons {s : Stmt} {calls more : List LiteralCall} {statements : List Stmt}
    (first : Runs declared s calls) (rest : RunsAll declared statements more) :
    RunsAll declared (s :: statements) (calls ++ more)

theorem RunsAll.runs (h : RunsAll declared statements calls) :
    ∀ s ∈ statements, ∃ calls, Runs declared s calls := by
  induction h with
  | nil => exact nofun
  | cons first rest ih =>
    intro s hs
    rcases List.mem_cons.mp hs with rfl | hs
    · exact ⟨_, first⟩
    · exact ih s hs

theorem Runs.asExpr? (h : Runs declared s calls) :
    ∃ e, s.asExpr? = some e ∧ e.parts = calls.map LiteralCall.expr := by
  cases h with
  | call h pos => exact ⟨_, rfl, rfl⟩
  | seq h hlength pos => exact ⟨_, rfl, rfl⟩

theorem sequenced_runsAll (h : RunsAll declared statements calls) (pending : List Expr) :
    sequenced pending statements = flushed (pending ++ calls.map LiteralCall.expr) := by
  induction h generalizing pending with
  | nil => rw [sequenced, List.map_nil, List.append_nil]
  | cons first rest ih =>
    obtain ⟨e, hexpr, hparts⟩ := first.asExpr?
    rw [sequenced.eq_def]
    simp only [hexpr]
    rw [ih, hparts, List.map_append, List.append_assoc]

/-- The statement that runs some calls, if there are any. -/
def inSequence (calls : List LiteralCall) : List Stmt := flushed (calls.map LiteralCall.expr)

theorem runsAll_inSequence (h : ∀ c ∈ calls, IsKept declared c) :
    RunsAll declared (inSequence calls) calls := by
  match calls with
  | [] => exact .nil
  | [c] => exact .cons (.call (h c List.mem_cons_self) c.pos) .nil
  | first :: second :: rest =>
    have hseq := Runs.seq h (Nat.le_add_left 2 rest.length) first.pos
    have hall := RunsAll.cons hseq .nil
    rwa [List.append_nil] at hall

theorem joinReturns_inSequence (calls : List LiteralCall) :
    joinReturns (inSequence calls) = inSequence calls := by
  match calls with
  | [] | [_] | _ :: _ :: _ => rfl

/-- A list of statements that run calls becomes one sequence. -/
theorem sequenceList_runsAll (h : RunsAll declared statements calls)
    (hkept : ∀ c ∈ calls, IsKept declared c) : sequenceList statements = inSequence calls := by
  have hfirst := sequenced_runsAll h []
  have hagain := sequenced_runsAll (runsAll_inSequence hkept) []
  rw [List.nil_append] at hfirst hagain
  rw [sequenceList, hfirst]
  show sequenced [] (joinReturns (inSequence calls)) = _
  rw [joinReturns_inSequence, hagain]
  rfl

/-! ### The desk -/

namespace Desk

/-- A desk without values, at a place in front of which names can be declared. -/
structure IsClear (d : Desk) : Prop where
  values : d.values = ∅
  moves : d.moves = ∅
  functions : d.functions = ∅
  hoisted : d.hoisted = []
  canHoist : d.canHoist = true

/-- With a clear desk this gives a value and leaves the desk as it is. -/
def Rests {α : Type} (work : Work α) (a : α) : Prop := ∀ d, IsClear d → work.run d = (a, d)

namespace Rests

variable {α β : Type} {a : α} {b : β}

theorem pure (a : α) : Rests (Pure.pure a) a := fun _ _ ↦ rfl

theorem bind {work : Work α} {next : α → Work β} (hwork : Rests work a) (hnext : Rests (next a) b) :
    Rests (work >>= next) b := by
  intro d hd
  rw [StateT.run_bind, hwork d hd]
  exact hnext d hd

theorem get_bind {next : Desk → Work β} (h : ∀ d, IsClear d → (next d).run d = (b, d)) :
    Rests (get >>= next) b := fun d hd ↦ h d hd

theorem mapM_map {f : α → Work β} {g : α → β} {xs : List α}
    (h : ∀ x ∈ xs, Rests (f x) (g x)) : Rests (xs.mapM f) (xs.map g) := by
  induction xs with
  | nil => rw [List.map_nil, List.mapM_nil]; exact .pure []
  | cons x xs ih =>
    rw [List.map_cons, List.mapM_cons]
    refine (h x List.mem_cons_self).bind (.bind (ih fun y hy ↦ h y (List.mem_cons_of_mem _ hy)) ?_)
    exact .pure (g x :: xs.map g)

theorem mapM {f : α → Work α} {xs : List α} (h : ∀ x ∈ xs, Rests (f x) x) :
    Rests (xs.mapM f) xs := by
  have hmap := mapM_map (g := id) h
  rwa [List.map_id] at hmap

theorem merging {merge : Merging α} (h : merge = Pure.pure a) : Rests (merging merge) a := by
  subst h
  exact fun _ _ ↦ rfl

theorem within {place : Desk → Desk} {work : Work α} (hplace : ∀ d, IsClear d → place d = d)
    (h : Rests work a) : Rests (within place work) a := by
  intro d hd
  have hrun : (Desk.within place work).run d =
      ((work.run (place d)).1,
        { (work.run (place d)).2 with canHoist := d.canHoist, inLoop := d.inLoop }) := rfl
  rw [hrun, hplace d hd, h d hd]

theorem collecting {work : Work α} (h : Rests work a) : Rests (collecting work) (a, []) := by
  intro d hd
  have hclear : { d with hoisted := [] } = d := by rw [← hd.hoisted]
  have hrun : (Desk.collecting work).run d =
      (((work.run { d with hoisted := [] }).1, (work.run { d with hoisted := [] }).2.hoisted),
        { (work.run { d with hoisted := [] }).2 with hoisted := d.hoisted }) := rfl
  rw [hrun, hclear, h d hd]
  dsimp only
  rw [hd.hoisted, hclear]

end Rests

theorem rests_read (pos : Nat) (id : Ident) : Rests (read pos id) (.ident pos id) := by
  refine .get_bind fun d hd ↦ ?_
  simp only [hd.values, hd.moves, Std.HashMap.getElem?_empty]
  rfl

theorem rests_readCallee (pos : Nat) (id : Ident) : Rests (readCallee pos id) (.ident pos id) := by
  refine .get_bind fun d hd ↦ ?_
  simp only [hd.functions, Std.HashMap.getElem?_empty]
  refine (rests_read pos id).bind ?_ d hd
  show Rests (if id = id then Pure.pure (Expr.ident pos id) else _) _
  rw [if_pos rfl]
  exact .pure _

theorem rests_settle (statements : List Stmt) : Rests (settle statements) statements := by
  refine .get_bind fun d hd ↦ ?_
  simp only [hd.values, hd.moves, Std.HashMap.isEmpty_empty, Bool.and_self, if_true]
  rfl

end Desk

namespace Inline

open Desk

theorem rests_directCall (c : LiteralCall) :
    Rests (directCall c.pos (.ident c.calleePos ⟨c.callee, 0⟩) c.argExprs) c.expr := by
  refine .get_bind fun d hd ↦ ?_
  rw [any_isSpread_argExprs]
  cases d.isVeiled <;> rfl

theorem rests_visitExpr_lit (fuel pos : Nat) (arg : Argument) :
    Rests (visitExpr fuel (.lit pos arg.lit)) (.lit pos arg.lit) := by
  cases fuel <;> exact .pure _

theorem rests_visitExpr_call (fuel : Nat) (c : LiteralCall) :
    Rests (visitExpr fuel c.expr) c.expr := by
  cases fuel with
  | zero => exact .pure _
  | succ fuel =>
    have hargs : Rests (c.argExprs.mapM (visitExpr fuel)) c.argExprs := by
      refine .mapM fun e he ↦ ?_
      obtain ⟨⟨pos, arg⟩, _, rfl⟩ := List.mem_map.mp he
      exact rests_visitExpr_lit fuel pos arg
    exact .bind (rests_readCallee _ _) (.bind hargs (rests_directCall c))

theorem rests_visitExpr_seq (fuel : Nat) {calls : List LiteralCall} (hlength : 2 ≤ calls.length)
    (pos : Nat) :
    Rests (visitExpr fuel (.seq pos (calls.map LiteralCall.expr)))
      (.seq pos (calls.map LiteralCall.expr)) := by
  cases fuel with
  | zero => exact .pure _
  | succ fuel =>
    have hcalls : Rests ((calls.map LiteralCall.expr).mapM (visitExpr fuel))
        (calls.map LiteralCall.expr) := by
      refine .mapM fun e he ↦ ?_
      obtain ⟨c, _, rfl⟩ := List.mem_map.mp he
      exact rests_visitExpr_call fuel c
    exact .bind hcalls (.merging (Merging.mergeSeq_calls hlength pos))

theorem rests_visitStmt (fuel : Nat) (h : Runs declared s calls) :
    Rests (visitStmt fuel s) [s] := by
  have hexpr : ∀ e : Expr, (∀ fuel, Rests (visitExpr fuel e) e) → ∀ fuel,
      Rests ((visitor fuel).expr e) e := by
    intro e he fuel
    cases fuel with
    | zero => exact .pure e
    | succ fuel => exact he fuel
  cases fuel with
  | zero => exact .pure [s]
  | succ fuel =>
    cases h with
    | @call c h pos =>
      exact .bind (.bind (hexpr _ (fun fuel ↦ rests_visitExpr_call fuel c) fuel) (.pure _))
        (.pure _)
    | seq h hlength pos =>
      exact .bind (.bind (hexpr _ (fun fuel ↦ rests_visitExpr_seq fuel hlength _) fuel) (.pure _))
        (.pure _)

theorem rests_collected (fuel : Nat) (h : Runs declared s calls) :
    Rests (do
      let (done, names) ← collecting (visitStmt fuel s)
      return Desk.declaration names ++ done) [s] :=
  .bind (.collecting (rests_visitStmt fuel h)) (.pure _)

/-- All that happens to the statements is that they become a sequence. -/
theorem rests_visitStmts (fuel : Nat) (h : RunsAll declared statements calls)
    (hkept : ∀ c ∈ calls, IsKept declared c) :
    Rests (visitStmts (fuel + 1) statements) (inSequence calls) := by
  have hflat : (statements.map fun s ↦ [s]).flatten = statements := by
    rw [← List.flatMap_def]
    exact List.flatMap_singleton' statements
  have hfinished : Rests (finished (statements.map fun s ↦ [s]).flatten) (inSequence calls) := by
    rw [hflat, ← sequenceList_runsAll h hkept]
    exact .bind (.merging (Merging.mergeList_runs h.runs)) (.pure _)
  refine .bind (.within (fun d hd ↦ by rw [← hd.canHoist]) (.mapM_map fun s hs ↦ ?_)) hfinished
  obtain ⟨calls, hruns⟩ := h.runs s hs
  exact rests_collected fuel hruns

theorem round_runsAll (h : RunsAll declared statements calls)
    (hkept : ∀ c ∈ calls, IsKept declared c) : round statements = inSequence calls := by
  have hwork : Rests (do settle (← visitStmts (3 * weightOfStmts statements + 3) statements))
      (inSequence calls) :=
    .bind (rests_visitStmts _ h hkept) (rests_settle _)
  exact congrArg Prod.fst (hwork _ ⟨rfl, rfl, rfl, rfl, rfl⟩)

end Inline

end BrowserScript.Script
