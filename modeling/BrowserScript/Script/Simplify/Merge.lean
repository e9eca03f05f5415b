import BrowserScript.Script.Simplify.Block
import BrowserScript.Script.Simplify.Carry
import BrowserScript.Script.Simplify.Usage

/-!
Merging: in a run of expressions and declarations the value given to a name is carried to the
place where the name is read next. If that is the only place, the value stands there alone;
otherwise the assignment does. A value that is replaced before anything reads it goes.
-/

set_option autoImplicit false

namespace BrowserScript.Script

/-- A step of a run: something that is evaluated. -/
inductive Step where
  | effect (value : Expr)
  | binding (kind : VarKind) (id : Ident) (value : Expr)
  /-- The value of a declaration that takes it apart. -/
  | apart (value : Expr)
  /-- A name that is declared without a value. -/
  | bare (id : Ident)
  /-- Nothing is left. -/
  | gone

namespace Step

/-- The steps of a list of declarators. -/
def ofDeclarator (kind : VarKind) : Declarator → Step
  | .mk _ (.ident _ id) (some value) => .binding kind id value
  | .mk _ (.ident _ id) none => .bare id
  | .mk _ _ (some value) => .apart value
  | .mk _ _ none => .gone

/-- The declarator of a step. -/
def toDeclarator? (step : Step) : Declarator → Option Declarator
  | .mk pos target value =>
    match step with
    | .binding _ _ value => some (.mk pos target (some value))
    | .apart value => some (.mk pos target (some value))
    | .bare _ => some (.mk pos target none)
    | .effect _ => some (.mk pos target value)
    | .gone => none

def effect? : Step → Option Expr
  | .effect value => some value
  | _ => none

/-- Puts a parcel down in a step. -/
def place (p : Parcel) : Step → Placement Step
  | .effect value => (p.place value).map .effect
  | .binding kind id value =>
    if id = p.id then ((p.place value).map (.binding kind id ·)).orStuck
    else ((p.place value).map (.binding kind id ·)).orElse fun _ =>
      if p.value.mentions id then .stuck else .passed
  | .apart value => ((p.place value).map .apart).orStuck
  | .bare id => if id = p.id || p.value.mentions id then .stuck else .passed
  | .gone => .passed

end Step

/-! ## Steps of statements -/

/-- The steps at the start of a statement, and whether the run goes on behind it. Only such
statements have steps that go on to be part of a run. -/
def Stmt.steps? : Stmt → Option (List Step × Bool)
  | .expr pos value =>
    if (Stmt.expr pos value).isDirective then none else some (value.parts.map .effect, true)
  | .declaration _ kind declarators => some (declarators.map (Step.ofDeclarator kind), true)
  | .function .. => some ([], true)
  | .ret _ (some value) | .throwValue _ value => some (value.parts.map .effect, false)
  | .ifElse _ test _ _ => some (test.parts.map .effect, false)
  | .switch _ discriminant _ => some (discriminant.parts.map .effect, false)
  | .forLoop _ (.expr _ value) _ _ _ => some (value.parts.map .effect, false)
  | .forLoop _ (.declaration _ .var declarators) _ _ _ =>
    some (declarators.map (Step.ofDeclarator .var), false)
  | .forIn _ _ _ none object _ => some (object.parts.map .effect, false)
  | .forOf _ _ _ _ iterable _ => some (iterable.parts.map .effect, false)
  | _ => none

/-- The expression of some steps. -/
def Step.joined (pos : Nat) (steps : List Step) : Expr :=
  (Expr.ofParts pos (steps.filterMap (·.effect?))).getD (.undefined pos)

/-- The declarators of some steps. -/
def Step.declarators (steps : List Step) (declarators : List Declarator) : List Declarator :=
  (steps.zip declarators).filterMap fun (step, d) => step.toDeclarator? d

/-- A statement with other steps at its start. -/
def Stmt.withSteps (s : Stmt) (steps : List Step) : Stmt :=
  match s with
  | .expr pos _ =>
    match Expr.ofParts pos (steps.filterMap (·.effect?)) with
    | some value => .expr pos value
    | none => .empty pos
  | .declaration pos kind declarators =>
    match Step.declarators steps declarators with
    | [] => .empty pos
    | declarators => .declaration pos kind declarators
  | .ret pos (some _) => .ret pos (some (Step.joined pos steps))
  | .throwValue pos _ => .throwValue pos (Step.joined pos steps)
  | .ifElse pos _ yes no => .ifElse pos (Step.joined pos steps) yes no
  | .switch pos _ cases => .switch pos (Step.joined pos steps) cases
  | .forLoop pos (.expr p _) test update body =>
    .forLoop pos (.expr p (Step.joined pos steps)) test update body
  | .forLoop pos (.declaration p .var declarators) test update body =>
    match Step.declarators steps declarators with
    | [] => .forLoop pos (.empty p) test update body
    | declarators => .forLoop pos (.declaration p .var declarators) test update body
  | .forIn pos kind target none _ body => .forIn pos kind target none (Step.joined pos steps) body
  | .forOf pos isAwait kind target _ body =>
    .forOf pos isAwait kind target (Step.joined pos steps) body
  | s => s

/-! ## Merging the steps of a run -/

abbrev Merging := StateM UsageTable

namespace Merging

def change (id : Ident) (f : Usage → Usage) : Merging Unit :=
  modify fun table => table.insert id (f (table.of id))

/-- One read less. -/
def dropRead (id : Ident) : Merging Unit := change id fun u => { u with reads := u.reads - 1 }

def dropWrite (id : Ident) : Merging Unit := change id fun u => { u with writes := u.writes - 1 }

/-- Names that keep their value while others are computed. -/
def mayPass (table : UsageTable) (value : Expr) (id : Ident) : Bool :=
  !value.hasEffect || id.scope = 0 || (table.of id).isConstant

/-- What can be carried from a step, and whether it is all of it, so that the step goes if it is
put down. -/
def parcel? (table : UsageTable) : Step → Option (Parcel × Bool)
  | .effect (.assign pos .assign (.ident p id) value) =>
    if id.scope = 0 || value.mentions id then none
    else
      let u := table.of id
      if u.reads = 1 && u.writes = 1 && u.updates = 0 then
        some (⟨id, value, mayPass table value⟩, true)
      else
        let all := Expr.assign pos .assign (.ident p id) value
        some (⟨id, all, mayPass table all⟩, false)
  | .effect (.assign pos op (.ident p id) value) =>
    if id.scope = 0 || value.mentions id then none
    else
      let all := Expr.assign pos op (.ident p id) value
      some (⟨id, all, mayPass table all⟩, false)
  | .effect (.update pos _ op (.ident p id)) =>
    if id.scope = 0 then none
    else
      let all := Expr.update pos true op (.ident p id)
      some (⟨id, all, mayPass table all⟩, false)
  | .binding _ id value =>
    let u := table.of id
    if u.reads = 1 && u.writes = 0 && u.updates = 0 && u.declared = 1 && !value.mentions id then
      some (⟨id, value, mayPass table value⟩, true)
    else none
  | _ => none

/-- Carries a parcel through the steps behind. -/
def deliver (p : Parcel) : List Step → Option (List Step)
  | [] => none
  | step :: rest =>
    match step.place p with
    | .placed step => some (step :: rest)
    | .passed => (deliver p rest).map (step :: ·)
    | .stuck => none

/-- The new value of a name whose value has not been used since it got it. -/
def replaced? (id : Ident) : Step → Option Expr
  | .effect (.assign _ .assign (.ident _ other) value) =>
    if id = other && !value.mentions id then some value else none
  | _ => none

/-- Drops the value of a step if the step behind gives its name another one. -/
def overwrite (step next : Step) : Merging (Option (List Step)) := do
  match step with
  | .effect (.assign _ .assign (.ident _ id) value) =>
    if id.scope ≠ 0 && !value.hasEffect && (replaced? id next).isSome then
      dropWrite id
      return some [.gone, next]
    else return none
  | .binding kind id value =>
    if value.hasEffect then return none
    else match replaced? id next, next with
      | some new, _ =>
        if kind = .const then return none
        else
          dropWrite id
          return some [.binding kind id new, .gone]
      | none, .binding _ other new =>
        if id = other && !new.mentions id then
          change id fun u =>
            { u with declared := u.declared - 1, initialized := u.initialized - 1 }
          return some [.gone, next]
        else return none
      | none, _ => return none
  | _ => return none

/-- Merges the first step of a run into the steps behind it. -/
def mergeFirst (step : Step) (rest : List Step) : Merging (List Step) := do
  match rest with
  | next :: behind =>
    match ← overwrite step next with
    | some steps => return steps ++ behind
    | none =>
      match parcel? (← get) step with
      | some (p, isAll) =>
        match deliver p rest with
        | some rest =>
          dropRead p.id
          if isAll then
            change p.id fun u =>
              { u with writes := u.writes - 1, initialized := u.initialized - 1 }
          return .gone :: rest
        | none => return step :: rest
      | none => return step :: rest
  | [] => return [step]

/-- Merges each step of a run into the steps behind it, as often as the run is long. -/
def mergeSteps : Nat → List Step → Merging (List Step)
  | 0, steps => return steps
  | _, [] => return []
  | fuel + 1, step :: rest => do
    match ← mergeFirst step rest with
    | [] => return []
    | first :: rest => return first :: (← mergeSteps fuel rest)

/-- Cuts a list into pieces of given lengths. -/
def cut {α : Type} : List Nat → List α → List (List α)
  | [], _ => []
  | n :: lengths, list => list.take n :: cut lengths (list.drop n)

/-- Merges the statements of a run. -/
def mergeRun (run : List (Stmt × List Step)) : Merging (List Stmt) := do
  let steps := run.flatMap (·.2)
  let steps ← mergeSteps steps.length steps
  return (run.zip (cut (run.map (·.2.length)) steps)).map fun ((s, before), after) =>
    if before.isEmpty then s else s.withSteps after

/-- Finds the runs of a list of statements and merges each. -/
def mergeRuns (run : List (Stmt × List Step)) : List Stmt → Merging (List Stmt)
  | [] => mergeRun run.reverse
  | s :: rest =>
    match s.steps? with
    | some (steps, true) => mergeRuns ((s, steps) :: run) rest
    | some (steps, false) => do
      let done ← mergeRun ((s, steps) :: run).reverse
      return done ++ (← mergeRuns [] rest)
    | none => do
      let done ← mergeRun run.reverse
      return done ++ s :: (← mergeRuns [] rest)

/-- The statements of a list, merged. -/
def mergeList (statements : List Stmt) : Merging (List Stmt) := mergeRuns [] statements

/-- The expressions of a sequence, merged. -/
def mergeSeq (pos : Nat) (exprs : List Expr) : Merging Expr :=
  return Step.joined pos (← mergeSteps exprs.length (exprs.map .effect))

end Merging

end BrowserScript.Script
