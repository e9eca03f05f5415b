import BrowserScript.Script.Simplify.Merge
import BrowserScript.Script.Simplify.Worth

/-!
The desk of the optimizer: the values that wait to be put in the place of names, and the names that
wait to be declared. A value that is copied stays on the desk; one that is moved leaves it with its
first use. Copies of functions get names of their own, so that no two bindings are one.
-/

set_option autoImplicit false

namespace BrowserScript.Script

structure Desk where
  table : UsageTable
  /-- The scope numbers from here on are free. -/
  nextScope : Nat
  /-- Values that take the place of every use of a name. -/
  values : Std.HashMap Ident Expr := ∅
  /-- Values that take the place of the only use of a name. -/
  moves : Std.HashMap Ident Expr := ∅
  /-- Functions that are copied to where they are called. -/
  functions : Std.HashMap Ident Expr := ∅
  /-- Names that stand for the properties of an object. -/
  properties : Std.HashMap Ident (List (String × Ident)) := ∅
  /-- Names that are to be declared in front of this statement. -/
  hoisted : List Ident := []
  /-- Can names be declared in front of this statement? -/
  canHoist : Bool := true
  inLoop : Bool := false
  /-- May names of the script be used unseen? -/
  isVeiled : Bool := false

abbrev Work := StateM Desk

namespace Desk

def usage (id : Ident) : Work Usage := return (← get).table.of id

def change (id : Ident) (f : Usage → Usage) : Work Unit :=
  modify fun d => { d with table := d.table.insert id (f (d.table.of id)) }

/-- Merges with the counts on the desk. -/
def merging {α : Type} (merge : Merging α) : Work α := do
  let d ← get
  let (value, table) := merge.run d.table
  set { d with table }
  return value

/-- A number for a scope of its own. -/
def newScope : Work Nat := do
  let d ← get
  set { d with nextScope := d.nextScope + 1 }
  return d.nextScope

/-! ## Places -/

/-- Does something at another place, and comes back. -/
def within {α : Type} (place : Desk → Desk) (work : Work α) : Work α := do
  let d ← get
  set (place d)
  let value ← work
  modify fun e => { e with canHoist := d.canHoist, inLoop := d.inLoop }
  return value

def looping {α : Type} (work : Work α) : Work α := within ({ · with inLoop := true }) work

/-- Where no statement is near that names could be declared in front of. -/
def fixed {α : Type} (work : Work α) : Work α := within ({ · with canHoist := false }) work

/-- Does something for which names may have to be declared, and says which. -/
def collecting {α : Type} (work : Work α) : Work (α × List Ident) := do
  let outer := (← get).hoisted
  modify ({ · with hoisted := [] })
  let value ← work
  let names := (← get).hoisted
  modify ({ · with hoisted := outer })
  return (value, names)

/-- The declaration of some names without values. -/
def declaration (names : List Ident) : List Stmt :=
  if names.isEmpty then []
  else [.declaration 0 .var (names.map fun id => .mk 0 (.ident 0 id) none)]

/-! ## Copies -/

/-- Gives the names of some scopes other numbers. -/
def renumberVisitor (renumber : Nat → Nat) : Nat → Visitor Id
  | 0 => { expr := pure, pattern := pure, function := pure, stmt := pure, stmts := pure }
  | fuel + 1 =>
    { expr := (·.mapParts (renumberVisitor renumber fuel))
      pattern := (·.mapParts (renumberVisitor renumber fuel))
      function := (·.mapParts (renumberVisitor renumber fuel))
      stmt := (·.mapParts (renumberVisitor renumber fuel))
      stmts := (·.mapM (·.mapParts (renumberVisitor renumber fuel)))
      ident := fun id => { id with scope := renumber id.scope } }

/-- Adds the uses of a name in a copy. -/
def addUses (u more : Usage) : Usage :=
  { u with
    reads := u.reads + more.reads
    writes := u.writes + more.writes
    updates := u.updates + more.updates
    calls := u.calls + more.calls
    members := more.members ++ u.members
    memberWrites := u.memberWrites + more.memberWrites
    isUsedInLoop := true }

/-- A copy of an expression whose own bindings are new ones. -/
def copy (e : Expr) : Work Expr := do
  let counts := (Census.take [.expr 0 e]).toList
  let own := counts.filter (0 < ·.2.declared)
  let scopes := ((own.map (·.1.scope)).eraseDups).mergeSort
  let start := (← get).nextScope
  modify fun d => { d with nextScope := start + scopes.length }
  let renumber := fun n => match scopes.idxOf? n with
    | some i => start + i
    | none => n
  own.forM fun (id, _) => do
    let u ← usage id
    change { id with scope := renumber id.scope } fun _ => u
  (counts.filter (·.2.declared = 0)).forM fun (id, more) => change id (addUses · more)
  return (renumberVisitor renumber (e.weight + 1)).expr e

/-! ## Taking values from the desk -/

/-- What stands where a name is read. -/
def read (pos : Nat) (id : Ident) : Work Expr := do
  let d ← get
  match d.values[id]? with
  | some value =>
    change id fun u => { u with reads := u.reads - 1 }
    match value with
    | .ident _ other => change other fun u => { u with reads := u.reads + 1 }
    | _ => pure ()
    return value
  | none =>
    match d.moves[id]? with
    | some value =>
      set { d with moves := d.moves.erase id }
      change id fun u => { u with reads := u.reads - 1 }
      return value
    | none => return .ident pos id

/-- What stands where a name is called. -/
def readCallee (pos : Nat) (id : Ident) : Work Expr := do
  match (← get).functions[id]? with
  | some function =>
    change id fun u => { u with reads := u.reads - 1, calls := u.calls - 1 }
    copy function
  | none =>
    match ← read pos id with
    | .ident pos other =>
      if other = id then return .ident pos id else return (Expr.ident pos other).asCallee
    | e => return e

/-- Puts what is left on the desk where it belongs: a use may stand in front of the declaration. -/
def leftoverVisitor : Nat → Visitor Work
  | 0 => { expr := pure, pattern := pure, function := pure, stmt := pure, stmts := pure }
  | fuel + 1 =>
    { expr := fun e => do
        match e with
        | .ident pos id => do
          match ← read pos id with
          | .ident pos id => return .ident pos id
          | e => e.mapParts (leftoverVisitor fuel)
        | .call pos (.ident p id) args => do
          let callee ← match ← read p id with
            | .ident p other =>
              pure (if other = id then Expr.ident p id else (Expr.ident p other).asCallee)
            | e => e.mapParts (leftoverVisitor fuel)
          return .call pos callee (← args.mapM (leftoverVisitor fuel).expr)
        | .assign pos op (.ident p id) value =>
          return .assign pos op (.ident p id) (← (leftoverVisitor fuel).expr value)
        | .update pos isBefore op (.ident p id) => return .update pos isBefore op (.ident p id)
        | e => e.mapParts (leftoverVisitor fuel)
      pattern := (·.mapParts (leftoverVisitor fuel))
      function := (·.mapParts (leftoverVisitor fuel))
      stmt := (·.mapParts (leftoverVisitor fuel))
      stmts := (·.mapM (·.mapParts (leftoverVisitor fuel)))
      shorthand := fun pos id => do
        match ← read pos id with
        | .ident p other =>
          return if other = id then .shorthand pos id
            else .keyValue pos (.ident id.name) (.ident p other)
        | e => return .keyValue pos (.ident id.name) (← e.mapParts (leftoverVisitor fuel)) }

def settle (statements : List Stmt) : Work (List Stmt) := do
  let d ← get
  if d.values.isEmpty && d.moves.isEmpty then return statements
  let weight := d.moves.fold (fun n _ e => n + e.weight) (weightOfStmts statements)
  statements.mapM (·.mapParts (leftoverVisitor (2 * weight + 2)))

/-! ## Substitution -/

/-- Puts values in the place of names. -/
def substituteVisitor (values : List (Ident × Expr)) : Nat → Visitor Work
  | 0 => { expr := pure, pattern := pure, function := pure, stmt := pure, stmts := pure }
  | fuel + 1 =>
    let value := fun (pos : Nat) (id : Ident) => do
      match values.lookup id with
      | some e =>
        match e with
        | .ident _ other => change other fun u => { u with reads := u.reads + 1 }
        | _ => pure ()
        return e
      | none => return Expr.ident pos id
    { expr := fun e => do
        match e with
        | .ident pos id => value pos id
        | .call pos (.ident p id) args => do
          let callee ← value p id
          let callee := if (values.lookup id).isSome then callee.asCallee else callee
          return .call pos callee (← args.mapM (substituteVisitor values fuel).expr)
        | e => e.mapParts (substituteVisitor values fuel)
      pattern := (·.mapParts (substituteVisitor values fuel))
      function := (·.mapParts (substituteVisitor values fuel))
      stmt := (·.mapParts (substituteVisitor values fuel))
      stmts := (·.mapM (·.mapParts (substituteVisitor values fuel)))
      shorthand := fun pos id => do
        if (values.lookup id).isSome then
          return .keyValue pos (.ident id.name) (← value pos id)
        else return .shorthand pos id }

def substitute (values : List (Ident × Expr)) (statements : List Stmt) : Work (List Stmt) :=
  if values.isEmpty then return statements
  else statements.mapM (·.mapParts (substituteVisitor values (weightOfStmts statements + 1)))

def substituteAll (values : List (Ident × Expr)) (exprs : List Expr) : Work (List Expr) :=
  if values.isEmpty then return exprs
  else exprs.mapM (substituteVisitor values (weightOfExprs exprs + 1)).expr

end Desk

end BrowserScript.Script
