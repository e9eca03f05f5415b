import BrowserScript.Script.Declared
import BrowserScript.Script.Walk

/-!
Scopes: every name gets the number of the scope that declares it, so that two names are one
binding exactly if name and number agree. A name that no scope declares gets number zero; it
belongs to the world around the script.
-/

set_option autoImplicit false

namespace BrowserScript.Script

/-- A scope: its number and the names it declares. -/
structure Scope where
  number : Nat
  names : List String
  deriving Repr

/-- The scopes around a place, the innermost first. -/
abbrev Scopes := List Scope

namespace Scopes

def resolve (scopes : Scopes) (id : Ident) : Ident :=
  match scopes.find? (·.names.contains id.name) with
  | some scope => { id with scope := scope.number }
  | none => { id with scope := 0 }

end Scopes

/-- Counts the scopes that have been numbered. -/
abbrev Numbering := StateM Nat

/-- A new scope inside of others. -/
def Scopes.enter (scopes : Scopes) (names : List Ident) : Numbering Scopes := do
  let number := (← get) + 1
  set number
  return ⟨number, names.map (·.name)⟩ :: scopes

/-- The names of a loop head that belong to the loop. -/
def loopNames (kind : Option VarKind) (target : Pattern) : List Ident :=
  match kind with
  | none | some .var => []
  | some _ => target.names

mutual

/-- Numbers the names of the parts of a node. Every walk goes as deep as its fuel lasts. -/
def scopeVisitor : Nat → Scopes → Visitor Numbering
  | 0, _ => { expr := pure, pattern := pure, function := pure, stmt := pure, stmts := pure }
  | fuel + 1, scopes =>
    { expr := scopedExpr fuel scopes
      pattern := (·.mapParts (scopeVisitor fuel scopes))
      function := scopedFunction fuel scopes none
      stmt := scopedStmt fuel scopes
      stmts := fun body => do
        let scopes ← scopes.enter (blockNamesOf body)
        body.mapM (scopedStmt fuel scopes)
      ident := fun id => pure (scopes.resolve id) }

/-- Parameters and body share a scope, with the name of a function expression. -/
def scopedFunction : Nat → Scopes → Option Ident → Function → Numbering Function
  | 0, _, _, function => pure function
  | fuel + 1, scopes, name, .mk pos isAsync isGenerator params body => do
    let names := name.toList ++ namesOfPatterns params ++ varNamesOf body ++ blockNamesOf body
    let scopes ← scopes.enter names
    let params ← params.mapM (·.mapParts (scopeVisitor fuel scopes))
    return .mk pos isAsync isGenerator params (← body.mapM (scopedStmt fuel scopes))

def scopedExpr : Nat → Scopes → Expr → Numbering Expr
  | 0, _, e => pure e
  | fuel + 1, scopes, e =>
    match e with
    | .function pos (some name) function => do
      let number := (← get) + 1
      return .function pos (some { name with scope := number })
        (← scopedFunction fuel scopes (some name) function)
    | .arrow pos isAsync params isExpr body => do
      let function ← scopedFunction fuel scopes none (.mk pos isAsync false params body)
      match function with
      | .mk _ _ _ params body => return .arrow pos isAsync params isExpr body
    | .classExpr _ name _ _ => do
      let scopes ← scopes.enter name.toList
      e.mapParts (scopeVisitor fuel scopes)
    | _ => e.mapParts (scopeVisitor fuel scopes)

def scopedStmt : Nat → Scopes → Stmt → Numbering Stmt
  | 0, _, s => pure s
  | fuel + 1, scopes, s =>
    match s with
    | .forLoop _ init _ _ _ => do
      let scopes ← scopes.enter init.blockNames
      s.mapParts (scopeVisitor fuel scopes)
    | .forIn pos kind target init object body => do
      let inner ← scopes.enter (loopNames kind target)
      let visitor := scopeVisitor fuel inner
      return .forIn pos kind (← visitor.pattern target) (← visitOption visitor.expr init)
        (← (scopeVisitor fuel scopes).expr object) (← visitor.stmt body)
    | .forOf pos isAwait kind target iterable body => do
      let inner ← scopes.enter (loopNames kind target)
      let visitor := scopeVisitor fuel inner
      return .forOf pos isAwait kind (← visitor.pattern target)
        (← (scopeVisitor fuel scopes).expr iterable) (← visitor.stmt body)
    | .switch pos discriminant cases => do
      let inner ← scopes.enter (blockNamesOfCases cases)
      let visitor := { scopeVisitor fuel inner with stmts := (·.mapM (scopedStmt fuel inner)) }
      return .switch pos (← (scopeVisitor fuel scopes).expr discriminant)
        (← cases.mapM (·.mapParts visitor))
    | .tryBlock pos block catchPos param handler hasFinally finalizer => do
      let visitor := scopeVisitor fuel scopes
      let block ← visitor.stmts block
      let inner ← scopes.enter ((param.map (·.names)).getD [] ++ blockNamesOf handler)
      let param ← visitOption (scopeVisitor fuel inner).pattern param
      let handler ← handler.mapM (scopedStmt fuel inner)
      return .tryBlock pos block catchPos param handler hasFinally (← visitor.stmts finalizer)
    | _ => s.mapParts (scopeVisitor fuel scopes)

end

/-- Numbers all names of a script, whose outermost scope has number one. -/
def resolveScopes (statements : List Stmt) : List Stmt :=
  let names := varNamesOf statements ++ blockNamesOf statements
  let fuel := 2 * weightOfStmts statements + 2
  ((statements.mapM (scopedStmt fuel [⟨1, names.map (·.name)⟩])).run 1).1

end BrowserScript.Script
