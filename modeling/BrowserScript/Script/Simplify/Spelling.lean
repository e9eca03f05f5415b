import BrowserScript.Script.Walk

/-!
The shortest spelling of values and declarations: `true` and `false` are written as negated
numbers, and what is declared as a constant as a variable, for nothing assigns to it.
-/

set_option autoImplicit false

namespace BrowserScript.Script

namespace Spelling

/-- A constant is declared as a variable. -/
def shortKind : VarKind → VarKind
  | .const => .letVar
  | kind => kind

def withShortKind : Stmt → Stmt
  | .declaration pos kind declarators => .declaration pos (shortKind kind) declarators
  | .forIn pos kind target init object body =>
    .forIn pos (kind.map shortKind) target init object body
  | .forOf pos isAwait kind target iterable body =>
    .forOf pos isAwait (kind.map shortKind) target iterable body
  | s => s

def declarationVisitor : Nat → Visitor Id
  | 0 => { expr := pure, pattern := pure, function := pure, stmt := pure, stmts := pure }
  | fuel + 1 =>
    { expr := (·.mapParts (declarationVisitor fuel))
      pattern := (·.mapParts (declarationVisitor fuel))
      function := (·.mapParts (declarationVisitor fuel))
      stmt := fun s => return withShortKind (← s.mapParts (declarationVisitor fuel))
      stmts := (·.mapM fun s => do
        return withShortKind (← s.mapParts (declarationVisitor fuel))) }

/-- `true` and `false` are negated numbers. -/
def booleanVisitor : Nat → Visitor Id
  | 0 => { expr := pure, pattern := pure, function := pure, stmt := pure, stmts := pure }
  | fuel + 1 =>
    { expr := fun
        | .lit pos (.bool value) =>
          return .unary pos .bang (.lit pos (.number (if value then 0 else 1)))
        | e => e.mapParts (booleanVisitor fuel)
      pattern := (·.mapParts (booleanVisitor fuel))
      function := (·.mapParts (booleanVisitor fuel))
      stmt := (·.mapParts (booleanVisitor fuel))
      stmts := (·.mapM (·.mapParts (booleanVisitor fuel))) }

end Spelling

/-- A script without constants. -/
def withoutConstants (statements : List Stmt) : List Stmt :=
  (Spelling.declarationVisitor (2 * weightOfStmts statements + 2)).stmts statements

/-- A script whose literals have their shortest spelling. -/
def spelled (statements : List Stmt) : List Stmt :=
  (Spelling.booleanVisitor (2 * weightOfStmts statements + 2)).stmts statements

end BrowserScript.Script
