import BrowserScript.Script.Simplify.Block
import BrowserScript.Script.Simplify.Usage

/-!
Sweeping: what a declaration without a value declares goes if its name stands nowhere else.
-/

set_option autoImplicit false

namespace BrowserScript.Script

namespace Sweep

def isIdle (table : UsageTable) : Declarator → Bool
  | .mk _ (.ident _ id) none => (table.of id).isUnused
  | _ => false

def withoutIdle (table : UsageTable) (s : Stmt) : Stmt :=
  match s with
  | .declaration pos kind declarators =>
    match declarators.filter (!isIdle table ·) with
    | [] => .empty pos
    | declarators => .declaration pos kind declarators
  | s => s

/-- Drops declarators without a value whose names stand nowhere else. -/
def visitor (table : UsageTable) : Nat → Visitor Id
  | 0 => { expr := pure, pattern := pure, function := pure, stmt := pure, stmts := pure }
  | fuel + 1 =>
    { expr := (·.mapParts (visitor table fuel))
      pattern := (·.mapParts (visitor table fuel))
      function := (·.mapParts (visitor table fuel))
      stmt := fun s => return withoutIdle table (← s.mapParts (visitor table fuel))
      stmts := fun body => do
        let body ← body.mapM fun s => return withoutIdle table (← s.mapParts (visitor table fuel))
        return body.filter (!·.isEmpty) }

end Sweep

/-- A script without idle declarations. -/
def swept (statements : List Stmt) : List Stmt :=
  (Sweep.visitor (Census.take statements) (2 * weightOfStmts statements + 2)).stmts statements

end BrowserScript.Script
