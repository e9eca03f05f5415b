import BrowserScript.Script.Walk

/-!
Searching trees for expressions and statements of some kind.
-/

set_option autoImplicit false

namespace BrowserScript.Script

/-- What is searched for, and where. -/
structure Search where
  expr : Expr → Bool := fun _ => false
  stmt : Stmt → Bool := fun _ => false
  /-- Names, wherever they stand. -/
  ident : Ident → Bool := fun _ => false
  /-- Are functions that are no arrows looked into? -/
  intoFunctions : Bool := true
  intoArrows : Bool := true

namespace Search

/-- Notes in the state whether something has been found. -/
def visitor (search : Search) : Nat → Visitor (StateM Bool)
  | 0 => { expr := pure, pattern := pure, function := pure, stmt := pure, stmts := pure }
  | fuel + 1 =>
    let visitStmt := fun (s : Stmt) => do
      if search.stmt s then set true
      s.mapParts (visitor search fuel)
    { expr := fun e => do
        if search.expr e then set true
        match e with
        | .arrow .. => if search.intoArrows then e.mapParts (visitor search fuel) else return e
        | _ => e.mapParts (visitor search fuel)
      pattern := (·.mapParts (visitor search fuel))
      function := fun f =>
        if search.intoFunctions then f.mapParts (visitor search fuel) else return f
      stmt := visitStmt
      stmts := (·.mapM visitStmt)
      ident := fun id => do
        if search.ident id then set true
        return id }

/-- Is it an expression or a part of one? -/
def findsInExpr (search : Search) (e : Expr) : Bool :=
  (((search.visitor (e.weight + 1)).expr e).run false).2

def findsInStmts (search : Search) (statements : List Stmt) : Bool :=
  (((search.visitor (weightOfStmts statements + 1)).stmts statements).run false).2

def findsInStmt (search : Search) (s : Stmt) : Bool := search.findsInStmts [s]

end Search

/-- Does a name stand anywhere in an expression? -/
def Expr.mentions (e : Expr) (id : Ident) : Bool :=
  Search.findsInExpr { ident := (· = id) } e

/-- A call of `eval`, which can use the names around it. -/
def Search.directEval : Search where
  expr
    | .call _ (.ident _ id) _ => id.name = "eval"
    | _ => false

/-- A call of `eval`, or an object whose properties become names: the names around it may be used
without being seen. -/
def Search.dynamicNames : Search where
  expr := Search.directEval.expr
  stmt
    | .withObject .. => true
    | _ => false

end BrowserScript.Script
