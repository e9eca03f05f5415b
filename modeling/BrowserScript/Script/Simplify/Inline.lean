import BrowserScript.Script.Simplify.DirectCall
import BrowserScript.Script.Simplify.Placing
import BrowserScript.Script.Simplify.Sequence

/-!
Inlining: one walk through a script in the order of its text. The value of a declaration is
simplified first; then it is put on the desk, from which the uses behind it take it. At the end of
each list of statements what has become simpler is merged and made a sequence, so that a function
is as short as it can be when its declaration has been passed.
-/

set_option autoImplicit false

namespace BrowserScript.Script

namespace Inline

open Desk

/-- Merges the statements of a list and makes sequences of them. -/
def finished (statements : List Stmt) : Work (List Stmt) :=
  return sequenceList (← merging (Merging.mergeList statements))

/-- Drops an assignment to a name that nothing reads. -/
def assigned (pos : Nat) (target : Pattern) (value : Expr) : Work Expr := do
  match target with
  | .ident _ id =>
    let u ← usage id
    if id.scope ≠ 0 && u.reads = 0 && u.updates = 0 then
      change id fun u => { u with writes := u.writes - 1 }
      return value
    else return .assign pos .assign target value
  | target => return .assign pos .assign target value

/-- A member of an object, or the variable that holds it. -/
def readMember (pos : Nat) (base : Expr) (name : String) : Work Expr := do
  match base with
  | .ident p id =>
    match (← get).properties[id]? with
    | some names =>
      match names.lookup name with
      | some own => read p own
      | none => return .member pos base name
    | none => return .member pos base name
  | base => return .member pos base name

mutual

def visitor : Nat → Visitor Work
  | 0 => { expr := pure, pattern := pure, function := pure, stmt := pure, stmts := pure }
  | fuel + 1 =>
    { expr := visitExpr fuel
      pattern := visitPattern fuel
      function := visitFunction fuel
      stmt := fun s => return .ofList 0 (← visitStmt fuel s)
      stmts := visitStmts fuel
      shorthand := fun pos id => do
        match ← read pos id with
        | .ident p other =>
          return if other = id then .shorthand pos id
            else .keyValue pos (.ident id.name) (.ident p other)
        | e => return .keyValue pos (.ident id.name) e }

def visitPattern : Nat → Pattern → Work Pattern
  | 0, p => return p
  | fuel + 1, p =>
    match p with
    | .ident .. => return p
    | .expr target => return .expr (← visitPlace fuel target)
    | p => p.mapParts (visitor fuel)

/-- An expression that is assigned to, updated or deleted. -/
def visitPlace : Nat → Expr → Work Expr
  | 0, e => return e
  | fuel + 1, e =>
    match e with
    | .member pos base name => return .member pos (← visitExpr fuel base) name
    | .index pos base key => return .index pos (← visitExpr fuel base) (← visitExpr fuel key)
    | .paren pos inner => return .paren pos (← visitPlace fuel inner)
    | .ident .. => return e
    | e => visitExpr fuel e

def visitExpr : Nat → Expr → Work Expr
  | 0, e => return e
  | fuel + 1, e =>
    match e with
    | .ident pos id => read pos id
    | .member pos (.ident p id) name => do
      match (← get).properties[id]? with
      | some _ => readMember pos (.ident p id) name
      | none => return .member pos (← read p id) name
    | .assign pos .assign target value => do
      let target ← visitPattern fuel target
      assigned pos target (← visitExpr fuel value)
    | .update pos isBefore op arg => return .update pos isBefore op (← visitPlace fuel arg)
    | .unary pos .delete arg => return .unary pos .delete (← visitPlace fuel arg)
    | .call pos callee args => do
      let callee ← match callee with
        | .ident p id => readCallee p id
        | callee => visitExpr fuel callee
      directCall pos callee (← args.mapM (visitExpr fuel))
    | .seq pos exprs => do merging (Merging.mergeSeq pos (← exprs.mapM (visitExpr fuel)))
    | .cond pos test yes no => do
      let test ← visitExpr fuel test
      let yes ← visitExpr fuel yes
      return chosen pos test yes (← visitExpr fuel no)
    | .function pos (some name) fn => do
      let fn ← visitFunction fuel fn
      return .function pos (if (← usage name).reads = 0 then none else some name) fn
    | .arrow pos isAsync params isExpr body => visitArrow fuel pos isAsync params isExpr body
    | .classExpr .. => fixed (e.mapParts (visitor fuel))
    | e => e.mapParts (visitor fuel)

/-- Names that an expression needs have to be declared in a body with statements. -/
def visitArrow : Nat → Nat → Bool → List Pattern → Bool → List Stmt → Work Expr
  | 0, pos, isAsync, params, isExpr, body => return .arrow pos isAsync params isExpr body
  | fuel + 1, pos, isAsync, params, isExpr, body => do
    let params ← fixed (params.mapM (visitPattern fuel))
    let body ← within ({ · with inLoop := false, canHoist := true }) (visitStmts fuel body)
    match isExpr, body with
    | true, [.ret _ (some _)] => return .arrow pos isAsync params true body
    | _, body => return foldArrow pos isAsync params false (sequenceBody body)

def visitFunction : Nat → Function → Work Function
  | 0, fn => return fn
  | fuel + 1, fn =>
    match fn with
    | .mk pos isAsync isGenerator params body => do
      let params ← fixed (params.mapM (visitPattern fuel))
      let body ← within ({ · with inLoop := false, canHoist := true }) (visitStmts fuel body)
      return .mk pos isAsync isGenerator params (sequenceBody body)

/-- The statements of a list, with the names that they need declared in front of each. -/
def visitStmts : Nat → List Stmt → Work (List Stmt)
  | 0, body => return body
  | fuel + 1, body => do
    let visited ← within ({ · with canHoist := true }) <| body.mapM fun s => do
      let (done, names) ← collecting (visitStmt fuel s)
      return Desk.declaration names ++ done
    finished visited.flatten

def visitDeclarator : Nat → VarKind → Declarator → Work (List Remainder)
  | 0, _, d => return [.declarator d]
  | fuel + 1, kind, .mk pos target value => do
    let target ← visitPattern fuel target
    place kind (.mk pos target (← visitOption (visitExpr fuel) value))

def visitStmt : Nat → Stmt → Work (List Stmt)
  | 0, s => return [s]
  | fuel + 1, s => do
    let inner := visitor fuel
    match s with
    | .declaration pos kind declarators =>
      let remainders ← declarators.mapM (visitDeclarator fuel kind)
      return statements pos kind remainders.flatten
    | .function pos name fn => placeFunction pos name (← visitFunction fuel fn)
    | .classDecl pos name superclass members =>
      let superclass ← visitOption inner.expr superclass
      placeClass pos name superclass (← fixed (members.mapM (·.mapParts inner)))
    | .forLoop pos init test update body =>
      let init ← match init with
        | .function .. => pure init
        | init => init.mapParts inner
      looping do
        let test ← visitOption inner.expr test
        let update ← visitOption inner.expr update
        return [.forLoop pos init test update (sequenceLoop (← inner.stmt body))]
    | .forIn pos kind target init object body =>
      let target ← inner.pattern target
      let init ← visitOption inner.expr init
      let object ← inner.expr object
      let body ← looping (inner.stmt body)
      return [.forIn pos kind target init object (sequenceLoop body)]
    | .forOf pos isAwait kind target iterable body =>
      let target ← inner.pattern target
      let iterable ← inner.expr iterable
      let body ← looping (inner.stmt body)
      return [.forOf pos isAwait kind target iterable (sequenceLoop body)]
    | .whileLoop .. | .doLoop .. => return [← looping (s.mapParts inner)]
    | s => return [(← s.mapParts inner).sequenced]

end

/-- The greatest scope number in a script. -/
def lastScope (statements : List Stmt) : Nat :=
  (Census.take statements).fold (fun n id _ => max n id.scope) 1

/-- Notes the names in the bodies of `with` statements. -/
def withVisitor : Nat → Bool → Visitor (StateM (List Ident))
  | 0, _ => { expr := pure, pattern := pure, function := pure, stmt := pure, stmts := pure }
  | fuel + 1, inside =>
    let visitStmt := fun (s : Stmt) => do
      match s with
      | .withObject pos object body =>
        let object ← (withVisitor fuel inside).expr object
        return .withObject pos object (← (withVisitor fuel true).stmt body)
      | s => s.mapParts (withVisitor fuel inside)
    { expr := (·.mapParts (withVisitor fuel inside))
      pattern := (·.mapParts (withVisitor fuel inside))
      function := (·.mapParts (withVisitor fuel inside))
      stmt := visitStmt
      stmts := (·.mapM visitStmt)
      ident := fun id => do
        if inside then modify (id :: ·)
        return id }

/-- The names in the bodies of `with` statements: each may be that of a property. -/
def namesInWith (statements : List Stmt) : List Ident :=
  (((withVisitor (weightOfStmts statements + 1) false).stmts statements).run []).2

/-- Notes that there may be uses that cannot be seen. -/
def veil (u : Usage) : Usage := { u with reads := u.reads + 2, updates := u.updates + 1 }

/-- The census of a script, with the uses that cannot be seen. -/
def cautiousCensus (statements : List Stmt) : UsageTable :=
  let table := Census.take statements
  if Search.directEval.findsInStmts statements then table.map fun _ u => veil u
  else (namesInWith statements).eraseDups.foldl (fun t id => t.insert id (veil (t.of id))) table

/-- One walk through a script. -/
def round (statements : List Stmt) : List Stmt :=
  let desk : Desk :=
    { table := cautiousCensus statements
      nextScope := lastScope statements + 1
      isVeiled := Search.dynamicNames.findsInStmts statements }
  let fuel := 3 * weightOfStmts statements + 3
  ((do settle (← visitStmts fuel statements) : Work (List Stmt)).run desk).1

end Inline

end BrowserScript.Script
