import BrowserScript.Script.Simplify.Block
import BrowserScript.Script.Simplify.Fold

/-!
Tidying: every node of a script gets its simplest form, from the inside to the outside, by rules
that look at the node alone. Which binding a name belongs to plays no part here.
-/

set_option autoImplicit false

namespace BrowserScript.Script

/-- Without the empty statement in an `else`. -/
def branchOf : Option Stmt → Option Stmt
  | some s => if s.isEmpty then none else some s
  | none => none

/-- Is there a jump out of the statement itself, or on to its next turn? -/
def Search.jumps : Search where
  stmt
    | .breakTo .. | .continueTo .. => true
    | _ => false
  intoFunctions := false
  intoArrows := false

def tidyIf (pos : Nat) (test : Expr) (yes : Stmt) (no : Option Stmt) : Stmt :=
  match test.truthy? with
  | some value =>
    let (taken, left) := if value then (some yes, no) else (no, some yes)
    .ofList pos (test.effects.map (.expr pos ·) ++ remains left.toList ++
      taken.toList.flatMap (·.toList))
  | none =>
    match test.asTest, yes, branchOf no with
    | test, .empty _, none => .expr pos test
    | test, .empty _, some no => .ifElse pos test.negatedTest no none
    | test, yes, no => .ifElse pos test yes no

/-- A loop whose body starts with a conditional jump out of it has the jump in its test. -/
def withTest (pos : Nat) (init : Stmt) (test update : Option Expr) (body : Stmt) : Stmt :=
  match body with
  | .ifElse _ leave (.breakTo _ none) no =>
    .forLoop pos init (joined leave) update (no.getD (.empty pos))
  | .block p (.ifElse _ leave (.breakTo _ none) none :: rest) =>
    .forLoop pos init (joined leave) update (.ofList p rest)
  | body => .forLoop pos init test update body
where
  /-- The loop goes on as long as both tests say so. -/
  joined (leave : Expr) : Option Expr :=
    match test with
    | some test => some (.binary pos .and test leave.negatedTest)
    | none => some leave.negatedTest

def tidyFor (pos : Nat) (init : Stmt) (test update : Option Expr) (body : Stmt) : Stmt :=
  match test with
  | none => withTest pos init none update body
  | some test =>
    match test.truthy?, test.hasEffect with
    | some true, false => withTest pos init none update body
    | some false, false => .ofList pos (init.toList ++ remains [body])
    | _, _ => withTest pos init (some test.asTest) update body

def tidyDo (pos : Nat) (body : Stmt) (test : Expr) : Stmt :=
  match test.truthy?, test.hasEffect with
  | some true, false =>
    if Search.jumps.findsInStmt body then .doLoop pos body test
    else .forLoop pos (.empty pos) none none body
  | some false, false =>
    if Search.jumps.findsInStmt body then .doLoop pos body test else .ofList pos body.toList
  | _, _ => .doLoop pos body test.asTest

/-- A protected block without statements protects nothing. -/
def tidyTry (pos : Nat) (block : List Stmt) (catchPos : Option Nat) (param : Option Pattern)
    (handler : List Stmt) (hasFinally : Bool) (finalizer : List Stmt) : Stmt :=
  if block.isEmpty then .ofList pos (remains handler ++ finalizer)
  else if hasFinally && finalizer.isEmpty && catchPos.isSome then
    .tryBlock pos block catchPos param handler false []
  else .tryBlock pos block catchPos param handler hasFinally finalizer

/-- A jump to a label. -/
def Search.jumpsTo (label : String) : Search where
  stmt
    | .breakTo _ target | .continueTo _ target => target = some label
    | _ => false
  intoFunctions := false
  intoArrows := false

/-- Does a statement do nothing but jump to a label? -/
def Stmt.isJumpTo (label : String) : Stmt → Bool
  | .breakTo _ target => target = some label
  | .block _ (.breakTo _ target :: _) => target = some label
  | _ => false

/-- A label that no jump uses can go. -/
def tidyLabel (pos : Nat) (label : String) (body : Stmt) : Stmt :=
  if body.isJumpTo label then .ofList pos (remains [body])
  else if (Search.jumpsTo label).findsInStmt body then .labeled pos label body
  else .ofList pos body.toList

/-- The simplest form of a statement whose parts are simple. -/
def Stmt.tidied : Stmt → Stmt
  | .expr pos e =>
    if (Stmt.expr pos e).isDirective then .expr pos e
    else match Expr.ofParts pos e.effects with
      | some e => .expr pos e
      | none => .empty pos
  | .debugger pos => .empty pos
  | .block pos body => .ofList pos (Stmt.block pos body).toList
  | .whileLoop pos test body => tidyFor pos (.empty pos) (some test) none body
  | .forLoop pos init test update body => tidyFor pos init test update body
  | .doLoop pos body test => tidyDo pos body test
  | .ifElse pos test yes no => tidyIf pos test yes no
  | .tryBlock pos body catchPos param handler hasFinally finalizer =>
    tidyTry pos body catchPos param handler hasFinally finalizer
  | .labeled pos label body => tidyLabel pos label body
  | .classDecl pos name superclass members =>
    .classDecl pos name superclass (members.map (·.short))
  | .ret pos (some e) => .ret pos (if e.known? == some .undefined then none else some e)
  | .declaration pos kind declarators =>
    .declaration pos kind (declarators.map fun
      | .mk pos target value =>
        match kind, target, value with
        | .var, _, value | .const, _, value => .mk pos target value
        | .letVar, .ident _ _, some value =>
          .mk pos target (if value.known? == some .undefined then none else some value)
        | .letVar, _, value => .mk pos target value)
  | s => s

mutual

/-- Tidies the parts of a node. -/
def tidyVisitor (joining : Bool) : Nat → Visitor Id
  | 0 => { expr := pure, pattern := pure, function := pure, stmt := pure, stmts := pure }
  | fuel + 1 =>
    { expr := tidyExpr joining fuel
      pattern := fun
        | .expr target => return .expr (← tidyPlace joining fuel target)
        | p => p.mapParts (tidyVisitor joining fuel)
      function := (·.mapParts (tidyVisitor joining fuel))
      stmt := fun s => return (← s.mapParts (tidyVisitor joining fuel)).tidied
      stmts := fun body => do
        let body ← body.mapM fun s => return (← s.mapParts (tidyVisitor joining fuel)).tidied
        return tidyList joining body }

def tidyExpr (joining : Bool) : Nat → Expr → Id Expr
  | 0, e => e
  | fuel + 1, e =>
    match e with
    | .call pos callee args => do
      return foldCall pos (← tidyPlace joining fuel callee) (← args.mapM (tidyExpr joining fuel))
    | .tagged pos tag quasis values => do
      return .tagged pos (← tidyPlace joining fuel tag) quasis
        (← values.mapM (tidyExpr joining fuel))
    | .update pos isBefore op arg => do
      return .update pos isBefore op (← tidyPlace joining fuel arg)
    | .unary pos .delete arg => do return .unary pos .delete (← tidyPlace joining fuel arg)
    | e => do return (← e.mapParts (tidyVisitor joining fuel)).folded

/-- Tidies an expression that is called, assigned to or deleted: it has to stay a member of the
same object. -/
def tidyPlace (joining : Bool) : Nat → Expr → Id Expr
  | 0, e => e
  | fuel + 1, e =>
    match e with
    | .ident pos id => pure (.ident pos id)
    | .member pos base name => return .member pos (← tidyExpr joining fuel base) name
    | .index pos base key => do
      let base ← tidyExpr joining fuel base
      let key ← tidyExpr joining fuel key
      match key.string? with
      | some text =>
        if isPropertyName true text then return .member pos base text
        else match wholeNumber? text with
          | some value => return .index pos base (.lit pos (.number value))
          | none => return .index pos base key
      | none => return .index pos base key
    | .paren pos inner => return .paren pos (← tidyPlace joining fuel inner)
    | .seq pos exprs => do
      match exprs.getLast? with
      | some last =>
        if last.isMemberOrEval then
          let first := effectsOf (← exprs.dropLast.mapM (tidyExpr joining fuel))
          let last ← tidyPlace joining fuel last
          return .seq pos ((if first.isEmpty then [.lit pos (.number 0)] else first) ++ [last])
        else tidyExpr joining fuel e
      | none => return e
    | e => tidyExpr joining fuel e

end

/-- Tidies a script. -/
def tidy (joining : Bool) (statements : List Stmt) : List Stmt :=
  (tidyVisitor joining (2 * weightOfStmts statements + 2)).stmts statements

end BrowserScript.Script
