import BrowserScript.Script.Simplify.Tidy

/-!
Choices: a statement that chooses between expressions is an expression that chooses, and a `switch`
of one or two cases is a choice. What both sides of a choice do is done once.
-/

set_option autoImplicit false

namespace BrowserScript.Script

/-- The expression of a statement that is nothing else. -/
def Stmt.asExpr? : Stmt → Option Expr
  | .expr pos value => if (Stmt.expr pos value).isDirective then none else some value
  | _ => none

/-- The last of some expressions is replaced, and those in front of it are kept. -/
def withLast (pos : Nat) (e : Expr) (f : Expr → Expr) : Expr :=
  match e.parts.getLast? with
  | none => f e
  | some last => (Expr.ofParts pos (e.parts.dropLast ++ (f last).parts)).getD (f last)

/-- A choice between two expressions. Two assignments to one name are one assignment of a choice,
and two calls of one function are one call, unless the test may change what is called. -/
def chosen (pos : Nat) (test yes no : Expr) : Expr :=
  withLast pos test fun test =>
    match yes, no with
    | .assign _ .assign (.ident p a) x, .assign _ .assign (.ident _ b) y =>
      if a = b then .assign pos .assign (.ident p a) (foldCond pos test x y)
      else foldCond pos test yes no
    | .call _ (.ident p a) [x], .call _ (.ident _ b) [y] =>
      if a = b && !test.hasEffect && !x.isSpread && !y.isSpread then
        .call pos (.ident p a) [foldCond pos test x y]
      else foldCond pos test yes no
    | _, _ => foldCond pos test yes no

/-- An expression that is evaluated only if a test is true. -/
def onlyIf (pos : Nat) (test value : Expr) : Expr :=
  withLast pos test fun test => guarded pos .and test value

/-- A conditional statement in its simplest form. -/
def chosenStmt (pos : Nat) (test : Expr) (yes : Stmt) (no : Option Stmt) : Stmt :=
  match yes, no with
  | .ifElse _ inner yes none, none => plain (.binary pos .and test inner) yes none
  | yes, no => plain test yes no
where
  plain (test : Expr) (yes : Stmt) (no : Option Stmt) : Stmt :=
    match yes.asExpr?, no, no.bind (·.asExpr?) with
    | some yes, none, _ => .expr pos (onlyIf pos test yes)
    | some yes, some _, some no => .expr pos (chosen pos test yes no)
    | _, _, _ =>
      match yes, no with
      | .ret _ (some a), some (.ret _ (some b)) => .ret pos (some (chosen pos test a b))
      | yes, some no =>
        match test with
        | .unary _ .bang test => .ifElse pos test no (some yes)
        | test => .ifElse pos test yes (some no)
      | yes, none => .ifElse pos test yes none

/-! ## Switches -/

/-- A jump out of the statement around it that has no label. -/
def Search.breaks : Search where
  stmt
    | .breakTo _ none => true
    | _ => false
  intoFunctions := false
  intoArrows := false

def Stmt.isBreak : Stmt → Bool
  | .breakTo _ none => true
  | _ => false

/-- The statements of a case in front of the jump that ends it. -/
def caseBody (body : List Stmt) : List Stmt :=
  match body.getLast? with
  | some last => if last.isBreak then body.dropLast else body
  | none => body

/-- Does a case do nothing, not even in its test? -/
def Case.isIdle : Case → Bool
  | .mk test [] => !test.any Expr.hasEffect
  | _ => false

def Case.isDefault : Case → Bool
  | .mk none _ => true
  | _ => false

/-- Without the cases at the end that do nothing. The last case needs no jump behind it. -/
def trimCases : Nat → List Case → List Case
  | 0, cases => cases
  | fuel + 1, cases =>
    match cases.getLast? with
    | none => []
    | some (.mk test body) =>
      let last := Case.mk test (caseBody body)
      if last.isIdle then trimCases fuel cases.dropLast else cases.dropLast ++ [last]

/-- Cases in front of the default that only go on to it need not be told apart from it. -/
def withoutIdleCases (cases : List Case) : List Case :=
  let front := cases.takeWhile (!·.isDefault)
  (front.reverse.dropWhile (·.isIdle)).reverse ++ cases.dropWhile (!·.isDefault)

def canSwitchAway (body : List Stmt) : Bool :=
  !Search.breaks.findsInStmts body && !body.any (·.isBlockBound)

/-- Does a case end without going on to the next one? -/
def isClosed (body : List Stmt) : Bool :=
  match body.getLast? with
  | some last => last.leaves
  | none => false

def chosenSwitch (pos : Nat) (discriminant : Expr) (cases : List Case) : Stmt :=
  let told := if cases.any (·.isDefault) then withoutIdleCases cases else cases
  let cases := trimCases told.length told
  match cases with
  | [] => .expr pos discriminant
  | [.mk none body] =>
    if canSwitchAway body then .ofList pos (.expr pos discriminant :: body)
    else .switch pos discriminant cases
  | [.mk (some test) body] =>
    if canSwitchAway body then
      chosenStmt pos (foldBinary pos .strictEq discriminant test) (.ofList pos body) none
    else .switch pos discriminant cases
  | [.mk (some test) first, .mk none second] | [.mk none second, .mk (some test) first] =>
    let ordered := match cases with
      | .mk (some _) _ :: _ => isClosed first
      | _ => isClosed second
    if ordered && canSwitchAway (caseBody first) && canSwitchAway (caseBody second) then
      let no := caseBody second
      chosenStmt pos (foldBinary pos .strictEq discriminant test) (.ofList pos (caseBody first))
        (if no.isEmpty then none else some (.ofList pos no))
    else .switch pos discriminant cases
  | cases => .switch pos discriminant cases

end BrowserScript.Script
