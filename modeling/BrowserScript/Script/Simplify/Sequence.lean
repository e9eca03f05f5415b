import BrowserScript.Script.Simplify.Choice

/-!
Sequences: expressions that follow one another are one expression, which also becomes part of the
head of the statement behind it, and of the value returned. A `return` that can be expressed by a
choice is.
-/

set_option autoImplicit false

namespace BrowserScript.Script

/-- Some expressions and then another one. -/
def after (pending : List Expr) (e : Expr) : Expr :=
  if pending.isEmpty then e else .seq e.pos (pending ++ e.parts)

/-- The expressions that are still to be put somewhere, as a statement. -/
def flushed (pending : List Expr) : List Stmt :=
  match Expr.ofParts ((pending.head?.map (·.pos)).getD 0) pending with
  | some e => [.expr e.pos e]
  | none => []

/-- Puts expressions into the head of a statement, if it has one that is evaluated first. -/
def Stmt.withPending? (pending : List Expr) : Stmt → Option Stmt
  | .ret pos (some value) => some (.ret pos (some (after pending value)))
  | .throwValue pos value => some (.throwValue pos (after pending value))
  | .ifElse pos test yes no => some (.ifElse pos (after pending test) yes no)
  | .switch pos discriminant cases => some (.switch pos (after pending discriminant) cases)
  | .withObject pos object body => some (.withObject pos (after pending object) body)
  | .forLoop pos (.expr p value) test update body =>
    some (.forLoop pos (.expr p (after pending value)) test update body)
  | .forLoop pos (.empty p) test update body =>
    match flushed pending with
    | [init] => some (.forLoop pos init test update body)
    | _ => some (.forLoop pos (.empty p) test update body)
  | .forIn pos kind target none object body =>
    some (.forIn pos kind target none (after pending object) body)
  | .forOf pos isAwait kind target iterable body =>
    some (.forOf pos isAwait kind target (after pending iterable) body)
  | _ => none

/-- Makes sequences of the expressions in a list of statements. -/
def sequenced (pending : List Expr) : List Stmt → List Stmt
  | [] => flushed pending
  | s :: rest =>
    match s.asExpr? with
    | some e => sequenced (pending ++ e.parts) rest
    | none =>
      match s with
      | .function .. => s :: sequenced pending rest
      | s =>
        match s.withPending? pending with
        | some s => s :: sequenced [] rest
        | none => flushed pending ++ s :: sequenced [] rest

/-! ## Returns -/

/-- The value that a `return` gives. -/
def returned (pos : Nat) (value : Option Expr) : Expr := value.getD (.undefined pos)

/-- Joins a statement with the `return` behind it. -/
def joinReturn (s : Stmt) (rest : List Stmt) : List Stmt :=
  match s, rest with
  | .ifElse pos test (.ret p a) none, [.ret q b] =>
    if a.isNone && b.isNone then [.expr pos test, .ret q none]
    else [.ret pos (some (chosen pos test (returned p a) (returned q b)))]
  | .expr pos e, [.ret q (some b)] =>
    if (Stmt.expr pos e).isDirective then [s, .ret q (some b)]
    else [.ret pos (some (after e.parts b))]
  | s, rest => s :: rest

/-- Joins statements from the last to the first. An `else` behind a branch that never goes on is
no part of the choice. -/
def joinReturns (statements : List Stmt) : List Stmt :=
  statements.foldr (fun s rest =>
    match s with
    | .ifElse pos test yes (some no) =>
      if yes.leaves then joinReturn (.ifElse pos test yes none) (no.toList.foldr joinReturn rest)
      else joinReturn s rest
    | s => joinReturn s rest) []

/-- What remains of the statements of a function when the `return` at their end gives nothing. -/
def endBody (statements : List Stmt) : List Stmt :=
  match statements.getLast? with
  | some (.ret _ none) => statements.dropLast
  | some (.ret pos (some (.unary _ .void value))) =>
    statements.dropLast ++ (if value.hasEffect then [.expr pos value] else [])
  | _ => statements

/-- What follows a conditional jump to the end of the list runs only if its test is false. -/
def invertJumps (isJump : Stmt → Bool) : List Stmt → List Stmt
  | [] => []
  | s :: rest =>
    let rest := invertJumps isJump rest
    match s with
    | .ifElse pos test yes none =>
      if !isJump yes then s :: rest
      else if rest.isEmpty then [.expr pos test]
      else if rest.any (·.isBlockBound) then s :: rest
      else [chosenStmt pos test.negatedTest (.ofList pos rest) none]
    | s => s :: rest

def Stmt.isEmptyReturn : Stmt → Bool
  | .ret _ none => true
  | _ => false

def Stmt.isContinue : Stmt → Bool
  | .continueTo _ none => true
  | _ => false

/-! ## All of it -/

/-- The rules for a list of statements, in order. -/
def sequenceList (statements : List Stmt) : List Stmt :=
  sequenced [] (joinReturns (sequenced [] statements))

def sequenceBody (statements : List Stmt) : List Stmt :=
  sequenced [] (endBody (invertJumps Stmt.isEmptyReturn (endBody statements)))

/-- The body of a loop. -/
def sequenceLoop : Stmt → Stmt
  | .block pos body =>
    .ofList pos (sequenced [] (invertJumps Stmt.isContinue (trimmed body)))
  | s => s
where
  /-- A loop goes on at the end of its body anyway. -/
  trimmed (body : List Stmt) : List Stmt :=
    match body.getLast? with
    | some last => if last.isContinue then body.dropLast else body
    | none => body

def Stmt.sequenced : Stmt → Stmt
  | .ifElse pos test yes no => chosenStmt pos test yes no
  | .switch pos discriminant cases => chosenSwitch pos discriminant cases
  | s => s

def sequenceVisitor : Nat → Visitor Id
  | 0 => { expr := pure, pattern := pure, function := pure, stmt := pure, stmts := pure }
  | fuel + 1 =>
    { expr := fun e => do
        match ← e.mapParts (sequenceVisitor fuel) with
        | .arrow pos isAsync params false body =>
          return foldArrow pos isAsync params false (sequenceBody body)
        | e => return e
      pattern := (·.mapParts (sequenceVisitor fuel))
      function := fun f => do
        match ← f.mapParts (sequenceVisitor fuel) with
        | .mk pos isAsync isGenerator params body =>
          return .mk pos isAsync isGenerator params (sequenceBody body)
      stmt := fun s => return (← s.mapParts (sequenceVisitor fuel)).sequenced
      stmts := fun body => do
        return sequenceList (← body.mapM fun s => do
          return (← s.mapParts (sequenceVisitor fuel)).sequenced) }

/-- Makes sequences and choices of the statements of a script. -/
def sequenceScript (statements : List Stmt) : List Stmt :=
  (sequenceVisitor (2 * weightOfStmts statements + 2)).stmts statements

end BrowserScript.Script
