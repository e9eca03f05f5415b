import BrowserScript.Script.Grammar.Document
import BrowserScript.Script.Walk

/-!
The envelope of a script: its statements become the body of one function that is called at once, so
that nothing they declare can be seen by other scripts. The function is read from a text, and a walk
through it puts the statements into the first body that it meets. The walk goes into no function:
those among the statements keep their bodies.
-/

set_option autoImplicit false

namespace BrowserScript

namespace Envelope

open Script

/-- A function that does nothing, called at once. -/
def emptyCall : String := "(function(){})();"

/-- Why there is no envelope. -/
inductive Fault where
  | notAScript (fault : Placed)
  | noFunctionBody

def Fault.message : Fault → String
  | .notAScript fault => fault.fault.message
  | .noFunctionBody => "IIFE envelope has no function body"

/-- A walk with statements that have not been put anywhere yet. -/
abbrev Filling := StateM (Option (List Stmt))

/-- Puts the statements into a function, if they are still there. -/
def fillFunction : Function → Filling Function
  | .mk pos isAsync isGenerator params body => do
    match ← get with
    | some statements =>
      set (none : Option (List Stmt))
      return .mk pos isAsync isGenerator params statements
    | none => return .mk pos isAsync isGenerator params body

def visitor : Nat → Visitor Filling
  | 0 => { expr := pure, pattern := pure, function := pure, stmt := pure, stmts := pure }
  | fuel + 1 =>
    { expr := (·.mapParts (visitor fuel))
      pattern := (·.mapParts (visitor fuel))
      function := fillFunction
      stmt := (·.mapParts (visitor fuel))
      stmts := (·.mapM (·.mapParts (visitor fuel))) }

/-- Puts statements into a script. -/
def fill (script body : List Stmt) : Except Fault (List Stmt) :=
  match ((visitor (2 * weightOfStmts script + 2)).stmts script).run (some body) with
  | (filled, none) => .ok filled
  | (_, some _) => .error .noFunctionBody

/-- Puts statements into a function of their own. -/
def enclose (body : List Stmt) : Except Fault (List Stmt) :=
  match parse emptyCall with
  | .ok script => fill script body
  | .error fault => .error (.notAScript fault)

/-- The call of a function without a name and without parameters. -/
def isEmptyCall : List Stmt → Bool
  | [.expr 0 (.call 0 (.paren 0 (.function 1 none (.mk 1 false false [] []))) [])] => true
  | _ => false

theorem parse_emptyCall :
    parse emptyCall =
      .ok [.expr 0 (.call 0 (.paren 0 (.function 1 none (.mk 1 false false [] []))) [])] := by
  have hshape : (match parse emptyCall with
      | .ok script => isEmptyCall script
      | .error _ => false) = true := by decide +kernel
  split at hshape
  · next script hparse =>
    rw [hparse]
    unfold isEmptyCall at hshape
    split at hshape
    · rfl
    · cases hshape
  · cases hshape

/-- The walk stops at the function: what becomes its body is not looked at. -/
theorem enclose_eq (body : List Stmt) :
    enclose body =
      .ok [.expr 0 (.call 0 (.paren 0 (.function 1 none (.mk 1 false false [] body))) [])] := by
  rw [enclose, parse_emptyCall]
  rfl

end Envelope

/-- Statements in a function of their own, which is called without arguments. -/
def envelope (body : List Script.Stmt) : List Script.Stmt :=
  (Envelope.enclose body).toOption.get (by rw [Envelope.enclose_eq]; rfl)

end BrowserScript
