import BrowserScript.Script.Scope
import BrowserScript.Script.Simplify.Inline
import BrowserScript.Script.Simplify.Spelling
import BrowserScript.Script.Simplify.Sweep
import BrowserScript.Script.Simplify.Unused

/-!
Simplification: a script becomes a shorter one that does the same. What nothing reads goes first;
then the script is tidied and walked through twice, and tidied again. At the end values and
declarations get their shortest spelling.
-/

set_option autoImplicit false

namespace BrowserScript.Script

/-- A list with nothing but the directive does nothing. -/
def withoutIdleDirective (statements : List Stmt) : List Stmt :=
  if statements.all (·.isDirective) then [] else statements

/-- The short form of a script whose names carry their scopes. -/
def simplify (statements : List Stmt) : List Stmt :=
  let used := dropUnused statements
  let first := Inline.round (tidy false used)
  let second := Inline.round (tidy true first)
  let third := swept (tidy true (withoutConstants second))
  withoutIdleDirective (spelled (tidy true (sequenceScript third)))

end BrowserScript.Script
