import BrowserScript.BuildError
import BrowserScript.Script.Baseline
import BrowserScript.Script.Grammar.Document

/-!
Reading the text of a build as a script of the output baseline.
-/

set_option autoImplicit false

namespace BrowserScript

/-- The edition of the language that the output is written in. -/
def baselineName : String := "Es2015"

/-- Reads a script; it may not use anything newer than the baseline. -/
def readBaselineScript (text : String) : Except BuildError (List Script.Stmt) :=
  let position := SourcePosition.ofOffset (Script.scriptChars text)
  match Script.parse text with
  | .error fault => .error (.notAScript fault.fault.message (position fault.pos))
  | .ok statements =>
    match Script.newerInStmts statements with
    | use :: _ => .error (.beyondBaseline use.feature.text (position use.pos))
    | [] => .ok statements

end BrowserScript
