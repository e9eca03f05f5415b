import BrowserScript.Banner
import BrowserScript.BuildLog
import BrowserScript.Envelope
import BrowserScript.MinifiedScript
import BrowserScript.Script.Printer
import BrowserScript.Script.PureName
import BrowserScript.Script.Renaming
import BrowserScript.Script.Simplify
import BrowserScript.ScriptCheck

/-!
Minification: a script is read, simplified and renamed, and its statements are put into an envelope.
-/

set_option autoImplicit false

namespace BrowserScript

/-- The statements of a script, simplified and renamed. -/
def optimized (statements : List Script.Stmt) : List Script.Stmt :=
  Script.renameScript (Script.simplify (Script.resolveScopes statements))

/-- The text that replaces a script. -/
def minifiedText (statements : List Script.Stmt) : String :=
  Script.printScript (envelope (optimized statements))

/-- The banner stands on lines of its own. -/
def MinifiedScript.ofText (d : BuildDescriptor) (text : String) : MinifiedScript :=
  ⟨d.banner ++ "\n" ++ text⟩

def minify (text : String) (d : BuildDescriptor) : Logged MinifiedScript :=
  (Logged.stage ((readBaselineScript text).map minifiedText) fun output =>
    .minified d.name d.version text.utf8ByteSize output.utf8ByteSize).map (.ofText d)

end BrowserScript
