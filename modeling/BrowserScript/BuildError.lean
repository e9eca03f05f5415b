import BrowserScript.SourcePosition
import BrowserScript.Wrapper.Body

/-!
Everything that can stop a build, with the wording of each cause.
-/

set_option autoImplicit false

namespace BrowserScript

inductive BuildError where
  /-- The bundle is not one self-invoking function. -/
  | malformedBundle (cause : Wrapper.ShapeError)
  /-- The name of the global object is not an identifier. -/
  | invalidGlobal (name : String)
  /-- The assembled text is not a script. -/
  | notAScript (reason : String) (position : SourcePosition)
  /-- The script uses something that browsers of the output baseline do not know. -/
  | beyondBaseline (feature : String) (position : SourcePosition)
  deriving DecidableEq, Repr

def BuildError.message : BuildError → String
  | .malformedBundle cause => "Malformed bundle shape: " ++ cause.message
  | .invalidGlobal name => "Invalid global object handle: `" ++ name ++ "`"
  | .notAScript reason position => "SyntaxError: " ++ reason ++ " " ++ position.text
  | .beyondBaseline feature position =>
    "Unsupported syntax: " ++ feature ++ " is not available in ES2015 " ++ position.text

end BrowserScript
