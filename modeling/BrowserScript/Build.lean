import BrowserScript.Assembly
import BrowserScript.Minification
import BrowserScript.Unwrapping

/-!
A build: the bundle is unwrapped, the three fragments are joined, and the result is minified. The
first stage that fails ends the build.
-/

set_option autoImplicit false

namespace BrowserScript

/-- The texts a build starts from, in the order in which they run. -/
structure Sources where
  metadata : String
  bundle : String
  starter : String
  deriving DecidableEq, Repr

/-- The script that is minified, made of the three fragments. -/
def assembled (sources : Sources) (globalObject : String) : Logged String :=
  (unwrap sources.bundle globalObject).andThen fun unwrapped =>
    Logged.stage (.ok (assemble sources.metadata unwrapped sources.starter)) fun script =>
      .assembled script.utf8ByteSize

def build (sources : Sources) (d : BuildDescriptor) (globalObject : String) :
    Logged MinifiedScript :=
  (assembled sources globalObject).andThen (minify · d)

end BrowserScript
