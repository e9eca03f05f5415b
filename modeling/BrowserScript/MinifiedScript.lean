/-!
The product of a build: the banner and, on the lines below it, the script.
-/

set_option autoImplicit false

namespace BrowserScript

structure MinifiedScript where
  code : String
  deriving DecidableEq, Repr, Inhabited

end BrowserScript
