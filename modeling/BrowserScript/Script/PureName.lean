/-!
The helpers of curried code: `F2` to `F9` make a function of so many arguments, `A2` to `A9` apply
one. Calling them has no effect of its own, so a call whose value is not used can go; its arguments
are still evaluated.
-/

set_option autoImplicit false

namespace BrowserScript.Script

/-- The list is closed, and a call is recognised by the name of its callee alone. -/
def pureNames : List String :=
  ["F2", "F3", "F4", "F5", "F6", "F7", "F8", "F9", "A2", "A3", "A4", "A5", "A6", "A7", "A8", "A9"]

end BrowserScript.Script
