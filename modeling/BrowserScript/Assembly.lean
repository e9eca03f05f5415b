/-!
Joining the three fragments of a build into one script text.
-/

set_option autoImplicit false

namespace BrowserScript

/-- Stands between two fragments, so that the first need not end its last statement. -/
def statementSeparator : String := ";"

/-- Later fragments use bindings of earlier ones, so the order is fixed. -/
def assemble (metadata bundle starter : String) : String :=
  metadata ++ statementSeparator ++ bundle ++ statementSeparator ++ starter

end BrowserScript
