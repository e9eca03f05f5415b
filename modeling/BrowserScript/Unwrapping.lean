import BrowserScript.BuildLog

/-!
Unwrapping a bundle: its wrapper goes, and `scope` is declared as the global object instead, so
that the starter script placed behind it can see the application.
-/

set_option autoImplicit false

namespace BrowserScript

/-- The global object of a browser. -/
def defaultGlobalObject : String := "window"

/-- The declaration in front of an unwrapped body. -/
def scopeDeclaration (globalObject : String) : String := "var scope = " ++ globalObject ++ ";"

/-- The body of a bundle's wrapper. -/
def bundleBody (bundle : String) : Except BuildError String :=
  match Wrapper.functionBody (Text.dropByteOrderMark bundle.toList) with
  | .ok body => .ok (String.ofList body)
  | .error cause => .error (.malformedBundle cause)

/-- The name of the global object is checked before the bundle is looked at. -/
def bodyFor (bundle globalObject : String) : Except BuildError String :=
  if Text.isIdentifier globalObject then bundleBody bundle
  else .error (.invalidGlobal globalObject)

def unwrap (bundle globalObject : String) : Logged String :=
  (Logged.stage (bodyFor bundle globalObject) fun body =>
    .unwrapped bundle.utf8ByteSize body.utf8ByteSize).map (scopeDeclaration globalObject ++ ·)

end BrowserScript
