/-!
The provenance banner: a block comment with the name, version and build information of an
application, put in front of its script.
-/

set_option autoImplicit false

namespace BrowserScript

/-- Year printed in the copyright line. -/
def copyrightYear : Nat := 2025

/-- What is stamped on the output; it never takes part in the program. -/
structure BuildDescriptor where
  name : String
  version : String
  additionalInfo : String
  withCopyright : Bool := true
  deriving DecidableEq, Repr, Inhabited

namespace BuildDescriptor

/-- The copyright form writes the version as `v.1.0`, the plain form as `v1.0`. -/
def versionMark (d : BuildDescriptor) : String := if d.withCopyright then "v." else "v"

def copyrightLines (d : BuildDescriptor) : String :=
  if d.withCopyright then " *  Copyright (c) " ++ toString copyrightYear ++ "\n *\n" else ""

def banner (d : BuildDescriptor) : String :=
  "/***\n *\n *  " ++ d.name ++ " " ++ d.versionMark ++ d.version ++
    "\n *\n *  " ++ d.additionalInfo ++ "\n *\n" ++ d.copyrightLines ++ " ***/"

end BuildDescriptor

end BrowserScript
