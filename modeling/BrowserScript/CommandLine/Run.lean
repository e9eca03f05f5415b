import BrowserScript.Build
import BrowserScript.CommandLine.Arguments
import BrowserScript.CommandLine.FileAccess

/-!
One run of the command line: three files are read, a build is made of them, and the result is
written. Nothing is written unless all the rest has succeeded.
-/

set_option autoImplicit false

namespace BrowserScript.CommandLine

/-- How a run ends. -/
structure Exit where
  code : UInt32
  output : String := ""
  errors : String := ""
  deriving DecidableEq, Repr

/-- What a run was doing when it failed. -/
inductive Activity where
  | reading (path : String)
  | transforming (path : String)
  | writing (path : String)
  deriving DecidableEq, Repr

def Activity.text : Activity → String
  | .reading path => "Failed to read input file: " ++ path
  | .transforming path => "Failed to transform " ++ path
  | .writing path => "Failed to write minified output to " ++ path

/-- The later lines of a text are set in as well. -/
def indented (text : String) : String := "    " ++ text.replace "\n" "\n    "

def Exit.failure (activity : Activity) (cause : String) : Exit :=
  { code := 1
    errors := "Error: " ++ activity.text ++ "\n\nCaused by:\n" ++ indented cause ++ "\n" }

/-- The name and the version of the program. -/
def programVersion : String := "elmpack 1.0.0"

def Exit.ofStop : Stop → Exit
  | .usage error => { code := 2, errors := "error: " ++ error.message ++ "\n" }
  | .version => { code := 0, output := programVersion ++ "\n" }
  | .help =>
    { code := 0
      output := "Usage: elmpack [OPTIONS] " ++
        String.intercalate " " (Parameter.positional.map Parameter.usage) ++ "\n" }

namespace Request

def descriptor (r : Request) : BuildDescriptor where
  name := r.name
  version := r.version
  additionalInfo := r.additionalInfo
  withCopyright := !r.noCopyright

def metaPath (r : Request) : String := joinPath r.generatedDir r.metaFile

def bundlePath (r : Request) : String := joinPath r.generatedDir r.bundle

def starterPath (r : Request) : String := joinPath r.publicDir r.starter

def outputPath (r : Request) : String := joinPath r.generatedDir r.output

end Request

variable {m : Type → Type} [Monad m]

/-- Reads a text and goes on with it. -/
def withText (files : FileAccess m) (path : String) (next : String → m Exit) : m Exit := do
  match (← files.read path).bind textOf with
  | .ok text => next text
  | .error error => return .failure (.reading path) error.message

/-- Writes the product of a build. -/
def writeScript (files : FileAccess m) (path : String) (script : MinifiedScript) : m Exit := do
  match ← files.write path script.code.toUTF8 with
  | .ok () => return { code := 0 }
  | .error error => return .failure (.writing path) error.message

def Request.perform (files : FileAccess m) (r : Request) : m Exit :=
  withText files r.metaPath fun metadata =>
  withText files r.bundlePath fun bundle =>
  withText files r.starterPath fun starter =>
    match (build { metadata, bundle, starter } r.descriptor r.globalObject).outcome with
    | .ok script => writeScript files r.outputPath script
    | .error error => return .failure (.transforming r.bundlePath) error.message

def run (files : FileAccess m) (args : List String) : m Exit :=
  match Request.ofArguments defaultGlobalObject args with
  | .ok request => request.perform files
  | .error stop => return .ofStop stop

end BrowserScript.CommandLine
