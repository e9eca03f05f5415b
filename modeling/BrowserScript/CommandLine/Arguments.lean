/-!
The arguments of the command line. Six values come in a fixed order; four options may stand
anywhere between them, each at most once, and one flag leaves the copyright line out. What follows
`--` is a value even if it starts with a hyphen.

An argument is checked when the next one that is known begins, or at the end. An unknown argument
is therefore reported before the fault of the argument in front of it.
-/

set_option autoImplicit false

namespace BrowserScript.CommandLine

/-- What can be given a value. -/
inductive Parameter where
  | name
  | version
  | additionalInfo
  | bundle
  | starter
  | output
  | generatedDir
  | publicDir
  | metaFile
  | globalObject
  deriving DecidableEq, Repr

namespace Parameter

/-- The parameters that are given by position. -/
def positional : List Parameter := [.name, .version, .additionalInfo, .bundle, .starter, .output]

def options : List Parameter := [.generatedDir, .publicDir, .metaFile, .globalObject]

/-- How a parameter is called in a message. -/
def usage : Parameter → String
  | .name => "<NAME>"
  | .version => "<VERSION>"
  | .additionalInfo => "<ADDITIONAL_INFO>"
  | .bundle => "<BUNDLE>"
  | .starter => "<STARTER>"
  | .output => "<OUTPUT>"
  | .generatedDir => "--generated-dir <GENERATED_DIR>"
  | .publicDir => "--public-dir <PUBLIC_DIR>"
  | .metaFile => "--meta-file <META_FILE>"
  | .globalObject => "--global-object <GLOBAL_OBJECT>"

/-- What introduces the value of an option. -/
def optionText : Parameter → String
  | .generatedDir => "--generated-dir"
  | .publicDir => "--public-dir"
  | .metaFile => "--meta-file"
  | .globalObject => "--global-object"
  | _ => ""

/-- A path may not be empty. -/
def isPath : Parameter → Bool
  | .name | .version | .additionalInfo | .globalObject => false
  | _ => true

def ofOptionText? (text : String) : Option Parameter := options.find? (·.optionText = text)

end Parameter

inductive UsageError where
  | missingArguments
  | unexpectedArgument (text : String)
  | missingValue (parameter : Parameter)
  | repeated (usage : String)
  | unexpectedValue (value flag : String)
  deriving DecidableEq, Repr

def UsageError.message : UsageError → String
  | .missingArguments => "the following required arguments were not provided:"
  | .unexpectedArgument text => "unexpected argument '" ++ text ++ "' found"
  | .missingValue parameter =>
    "a value is required for '" ++ parameter.usage ++ "' but none was supplied"
  | .repeated usage => "the argument '" ++ usage ++ "' cannot be used multiple times"
  | .unexpectedValue value flag =>
    "unexpected value '" ++ value ++ "' for '" ++ flag ++ "' found; no more were expected"

/-- Why no build is started. -/
inductive Stop where
  | usage (error : UsageError)
  | version
  | help
  deriving DecidableEq, Repr

/-- What has been read so far. The last parameter waits for its check, and maybe for its value. -/
structure Reading where
  values : List (Parameter × String) := []
  noCopyright : Bool := false
  pending : Option (Parameter × Option String) := none
  /-- The parameters that are still to be given by position. -/
  missing : List Parameter := Parameter.positional

namespace Reading

/-- Checks the last parameter. -/
def settle (r : Reading) : Except Stop Reading :=
  match r.pending with
  | none => .ok r
  | some (parameter, none) => .error (.usage (.missingValue parameter))
  | some (parameter, some value) =>
    if r.values.any (·.1 = parameter) then .error (.usage (.repeated parameter.usage))
    else if parameter.isPath && value.isEmpty then .error (.usage (.missingValue parameter))
    else .ok { r with values := r.values ++ [(parameter, value)], pending := none }

/-- A value that stands on its own. -/
def position (r : Reading) (value : String) : Except Stop Reading :=
  match r.missing with
  | [] => .error (.usage (.unexpectedArgument value))
  | parameter :: missing => do
    let r ← r.settle
    return { r with pending := some (parameter, some value), missing }

def flag (r : Reading) : Except Stop Reading := do
  let r ← r.settle
  if r.noCopyright then .error (.usage (.repeated "--no-copyright"))
  else return { r with noCopyright := true }

/-- A word that starts with two hyphens, and its value if it has one. -/
def long (r : Reading) (text : String) (value : Option String) : Except Stop Reading :=
  match Parameter.ofOptionText? text, value with
  | some parameter, some value => do
    let r ← r.settle
    { r with pending := some (parameter, some value) }.settle
  | some parameter, none => do
    let r ← r.settle
    return { r with pending := some (parameter, none) }
  | none, some value =>
    if text = "--no-copyright" || text = "--version" || text = "--help" then
      .error (.usage (.unexpectedValue value text))
    else .error (.usage (.unexpectedArgument text))
  | none, none =>
    if text = "--no-copyright" then r.flag
    else if text = "--version" then do
      let _ ← r.settle
      .error .version
    else if text = "--help" then do
      let _ ← r.settle
      .error .help
    else .error (.usage (.unexpectedArgument text))

/-- A word that starts with one hyphen. -/
def short (r : Reading) (letter : Char) : Except Stop Reading :=
  if letter = 'V' then do
    let _ ← r.settle
    .error .version
  else if letter = 'h' then do
    let _ ← r.settle
    .error .help
  else .error (.usage (.unexpectedArgument (String.ofList ['-', letter])))

/-- Cuts a word at its first equals sign. -/
def cutAtEquals (word : List Char) : String × Option String :=
  match word.dropWhile (· ≠ '=') with
  | [] => (String.ofList word, none)
  | _ :: value => (String.ofList (word.takeWhile (· ≠ '=')), some (String.ofList value))

/-- One argument in front of `--`. -/
def argument (r : Reading) (text : String) : Except Stop Reading :=
  match text.toList with
  | '-' :: '-' :: _ => let (word, value) := cutAtEquals text.toList; r.long word value
  | '-' :: letter :: _ => r.short letter
  | _ =>
    match r.pending with
    | some (parameter, none) => .ok { r with pending := some (parameter, some text) }
    | _ => r.position text

def arguments (r : Reading) : List String → Except Stop Reading
  | [] => .ok r
  | text :: rest =>
    if text = "--" then rest.foldlM position r
    else do (← r.argument text).arguments rest

def valueOf (r : Reading) (parameter : Parameter) (fallback : String) : String :=
  ((r.values.find? (·.1 = parameter)).map (·.2)).getD fallback

end Reading

/-- What a build is asked for. -/
structure Request where
  name : String
  version : String
  additionalInfo : String
  bundle : String
  starter : String
  output : String
  generatedDir : String
  publicDir : String
  metaFile : String
  globalObject : String
  noCopyright : Bool
  deriving DecidableEq, Repr

/-- Reads the arguments; the default for the global object is given. -/
def Request.ofArguments (globalObject : String) (args : List String) : Except Stop Request := do
  let r ← Reading.arguments {} args
  let r ← r.settle
  match r.missing with
  | _ :: _ => .error (.usage .missingArguments)
  | [] => return {
      name := r.valueOf .name "", version := r.valueOf .version ""
      additionalInfo := r.valueOf .additionalInfo "", bundle := r.valueOf .bundle ""
      starter := r.valueOf .starter "", output := r.valueOf .output ""
      generatedDir := r.valueOf .generatedDir "build-generated"
      publicDir := r.valueOf .publicDir "public"
      metaFile := r.valueOf .metaFile "GENERATED-meta.js"
      globalObject := r.valueOf .globalObject globalObject
      noCopyright := r.noCopyright }

end BrowserScript.CommandLine
