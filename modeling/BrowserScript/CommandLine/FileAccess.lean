import BrowserScript.Text

/-!
Reading and writing whole files by path, in any monad that can do it.
-/

set_option autoImplicit false

namespace BrowserScript.CommandLine

/-- Why a file cannot be read or written. -/
inductive AccessError where
  | notFound
  | notADirectory
  | isADirectory
  | nameTooLong
  | notText
  /-- Anything else, in the words of the system. -/
  | other (text : String)
  deriving DecidableEq, Repr

def AccessError.message : AccessError → String
  | .notFound => "No such file or directory (os error 2)"
  | .notADirectory => "Not a directory (os error 20)"
  | .isADirectory => "Is a directory (os error 21)"
  | .nameTooLong => "File name too long (os error 36)"
  | .notText => "stream did not contain valid UTF-8"
  | .other text => text

/-- The two ways in which a build touches files. -/
structure FileAccess (m : Type → Type) where
  read : String → m (Except AccessError ByteArray)
  write : String → ByteArray → m (Except AccessError Unit)

/-- The text that some bytes hold. -/
def textOf (bytes : ByteArray) : Except AccessError String :=
  match String.fromUTF8? bytes with
  | some text => .ok text
  | none => .error .notText

/-- A path below a directory; an absolute path stays what it is. -/
def joinPath (directory path : String) : String :=
  if path.startsWith "/" || directory.isEmpty then path
  else if directory.endsWith "/" then directory ++ path
  else directory ++ "/" ++ path

end BrowserScript.CommandLine
