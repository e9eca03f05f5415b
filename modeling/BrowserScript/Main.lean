import BrowserScript.CommandLine.Run

/-!
The program: the command line on the files of the system.
-/

set_option autoImplicit false

namespace BrowserScript.CommandLine

/-- Puts a fault of the system into words. -/
def AccessError.ofSystem : IO.Error → AccessError
  | .noFileOrDirectory .. => .notFound
  | .inappropriateType _ code _ => if code = 20 then .notADirectory else .isADirectory
  | .invalidArgument _ 36 _ => .nameTooLong
  | error => .other error.toString

/-- The files of the system. -/
def systemFiles : FileAccess IO where
  read path := do
    try return .ok (← IO.FS.readBinFile path)
    catch error => return .error (.ofSystem error)
  write path bytes := do
    try
      IO.FS.writeBinFile path bytes
      return .ok ()
    catch error => return .error (.ofSystem error)

end BrowserScript.CommandLine

def main (args : List String) : IO UInt32 := do
  let exit ← BrowserScript.CommandLine.run BrowserScript.CommandLine.systemFiles args
  (← IO.getStdout).putStr exit.output
  (← IO.getStderr).putStr exit.errors
  return exit.code
