import BrowserScript.Script.Grammar.Statement

/-!
Whole scripts. The readers of nested constructs are tied together by their depth: a construct is
read by readers that know how to read what is less deep.
-/

set_option autoImplicit false

namespace BrowserScript.Script

/-- Readers for constructs of less than a given depth. -/
def Parts.below : Nat → Parts
  | 0 =>
    { assignment := Reader.raiseEnd
      unary := Reader.raiseEnd
      leftHandSide := Reader.raiseEnd
      callee := Reader.raiseEnd
      statement := fun _ => Reader.raiseEnd
      pattern := fun _ => Reader.raiseEnd }
  | depth + 1 =>
    { assignment := fun s => Reader.readAssignment (below depth) s
      unary := fun s => Reader.readUnary (below depth) s
      leftHandSide := fun s => Reader.readLeftHandSide (below depth) s
      callee := fun s => Reader.readCallee (below depth) s
      statement := fun allowDeclaration s =>
        Reader.readStatement (below depth) allowDeclaration s
      pattern := fun refuseLet s => Reader.readPattern (below depth) refuseLet s }

/-- Reads the statements of a script. -/
def Reader.readScript (parts : Parts) : Reader (List Stmt) :=
  (·.1) <$> readStatements parts true isEof

/-- The characters of a script, without a byte order mark in front. -/
def scriptChars (text : String) : List Char :=
  match text.toList with
  | '\uFEFF' :: rest => rest
  | cs => cs

/-- Every token has a character, and a construct that holds another starts with a token, or stands
between one and its operand. -/
def depthBound (length : Nat) : Nat := 4 * length + 100

/-- Reads a script. The fault that stopped the reading comes before one that did not, and of those
the first one counts. -/
def parse (text : String) : Except Placed (List Stmt) :=
  let chars := scriptChars text
  let state : ReadState :=
    { script := chars, rest := ⟨0, chars⟩, bound := 2 * chars.length + 1 }
  match Reader.readScript (Parts.below (depthBound chars.length)) state with
  | (.error fault, _) => .error fault
  | (.ok statements, state) =>
    match state.faults.getLast? with
    | some fault => .error fault
    | none => .ok statements

end BrowserScript.Script
