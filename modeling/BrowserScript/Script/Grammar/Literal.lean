import BrowserScript.Script.Grammar.Parts

/-!
Literals that are not one token each: templates and regular expressions. Both are read from the
text behind the mark that opens them.
-/

set_option autoImplicit false

namespace BrowserScript.Script.Reader

/-- Puts a token at hand that the reader of literals has found, behind text from `start` on. -/
def settle (start : Nat) (lexeme : Lexeme) : Reader Unit := do
  modify fun s =>
    { s with
      current := some lexeme
      rest := lexeme.after
      previousStart := start
      previousEnd := lexeme.start }

/-- The mark that ends a stretch of template text: a backtick, or the start of a substitution. -/
def chunkEnd (chunk : TemplateChunk) : Lexeme :=
  let mark := if chunk.opensSubstitution then "$\x7b" else "`"
  { token := .mark mark
    after := chunk.after.drop mark.length
    start := chunk.after.pos
    here := chunk.after
    lineBreak := false }

/-- Reads template text behind the token that opens it. A template without a tag refuses an escape
that has no value. -/
def readQuasi (isTagged : Bool) : Reader Quasi := do
  let s ← get
  let start := s.rest
  let chunk := readChunk start
  unless chunk.isClosed do
    modify fun s => { s with rest := chunk.after }
    throw ⟨.unterminatedTemplate, s.templateStart⟩
  settle start.pos (chunkEnd chunk)
  modify fun s => { s with faults := chunk.faults.reverse ++ s.faults }
  match chunk.fault with
  | some fault => unless isTagged do throw fault
  | none => pure ()
  let value := if chunk.fault.isSome then none else some (String.ofList chunk.value)
  return { value, raw := String.ofList chunk.raw }

/-- Reads substitutions, each with the text behind it, up to the end of the template; `bound`
limits their number. -/
def readSubstitutions (parts : Parts) (isTagged : Bool) :
    Nat → Reader (List Quasi × List Expr)
  | 0 => raiseEnd
  | bound + 1 => do
    if ← eatMark "$\x7b" then
      let value ← withIn true (readExpression parts)
      expectMark "\x7d"
      let quasi ← readQuasi isTagged
      let (quasis, values) ← readSubstitutions parts isTagged bound
      return (quasi :: quasis, value :: values)
    else
      expectMark "`"
      return ([], [])

/-- Reads a template from its backtick on. -/
def readTemplate (parts : Parts) (isTagged : Bool) : Reader (List Quasi × List Expr) := do
  advance
  modify fun s => { s with templateStart := s.previousStart }
  let first ← readQuasi isTagged
  let (quasis, values) ← readSubstitutions parts isTagged (← get).bound
  return (first :: quasis, values)

/-- The flags that a regular expression may have. -/
def regexFlags : List Char := ['d', 'g', 'i', 'm', 's', 'u', 'v', 'y']

/-- The first element that occurs again further on. -/
def firstRepeated : List Char → Option Char
  | [] => none
  | c :: rest => if rest.contains c then some c else firstRepeated rest

/-- Text that should have been a regular expression, and is no token. -/
def strayRegex (start : Remaining) (stray : Stray) (after : Remaining) : Lexeme :=
  { token := .stray stray, after, start := start.pos, here := start, lineBreak := false }

/-- A regular expression that is not closed takes the place of all further tokens. -/
def raiseOpenRegex {α : Type} (slash : Nat) (start stop : Remaining) : Reader α := do
  let fault : Placed := ⟨.unterminatedRegex, slash⟩
  settle slash (strayRegex start ⟨fault, stop.pos⟩ stop)
  modify fun s => { s with openRegex := some fault }
  raiseHere .expressionExpected

/-- Notes flags that a regular expression does not have, and flags that it has twice. -/
def checkFlags (pos : Nat) (flags : List Char) : Reader Unit := do
  noteIf (flags.any fun flag => !regexFlags.contains flag) .unknownFlags pos
  match firstRepeated flags with
  | some flag => note (.duplicateFlag flag) pos
  | none => return

/-- Reads a regular expression from its opening slash on, which may have been taken for the mark
of a division. -/
def readRegexLiteral : Reader Expr := do
  let lexeme ← lexeme
  let slash := lexeme.start
  let start := lexeme.here.drop 1
  match readRegex start with
  | .error stop => raiseOpenRegex slash start stop
  | .ok regex =>
    modify fun s => { s with faults := regex.flags.faults.reverse ++ s.faults }
    match regex.flags.fatal with
    | some stray =>
      settle slash (strayRegex start stray regex.flags.after)
      raiseHere .expressionExpected
    | none =>
      modify fun s =>
        { s with
          current := none
          rest := regex.flags.after
          previousStart := start.pos
          previousEnd := regex.flags.after.pos }
      checkFlags slash regex.flags.name
      return .lit slash (.regex (String.ofList regex.pattern) (String.ofList regex.flags.name))

end BrowserScript.Script.Reader
