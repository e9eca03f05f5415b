import BrowserScript.Script.Token.Description
import BrowserScript.Script.Token.Lexeme
import BrowserScript.Script.Tree

/-!
The state of reading a script: the token at hand, the faults noted so far, and what the
constructs around the place allow. A fault that is noted lets reading go on; one that is raised
stops it.
-/

set_option autoImplicit false

namespace BrowserScript.Script

/-- What the constructs around a place allow or demand. -/
structure Context extends Surroundings where
  inFunction : Bool := false
  inParams : Bool := false
  /-- Inside the parameters or body of a function that is no arrow. -/
  inOrdinaryFunction : Bool := false
  inClass : Bool := false
  /-- Inside the value of a field, where no function of its own stands around. -/
  inField : Bool := false
  /-- `in` is an operator here. -/
  allowIn : Bool := false
  allowBreak : Bool := false
  allowContinue : Bool := false
  allowSuper : Bool := false
  inLoopHead : Bool := false
  inAwaitLoopHead : Bool := false
  /-- Outside every block and every function body. -/
  isTop : Bool := true
  deriving DecidableEq, Repr, Inhabited

/-- A token is read when it is first looked at, by the rules that hold then. -/
structure ReadState where
  /-- The whole script. -/
  script : List Char
  /-- What is left behind the last token that has been read. -/
  rest : Remaining
  /-- The token at hand, if it has been read. -/
  current : Option Lexeme := none
  /-- The token behind it, if that has been read. -/
  next : Option Lexeme := none
  /-- A regular expression that is not closed; in its place no other token is found. -/
  openRegex : Option Placed := none
  /-- Where the token before starts and ends. -/
  previousStart : Nat := 0
  previousEnd : Nat := 0
  context : Context := {}
  /-- Faults noted so far, the last one first. -/
  faults : List Placed := []
  /-- Where an expression starts that may turn out to be the head of an arrow function. -/
  arrowStart : Option Nat := none
  labels : List String := []
  /-- Commas that end a list, by the place where the list starts. -/
  trailingCommas : List (Nat × Nat) := []
  /-- Where the last template starts. -/
  templateStart : Nat := 0
  /-- An upper bound for the number of tokens. -/
  bound : Nat
  deriving Repr, Inhabited

/-- The token at the start of what is left. -/
def ReadState.readLexeme (s : ReadState) : Lexeme :=
  match s.openRegex with
  | some fault =>
    { token := .stray ⟨fault, s.rest.pos⟩
      after := s.rest
      start := s.rest.pos
      here := s.rest
      lineBreak := false }
  | none => nextLexeme s.context.toSurroundings (s.rest.pos = 0) s.rest

abbrev Reader := ExceptT Placed (StateM ReadState)

namespace Reader

def context : Reader Context := return (← get).context

/-- Reads the token at the start of what is left and notes its faults. -/
def readLexeme : Reader Lexeme := do
  let s ← get
  let lexeme := s.readLexeme
  set { s with rest := lexeme.after, faults := lexeme.faults.reverse ++ s.faults }
  return lexeme

/-- Keeps a token that is not the end of the text. -/
def keep? (lexeme : Lexeme) : Option Lexeme :=
  match lexeme.token with
  | .eof => none
  | _ => some lexeme

/-- The token at hand. -/
def lexeme : Reader Lexeme := do
  match (← get).current with
  | some lexeme => return lexeme
  | none =>
    let lexeme ←
      match (← get).next with
      | some lexeme => pure lexeme
      | none => readLexeme
    modify fun s => { s with current := keep? lexeme, next := none }
    return lexeme

def token : Reader Token := return (← lexeme).token

/-- Does a line break, or the end of the text, stand before the next token? -/
def lineBreak : Reader Bool := do
  let lexeme ← lexeme
  match lexeme.token with
  | .eof => return true
  | _ => return lexeme.lineBreak

/-- Where the token at hand starts; where none has been read, the token before it. -/
def tokenStart : Reader Nat := do
  let s ← get
  match s.current with
  | some lexeme => return lexeme.start
  | none => return s.previousStart

/-- Where the next node starts; at the end of the text, where the last token ends. -/
def here : Reader Nat := do
  let lexeme ← lexeme
  match lexeme.token with
  | .eof => return (← get).previousEnd
  | _ => return lexeme.start

def previousStart : Reader Nat := return (← get).previousStart

/-- Goes on behind the token at hand. -/
def advance : Reader Unit := do
  let lexeme ← lexeme
  modify fun s =>
    { s with current := none, previousStart := lexeme.start, previousEnd := lexeme.after.pos }

/-- The token behind the current one. -/
def peek : Reader Lexeme := do
  let _ ← lexeme
  match (← get).next with
  | some lexeme => return lexeme
  | none =>
    let lexeme ← readLexeme
    modify fun s => { s with next := keep? lexeme }
    return lexeme

def isMark (mark : String) : Reader Bool := return (← token).isMark mark

def isWord (word : String) : Reader Bool := return (← token).isWord word

def isEof : Reader Bool := do
  match ← token with
  | .eof => return true
  | _ => return false

def eatMark (mark : String) : Reader Bool := do
  if ← isMark mark then
    advance
    return true
  else return false

def eatWord (word : String) : Reader Bool := do
  if ← isWord word then
    advance
    return true
  else return false

/-- Goes on behind text that is no token, and answers with its fault. -/
def passStray : Reader (Option Placed) := do
  match ← token with
  | .stray stray =>
    advance
    return some stray.placed
  | _ => return none

/-- Notes a fault. Text at hand that is no token comes first. -/
def note (fault : Fault) (pos : Nat) : Reader Unit := do
  let stray ← passStray
  modify fun s => { s with faults := ⟨fault, pos⟩ :: (stray.toList ++ s.faults) }

def noteIf (condition : Bool) (fault : Fault) (pos : Nat) : Reader Unit :=
  if condition then note fault pos else pure ()

/-- Raises a fault. Text at hand that is no token is passed and noted. -/
def raise {α : Type} (fault : Fault) (pos : Nat) : Reader α := do
  match ← passStray with
  | some stray => note stray.fault stray.pos
  | none => pure ()
  throw ⟨fault, pos⟩

/-- Raises that the text ends too early. -/
def raiseEnd {α : Type} : Reader α := do throw ⟨.unexpectedEnd, (← get).script.length⟩

/-- Raises a fault at the current token. -/
def raiseHere {α : Type} (fault : Fault) : Reader α := do raise fault (← tokenStart)

/-- Refuses the end of the text, and text that is no token. -/
def demandToken : Reader Unit := do
  match ← token with
  | .eof => raiseEnd
  | .stray stray =>
    advance
    throw stray.placed
  | _ => return

/-- How messages name the token at hand. -/
def described : Reader String := return (← token).description (← get).script

def raiseUnexpected {α : Type} (wanted : String) : Reader α := do
  let got ← described
  raiseHere (.unexpected got wanted)

def raiseExpected {α : Type} (wanted : String) : Reader α := do
  let got ← described
  raiseHere (.expected ("'" ++ wanted ++ "'") got)

def expectMark (mark : String) : Reader Unit := do
  unless ← eatMark mark do raiseExpected mark

def expectWord (word : String) : Reader Unit := do
  unless ← eatWord word do raiseExpected word

/-- May a statement end before the current token? -/
def atStatementEnd : Reader Bool := do
  match ← token with
  | .eof => return true
  | .mark text => return text = ";" || text = "\x7d" || (← lineBreak)
  | _ => lineBreak

/-- Ends a statement, with a semicolon or where none is needed. -/
def eatSemicolon : Reader Bool := do
  if ← eatMark ";" then return true else atStatementEnd

def expectSemicolon : Reader Unit := do
  unless ← eatSemicolon do raiseExpected ";"

/-- Reads a part in a changed context, which ends with the part, even one that fails. -/
def within {α : Type} (change : Context → Context) (part : Reader α) : Reader α := do
  let before := (← get).context
  modify fun s => { s with context := change s.context }
  try part finally modify fun s => { s with context := before }

/-- Reads an expression in which `in` is an operator, or is none. -/
def withIn {α : Type} (allowed : Bool) (part : Reader α) : Reader α :=
  within (fun c => { c with allowIn := allowed }) part

/-- Reads parts until there is no further one; `bound` limits their number. -/
def collect {α : Type} (item : Reader (Option α)) : Nat → List α → Reader (List α)
  | 0, _ => raiseEnd
  | bound + 1, found => do
    match ← item with
    | none => return found.reverse
    | some a => collect item bound (a :: found)

def many {α : Type} (item : Reader (Option α)) : Reader (List α) := do
  collect item (← get).bound []

end Reader

end BrowserScript.Script
