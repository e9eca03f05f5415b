import BrowserScript.Script.Token.Blank
import BrowserScript.Script.Token.Number
import BrowserScript.Script.Token.Text

/-!
The next token of a text. A slash is always read as a mark; whether it starts a regular expression
is for the grammar to say.
-/

set_option autoImplicit false

namespace BrowserScript.Script

/-- The marks of several characters, longer ones first. -/
def longMarks : List String :=
  [">>>=", "...", "===", "!==", "**=", "<<=", ">>=", ">>>", "&&=", "||=", "??=", "=>", "==", "!=",
    "<=", ">=", "**", "++", "--", "<<", ">>", "&&", "||", "??", "+=", "-=", "*=", "/=", "%=", "&=",
    "|=", "^="]

def shortMarks : List Char :=
  ['\x7b', '\x7d', '(', ')', '[', ']', ';', ',', '<', '>', '=', '+', '-', '*', '/', '%', '&',
    '|', '^', '!', '~', '?', ':', '.', '#', '@', '`']

/-- The mark at the start of a text. -/
def markOf (c : Char) (rest : List Char) : Option String :=
  match longMarks.find? fun mark => mark.toList.isPrefixOf (c :: rest.take 3) with
  | some mark => some mark
  | none => if shortMarks.contains c then some (String.singleton c) else none

/-- The first line of a file may name an interpreter. -/
def skipInterpreterLine (cs : List Char) : Nat :=
  if cs.take 2 = ['#', '!'] then (cs.takeWhile fun c => !isLineBreak c).length else 0

/-- A word that is reserved must not be spelled with escapes. -/
def readWordToken (around : Surroundings) (here : Remaining) : TokenStep :=
  let name := readName here
  let text := String.ofList name.name
  let token : Token :=
    match name.fatal with
    | some stray => .stray stray
    | none =>
      if name.hasEscape && around.reserves text then
        .stray ⟨⟨.escapedKeyword text, here.pos⟩, name.after.pos⟩
      else .word text
  ⟨token, name.after, name.faults⟩

def readStringToken (strict : Bool) (here : Remaining) (quote : Char) (rest : List Char) :
    TokenStep :=
  let string := readString strict quote here.pos rest
  let token : Token :=
    match string.fatal with
    | some stray => .stray stray
    | none =>
      .string (String.ofList string.value)
        (String.ofList (here.text.take (string.after.pos - here.pos)))
  ⟨token, string.after, string.faults⟩

/-- A mark of a conflict that is no token and no comment either; its line is skipped. -/
def readConflictMark (here : Remaining) : TokenStep :=
  let fault : Placed := ⟨.conflictMarker, here.pos⟩
  let line := here.drop 7
  let blank := skipBlank .lineComment true none [] line.pos line.text
  ⟨.stray ⟨fault, here.pos + 7⟩, blank.after, fault :: blank.faults⟩

/-- Reads the token at the start of a text that is not blank. A null character is taken for the
end of the text, but the text goes on behind it. -/
def readToken (around : Surroundings) (lineBreak : Bool) (here : Remaining) : TokenStep :=
  match here.text with
  | [] => ⟨.eof, here, []⟩
  | c :: rest =>
    if c = '\x00' then ⟨.eof, here.drop 1, []⟩
    else if isNameStart c ∨ c = '\\' then readWordToken around here
    else if c.isDigit ∨ (c = '.' ∧ rest.head?.any Char.isDigit) then
      readNumber around.strict here.pos here.text
    else if c = '"' ∨ c = '\'' then readStringToken around.strict here c rest
    else if lineBreak ∧ "||||||| ".toList.isPrefixOf here.text then readConflictMark here
    else
      match markOf c rest with
      | some mark => ⟨.mark mark, here.drop mark.length, []⟩
      | none => ⟨.stray (.at (.unexpectedChar c) here.pos), here.drop 1, []⟩

/-- The next token behind blanks. The start of a text counts as behind a line break. -/
def nextLexeme (around : Surroundings) (isFirst : Bool) (here : Remaining) : Lexeme :=
  let skipped := if isFirst then skipInterpreterLine here.text else 0
  let blank := skipBlank .between isFirst none [] (here.pos + skipped) (here.text.drop skipped)
  let step := readToken around blank.lineBreak blank.after
  { token := step.token
    after := step.after
    faults := blank.faults ++ step.faults
    start := blank.tokenStart.getD blank.after.pos
    here := blank.after
    lineBreak := blank.lineBreak }

end BrowserScript.Script
