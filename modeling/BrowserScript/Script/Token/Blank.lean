import BrowserScript.Script.Character
import BrowserScript.Script.Token

/-!
Blanks and comments between tokens. Scripts also know two comment forms from the time when they
stood inside of pages: `<!--` anywhere, and `-->` at the start of a line. The lines by which a
version control system marks a conflict are faults, but are skipped like comments. A token behind
one of these starts where the comment does.
-/

set_option autoImplicit false

namespace BrowserScript.Script

/-- What kind of text is being skipped. -/
inductive BlankMode where
  | between
  | lineComment
  | blockComment
  deriving DecidableEq, Repr, Inhabited

/-- What has been skipped: whether a line break was in it, and where the first comment starts that
counts as the start of the token behind it. -/
structure Blank where
  after : Remaining
  lineBreak : Bool
  tokenStart : Option Nat := none
  faults : List Placed := []
  deriving Repr, Inhabited

/-- The marks of a conflict that are skipped at the start of a line, with the blank that has to
follow some of them. -/
def conflictMarks : List (List Char) :=
  ["<<<<<<< ".toList, ">>>>>>> ".toList, "=======".toList]

def isConflictMark (cs : List Char) : Bool := conflictMarks.any fun mark => mark.isPrefixOf cs

/-- Faults that have been met are in `faults`. -/
def skipBlank (mode : BlankMode) (lineBreak : Bool) (tokenStart : Option Nat)
    (faults : List Placed) (pos : Nat) (cs : List Char) : Blank :=
  match cs with
  | [] =>
    { after := ⟨pos, []⟩
      lineBreak
      tokenStart
      faults := faults ++ if mode = .blockComment then [⟨.unterminatedComment, pos⟩] else [] }
  | c :: rest =>
    match mode with
    | .lineComment =>
      if isLineBreak c then skipBlank .between true tokenStart faults (pos + 1) rest
      else skipBlank .lineComment lineBreak tokenStart faults (pos + 1) rest
    | .blockComment =>
      if c = '*' ∧ rest.head? = some '/' then
        skipBlank .between lineBreak tokenStart faults (pos + 2) (rest.drop 1)
      else
        skipBlank .blockComment (lineBreak || isLineBreak c) tokenStart faults (pos + 1) rest
    | .between =>
      if isLineBreak c then skipBlank .between true tokenStart faults (pos + 1) rest
      else if isBlank c then skipBlank .between lineBreak tokenStart faults (pos + 1) rest
      else if c = '/' ∧ rest.head? = some '/' then
        skipBlank .lineComment lineBreak tokenStart faults (pos + 2) (rest.drop 1)
      else if c = '/' ∧ rest.head? = some '*' then
        skipBlank .blockComment lineBreak tokenStart faults (pos + 2) (rest.drop 1)
      else if c = '<' ∧ rest.take 3 = ['!', '-', '-'] then
        skipBlank .lineComment lineBreak (tokenStart.or (some pos)) faults (pos + 4)
          (rest.drop 3)
      else if c = '-' ∧ lineBreak ∧ rest.take 2 = ['-', '>'] then
        skipBlank .lineComment lineBreak (tokenStart.or (some pos)) faults (pos + 3)
          (rest.drop 2)
      else if lineBreak ∧ isConflictMark (c :: rest) then
        skipBlank .lineComment lineBreak (tokenStart.or (some pos))
          (faults ++ [⟨.conflictMarker, pos⟩]) (pos + 7) (rest.drop 6)
      else { after := ⟨pos, c :: rest⟩, lineBreak, tokenStart, faults }
  termination_by cs.length
  decreasing_by all_goals simp_wf; all_goals omega

end BrowserScript.Script
