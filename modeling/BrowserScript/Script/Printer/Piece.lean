/-!
The pieces of a printed script, and the blanks between them. A blank stands between two pieces
only where their texts would be read as other pieces without it.
-/

set_option autoImplicit false

namespace BrowserScript.Script

inductive Piece where
  | word (text : String)
  | number (text : String)
  | mark (text : String)
  | regex (text : String)
  /-- A string, or a stretch of a template. -/
  | quoted (text : String)
  deriving DecidableEq, Repr, Inhabited

namespace Piece

def text : Piece → String
  | .word text | .number text | .mark text | .regex text | .quoted text => text

/-- Does a blank stand between two pieces? The third piece matters because `<!--` opens a comment,
as `-->` does at the start of a line. -/
def needsBlank (left right : Piece) (next : Option Piece) : Bool :=
  match left, right with
  | .word _, .word _ | .word _, .number _ | .number _, .word _ | .number _, .number _
  | .regex _, .word _ => true
  | .mark a, .mark b =>
    (a = "+" && (b = "+" || b = "++")) || (a = "-" && (b = "-" || b = "--")) ||
      (a = "--" && b.toList.head? = some '>') ||
      (a.toList.head? = some '<' && b = "!" && next = some (.mark "--"))
  | .mark a, .number b => a = "-" && b.toList.head? = some '-'
  | .mark a, .regex _ => a = "/"
  | _, _ => false

/-- A point behind whole digits would belong to the number, so a second one follows. -/
def separator (left right : Piece) (next : Option Piece) : String :=
  match left, right with
  | .number a, .mark "." => if a.toList.all Char.isDigit then "." else ""
  | _, _ => if needsBlank left right next then " " else ""

/-- The text of pieces in a row. -/
def join : List Piece → String
  | [] => ""
  | [p] => p.text
  | p :: q :: rest => p.text ++ (separator p q rest.head? ++ join (q :: rest))

end Piece

/-- Lists of pieces with commas between them. -/
def commaSeparated : List (List Piece) → List Piece
  | [] => []
  | [ps] => ps
  | ps :: rest => ps ++ .mark "," :: commaSeparated rest

/-- Pieces in parentheses, if the condition holds. -/
def inParens (condition : Bool) (pieces : List Piece) : List Piece :=
  if condition then .mark "(" :: pieces ++ [.mark ")"] else pieces

/-- Pieces in braces. -/
def inBraces (pieces : List Piece) : List Piece := .mark "\x7b" :: pieces ++ [.mark "\x7d"]

end BrowserScript.Script
