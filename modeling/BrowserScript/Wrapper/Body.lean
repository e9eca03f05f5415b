import BrowserScript.Wrapper.Scanner

/-!
The body of a generated bundle. A bundle is one self-invoking function, so its text holds exactly
one outermost pair of structural braces; unwrapping keeps what stands between them and declares
`scope` as the global object in front of it.
-/

set_option autoImplicit false

namespace BrowserScript.Wrapper

open Text

/-- Why a text is not a single wrapper. Offsets count bytes. -/
inductive ShapeError where
  | closingFirst (offset : Nat)
  | noBrace
  | neverClosed (opening : Nat)
  | braceAfterBody (offset closing : Nat)
  | unterminated (literal : Unterminated)
  deriving DecidableEq, Repr, Inhabited

def LiteralKind.description : LiteralKind → String
  | .stringLiteral => "string literal"
  | .template => "template literal"
  | .blockComment => "block comment"
  | .regex => "regular expression"

def ShapeError.message : ShapeError → String
  | .closingFirst offset =>
    "unmatched `\x7d` at byte " ++ toString offset ++ " before the function body"
  | .noBrace => "no `\x7b` found"
  | .neverClosed opening =>
    "function body opened at byte " ++ toString opening ++ " is never closed"
  | .braceAfterBody offset closing =>
    "unexpected brace at byte " ++ toString offset ++
      " after the function body closed at byte " ++ toString closing
  | .unterminated literal =>
    "unterminated " ++ literal.kind.description ++ " starting at byte " ++ toString literal.start

/-- Ends a search for braces that ran out of them: the literal without an end comes first. -/
def BraceTrace.stop (trace : BraceTrace) (otherwise : ShapeError) : ShapeError :=
  match trace.failure with
  | some literal => .unterminated literal
  | none => otherwise

/-- Follows the braces until the one that closes `depth + 1` open ones; answers with its offset
and the braces left. -/
def closingBrace (opening : Nat) (failure : Option Unterminated) :
    Nat → List (Nat × Brace) → Except ShapeError (Nat × List (Nat × Brace))
  | _, [] => .error (BraceTrace.stop ⟨[], failure⟩ (.neverClosed opening))
  | depth, (_, .opening) :: rest => closingBrace opening failure (depth + 1) rest
  | 0, (offset, .closing) :: rest => .ok (offset, rest)
  | depth + 1, (_, .closing) :: rest => closingBrace opening failure depth rest

/-- The offsets of the outermost pair, provided that it is the only one. -/
def BraceTrace.outermostPair (trace : BraceTrace) : Except ShapeError (Nat × Nat) :=
  match trace.braces with
  | [] => .error (trace.stop .noBrace)
  | (offset, .closing) :: _ => .error (.closingFirst offset)
  | (opening, .opening) :: rest => do
    let (closing, after) ← closingBrace opening trace.failure 0 rest
    match after, trace.failure with
    | (offset, _) :: _, _ => .error (.braceAfterBody offset closing)
    | [], some literal => .error (.unterminated literal)
    | [], none => .ok (opening, closing)

/-- The text between the braces of the one wrapper. -/
def functionBody (text : List Char) : Except ShapeError (List Char) := do
  let (opening, closing) ← (structuralBraces text).outermostPair
  return between (opening + 1) closing text

end BrowserScript.Wrapper
