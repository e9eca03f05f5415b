import BrowserScript.Wrapper.Literal

/-!
The structural braces of a script: those outside of literals and comments. Whether a `/` starts a
regular expression is read off the token before it: a `)` that closes the header of a control
statement or a `}` that closes a block allows one, a `)` that closes a call or a `}` that closes
an object literal does not. Automatic semicolons are not modelled, so a regular expression at the
start of a line after an identifier is read as a division.
-/

set_option autoImplicit false

namespace BrowserScript.Wrapper

open Text

/-- Words after which an expression starts, so that a `{` opens an object literal. -/
def expressionWords : List String :=
  ["return", "typeof", "instanceof", "case", "delete", "in", "new", "of", "throw", "void", "yield"]

/-- Words after which a `/` starts a regular expression. -/
def regexWords : List String := "do" :: "else" :: expressionWords

/-- Words whose parenthesised header is followed by a statement. -/
def controlWords : List String := ["if", "for", "while", "with"]

/-- Characters after which a `{` opens an object literal. -/
def operandChars : List Char :=
  ['(', '[', ',', ':', '=', '?', '!', '&', '|', '+', '-', '*', '%', '<', '~', '^']

/-- The last token before a place, as far as later decisions need it. A word is kept with its
letters reversed, and an arrow is a `>` right after a `=`. -/
inductive Preceding where
  | nothing
  | literal
  | word (reversed : List Char)
  | closer (regexMayFollow : Bool)
  | arrow
  | mark (c : Char)
  deriving DecidableEq, Repr, Inhabited

namespace Preceding

def isWordOf (words : List String) : Preceding → Bool
  | .word letters => words.contains (String.ofList letters.reverse)
  | _ => false

def regexAllowed : Preceding → Bool
  | .nothing => true
  | .literal => false
  | .closer allowed => allowed
  | .word letters => (Preceding.word letters).isWordOf regexWords
  | .arrow => true
  | .mark c => c ≠ ']' && c ≠ '/'

def opensObject : Preceding → Bool
  | .word letters => (Preceding.word letters).isWordOf expressionWords
  | .mark c => c = '>' || operandChars.contains c
  | _ => false

def opensControlHeader (p : Preceding) : Bool := p.isWordOf controlWords

/-- The token that ends with `c`; `adjacent` tells that nothing stands between it and the token
before. -/
def extend (adjacent : Bool) (p : Preceding) (c : Char) : Preceding :=
  if isWordChar c then
    match adjacent, p with
    | true, .word letters => .word (c :: letters)
    | _, _ => .word [c]
  else if c = '>' && adjacent && p = .mark '=' then .arrow
  else .mark c

end Preceding

/-- A template whose substitution is being read: where it starts and how many braces are open
inside the substitution. -/
structure OpenTemplate where
  start : Nat
  depth : Nat
  deriving DecidableEq, Repr, Inhabited

/-- What the scanner remembers between two tokens. -/
structure ScanState where
  preceding : Preceding := .nothing
  /-- No space or comment has been read since the preceding token. -/
  adjacent : Bool := false
  /-- Open parentheses, innermost first; `true` for a control header. -/
  parens : List Bool := []
  /-- Open braces, innermost first; `true` for an object literal or a substitution. -/
  braces : List Bool := []
  /-- Templates around the place, innermost first. -/
  templates : List OpenTemplate := []
  deriving DecidableEq, Repr, Inhabited

inductive LiteralKind where
  | stringLiteral
  | template
  | blockComment
  | regex
  deriving DecidableEq, Repr, Inhabited

/-- A literal or comment without an end, by its kind and the offset of its delimiter. -/
structure Unterminated where
  kind : LiteralKind
  start : Nat
  deriving DecidableEq, Repr, Inhabited

inductive Brace where
  | opening
  | closing
  deriving DecidableEq, Repr, Inhabited

/-- The structural braces of a text with their offsets, up to its end or to the first literal
that has no end. -/
structure BraceTrace where
  braces : List (Nat × Brace)
  failure : Option Unterminated
  deriving DecidableEq, Repr, Inhabited

/-- The trace of a text that goes on with a brace and what is behind it. -/
def BraceTrace.cons (offset : Nat) (brace : Brace) (trace : BraceTrace) : BraceTrace :=
  ⟨(offset, brace) :: trace.braces, trace.failure⟩

namespace ScanState

/-- After a token that ends a literal. -/
def afterLiteral (s : ScanState) : ScanState :=
  { s with preceding := .literal, adjacent := true }

def afterSpace (s : ScanState) : ScanState := { s with adjacent := false }

/-- After a character that is no delimiter. -/
def afterChar (s : ScanState) (c : Char) : ScanState :=
  { s with preceding := s.preceding.extend s.adjacent c, adjacent := true }

def openParen (s : ScanState) : ScanState :=
  { s with
    parens := s.preceding.opensControlHeader :: s.parens
    preceding := .mark '('
    adjacent := true }

def closeParen (s : ScanState) : ScanState :=
  { s with
    parens := s.parens.tail
    preceding := .closer (s.parens.headD false)
    adjacent := true }

def openBrace (s : ScanState) : ScanState :=
  { s with
    braces := s.preceding.opensObject :: s.braces
    preceding := .mark '{'
    adjacent := true }

def closeBrace (s : ScanState) : ScanState :=
  { s with
    braces := s.braces.tail
    preceding := .closer (!s.braces.headD false)
    adjacent := true }

/-- Enters the substitution of a template that starts at `start`. -/
def enterSubstitution (s : ScanState) (start : Nat) : ScanState :=
  { s with
    preceding := .nothing
    adjacent := false
    braces := true :: s.braces
    templates := ⟨start, 0⟩ :: s.templates }

end ScanState

/-- ASCII white space: space, tab, line feed, form feed and carriage return. -/
def isSpace (c : Char) : Bool :=
  c = ' ' || c = '\t' || c = '\n' || c = '\x0C' || c = '\r'

/-- One move of the scanner: it stops for good, or it goes on at a later place, which may be right
behind a structural brace. -/
inductive Move where
  | stop (failure : Option Unterminated)
  | pass (next : ScanState) (place : Place)
  | brace (brace : Brace) (next : ScanState) (place : Place)
  deriving DecidableEq, Repr, Inhabited

/-- Where a move leads to. -/
def Move.place? : Move → Option Place
  | .stop _ => none
  | .pass _ p => some p
  | .brace _ _ p => some p

namespace ScanState

/-- Goes on behind a stretch of text of the template that starts at `start`. -/
def afterTemplateText (s : ScanState) (start : Nat) : TemplateText → Move
  | .unterminated => .stop (some ⟨.template, start⟩)
  | .closed p => .pass s.afterLiteral p
  | .substitution p => .pass (s.enterSubstitution start) p

/-- Reads what a slash starts: a comment, a regular expression, or a division. -/
def moveSlash (s : ScanState) (offset : Nat) (rest : List Char) : Move :=
  if rest.head? = some '/' then .pass s.afterSpace (skipLineComment (offset + 1) rest)
  else if rest.head? = some '*' then
    match skipBlockComment (offset + 2) rest.tail with
    | none => .stop (some ⟨.blockComment, offset⟩)
    | some p => .pass s.afterSpace p
  else if s.preceding.regexAllowed then
    match skipRegex false (offset + 1) rest with
    | none => .stop (some ⟨.regex, offset⟩)
    | some p => .pass s.afterLiteral p
  else .pass (s.afterChar '/') ⟨offset + 1, rest⟩

/-- Braces inside a template substitution only count toward its end. -/
def moveOpenBrace (s : ScanState) (offset : Nat) (rest : List Char) : Move :=
  match s.templates with
  | [] => .brace .opening s.openBrace ⟨offset + 1, rest⟩
  | t :: outer =>
    .pass { s.openBrace with templates := ⟨t.start, t.depth + 1⟩ :: outer } ⟨offset + 1, rest⟩

/-- A brace that closes a substitution goes back into the text of its template. -/
def moveCloseBrace (s : ScanState) (offset : Nat) (rest : List Char) : Move :=
  match s.templates with
  | [] => .brace .closing s.closeBrace ⟨offset + 1, rest⟩
  | ⟨start, depth + 1⟩ :: outer =>
    .pass { s.closeBrace with templates := ⟨start, depth⟩ :: outer } ⟨offset + 1, rest⟩
  | ⟨start, 0⟩ :: outer =>
    { s.closeBrace with templates := outer }.afterTemplateText start
      (skipTemplateText (offset + 1) rest)

/-- The move from a place. The text must not end inside a substitution. -/
def move (s : ScanState) (offset : Nat) : List Char → Move
  | [] => .stop (s.templates.head?.map fun t => ⟨.template, t.start⟩)
  | c :: rest =>
    if c = '\'' ∨ c = '"' then
      match skipString c (offset + 1) rest with
      | none => .stop (some ⟨.stringLiteral, offset⟩)
      | some p => .pass s.afterLiteral p
    else if c = '`' then s.afterTemplateText offset (skipTemplateText (offset + 1) rest)
    else if c = '/' then s.moveSlash offset rest
    else if c = '(' then .pass s.openParen ⟨offset + 1, rest⟩
    else if c = ')' then .pass s.closeParen ⟨offset + 1, rest⟩
    else if c = '\x7b' then s.moveOpenBrace offset rest
    else if c = '\x7d' then s.moveCloseBrace offset rest
    else if isSpace c then .pass s.afterSpace ⟨offset + 1, rest⟩
    else .pass (s.afterChar c) ⟨offset + c.utf8Size, rest⟩

theorem afterTemplateText_rest_le {s : ScanState} {start : Nat} {t : TemplateText} {p : Place}
    (h : (s.afterTemplateText start t).place? = some p) : p.rest.length ≤ t.rest.length := by
  cases t <;> simp [afterTemplateText, Move.place?] at h <;> simp [TemplateText.rest, h]

theorem moveSlash_rest_le {s : ScanState} {offset : Nat} {rest : List Char} {p : Place}
    (h : (s.moveSlash offset rest).place? = some p) : p.rest.length ≤ rest.length := by
  unfold moveSlash at h
  split at h
  · cases h
    exact skipLineComment_rest_le (offset + 1) rest
  · split at h
    · split at h
      · cases h
      · next hp =>
        cases h
        exact Nat.le_trans (skipBlockComment_rest_le hp) (by simp)
    · split at h
      · split at h
        · cases h
        · next hp =>
          cases h
          exact skipRegex_rest_le hp
      · cases h
        exact Nat.le_refl _

theorem moveOpenBrace_rest_le {s : ScanState} {offset : Nat} {rest : List Char} {p : Place}
    (h : (s.moveOpenBrace offset rest).place? = some p) : p.rest.length ≤ rest.length := by
  unfold moveOpenBrace at h
  split at h <;> (cases h; exact Nat.le_refl _)

theorem moveCloseBrace_rest_le {s : ScanState} {offset : Nat} {rest : List Char} {p : Place}
    (h : (s.moveCloseBrace offset rest).place? = some p) : p.rest.length ≤ rest.length := by
  unfold moveCloseBrace at h
  split at h
  · cases h
    exact Nat.le_refl _
  · cases h
    exact Nat.le_refl _
  · exact Nat.le_trans (afterTemplateText_rest_le h) (skipTemplateText_rest_le (offset + 1) rest)

/-- Every move reads at least one character. -/
theorem move_rest_lt {s : ScanState} {offset : Nat} {cs : List Char} {p : Place}
    (h : (s.move offset cs).place? = some p) : p.rest.length < cs.length := by
  revert h
  fun_cases move s offset cs with
  | case1 | case2 => simp [Move.place?]
  | case3 c rest hc q hskip =>
    rintro ⟨⟩
    exact Nat.lt_succ_of_lt (skipString_rest_lt hskip)
  | case4 rest =>
    intro h
    exact Nat.lt_succ_of_le
      (Nat.le_trans (afterTemplateText_rest_le h) (skipTemplateText_rest_le (offset + 1) rest))
  | case5 rest => exact fun h => Nat.lt_succ_of_le (moveSlash_rest_le h)
  | case8 rest => exact fun h => Nat.lt_succ_of_le (moveOpenBrace_rest_le h)
  | case9 rest => exact fun h => Nat.lt_succ_of_le (moveCloseBrace_rest_le h)
  | case6 rest | case7 rest | case10 c rest | case11 c rest =>
    rintro ⟨⟩
    exact Nat.lt_succ_self _

end ScanState

/-- The structural braces from a place on. -/
def scanBraces (s : ScanState) (offset : Nat) (cs : List Char) : BraceTrace :=
  match h : s.move offset cs with
  | .stop failure => ⟨[], failure⟩
  | .pass next p =>
    have : p.rest.length < cs.length := ScanState.move_rest_lt (by rw [h]; rfl)
    scanBraces next p.offset p.rest
  | .brace brace next p =>
    have : p.rest.length < cs.length := ScanState.move_rest_lt (by rw [h]; rfl)
    (scanBraces next p.offset p.rest).cons offset brace
  termination_by cs.length

/-- The structural braces of a whole text. -/
def structuralBraces (cs : List Char) : BraceTrace := scanBraces {} 0 cs

end BrowserScript.Wrapper
