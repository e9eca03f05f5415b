import BrowserScript.Text

/-!
The literals and comments that the brace scanner steps over. Every skipper takes the byte offset
and the text right after an opening delimiter and answers with the offset and the text right
after the closing one, or with nothing when the construct has no end.
-/

set_option autoImplicit false

namespace BrowserScript.Wrapper

/-- A place in a text: bytes already read, and the characters still to come. -/
structure Place where
  offset : Nat
  rest : List Char
  deriving DecidableEq, Repr, Inhabited

/-- Reads a string up to its quote; a line feed may only stand behind a backslash. -/
def skipString (quote : Char) (offset : Nat) : List Char → Option Place
  | [] => none
  | c :: rest =>
    if c = '\\' then
      match rest with
      | [] => none
      | e :: rest => skipString quote (offset + 1 + e.utf8Size) rest
    else if c = '\n' then none
    else if c = quote then some ⟨offset + 1, rest⟩
    else skipString quote (offset + c.utf8Size) rest

/-- Reads a line comment up to its line feed, which stays. -/
def skipLineComment (offset : Nat) : List Char → Place
  | [] => ⟨offset, []⟩
  | c :: rest =>
    if c = '\n' then ⟨offset, c :: rest⟩ else skipLineComment (offset + c.utf8Size) rest

/-- Reads a block comment up to and with its first `*/`. -/
def skipBlockComment (offset : Nat) : List Char → Option Place
  | [] => none
  | c :: rest =>
    if c = '*' ∧ rest.head? = some '/' then some ⟨offset + 2, rest.tail⟩
    else skipBlockComment (offset + c.utf8Size) rest

/-- Reads the flags of a regular expression: all ASCII letters that follow. -/
def skipFlags (offset : Nat) : List Char → Place
  | [] => ⟨offset, []⟩
  | c :: rest => if c.isAlpha then skipFlags (offset + 1) rest else ⟨offset, c :: rest⟩

/-- Reads a regular expression and its flags; between brackets a `/` does not end it. -/
def skipRegex (inClass : Bool) (offset : Nat) : List Char → Option Place
  | [] => none
  | c :: rest =>
    if c = '\\' then
      match rest with
      | [] => none
      | e :: rest => skipRegex inClass (offset + 1 + e.utf8Size) rest
    else if c = '\n' then none
    else if c = '[' then skipRegex true (offset + 1) rest
    else if c = ']' then skipRegex false (offset + 1) rest
    else if c = '/' ∧ inClass = false then some (skipFlags (offset + 1) rest)
    else skipRegex inClass (offset + c.utf8Size) rest

/-- How a stretch of template text ends: with the closing backtick, with `${`, or not at all. -/
inductive TemplateText where
  | closed (after : Place)
  | substitution (after : Place)
  | unterminated
  deriving DecidableEq, Repr, Inhabited

def skipTemplateText (offset : Nat) : List Char → TemplateText
  | [] => .unterminated
  | c :: rest =>
    if c = '\\' then
      match rest with
      | [] => .unterminated
      | e :: rest => skipTemplateText (offset + 1 + e.utf8Size) rest
    else if c = '`' then .closed ⟨offset + 1, rest⟩
    else if c = '$' ∧ rest.head? = some '{' then .substitution ⟨offset + 2, rest.tail⟩
    else skipTemplateText (offset + c.utf8Size) rest

theorem skipString_rest_lt {quote : Char} {offset : Nat} {cs : List Char} {p : Place}
    (h : skipString quote offset cs = some p) : p.rest.length < cs.length := by
  fun_induction skipString quote offset cs with
  | case1 => simp at h
  | case2 => simp at h
  | case3 offset e rest ih => have := ih h; simp; omega
  | case4 => simp at h
  | case5 => simp only [Option.some.injEq] at h; subst h; simp
  | case6 offset c rest _ _ _ ih => have := ih h; simp; omega

theorem skipLineComment_rest_le (offset : Nat) (cs : List Char) :
    (skipLineComment offset cs).rest.length ≤ cs.length := by
  fun_induction skipLineComment offset cs with
  | case1 => simp
  | case2 => simp
  | case3 offset c rest _ ih => simp; omega

theorem skipBlockComment_rest_le {offset : Nat} {cs : List Char} {p : Place}
    (h : skipBlockComment offset cs = some p) : p.rest.length ≤ cs.length := by
  fun_induction skipBlockComment offset cs with
  | case1 => simp at h
  | case2 => simp only [Option.some.injEq] at h; subst h; simp; omega
  | case3 offset c rest _ ih => have := ih h; simp; omega

theorem skipFlags_rest_le (offset : Nat) (cs : List Char) :
    (skipFlags offset cs).rest.length ≤ cs.length := by
  fun_induction skipFlags offset cs with
  | case1 => simp
  | case2 offset c rest _ ih => simp; omega
  | case3 => simp

theorem skipRegex_rest_le {inClass : Bool} {offset : Nat} {cs : List Char} {p : Place}
    (h : skipRegex inClass offset cs = some p) : p.rest.length ≤ cs.length := by
  fun_induction skipRegex inClass offset cs with
  | case1 => simp at h
  | case2 => simp at h
  | case3 inClass offset e rest ih => have := ih h; simp; omega
  | case4 => simp at h
  | case5 inClass offset rest _ _ ih => have := ih h; simp; omega
  | case6 inClass offset rest _ _ _ ih => have := ih h; simp; omega
  | case7 inClass offset c rest _ _ _ _ _ =>
    simp only [Option.some.injEq] at h; subst h
    have := skipFlags_rest_le (offset + 1) rest
    simp; omega
  | case8 inClass offset c rest _ _ _ _ _ ih => have := ih h; simp; omega

/-- The text that a stretch of template text leaves over. -/
def TemplateText.rest : TemplateText → List Char
  | .closed p => p.rest
  | .substitution p => p.rest
  | .unterminated => []

theorem skipTemplateText_rest_le (offset : Nat) (cs : List Char) :
    (skipTemplateText offset cs).rest.length ≤ cs.length := by
  fun_induction skipTemplateText offset cs with
  | case1 => simp [TemplateText.rest]
  | case2 => simp [TemplateText.rest]
  | case3 offset e rest ih => simp; omega
  | case4 => simp [TemplateText.rest]
  | case5 => simp [TemplateText.rest]; omega
  | case6 offset c rest _ _ _ ih => simp; omega

end BrowserScript.Wrapper
