import BrowserScript.Script.Fault

/-!
Tokens of scripts. A reader of tokens takes the text that is left, with its offset in
characters, and answers with what is left after the token.
-/

set_option autoImplicit false

namespace BrowserScript.Script

/-- A fault and the offset it points at. -/
structure Placed where
  fault : Fault
  pos : Nat
  deriving DecidableEq, Repr, Inhabited

/-- What is left of a text, and the offset where it starts. -/
structure Remaining where
  pos : Nat
  text : List Char
  deriving DecidableEq, Repr, Inhabited

/-- Drops `n` characters. -/
def Remaining.drop (r : Remaining) (n : Nat) : Remaining := ⟨r.pos + n, r.text.drop n⟩

/-- Text that is no token, and the offset where it ends. -/
structure Stray where
  placed : Placed
  stop : Nat
  deriving DecidableEq, Repr, Inhabited

/-- A fault that is one place and no stretch of text. -/
def Stray.at (fault : Fault) (pos : Nat) : Stray := ⟨⟨fault, pos⟩, pos⟩

inductive Token where
  | eof
  | mark (text : String)
  | word (name : String)
  | number (value : Float) (raw : String)
  | bigint (digits raw : String)
  | string (value raw : String)
  | stray (stray : Stray)
  deriving Repr, Inhabited

def Token.isMark (mark : String) : Token → Bool
  | .mark text => text = mark
  | _ => false

def Token.isWord (word : String) : Token → Bool
  | .word name => name = word
  | _ => false

/-- A token and what is left behind it. -/
structure TokenStep where
  token : Token
  after : Remaining
  /-- Faults that do not keep the token from being one. -/
  faults : List Placed := []
  deriving Repr, Inhabited

/-- A token with its place: where it starts, the text from its first character on, what is left
behind it, and whether a line break stands before it. -/
structure Lexeme extends TokenStep where
  start : Nat
  here : Remaining
  lineBreak : Bool
  deriving Repr, Inhabited

/-- Words that are never names. -/
def reservedWords : List String :=
  ["null", "true", "false", "break", "case", "catch", "continue", "debugger", "default", "do",
    "export", "else", "finally", "for", "function", "if", "return", "switch", "throw", "try",
    "var", "const", "while", "with", "new", "this", "super", "class", "extends", "import", "in",
    "instanceof", "typeof", "void", "delete", "enum"]

/-- Words that strict code reserves in addition, apart from `let`, `static` and `yield`. -/
def strictReservedWords : List String :=
  ["implements", "package", "protected", "interface", "private", "public"]

/-- What the code around a word is decides whether it is reserved. -/
structure Surroundings where
  strict : Bool := false
  inAsync : Bool := false
  inGenerator : Bool := false
  inStaticBlock : Bool := false
  deriving DecidableEq, Repr, Inhabited

/-- Is this a word that no name may be? -/
def Surroundings.reserves (s : Surroundings) (name : String) : Bool :=
  reservedWords.contains name || (name = "let" && s.strict) ||
    (name = "await" && (s.inAsync || s.inStaticBlock)) ||
    (name = "yield" && (s.inGenerator || s.strict)) ||
    (s.strict && strictReservedWords.contains name)

end BrowserScript.Script
