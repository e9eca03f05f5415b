/-!
Texts as lists of characters, measured in UTF-8 bytes: the byte order mark, plain identifiers,
and the part of a text between two byte offsets.
-/

set_option autoImplicit false

namespace BrowserScript.Text

/-- The mark some editors put at the very start of a file. -/
def byteOrderMark : Char := '\uFEFF'

/-- At most one mark is dropped, and only in front. -/
def dropByteOrderMark : List Char → List Char
  | [] => []
  | c :: rest => if c = byteOrderMark then rest else c :: rest

def withoutByteOrderMark (text : String) : String :=
  String.ofList (dropByteOrderMark text.toList)

def isWordStart (c : Char) : Bool := c.isAlpha || c = '_' || c = '$'

/-- A word character is a word start or an ASCII digit. -/
def isWordChar (c : Char) : Bool := isWordStart c || c.isDigit

/-- Plain identifiers are ASCII; reserved words count as well. -/
def isIdentifier (name : String) : Bool :=
  match name.toList with
  | [] => false
  | c :: rest => isWordStart c && rest.all isWordChar

/-- Number of bytes of the UTF-8 form. -/
def byteSize : List Char → Nat
  | [] => 0
  | c :: rest => c.utf8Size + byteSize rest

/-- Leaves out the characters that start before byte `n`. -/
def dropBytes : Nat → List Char → List Char
  | 0, cs => cs
  | _ + 1, [] => []
  | n + 1, c :: rest => dropBytes (n + 1 - c.utf8Size) rest

/-- Keeps the characters that start before byte `n`. -/
def takeBytes : Nat → List Char → List Char
  | 0, _ => []
  | _ + 1, [] => []
  | n + 1, c :: rest => c :: takeBytes (n + 1 - c.utf8Size) rest

/-- The characters from byte `low` up to byte `high`. -/
def between (low high : Nat) (cs : List Char) : List Char :=
  takeBytes (high - low) (dropBytes low cs)

@[simp] theorem byteSize_nil : byteSize [] = 0 := rfl

@[simp] theorem byteSize_cons (c : Char) (rest : List Char) :
    byteSize (c :: rest) = c.utf8Size + byteSize rest := rfl

@[simp] theorem byteSize_append (xs ys : List Char) :
    byteSize (xs ++ ys) = byteSize xs + byteSize ys := by
  induction xs with
  | nil => simp
  | cons c rest ih => simp [ih, Nat.add_assoc]

theorem dropBytes_byteSize_append (xs ys : List Char) :
    dropBytes (byteSize xs) (xs ++ ys) = ys := by
  induction xs with
  | nil => simp [dropBytes]
  | cons c rest ih =>
    have hc := c.utf8Size_pos
    obtain ⟨n, hn⟩ : ∃ n, c.utf8Size + byteSize rest = n + 1 :=
      ⟨c.utf8Size + byteSize rest - 1, by omega⟩
    have hsub : n + 1 - c.utf8Size = byteSize rest := by omega
    simp only [byteSize_cons, List.cons_append, hn, dropBytes, hsub, ih]

theorem takeBytes_byteSize_append (xs ys : List Char) :
    takeBytes (byteSize xs) (xs ++ ys) = xs := by
  induction xs with
  | nil => simp [takeBytes]
  | cons c rest ih =>
    have hc := c.utf8Size_pos
    obtain ⟨n, hn⟩ : ∃ n, c.utf8Size + byteSize rest = n + 1 :=
      ⟨c.utf8Size + byteSize rest - 1, by omega⟩
    have hsub : n + 1 - c.utf8Size = byteSize rest := by omega
    simp only [byteSize_cons, List.cons_append, hn, takeBytes, hsub, ih]

end BrowserScript.Text
