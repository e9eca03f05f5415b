import BrowserScript.Script.Token

/-!
The order in which new names are tried. A name is made of letters and of digits behind the first
letter. Letters that are frequent in the rest of the script come first, so that the output is
repetitive and compresses well; shorter names come before longer ones.
-/

set_option autoImplicit false

namespace BrowserScript.Script

/-- The characters a name can start with. -/
def nameLetters : List Char :=
  "abcdefghijklmnopqrstuvwxyzABCDEFGHIJKLMNOPQRSTUVWXYZ$_".toList

def nameDigits : List Char := "0123456789".toList

/-- How often a character occurs in some texts. -/
def occurrences (texts : List String) (c : Char) : Nat :=
  texts.foldl (fun n text => n + text.toList.count c) 0

/-- The characters of names, the most frequent first: letters, then digits. -/
structure Alphabet where
  letters : List Char
  all : List Char
  deriving Repr, Inhabited

namespace Alphabet

/-- Sorts characters by how often they occur in a text. What is taken away from the text is
counted against it, and equally frequent characters keep their order. -/
def sorted (cs : List Char) (text : List String) (away : List String) : List Char :=
  let weighed := cs.map fun c => ((occurrences text c : Int) - occurrences away c, c)
  (weighed.mergeSort fun a b => b.1 ≤ a.1).map (·.2)

def ofText (text : List String) (away : List String) : Alphabet :=
  let letters := sorted nameLetters text away
  ⟨letters, letters ++ sorted nameDigits text away⟩

/-- The names of one length come behind all shorter ones: among how many characters behind the
first is name number `n`, and which of them is it? -/
def place (n tail : Nat) : Nat × Nat :=
  if h : 54 * Nat.pow 64 tail ≤ n then
    have : 0 < 54 * Nat.pow 64 tail := Nat.mul_pos (by decide) (Nat.pow_pos (by decide))
    place (n - 54 * Nat.pow 64 tail) (tail + 1)
  else (n, tail)
termination_by n
decreasing_by exact Nat.sub_lt_of_pos_le this h

/-- The last characters of a name, as a number of so many digits. -/
def tailOf (all : List Char) (n : Nat) : Nat → List Char
  | 0 => []
  | k + 1 => (all[n / Nat.pow 64 k]?).getD '_' :: tailOf all (n % Nat.pow 64 k) k

/-- Name number `n`. -/
def name (a : Alphabet) (n : Nat) : String :=
  let (n, tail) := place n 0
  String.ofList ((a.letters[n / Nat.pow 64 tail]?).getD '_' ::
    tailOf a.all (n % Nat.pow 64 tail) tail)

end Alphabet

/-- No binding can have one of these names in every script. -/
def unusableNames : List String :=
  reservedWords ++ strictReservedWords ++
    ["let", "static", "yield", "await", "eval", "arguments"]

end BrowserScript.Script
