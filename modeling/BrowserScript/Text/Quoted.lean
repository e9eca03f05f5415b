import BrowserScript.Text.Unseen

/-!
Texts as messages quote them: in quotation marks, with escapes for the mark itself, for the
backslash and for characters that show nothing of their own.
-/

set_option autoImplicit false

namespace BrowserScript.Text

def hexDigits (n : Nat) : String := String.ofList (Nat.toDigits 16 n)

/-- A character between two marks of a kind. -/
def quotedChar (mark c : Char) : String :=
  if c = '\x00' then "\\0"
  else if c = '\t' then "\\t"
  else if c = '\n' then "\\n"
  else if c = '\r' then "\\r"
  else if c = mark || c = '\\' then String.ofList ['\\', c]
  else if isUnseen c then "\\u\x7b" ++ hexDigits c.toNat ++ "\x7d"
  else String.singleton c

def quoted (mark : Char) (text : List Char) : String :=
  String.singleton mark ++ String.join (text.map (quotedChar mark)) ++ String.singleton mark

end BrowserScript.Text
