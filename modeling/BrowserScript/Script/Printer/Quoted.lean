import BrowserScript.Script.Character

/-!
Texts in quotes. The kind of quote that occurs less often in the text is put around it.
-/

set_option autoImplicit false

namespace BrowserScript.Script

/-- Double quotes, unless the text has more of them than of the single ones. -/
def quoteFor (text : List Char) : Char :=
  if text.count '"' > text.count '\'' then '\'' else '"'

/-- Two hexadecimal digits of a control character. -/
def controlEscape (c : Char) : String :=
  let digits := String.ofList (Nat.toDigits 16 c.toNat)
  "\\x" ++ (if c.toNat < 16 then "0" else "") ++ digits

/-- A null character can be written short where no digit follows. -/
def nullEscape (next : Option Char) : String :=
  if next.any Char.isDigit then "\\x00" else "\\0"

/-- Are these the digits of half a character, of one that takes two units? -/
def isSurrogateDigits (cs : List Char) : Bool :=
  match cs.take 4 |>.map (digitBelow? 16) with
  | [some 13, some digit, some _, some _] => digit ≥ 8
  | _ => false

/-- Does the escape for half a character follow a backslash? A text cannot hold such a half, but
holds the escape in its place. -/
def startsHalfEscape : List Char → Bool
  | 'u' :: '\x7b' :: rest | 'u' :: rest => isSurrogateDigits rest
  | _ => false

/-- A character inside of quotes; `rest` stands behind it. -/
def quotedChar (quote c : Char) (rest : List Char) : String :=
  if c = '\x00' then nullEscape rest.head?
  else if c = '\x08' then "\\b"
  else if c = '\x0C' then "\\f"
  else if c = '\n' then "\\n"
  else if c = '\r' then "\\r"
  else if c = '\x0B' then "\\v"
  else if c = '\t' then "\t"
  else if c = '\\' then if startsHalfEscape rest then "\\" else "\\\\"
  else if c = quote then "\\" ++ String.singleton c
  else if c.toNat < 32 then controlEscape c
  else if c = '\u2028' then "\\u2028"
  else if c = '\u2029' then "\\u2029"
  else if c = '\uFEFF' then "\\uFEFF"
  else String.singleton c

def quotedChars (quote : Char) : List Char → String
  | [] => ""
  | c :: rest => quotedChar quote c rest ++ quotedChars quote rest

/-- A text in quotes. -/
def quotedText (text : String) : String :=
  let chars := text.toList
  let quote := quoteFor chars
  String.singleton quote ++ quotedChars quote chars ++ String.singleton quote

end BrowserScript.Script
