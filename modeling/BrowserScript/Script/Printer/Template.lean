import BrowserScript.Script.Character
import BrowserScript.Script.Printer.Quoted

/-!
Template text. An escape that need not be one is written as the character it stands for.
-/

set_option autoImplicit false

namespace BrowserScript.Script

/-- Escapes that stay as they are: what they stand for cannot be written as it is. -/
def keptTemplateEscapes : List Char :=
  ['\\', 'n', 'r', 'v', 'b', 'f', 'u', '\r', '\n', '`', '0', '1', '2', '3', '4', '5', '6', '7']

/-- A character of template text that is no escape. -/
def templateChar (c : Char) (next : Option Char) : String :=
  if c = '\x00' then nullEscape next
  else if c = '\x08' then "\\b"
  else if c = '\x0C' then "\\f"
  else if c = '\x0B' then "\\v"
  else if c = '\u2028' then "\\u2028"
  else if c = '\u2029' then "\\u2029"
  else if c = '\uFEFF' then "\\uFEFF"
  else String.singleton c

/-- The character of two hexadecimal digits. -/
def hexPair? (a b : Char) : Option Char := do
  let high ← digitBelow? 16 a
  let low ← digitBelow? 16 b
  return Char.ofNat (16 * high + low)

/-- Template text from its raw form. A brace behind a dollar sign would open a substitution. -/
def templateText (afterDollar : Bool) : List Char → String
  | [] => ""
  | '\\' :: 'x' :: a :: b :: rest =>
    match hexPair? a b with
    | some value => templateChar value rest.head? ++ templateText (value = '$') rest
    | none => "\\x" ++ templateText false (a :: b :: rest)
  | '\\' :: c :: rest =>
    if keptTemplateEscapes.contains c || (c = '$' && rest.head? = some '\x7b') ||
        (c = '\x7b' && afterDollar) then
      "\\" ++ String.singleton c ++ templateText false rest
    else if c = 't' then "\t" ++ templateText false rest
    else if c = 'x' then "\\x" ++ templateText false rest
    else String.singleton c ++ templateText (c = '$') rest
  | c :: rest => templateChar c rest.head? ++ templateText (c = '$') rest

end BrowserScript.Script
