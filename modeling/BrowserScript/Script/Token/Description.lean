import BrowserScript.Decimal.Shortest
import BrowserScript.Script.Token
import BrowserScript.Text

/-!
How error messages name tokens. Text that is no token is named by its fault and by the stretch of
the script that it takes, in bytes counted from one.
-/

set_option autoImplicit false

namespace BrowserScript.Script

/-- A number with the fewest digits, and never with an exponent. -/
def plainNumber (x : Float) : String :=
  if x.isInf then "inf"
  else if x == 0 then "0"
  else Decimal.positionalText (Decimal.shortest .up (.ofFloat x))

/-- The name of a fault with one member. -/
def faultRecord (name member value : String) : String :=
  name ++ " \x7b " ++ member ++ ": " ++ value ++ " \x7d"

/-- The short name of a fault that keeps a text from being a token. -/
def strayName : Fault → String
  | .unexpectedChar c => faultRecord "UnexpectedChar" "c" (Text.quoted '\'' [c])
  | .unterminatedRegex => "UnterminatedRegExp"
  | .conflictMarker => "TS1185"
  | .invalidStringEscape => "InvalidStrEscape"
  | .badEscape wanted =>
    faultRecord "BadCharacterEscapeSequence" "expected" (Text.quoted '"' wanted.toList)
  | .openBraceEscape => "InvalidUnicodeEscape"
  | .unicodeEscapeExpected => "ExpectedUnicodeEscape"
  | .escapedKeyword word =>
    faultRecord "EscapeInReservedWord" "word" (Text.quoted '"' word.toList)
  | .nameAfterNumber => "IdentAfterNum"
  | .digitExpected radix => faultRecord "ExpectedDigit" "radix" (toString radix)
  | .exponentExpected => "NumLitTerminatedWithExp"
  | fault => fault.message

/-- The number of the byte before which a character stands. -/
def bytePosition (script : List Char) (pos : Nat) : Nat := 1 + Text.byteSize (script.take pos)

def Stray.description (script : List Char) (stray : Stray) : String :=
  let stretch := toString (bytePosition script stray.placed.pos) ++ ".." ++
    toString (bytePosition script stray.stop)
  "<lexing error: Error \x7b error: (" ++ stretch ++ ", " ++ strayName stray.placed.fault ++
    ") \x7d>"

def Token.description (script : List Char) : Token → String
  | .eof => "<eof>"
  | .mark text => text
  | .word name => name
  | .number value raw => "numeric literal (" ++ plainNumber value ++ ", " ++ raw ++ ")"
  | .bigint digits raw => "bigint literal (" ++ digits ++ ", " ++ raw ++ ")"
  | .string value raw => "string literal (" ++ value ++ ", " ++ raw ++ ")"
  | .stray s => s.description script

end BrowserScript.Script
