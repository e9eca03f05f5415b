import BrowserScript.Decimal.Shortest
import BrowserScript.Text.Quoted

/-!
What can be wrong with a JSON text that is read as a record of strings and truth values, and the
wording of each fault.
-/

set_option autoImplicit false

namespace BrowserScript.Json

/-- A place in a JSON text: lines count from one, columns count bytes. -/
structure Position where
  line : Nat := 1
  column : Nat := 0
  deriving DecidableEq, Repr, Inhabited

/-- The place after a character. -/
def Position.after (p : Position) (c : Char) : Position :=
  if c = '\n' then ⟨p.line + 1, 0⟩ else ⟨p.line, p.column + c.utf8Size⟩

/-- A value found where another type was asked for. -/
inductive Found where
  | null
  | bool (value : Bool)
  | integer (value : Int)
  | float (value : Float)
  | string (text : String)
  | list
  | object

/-- What was asked for in its place. -/
inductive Wanted where
  | text
  | truthValue
  | record (name : String)
  deriving DecidableEq, Repr, Inhabited

inductive Fault where
  | endInValue
  | endInString
  | endInList
  | endInObject
  | expectedColon
  | expectedListEnd
  | expectedObjectEnd
  | expectedIdent
  | expectedValue
  | keyNotString
  | trailingComma
  | trailingCharacters
  | controlCharacter
  | invalidEscape
  | endOfHexEscape
  | loneSurrogate
  | invalidNumber
  | numberOutOfRange
  | invalidType (found : Found) (wanted : Wanted)
  | invalidLength (count : Nat) (record : String) (members : Nat)
  | missingField (name : String)
  | duplicateField (name : String)

/-- A fault and the place where it shows. -/
structure JsonError where
  fault : Fault
  position : Position

def zeros (n : Nat) : String := String.ofList (List.replicate n '0')

/-- Floats are positional from 10^-5 below 10^16, with a point, and else have an exponent. -/
def positiveFloatText (x : Float) : String :=
  let d := Decimal.shortest .toEven (.ofFloat x)
  let digits := Decimal.digitText d
  let count : Int := digits.length
  if count ≤ d.point ∧ d.point ≤ 16 then digits ++ zeros (d.point - count).toNat ++ ".0"
  else if 0 < d.point ∧ d.point ≤ 16 then
    String.ofList (digits.toList.take d.point.toNat) ++ "." ++
      String.ofList (digits.toList.drop d.point.toNat)
  else if -5 < d.point ∧ d.point ≤ 0 then "0." ++ zeros (-d.point).toNat ++ digits
  else
    let mantissa :=
      if count = 1 then digits
      else String.ofList (digits.toList.take 1) ++ "." ++ String.ofList (digits.toList.drop 1)
    mantissa ++ "e" ++ toString (d.point - 1)

def floatText (x : Float) : String :=
  let sign := if x.toBits.toNat / 0x8000000000000000 = 1 then "-" else ""
  sign ++ if x == 0 then "0.0" else positiveFloatText x.abs

def Found.description : Found → String
  | .null => "null"
  | .bool b => "boolean `" ++ toString b ++ "`"
  | .integer n => "integer `" ++ toString n ++ "`"
  | .float x => "floating point `" ++ floatText x ++ "`"
  | .string text => "string " ++ Text.quoted '"' text.toList
  | .list => "sequence"
  | .object => "map"

def Wanted.description : Wanted → String
  | .text => "a string"
  | .truthValue => "a boolean"
  | .record name => "struct " ++ name

def Fault.message : Fault → String
  | .endInValue => "EOF while parsing a value"
  | .endInString => "EOF while parsing a string"
  | .endInList => "EOF while parsing a list"
  | .endInObject => "EOF while parsing an object"
  | .expectedColon => "expected `:`"
  | .expectedListEnd => "expected `,` or `]`"
  | .expectedObjectEnd => "expected `,` or `\x7d`"
  | .expectedIdent => "expected ident"
  | .expectedValue => "expected value"
  | .keyNotString => "key must be a string"
  | .trailingComma => "trailing comma"
  | .trailingCharacters => "trailing characters"
  | .controlCharacter => "control character (\\u0000-\\u001F) found while parsing a string"
  | .invalidEscape => "invalid escape"
  | .endOfHexEscape => "unexpected end of hex escape"
  | .loneSurrogate => "lone leading surrogate in hex escape"
  | .invalidNumber => "invalid number"
  | .numberOutOfRange => "number out of range"
  | .invalidType found wanted =>
    "invalid type: " ++ found.description ++ ", expected " ++ wanted.description
  | .invalidLength count record members =>
    "invalid length " ++ toString count ++ ", expected struct " ++ record ++ " with " ++
      toString members ++ if members = 1 then " element" else " elements"
  | .missingField name => "missing field `" ++ name ++ "`"
  | .duplicateField name => "duplicate field `" ++ name ++ "`"

def JsonError.message (e : JsonError) : String :=
  e.fault.message ++ " at line " ++ toString e.position.line ++
    " column " ++ toString e.position.column

end BrowserScript.Json
