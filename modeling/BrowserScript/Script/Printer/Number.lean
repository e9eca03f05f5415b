import BrowserScript.Decimal.Shortest
import BrowserScript.Text.Quoted

/-!
Numbers as short script text: no zero in front of a point, an exponent where it saves digits, and
hexadecimal digits for large whole numbers.
-/

set_option autoImplicit false

namespace BrowserScript.Script

/-- The shortest positional text of a finite positive number. -/
def plainDecimal (x : Float) : String :=
  Decimal.positionalText (Decimal.shortest .up (.ofFloat x))

/-- A text that starts with `0.`, with the zeros behind the point moved into an exponent when
there are more than two. -/
def shortFraction (fraction : List Char) : String :=
  let zeros := (fraction.takeWhile (· = '0')).length
  if zeros > 2 then String.ofList (fraction.drop zeros) ++ "e-" ++ toString fraction.length
  else "." ++ String.ofList fraction

/-- A text of digits, with three or more zeros at its end moved into an exponent. -/
def shortWhole (text : List Char) : String :=
  let zeros := (text.reverse.takeWhile (· = '0')).length
  if zeros ≥ 3 then String.ofList (text.take (text.length - zeros)) ++ "e" ++ toString zeros
  else String.ofList text

/-- Whole numbers from here on are written with hexadecimal digits, unless they end in zeros. -/
def hexFrom : Nat := 10000000

/-- A finite positive number. -/
def positiveText (x : Float) : String :=
  let n := x.toUInt64.toNat
  if x == x.floor && x < 18446744073709551616.0 && n ≥ hexFrom && n % 1000 ≠ 0 then
    "0x" ++ Text.hexDigits n
  else
    match (plainDecimal x).toList with
    | '0' :: '.' :: fraction => shortFraction fraction
    | text => shortWhole text

/-- A number; infinity is written as a division by zero. -/
def numberText (x : Float) : String :=
  if x.isNaN then "NaN"
  else if x.isInf then if x > 0 then "1/0" else "-1/0"
  else if x == 0 then if x.toBits = 0 then "0" else "-0"
  else if x < 0 then "-" ++ positiveText (-x)
  else positiveText x

end BrowserScript.Script
