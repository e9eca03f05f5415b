import BrowserScript.Script.Character
import BrowserScript.Script.Token

/-!
Number literals: decimal with fraction and exponent, the three radix forms, the old octal form
that starts with a zero, integers of any size, and separators between digits.
-/

set_option autoImplicit false

namespace BrowserScript.Script

/-- A run of digits; a separator must stand before a digit. -/
structure DigitRun where
  digits : List Nat := []
  length : Nat := 0
  rest : List Char
  separatorFault : Bool := false
  deriving Repr, Inhabited

def readDigitRun (radix : Nat) : List Char → DigitRun
  | [] => { rest := [] }
  | c :: rest =>
    if c = '_' then
      let run := readDigitRun radix rest
      { run with
        length := run.length + 1
        separatorFault :=
          run.separatorFault || !(rest.head?.any fun d => (digitBelow? radix d).isSome) }
    else
      match digitBelow? radix c with
      | none => { rest := c :: rest }
      | some d =>
        let run := readDigitRun radix rest
        { run with digits := d :: run.digits, length := run.length + 1 }

/-- The value of digits, exactly. -/
def digitsValue (radix : Nat) (digits : List Nat) : Nat :=
  digits.foldl (fun n d => n * radix + d) 0

/-- The value of digits, rounded after each digit. -/
def digitsFloat (radix : Nat) (digits : List Nat) : Float :=
  digits.foldl (fun x d => x * Float.ofNat radix + Float.ofNat d) 0

/-- The double nearest to `m · 10 ^ e`. -/
def decimalFloat (m : Nat) (e : Int) : Float :=
  if m = 0 then 0
  else if e > 400 then 1.0 / 0.0
  else if e < -(400 + (Nat.toDigits 10 m).length : Int) then 0
  else if e ≥ 0 then Float.ofScientific m false e.toNat
  else Float.ofScientific m true (-e).toNat

/-- A name must not start right after a number. -/
def refuseName (step : TokenStep) : TokenStep :=
  if step.after.text.head?.any isNameStart then
    { step with token := .stray (.at .nameAfterNumber step.after.pos) }
  else step

def separatorFaults (run : DigitRun) (pos : Nat) : List Placed :=
  if run.separatorFault then [⟨.numericSeparator, pos⟩] else []

/-- A stretch of text in which digits should have stood. -/
def noDigits (radix start : Nat) (run : DigitRun) : TokenStep :=
  let stop := start + run.length
  ⟨.stray ⟨⟨.digitExpected radix, start⟩, stop⟩, ⟨stop, run.rest⟩, separatorFaults run start⟩

def rawText (cs : List Char) (length : Nat) : String := String.ofList (cs.take length)

/-- Reads what follows `0x`, `0o` or `0b`. -/
def readRadixNumber (radix start : Nat) (cs : List Char) : TokenStep :=
  let run := readDigitRun radix (cs.drop 2)
  let pos := start + 2
  let faults := separatorFaults run pos
  let after : Remaining := ⟨pos + run.length, run.rest⟩
  if run.digits.isEmpty then noDigits radix pos run
  else if run.rest.head? = some 'n' then
    ⟨.bigint (toString (digitsValue radix run.digits)) (rawText cs (run.length + 3)),
      after.drop 1, faults⟩
  else
    let value :=
      if run.digits.length ≤ 12 then Float.ofNat (digitsValue radix run.digits)
      else digitsFloat radix run.digits
    refuseName ⟨.number value (rawText cs (run.length + 2)), after, faults⟩

/-- Reads the exponent behind a number, if there is one. -/
def readExponent (pos : Nat) (cs : List Char) :
    Except TokenStep (Int × Remaining × List Placed) :=
  if cs.head? = some 'e' ∨ cs.head? = some 'E' then
    match cs.drop 1 with
    | [] => .error ⟨.stray (.at .exponentExpected (pos + 1)), ⟨pos + 1, []⟩, []⟩
    | c :: rest =>
      let signed := c = '+' || c = '-'
      let digitsPos := if signed then pos + 2 else pos + 1
      let run := readDigitRun 10 (if signed then rest else c :: rest)
      if run.digits.isEmpty then .error (noDigits 10 digitsPos run)
      else
        let value : Int := (min (digitsValue 10 run.digits) 10000000 : Nat)
        .ok (if c = '-' then -value else value, ⟨digitsPos + run.length, run.rest⟩,
          separatorFaults run digitsPos)
  else .ok (0, ⟨pos, cs⟩, [])

/-- Reads the fraction behind the whole part of a number, if there is one. -/
def readFraction (pos : Nat) (cs : List Char) : List Nat × Remaining × List Placed :=
  if cs.head? = some '.' then
    let run := readDigitRun 10 (cs.drop 1)
    (run.digits, ⟨pos + 1 + run.length, run.rest⟩, separatorFaults run (pos + 1))
  else ([], ⟨pos, cs⟩, [])

/-- Reads the rest of a decimal number, behind its whole part. -/
def readDecimalRest (start : Nat) (cs : List Char) (whole : DigitRun) (faults : List Placed) :
    TokenStep :=
  let (fraction, afterFraction, fractionFaults) := readFraction (start + whole.length) whole.rest
  let faults := faults ++ fractionFaults
  match readExponent afterFraction.pos afterFraction.text with
  | .error step => { step with faults := faults ++ step.faults }
  | .ok (exponent, after, exponentFaults) =>
    let value :=
      decimalFloat (digitsValue 10 (whole.digits ++ fraction)) (exponent - fraction.length)
    refuseName
      ⟨.number value (rawText cs (after.pos - start)), after, faults ++ exponentFaults⟩

/-- Reads a whole number with a leading zero that has octal digits only. -/
def readOldOctal (strict : Bool) (start : Nat) (cs : List Char) (whole : DigitRun)
    (faults : List Placed) : TokenStep :=
  let step := refuseName
    ⟨.number (digitsFloat 8 whole.digits) (rawText cs whole.length),
      ⟨start + whole.length, whole.rest⟩, faults⟩
  match step.token with
  | .number .. =>
    { step with faults := faults ++ if strict then [⟨.legacyOctal, start⟩] else [] }
  | _ => step

/-- Reads a decimal number from its first digit or point on. A number with a leading zero is
octal when all its digits are; strict code knows neither that form nor decimals like it. -/
def readDecimal (strict : Bool) (start : Nat) (cs : List Char) : TokenStep :=
  let whole := readDigitRun 10 cs
  let faults := separatorFaults whole start
  let leadingZero := whole.digits.head? = some 0 && whole.length > 1
  if whole.rest.head? = some 'n' && whole.length > 0 then
    ⟨.bigint (toString (digitsValue 10 whole.digits)) (rawText cs (whole.length + 1)),
      ⟨start + whole.length + 1, whole.rest.drop 1⟩, faults⟩
  else if !leadingZero then readDecimalRest start cs whole faults
  else if whole.digits.all (· < 8) then readOldOctal strict start cs whole faults
  else
    readDecimalRest start cs whole
      (faults ++ if strict then [⟨.legacyDecimal, start⟩] else [])

/-- Reads a number from its first digit or point on. -/
def readNumber (strict : Bool) (start : Nat) (cs : List Char) : TokenStep :=
  match cs with
  | '0' :: c :: _ =>
    if c = 'x' ∨ c = 'X' then readRadixNumber 16 start cs
    else if c = 'o' ∨ c = 'O' then readRadixNumber 8 start cs
    else if c = 'b' ∨ c = 'B' then readRadixNumber 2 start cs
    else readDecimal strict start cs
  | _ => readDecimal strict start cs

end BrowserScript.Script
