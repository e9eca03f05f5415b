import BrowserScript.Script.IdentifierTable

/-!
Classes of characters in scripts.
-/

set_option autoImplicit false

namespace BrowserScript.Script

def isLineBreak (c : Char) : Bool :=
  c = '\n' || c = '\r' || c = '\u2028' || c = '\u2029'

/-- Blanks other than line breaks; the byte order mark counts as one. -/
def isBlank (c : Char) : Bool :=
  c = ' ' || c = '\t' || c = '\x0B' || c = '\x0C' || c = '\u0085' || c = '\u00A0' ||
    c = '\uFEFF' || c = '\u1680' || ('\u2000' ≤ c && c ≤ '\u200A') || c = '\u202F' || c = '\u205F' ||
    c = '\u3000'

/-- May a name start with this character? -/
def isNameStart (c : Char) : Bool :=
  if c.toNat < 0x80 then c.isAlpha || c = '$' || c = '_'
  else nameStartRanges.contains c

/-- May a name go on with this character? -/
def isNameFollow (c : Char) : Bool :=
  if c.toNat < 0x80 then c.isAlpha || c.isDigit || c = '$' || c = '_'
  else nameStartRanges.contains c || nameFollowRanges.contains c

/-- The value of a digit, letters counting on from ten. -/
def digitValue? (c : Char) : Option Nat :=
  if '0' ≤ c ∧ c ≤ '9' then some (c.toNat - '0'.toNat)
  else if 'a' ≤ c ∧ c ≤ 'z' then some (c.toNat - 'a'.toNat + 10)
  else if 'A' ≤ c ∧ c ≤ 'Z' then some (c.toNat - 'A'.toNat + 10)
  else none

/-- The value of a digit of a number system. -/
def digitBelow? (radix : Nat) (c : Char) : Option Nat :=
  (digitValue? c).filter (· < radix)

end BrowserScript.Script
