import BrowserScript.Script.Character
import BrowserScript.Script.Token

/-!
Text inside of tokens: escapes, strings, stretches of templates, and names.
-/

set_option autoImplicit false

namespace BrowserScript.Script

/-- What a backslash and the characters behind it stand for. Offsets and lengths count the
characters behind the backslash. -/
structure Escape where
  /-- The characters, or a fault with its offset. -/
  chars : Except (Fault × Nat) (List Char)
  /-- How much has been read. -/
  length : Nat
  /-- Strict code and templates refuse octal escapes. -/
  isOctal : Bool := false
  /-- Where digits start that have a separator out of place. -/
  separator : Option Nat := none
  deriving Inhabited

/-- Faults of an escape that still stands for something. -/
def Escape.separatorFaults (e : Escape) (pos : Nat) : List Placed :=
  e.separator.toList.map fun offset => ⟨.numericSeparator, pos + 1 + offset⟩

/-- The digits of an escape. -/
structure EscapeDigits where
  digits : List Nat := []
  /-- The number of characters, which may be separators. -/
  length : Nat := 0
  separatorFault : Bool := false
  deriving Repr, Inhabited

/-- The least number that has no place in an escape, whatever follows. -/
def escapeLimit : Nat := 0x100000000

/-- Reads up to `count` hexadecimal digits; none is read after the value has become too large. -/
def readEscapeDigits : Nat → Nat → List Char → EscapeDigits
  | 0, _, _ | _, _, [] => {}
  | count + 1, value, c :: rest =>
    if c = '_' then
      let more := readEscapeDigits (count + 1) value rest
      { more with
        length := more.length + 1
        separatorFault :=
          more.separatorFault || !(rest.head?.any fun d => (digitBelow? 16 d).isSome) }
    else
      match digitBelow? 16 c with
      | none => {}
      | some d =>
        let more :=
          if value * 16 + d < escapeLimit then readEscapeDigits count (value * 16 + d) rest
          else {}
        { more with digits := d :: more.digits, length := more.length + 1 }

def hexNumber (digits : List Nat) : Nat := digits.foldl (fun n d => n * 16 + d) 0

/-- Half of a character that takes two units is no character; its escape stands for itself. -/
def isSurrogate (n : Nat) : Bool := 0xD800 ≤ n && n ≤ 0xDFFF

/-- Reads what follows `\u{`: any number of digits and a closing brace. -/
def readBracedEscape (cs : List Char) : Escape :=
  let digits := readEscapeDigits cs.length 0 cs
  let separator := if digits.separatorFault then some 2 else none
  let n := hexNumber digits.digits
  let length := 2 + digits.length
  if digits.digits.isEmpty || n ≥ escapeLimit then
    { chars := .error (.badEscape "1-6 hex characters", length), length, separator }
  else if n > 0x10FFFF then
    { chars := .error (.badEscape "1-6 hex characters in the range 0 to 10FFFF.", length)
      length, separator }
  else
    let itself := (cs.take 6).takeWhile (· ≠ '\x7d')
    let (chars, length) :=
      if isSurrogate n then (['\\', 'u', '\x7b'] ++ itself ++ ['\x7d'], 2 + itself.length)
      else ([Char.ofNat n], length)
    if (cs.drop (length - 2)).head? = some '\x7d' then
      { chars := .ok chars, length := length + 1, separator }
    else { chars := .error (.openBraceEscape, 2), length, separator }

/-- Reads what follows `\u` without a brace: four digits. -/
def readFourDigitEscape (cs : List Char) : Escape :=
  let digits := readEscapeDigits 4 0 cs
  let separator := if digits.separatorFault then some 1 else none
  let n := hexNumber digits.digits
  let length := 1 + digits.length
  if digits.digits.length < 4 then
    { chars := .error (.badEscape "4 hex characters", length), length, separator }
  else if isSurrogate n then
    let itself := cs.take 4
    { chars := .ok (['\\', 'u'] ++ itself), length := 1 + itself.length, separator }
  else { chars := .ok [Char.ofNat n], length, separator }

/-- Reads an escape for a code point, behind its `u`. -/
def readUnicodeEscape (cs : List Char) : Escape :=
  match cs with
  | '\x7b' :: rest => readBracedEscape rest
  | _ => readFourDigitEscape cs

/-- Reads an escape for a character below 256, behind its `x`. -/
def readTwoDigitEscape (cs : List Char) : Escape :=
  let digits := readEscapeDigits 2 0 cs
  let separator := if digits.separatorFault then some 1 else none
  let length := 1 + digits.length
  if digits.digits.length = 2 then
    { chars := .ok [Char.ofNat (hexNumber digits.digits)], length, separator }
  else { chars := .error (.badEscape "2 hex characters", 0), length, separator }

/-- The leading octal digits. -/
def leadingOctal (cs : List Char) : List Nat :=
  (cs.takeWhile fun c => (digitBelow? 8 c).isSome).filterMap (digitBelow? 8)

/-- Octal escapes have up to three digits and a value below 256. -/
def readOctalEscape (cs : List Char) : Escape :=
  let digits := leadingOctal (cs.take 3)
  let digits := if valueOf digits > 255 then digits.take 2 else digits
  { chars := .ok [Char.ofNat (valueOf digits)], length := digits.length, isOctal := true }
where
  valueOf (digits : List Nat) : Nat := digits.foldl (fun n d => n * 8 + d) 0

/-- Reads the escape behind a backslash; a line break there stands for nothing. -/
def readEscape (cs : List Char) : Escape :=
  match cs with
  | [] => { chars := .error (.invalidStringEscape, 0), length := 0 }
  | c :: rest =>
    if c = 'n' then one '\n'
    else if c = 'r' then one '\r'
    else if c = 't' then one '\t'
    else if c = 'b' then one '\x08'
    else if c = 'v' then one '\x0B'
    else if c = 'f' then one '\x0C'
    else if c = '\r' then { chars := .ok [], length := if rest.head? = some '\n' then 2 else 1 }
    else if isLineBreak c then { chars := .ok [], length := 1 }
    else if c = 'x' then readTwoDigitEscape rest
    else if c = 'u' then readUnicodeEscape rest
    else if c = '0' ∧ !(rest.head?.any fun d => (digitBelow? 8 d).isSome) then one '\x00'
    else if (digitBelow? 8 c).isSome then readOctalEscape cs
    else one c
where
  one (c : Char) : Escape := { chars := .ok [c], length := 1 }

/-- A string that has been read: its value, what is left behind it, and its faults. One fault
that is set apart keeps it from being a string. -/
structure StringToken where
  value : List Char
  after : Remaining
  fatal : Option Stray := none
  faults : List Placed := []
  deriving Repr, Inhabited

/-- A bad escape of a string; the fault points at its backslash. -/
def Escape.strayAt (e : Escape) (fault : Fault) (pos : Nat) : Stray :=
  ⟨⟨fault, pos⟩, if e.length = 0 then pos else pos + 1 + e.length⟩

/-- Reads a string behind its opening quote; `read` holds its value in reverse. A string that is
not closed ends before the line break. -/
def readStringFrom (strict : Bool) (quote : Char) (start : Nat) :
    List Char → List Placed → Nat → List Char → StringToken
  | read, faults, pos, [] =>
    ⟨read.reverse, ⟨pos, []⟩, none, faults ++ [⟨.unterminatedString, start⟩]⟩
  | read, faults, pos, c :: rest =>
    if c = quote then ⟨read.reverse, ⟨pos + 1, rest⟩, none, faults⟩
    else if c = '\n' ∨ c = '\r' then
      ⟨read.reverse, ⟨pos, c :: rest⟩, none, faults ++ [⟨.unterminatedString, start⟩]⟩
    else if c = '\\' then
      let escape := readEscape rest
      let faults := faults ++ escape.separatorFaults pos ++
        if escape.isOctal && strict then [⟨.legacyOctal, pos⟩] else []
      let after := rest.drop escape.length
      match escape.chars with
      | .error (fault, _) =>
        ⟨read.reverse, ⟨pos + 1 + escape.length, after⟩, some (escape.strayAt fault pos), faults⟩
      | .ok chars =>
        readStringFrom strict quote start (chars.reverse ++ read) faults
          (pos + 1 + escape.length) after
    else readStringFrom strict quote start (c :: read) faults (pos + 1) rest
  termination_by _ _ _ cs => cs.length
  decreasing_by all_goals simp_wf; all_goals omega

def readString (strict : Bool) (quote : Char) (start : Nat) (cs : List Char) : StringToken :=
  readStringFrom strict quote start [] [] (start + 1) cs

/-- A stretch of template text up to a backtick, a substitution or the end of the text; the mark
that ends it is left. -/
structure TemplateChunk where
  raw : List Char
  value : List Char
  /-- The last escape that has no value. -/
  fault : Option Placed := none
  after : Remaining
  opensSubstitution : Bool := false
  isClosed : Bool := true
  faults : List Placed := []
  deriving Repr, Inhabited

/-- Adds to `chunk`, which holds what has been read in reverse. Line breaks in template text are
read as line feeds. -/
def readChunkFrom (chunk : TemplateChunk) (pos : Nat) : List Char → TemplateChunk
  | [] => { chunk with after := ⟨pos, []⟩, isClosed := false }
  | c :: rest =>
    if c = '`' then { chunk with after := ⟨pos, c :: rest⟩ }
    else if c = '$' ∧ rest.head? = some '\x7b' then
      { chunk with after := ⟨pos, c :: rest⟩, opensSubstitution := true }
    else if c = '\\' then
      let escape := readEscape rest
      let (chars, fault) : List Char × Option Placed :=
        match escape.chars with
        | .error (fault, _) => ([], some ⟨fault, pos⟩)
        | .ok chars => (chars, if escape.isOctal then some ⟨.legacyOctal, pos⟩ else none)
      readChunkFrom
        { chunk with
          raw := (rest.take escape.length).reverse ++ c :: chunk.raw
          value := chars.reverse ++ chunk.value
          fault := fault.or chunk.fault
          faults := chunk.faults ++ escape.separatorFaults pos }
        (pos + 1 + escape.length) (rest.drop escape.length)
    else
      let isPair := c = '\r' && rest.head? = some '\n'
      let read := if c = '\r' then '\n' else c
      readChunkFrom { chunk with raw := read :: chunk.raw, value := read :: chunk.value }
        (if isPair then pos + 2 else pos + 1) (rest.drop (if isPair then 1 else 0))
  termination_by cs => cs.length
  decreasing_by all_goals simp_wf; all_goals omega

/-- Reads template text; both forms of it come out in reading order. -/
def readChunk (start : Remaining) : TemplateChunk :=
  let chunk := readChunkFrom { raw := [], value := [], after := start } start.pos start.text
  { chunk with raw := chunk.raw.reverse, value := chunk.value.reverse }

/-- A name that has been read, and whether it is spelled with escapes. -/
structure NameToken where
  name : List Char
  after : Remaining
  hasEscape : Bool := false
  fatal : Option Stray := none
  faults : List Placed := []
  deriving Repr, Inhabited

/-- An escape has to stand for a character that a name may have. -/
def nameEscapeFaults (chars : List Char) (pos : Nat) : List Placed :=
  if chars.head?.any isNameFollow then [] else [⟨.invalidNameChar, pos⟩]

/-- Adds to `token`, which holds what has been read in reverse. -/
def readNameFrom (token : NameToken) (pos : Nat) : List Char → NameToken
  | [] => { token with after := ⟨pos, []⟩ }
  | c :: rest =>
    if isNameFollow c then readNameFrom { token with name := c :: token.name } (pos + 1) rest
    else if c ≠ '\\' then { token with after := ⟨pos, c :: rest⟩ }
    else if rest.head? ≠ some 'u' then
      { token with after := ⟨pos + 1, rest⟩, fatal := some (.at .unicodeEscapeExpected pos) }
    else
      let escape := readUnicodeEscape (rest.drop 1)
      let stop := pos + 1 + escape.length
      let faults := token.faults ++ escape.separatorFaults pos
      match escape.chars with
      | .ok chars =>
        readNameFrom
          { token with
            name := chars.reverse ++ token.name
            hasEscape := true
            faults := faults ++ nameEscapeFaults chars pos }
          stop (rest.drop escape.length)
      | .error (fault, offset) =>
        { token with
          after := ⟨stop, rest.drop escape.length⟩
          faults
          fatal := some ⟨⟨fault, pos + 1 + offset⟩, stop⟩ }
  termination_by cs => cs.length
  decreasing_by all_goals simp_wf; all_goals omega

/-- Reads a name from its first character on. -/
def readName (start : Remaining) : NameToken :=
  let token := readNameFrom { name := [], after := start } start.pos start.text
  { token with name := token.name.reverse }

/-- A regular expression that has been read. -/
structure RegexToken where
  pattern : List Char
  flags : NameToken
  deriving Repr, Inhabited

/-- The pattern of a regular expression up to its closing slash, and what is left behind that; or
where a line break or the end of the text comes before it. -/
def readRegexPattern (inClass escaped : Bool) (read : List Char) (pos : Nat) :
    List Char → Except Remaining (List Char × Remaining)
  | [] => .error ⟨pos, []⟩
  | c :: rest =>
    if isLineBreak c then .error ⟨pos, c :: rest⟩
    else if escaped then readRegexPattern inClass false (c :: read) (pos + 1) rest
    else if c = '/' ∧ inClass = false then .ok (read.reverse, ⟨pos + 1, rest⟩)
    else
      let inClass := if c = '[' then true else if c = ']' then false else inClass
      readRegexPattern inClass (c = '\\') (c :: read) (pos + 1) rest

/-- Reads the flags behind a regular expression, which look like a name. -/
def readFlags (start : Remaining) : NameToken :=
  if start.text.head?.any isNameStart then readName start else { name := [], after := start }

/-- Reads a regular expression behind its opening slash. -/
def readRegex (start : Remaining) : Except Remaining RegexToken :=
  (readRegexPattern false false [] start.pos start.text).map fun (pattern, after) =>
    { pattern, flags := readFlags after }

end BrowserScript.Script
