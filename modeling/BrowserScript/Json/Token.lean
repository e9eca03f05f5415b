import BrowserScript.Json.Fault
import BrowserScript.Text

/-!
The leaves of a JSON text: white space, strings, numbers and the three words. Each reader takes
what is left of the text with its position and answers with what is left after it.
-/

set_option autoImplicit false

namespace BrowserScript.Json

/-- What is left of a text, and where it starts. -/
structure Cursor where
  rest : List Char
  position : Position := {}

/-- The place one byte further on, or the same place at the end of the text. -/
def Position.peeked (p : Position) : List Char → Position
  | [] => p
  | c :: _ => if c = '\n' then ⟨p.line + 1, 0⟩ else ⟨p.line, p.column + 1⟩

/-- The place `n` bytes further on. -/
def Position.afterBytes (p : Position) (n : Nat) : List Char → Position
  | [] => p
  | c :: rest =>
    if n = 0 then p
    else if c.utf8Size ≤ n then (p.after c).afterBytes (n - c.utf8Size) rest
    else ⟨p.line, p.column + n⟩

def Position.atEnd (p : Position) (rest : List Char) : Position := rest.foldl Position.after p

namespace Cursor

def ofString (text : String) : Cursor := { rest := text.toList }

/-- A fault at the character that comes next. -/
def peekFault {α : Type} (c : Cursor) (fault : Fault) : Except JsonError α :=
  .error ⟨fault, c.position.peeked c.rest⟩

/-- A fault right after what has been read. -/
def fault {α : Type} (c : Cursor) (fault : Fault) : Except JsonError α :=
  .error ⟨fault, c.position⟩

/-- Leaves out the next character. -/
def drop (c : Cursor) : Cursor :=
  match c.rest with
  | [] => c
  | d :: rest => ⟨rest, c.position.after d⟩

end Cursor

def isSpace (c : Char) : Bool := c = ' ' || c = '\n' || c = '\t' || c = '\r'

def skipSpaceFrom (p : Position) : List Char → Cursor
  | [] => ⟨[], p⟩
  | c :: rest => if isSpace c then skipSpaceFrom (p.after c) rest else ⟨c :: rest, p⟩

def Cursor.skipSpace (c : Cursor) : Cursor := skipSpaceFrom c.position c.rest

/-- Reads the rest of a word whose first letter has been read. -/
def readWord : List Char → Cursor → Except JsonError Cursor
  | [], c => .ok c
  | w :: word, c =>
    match c.rest with
    | [] => c.fault .endInValue
    | d :: _ => if d = w then readWord word c.drop else c.peekFault .expectedIdent

def hexDigit? (c : Char) : Option Nat :=
  if '0' ≤ c ∧ c ≤ '9' then some (c.toNat - '0'.toNat)
  else if 'a' ≤ c ∧ c ≤ 'f' then some (c.toNat - 'a'.toNat + 10)
  else if 'A' ≤ c ∧ c ≤ 'F' then some (c.toNat - 'A'.toNat + 10)
  else none

def hexValue? (digits : List Char) : Option Nat :=
  digits.foldlM (fun n c => (hexDigit? c).map (n * 16 + ·)) 0

/-- What is wrong where four hexadecimal digits were to follow. -/
def hexFault (p : Position) (rest : List Char) : JsonError :=
  if Text.byteSize rest < 4 then ⟨.endInString, p.atEnd rest⟩
  else ⟨.invalidEscape, p.afterBytes 4 rest⟩

/-- The character of an escape with one letter. -/
def escapedChar? (c : Char) : Option Char :=
  if c = '"' ∨ c = '\\' ∨ c = '/' then some c
  else if c = 'b' then some '\x08'
  else if c = 'f' then some '\x0C'
  else if c = 'n' then some '\n'
  else if c = 'r' then some '\r'
  else if c = 't' then some '\t'
  else none

def isLeadSurrogate (n : Nat) : Bool := 0xD800 ≤ n && n ≤ 0xDBFF

def isTrailSurrogate (n : Nat) : Bool := 0xDC00 ≤ n && n ≤ 0xDFFF

/-- The place after `n` characters that stand on one line and take a byte each. -/
def Position.plus (p : Position) (n : Nat) : Position := ⟨p.line, p.column + n⟩

/-- Reads a string whose opening quote has been read; `read` holds its characters in reverse. -/
def readString (read : List Char) (p : Position) :
    List Char → Except JsonError (String × Cursor)
  | [] => .error ⟨.endInString, p⟩
  | c :: rest =>
    if c = '"' then .ok (String.ofList read.reverse, ⟨rest, p.plus 1⟩)
    else if c = '\\' then
      match rest with
      | [] => .error ⟨.endInString, p.plus 1⟩
      | e :: rest =>
        if e = 'u' then
          match rest with
          | a :: b :: c :: d :: rest =>
            match hexValue? [a, b, c, d] with
            | none => .error (hexFault (p.plus 2) (a :: b :: c :: d :: rest))
            | some n =>
              if isTrailSurrogate n then .error ⟨.loneSurrogate, p.plus 6⟩
              else if isLeadSurrogate n then
                match rest with
                | [] => .error ⟨.endInString, p.plus 6⟩
                | '\\' :: [] => .error ⟨.endInString, p.plus 7⟩
                | '\\' :: 'u' :: e :: f :: g :: h :: rest =>
                  match hexValue? [e, f, g, h] with
                  | none => .error (hexFault (p.plus 8) (e :: f :: g :: h :: rest))
                  | some m =>
                    if isTrailSurrogate m then
                      readString
                        (Char.ofNat (0x10000 + (n - 0xD800) * 0x400 + (m - 0xDC00)) :: read)
                        (p.plus 12) rest
                    else .error ⟨.loneSurrogate, p.plus 12⟩
                | '\\' :: 'u' :: short => .error (hexFault (p.plus 8) short)
                | '\\' :: other => .error ⟨.endOfHexEscape, (p.plus 7).peeked other⟩
                | other => .error ⟨.endOfHexEscape, (p.plus 6).peeked other⟩
              else readString (Char.ofNat n :: read) (p.plus 6) rest
          | short => .error (hexFault (p.plus 2) short)
        else
          match escapedChar? e with
          | some d => readString (d :: read) (p.plus 2) rest
          | none => .error ⟨.invalidEscape, (p.plus 1).peeked (e :: rest)⟩
    else if c.toNat < 0x20 then .error ⟨.controlCharacter, p.after c⟩
    else readString (c :: read) (p.after c) rest

/-- Steps over a string whose opening quote has been read; surrogates need no partner. -/
def skipString (p : Position) : List Char → Except JsonError Cursor
  | [] => .error ⟨.endInString, p⟩
  | c :: rest =>
    if c = '"' then .ok ⟨rest, p.plus 1⟩
    else if c = '\\' then
      match rest with
      | [] => .error ⟨.endInString, p.plus 1⟩
      | e :: rest =>
        if e = 'u' then
          match rest with
          | a :: b :: c :: d :: rest =>
            if (hexValue? [a, b, c, d]).isSome then skipString (p.plus 6) rest
            else .error (hexFault (p.plus 2) (a :: b :: c :: d :: rest))
          | short => .error (hexFault (p.plus 2) short)
        else if (escapedChar? e).isSome then skipString (p.plus 2) rest
        else .error ⟨.invalidEscape, (p.plus 1).peeked (e :: rest)⟩
    else if c.toNat < 0x20 then .error ⟨.controlCharacter, p⟩
    else skipString (p.after c) rest

/-- Reads a run of decimal digits, possibly empty. -/
def readDigits (c : Cursor) : List Nat × Cursor :=
  let digits := c.rest.takeWhile Char.isDigit
  (digits.map fun d => d.toNat - '0'.toNat,
    ⟨c.rest.dropWhile Char.isDigit, c.position.plus digits.length⟩)

/-- Leaves out a sign in front of an exponent; answers whether the exponent is positive. -/
def readSign (c : Cursor) : Bool × Cursor :=
  match c.rest with
  | '+' :: _ => (true, c.drop)
  | '-' :: _ => (false, c.drop)
  | _ => (true, c)

/-- The digits of a number in the grammar of JSON, after its sign. -/
structure Numeral where
  whole : List Nat
  fraction : List Nat := []
  isInteger : Bool := true
  exponentPositive : Bool := true
  exponent : List Nat := []

/-- Reads the exponent, if there is one. -/
def readExponent (n : Numeral) (c : Cursor) : Except JsonError (Numeral × Cursor) :=
  match c.rest with
  | 'e' :: _ | 'E' :: _ =>
    let (positive, afterSign) := readSign c.drop
    match afterSign.rest with
    | [] => afterSign.fault .endInValue
    | d :: _ =>
      if d.isDigit then
        let (digits, after) := readDigits afterSign
        .ok ({ n with isInteger := false, exponentPositive := positive, exponent := digits },
          after)
      else afterSign.peekFault .invalidNumber
  | _ => .ok (n, c)

/-- Reads a number whose sign has been read. -/
def readNumeral (c : Cursor) : Except JsonError (Numeral × Cursor) :=
  match c.rest with
  | [] => c.fault .endInValue
  | d :: next =>
    if d.isDigit then
      if d = '0' ∧ (next.head?.any Char.isDigit) then c.drop.peekFault .invalidNumber
      else
        let (whole, afterWhole) := readDigits c
        match afterWhole.rest with
        | '.' :: _ =>
          let (fraction, after) := readDigits afterWhole.drop
          if fraction.isEmpty then
            match after.rest with
            | [] => after.fault .endInValue
            | _ => after.peekFault .invalidNumber
          else readExponent { whole, fraction, isInteger := false } after
        | _ => readExponent { whole } afterWhole
    else c.peekFault .invalidNumber

/-- A number without its value has fewer ways to be cut short. -/
def skipNumeral (c : Cursor) : Except JsonError Cursor :=
  match readNumeral c with
  | .ok (_, after) => .ok after
  | .error ⟨.endInValue, p⟩ => .error ⟨.invalidNumber, p⟩
  | .error e => .error e

/-- Appends digits to a significand while it stays below 2^64; answers with the significand and
how many digits were left out. -/
def appendDigits (significand : Nat) : List Nat → Nat × Nat
  | [] => (significand, 0)
  | d :: rest =>
    if significand * 10 + d < 0x10000000000000000 then appendDigits (significand * 10 + d) rest
    else (significand, rest.length + 1)

/-- `x · 10 ^ e`, with `none` when it is out of range. -/
def scaleByTen (x : Float) (e : Int) : Option Float :=
  if e ≥ 0 then
    if x == 0 then some x
    else if e > 308 then none
    else
      let y := x * Float.ofScientific 1 false e.toNat
      if y.isInf then none else some y
  else
    let rec down (x : Float) (e : Nat) : Nat → Float
      | 0 => 0
      | fuel + 1 =>
        if e ≤ 308 then x / Float.ofScientific 1 false e
        else down (x / 1e308) (e - 308) fuel
    some (down x (-e).toNat 8)

/-- The value of a number, or nothing when it is out of range. -/
def Numeral.value? (n : Numeral) (negative : Bool) : Option Found :=
  let (whole, dropped) := appendDigits 0 n.whole
  if n.isInteger && dropped = 0 then
    if !negative then some (.integer whole)
    else if 0 < whole && whole ≤ 0x8000000000000000 then some (.integer (-(whole : Int)))
    else some (.float (-(Float.ofNat whole)))
  else
    let (significand, unread) := appendDigits whole n.fraction
    let point : Int := (dropped : Int) - ((n.fraction.length - unread : Nat) : Int)
    let magnitude : Nat := n.exponent.foldl (fun e d => min (e * 10 + d) 100000000000) 0
    let exponent : Int :=
      if n.exponentPositive then point + magnitude else point - magnitude
    let signed (x : Float) : Found := .float (if negative then -x else x)
    if magnitude ≥ 0x80000000 then
      if significand ≠ 0 && n.exponentPositive then none else some (signed 0)
    else (scaleByTen (Float.ofNat significand) exponent).map signed

end BrowserScript.Json
