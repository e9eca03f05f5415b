import BrowserScript.Json.Token

/-!
Members of a JSON record: reading a text or a truth value, and stepping over a value of any kind.
A value of the wrong kind is named in the fault, with its content when it is a plain value.
-/

set_option autoImplicit false

namespace BrowserScript.Json

/-- Reports the value that comes next as one of the wrong kind. -/
def wrongType {α : Type} (wanted : Wanted) (c : Cursor) : Except JsonError α :=
  match c.rest with
  | 'n' :: _ => do
    let after ← readWord ['u', 'l', 'l'] c.drop
    after.fault (.invalidType .null wanted)
  | 't' :: _ => do
    let after ← readWord ['r', 'u', 'e'] c.drop
    after.fault (.invalidType (.bool true) wanted)
  | 'f' :: _ => do
    let after ← readWord ['a', 'l', 's', 'e'] c.drop
    after.fault (.invalidType (.bool false) wanted)
  | '"' :: rest => do
    let (text, after) ← readString [] (c.position.plus 1) rest
    after.fault (.invalidType (.string text) wanted)
  | '[' :: _ => c.fault (.invalidType .list wanted)
  | '\x7b' :: _ => c.fault (.invalidType .object wanted)
  | d :: _ =>
    if d = '-' ∨ d.isDigit then do
      let (numeral, after) ← readNumeral (if d = '-' then c.drop else c)
      match numeral.value? (d = '-') with
      | some found => after.fault (.invalidType found wanted)
      | none => after.fault .numberOutOfRange
    else c.peekFault .expectedValue
  | [] => c.peekFault .expectedValue

def readText (c : Cursor) : Except JsonError (String × Cursor) :=
  let c := c.skipSpace
  match c.rest with
  | [] => c.peekFault .endInValue
  | '"' :: rest => readString [] (c.position.plus 1) rest
  | _ => wrongType .text c

def readTruthValue (c : Cursor) : Except JsonError (Bool × Cursor) :=
  let c := c.skipSpace
  match c.rest with
  | [] => c.peekFault .endInValue
  | 't' :: _ => do return (true, ← readWord ['r', 'u', 'e'] c.drop)
  | 'f' :: _ => do return (false, ← readWord ['a', 'l', 's', 'e'] c.drop)
  | _ => wrongType .truthValue c

/-- Reads the colon between a key and its value. -/
def readColon (c : Cursor) : Except JsonError Cursor :=
  let c := c.skipSpace
  match c.rest with
  | [] => c.peekFault .endInObject
  | ':' :: _ => .ok c.drop
  | _ => c.peekFault .expectedColon

/-- A list or an object around the place that is read. -/
inductive Frame where
  | list
  | object
  deriving DecidableEq, Repr, Inhabited

def Frame.closer : Frame → Char
  | .list => ']'
  | .object => '\x7d'

def Frame.endFault : Frame → Fault
  | .list => .endInList
  | .object => .endInObject

def Frame.commaFault : Frame → Fault
  | .list => .expectedListEnd
  | .object => .expectedObjectEnd

/-- Steps over a key and its colon. -/
def skipKey (c : Cursor) : Except JsonError Cursor := do
  let c := c.skipSpace
  match c.rest with
  | [] => c.peekFault .endInObject
  | '"' :: rest => readColon (← skipString (c.position.plus 1) rest)
  | _ => c.peekFault .keyNotString

/-- Steps over what comes before an element of a frame: nothing in a list, a key in an object. -/
def Frame.skipLabel (frame : Frame) (c : Cursor) : Except JsonError Cursor :=
  match frame with
  | .list => .ok c
  | .object => skipKey c

/-- What is to come next: a value, the first element or the end of a frame just opened, or what
follows a value. -/
inductive Expecting where
  | value
  | element
  | separator
  deriving DecidableEq, Repr, Inhabited

/-- Steps over one value. The frames around the place stand in a list, innermost first; every
second turn reads a character, so twice the length of the text bounds the turns. -/
def skipValueFrom : Nat → Expecting → List Frame → Cursor → Except JsonError Cursor
  | 0, _, _, c => c.peekFault .endInValue
  | fuel + 1, .value, frames, c => do
    let c := c.skipSpace
    match c.rest with
    | [] => c.peekFault .endInValue
    | 'n' :: _ =>
      skipValueFrom fuel .separator frames (← readWord ['u', 'l', 'l'] c.drop)
    | 't' :: _ =>
      skipValueFrom fuel .separator frames (← readWord ['r', 'u', 'e'] c.drop)
    | 'f' :: _ =>
      skipValueFrom fuel .separator frames (← readWord ['a', 'l', 's', 'e'] c.drop)
    | '"' :: rest =>
      skipValueFrom fuel .separator frames (← skipString (c.position.plus 1) rest)
    | '[' :: _ => skipValueFrom fuel .element (.list :: frames) c.drop
    | '\x7b' :: _ => skipValueFrom fuel .element (.object :: frames) c.drop
    | d :: _ =>
      if d = '-' ∨ d.isDigit then
        skipValueFrom fuel .separator frames (← skipNumeral (if d = '-' then c.drop else c))
      else c.peekFault .expectedValue
  | _ + 1, .element, [], c => .ok c
  | fuel + 1, .element, frame :: frames, c => do
    let c := c.skipSpace
    match c.rest with
    | [] => c.peekFault frame.endFault
    | d :: _ =>
      if d = frame.closer then skipValueFrom fuel .separator frames c.drop
      else skipValueFrom fuel .value (frame :: frames) (← frame.skipLabel c)
  | _ + 1, .separator, [], c => .ok c
  | fuel + 1, .separator, frame :: frames, c => do
    let c := c.skipSpace
    match c.rest with
    | [] => c.peekFault frame.endFault
    | d :: _ =>
      if d = ',' then skipValueFrom fuel .value (frame :: frames) (← frame.skipLabel c.drop)
      else if d = frame.closer then skipValueFrom fuel .separator frames c.drop
      else c.peekFault frame.commaFault

def skipValue (c : Cursor) : Except JsonError Cursor :=
  skipValueFrom (2 * c.rest.length + 2) .value [] c

end BrowserScript.Json
