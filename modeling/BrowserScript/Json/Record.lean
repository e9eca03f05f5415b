import BrowserScript.Json.Value

/-!
Records of texts and truth values as JSON objects, or as JSON lists of their fields in order.
Members that are not fields are stepped over; a field that comes twice, or a required one that
does not come at all, is a fault.
-/

set_option autoImplicit false

namespace BrowserScript.Json

/-- What a field holds. -/
inductive FieldValue where
  | text (value : String)
  | truth (value : Bool)
  deriving DecidableEq, Repr, Inhabited

/-- A field: its name, what it holds, and the value it has when it is left out. -/
structure Field where
  name : String
  wanted : Wanted
  default : Option FieldValue := none

structure RecordShape where
  name : String
  fields : List Field

namespace Field

def read (field : Field) (c : Cursor) : Except JsonError (FieldValue × Cursor) :=
  match field.wanted with
  | .truthValue => do
    let (value, after) ← readTruthValue c
    return (.truth value, after)
  | _ => do
    let (value, after) ← readText c
    return (.text value, after)

end Field

/-- Is there another element in a list? Its comma is left out. -/
def nextElement (first : Bool) (c : Cursor) : Except JsonError (Bool × Cursor) :=
  let c := c.skipSpace
  match c.rest with
  | [] => c.peekFault .endInList
  | d :: _ =>
    if d = ']' then .ok (false, c)
    else if first then .ok (true, c)
    else if d = ',' then
      let c := c.drop.skipSpace
      match c.rest with
      | [] => c.peekFault .endInValue
      | d :: _ => if d = ']' then c.peekFault .trailingComma else .ok (true, c)
    else c.peekFault .expectedListEnd

/-- The next key of an object, if there is one. -/
def nextKey (first : Bool) (c : Cursor) : Except JsonError (Option String × Cursor) := do
  let c := c.skipSpace
  match c.rest with
  | [] => c.peekFault .endInObject
  | '\x7d' :: _ => return (none, c)
  | '"' :: rest =>
    if first then
      let (key, after) ← readString [] (c.position.plus 1) rest
      return (some key, after)
    else c.peekFault .expectedObjectEnd
  | ',' :: _ =>
    if first then c.peekFault .keyNotString
    else
      let c := c.drop.skipSpace
      match c.rest with
      | [] => c.peekFault .endInValue
      | '"' :: rest =>
        let (key, after) ← readString [] (c.position.plus 1) rest
        return (some key, after)
      | '\x7d' :: _ => c.peekFault .trailingComma
      | _ => c.peekFault .keyNotString
  | _ => c.peekFault (if first then .keyNotString else .expectedObjectEnd)

/-- The fields of a record, or the fault of the record as a whole, and where reading stopped. -/
abbrev Outcome := Except Fault (List FieldValue) × Cursor

/-- Reads the elements of a list as fields in order; `count` of them have been read. -/
def readElements (shape : RecordShape) (count : Nat) :
    List Field → Cursor → Except JsonError Outcome
  | [], c => .ok (.ok [], c)
  | field :: fields, c => do
    let (found, c) ← nextElement (count = 0) c
    if found then
      let (value, c) ← field.read c
      let (values, c) ← readElements shape (count + 1) fields c
      return (values.map (value :: ·), c)
    else
      match field.default with
      | none => return (.error (.invalidLength count shape.name shape.fields.length), c)
      | some value =>
        let (values, c) ← readElements shape (count + 1) fields c
        return (values.map (value :: ·), c)

/-- The values of all fields, in the order of the fields. -/
def collect (members : List (String × FieldValue)) : List Field → Except Fault (List FieldValue)
  | [] => .ok []
  | field :: fields => do
    match (members.lookup field.name).or field.default with
    | none => .error (.missingField field.name)
    | some value => return value :: (← collect members fields)

/-- Reads the members of an object; every turn reads a key, so the length of the text bounds the
turns. -/
def readMembers (shape : RecordShape) :
    Nat → Bool → List (String × FieldValue) → Cursor → Except JsonError Outcome
  | 0, _, _, c => c.peekFault .endInObject
  | fuel + 1, first, members, c => do
    let (key, c) ← nextKey first c
    readMember shape fuel members key c
where
  /-- Reads the value of a key and goes on. -/
  readMember (shape : RecordShape) (fuel : Nat) (members : List (String × FieldValue))
      (key : Option String) (c : Cursor) : Except JsonError Outcome := do
    match key with
    | none => return (collect members shape.fields, c)
    | some key =>
      match shape.fields.find? (·.name = key) with
      | none => readMembers shape fuel false members (← skipValue (← readColon c))
      | some field =>
        if (members.lookup key).isSome then return (.error (.duplicateField key), c)
        else
          let (value, c) ← field.read (← readColon c)
          readMembers shape fuel false ((key, value) :: members) c

/-- Leaves the list of a record. The cursor counts also when the list does not end here. -/
def closeList (c : Cursor) : Option JsonError × Cursor :=
  let c := c.skipSpace
  match c.rest with
  | [] => (some ⟨.endInList, c.position⟩, c)
  | ']' :: _ => (none, c.drop)
  | ',' :: _ =>
    let c := c.drop.skipSpace
    let fault : Fault := if c.rest.head? = some ']' then .trailingComma else .trailingCharacters
    (some ⟨fault, c.position.peeked c.rest⟩, c)
  | _ => (some ⟨.trailingCharacters, c.position.peeked c.rest⟩, c)

/-- Leaves the object of a record. -/
def closeObject (c : Cursor) : Option JsonError × Cursor :=
  let c := c.skipSpace
  match c.rest with
  | [] => (some ⟨.endInObject, c.position⟩, c)
  | '\x7d' :: _ => (none, c.drop)
  | ',' :: _ => (some ⟨.trailingComma, c.position.peeked c.rest⟩, c)
  | _ => (some ⟨.trailingCharacters, c.position.peeked c.rest⟩, c)

/-- A fault of the record as a whole is placed where the attempt to leave it stops. -/
def leave (close : Cursor → Option JsonError × Cursor) (outcome : Outcome) :
    Except JsonError (List FieldValue × Cursor) :=
  let (closing, after) := close outcome.2
  match outcome.1, closing with
  | .error fault, _ => .error ⟨fault, after.position⟩
  | .ok _, some e => .error e
  | .ok values, none => .ok (values, after)

/-- Reads a record; nothing but white space may follow it. -/
def readRecord (shape : RecordShape) (text : String) : Except JsonError (List FieldValue) := do
  let c := (Cursor.ofString text).skipSpace
  let (values, after) ←
    match c.rest with
    | [] => c.peekFault .endInValue
    | '[' :: _ => do leave closeList (← readElements shape 0 shape.fields c.drop)
    | '\x7b' :: _ => do
      leave closeObject (← readMembers shape (c.rest.length + 1) true [] c.drop)
    | _ => wrongType (.record shape.name) c
  let after := after.skipSpace
  match after.rest with
  | [] => return values
  | _ => after.peekFault .trailingCharacters

end BrowserScript.Json
