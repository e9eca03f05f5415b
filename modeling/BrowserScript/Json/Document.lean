import BrowserScript.Banner
import BrowserScript.MinifiedScript
import BrowserScript.Json.Record

/-!
The JSON form of a build descriptor and of a minified script: an object with all fields in order
and no white space. Reading accepts any order, further members, and a list of the fields; only
the copyright flag may be left out.
-/

set_option autoImplicit false

namespace BrowserScript

namespace Json

/-- Writes a character of a string: quotes, backslashes and controls are escaped. -/
def encodeChar (c : Char) : List Char :=
  if c = '"' then ['\\', '"']
  else if c = '\\' then ['\\', '\\']
  else if c = '\x08' then ['\\', 'b']
  else if c = '\x0C' then ['\\', 'f']
  else if c = '\n' then ['\\', 'n']
  else if c = '\r' then ['\\', 'r']
  else if c = '\t' then ['\\', 't']
  else if c.toNat < 0x20 then
    ['\\', 'u', '0', '0', Nat.digitChar (c.toNat / 16), Nat.digitChar (c.toNat % 16)]
  else [c]

def encodeString (text : String) : String :=
  String.ofList ('"' :: text.toList.flatMap encodeChar ++ ['"'])

def FieldValue.encode : FieldValue → String
  | .text value => encodeString value
  | .truth value => if value then "true" else "false"

def encodeMembers (members : List (String × FieldValue)) : String :=
  ",".intercalate (members.map fun (name, value) => encodeString name ++ ":" ++ value.encode)

def encodeRecord (members : List (String × FieldValue)) : String :=
  "\x7b" ++ encodeMembers members ++ "\x7d"

end Json

open Json

namespace BuildDescriptor

def shape : RecordShape where
  name := "BuildDescriptor"
  fields :=
    [{ name := "name", wanted := .text },
      { name := "version", wanted := .text },
      { name := "additionalInfo", wanted := .text },
      { name := "withCopyright", wanted := .truthValue, default := some (.truth true) }]

def toJson (d : BuildDescriptor) : String :=
  encodeRecord
    [("name", .text d.name), ("version", .text d.version),
      ("additionalInfo", .text d.additionalInfo), ("withCopyright", .truth d.withCopyright)]

def ofFields : List FieldValue → BuildDescriptor
  | [.text name, .text version, .text additionalInfo, .truth withCopyright] =>
    { name, version, additionalInfo, withCopyright }
  | _ => { name := "", version := "", additionalInfo := "" }

def ofJson (text : String) : Except JsonError BuildDescriptor :=
  (readRecord shape text).map ofFields

end BuildDescriptor

namespace MinifiedScript

def shape : RecordShape where
  name := "TransformResult"
  fields := [{ name := "code", wanted := .text }]

def toJson (s : MinifiedScript) : String := encodeRecord [("code", .text s.code)]

def ofFields : List FieldValue → MinifiedScript
  | [.text code] => ⟨code⟩
  | _ => ⟨""⟩

def ofJson (text : String) : Except JsonError MinifiedScript :=
  (readRecord shape text).map ofFields

end MinifiedScript

end BrowserScript
