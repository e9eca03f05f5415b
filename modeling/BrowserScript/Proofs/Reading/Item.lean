import BrowserScript.Proofs.Wrapper.CodeHistory
import BrowserScript.Proofs.Wrapper.LiteralForm
import BrowserScript.Script.Character

/-!
A script as a list of items: the stretches of text that a reader of scripts passes one by one.
`Reads` says which items may be read in front of a text. It leaves open whether a slash divides or
starts a regular expression, which is for the grammar to say, and it lists as odd the few texts that
no reader of wrappers expects. `Agrees` says of a reading that it has none of those, and that each
slash is what the history in front of it says (`regexMayStart`).
-/

set_option autoImplicit false
set_option relaxedAutoImplicit false

namespace BrowserScript.Reading

open Text Wrapper

/-- What is open at a place of a script: a group in braces, or a substitution of a template. -/
inductive Opener where
  | brace
  | substitution
  deriving DecidableEq, Repr

/-- A stretch of a script. -/
inductive Item where
  /-- Space, a name, a number, or a mark that is neither a brace nor a slash. -/
  | plain (text : List Char)
  | string (quote : Char) (text : List Char)
  | lineComment (text : List Char)
  | blockComment (text : List Char)
  | division
  | regex (text flags : List Char)
  | openBrace
  | closeBrace
  /-- Template text, behind a backtick or the end of a substitution, up to a backtick or the start
  of a substitution. -/
  | template (resumes continues : Bool) (text : List Char)
  /-- A name or flags with an escape in braces, a comment from the time of scripts inside of pages,
  or the line that names an interpreter. -/
  | odd (text : List Char)
  deriving DecidableEq, Repr

def Item.text : Item → List Char
  | .plain text | .odd text => text
  | .string quote text => quote :: text
  | .lineComment text => '/' :: '/' :: text
  | .blockComment text => '/' :: '*' :: text
  | .division => ['/']
  | .regex text flags => '/' :: (text ++ flags)
  | .openBrace => ['\x7b']
  | .closeBrace => ['\x7d']
  | .template resumes continues text =>
    (if resumes then '\x7d' else '`') :: (text ++ if continues then ['$', '\x7b'] else ['`'])

/-- The text of items, the last of which comes first. -/
def itemsText : List Item → List Char
  | [] => []
  | item :: items => itemsText items ++ item.text

/-- What an item leaves open; it may only close what has been opened last. -/
def Item.turn : Item → List Opener → Option (List Opener)
  | .openBrace, opened => some (.brace :: opened)
  | .closeBrace, .brace :: opened => some opened
  | .closeBrace, _ => none
  | .template false false _, opened => some opened
  | .template false true _, opened => some (.substitution :: opened)
  | .template true false _, .substitution :: opened => some opened
  | .template true true _, .substitution :: opened => some (.substitution :: opened)
  | .template true _ _, _ => none
  | _, opened => some opened

/-- What items leave open, the last of which comes first. -/
def openedBy (opened : List Opener) : List Item → Option (List Opener)
  | [] => some opened
  | item :: items => (openedBy opened items).bind item.turn

/-- A line break in the sense of scripts, or the end of the text, stands in front. -/
def AtLineEnd (rest : List Char) : Prop :=
  rest = [] ∨ rest.head?.any Script.isLineBreak

/-- Text with an escape that takes more than one character behind the backslash: a line break of two
characters, or a number in braces. -/
def HoldsLongEscape (text : List Char) : Prop :=
  ['\\', '\r', '\n'] <:+: text ∨ ['\\', 'u', '\x7b'] <:+: text

/-- The text of an item has the form that its kind demands, in front of what follows. -/
def Item.Formed (rest : List Char) : Item → Prop
  | .plain text => ∀ c ∈ text, c ∉ ['\'', '"', '`', '/', '\x7b', '\x7d']
  | .string quote text =>
    (quote = '\'' ∨ quote = '"') ∧ (StringRest quote text ∨ HoldsLongEscape text)
  | .lineComment text =>
    ∃ line, (∀ c ∈ line, ¬Script.isLineBreak c) ∧
      (text = line ∧ AtLineEnd rest ∨ text = line ++ ['\r'] ∧ rest.head? = some '\n')
  | .blockComment text => BlockCommentRest text
  | .division => rest.head? ≠ some '/' ∧ rest.head? ≠ some '*'
  | .regex text flags =>
    text.head? ≠ some '/' ∧ text.head? ≠ some '*' ∧ RegexRest false text ∧ FlagsBefore flags rest
  | .openBrace | .closeBrace => True
  | .template _ _ text => TemplateStretch text ∨ HoldsLongEscape text
  | .odd text =>
    ['#', '!'] <+: text ∨ ['<', '!', '-', '-'] <+: text ∨ ['-', '-', '>'] <+: text ∨
      ['\\', 'u'] <:+: text

/-- Items, the last of which comes first, that have been read in front of a text. -/
inductive Reads : List Item → List Char → Prop
  | nil (text : List Char) : Reads [] text
  | cons {items : List Item} {item : Item} {rest : List Char}
    (hitems : Reads items (item.text ++ rest)) (hform : item.Formed rest) :
    Reads (item :: items) rest

/-! ### Agreement -/

/-- The braces that are open after a history, innermost first; `true` for an object literal or a
substitution. -/
def braceFlags : List Element → List Bool
  | .openBrace :: history => opensObject history :: braceFlags history
  | .substitution :: history => true :: braceFlags history
  | .closeBrace _ :: history => (braceFlags history).tail
  | _ :: history => braceFlags history
  | [] => []

/-- The history behind an item. -/
def Item.elements (history : List Element) : Item → List Element
  | .plain text | .odd text => (text.map .char).reverse ++ history
  | .string .. | .regex .. => .literal :: history
  | .lineComment _ | .blockComment _ => .comment :: history
  | .division => .char '/' :: history
  | .openBrace => .openBrace :: history
  | .closeBrace => .closeBrace ((braceFlags history).headD false) :: history
  | .template resumes continues _ =>
    (if continues then .substitution else .literal) ::
      (if resumes then .closeBrace true :: history else history)

def elements : List Item → List Element
  | [] => []
  | item :: items => item.elements (elements items)

/-- A reader that knows the history only takes the item for the same. A slash is what the history
says, a line comment ends in front of a line feed, and no escape takes part of what ends a string or
a template. -/
def Item.Agrees (history : List Element) (rest : List Char) : Item → Prop
  | .plain _ | .blockComment _ | .openBrace | .closeBrace => True
  | .string quote text => StringRest quote text
  | .lineComment _ => rest = [] ∨ rest.head? = some '\n'
  | .division => regexMayStart history = false
  | .regex .. => regexMayStart history = true
  | .template _ _ text => TemplateStretch text
  | .odd _ => False

/-- All items in front of a text agree. -/
def Agrees : List Item → List Char → Prop
  | [], _ => True
  | item :: items, rest =>
    Agrees items (item.text ++ rest) ∧ item.Agrees (elements items) rest

end BrowserScript.Reading
