import BrowserScript.Json.Value

/-!
The grammar of JSON, over what is left of a text: a relation holds between a text and a rest of it
if what stands in front of the rest is a string, a number, a value and so on. A string that is read
has a meaning (`Spells`), and its surrogates come in pairs; in a value that is stepped over they need
not (`Quoted`). A number says where it ends only with what follows it (`Follows`).
-/

set_option autoImplicit false
set_option relaxedAutoImplicit false

namespace BrowserScript.Json

/-- White space. -/
inductive Blank : List Char → List Char → Prop
  | refl (rest : List Char) : Blank rest rest
  | space {c : Char} {text rest : List Char} (hc : c ∈ [' ', '\n', '\t', '\r'])
    (htext : Blank text rest) : Blank (c :: text) rest

/-! ### Strings -/

/-- A hexadecimal digit of either case. -/
def IsHexDigit (c : Char) (value : Nat) : Prop :=
  value < 16 ∧
    ("0123456789abcdef".toList[value]? = some c ∨ "0123456789ABCDEF".toList[value]? = some c)

/-- Four hexadecimal digits. -/
inductive Hex : List Char → Nat → List Char → Prop
  | mk {c₁ c₂ c₃ c₄ : Char} {d₁ d₂ d₃ d₄ : Nat} (rest : List Char) (h₁ : IsHexDigit c₁ d₁)
    (h₂ : IsHexDigit c₂ d₂) (h₃ : IsHexDigit c₃ d₃) (h₄ : IsHexDigit c₄ d₄) :
    Hex (c₁ :: c₂ :: c₃ :: c₄ :: rest) (((d₁ * 16 + d₂) * 16 + d₃) * 16 + d₄) rest

/-- The letters of escapes, with the characters that they stand for. -/
def shortEscapes : List (Char × Char) :=
  [('"', '"'), ('\\', '\\'), ('/', '/'), ('b', '\x08'), ('f', '\x0C'), ('n', '\n'), ('r', '\r'),
    ('t', '\t')]

/-- A character that stands for itself. -/
def IsPlain (c : Char) : Prop := c ≠ '"' ∧ c ≠ '\\' ∧ 0x20 ≤ c.toNat

/-- A string behind its opening quote, up to the closing one and with it, and its characters. -/
inductive Spells : List Char → List Char → List Char → Prop
  | close (rest : List Char) : Spells ('"' :: rest) [] rest
  | plain {c : Char} {text meant rest : List Char} (hc : IsPlain c)
    (htext : Spells text meant rest) : Spells (c :: text) (c :: meant) rest
  | short {letter c : Char} {text meant rest : List Char} (hescape : (letter, c) ∈ shortEscapes)
    (htext : Spells text meant rest) : Spells ('\\' :: letter :: text) (c :: meant) rest
  | unit {n : Nat} {digits text meant rest : List Char} (hdigits : Hex digits n text)
    (hn : n < 0xD800 ∨ 0xDFFF < n) (htext : Spells text meant rest) :
    Spells ('\\' :: 'u' :: digits) (Char.ofNat n :: meant) rest
  | pair {lead trail : Nat} {digits digits' text meant rest : List Char}
    (hdigits : Hex digits lead ('\\' :: 'u' :: digits')) (hlead : 0xD800 ≤ lead ∧ lead ≤ 0xDBFF)
    (hdigits' : Hex digits' trail text) (htrail : 0xDC00 ≤ trail ∧ trail ≤ 0xDFFF)
    (htext : Spells text meant rest) :
    Spells ('\\' :: 'u' :: digits)
      (Char.ofNat (0x10000 + (lead - 0xD800) * 0x400 + (trail - 0xDC00)) :: meant) rest

/-- A string behind its opening quote, up to the closing one and with it. -/
inductive Quoted : List Char → List Char → Prop
  | close (rest : List Char) : Quoted ('"' :: rest) rest
  | plain {c : Char} {text rest : List Char} (hc : IsPlain c) (htext : Quoted text rest) :
    Quoted (c :: text) rest
  | short {letter c : Char} {text rest : List Char} (hescape : (letter, c) ∈ shortEscapes)
    (htext : Quoted text rest) : Quoted ('\\' :: letter :: text) rest
  | unit {n : Nat} {digits text rest : List Char} (hdigits : Hex digits n text)
    (htext : Quoted text rest) : Quoted ('\\' :: 'u' :: digits) rest

theorem Spells.quoted {text meant rest : List Char} (h : Spells text meant rest) :
    Quoted text rest := by
  induction h with
  | close rest => exact .close rest
  | plain hc _ ih => exact .plain hc ih
  | short hescape _ ih => exact .short hescape ih
  | unit hdigits _ _ ih => exact .unit hdigits ih
  | pair hdigits _ hdigits' _ _ ih => exact .unit hdigits (.unit hdigits' ih)

/-! ### Numbers -/

/-- Digits, at least one. -/
def IsDigits (digits : List Char) : Prop := digits ≠ [] ∧ ∀ c ∈ digits, c.isDigit

/-- Digits that do not start with a zero, or the digit zero alone. -/
def IsWhole (digits : List Char) : Prop :=
  digits = ['0'] ∨ IsDigits digits ∧ digits.head? ≠ some '0'

inductive IsFraction : List Char → Prop
  | none : IsFraction []
  | digits {digits : List Char} (h : IsDigits digits) : IsFraction ('.' :: digits)

inductive IsExponent : List Char → Prop
  | none : IsExponent []
  | digits {e : Char} {sign digits : List Char} (he : e = 'e' ∨ e = 'E')
    (hsign : sign ∈ [[], ['+'], ['-']]) (h : IsDigits digits) : IsExponent (e :: (sign ++ digits))

/-- What may follow a value: white space, a comma, a closing bracket, or nothing. -/
def Follows (rest : List Char) : Prop :=
  ∀ c, rest.head? = some c → c ∈ [' ', '\n', '\t', '\r', ',', ']', '\x7d']

/-! ### Values -/

def Frame.opener : Frame → Char
  | .list => '['
  | .object => '\x7b'

/-- What stands in front of an element: nothing in a list, a key and a colon in an object. -/
inductive Label : Frame → List Char → List Char → Prop
  | list (text : List Char) : Label .list text text
  | object {text key colon rest : List Char} (hbefore : Blank text ('"' :: key))
    (hkey : Quoted key colon) (hcolon : Blank colon (':' :: rest)) : Label .object text rest

/-- What a text is to hold: a value, or the elements of a frame with the bracket that closes it. -/
inductive Form where
  | value
  | elements (frame : Frame)

def words : List (List Char) :=
  [['n', 'u', 'l', 'l'], ['t', 'r', 'u', 'e'], ['f', 'a', 'l', 's', 'e']]

/-- JSON values of all kinds. -/
inductive Written : Form → List Char → List Char → Prop
  | word {word : List Char} (hword : word ∈ words) (rest : List Char) :
    Written .value (word ++ rest) rest
  | number {sign whole fraction exponent rest : List Char} (hsign : sign ∈ [[], ['-']])
    (hwhole : IsWhole whole) (hfraction : IsFraction fraction) (hexponent : IsExponent exponent)
    (hrest : Follows rest) :
    Written .value (sign ++ (whole ++ (fraction ++ (exponent ++ rest)))) rest
  | string {text rest : List Char} (htext : Quoted text rest) : Written .value ('"' :: text) rest
  | empty {text rest : List Char} (frame : Frame) (htext : Blank text (frame.closer :: rest)) :
    Written .value (frame.opener :: text) rest
  | full {text rest : List Char} (frame : Frame) (htext : Written (.elements frame) text rest) :
    Written .value (frame.opener :: text) rest
  | last {frame : Frame} {text labelled value after rest : List Char}
    (hlabel : Label frame text labelled) (hbefore : Blank labelled value)
    (hvalue : Written .value value after) (hafter : Blank after (frame.closer :: rest)) :
    Written (.elements frame) text rest
  | next {frame : Frame} {text labelled value after more rest : List Char}
    (hlabel : Label frame text labelled) (hbefore : Blank labelled value)
    (hvalue : Written .value value after) (hafter : Blank after (',' :: more))
    (hmore : Written (.elements frame) more rest) : Written (.elements frame) text rest

/-! ### How far a text goes -/

theorem Blank.length_le {text rest : List Char} (h : Blank text rest) :
    rest.length ≤ text.length := by
  induction h with
  | refl => exact Nat.le_refl _
  | space _ _ ih => exact Nat.le_succ_of_le ih

theorem Hex.length_le {digits rest : List Char} {n : Nat} (h : Hex digits n rest) :
    rest.length ≤ digits.length := by
  cases h
  simp only [List.length_cons]
  omega

theorem Quoted.length_lt {text rest : List Char} (h : Quoted text rest) :
    rest.length < text.length := by
  induction h with
  | close => exact Nat.lt_succ_self _
  | plain _ _ ih => exact Nat.lt_succ_of_lt ih
  | short _ _ ih => exact Nat.lt_succ_of_lt (Nat.lt_succ_of_lt ih)
  | unit hdigits _ ih =>
    have hlength := hdigits.length_le
    simp only [List.length_cons]
    omega

theorem Label.length_le {frame : Frame} {text rest : List Char} (h : Label frame text rest) :
    rest.length ≤ text.length := by
  cases h with
  | list => exact Nat.le_refl _
  | object hbefore hkey hcolon =>
    have h₁ := hbefore.length_le
    have h₂ := hkey.length_lt
    have h₃ := hcolon.length_le
    simp only [List.length_cons] at h₁ h₃
    omega

end BrowserScript.Json
