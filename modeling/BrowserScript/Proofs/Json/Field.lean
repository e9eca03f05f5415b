import BrowserScript.Json.Record
import BrowserScript.Proofs.Computation
import BrowserScript.Proofs.Json.Skip

/-!
Records in JSON texts: objects with their members and lists with their elements, as far as the
fields of a record are concerned. A field takes a value of its kind (`field_read_of_holds`), and no
value leads it beyond its own end (`rest_of_field_read`).
-/

set_option autoImplicit false
set_option relaxedAutoImplicit false

namespace BrowserScript.Json

/-! ### Texts of objects and lists -/

/-- A value, and what it means to a field; of `none` it is only known that it is a value. -/
inductive Holds : List Char → Option FieldValue → List Char → Prop
  | text {text meant rest : List Char} (htext : Spells text meant rest) :
    Holds ('"' :: text) (some (.text (String.ofList meant))) rest
  | isTrue (rest : List Char) : Holds ('t' :: 'r' :: 'u' :: 'e' :: rest) (some (.truth true)) rest
  | isFalse (rest : List Char) :
    Holds ('f' :: 'a' :: 'l' :: 's' :: 'e' :: rest) (some (.truth false)) rest
  | any {text rest : List Char} (htext : Written .value text rest) : Holds text none rest

theorem Holds.written {text rest : List Char} {value : Option FieldValue}
    (h : Holds text value rest) : Written .value text rest := by
  cases h with
  | text htext => exact .string htext.quoted
  | isTrue => exact @Written.word ['t', 'r', 'u', 'e'] (by decide) rest
  | isFalse => exact @Written.word ['f', 'a', 'l', 's', 'e'] (by decide) rest
  | any htext => exact htext

/-- A member of an object: its name and what it holds. -/
inductive Member : List Char → String × Option FieldValue → List Char → Prop
  | mk {text key name colon gap value rest : List Char} {meant : Option FieldValue}
    (hbefore : Blank text ('"' :: key)) (hkey : Spells key name colon)
    (hcolon : Blank colon (':' :: gap)) (hgap : Blank gap value) (hvalue : Holds value meant rest) :
    Member text (String.ofList name, meant) rest

/-- Members with commas between them, up to the closing brace and with it. -/
inductive Members : List Char → List (String × Option FieldValue) → List Char → Prop
  | last {text after rest : List Char} {member : String × Option FieldValue}
    (hmember : Member text member after) (hafter : Blank after ('\x7d' :: rest)) :
    Members text [member] rest
  | next {text after more rest : List Char} {member : String × Option FieldValue}
    {members : List (String × Option FieldValue)} (hmember : Member text member after)
    (hafter : Blank after (',' :: more)) (hmore : Members more members rest) :
    Members text (member :: members) rest

theorem Members.written {text rest : List Char} {members : List (String × Option FieldValue)}
    (h : Members text members rest) : Written (.elements .object) text rest := by
  induction h with
  | last hmember hafter =>
    cases hmember with
    | mk hbefore hkey hcolon hgap hvalue =>
      exact .last (.object hbefore hkey.quoted hcolon) hgap hvalue.written hafter
  | next hmember hafter _ ih =>
    cases hmember with
    | mk hbefore hkey hcolon hgap hvalue =>
      exact .next (.object hbefore hkey.quoted hcolon) hgap hvalue.written hafter ih

/-- What stands behind the opening brace of an object. -/
inductive ObjectRest : List Char → List (String × Option FieldValue) → List Char → Prop
  | empty {text rest : List Char} (htext : Blank text ('\x7d' :: rest)) : ObjectRest text [] rest
  | full {text rest : List Char} {members : List (String × Option FieldValue)}
    (htext : Members text members rest) : ObjectRest text members rest

/-- An object on its own, with its members in order. -/
def ObjectText (text : String) (members : List (String × Option FieldValue)) : Prop :=
  ∃ inside after, Blank text.toList ('\x7b' :: inside) ∧ ObjectRest inside members after ∧
    Blank after []

/-- Members up to one whose name is no string of characters: a surrogate in it stands alone. -/
inductive Misnamed : List Char → Prop
  | here {text key colon : List Char} (hbefore : Blank text ('"' :: key)) (hkey : Quoted key colon)
    (hname : ∀ name, ¬Spells key name colon) : Misnamed text
  | later {text after more : List Char} {member : String × Option FieldValue}
    (hmember : Member text member after) (hafter : Blank after (',' :: more))
    (hmore : Misnamed more) : Misnamed text

/-- An object with such a name, whatever follows it. -/
def MisnamedText (text : String) : Prop :=
  ∃ inside, Blank text.toList ('\x7b' :: inside) ∧ Misnamed inside

/-- Elements with commas between them, up to the closing bracket and with it. -/
inductive Elements : List Char → List (Option FieldValue) → List Char → Prop
  | last {text value after rest : List Char} {meant : Option FieldValue}
    (hbefore : Blank text value) (hvalue : Holds value meant after)
    (hafter : Blank after (']' :: rest)) : Elements text [meant] rest
  | next {text value after more rest : List Char} {meant : Option FieldValue}
    {elements : List (Option FieldValue)} (hbefore : Blank text value)
    (hvalue : Holds value meant after) (hafter : Blank after (',' :: more))
    (hmore : Elements more elements rest) : Elements text (meant :: elements) rest

/-- What stands behind the opening bracket of a list. -/
inductive ListRest : List Char → List (Option FieldValue) → List Char → Prop
  | empty {text rest : List Char} (htext : Blank text (']' :: rest)) : ListRest text [] rest
  | full {text rest : List Char} {elements : List (Option FieldValue)}
    (htext : Elements text elements rest) : ListRest text elements rest

/-- A list on its own, with its elements in order. -/
def ListText (text : String) (elements : List (Option FieldValue)) : Prop :=
  ∃ inside after, Blank text.toList ('[' :: inside) ∧ ListRest inside elements after ∧
    Blank after []

/-! ### Fields -/

/-- What a field asks for to hold a value. -/
def FieldValue.wanted : FieldValue → Wanted
  | .text _ => .text
  | .truth _ => .truthValue

theorem wrongType_ne_ok {α : Type} (wanted : Wanted) (c : Cursor) (a : α) :
    wrongType wanted c ≠ .ok a := by
  intro h
  unfold wrongType at h
  split at h
  case h_1 | h_2 | h_3 =>
    obtain ⟨_, _, h⟩ := exists_of_bind_eq_ok h
    cases h
  case h_4 =>
    obtain ⟨⟨_, _⟩, _, h⟩ := exists_of_bind_eq_ok h
    cases h
  case h_7 =>
    split at h
    · obtain ⟨⟨_, _⟩, _, h⟩ := exists_of_bind_eq_ok h
      dsimp only at h
      split at h <;> cases h
    · cases h
  all_goals cases h

/-- A field takes a value that means what it asks for. -/
theorem field_read_of_holds {field : Field} {before value rest : List Char} {meant : FieldValue}
    (hbefore : Blank before value) (hvalue : Holds value (some meant) rest)
    (hwanted : field.wanted = meant.wanted) (p : Position) :
    ∃ p', field.read ⟨before, p⟩ = .ok (meant, ⟨rest, p'⟩) := by
  obtain ⟨p₁, hskip⟩ := skipSpace_of_blank hbefore hvalue.written.solid p
  cases hvalue with
  | text htext =>
    obtain ⟨p', hread⟩ := readString_of_spells htext [] (p₁.plus 1)
    refine ⟨p', ?_⟩
    simp only [Field.read, hwanted, FieldValue.wanted, readText, hskip, hread]
    rfl
  | isTrue =>
    obtain ⟨p', hread⟩ := readWord_append ['r', 'u', 'e'] rest (p₁.after 't')
    refine ⟨p', ?_⟩
    rw [List.cons_append, List.cons_append, List.cons_append, List.nil_append] at hread
    simp only [Field.read, hwanted, FieldValue.wanted, readTruthValue, hskip, Cursor.drop, hread]
    rfl
  | isFalse =>
    obtain ⟨p', hread⟩ := readWord_append ['a', 'l', 's', 'e'] rest (p₁.after 'f')
    refine ⟨p', ?_⟩
    rw [List.cons_append, List.cons_append, List.cons_append, List.cons_append,
      List.nil_append] at hread
    simp only [Field.read, hwanted, FieldValue.wanted, readTruthValue, hskip, Cursor.drop, hread]
    rfl

/-- A value that starts like a string or a word is one. -/
theorem Written.of_head {d : Char} {more rest : List Char} (h : Written .value (d :: more) rest) :
    (d = '"' → Quoted more rest) ∧ (d = 't' → more = 'r' :: 'u' :: 'e' :: rest) ∧
      (d = 'f' → more = 'a' :: 'l' :: 's' :: 'e' :: rest) := by
  generalize htext : d :: more = text at h
  cases h with
  | word hword =>
    simp only [words, List.mem_cons, List.not_mem_nil, or_false] at hword
    rcases hword with rfl | rfl | rfl <;> cases htext <;> simp
  | number hsign hwhole =>
    simp only [List.mem_cons, List.not_mem_nil, or_false] at hsign
    rcases hsign with rfl | rfl
    · obtain ⟨c, digits, rfl, hc⟩ := hwhole.isDigits.exists_cons
      have hne := ne_of_isDigit hc
      cases htext
      simp [hne]
    · cases htext
      simp
  | string hquoted =>
    cases htext
    simp [hquoted]
  | empty frame | full frame => cases frame <;> cases htext <;> simp [Frame.opener]

theorem rest_of_readText {before value rest : List Char} {p : Position} {text : String} {c : Cursor}
    (hbefore : Blank before value) (hvalue : Written .value value rest)
    (h : readText ⟨before, p⟩ = .ok (text, c)) : c.rest = rest := by
  obtain ⟨p₁, hskip⟩ := skipSpace_of_blank hbefore hvalue.solid p
  simp only [readText, hskip] at h
  split at h
  · cases h
  · exact rest_of_readString (hvalue.of_head.1 rfl) h
  · exact (wrongType_ne_ok _ _ _ h).elim

theorem rest_of_readTruthValue {before value rest : List Char} {p : Position} {truth : Bool}
    {c : Cursor} (hbefore : Blank before value) (hvalue : Written .value value rest)
    (h : readTruthValue ⟨before, p⟩ = .ok (truth, c)) : c.rest = rest := by
  obtain ⟨p₁, hskip⟩ := skipSpace_of_blank hbefore hvalue.solid p
  simp only [readTruthValue, hskip] at h
  split at h
  case h_1 => cases h
  case h_2 =>
    obtain ⟨c', hword, h⟩ := exists_of_bind_eq_ok h
    cases h
    exact List.append_cancel_left ((rest_of_readWord hword).symm.trans (hvalue.of_head.2.1 rfl))
  case h_3 =>
    obtain ⟨c', hword, h⟩ := exists_of_bind_eq_ok h
    cases h
    exact List.append_cancel_left ((rest_of_readWord hword).symm.trans (hvalue.of_head.2.2 rfl))
  case h_4 => exact (wrongType_ne_ok _ _ _ h).elim

/-- A field that accepts a value has read it to its end. -/
theorem rest_of_field_read {field : Field} {before value rest : List Char} {p : Position}
    {meant : FieldValue} {c : Cursor} (hbefore : Blank before value)
    (hvalue : Written .value value rest) (h : field.read ⟨before, p⟩ = .ok (meant, c)) :
    c.rest = rest := by
  unfold Field.read at h
  split at h
  · obtain ⟨⟨truth, c'⟩, hread, h⟩ := exists_of_bind_eq_ok h
    cases h
    exact rest_of_readTruthValue hbefore hvalue hread
  · obtain ⟨⟨text, c'⟩, hread, h⟩ := exists_of_bind_eq_ok h
    cases h
    exact rest_of_readText hbefore hvalue hread

/-! ### Turns -/

/-- What stands in front of a member or an element: nothing if it is the first, and else a comma. -/
inductive Lead : Bool → List Char → List Char → Prop
  | first (text : List Char) : Lead true text text
  | comma {before text : List Char} (hbefore : Blank before (',' :: text)) : Lead false before text

theorem ok_of_leave {close : Cursor → Option JsonError × Cursor}
    {outcome : Except Fault (List FieldValue)} {c : Cursor} {left : List FieldValue × Cursor}
    (h : leave close (outcome, c) = .ok left) : ∃ values, outcome = .ok values := by
  cases outcome with
  | ok values => exact ⟨values, rfl⟩
  | error fault => cases h

end BrowserScript.Json
