import Mathlib.Tactic.SplitIfs
import BrowserScript.Json.Document
import BrowserScript.Proofs.Json.Object

/-!
What is written is JSON: every character of a string is one that stands for itself or an escape that
means it, so an encoded record is an object with these members in order. Read as the record it was,
it gives the values back (`readRecord_encodeRecord`).
-/

set_option autoImplicit false
set_option relaxedAutoImplicit false

namespace BrowserScript.Json

/-! ### Strings -/

theorem isHexDigit_digitChar : ∀ value < 16, IsHexDigit (Nat.digitChar value) value := by
  unfold IsHexDigit
  decide

/-- A control character is less than 32, so two digits of its four are zeros. -/
theorem hex_of_control {c : Char} (hcontrol : c.toNat < 0x20) (rest : List Char) :
    Hex ('0' :: '0' :: Nat.digitChar (c.toNat / 16) :: Nat.digitChar (c.toNat % 16) :: rest)
      c.toNat rest := by
  have hzero : IsHexDigit '0' 0 := isHexDigit_digitChar 0 (by decide)
  have hhigh := isHexDigit_digitChar (c.toNat / 16) (by omega)
  have hlow := isHexDigit_digitChar (c.toNat % 16) (by omega)
  have hvalue : ((0 * 16 + 0) * 16 + c.toNat / 16) * 16 + c.toNat % 16 = c.toNat := by omega
  have hdigits := Hex.mk rest hzero hzero hhigh hlow
  rwa [hvalue] at hdigits

theorem spells_encodeChar {text meant rest : List Char} (c : Char) (h : Spells text meant rest) :
    Spells (encodeChar c ++ text) (c :: meant) rest := by
  unfold encodeChar
  split_ifs with hquote hbackslash hb hf hn hr ht hcontrol
  iterate 7 (subst c; exact .short (by decide) h)
  · have hunit := Spells.unit (hex_of_control hcontrol text) (.inl (by omega)) h
    rwa [Char.ofNat_toNat] at hunit
  · exact .plain ⟨hquote, hbackslash, by omega⟩ h

theorem spells_flatMap (text rest : List Char) :
    Spells (text.flatMap encodeChar ++ '"' :: rest) text rest := by
  induction text with
  | nil => exact .close rest
  | cons c text ih =>
    rw [List.flatMap_cons, List.append_assoc]
    exact spells_encodeChar c ih

theorem toList_encodeString (text : String) (rest : List Char) :
    (encodeString text).toList ++ rest =
      '"' :: (text.toList.flatMap encodeChar ++ '"' :: rest) := by
  simp [encodeString]

/-! ### Records -/

theorem holds_encode (value : FieldValue) (rest : List Char) :
    Holds (value.encode.toList ++ rest) (some value) rest := by
  cases value with
  | text value =>
    have hholds := Holds.text (spells_flatMap value.toList rest)
    rwa [String.ofList_toList, ← toList_encodeString] at hholds
  | truth value =>
    cases value with
    | false => exact .isFalse rest
    | true => exact .isTrue rest

/-- A member as it is written. -/
def encodeMember (member : String × FieldValue) : String :=
  encodeString member.1 ++ ":" ++ member.2.encode

theorem member_encodeMember (member : String × FieldValue) (rest : List Char) :
    Member ((encodeMember member).toList ++ rest) (member.1, some member.2) rest := by
  have hkey := spells_flatMap member.1.toList (':' :: (member.2.encode.toList ++ rest))
  have hmember := Member.mk (.refl _) hkey (.refl _) (.refl _) (holds_encode member.2 rest)
  rw [String.ofList_toList, ← toList_encodeString] at hmember
  simpa [encodeMember] using hmember

/-- Members as a text has them that holds these values. -/
def held (given : List (String × FieldValue)) : List (String × Option FieldValue) :=
  given.map fun member ↦ (member.1, some member.2)

theorem members_encodeMembers (member : String × FieldValue) (members : List (String × FieldValue))
    (rest : List Char) :
    Members ((encodeMembers (member :: members)).toList ++ '\x7d' :: rest)
      (held (member :: members)) rest := by
  induction members generalizing member with
  | nil =>
    have hmember := member_encodeMember member ('\x7d' :: rest)
    have htext : encodeMembers [member] = encodeMember member := by
      simp [encodeMembers, encodeMember]
    rw [htext]
    exact .last hmember (.refl _)
  | cons next members ih =>
    have hmore := ih next
    have htext : encodeMembers (member :: next :: members) =
        encodeMember member ++ "," ++ encodeMembers (next :: members) := by
      simp [encodeMembers, encodeMember, String.intercalate_cons_cons]
    have hmember := member_encodeMember member
      (',' :: ((encodeMembers (next :: members)).toList ++ '\x7d' :: rest))
    rw [htext]
    simp only [String.toList_append, List.append_assoc]
    exact .next hmember (.refl _) hmore

theorem objectText_encodeRecord (members : List (String × FieldValue)) :
    ObjectText (encodeRecord members) (held members) := by
  have htext : (encodeRecord members).toList =
      '\x7b' :: ((encodeMembers members).toList ++ ['\x7d']) := by simp [encodeRecord]
  refine ⟨(encodeMembers members).toList ++ ['\x7d'], [], ?_, ?_, .refl _⟩
  · rw [htext]
    exact .refl _
  · cases members with
    | nil => exact .empty (.refl _)
    | cons member members => exact .full (members_encodeMembers member members [])

/-- A record that is written with its fields in order is read back. -/
theorem readRecord_encodeRecord {shape : RecordShape} {values : List FieldValue}
    (hwanted : shape.fields.map (·.wanted) = values.map (·.wanted))
    (honce : (shape.fields.map (·.name)).Nodup) :
    readRecord shape (encodeRecord ((shape.fields.map (·.name)).zip values)) = .ok values := by
  have hlength : shape.fields.length = values.length := by
    simpa using congrArg List.length hwanted
  have hnames : (held ((shape.fields.map (·.name)).zip values)).map (·.1) =
      shape.fields.map (·.name) := by
    rw [held, List.map_map]
    exact List.map_fst_zip (by simp [hlength])
  have hpairs : List.Forall₂
      (fun (field : Field) (value : FieldValue) ↦ field.wanted = value.wanted) shape.fields values := by
    rw [← List.forall₂_eq_eq_eq] at hwanted
    exact List.forall₂_map_right_iff.mp (List.forall₂_map_left_iff.mp hwanted)
  refine readRecord_of_object (objectText_encodeRecord _) ?_ ?_
  · rw [fieldNames, hnames]
    exact honce.filter _
  · refine List.forall₂_iff_zip.mpr ⟨hlength, fun {field value} hzip ↦ ?_⟩
    refine .member (List.mem_map.mpr ⟨(field.name, value), ?_, rfl⟩) (List.forall₂_zip hpairs hzip)
    rw [List.zip_map_left]
    exact List.mem_map.mpr ⟨(field, value), hzip, rfl⟩

end BrowserScript.Json
