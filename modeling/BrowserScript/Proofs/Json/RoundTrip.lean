import BrowserScript.Proofs.Json.Elements
import BrowserScript.Proofs.Json.Encoding

/-!
Build descriptors and minified scripts in JSON. What is written is read back, whatever characters
the strings have. A descriptor is also read from an object with its members in any order and others
among them, and from a list of its fields; the flag may be left out where it is set, and nothing else
may be left out or come twice.
-/

set_option autoImplicit false
set_option relaxedAutoImplicit false

namespace BrowserScript

namespace Json

/-! ### Writing and reading -/

/-- Reading undoes writing. So a text that is accepted may be written anew and means the same, and
what has been written once does not change when it is written again. -/
structure RoundTrips {α : Type} (write : α → String) (read : String → Except JsonError α) :
    Prop where
  read_write : ∀ a, read (write a) = .ok a
  read_again : ∀ text a, read text = .ok a → read (write a) = read text
  write_again : ∀ text written, (read text).map write = .ok written →
    (read written).map write = .ok written

theorem RoundTrips.of_read_write {α : Type} {write : α → String}
    {read : String → Except JsonError α} (h : ∀ a, read (write a) = .ok a) :
    RoundTrips write read where
  read_write := h
  read_again text a hread := (h a).trans hread.symm
  write_again text written hwritten := by
    cases hread : read text with
    | error fault =>
      rw [hread] at hwritten
      cases hwritten
    | ok a =>
      rw [hread] at hwritten
      cases hwritten
      rw [h a]
      rfl

/-! ### Members in any order -/

variable {shape : RecordShape}

/-- The members that are fields, in the order of the text. -/
def fieldMembers (shape : RecordShape) (members : List (String × Option FieldValue)) :
    List (String × Option FieldValue) :=
  members.filter fun member ↦ (shape.field? member.1).isSome

theorem map_fieldMembers (members : List (String × Option FieldValue)) :
    (fieldMembers shape members).map (·.1) = fieldNames shape members := by
  rw [fieldNames, List.filter_map]
  rfl

/-- What members give to a field, all those give that have the same fields in some order. -/
theorem gives_of_perm {members given : List (String × Option FieldValue)} {field : Field}
    {value : FieldValue} (hperm : (fieldMembers shape members).Perm given)
    (hfield : field ∈ shape.fields) (h : Gives given field value) : Gives members field value := by
  cases h with
  | member hmember hwanted =>
    have hmem := hperm.mem_iff.mpr hmember
    exact .member (List.mem_filter.mp hmem).1 hwanted
  | default hmissing hdefault =>
    refine .default (fun hmem ↦ hmissing ?_) hdefault
    rw [← (hperm.map (·.1)).mem_iff, map_fieldMembers]
    exact List.mem_filter.mpr ⟨hmem, field?_isSome hfield⟩

theorem readRecord_of_perm {text : String} {members given : List (String × Option FieldValue)}
    (h : ObjectText text members) (hperm : (fieldMembers shape members).Perm given)
    (honce : (given.map (·.1)).Nodup) {values : List FieldValue}
    (hgives : List.Forall₂ (Gives given) shape.fields values) :
    readRecord shape text = .ok values := by
  refine readRecord_of_object h ?_ ?_
  · rwa [← map_fieldMembers, (hperm.map (·.1)).nodup_iff]
  · obtain ⟨hlength, hgives⟩ := List.forall₂_iff_zip.mp hgives
    refine List.forall₂_iff_zip.mpr ⟨hlength, fun {field value} hzip ↦ ?_⟩
    exact gives_of_perm hperm (List.of_mem_zip hzip).1 (hgives hzip)

end Json

open Json

namespace MinifiedScript

theorem toJson_eq (s : MinifiedScript) :
    s.toJson = encodeRecord ((shape.fields.map (·.name)).zip [.text s.code]) := rfl

theorem ofJson_toJson (s : MinifiedScript) : ofJson s.toJson = .ok s := by
  rw [ofJson, toJson_eq, readRecord_encodeRecord rfl (by decide)]
  rfl

end MinifiedScript

namespace BuildDescriptor

/-- The fields of a descriptor, with their names. -/
def members (d : BuildDescriptor) : List (String × FieldValue) :=
  [("name", .text d.name), ("version", .text d.version), ("additionalInfo", .text d.additionalInfo),
    ("withCopyright", .truth d.withCopyright)]

/-- The fields that a text may give for a descriptor: all, or all but the flag if it is set. -/
inductive Given (d : BuildDescriptor) : List (String × FieldValue) → Prop
  | full : Given d d.members
  | flagless (hflag : d.withCopyright = true) : Given d d.members.dropLast

theorem ofJson_of_readRecord {text : String} {d : BuildDescriptor}
    (h : readRecord shape text = .ok (d.members.map (·.2))) : ofJson text = .ok d := by
  rw [ofJson, h]
  rfl

theorem toJson_eq (d : BuildDescriptor) :
    d.toJson = encodeRecord ((shape.fields.map (·.name)).zip (d.members.map (·.2))) := rfl

theorem ofJson_toJson (d : BuildDescriptor) : ofJson d.toJson = .ok d := by
  rw [toJson_eq]
  exact ofJson_of_readRecord (readRecord_encodeRecord rfl (by decide))

variable {d : BuildDescriptor} {given : List (String × FieldValue)}

theorem Given.gives (h : Given d given) :
    List.Forall₂ (Gives (held given)) shape.fields (d.members.map (·.2)) := by
  cases h with
  | full =>
    refine .cons (.member ?_ rfl) (.cons (.member ?_ rfl) (.cons (.member ?_ rfl)
      (.cons (.member ?_ rfl) .nil))) <;> simp [held, members]
  | flagless hflag =>
    refine .cons (.member ?_ rfl) (.cons (.member ?_ rfl) (.cons (.member ?_ rfl)
      (.cons (.default ?_ ?_) .nil))) <;> simp [held, members, hflag]

theorem Given.fits (h : Given d given) :
    Fits shape.fields (given.map fun member ↦ some member.2) (d.members.map (·.2)) := by
  cases h with
  | full => exact .element rfl (.element rfl (.element rfl (.element rfl .nil)))
  | flagless hflag =>
    have hdefault : some (FieldValue.truth true) = some (.truth d.withCopyright) := by rw [hflag]
    exact .element rfl (.element rfl (.element rfl (.default hdefault .nil)))

/-- The members of an object may stand in any order, and others among them. -/
theorem ofJson_of_object {text : String} {found : List (String × Option FieldValue)}
    (hgiven : Given d given) (h : ObjectText text found)
    (hperm : (fieldMembers shape found).Perm (held given)) : ofJson text = .ok d := by
  have honce : ((held given).map (·.1)).Nodup := by
    cases hgiven <;> simp [held, members]
  exact ofJson_of_readRecord (readRecord_of_perm h hperm honce hgiven.gives)

theorem ofJson_of_list {text : String} (hgiven : Given d given)
    (h : ListText text (given.map fun member ↦ some member.2)) : ofJson text = .ok d :=
  ofJson_of_readRecord (readRecord_of_list h hgiven.fits)

theorem error_of_readRecord_ne_ok {text : String}
    (h : ∀ values, readRecord shape text ≠ .ok values) : ∃ fault, ofJson text = .error fault := by
  cases hread : readRecord shape text with
  | ok values => exact (h values hread).elim
  | error fault => exact ⟨fault, by rw [ofJson, hread]; rfl⟩

/-- The names that have no default. -/
def requiredNames : List String := ["name", "version", "additionalInfo"]

theorem exists_required {name : String} (h : name ∈ requiredNames) :
    ∃ field ∈ shape.fields, field.default = none ∧ field.name = name := by
  revert name
  decide

theorem exists_required_drop :
    ∀ n < requiredNames.length, ∃ field ∈ shape.fields.drop n, field.default = none := by
  decide

/-- An object that has a field twice, or lacks one that is required, is refused. -/
theorem ofJson_of_repeated_or_missing {text : String} {found : List (String × Option FieldValue)}
    (h : ObjectText text found)
    (hbad : ¬((fieldMembers shape found).map (·.1)).Nodup ∨
      ∃ name ∈ requiredNames, name ∉ found.map (·.1)) :
    ∃ fault, ofJson text = .error fault := by
  refine error_of_readRecord_ne_ok fun values hread ↦ ?_
  obtain ⟨honce, hrequired⟩ := object_of_readRecord h hread
  rcases hbad with htwice | ⟨name, hname, hmissing⟩
  · rw [map_fieldMembers] at htwice
    exact htwice honce
  · obtain ⟨field, hfield, hdefault, rfl⟩ := exists_required hname
    exact hmissing (hrequired field hfield hdefault)

/-- An object is refused if a name in it has a surrogate that stands alone. -/
theorem ofJson_of_misnamed {text : String} (h : MisnamedText text) :
    ∃ fault, ofJson text = .error fault :=
  error_of_readRecord_ne_ok (readRecord_ne_ok_of_misnamed h)

/-- A list that ends in front of a required field is refused. -/
theorem ofJson_of_short_list {text : String} {elements : List (Option FieldValue)}
    (h : ListText text elements) (hshort : elements.length < requiredNames.length) :
    ∃ fault, ofJson text = .error fault := by
  refine error_of_readRecord_ne_ok fun values hread ↦ ?_
  obtain ⟨field, hfield, hdefault⟩ := exists_required_drop _ hshort
  exact list_of_readRecord h hread field hfield hdefault

end BuildDescriptor

open BuildDescriptor

/-- Writing and reading are inverse for both documents. A descriptor is read from every object and
from every list that gives its fields; other objects and shorter lists are refused. -/
theorem documents_round_trip :
    RoundTrips BuildDescriptor.toJson BuildDescriptor.ofJson ∧
      RoundTrips MinifiedScript.toJson MinifiedScript.ofJson ∧
      (∀ d given text found, Given d given → ObjectText text found →
        (fieldMembers BuildDescriptor.shape found).Perm (held given) →
          BuildDescriptor.ofJson text = .ok d) ∧
      (∀ d given text, Given d given → ListText text (given.map fun member ↦ some member.2) →
        BuildDescriptor.ofJson text = .ok d) ∧
      (∀ text found, ObjectText text found →
        ¬((fieldMembers BuildDescriptor.shape found).map (·.1)).Nodup ∨
          (∃ name ∈ requiredNames, name ∉ found.map (·.1)) →
        ∃ fault, BuildDescriptor.ofJson text = .error fault) ∧
      (∀ text, MisnamedText text → ∃ fault, BuildDescriptor.ofJson text = .error fault) ∧
      ∀ text elements, ListText text elements → elements.length < requiredNames.length →
        ∃ fault, BuildDescriptor.ofJson text = .error fault :=
  ⟨.of_read_write BuildDescriptor.ofJson_toJson, .of_read_write MinifiedScript.ofJson_toJson,
    fun _ _ _ _ hgiven h hperm ↦ ofJson_of_object hgiven h hperm,
    fun _ _ _ hgiven h ↦ ofJson_of_list hgiven h,
    fun _ _ h hbad ↦ ofJson_of_repeated_or_missing h hbad, fun _ h ↦ ofJson_of_misnamed h,
    fun _ _ h hshort ↦ ofJson_of_short_list h hshort⟩

/-- An object in another order with one member more, a list, and an object that lacks everything. -/
theorem documents_round_trip_shuffled :
    BuildDescriptor.ofJson
        "\x7b\"x\":[null],\"version\":\"b\",\"additionalInfo\":\"c\",\"name\":\"\\\"\"\x7d" =
        .ok { name := "\"", version := "b", additionalInfo := "c" } ∧
      BuildDescriptor.ofJson "[\"a\",\"b\",\"c\"]" =
        .ok { name := "a", version := "b", additionalInfo := "c" } ∧
      ∃ fault, BuildDescriptor.ofJson "\x7b\x7d" = .error fault := by
  obtain ⟨-, -, hobject, hlist, hrefused, -⟩ := documents_round_trip
  refine ⟨?_, ?_, ?_⟩
  · have htext :
        "\x7b\"x\":[null],\"version\":\"b\",\"additionalInfo\":\"c\",\"name\":\"\\\"\"\x7d".toList =
          '\x7b' :: '"' :: 'x' :: '"' :: ':' :: '[' :: (['n', 'u', 'l', 'l'] ++ ']' :: ',' ::
            ((encodeMembers [("version", .text "b"), ("additionalInfo", .text "c"),
              ("name", .text "\"")]).toList ++ ['\x7d'])) := rfl
    have hmembers := members_encodeMembers ("version", .text "b")
      [("additionalInfo", .text "c"), ("name", .text "\"")] []
    have hname (rest : List Char) : Spells ('x' :: '"' :: rest) ['x'] rest :=
      .plain ⟨by decide, by decide, by decide⟩ (.close rest)
    have hnull (rest : List Char) :
        Holds ('[' :: (['n', 'u', 'l', 'l'] ++ ']' :: rest)) none rest :=
      .any (.full .list (.last (.list _) (.refl _) (.word (.head _) _) (.refl _)))
    have hfirst (rest : List Char) : Member ('"' :: 'x' :: '"' :: ':' :: '[' ::
        (['n', 'u', 'l', 'l'] ++ ']' :: rest)) (String.ofList ['x'], none) rest :=
      .mk (.refl _) (hname _) (.refl _) (.refl _) (hnull rest)
    have hinside := ObjectRest.full (.next (hfirst _) (.refl _) hmembers)
    refine hobject _ _ _ _ (.flagless rfl) ⟨_, [], ?_, hinside, .refl _⟩ ?_
    · rw [htext]
      exact .refl _
    · decide
  · have htext : "[\"a\",\"b\",\"c\"]".toList =
        '[' :: ((FieldValue.text "a").encode.toList ++ ',' ::
          ((FieldValue.text "b").encode.toList ++ ',' ::
            ((FieldValue.text "c").encode.toList ++ [']']))) := rfl
    have hlast := Elements.last (.refl _) (holds_encode (.text "c") [']']) (.refl _)
    have hmiddle := Elements.next (.refl _) (holds_encode (.text "b") _) (.refl _) hlast
    have hinside := ListRest.full (.next (.refl _) (holds_encode (.text "a") _) (.refl _) hmiddle)
    refine hlist _ _ _ (.flagless rfl) ⟨_, [], ?_, hinside, .refl _⟩
    rw [htext]
    exact .refl _
  · have htext : ObjectText "\x7b\x7d" [] := ⟨['\x7d'], [], .refl _, .empty (.refl _), .refl _⟩
    exact hrefused _ [] htext (.inr ⟨"name", .head _, nofun⟩)

theorem quoted_unpaired (text : List Char) :
    Quoted ('\\' :: 'u' :: 'd' :: '8' :: '0' :: '0' :: '"' :: text) text :=
  .unit (@hex_of_hexValue? 'd' '8' '0' '0' 0xD800 (by decide) _) (.close text)

/-- A surrogate that stands alone spells nothing. -/
theorem not_spells_unpaired (text meant rest : List Char) :
    ¬Spells ('\\' :: 'u' :: 'd' :: '8' :: '0' :: '0' :: '"' :: text) meant rest := by
  intro h
  cases h with
  | plain hc => exact hc.2.1 rfl
  | short hescape => exact (escapedChar?_of_mem hescape).2 rfl
  | unit hdigits hn =>
    obtain ⟨_, _, _, _, hcons, hvalue⟩ := hexValue?_of_hex hdigits
    cases hcons
    have hnumber : hexValue? ['d', '8', '0', '0'] = some 0xD800 := by decide
    cases hnumber.symm.trans hvalue
    rcases hn with hn | hn <;> exact absurd hn (by decide)
  | pair hdigits =>
    obtain ⟨_, _, _, _, hcons, _⟩ := hexValue?_of_hex hdigits
    cases hcons

/-- A member that is no field has a JSON value, and still its object is refused for its name. -/
theorem unpaired_name_refused :
    BuildDescriptor.ofJson "\x7b\"name\":\"a\",\"version\":\"b\",\"additionalInfo\":\"c\"\x7d" =
        .ok { name := "a", version := "b", additionalInfo := "c" } ∧
      Written .value ("\x7b\"\\ud800\":0," ++
        "\"name\":\"a\",\"version\":\"b\",\"additionalInfo\":\"c\"\x7d").toList [] ∧
      ∃ fault, BuildDescriptor.ofJson ("\x7b\"\\ud800\":0," ++
        "\"name\":\"a\",\"version\":\"b\",\"additionalInfo\":\"c\"\x7d") = .error fault := by
  have hplain : "\x7b\"name\":\"a\",\"version\":\"b\",\"additionalInfo\":\"c\"\x7d" =
      encodeRecord [("name", .text "a"), ("version", .text "b"), ("additionalInfo", .text "c")] := rfl
  have htext : ("\x7b\"\\ud800\":0," ++
      "\"name\":\"a\",\"version\":\"b\",\"additionalInfo\":\"c\"\x7d").toList =
        '\x7b' :: '"' :: '\\' :: 'u' :: 'd' :: '8' :: '0' :: '0' :: '"' :: ':' :: '0' :: ',' ::
          ((encodeMembers [("name", .text "a"), ("version", .text "b"),
            ("additionalInfo", .text "c")]).toList ++ ['\x7d']) := rfl
  have hmembers := members_encodeMembers ("name", .text "a")
    [("version", .text "b"), ("additionalInfo", .text "c")] []
  have hzero (rest : List Char) : Written .value ('0' :: ',' :: rest) (',' :: rest) := by
    refine @Written.number [] ['0'] [] [] _ (by decide) (.inl rfl) .none .none fun c hc ↦ ?_
    cases hc
    decide
  refine ⟨?_, ?_, ?_⟩
  · rw [hplain]
    exact ofJson_of_object (.flagless rfl) (objectText_encodeRecord _) (.of_eq rfl)
  · rw [htext]
    exact .full .object (.next (.object (.refl _) (quoted_unpaired _) (.refl _)) (.refl _) (hzero _)
      (.refl _) hmembers.written)
  · refine ofJson_of_misnamed ?_
    rw [MisnamedText, htext]
    exact ⟨_, .refl _, .here (.refl _) (quoted_unpaired _) fun name ↦ not_spells_unpaired _ name _⟩

end BrowserScript
