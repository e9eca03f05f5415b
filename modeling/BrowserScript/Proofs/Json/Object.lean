import Mathlib.Data.List.Forall2
import BrowserScript.Proofs.Json.Field

/-!
Records as objects, read member by member. A member that is no field may have any value; a field
takes the value that its member means. So the order of the members plays no part
(`readRecord_of_object`), while an object that names a field twice, or leaves out one that is
required, is never accepted (`object_of_readRecord`), nor is one with a name that is no string of
characters (`readRecord_ne_ok_of_misnamed`).
-/

set_option autoImplicit false
set_option relaxedAutoImplicit false

namespace BrowserScript.Json

/-! ### Members -/

/-- A key is the string behind the quote that comes next. -/
theorem nextKey_of_quote {first : Bool} {before text key : List Char}
    (hlead : Lead first before text) (hbefore : Blank text ('"' :: key)) (p : Position) :
    ∃ p', nextKey first ⟨before, p⟩ = do
      let (name, after) ← readString [] p' key
      return (some name, after) := by
  cases hlead with
  | first =>
    obtain ⟨p₁, hskip⟩ := skipSpace_of_blank hbefore (solid_cons (by decide) _) p
    exact ⟨p₁.plus 1, by simp only [nextKey, hskip, if_true]⟩
  | comma hcomma =>
    obtain ⟨p₁, hskip⟩ := skipSpace_of_blank hcomma (solid_cons (by decide) _) p
    obtain ⟨p₂, hskip'⟩ := skipSpace_of_blank hbefore (solid_cons (by decide) _) (p₁.after ',')
    refine ⟨p₂.plus 1, ?_⟩
    simp only [nextKey, hskip, Cursor.drop, hskip']
    rfl

theorem nextKey_of_spells {first : Bool} {before text key name rest : List Char}
    (hlead : Lead first before text) (hbefore : Blank text ('"' :: key))
    (hkey : Spells key name rest) (p : Position) :
    ∃ p', nextKey first ⟨before, p⟩ = .ok (some (String.ofList name), ⟨rest, p'⟩) := by
  obtain ⟨p₁, hnext⟩ := nextKey_of_quote hlead hbefore p
  obtain ⟨p', hread⟩ := readString_of_spells hkey [] p₁
  refine ⟨p', ?_⟩
  rw [hnext, hread]
  rfl

theorem nextKey_of_closer {before rest : List Char} (hbefore : Blank before ('\x7d' :: rest))
    (first : Bool) (p : Position) :
    ∃ p', nextKey first ⟨before, p⟩ = .ok (none, ⟨'\x7d' :: rest, p'⟩) := by
  obtain ⟨p', hskip⟩ := skipSpace_of_blank hbefore (solid_cons (by decide) _) p
  refine ⟨p', ?_⟩
  simp only [nextKey, hskip]
  rfl

variable {shape : RecordShape} {acc : List (String × FieldValue)}

/-- The field of a name. -/
def RecordShape.field? (shape : RecordShape) (name : String) : Option Field :=
  shape.fields.find? (·.name = name)

/-- The values that have been read when a member is left. -/
def taken (shape : RecordShape) (acc : List (String × FieldValue))
    (member : String × Option FieldValue) : List (String × FieldValue) :=
  match shape.field? member.1, member.2 with
  | some _, some value => (member.1, value) :: acc
  | _, _ => acc

/-- A member that is a field holds what the field asks for. -/
def Suits (shape : RecordShape) (member : String × Option FieldValue) : Prop :=
  ∀ field, shape.field? member.1 = some field →
    ∃ value, member.2 = some value ∧ field.wanted = value.wanted

theorem readMembers_of_member {first : Bool} {before text after : List Char}
    {member : String × Option FieldValue} (hlead : Lead first before text)
    (hmember : Member text member after) (hsuits : Suits shape member)
    (hfresh : (shape.field? member.1).isSome → acc.lookup member.1 = none) (fuel : Nat)
    (p : Position) :
    ∃ p', readMembers shape (fuel + 1) first acc ⟨before, p⟩ =
      readMembers shape fuel false (taken shape acc member) ⟨after, p'⟩ := by
  cases hmember with
  | @mk _ name _ _ _ _ meant hbefore hkey hcolon hgap hvalue =>
    obtain ⟨p₁, hnext⟩ := nextKey_of_spells hlead hbefore hkey p
    obtain ⟨p₂, hcolon⟩ := readColon_of_blank hcolon p₁
    cases hfield : shape.field? (String.ofList name) with
    | none =>
      obtain ⟨p', hskip⟩ := skipValue_of_written hgap hvalue.written p₂
      refine ⟨p', ?_⟩
      have htaken : taken shape acc (String.ofList name, meant) = acc := by
        simp only [taken, hfield]
      rw [RecordShape.field?] at hfield
      rw [htaken, readMembers, hnext]
      show readMembers.readMember _ _ _ _ _ = _
      simp only [readMembers.readMember, hfield, hcolon]
      show (skipValue _ >>= _) = _
      rw [hskip]
      rfl
    | some field =>
      obtain ⟨value, rfl, hwanted⟩ := hsuits field hfield
      obtain ⟨p', hread⟩ := field_read_of_holds hgap hvalue hwanted p₂
      refine ⟨p', ?_⟩
      have htaken : taken shape acc (String.ofList name, some value) =
          (String.ofList name, value) :: acc := by
        simp only [taken, hfield]
      have hnew := hfresh (by rw [hfield]; rfl)
      rw [RecordShape.field?] at hfield
      rw [htaken, readMembers, hnext]
      show readMembers.readMember _ _ _ _ _ = _
      simp only [readMembers.readMember, hfield, hnew, hcolon]
      show (field.read _ >>= _) = _
      rw [hread]
      rfl

theorem readMembers_of_closer {before rest : List Char} (hbefore : Blank before ('\x7d' :: rest))
    (first : Bool) (fuel : Nat) (p : Position) :
    ∃ p', readMembers shape (fuel + 1) first acc ⟨before, p⟩ =
      .ok (collect acc shape.fields, ⟨'\x7d' :: rest, p'⟩) := by
  obtain ⟨p', hnext⟩ := nextKey_of_closer hbefore first p
  refine ⟨p', ?_⟩
  rw [readMembers, hnext]
  show readMembers.readMember _ _ _ _ _ = _
  rw [readMembers.readMember]
  rfl

/-- The names of members that are fields. -/
def fieldNames (shape : RecordShape) (members : List (String × Option FieldValue)) : List String :=
  (members.map (·.1)).filter fun name ↦ (shape.field? name).isSome

/-- What a member of that name means; the first one counts. -/
def meaning (members : List (String × Option FieldValue)) (name : String) : Option FieldValue :=
  (members.lookup name).join

theorem fieldNames_cons_of_none {member : String × Option FieldValue}
    {members : List (String × Option FieldValue)} (h : shape.field? member.1 = none) :
    fieldNames shape (member :: members) = fieldNames shape members := by
  simp [fieldNames, h]

theorem fieldNames_cons_of_some {member : String × Option FieldValue}
    {members : List (String × Option FieldValue)} {field : Field}
    (h : shape.field? member.1 = some field) :
    fieldNames shape (member :: members) = member.1 :: fieldNames shape members := by
  simp [fieldNames, h]

/-- The values that have been read answer to a name as the members do. -/
theorem lookup_taken {member : String × Option FieldValue}
    {members : List (String × Option FieldValue)} (hsuits : Suits shape member) {name : String}
    (hname : (shape.field? name).isSome)
    (hfresh : (shape.field? member.1).isSome → acc.lookup member.1 = none) :
    ((taken shape acc member).lookup name).or (meaning members name) =
      (acc.lookup name).or (meaning (member :: members) name) := by
  obtain ⟨key, meant⟩ := member
  by_cases hkey : name = key
  · subst hkey
    obtain ⟨field, hfield⟩ := Option.isSome_iff_exists.mp hname
    obtain ⟨value, hmeant, _⟩ := hsuits field hfield
    obtain rfl : meant = some value := hmeant
    simp [taken, hfield, hfresh hname, meaning]
  · have hne : (name == key) = false := by simpa using hkey
    have hlookup : (taken shape acc (key, meant)).lookup name = acc.lookup name := by
      unfold taken
      split
      · rw [List.lookup_cons, hne]
      · rfl
    rw [hlookup, meaning, meaning, List.lookup_cons, hne]

theorem lookup_head {member : String × Option FieldValue}
    {members : List (String × Option FieldValue)}
    (hfresh : ∀ name ∈ fieldNames shape (member :: members), acc.lookup name = none)
    (hname : (shape.field? member.1).isSome) : acc.lookup member.1 = none :=
  hfresh _ (by simp [fieldNames, hname])

/-- What is fresh for all members is fresh for the later ones when the first one has been read. -/
theorem lookup_taken_eq_none {member : String × Option FieldValue}
    {members : List (String × Option FieldValue)}
    (honce : (fieldNames shape (member :: members)).Nodup)
    (hfresh : ∀ name ∈ fieldNames shape (member :: members), acc.lookup name = none) :
    (fieldNames shape members).Nodup ∧
      ∀ name ∈ fieldNames shape members, (taken shape acc member).lookup name = none := by
  obtain ⟨key, meant⟩ := member
  cases hfield : shape.field? key with
  | none =>
    rw [fieldNames_cons_of_none hfield] at honce hfresh
    have htaken : taken shape acc (key, meant) = acc := by simp [taken, hfield]
    rw [htaken]
    exact ⟨honce, hfresh⟩
  | some field =>
    rw [fieldNames_cons_of_some hfield] at honce hfresh
    obtain ⟨hkey, honce⟩ := List.nodup_cons.mp honce
    refine ⟨honce, fun name hname ↦ ?_⟩
    have hne : (name == key) = false := by
      have hne : name ≠ key := fun h ↦ hkey (h ▸ hname)
      simpa using hne
    have hold := hfresh name (List.mem_cons_of_mem _ hname)
    unfold taken
    split
    · rw [List.lookup_cons, hne, hold]
    · exact hold

/-- An object whose members suit their fields, each of which is named at most once, is read to its
end. -/
theorem readMembers_of_members {first : Bool} {before text rest : List Char}
    {members : List (String × Option FieldValue)} (h : Members text members rest)
    (hlead : Lead first before text) (hsuits : ∀ member ∈ members, Suits shape member)
    (honce : (fieldNames shape members).Nodup)
    (hfresh : ∀ name ∈ fieldNames shape members, acc.lookup name = none) {fuel : Nat}
    (hfuel : members.length < fuel) (p : Position) :
    ∃ acc' p', readMembers shape fuel first acc ⟨before, p⟩ =
        .ok (collect acc' shape.fields, ⟨'\x7d' :: rest, p'⟩) ∧
      ∀ name, (shape.field? name).isSome →
        acc'.lookup name = (acc.lookup name).or (meaning members name) := by
  induction h generalizing first before acc fuel p with
  | @last text after rest member hmember hafter =>
    obtain ⟨fuel, rfl⟩ : ∃ n, fuel = n + 1 + 1 := ⟨fuel - 2, by simp at hfuel; omega⟩
    have hsuits := hsuits member List.mem_cons_self
    obtain ⟨p₁, hstep⟩ :=
      readMembers_of_member hlead hmember hsuits (lookup_head hfresh) (fuel + 1) p
    obtain ⟨p', hclose⟩ := readMembers_of_closer hafter false fuel p₁
    refine ⟨_, p', hstep.trans hclose, fun name hname ↦ ?_⟩
    rw [← lookup_taken hsuits hname (lookup_head hfresh)]
    exact (Option.or_none).symm
  | @next text after more rest member members hmember hafter hmore ih =>
    obtain _ | fuel := fuel
    · cases hfuel
    have hsuitsHead := hsuits member List.mem_cons_self
    obtain ⟨p₁, hstep⟩ := readMembers_of_member hlead hmember hsuitsHead (lookup_head hfresh) fuel p
    obtain ⟨honce', hfresh'⟩ := lookup_taken_eq_none honce hfresh
    obtain ⟨acc', p', hread, hlookup⟩ :=
      ih (.comma hafter) (fun member hmem ↦ hsuits member (List.mem_cons_of_mem _ hmem)) honce'
        hfresh' (Nat.lt_of_succ_lt_succ hfuel) p₁
    refine ⟨acc', p', hstep.trans hread, fun name hname ↦ ?_⟩
    rw [hlookup name hname, lookup_taken hsuitsHead hname (lookup_head hfresh)]

/-! ### Objects that are refused -/

/-- A member that is accepted is no field, or it is one that has not been read before. -/
theorem of_readMembers_member {first : Bool} {before text after : List Char}
    {member : String × Option FieldValue} {values : List FieldValue} {fuel : Nat} {p : Position}
    {c : Cursor} (hlead : Lead first before text) (hmember : Member text member after)
    (h : readMembers shape (fuel + 1) first acc ⟨before, p⟩ = .ok (.ok values, c)) :
    ∃ acc' p', readMembers shape fuel false acc' ⟨after, p'⟩ = .ok (.ok values, c) ∧
      (shape.field? member.1 = none ∧ acc' = acc ∨
        acc.lookup member.1 = none ∧ ∃ value, acc' = (member.1, value) :: acc) := by
  cases hmember with
  | @mk _ name _ _ _ _ meant hbefore hkey hcolon hgap hvalue =>
    obtain ⟨p₁, hnext⟩ := nextKey_of_spells hlead hbefore hkey p
    obtain ⟨p₂, hcolon⟩ := readColon_of_blank hcolon p₁
    rw [readMembers, hnext] at h
    replace h : readMembers.readMember shape fuel acc (some (String.ofList name)) _ = _ := h
    simp only [readMembers.readMember] at h
    split at h
    · next hfield =>
      rw [hcolon] at h
      obtain ⟨p', hskip⟩ := skipValue_of_written hgap hvalue.written p₂
      obtain ⟨c', hc', h⟩ := exists_of_bind_eq_ok h
      cases hc'
      obtain ⟨c', hc', h⟩ := exists_of_bind_eq_ok h
      rw [hskip] at hc'
      cases hc'
      exact ⟨acc, p', h, .inl ⟨hfield, rfl⟩⟩
    · next field hfield =>
      split at h
      · cases h
      · next hnew =>
        rw [hcolon] at h
        obtain ⟨c', hc', h⟩ := exists_of_bind_eq_ok h
        cases hc'
        obtain ⟨⟨value, c'⟩, hread, h⟩ := exists_of_bind_eq_ok h
        obtain ⟨rest, p'⟩ := c'
        obtain rfl : rest = after := rest_of_field_read hgap hvalue.written hread
        exact ⟨_, p', h, .inr ⟨Option.not_isSome_iff_eq_none.mp hnew, value, rfl⟩⟩

/-- The members that are fields are all new, and the values come from them and from what has been
read before. -/
structure Accounts (shape : RecordShape) (acc : List (String × FieldValue))
    (members : List (String × Option FieldValue)) (values : List FieldValue) : Prop where
  once : (fieldNames shape members).Nodup
  fresh : ∀ name ∈ fieldNames shape members, acc.lookup name = none
  source : ∃ acc', collect acc' shape.fields = .ok values ∧
    ∀ name, acc'.lookup name ≠ none → acc.lookup name ≠ none ∨ name ∈ members.map (·.1)

theorem Accounts.nil {values : List FieldValue} (h : collect acc shape.fields = .ok values) :
    Accounts shape acc [] values :=
  ⟨.nil, nofun, acc, h, fun _ hname ↦ .inl hname⟩

theorem Accounts.cons {acc' : List (String × FieldValue)} {member : String × Option FieldValue}
    {members : List (String × Option FieldValue)} {values : List FieldValue}
    (h : Accounts shape acc' members values)
    (hmember : shape.field? member.1 = none ∧ acc' = acc ∨
      acc.lookup member.1 = none ∧ ∃ value, acc' = (member.1, value) :: acc) :
    Accounts shape acc (member :: members) values := by
  obtain ⟨honce, hfresh, last, hcollect, hsource⟩ := h
  rcases hmember with ⟨hfield, rfl⟩ | ⟨hnew, value, rfl⟩
  · rw [← fieldNames_cons_of_none hfield] at honce hfresh
    exact ⟨honce, hfresh, last, hcollect, fun name hname ↦
      (hsource name hname).imp_right (List.mem_cons_of_mem _)⟩
  · have hne : ∀ name ∈ fieldNames shape members, name ≠ member.1 ∧ acc.lookup name = none := by
      intro name hname
      have hlookup := hfresh name hname
      rw [List.lookup_cons] at hlookup
      split at hlookup
      · cases hlookup
      · next hne => exact ⟨by simpa using hne, hlookup⟩
    have hcons : ∀ name ∈ fieldNames shape (member :: members),
        name = member.1 ∨ name ∈ fieldNames shape members := fun name hname ↦ by
      simp only [fieldNames, List.map_cons, List.mem_filter, List.mem_cons] at hname ⊢
      exact hname.1.imp_right fun hmem ↦ ⟨hmem, hname.2⟩
    refine ⟨?_, fun name hname ↦ ?_, last, hcollect, fun name hname ↦ ?_⟩
    · cases hfield : shape.field? member.1 with
      | none => rwa [fieldNames_cons_of_none hfield]
      | some field =>
        rw [fieldNames_cons_of_some hfield]
        exact List.nodup_cons.mpr ⟨fun hmem ↦ (hne _ hmem).1 rfl, honce⟩
    · rcases hcons name hname with rfl | hname
      · exact hnew
      · exact (hne name hname).2
    · rcases hsource name hname with hold | hmem
      · by_cases hkey : name = member.1
        · exact .inr (by simp [hkey])
        · have hkey' : (name == member.1) = false := by simpa using hkey
          rw [List.lookup_cons, hkey'] at hold
          exact .inl hold
      · exact .inr (List.mem_cons_of_mem _ hmem)

theorem of_readMembers_members {first : Bool} {before text rest : List Char}
    {members : List (String × Option FieldValue)} {values : List FieldValue}
    (h : Members text members rest) (hlead : Lead first before text) {fuel : Nat}
    (hfuel : members.length < fuel) {p : Position} {c : Cursor}
    (hread : readMembers shape fuel first acc ⟨before, p⟩ = .ok (.ok values, c)) :
    Accounts shape acc members values := by
  induction h generalizing first before acc fuel p with
  | @last text after rest member hmember hafter =>
    obtain ⟨fuel, rfl⟩ : ∃ n, fuel = n + 1 + 1 := ⟨fuel - 2, by simp at hfuel; omega⟩
    obtain ⟨acc', p₁, hclose, hstep⟩ := of_readMembers_member hlead hmember hread
    obtain ⟨p', hend⟩ := @readMembers_of_closer shape acc' _ _ hafter false fuel p₁
    have hcollect : collect acc' shape.fields = .ok values :=
      congrArg Prod.fst (Except.ok.inj (hend.symm.trans hclose))
    exact (Accounts.nil hcollect).cons hstep
  | @next text after more rest member members hmember hafter hmore ih =>
    obtain _ | fuel := fuel
    · cases hfuel
    obtain ⟨acc', p', hlater, hstep⟩ := of_readMembers_member hlead hmember hread
    exact (ih (.comma hafter) (Nat.lt_of_succ_lt_succ hfuel) hlater).cons hstep

theorem not_ok_of_misnamed {text : List Char} (h : Misnamed text) {first : Bool}
    {before : List Char} (hlead : Lead first before text) (fuel : Nat) (p : Position)
    (values : List FieldValue) (c : Cursor) : readMembers shape fuel first acc ⟨before, p⟩ ≠ .ok (.ok values, c) := by
  intro hread
  induction h generalizing first before acc fuel p with
  | @here text key colon hbefore hkey hname =>
    obtain _ | fuel := fuel
    · rw [readMembers] at hread
      cases hread
    obtain ⟨p', hnext⟩ := nextKey_of_quote hlead hbefore p
    rw [readMembers, hnext] at hread
    obtain ⟨_, hkeyRead, _⟩ := exists_of_bind_eq_ok hread
    obtain ⟨⟨name, after⟩, hstring, _⟩ := exists_of_bind_eq_ok hkeyRead
    obtain ⟨meant, _, hspells⟩ := spells_of_readString hstring
    rw [rest_of_readString hkey hstring] at hspells
    exact hname meant hspells
  | later hmember hafter _ ih =>
    obtain _ | fuel := fuel
    · rw [readMembers] at hread
      cases hread
    obtain ⟨acc', p', hlater, _⟩ := of_readMembers_member hlead hmember hread
    exact ih (.comma hafter) fuel p' hlater

/-! ### Objects -/

theorem Member.length_lt {text rest : List Char} {member : String × Option FieldValue}
    (h : Member text member rest) : rest.length < text.length := by
  cases h with
  | mk hbefore hkey hcolon hgap hvalue =>
    have h₁ := hbefore.length_le
    have h₂ := hkey.quoted.length_lt
    have h₃ := hcolon.length_le
    have h₄ := hgap.length_le
    have h₅ := hvalue.written.length_lt
    simp only [List.length_cons] at h₁ h₃
    omega

/-- Every member takes a character, so the length of a text bounds the turns. -/
theorem Members.length_lt {text rest : List Char} {members : List (String × Option FieldValue)}
    (h : Members text members rest) : members.length < text.length := by
  induction h with
  | last hmember hafter =>
    have h₁ := hmember.length_lt
    have h₂ := hafter.length_le
    simp only [List.length_cons, List.length_nil] at h₂ ⊢
    omega
  | next hmember hafter _ ih =>
    have h₁ := hmember.length_lt
    have h₂ := hafter.length_le
    simp only [List.length_cons] at h₂ ⊢
    omega

theorem field?_isSome {field : Field} (h : field ∈ shape.fields) :
    (shape.field? field.name).isSome := by
  rw [RecordShape.field?, List.find?_isSome]
  exact ⟨field, h, by simp⟩

theorem exists_of_forall₂ {α β : Type} {R : α → β → Prop} {as : List α} {bs : List β}
    (h : List.Forall₂ R as bs) : ∀ a ∈ as, ∃ b, R a b := by
  have hboth : List.Forall₂ (fun a b ↦ (∃ b, R a b) ∧ R a b) as bs :=
    h.imp fun _ b hb ↦ ⟨⟨b, hb⟩, hb⟩
  exact ((List.forall₂_and_left as bs).mp hboth).1

/-- An object gives the value of its member of that name to a field, and without one the default. -/
inductive Gives (members : List (String × Option FieldValue)) (field : Field)
    (value : FieldValue) : Prop
  | member (hmember : (field.name, some value) ∈ members) (hwanted : field.wanted = value.wanted)
  | default (hmissing : field.name ∉ members.map (·.1)) (hdefault : field.default = some value)

/-- A field that is named once means what its one member holds. -/
theorem meaning_of_mem {members : List (String × Option FieldValue)} {name : String}
    {meant : Option FieldValue} (honce : (fieldNames shape members).Nodup)
    (hname : (shape.field? name).isSome) (h : (name, meant) ∈ members) :
    meaning members name = meant := by
  induction members with
  | nil => cases h
  | cons first members ih =>
    obtain ⟨field, hfield⟩ := Option.isSome_iff_exists.mp hname
    rcases List.mem_cons.mp h with rfl | hmem
    · simp [meaning]
    · by_cases hkey : name = first.1
      · subst hkey
        rw [fieldNames_cons_of_some hfield] at honce
        have hlater : first.1 ∈ fieldNames shape members :=
          List.mem_filter.mpr ⟨List.mem_map.mpr ⟨_, hmem, rfl⟩, hname⟩
        exact ((List.nodup_cons.mp honce).1 hlater).elim
      · have hsublist : (fieldNames shape members).Sublist (fieldNames shape (first :: members)) :=
          (List.sublist_cons_self _ _).filter _
        have hne : (name == first.1) = false := by simpa using hkey
        rw [← ih (honce.sublist hsublist) hmem, meaning, meaning, List.lookup_cons, hne]

theorem Gives.meaning_or {members : List (String × Option FieldValue)} {field : Field}
    {value : FieldValue} (h : Gives members field value)
    (honce : (fieldNames shape members).Nodup) (hfield : field ∈ shape.fields) :
    (meaning members field.name).or field.default = some value := by
  cases h with
  | member hmember => rw [meaning_of_mem honce (field?_isSome hfield) hmember, Option.some_or]
  | default hmissing hdefault =>
    have hlookup : members.lookup field.name = none := by
      refine List.lookup_eq_none_iff.mpr fun member hmem ↦ ?_
      have hne : field.name ≠ member.1 := fun h ↦ hmissing (h ▸ List.mem_map_of_mem hmem)
      simpa using hne
    rw [meaning, hlookup, hdefault]
    rfl

/-- Members that give something to every field suit their fields. -/
theorem suits_of_gives {members : List (String × Option FieldValue)}
    (honce : (fieldNames shape members).Nodup)
    (h : ∀ field ∈ shape.fields, ∃ value, Gives members field value) :
    ∀ member ∈ members, Suits shape member := by
  intro member hmem field hfield
  have hname : field.name = member.1 := by simpa using List.find?_some hfield
  obtain ⟨value, hgives⟩ := h field (List.mem_of_find?_eq_some hfield)
  have hisSome : (shape.field? member.1).isSome := by rw [hfield]; rfl
  cases hgives with
  | member hmember hwanted =>
    rw [hname] at hmember
    have hvalue : member.2 = some value :=
      (meaning_of_mem honce hisSome hmem).symm.trans (meaning_of_mem honce hisSome hmember)
    exact ⟨value, hvalue, hwanted⟩
  | default hmissing => exact (hmissing (hname ▸ List.mem_map_of_mem hmem)).elim

/-- All fields get what the members give them. -/
theorem collect_of_gives {fields : List Field} {values : List FieldValue}
    {members : List (String × Option FieldValue)} (honce : (fieldNames shape members).Nodup)
    (hfields : ∀ field ∈ fields, field ∈ shape.fields)
    (hlookup : ∀ name, (shape.field? name).isSome → acc.lookup name = meaning members name)
    (h : List.Forall₂ (Gives members) fields values) : collect acc fields = .ok values := by
  induction h with
  | nil => rfl
  | @cons field value fields values hgives _ ih =>
    have hfield := hfields field List.mem_cons_self
    have hvalue := hgives.meaning_or honce hfield
    have hmore := ih fun field hmem ↦ hfields field (List.mem_cons_of_mem _ hmem)
    rw [collect, hlookup _ (field?_isSome hfield), hvalue, hmore]
    rfl

theorem lookup_of_collect {fields : List Field} {values : List FieldValue}
    (h : collect acc fields = .ok values) {field : Field} (hfield : field ∈ fields)
    (hdefault : field.default = none) : acc.lookup field.name ≠ none := by
  induction fields generalizing values with
  | nil => cases hfield
  | cons first fields ih =>
    rw [collect] at h
    split at h
    · cases h
    · next value hvalue =>
      obtain ⟨more, hmore, _⟩ := exists_of_bind_eq_ok h
      rcases List.mem_cons.mp hfield with rfl | hfield
      · rw [hdefault, Option.or_none] at hvalue
        simp [hvalue]
      · exact ih hmore hfield

/-- A record is what its members give to the fields, in whatever order they stand. -/
theorem readRecord_of_object {text : String} {members : List (String × Option FieldValue)}
    (h : ObjectText text members) (honce : (fieldNames shape members).Nodup)
    {values : List FieldValue} (hgives : List.Forall₂ (Gives members) shape.fields values) :
    readRecord shape text = .ok values := by
  have hsuits : ∀ member ∈ members, Suits shape member :=
    suits_of_gives honce (exists_of_forall₂ hgives)
  obtain ⟨inside, after, hbefore, hrest, hafter⟩ := h
  obtain ⟨p, hskip⟩ := skipSpace_of_blank hbefore (solid_cons (by decide) _) {}
  have hmembers : ∃ acc p',
      readMembers shape (inside.length + 1 + 1) true [] ⟨inside, p.after '\x7b'⟩ =
        .ok (collect acc shape.fields, ⟨'\x7d' :: after, p'⟩) ∧
      ∀ name, (shape.field? name).isSome → acc.lookup name = meaning members name := by
    cases hrest with
    | empty htext =>
      obtain ⟨p', hread⟩ := readMembers_of_closer htext true (inside.length + 1) (p.after '\x7b')
      exact ⟨[], p', hread, fun _ _ ↦ rfl⟩
    | full htext =>
      have hfuel : members.length < inside.length + 1 + 1 := by
        have hlength := htext.length_lt
        omega
      exact readMembers_of_members htext (.first inside) hsuits honce (fun _ _ ↦ rfl) hfuel _
  obtain ⟨acc, p', hread, hlookup⟩ := hmembers
  have hcollect : collect acc shape.fields = .ok values :=
    collect_of_gives honce (fun _ hfield ↦ hfield) hlookup hgives
  obtain ⟨p'', hskip'⟩ := skipSpace_of_blank hafter solid_nil (p'.after '\x7d')
  have hclose : (⟨'\x7d' :: after, p'⟩ : Cursor).skipSpace = ⟨'\x7d' :: after, p'⟩ :=
    skipSpace_of_solid (solid_cons (by decide) _) p'
  have hleave : leave closeObject (.ok values, ⟨'\x7d' :: after, p'⟩) =
      .ok (values, ⟨after, p'.after '\x7d'⟩) := by
    simp only [leave, closeObject, hclose, Cursor.drop]
  rw [hcollect] at hread
  simp only [readRecord, Cursor.ofString, hskip, Cursor.drop, List.length_cons]
  simp only [bind, Except.bind, hread, hleave, hskip', pure, Except.pure]

/-- The members of an object that is accepted have been read. -/
theorem readMembers_of_readRecord {text : String} {inside : List Char} {values : List FieldValue}
    (hbefore : Blank text.toList ('\x7b' :: inside)) (hread : readRecord shape text = .ok values) :
    ∃ p values' c, readMembers shape (inside.length + 1 + 1) true [] ⟨inside, p⟩ =
      .ok (.ok values', c) := by
  obtain ⟨p, hskip⟩ := skipSpace_of_blank hbefore (solid_cons (by decide) _) {}
  simp only [readRecord, Cursor.ofString, hskip, Cursor.drop] at hread
  obtain ⟨⟨outcome, c⟩, hmembers, hread⟩ := exists_of_bind_eq_ok hread
  obtain ⟨_, hleave, _⟩ := exists_of_bind_eq_ok hread
  obtain ⟨values', rfl⟩ := ok_of_leave hleave
  exact ⟨_, values', c, hmembers⟩

/-- An object that is accepted names no field twice, and leaves out none that is required. -/
theorem object_of_readRecord {text : String} {members : List (String × Option FieldValue)}
    (h : ObjectText text members) {values : List FieldValue}
    (hread : readRecord shape text = .ok values) :
    (fieldNames shape members).Nodup ∧
      ∀ field ∈ shape.fields, field.default = none → field.name ∈ members.map (·.1) := by
  obtain ⟨inside, after, hbefore, hrest, -⟩ := h
  obtain ⟨p, values', c, hmembers⟩ := readMembers_of_readRecord hbefore hread
  have haccounts : Accounts shape [] members values' := by
    cases hrest with
    | empty htext =>
      obtain ⟨p', hclose⟩ := @readMembers_of_closer shape [] _ _ htext true (inside.length + 1) p
      exact .nil (congrArg Prod.fst (Except.ok.inj (hclose.symm.trans hmembers)))
    | full htext =>
      refine of_readMembers_members htext (.first inside) ?_ hmembers
      have hlength := htext.length_lt
      omega
  obtain ⟨acc, hcollect, hsource⟩ := haccounts.source
  refine ⟨haccounts.once, fun field hfield hdefault ↦ ?_⟩
  exact (hsource _ (lookup_of_collect hcollect hfield hdefault)).resolve_left (· rfl)

/-- An object with a name that is no string of characters is not accepted. -/
theorem readRecord_ne_ok_of_misnamed {text : String} (h : MisnamedText text)
    (values : List FieldValue) : readRecord shape text ≠ .ok values := by
  intro hread
  obtain ⟨inside, hbefore, hmisnamed⟩ := h
  obtain ⟨p, values', c, hmembers⟩ := readMembers_of_readRecord hbefore hread
  exact not_ok_of_misnamed hmisnamed (.first inside) _ p values' c hmembers

end BrowserScript.Json
