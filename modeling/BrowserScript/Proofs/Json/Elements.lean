import BrowserScript.Proofs.Json.Field

/-!
Records as lists. Each field takes the element in its place, and has its default where the list has
ended (`readRecord_of_list`). A list that ends in front of a required field is never accepted
(`list_of_readRecord`).
-/

set_option autoImplicit false
set_option relaxedAutoImplicit false

namespace BrowserScript.Json

variable {shape : RecordShape}

/-- What fields take from elements in order. -/
inductive Fits : List Field → List (Option FieldValue) → List FieldValue → Prop
  | nil : Fits [] [] []
  | element {field : Field} {fields : List Field} {value : FieldValue}
    {elements : List (Option FieldValue)} {values : List FieldValue}
    (hwanted : field.wanted = value.wanted) (hmore : Fits fields elements values) :
    Fits (field :: fields) (some value :: elements) (value :: values)
  | default {field : Field} {fields : List Field} {value : FieldValue} {values : List FieldValue}
    (hdefault : field.default = some value) (hmore : Fits fields [] values) :
    Fits (field :: fields) [] (value :: values)

/-- What is ahead in a list: its end, or an element. -/
inductive Ahead (first : Bool) : List Char → List (Option FieldValue) → List Char → Prop
  | done {before rest : List Char} (hbefore : Blank before (']' :: rest)) :
    Ahead first before [] rest
  | more {before text rest : List Char} {elements : List (Option FieldValue)}
    (hlead : Lead first before text) (htext : Elements text elements rest) :
    Ahead first before elements rest

theorem ListRest.ahead {text rest : List Char} {elements : List (Option FieldValue)}
    (h : ListRest text elements rest) : Ahead true text elements rest := by
  cases h with
  | empty htext => exact .done htext
  | full htext => exact .more (.first text) htext

theorem Ahead.of_nil {first : Bool} {before rest : List Char} (h : Ahead first before [] rest) :
    Blank before (']' :: rest) := by
  cases h with
  | done hbefore => exact hbefore
  | more _ htext => cases htext

theorem Ahead.of_cons {first : Bool} {before rest : List Char} {meant : Option FieldValue}
    {elements : List (Option FieldValue)} (h : Ahead first before (meant :: elements) rest) :
    ∃ text value after, Lead first before text ∧ Blank text value ∧ Holds value meant after ∧
      Ahead false after elements rest := by
  cases h with
  | more hlead htext =>
    cases htext with
    | last hbefore hvalue hafter => exact ⟨_, _, _, hlead, hbefore, hvalue, .done hafter⟩
    | next hbefore hvalue hafter hmore =>
      exact ⟨_, _, _, hlead, hbefore, hvalue, .more (.comma hafter) hmore⟩

theorem nextElement_of_value {first : Bool} {before text value after : List Char}
    (hlead : Lead first before text) (hbefore : Blank text value)
    (hvalue : Written .value value after) (p : Position) :
    ∃ p', nextElement first ⟨before, p⟩ = .ok (true, ⟨value, p'⟩) := by
  have hsolid := hvalue.solid
  obtain ⟨d, more, rfl, _, hclose, _⟩ := hvalue.head
  cases hlead with
  | first =>
    obtain ⟨p', hskip⟩ := skipSpace_of_blank hbefore hsolid p
    refine ⟨p', ?_⟩
    simp only [nextElement, hskip, hclose, if_true, if_false]
  | comma hcomma =>
    obtain ⟨p₁, hskip⟩ := skipSpace_of_blank hcomma (solid_cons (by decide) _) p
    obtain ⟨p', hskip'⟩ := skipSpace_of_blank hbefore hsolid (p₁.after ',')
    refine ⟨p', ?_⟩
    simp [nextElement, hskip, Cursor.drop, hskip', hclose]

theorem nextElement_of_closer {before rest : List Char} (hbefore : Blank before (']' :: rest))
    (first : Bool) (p : Position) :
    ∃ p', nextElement first ⟨before, p⟩ = .ok (false, ⟨']' :: rest, p'⟩) := by
  obtain ⟨p', hskip⟩ := skipSpace_of_blank hbefore (solid_cons (by decide) _) p
  exact ⟨p', by simp only [nextElement, hskip, if_true]⟩

/-- A list whose elements fit the fields is read up to its closing bracket. -/
theorem readElements_of_fits {fields : List Field} {elements : List (Option FieldValue)}
    {values : List FieldValue} (h : Fits fields elements values) {count : Nat}
    {before rest : List Char} (hahead : Ahead (count = 0) before elements rest) (p : Position) :
    ∃ before' p', readElements shape count fields ⟨before, p⟩ = .ok (.ok values, ⟨before', p'⟩) ∧
      Blank before' (']' :: rest) := by
  induction h generalizing count before p with
  | nil => exact ⟨before, p, rfl, hahead.of_nil⟩
  | @element field fields value elements values hwanted _ ih =>
    obtain ⟨text, start, after, hlead, hbefore, hvalue, hmore⟩ := hahead.of_cons
    obtain ⟨p₁, hnext⟩ := nextElement_of_value hlead hbefore hvalue.written p
    obtain ⟨p₂, hread⟩ := field_read_of_holds (.refl start) hvalue hwanted p₁
    obtain ⟨before', p', helements, hend⟩ := @ih (count + 1) after (by simpa using hmore) p₂
    refine ⟨before', p', ?_, hend⟩
    rw [readElements, hnext]
    simp only [bind, Except.bind, if_true, hread, helements, pure, Except.pure, Except.map]
  | @default field fields value values hdefault _ ih =>
    obtain ⟨p₁, hnext⟩ := nextElement_of_closer hahead.of_nil (count = 0) p
    obtain ⟨before', p', helements, hend⟩ := @ih (count + 1) _ (.done (.refl _)) p₁
    refine ⟨before', p', ?_, hend⟩
    rw [readElements, hnext]
    simp [bind, Except.bind, hdefault, helements, pure, Except.pure, Except.map]

/-- A record is what the elements in its order are. -/
theorem readRecord_of_list {text : String} {elements : List (Option FieldValue)}
    (h : ListText text elements) {values : List FieldValue}
    (hfits : Fits shape.fields elements values) : readRecord shape text = .ok values := by
  obtain ⟨inside, after, hbefore, hrest, hafter⟩ := h
  obtain ⟨p, hskip⟩ := skipSpace_of_blank hbefore (solid_cons (by decide) _) {}
  obtain ⟨before, p', hread, hend⟩ :=
    @readElements_of_fits shape _ _ _ hfits 0 _ _ hrest.ahead (p.after '[')
  obtain ⟨p₁, hclose⟩ := skipSpace_of_blank hend (solid_cons (by decide) _) p'
  obtain ⟨p₂, hskip'⟩ := skipSpace_of_blank hafter solid_nil (p₁.after ']')
  have hleave : leave closeList (.ok values, ⟨before, p'⟩) =
      .ok (values, ⟨after, p₁.after ']'⟩) := by
    simp only [leave, closeList, hclose, Cursor.drop]
  simp only [readRecord, Cursor.ofString, hskip, Cursor.drop]
  simp only [bind, Except.bind, hread, hleave, hskip', pure, Except.pure]

/-- Where a list has ended, the fields that are left have defaults. -/
theorem default_of_readElements {fields : List Field} {elements : List (Option FieldValue)}
    {values : List FieldValue} {count : Nat} {before rest : List Char} {p : Position} {c : Cursor}
    (hahead : Ahead (count = 0) before elements rest)
    (h : readElements shape count fields ⟨before, p⟩ = .ok (.ok values, c)) :
    ∀ field ∈ fields.drop elements.length, field.default ≠ none := by
  induction fields generalizing elements values count before p c with
  | nil => simp
  | cons field fields ih =>
    rw [readElements] at h
    obtain ⟨⟨found, c'⟩, hnext, h⟩ := exists_of_bind_eq_ok h
    cases elements with
    | nil =>
      obtain ⟨p', hclose⟩ := nextElement_of_closer hahead.of_nil (count = 0) p
      cases hclose.symm.trans hnext
      dsimp only at h
      rw [if_neg Bool.false_ne_true] at h
      split at h
      · cases h
      · next value hdefault =>
        obtain ⟨⟨outcome, c''⟩, hmore, h⟩ := exists_of_bind_eq_ok h
        cases outcome with
        | error => cases h
        | ok values =>
          have hlater := @ih [] values (count + 1) _ p' c'' (.done (.refl _)) hmore
          intro field' hmem
          rcases List.mem_cons.mp hmem with rfl | hmem
          · simp [hdefault]
          · exact hlater field' hmem
    | cons meant elements =>
      obtain ⟨text, start, after, hlead, hbefore, hvalue, hmore⟩ := hahead.of_cons
      obtain ⟨p', helement⟩ := nextElement_of_value hlead hbefore hvalue.written p
      cases helement.symm.trans hnext
      dsimp only at h
      rw [if_pos rfl] at h
      obtain ⟨⟨value, c''⟩, hread, h⟩ := exists_of_bind_eq_ok h
      obtain ⟨stop, p''⟩ := c''
      obtain rfl : stop = after := rest_of_field_read (.refl start) hvalue.written hread
      obtain ⟨⟨outcome, c''⟩, hlater, h⟩ := exists_of_bind_eq_ok h
      cases outcome with
      | error => cases h
      | ok values =>
        exact @ih elements values (count + 1) stop p'' c'' (by simpa using hmore) hlater

/-- A list that is accepted has an element for every required field. -/
theorem list_of_readRecord {text : String} {elements : List (Option FieldValue)}
    (h : ListText text elements) {values : List FieldValue}
    (hread : readRecord shape text = .ok values) :
    ∀ field ∈ shape.fields.drop elements.length, field.default ≠ none := by
  obtain ⟨inside, after, hbefore, hrest, hafter⟩ := h
  obtain ⟨p, hskip⟩ := skipSpace_of_blank hbefore (solid_cons (by decide) _) {}
  simp only [readRecord, Cursor.ofString, hskip, Cursor.drop] at hread
  obtain ⟨⟨outcome, c⟩, helements, hread⟩ := exists_of_bind_eq_ok hread
  obtain ⟨_, hleave, _⟩ := exists_of_bind_eq_ok hread
  obtain ⟨values, rfl⟩ := ok_of_leave hleave
  exact @default_of_readElements shape _ _ _ 0 _ _ _ _ hrest.ahead helements

end BrowserScript.Json
