import Mathlib
import BrowserScript.Banner

/-!
The banner as a comment. It is one comment exactly if no field of the descriptor holds the mark that
ends comments (`BuildDescriptor.isComment_banner_iff`): no such mark comes about where a field meets
the text around it. In any other banner the first such mark lies inside of a field
(`BuildDescriptor.exists_early_end`).
-/

set_option autoImplicit false
set_option relaxedAutoImplicit false

namespace BrowserScript

/-! ### The end of a comment -/

/-- A text starts as a comment does, and the first mark that ends a comment is its end. -/
def IsComment (text : List Char) : Prop :=
  ∃ front, ['/', '*'] <+: front ∧ text = front ++ ['*', '/'] ∧ ¬['*', '/'] <:+: front ++ ['*']

variable {front field rest text : List Char}

theorem mark_prefix_cons {c : Char} :
    ['*', '/'] <+: c :: text ↔ c = '*' ∧ text.head? = some '/' := by
  cases text <;> simp [List.cons_prefix_cons, eq_comm]

/-- A mark lies in one of two texts, or where they meet. -/
theorem mark_infix_append :
    ['*', '/'] <:+: field ++ rest ↔ ['*', '/'] <:+: field ∨ ['*', '/'] <:+: rest ∨
      (field.getLast? = some '*' ∧ rest.head? = some '/') := by
  induction field with
  | nil => simp
  | cons c field ih =>
    rw [List.cons_append, List.infix_cons_iff, ih, List.infix_cons_iff, mark_prefix_cons,
      mark_prefix_cons]
    cases field with
    | nil => simp [or_comm]
    | cons d field =>
      rw [List.cons_append, List.head?_cons, List.head?_cons, List.getLast?_cons_cons]
      tauto

/-- No mark comes about behind a text that does not end with a star. -/
theorem mark_infix_fixed_append (hmark : ¬['*', '/'] <:+: front)
    (hlast : front.getLast? ≠ some '*') :
    ['*', '/'] <:+: front ++ rest ↔ ['*', '/'] <:+: rest := by
  simp [mark_infix_append, hmark, hlast]

theorem mark_infix_field_append (hhead : rest.head? ≠ some '/') :
    ['*', '/'] <:+: field ++ rest ↔ ['*', '/'] <:+: field ∨ ['*', '/'] <:+: rest := by
  simp [mark_infix_append, hhead]

theorem exists_first_mark (h : ['*', '/'] <:+: text) :
    ∃ front rest, text = front ++ '*' :: '/' :: rest ∧ ¬['*', '/'] <:+: front ++ ['*'] := by
  induction text with
  | nil => simp at h
  | cons c text ih =>
    by_cases hprefix : ['*', '/'] <+: c :: text
    · obtain ⟨rest, hrest⟩ := hprefix
      exact ⟨[], rest, hrest.symm, by decide⟩
    · obtain ⟨front, rest, rfl, hfirst⟩ :=
        ih ((List.infix_cons_iff.mp h).resolve_left hprefix)
      refine ⟨c :: front, rest, rfl, fun hin ↦ ?_⟩
      rcases List.infix_cons_iff.mp hin with hstart | hlater
      · have hnext : (front ++ ['*']).head? = (front ++ '*' :: '/' :: rest).head? := by
          cases front <;> rfl
        obtain ⟨hstar, hslash⟩ := mark_prefix_cons.mp hstart
        exact hprefix (mark_prefix_cons.mpr ⟨hstar, hnext.symm.trans hslash⟩)
      · exact hfirst hlater

/-! ### Fields of a banner -/

namespace BuildDescriptor

variable {d : BuildDescriptor} {before behind : List Char} {field : String}

/-- No field ends the comment that it stands in. -/
def IsCommentSafe (d : BuildDescriptor) : Prop :=
  ∀ field ∈ [d.name, d.version, d.additionalInfo], ¬['*', '/'] <:+: field.toList

instance : Decidable d.IsCommentSafe :=
  inferInstanceAs (Decidable (∀ field ∈ [d.name, d.version, d.additionalInfo],
    ¬['*', '/'] <:+: field.toList))

/-- The text of a banner in front of its fields. -/
def head : List Char := ['/', '*', '*', '*', '\n', ' ', '*', '\n', ' ', '*', ' ', ' ']

/-- What stands between the name and the version. -/
def mid (d : BuildDescriptor) : List Char := ' ' :: d.versionMark.toList

/-- What stands between the version and the additional information. -/
def gap : List Char := ['\n', ' ', '*', '\n', ' ', '*', ' ', ' ']

/-- The text of a banner behind its fields, but for the mark that ends it. -/
def tail (d : BuildDescriptor) : List Char :=
  ['\n', ' ', '*', '\n'] ++ (d.copyrightLines.toList ++ [' ', '*', '*'])

/-- The places of the fields, each with what stands in front of it and behind it. -/
inductive Holds (d : BuildDescriptor) : List Char → String → List Char → Prop
  | name : Holds d head d.name
      (d.mid ++ (d.version.toList ++ (gap ++ (d.additionalInfo.toList ++ (d.tail ++ ['*', '/'])))))
  | version : Holds d (head ++ (d.name.toList ++ d.mid)) d.version
      (gap ++ (d.additionalInfo.toList ++ (d.tail ++ ['*', '/'])))
  | additionalInfo : Holds d (head ++ (d.name.toList ++ (d.mid ++ (d.version.toList ++ gap))))
      d.additionalInfo (d.tail ++ ['*', '/'])

theorem toList_banner (d : BuildDescriptor) :
    d.banner.toList = head ++ (d.name.toList ++ (d.mid ++ (d.version.toList ++ (gap ++
      (d.additionalInfo.toList ++ (d.tail ++ ['*', '/'])))))) := by
  unfold banner
  simp only [String.toList_append, List.append_assoc]
  simp [head, mid, gap, tail]

theorem Holds.toList_banner (h : d.Holds before field behind) :
    d.banner.toList = before ++ (field.toList ++ behind) := by
  rw [BuildDescriptor.toList_banner]
  cases h <;> simp only [List.append_assoc]

theorem mark_infix_head {rest : List Char} :
    ['*', '/'] <:+: head ++ rest ↔ ['*', '/'] <:+: rest :=
  mark_infix_fixed_append (by decide +kernel) (by decide +kernel)

theorem mark_infix_mid {field rest : List Char} :
    ['*', '/'] <:+: field ++ (d.mid ++ rest) ↔
      ['*', '/'] <:+: field ∨ ['*', '/'] <:+: rest := by
  rw [mark_infix_field_append (by simp [mid]), mark_infix_fixed_append]
  · unfold mid versionMark
    split <;> decide +kernel
  · unfold mid versionMark
    split <;> decide +kernel

theorem mark_infix_gap {field rest : List Char} :
    ['*', '/'] <:+: field ++ (gap ++ rest) ↔ ['*', '/'] <:+: field ∨ ['*', '/'] <:+: rest := by
  rw [mark_infix_field_append (by simp [gap]),
    mark_infix_fixed_append (by decide +kernel) (by decide +kernel)]

theorem mark_infix_tail {field : List Char} :
    ['*', '/'] <:+: field ++ (d.tail ++ ['*']) ↔ ['*', '/'] <:+: field := by
  rw [mark_infix_field_append (by simp [tail]), or_iff_left]
  unfold tail copyrightLines
  split <;> decide +kernel

/-- The banner without the mark that ends it. -/
def unclosed (d : BuildDescriptor) : List Char :=
  head ++ (d.name.toList ++ (d.mid ++ (d.version.toList ++ (gap ++
    (d.additionalInfo.toList ++ d.tail)))))

theorem toList_banner_eq_unclosed (d : BuildDescriptor) :
    d.banner.toList = d.unclosed ++ ['*', '/'] := by
  simp only [toList_banner, unclosed, List.append_assoc]

theorem open_prefix_unclosed (d : BuildDescriptor) : ['/', '*'] <+: d.unclosed :=
  (List.prefix_append ['/', '*'] _).trans (List.prefix_append head _)

theorem mark_infix_unclosed :
    ['*', '/'] <:+: d.unclosed ++ ['*'] ↔ ['*', '/'] <:+: d.name.toList ∨
      ['*', '/'] <:+: d.version.toList ∨ ['*', '/'] <:+: d.additionalInfo.toList := by
  simp only [unclosed, List.append_assoc]
  rw [mark_infix_head, mark_infix_mid, mark_infix_gap, mark_infix_tail]

/-- The banner is one comment exactly if its fields are safe. -/
theorem isComment_banner_iff (d : BuildDescriptor) :
    IsComment d.banner.toList ↔ d.IsCommentSafe := by
  have hsafe : ¬['*', '/'] <:+: d.unclosed ++ ['*'] ↔ d.IsCommentSafe := by
    rw [mark_infix_unclosed]
    simp [IsCommentSafe]
  rw [← hsafe]
  constructor
  · rintro ⟨other, -, hother, hfirst⟩
    rwa [List.append_cancel_right (d.toList_banner_eq_unclosed.symm.trans hother)]
  · exact fun h ↦ ⟨d.unclosed, d.open_prefix_unclosed, d.toList_banner_eq_unclosed, h⟩

/-- The comment of an unsafe banner ends inside of a field. -/
theorem exists_early_end (h : ¬d.IsCommentSafe) :
    ∃ before field behind front rest, d.Holds before field behind ∧
      field.toList = front ++ '*' :: '/' :: rest ∧
        ¬['*', '/'] <:+: before ++ (front ++ ['*']) := by
  by_cases hname : ['*', '/'] <:+: d.name.toList
  · obtain ⟨front, rest, hfield, hfirst⟩ := exists_first_mark hname
    exact ⟨_, _, _, front, rest, .name, hfield, by rwa [mark_infix_head]⟩
  by_cases hversion : ['*', '/'] <:+: d.version.toList
  · obtain ⟨front, rest, hfield, hfirst⟩ := exists_first_mark hversion
    refine ⟨_, _, _, front, rest, .version, hfield, ?_⟩
    simp only [List.append_assoc]
    rw [mark_infix_head, mark_infix_mid]
    exact not_or.mpr ⟨hname, hfirst⟩
  by_cases hinfo : ['*', '/'] <:+: d.additionalInfo.toList
  · obtain ⟨front, rest, hfield, hfirst⟩ := exists_first_mark hinfo
    refine ⟨_, _, _, front, rest, .additionalInfo, hfield, ?_⟩
    simp only [List.append_assoc]
    rw [mark_infix_head, mark_infix_mid, mark_infix_gap]
    exact not_or.mpr ⟨hname, not_or.mpr ⟨hversion, hfirst⟩⟩
  · exact (h (by simp [IsCommentSafe, hname, hversion, hinfo])).elim

theorem Holds.open_prefix (h : d.Holds before field behind) : ['/', '*'] <+: before := by
  have hhead : ['/', '*'] <+: head := List.prefix_append ['/', '*'] _
  cases h with
  | name => exact hhead
  | version | additionalInfo => exact hhead.trans (List.prefix_append head _)

end BuildDescriptor

end BrowserScript
