import BrowserScript.Proofs.Json.Token

/-!
A value of any kind is stepped over. The reader is a machine that keeps the frames around its place;
`Leads` says that some turns take it from one place to another, whatever fuel is left. A value takes
it to what follows the value with the frames as they were, in fewer turns than twice the characters
that it passes, so the fuel that `skipValue` starts with is enough (`skipValue_of_written`).
-/

set_option autoImplicit false
set_option relaxedAutoImplicit false

namespace BrowserScript.Json

variable {e e' e'' : Expecting} {frames frames' frames'' : List Frame} {c c' c'' : Cursor}

/-- The machine comes from one place to another in so many turns. -/
def Leads (turns : Nat) (e : Expecting) (frames : List Frame) (c : Cursor) (e' : Expecting)
    (frames' : List Frame) (c' : Cursor) : Prop :=
  ∀ fuel, skipValueFrom (fuel + turns) e frames c = skipValueFrom fuel e' frames' c'

theorem Leads.trans {turns turns' : Nat} (h : Leads turns e frames c e' frames' c')
    (h' : Leads turns' e' frames' c' e'' frames'' c'') :
    Leads (turns + turns') e frames c e'' frames'' c'' := fun fuel ↦ by
  rw [Nat.add_comm turns, ← Nat.add_assoc, h, h']

/-! ### The first character of a value -/

/-- A digit is none of the characters that the readers look for. -/
theorem ne_of_isDigit {c : Char} (h : c.isDigit) :
    ∀ d ∈ [' ', '\n', '\t', '\r', ']', '\x7d', 'n', 't', 'f', '"', '[', '\x7b', '-'], c ≠ d := by
  have hall : ∀ d ∈ [' ', '\n', '\t', '\r', ']', '\x7d', 'n', 't', 'f', '"', '[', '\x7b', '-'],
      d.isDigit = false := by simp
  rintro d hd rfl
  rw [hall c hd] at h
  cases h

theorem Written.head {text rest : List Char} (h : Written .value text rest) :
    ∃ d more, text = d :: more ∧ isSpace d = false ∧ d ≠ ']' ∧ d ≠ '\x7d' := by
  cases h with
  | word hword =>
    simp only [words, List.mem_cons, List.not_mem_nil, or_false] at hword
    rcases hword with rfl | rfl | rfl <;> exact ⟨_, _, rfl, by decide⟩
  | number hsign hwhole =>
    simp only [List.mem_cons, List.not_mem_nil, or_false] at hsign
    rcases hsign with rfl | rfl
    · obtain ⟨d, more, rfl, hd⟩ := hwhole.isDigits.exists_cons
      have hne := ne_of_isDigit hd
      exact ⟨d, _, rfl, by simp [isSpace, hne], hne _ (by simp), hne _ (by simp)⟩
    · exact ⟨_, _, rfl, by decide⟩
  | string => exact ⟨_, _, rfl, by decide⟩
  | empty frame => cases frame <;> exact ⟨_, _, rfl, by decide⟩
  | full frame => cases frame <;> exact ⟨_, _, rfl, by decide⟩

theorem Written.solid {text rest : List Char} (h : Written .value text rest) : Solid text := by
  obtain ⟨d, more, rfl, hd, _⟩ := h.head
  exact solid_cons hd more

theorem solid_closer (frame : Frame) (rest : List Char) : Solid (frame.closer :: rest) := by
  cases frame <;> exact solid_cons (by decide) rest

/-! ### Single turns -/

attribute [local simp] skipValueFrom Cursor.drop bind Except.bind

theorem leads_word {word before rest : List Char} (hword : word ∈ words)
    (hbefore : Blank before (word ++ rest)) (frames : List Frame) (p : Position) :
    ∃ p', Leads 1 .value frames ⟨before, p⟩ .separator frames ⟨rest, p'⟩ := by
  obtain ⟨p₁, hskip⟩ := skipSpace_of_blank hbefore (Written.word hword rest).solid p
  have hread : ∀ d letters, word = d :: letters →
      ∃ p', readWord letters ⟨letters ++ rest, p₁.after d⟩ = .ok ⟨rest, p'⟩ :=
    fun d letters _ ↦ readWord_append letters rest (p₁.after d)
  simp only [words, List.mem_cons, List.not_mem_nil, or_false] at hword
  rcases hword with rfl | rfl | rfl
  all_goals
    obtain ⟨p', hread⟩ := hread _ _ rfl
    refine ⟨p', fun fuel ↦ ?_⟩
    simp only [List.cons_append, List.nil_append] at hskip hread
    simp [hskip, hread]

theorem leads_string {before text rest : List Char} (hbefore : Blank before ('"' :: text))
    (htext : Quoted text rest) (frames : List Frame) (p : Position) :
    ∃ p', Leads 1 .value frames ⟨before, p⟩ .separator frames ⟨rest, p'⟩ := by
  obtain ⟨p₁, hskip⟩ := skipSpace_of_blank hbefore (solid_cons (by decide) _) p
  obtain ⟨p', hread⟩ := skipString_of_quoted htext (p₁.plus 1)
  exact ⟨p', fun fuel ↦ by simp [hskip, hread]⟩

theorem skipNumeral_append {whole fraction exponent rest : List Char} (hwhole : IsWhole whole)
    (hfraction : IsFraction fraction) (hexponent : IsExponent exponent) (hrest : Follows rest)
    (p : Position) :
    ∃ p', skipNumeral ⟨whole ++ (fraction ++ (exponent ++ rest)), p⟩ = .ok ⟨rest, p'⟩ := by
  obtain ⟨n, p', hread⟩ := readNumeral_append hwhole hfraction hexponent hrest p
  exact ⟨p', by rw [skipNumeral, hread]⟩

theorem leads_number {before whole fraction exponent sign rest : List Char}
    (hbefore : Blank before (sign ++ (whole ++ (fraction ++ (exponent ++ rest)))))
    (hsign : sign ∈ [[], ['-']]) (hwhole : IsWhole whole) (hfraction : IsFraction fraction)
    (hexponent : IsExponent exponent) (hrest : Follows rest) (frames : List Frame) (p : Position) :
    ∃ p', Leads 1 .value frames ⟨before, p⟩ .separator frames ⟨rest, p'⟩ := by
  have hsolid := (Written.number hsign hwhole hfraction hexponent hrest).solid
  obtain ⟨p₁, hskip⟩ := skipSpace_of_blank hbefore hsolid p
  simp only [List.mem_cons, List.not_mem_nil, or_false] at hsign
  rcases hsign with rfl | rfl
  · obtain ⟨p', hread⟩ := skipNumeral_append hwhole hfraction hexponent hrest p₁
    obtain ⟨d, more, rfl, hd⟩ := hwhole.isDigits.exists_cons
    have hne := ne_of_isDigit hd
    refine ⟨p', fun fuel ↦ ?_⟩
    rw [List.nil_append, List.cons_append] at hskip
    rw [List.cons_append] at hread
    simp only [List.mem_cons, List.not_mem_nil, or_false, forall_eq_or_imp, forall_eq] at hne
    simp [hskip, hne, hd, hread]
  · obtain ⟨p', hread⟩ := skipNumeral_append hwhole hfraction hexponent hrest (p₁.after '-')
    refine ⟨p', fun fuel ↦ ?_⟩
    rw [List.cons_append, List.nil_append] at hskip
    simp [hskip, hread]

/-- A bracket opens a frame. -/
theorem leads_opener {before text : List Char} (frame : Frame)
    (hbefore : Blank before (frame.opener :: text)) (frames : List Frame) (p : Position) :
    ∃ p', Leads 1 .value frames ⟨before, p⟩ .element (frame :: frames) ⟨text, p'⟩ := by
  have hspace : isSpace frame.opener = false := by cases frame <;> decide
  obtain ⟨p₁, hskip⟩ := skipSpace_of_blank hbefore (solid_cons hspace _) p
  refine ⟨p₁.after frame.opener, fun fuel ↦ ?_⟩
  cases frame <;> simp [hskip, Frame.opener]

/-- A bracket closes the frame that was opened last. -/
theorem leads_closer {before text : List Char} (frame : Frame) (he : e ≠ .value)
    (hbefore : Blank before (frame.closer :: text)) (frames : List Frame) (p : Position) :
    ∃ p', Leads 1 e (frame :: frames) ⟨before, p⟩ .separator frames ⟨text, p'⟩ := by
  obtain ⟨p₁, hskip⟩ := skipSpace_of_blank hbefore (solid_closer frame text) p
  refine ⟨p₁.after frame.closer, fun fuel ↦ ?_⟩
  have hcomma : frame.closer ≠ ',' := by cases frame <;> decide
  cases e with
  | value => exact (he rfl).elim
  | element => simp [hskip]
  | separator => simp [hskip, hcomma]

theorem readColon_of_blank {text rest : List Char} (h : Blank text (':' :: rest)) (p : Position) :
    ∃ p', readColon ⟨text, p⟩ = .ok ⟨rest, p'⟩ := by
  obtain ⟨p₁, hskip⟩ := skipSpace_of_blank h (solid_cons (by decide) _) p
  refine ⟨p₁.after ':', ?_⟩
  simp only [readColon, hskip, Cursor.drop]

theorem skipLabel_of_label {frame : Frame} {text rest : List Char} (h : Label frame text rest)
    (p : Position) : ∃ p', frame.skipLabel ⟨text, p⟩ = .ok ⟨rest, p'⟩ := by
  cases h with
  | list => exact ⟨p, rfl⟩
  | object hbefore hkey hcolon =>
    obtain ⟨p₁, hskip⟩ := skipSpace_of_blank hbefore (solid_cons (by decide) _) p
    obtain ⟨p₂, hread⟩ := skipString_of_quoted hkey (p₁.plus 1)
    obtain ⟨p', hcolon⟩ := readColon_of_blank hcolon p₂
    refine ⟨p', ?_⟩
    simp only [Frame.skipLabel, skipKey, hskip, hread]
    exact hcolon

/-- A turn takes the machine to the element that a text begins with, behind its label. -/
def Enters (frame : Frame) (e : Expecting) (frames : List Frame) (c : Cursor) (text : List Char) :
    Prop :=
  ∀ labelled value after, Label frame text labelled → Blank labelled value →
    Written .value value after → ∃ labelled' p', Blank labelled' value ∧
      Leads 1 e (frame :: frames) c .value (frame :: frames) ⟨labelled', p'⟩

/-- A comma leads to the next element. -/
theorem enters_comma (frame : Frame) {before text : List Char}
    (hbefore : Blank before (',' :: text)) (frames : List Frame) (p : Position) :
    Enters frame .separator frames ⟨before, p⟩ text := by
  intro labelled value after hlabel hblank _
  obtain ⟨p₁, hskip⟩ := skipSpace_of_blank hbefore (solid_cons (by decide) _) p
  obtain ⟨p', hread⟩ := skipLabel_of_label hlabel (p₁.after ',')
  exact ⟨labelled, p', hblank, fun fuel ↦ by simp [hskip, hread]⟩

/-- The first element stands right behind the bracket. -/
theorem enters_first (frame : Frame) (text : List Char) (frames : List Frame) (p : Position) :
    Enters frame .element frames ⟨text, p⟩ text := by
  intro labelled value after hlabel hbefore hvalue
  cases hlabel with
  | list =>
    obtain ⟨p₁, hskip⟩ := skipSpace_of_blank hbefore hvalue.solid p
    obtain ⟨d, more, rfl, _, hclose, _⟩ := hvalue.head
    have hcloser : d ≠ Frame.closer .list := hclose
    exact ⟨d :: more, p₁, .refl _, fun fuel ↦ by simp [hskip, hcloser, Frame.skipLabel]⟩
  | @object _ key _ _ hblank hkey hcolon =>
    obtain ⟨p₁, hskip⟩ := skipSpace_of_blank hblank (solid_cons (by decide) _) p
    obtain ⟨p', hread⟩ := skipLabel_of_label (.object (.refl ('"' :: key)) hkey hcolon) p₁
    have hcloser : '"' ≠ Frame.closer .object := by decide
    exact ⟨labelled, p', hbefore, fun fuel ↦ by simp [hskip, hcloser, hread]⟩

/-! ### Values -/

/-- What is known of a text by its form. The turns are counted against the characters. -/
def Skips : Form → List Char → List Char → Prop
  | .value, text, rest => ∀ before, Blank before text → ∀ frames p, ∃ turns p',
    turns + 1 + 2 * rest.length ≤ 2 * text.length ∧
      Leads turns .value frames ⟨before, p⟩ .separator frames ⟨rest, p'⟩
  | .elements frame, text, rest => ∀ e frames c, Enters frame e frames c text → ∃ turns p',
    turns + 2 * rest.length ≤ 2 * text.length ∧
      Leads turns e (frame :: frames) c .separator frames ⟨rest, p'⟩

theorem Written.skips {form : Form} {text rest : List Char} (h : Written form text rest) :
    Skips form text rest := by
  induction h with
  | @word word hword rest =>
    intro before hbefore frames p
    obtain ⟨p', hleads⟩ := leads_word hword hbefore frames p
    refine ⟨1, p', ?_, hleads⟩
    have hpos : ∀ word ∈ words, 0 < word.length := by decide
    have hlength := hpos word hword
    simp only [List.length_append]
    omega
  | @number sign whole fraction exponent rest hsign hwhole hfraction hexponent hrest =>
    intro before hbefore frames p
    obtain ⟨p', hleads⟩ :=
      leads_number hbefore hsign hwhole hfraction hexponent hrest frames p
    refine ⟨1, p', ?_, hleads⟩
    have hpos := List.length_pos_iff.mpr hwhole.isDigits.1
    simp only [List.length_append]
    omega
  | @string text rest htext =>
    intro before hbefore frames p
    obtain ⟨p', hleads⟩ := leads_string hbefore htext frames p
    refine ⟨1, p', ?_, hleads⟩
    have hlength := htext.length_lt
    simp only [List.length_cons]
    omega
  | @empty text rest frame htext =>
    intro before hbefore frames p
    obtain ⟨p₁, hopen⟩ := leads_opener frame hbefore frames p
    obtain ⟨p', hclose⟩ := leads_closer frame (e := .element) nofun htext frames p₁
    refine ⟨2, p', ?_, hopen.trans hclose⟩
    have hlength := htext.length_le
    simp only [List.length_cons] at hlength ⊢
    omega
  | @full text rest frame htext ih =>
    intro before hbefore frames p
    obtain ⟨p₁, hopen⟩ := leads_opener frame hbefore frames p
    obtain ⟨turns, p', hturns, hleads⟩ :=
      ih .element frames ⟨text, p₁⟩ (enters_first frame text frames p₁)
    refine ⟨1 + turns, p', ?_, hopen.trans hleads⟩
    simp only [List.length_cons]
    omega
  | last hlabel hbefore hvalue hafter ih =>
    intro e frames c henters
    obtain ⟨labelled', p₁, hblank, hfirst⟩ := henters _ _ _ hlabel hbefore hvalue
    obtain ⟨turns, p₂, hturns, hleads⟩ := ih labelled' hblank (_ :: frames) p₁
    obtain ⟨p', hclose⟩ := leads_closer _ (e := .separator) nofun hafter frames p₂
    refine ⟨1 + turns + 1, p', ?_, (hfirst.trans hleads).trans hclose⟩
    have h₁ := hlabel.length_le
    have h₂ := hbefore.length_le
    have h₃ := hafter.length_le
    simp only [List.length_cons] at h₃
    omega
  | next hlabel hbefore hvalue hafter _ ih ihmore =>
    intro e frames c henters
    obtain ⟨labelled', p₁, hblank, hfirst⟩ := henters _ _ _ hlabel hbefore hvalue
    obtain ⟨turns, p₂, hturns, hleads⟩ := ih labelled' hblank (_ :: frames) p₁
    obtain ⟨turns', p', hturns', hmore⟩ :=
      ihmore .separator frames ⟨_, p₂⟩ (enters_comma _ hafter frames p₂)
    refine ⟨1 + turns + turns', p', ?_, (hfirst.trans hleads).trans hmore⟩
    have h₁ := hlabel.length_le
    have h₂ := hbefore.length_le
    have h₃ := hafter.length_le
    simp only [List.length_cons] at h₃
    omega

theorem Written.length_lt {text rest : List Char} (h : Written .value text rest) :
    rest.length < text.length := by
  obtain ⟨turns, _, hturns, _⟩ := h.skips text (.refl text) [] {}
  omega

/-- A value of any kind is stepped over. -/
theorem skipValue_of_written {before text rest : List Char} (hbefore : Blank before text)
    (h : Written .value text rest) (p : Position) :
    ∃ p', skipValue ⟨before, p⟩ = .ok ⟨rest, p'⟩ := by
  obtain ⟨turns, p', hturns, hleads⟩ := h.skips before hbefore [] p
  have hlength := hbefore.length_le
  have hfuel : 2 * before.length + 2 = (2 * before.length + 1 - turns) + 1 + turns := by omega
  refine ⟨p', ?_⟩
  rw [skipValue, hfuel, hleads]
  rfl

end BrowserScript.Json
