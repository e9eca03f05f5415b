import BrowserScript.Proofs.Json.Grammar

/-!
The readers of white space, strings and numbers stop where the grammar says. A string that has a
meaning is read as what it means (`readString_of_spells`), and no other string is accepted
(`spells_of_readString`).
-/

set_option autoImplicit false
set_option relaxedAutoImplicit false

namespace BrowserScript.Json

/-! ### White space -/

/-- No white space comes next. -/
def Solid (rest : List Char) : Prop := ∀ c, rest.head? = some c → isSpace c = false

theorem solid_nil : Solid [] := nofun

theorem solid_cons {c : Char} (h : isSpace c = false) (rest : List Char) : Solid (c :: rest) := by
  rintro _ ⟨⟩
  exact h

theorem isSpace_of_mem {c : Char} (h : c ∈ [' ', '\n', '\t', '\r']) : isSpace c = true := by
  simpa [isSpace, or_assoc] using h

theorem skipSpace_of_solid {rest : List Char} (h : Solid rest) (p : Position) :
    (⟨rest, p⟩ : Cursor).skipSpace = ⟨rest, p⟩ := by
  cases rest with
  | nil => rfl
  | cons c rest => simp [Cursor.skipSpace, skipSpaceFrom, h c rfl]

theorem skipSpace_of_blank {text rest : List Char} (h : Blank text rest) (hrest : Solid rest)
    (p : Position) : ∃ p', (⟨text, p⟩ : Cursor).skipSpace = ⟨rest, p'⟩ := by
  induction h generalizing p with
  | refl => exact ⟨p, skipSpace_of_solid hrest p⟩
  | @space c text rest hc _ ih =>
    obtain ⟨p', hp'⟩ := ih hrest (p.after c)
    refine ⟨p', ?_⟩
    rw [← hp']
    simp [Cursor.skipSpace, skipSpaceFrom, isSpace_of_mem hc]

/-! ### Strings -/

theorem hexDigit?_of_isHexDigit {c : Char} {value : Nat} (h : IsHexDigit c value) :
    hexDigit? c = some value := by
  obtain ⟨hvalue, h⟩ := h
  have hall : ∀ table ∈ ["0123456789abcdef", "0123456789ABCDEF"], ∀ v < 16,
      table.toList[v]?.bind hexDigit? = some v := by decide
  rcases h with h | h
  · simpa only [h, Option.bind_some] using hall _ (.head _) value hvalue
  · simpa only [h, Option.bind_some] using hall _ (.tail _ (.head _)) value hvalue

theorem hexValue?_of_hex {digits rest : List Char} {n : Nat} (h : Hex digits n rest) :
    ∃ a b c d, digits = a :: b :: c :: d :: rest ∧ hexValue? [a, b, c, d] = some n := by
  cases h with
  | mk rest h₁ h₂ h₃ h₄ =>
    refine ⟨_, _, _, _, rfl, ?_⟩
    simp [hexValue?, hexDigit?_of_isHexDigit h₁, hexDigit?_of_isHexDigit h₂,
      hexDigit?_of_isHexDigit h₃, hexDigit?_of_isHexDigit h₄]

theorem escapedChar?_of_mem {letter c : Char} (h : (letter, c) ∈ shortEscapes) :
    escapedChar? letter = some c ∧ letter ≠ 'u' := by
  have hall : ∀ escape ∈ shortEscapes, escapedChar? escape.1 = some escape.2 ∧ escape.1 ≠ 'u' := by
    decide
  exact hall _ h

/-- Hexadecimal digits are found among the first 128 characters. -/
theorem toNat_lt_of_hexDigit? {c : Char} {value : Nat} (h : hexDigit? c = some value) :
    c.toNat < 128 := by
  have hle : ∀ d : Char, c ≤ d → c.toNat ≤ d.toNat := fun d hd ↦ hd
  have hbound : '9'.toNat < 128 ∧ 'f'.toNat < 128 ∧ 'F'.toNat < 128 := by decide
  unfold hexDigit? at h
  split at h
  · next hc => exact Nat.lt_of_le_of_lt (hle _ hc.2) hbound.1
  split at h
  · next hc => exact Nat.lt_of_le_of_lt (hle _ hc.2) hbound.2.1
  split at h
  · next hc => exact Nat.lt_of_le_of_lt (hle _ hc.2) hbound.2.2
  · cases h

theorem isHexDigit_of_hexDigit? {c : Char} {value : Nat} (h : hexDigit? c = some value) :
    IsHexDigit c value := by
  have hall : ∀ n < 128, ∀ v ∈ hexDigit? (Char.ofNat n), IsHexDigit (Char.ofNat n) v := by
    unfold IsHexDigit
    decide
  have hc := hall c.toNat (toNat_lt_of_hexDigit? h) value
  rw [Char.ofNat_toNat] at hc
  exact hc h

theorem hex_of_hexValue? {a b c d : Char} {n : Nat} (h : hexValue? [a, b, c, d] = some n)
    (rest : List Char) : Hex (a :: b :: c :: d :: rest) n rest := by
  simp only [hexValue?, List.foldlM_cons, List.foldlM_nil, Option.bind_eq_bind,
    Option.bind_eq_some_iff, Option.map_eq_some_iff, Option.pure_def, Option.some.injEq] at h
  obtain ⟨_, ⟨d₁, h₁, rfl⟩, _, ⟨d₂, h₂, rfl⟩, _, ⟨d₃, h₃, rfl⟩, _, ⟨d₄, h₄, rfl⟩, rfl⟩ := h
  rw [Nat.zero_mul, Nat.zero_add]
  exact .mk rest (isHexDigit_of_hexDigit? h₁) (isHexDigit_of_hexDigit? h₂)
    (isHexDigit_of_hexDigit? h₃) (isHexDigit_of_hexDigit? h₄)

theorem mem_of_escapedChar? {letter c : Char} (h : escapedChar? letter = some c) :
    (letter, c) ∈ shortEscapes := by
  unfold escapedChar? at h
  split at h
  · next hself =>
    cases h
    rcases hself with rfl | rfl | rfl <;> decide
  · repeat' split at h
    all_goals
      cases h
      try (subst letter; decide)

theorem isLeadSurrogate_iff {n : Nat} : isLeadSurrogate n = true ↔ 0xD800 ≤ n ∧ n ≤ 0xDBFF := by
  simp [isLeadSurrogate]

theorem isTrailSurrogate_iff {n : Nat} : isTrailSurrogate n = true ↔ 0xDC00 ≤ n ∧ n ≤ 0xDFFF := by
  simp [isTrailSurrogate]

/-- A string is read as what it means. -/
theorem readString_of_spells {text meant rest : List Char} (h : Spells text meant rest)
    (read : List Char) (p : Position) :
    ∃ p', readString read p text = .ok (String.ofList (read.reverse ++ meant), ⟨rest, p'⟩) := by
  induction h generalizing read p with
  | close rest =>
    rw [List.append_nil, readString.eq_def]
    exact ⟨_, rfl⟩
  | @plain c _ _ _ hc _ ih =>
    obtain ⟨p', hp'⟩ := ih (c :: read) (p.after c)
    refine ⟨p', ?_⟩
    rw [readString.eq_def]
    simp [hc.1, hc.2.1, Nat.not_lt.mpr hc.2.2, hp']
  | @short letter c _ _ _ hescape _ ih =>
    obtain ⟨hchar, hletter⟩ := escapedChar?_of_mem hescape
    obtain ⟨p', hp'⟩ := ih (c :: read) (p.plus 2)
    refine ⟨p', ?_⟩
    rw [readString.eq_def]
    simp [hletter, hchar, hp']
  | @unit n digits text meant rest hdigits hn _ ih =>
    obtain ⟨a, b, c, d, rfl, hvalue⟩ := hexValue?_of_hex hdigits
    have hlead : ¬isLeadSurrogate n = true := by
      rw [isLeadSurrogate_iff]
      omega
    have htrail : ¬isTrailSurrogate n = true := by
      rw [isTrailSurrogate_iff]
      omega
    obtain ⟨p', hp'⟩ := ih (Char.ofNat n :: read) (p.plus 6)
    refine ⟨p', ?_⟩
    rw [readString.eq_def]
    simp [hvalue, hlead, htrail, hp']
  | @pair lead trail digits digits' text meant rest hdigits hlead hdigits' htrail _ ih =>
    obtain ⟨a, b, c, d, rfl, hvalue⟩ := hexValue?_of_hex hdigits
    obtain ⟨e, f, g, h, rfl, hvalue'⟩ := hexValue?_of_hex hdigits'
    have hfirst : ¬isTrailSurrogate lead = true := by
      rw [isTrailSurrogate_iff]
      omega
    have hleads : isLeadSurrogate lead = true := isLeadSurrogate_iff.mpr hlead
    have htrails : isTrailSurrogate trail = true := isTrailSurrogate_iff.mpr htrail
    obtain ⟨p', hp'⟩ :=
      ih (Char.ofNat (0x10000 + (lead - 0xD800) * 0x400 + (trail - 0xDC00)) :: read) (p.plus 12)
    refine ⟨p', ?_⟩
    rw [readString.eq_def]
    simp [hvalue, hvalue', hfirst, hleads, htrails, hp']

/-- A string is stepped over up to its closing quote. -/
theorem skipString_of_quoted {text rest : List Char} (h : Quoted text rest) (p : Position) :
    ∃ p', skipString p text = .ok ⟨rest, p'⟩ := by
  induction h generalizing p with
  | close rest =>
    rw [skipString.eq_def]
    exact ⟨_, rfl⟩
  | @plain c _ _ hc _ ih =>
    obtain ⟨p', hp'⟩ := ih (p.after c)
    refine ⟨p', ?_⟩
    rw [skipString.eq_def]
    simp [hc.1, hc.2.1, Nat.not_lt.mpr hc.2.2, hp']
  | short hescape _ ih =>
    obtain ⟨hchar, hletter⟩ := escapedChar?_of_mem hescape
    obtain ⟨p', hp'⟩ := ih (p.plus 2)
    refine ⟨p', ?_⟩
    rw [skipString.eq_def]
    simp [hletter, hchar, hp']
  | unit hdigits _ ih =>
    obtain ⟨a, b, c, d, rfl, hvalue⟩ := hexValue?_of_hex hdigits
    obtain ⟨p', hp'⟩ := ih (p.plus 6)
    refine ⟨p', ?_⟩
    rw [skipString.eq_def]
    simp [hvalue, hp']

theorem Quoted.of_close {text rest : List Char} (h : Quoted ('"' :: text) rest) : text = rest := by
  cases h with
  | close => rfl
  | plain hc => exact (hc.1 rfl).elim

theorem Quoted.of_plain {c : Char} {text rest : List Char} (h : Quoted (c :: text) rest)
    (hquote : c ≠ '"') (hescape : c ≠ '\\') : Quoted text rest := by
  cases h with
  | close => exact (hquote rfl).elim
  | plain _ htext => exact htext
  | short => exact (hescape rfl).elim
  | unit => exact (hescape rfl).elim

theorem Quoted.of_short {letter : Char} {text rest : List Char}
    (h : Quoted ('\\' :: letter :: text) rest) (hletter : letter ≠ 'u') : Quoted text rest := by
  cases h with
  | plain hc => exact (hc.2.1 rfl).elim
  | short _ htext => exact htext
  | unit => exact (hletter rfl).elim

theorem Quoted.of_unit {a b c d : Char} {text rest : List Char}
    (h : Quoted ('\\' :: 'u' :: a :: b :: c :: d :: text) rest) : Quoted text rest := by
  cases h with
  | plain hc => exact (hc.2.1 rfl).elim
  | short hescape => exact ((escapedChar?_of_mem hescape).2 rfl).elim
  | unit hdigits htext =>
    obtain ⟨_, _, _, _, heq, _⟩ := hexValue?_of_hex hdigits
    cases heq
    exact htext

theorem Quoted.unique {text rest rest' : List Char} (h : Quoted text rest)
    (h' : Quoted text rest') : rest = rest' := by
  induction h with
  | close => exact h'.of_close
  | plain hc _ ih => exact ih (h'.of_plain hc.1 hc.2.1)
  | short hescape _ ih => exact ih (h'.of_short (escapedChar?_of_mem hescape).2)
  | unit hdigits _ ih =>
    obtain ⟨_, _, _, _, rfl, _⟩ := hexValue?_of_hex hdigits
    exact ih h'.of_unit

theorem ofList_reverse_cons (c : Char) (read meant : List Char) :
    String.ofList ((c :: read).reverse ++ meant) = String.ofList (read.reverse ++ c :: meant) := by
  rw [List.reverse_cons, List.append_assoc, List.singleton_append]

/-- A string that is accepted means what has been read. -/
theorem spells_of_readString {text read : List Char} {p : Position} {value : String} {c : Cursor}
    (hread : readString read p text = .ok (value, c)) :
    ∃ meant, value = String.ofList (read.reverse ++ meant) ∧ Spells text meant c.rest := by
  fun_induction readString read p text
  case case2 read p rest =>
    cases hread
    exact ⟨[], by rw [List.append_nil], .close rest⟩
  case case9 hdigits _ hlead _ _ _ _ _ _ hdigits' htrail _ ih =>
    obtain ⟨meant, rfl, hspells⟩ := ih hread
    refine ⟨_, ofList_reverse_cons _ _ _, ?_⟩
    exact .pair (hex_of_hexValue? hdigits _) (isLeadSurrogate_iff.mp hlead)
      (hex_of_hexValue? hdigits' _) (isTrailSurrogate_iff.mp htrail) hspells
  case case14 hdigits htrail hlead _ ih =>
    obtain ⟨meant, rfl, hspells⟩ := ih hread
    rw [isLeadSurrogate_iff] at hlead
    rw [isTrailSurrogate_iff] at htrail
    exact ⟨_, ofList_reverse_cons _ _ _, .unit (hex_of_hexValue? hdigits _) (by omega) hspells⟩
  case case16 hescape _ ih =>
    obtain ⟨meant, rfl, hspells⟩ := ih hread
    exact ⟨_, ofList_reverse_cons _ _ _, .short (mem_of_escapedChar? hescape) hspells⟩
  case case19 hquote hescape hcontrol ih =>
    obtain ⟨meant, rfl, hspells⟩ := ih hread
    have hplain := And.intro hquote (And.intro hescape (Nat.le_of_not_lt hcontrol))
    exact ⟨_, ofList_reverse_cons _ _ _, .plain hplain hspells⟩
  -- the other cases are faults
  all_goals cases hread

/-- A string that is accepted has been read up to its closing quote. -/
theorem rest_of_readString {text rest : List Char} (h : Quoted text rest) {read : List Char}
    {p : Position} {value : String} {c : Cursor} (hread : readString read p text = .ok (value, c)) :
    c.rest = rest := by
  obtain ⟨_, _, hspells⟩ := spells_of_readString hread
  exact hspells.quoted.unique h

/-! ### Words and numbers -/

theorem readWord_append (word rest : List Char) (p : Position) :
    ∃ p', readWord word ⟨word ++ rest, p⟩ = .ok ⟨rest, p'⟩ := by
  induction word generalizing p with
  | nil => exact ⟨p, rfl⟩
  | cons c word ih =>
    obtain ⟨p', hp'⟩ := ih (p.after c)
    exact ⟨p', by simp [readWord, Cursor.drop, hp']⟩

/-- A word that is accepted has been read to its end. -/
theorem rest_of_readWord {word : List Char} {c c' : Cursor} (h : readWord word c = .ok c') :
    c.rest = word ++ c'.rest := by
  induction word generalizing c with
  | nil =>
    cases h
    rfl
  | cons w word ih =>
    obtain ⟨rest, p⟩ := c
    cases rest with
    | nil => cases h
    | cons d rest =>
      rw [readWord] at h
      dsimp only at h
      split at h
      · next hd => simpa [hd, Cursor.drop] using ih h
      · cases h

/-- No digit comes next. -/
def NoDigit (rest : List Char) : Prop := ∀ c, rest.head? = some c → c.isDigit = false

theorem takeWhile_digits {digits rest : List Char} (h : IsDigits digits) (hrest : NoDigit rest) :
    (digits ++ rest).takeWhile Char.isDigit = digits ∧
      (digits ++ rest).dropWhile Char.isDigit = rest := by
  have hstop : rest.takeWhile Char.isDigit = [] ∧ rest.dropWhile Char.isDigit = rest := by
    cases rest with
    | nil => exact ⟨rfl, rfl⟩
    | cons c rest => simp [hrest c rfl]
  rw [List.takeWhile_append_of_pos h.2, List.dropWhile_append_of_pos h.2, hstop.1, hstop.2]
  simp

/-- Digits are read up to the first character that is none. -/
theorem readDigits_append {digits rest : List Char} (h : IsDigits digits) (hrest : NoDigit rest)
    (p : Position) :
    ∃ values p', values ≠ [] ∧ readDigits ⟨digits ++ rest, p⟩ = (values, ⟨rest, p'⟩) := by
  obtain ⟨htake, hdrop⟩ := takeWhile_digits h hrest
  refine ⟨_, _, ?_, by rw [readDigits, htake, hdrop]⟩
  simpa using h.1

theorem IsDigits.exists_cons {digits : List Char} (h : IsDigits digits) :
    ∃ c more, digits = c :: more ∧ c.isDigit := by
  obtain ⟨hne, hall⟩ := h
  cases digits with
  | nil => exact (hne rfl).elim
  | cons c more => exact ⟨c, more, rfl, hall c List.mem_cons_self⟩

/-- What follows a value goes on with no number. -/
theorem Follows.not_mem {rest : List Char} (h : Follows rest) {c : Char}
    (hc : rest.head? = some c) : c.isDigit = false ∧ c ≠ '.' ∧ c ≠ 'e' ∧ c ≠ 'E' := by
  have hall : ∀ c ∈ [' ', '\n', '\t', '\r', ',', ']', '\x7d'],
      c.isDigit = false ∧ c ≠ '.' ∧ c ≠ 'e' ∧ c ≠ 'E' := by simp
  exact hall c (h c hc)

theorem IsExponent.head {exponent rest : List Char} (h : IsExponent exponent)
    (hrest : Follows rest) {c : Char} (hc : (exponent ++ rest).head? = some c) :
    c.isDigit = false ∧ c ≠ '.' := by
  cases h with
  | none => exact ⟨(hrest.not_mem hc).1, (hrest.not_mem hc).2.1⟩
  | digits he =>
    cases hc
    rcases he with rfl | rfl <;> decide

theorem IsFraction.noDigit {fraction exponent rest : List Char} (h : IsFraction fraction)
    (hexponent : IsExponent exponent) (hrest : Follows rest) :
    NoDigit (fraction ++ (exponent ++ rest)) := by
  intro c hc
  cases h with
  | none => exact (hexponent.head hrest hc).1
  | digits =>
    cases hc
    decide

theorem readSign_append {sign digits : List Char} (hsign : sign ∈ [[], ['+'], ['-']])
    (hdigits : IsDigits digits) (rest : List Char) (p : Position) :
    ∃ positive p', readSign ⟨sign ++ (digits ++ rest), p⟩ = (positive, ⟨digits ++ rest, p'⟩) := by
  simp only [List.mem_cons, List.not_mem_nil, or_false] at hsign
  rcases hsign with rfl | rfl | rfl
  · obtain ⟨c, more, rfl, hc⟩ := hdigits.exists_cons
    have hplus : c ≠ '+' := by
      rintro rfl
      cases hc
    have hminus : c ≠ '-' := by
      rintro rfl
      cases hc
    exact ⟨true, p, by simp [readSign, hplus, hminus]⟩
  · exact ⟨true, _, rfl⟩
  · exact ⟨false, _, rfl⟩

theorem readExponent_append {exponent rest : List Char} (h : IsExponent exponent)
    (hrest : Follows rest) (n : Numeral) (p : Position) :
    ∃ n' p', readExponent n ⟨exponent ++ rest, p⟩ = .ok (n', ⟨rest, p'⟩) := by
  cases h with
  | none =>
    cases rest with
    | nil => exact ⟨n, p, rfl⟩
    | cons c rest =>
      obtain ⟨_, _, hlower, hupper⟩ := hrest.not_mem rfl
      exact ⟨n, p, by simp [readExponent, hlower, hupper]⟩
  | @digits e sign digits he hsign hdigits =>
    obtain ⟨positive, p', hreadSign⟩ := readSign_append hsign hdigits rest (p.after e)
    obtain ⟨values, p'', _, hread⟩ := readDigits_append hdigits (fun c hc ↦ (hrest.not_mem hc).1) p'
    obtain ⟨d, more, rfl, hd⟩ := hdigits.exists_cons
    rw [List.cons_append] at hread
    refine ⟨{ n with isInteger := false, exponentPositive := positive, exponent := values }, p'', ?_⟩
    have hdrop : (⟨e :: (sign ++ (d :: more ++ rest)), p⟩ : Cursor).drop =
        ⟨sign ++ (d :: more ++ rest), p.after e⟩ := rfl
    rcases he with rfl | rfl
    all_goals
      rw [List.cons_append, List.append_assoc, readExponent]
      dsimp only
      rw [hdrop, hreadSign]
      simp [hd, hread]

theorem IsWhole.isDigits {whole : List Char} (h : IsWhole whole) : IsDigits whole := by
  rcases h with rfl | ⟨h, _⟩
  · exact ⟨nofun, by simp⟩
  · exact h

/-- No digit follows a leading zero. -/
theorem IsWhole.leadingZero {d : Char} {more rest : List Char} (h : IsWhole (d :: more))
    (hrest : NoDigit rest) : ¬(d = '0' ∧ ((more ++ rest).head?.any Char.isDigit) = true) := by
  rintro ⟨rfl, hdigit⟩
  rcases h with hzero | ⟨_, hhead⟩
  · cases hzero
    obtain ⟨c, hc, hdigit⟩ := (Option.any_eq_true _ _).mp hdigit
    rw [hrest c hc] at hdigit
    cases hdigit
  · exact hhead rfl

/-- A number is read to its end. -/
theorem readNumeral_append {whole fraction exponent rest : List Char} (hwhole : IsWhole whole)
    (hfraction : IsFraction fraction) (hexponent : IsExponent exponent) (hrest : Follows rest)
    (p : Position) :
    ∃ n p', readNumeral ⟨whole ++ (fraction ++ (exponent ++ rest)), p⟩ = .ok (n, ⟨rest, p'⟩) := by
  have hnoDigit := hfraction.noDigit hexponent hrest
  obtain ⟨values, p₁, _, hread⟩ := readDigits_append hwhole.isDigits hnoDigit p
  obtain ⟨d, more, rfl, hd⟩ := hwhole.isDigits.exists_cons
  have hzero := hwhole.leadingZero hnoDigit
  rw [List.cons_append] at hread ⊢
  rw [readNumeral]
  simp only [hd, if_true, if_neg hzero, hread]
  cases hfraction with
  | none =>
    obtain ⟨n, p', hexp⟩ := readExponent_append hexponent hrest { whole := values } p₁
    refine ⟨n, p', ?_⟩
    rw [List.nil_append]
    split
    · next more hpoint => exact ((hexponent.head hrest (congrArg List.head? hpoint)).2 rfl).elim
    · exact hexp
  | @digits digits hdigits =>
    obtain ⟨values', p₂, hne, hread'⟩ :=
      readDigits_append hdigits (fun c hc ↦ (hexponent.head hrest hc).1) (p₁.after '.')
    obtain ⟨n, p', hexp⟩ := readExponent_append hexponent hrest
      { whole := values, fraction := values', isInteger := false } p₂
    refine ⟨n, p', ?_⟩
    have hdrop : (⟨'.' :: (digits ++ (exponent ++ rest)), p₁⟩ : Cursor).drop =
        ⟨digits ++ (exponent ++ rest), p₁.after '.'⟩ := rfl
    simp only [List.cons_append, hdrop, hread', List.isEmpty_eq_false_iff.mpr hne]
    exact hexp

end BrowserScript.Json
