import Mathlib.Data.List.DropRight
import BrowserScript.Proofs.Bytes.Encoding
import BrowserScript.Proofs.Wrapper.CodeHistory

/-!
What stands in front of a place, read off the bytes there. The scanner on bytes remembers the index
of a byte and looks the word that ends there up again whenever it decides; the scanner on characters
keeps a summary of the last token. `Recalls` says what the byte tells of a token. Under it the two
decide alike (`Recalls.regexAllowed_eq`, `Recalls.opensObject_eq`, `Recalls.opensControlHeader_eq`),
and no byte is looked up that is not there. Letters of a regular expression's flags may come to
stand in front of a word; such a word is never one that matters, as its own first character is no
letter.
-/

set_option autoImplicit false
set_option relaxedAutoImplicit false

namespace BrowserScript.Wrapper.Bytes

open Text

variable {src : List UInt8} {st : State} {s : ScanState} {pos i : Nat} {b : UInt8} {p : Preceding}
  {c : Char} {letters rest : List Char}

/-! ### Words in front of a place -/

/-- The bytes of words directly in front of a place. -/
def wordBefore (src : List UInt8) (pos : Nat) : List UInt8 := (src.take pos).rtakeWhile isWordByte

theorem wordBefore_succ (h : src[pos]? = some b) :
    wordBefore src (pos + 1) = if isWordByte b then wordBefore src pos ++ [b] else [] := by
  rw [wordBefore, List.take_add_one, h, Option.toList_some, List.rtakeWhile_concat]
  rfl

/-- The byte in front of a place is none of a character. -/
def NotBehind (src : List UInt8) (pos : Nat) (d : Char) : Prop :=
  ∀ i b, pos = i + 1 → src[i]? = some b → asChar b ≠ d

theorem notBehind_succ {d : Char} (h : src[pos]? = some b) (hd : asChar b ≠ d) :
    NotBehind src (pos + 1) d := by
  intro i b' hi hb
  obtain rfl := Nat.succ.inj hi
  rw [h, Option.some.injEq] at hb
  exact hb ▸ hd

theorem drop_wordStart (bytes : List UInt8) :
    bytes.drop (wordStart bytes) = bytes.rtakeWhile isWordByte := by
  have hsplit : bytes = (bytes.reverse.dropWhile isWordByte).reverse ++
      (bytes.reverse.takeWhile isWordByte).reverse := by
    rw [← List.reverse_append, List.takeWhile_append_dropWhile, List.reverse_reverse]
  have hstart : wordStart bytes = (bytes.reverse.dropWhile isWordByte).reverse.length := by
    have hlength := congrArg List.length hsplit
    rw [List.length_append, List.length_reverse, List.length_reverse] at hlength
    rw [wordStart, List.length_reverse]
    omega
  calc bytes.drop (wordStart bytes)
      = ((bytes.reverse.dropWhile isWordByte).reverse ++
          (bytes.reverse.takeWhile isWordByte).reverse).drop
            (bytes.reverse.dropWhile isWordByte).reverse.length := by rw [← hsplit, hstart]
    _ = bytes.rtakeWhile isWordByte := List.drop_left

theorem wordStart_le (bytes : List UInt8) : wordStart bytes ≤ bytes.length :=
  Nat.sub_le _ _

/-- A byte that is remembered and is part of a word is the end of that word. -/
theorem prevWord_of_word (hprev : st.prev = some i) (hb : src[i]? = some b)
    (hword : isWordByte b) : prevWord src st = .ok (some (wordBefore src (i + 1))) := by
  have hlt : i < src.length := (List.getElem?_eq_some_iff.mp hb).1
  have hlength : (src.take (i + 1)).length = i + 1 := by
    rw [List.length_take]
    omega
  have hfront : part src 0 (i + 1) = .ok (src.take (i + 1)) := by
    rw [part, if_pos ⟨Nat.zero_le _, hlt⟩, List.drop_zero]
  have hpart : part src (wordStart (src.take (i + 1))) (i + 1) =
      .ok (wordBefore src (i + 1)) := by
    have hle := wordStart_le (src.take (i + 1))
    rw [hlength] at hle
    rw [part, if_pos ⟨hle, hlt⟩, drop_wordStart]
    rfl
  rw [prevWord, hprev]
  simp only [byteAt, hb, hword, hfront, hpart, bind, Except.bind, pure, Except.pure, if_true]

theorem prevWord_of_not_word (hprev : st.prev = some i) (hb : src[i]? = some b)
    (hword : isWordByte b = false) : prevWord src st = .ok none := by
  rw [prevWord, hprev]
  simp [byteAt, hb, hword, bind, Except.bind, pure, Except.pure]

theorem prevWord_of_none (hprev : st.prev = none) : prevWord src st = .ok none := by
  rw [prevWord, hprev]

/-! ### Words that matter -/

/-- The characters of words are of ASCII. -/
theorem ascii_of_isWordChar (h : isWordChar c) : c.toNat < 128 := by
  simp only [isWordChar, isWordStart, Bool.or_eq_true, decide_eq_true_eq] at h
  rcases h with ((halpha | rfl) | rfl) | hdigit
  · exact UInt32.le_iff_toNat_le.mp (Char.utf8Size_eq_one_iff.mp (utf8Size_of_isAlpha halpha)) |>
      Nat.lt_succ_of_le
  · decide
  · decide
  · simp only [Char.isDigit, Bool.and_eq_true, decide_eq_true_eq] at hdigit
    exact Nat.lt_of_le_of_lt (UInt32.le_iff_toNat_le.mp hdigit.2) (by decide)

theorem isWordByte_toUInt8 (h : isWordChar c) : isWordByte c.toUInt8 := by
  rw [isWordByte, asChar_toUInt8 (ascii_of_isWordChar h)]
  exact h

theorem not_isWordChar_of_wide (h : 128 ≤ c.toNat) : isWordChar c = false := by
  rw [Bool.eq_false_iff]
  intro hword
  have hlt := ascii_of_isWordChar hword
  omega

/-- Words of letters only. -/
def Lettered (words : List String) : Prop := ∀ w ∈ words, ∀ c ∈ w.toList, c.isAlpha

theorem Lettered.of_all {words : List String} (h : words.all fun w ↦ w.toList.all Char.isAlpha) :
    Lettered words := fun w hw ↦ List.all_eq_true.mp (List.all_eq_true.mp h w hw)

theorem lettered_regexWords : Lettered regexWords := .of_all (by decide +kernel)

theorem lettered_expressionWords : Lettered expressionWords := .of_all (by decide +kernel)

theorem lettered_controlWords : Lettered controlWords := .of_all (by decide +kernel)

/-- Assumes: letters in front of a word, if it has a character that is none. The whole is one of
some words of letters exactly if the word is, that is never if there are letters in front. -/
theorem isOneOf_append {words : List String} (hwords : Lettered words) {flags : List UInt8}
    (hletters : ∀ c ∈ letters, isWordChar c)
    (hflags : flags = [] ∨ ∃ c ∈ letters, c.isAlpha = false) :
    isOneOf words (flags ++ encode letters.reverse) =
      words.contains (String.ofList letters.reverse) := by
  rw [isOneOf, Bool.eq_iff_iff, List.any_eq_true, List.contains_iff_mem]
  constructor
  · rintro ⟨w, hw, heq⟩
    rw [decide_eq_true_eq] at heq
    rcases hflags with rfl | ⟨c, hc, halpha⟩
    · rw [List.nil_append] at heq
      rwa [← encode_injective heq, String.ofList_toList]
    · -- the byte of `c` would be that of a letter
      exfalso
      have hascii := ascii_of_isWordChar (hletters c hc)
      have hmem : c.toUInt8 ∈ encode w.toList := by
        rw [heq]
        refine List.mem_append_right _ (List.mem_flatMap.mpr ⟨c, List.mem_reverse.mpr hc, ?_⟩)
        rw [utf8EncodeChar_of_ascii hascii]
        exact List.mem_singleton_self _
      obtain ⟨d, hd, hbyte⟩ := List.mem_flatMap.mp hmem
      have hdalpha := hwords w hw d hd
      have hdascii := ascii_of_isWordChar (c := d) (by simp [isWordChar, isWordStart, hdalpha])
      rw [utf8EncodeChar_of_ascii hdascii, List.mem_singleton] at hbyte
      have hcd : c = d := by rw [← asChar_toUInt8 hascii, hbyte, asChar_toUInt8 hdascii]
      rw [hcd, hdalpha] at halpha
      cases halpha
  · intro hw
    refine ⟨_, hw, ?_⟩
    rcases hflags with rfl | ⟨c, hc, halpha⟩
    · simp
    · have hcalpha := hwords _ hw c (by simpa using hc)
      rw [halpha] at hcalpha
      cases hcalpha

/-! ### The last token -/

/-- The byte that is remembered, and what stands in front of it, belong to the last token. -/
inductive Recalls (src : List UInt8) (st : State) : Preceding → Prop
  | nothing (hprev : st.prev = none) : Recalls src st .nothing
  | literal {i : Nat} {b : UInt8} (hprev : st.prev = some i) (hb : src[i]? = some b)
    (hopen : asChar b ∈ ['\'', '"', '`', '/']) : Recalls src st .literal
  | word {i : Nat} {b : UInt8} {letters : List Char} {flags : List UInt8}
    (hprev : st.prev = some i) (hb : src[i]? = some b) (hbyte : isWordByte b)
    (hword : wordBefore src (i + 1) = flags ++ encode letters.reverse)
    (hletters : ∀ c ∈ letters, isWordChar c)
    (hflags : flags = [] ∨ ∃ c ∈ letters, c.isAlpha = false) : Recalls src st (.word letters)
  | closer {i : Nat} {b : UInt8} {allowed : Bool} (hprev : st.prev = some i)
    (hb : src[i]? = some b) (hclose : asChar b = ')' ∨ asChar b = '\x7d')
    (hclosed : st.closed = some (i, allowed)) : Recalls src st (.closer allowed)
  | arrow {i : Nat} {b b' : UInt8} (hprev : st.prev = some (i + 1)) (hb : src[i]? = some b)
    (hb' : src[i + 1]? = some b') (hequals : asChar b = '=') (hangle : asChar b' = '>') :
    Recalls src st .arrow
  | mark {i : Nat} {b : UInt8} {c : Char} (hprev : st.prev = some i) (hb : src[i]? = some b)
    (hc : asChar b = c ∨ 128 ≤ c.toNat ∧ 128 ≤ (asChar b).toNat)
    (hplain : c ∉ ['\'', '"', '`', ')', '\x7d']) (hword : isWordChar c = false)
    (harrow : c = '>' → NotBehind src i '=') : Recalls src st (.mark c)

/-- The byte that is remembered as closing something closes something. -/
def ClosedAt (src : List UInt8) (st : State) : Prop :=
  ∀ i allowed, st.closed = some (i, allowed) →
    ∃ b, src[i]? = some b ∧ (asChar b = ')' ∨ asChar b = '\x7d')

/-- A byte that closes nothing is not remembered as one that does. -/
theorem ClosedAt.regexAllowed_eq (h : ClosedAt src st) (hprev : st.prev = some i)
    (hb : src[i]? = some b) (hopen : asChar b ≠ ')' ∧ asChar b ≠ '\x7d') :
    regexAllowed src st = regexAllowedBehind src st i := by
  rw [regexAllowed, hprev]
  cases hclosed : st.closed with
  | none => rfl
  | some place =>
    obtain ⟨j, allowed⟩ := place
    refine if_neg ?_
    rintro rfl
    obtain ⟨b', hb', hclose⟩ := h j allowed hclosed
    rw [hb, Option.some.injEq] at hb'
    subst hb'
    rcases hclose with hclose | hclose
    · exact hopen.1 hclose
    · exact hopen.2 hclose

theorem regexAllowedBehind_of_not_word (hprev : st.prev = some i) (hb : src[i]? = some b)
    (hword : isWordByte b = false) : regexAllowedBehind src st i =
      .ok !([')', ']', '\'', '"', '`', '/'].contains (asChar b)) := by
  rw [regexAllowedBehind, prevWord_of_not_word hprev hb hword]
  simp [byteAt, hb, bind, Except.bind, pure, Except.pure]

theorem regexAllowedBehind_of_word (hprev : st.prev = some i) (hb : src[i]? = some b)
    (hword : isWordByte b) :
    regexAllowedBehind src st i = .ok (isOneOf regexWords (wordBefore src (i + 1))) := by
  rw [regexAllowedBehind, prevWord_of_word hprev hb hword]
  rfl

theorem opensObject_of_word (hprev : st.prev = some i) (hb : src[i]? = some b)
    (hword : isWordByte b) :
    opensObject src st = .ok (isOneOf expressionWords (wordBefore src (i + 1))) := by
  rw [opensObject, hprev]
  simp only [prevWord_of_word hprev hb hword]
  rfl

theorem opensObject_of_not_word (hprev : st.prev = some i) (hb : src[i]? = some b)
    (hword : isWordByte b = false) (hmark : asChar b ≠ '>') :
    opensObject src st = .ok (operandChars.contains (asChar b)) := by
  rw [opensObject, hprev]
  simp [prevWord_of_not_word hprev hb hword, byteAt, hb, hmark, bind, Except.bind, pure,
    Except.pure]

theorem isWordByte_of_asChar_eq {d : Char} (h : asChar b = d) : isWordByte b = isWordChar d := by
  rw [isWordByte, h]

theorem isWordByte_of_wide (h : 128 ≤ (asChar b).toNat) : isWordByte b = false :=
  not_isWordChar_of_wide h

/-- A byte that is none of ASCII is none of a list of such characters. -/
theorem not_mem_of_wide {ds : List Char} (hds : ds.all fun d ↦ d.toNat < 128)
    (h : 128 ≤ c.toNat) : c ∉ ds := fun hmem ↦ by
  have hlt := of_decide_eq_true (List.all_eq_true.mp hds c hmem)
  omega

theorem Recalls.regexAllowed_eq (h : Recalls src st p) (hclosed : ClosedAt src st) :
    regexAllowed src st = .ok p.regexAllowed := by
  cases h with
  | nothing hprev => rw [regexAllowed, hprev]; rfl
  | @literal i b hprev hb hopen =>
    simp only [List.mem_cons, List.not_mem_nil, or_false] at hopen
    have hnot : asChar b ≠ ')' ∧ asChar b ≠ '\x7d' := by
      rcases hopen with h | h | h | h <;> rw [h] <;> decide
    have hword : isWordByte b = false := by
      rcases hopen with h | h | h | h <;> rw [isWordByte_of_asChar_eq h] <;> decide
    rw [hclosed.regexAllowed_eq hprev hb hnot, regexAllowedBehind_of_not_word hprev hb hword]
    rcases hopen with h | h | h | h <;> rw [h] <;> rfl
  | @word i b letters flags hprev hb hbyte hword hletters hflags =>
    have hnot : asChar b ≠ ')' ∧ asChar b ≠ '\x7d' := by
      constructor <;> intro h <;> rw [isWordByte_of_asChar_eq h] at hbyte <;> cases hbyte
    rw [hclosed.regexAllowed_eq hprev hb hnot, regexAllowedBehind_of_word hprev hb hbyte, hword,
      isOneOf_append lettered_regexWords hletters hflags]
    rfl
  | closer hprev hb hclose hplace =>
    rw [regexAllowed, hprev, hplace]
    exact if_pos rfl
  | @arrow i b b' hprev hb hb' hequals hangle =>
    have hword : isWordByte b' = false := (isWordByte_of_asChar_eq hangle).trans (by decide)
    rw [hclosed.regexAllowed_eq hprev hb' (by rw [hangle]; decide),
      regexAllowedBehind_of_not_word hprev hb' hword, hangle]
    rfl
  | @mark i b c hprev hb hc hplain hword harrow =>
    simp only [List.mem_cons, List.not_mem_nil, or_false, not_or] at hplain
    rcases hc with rfl | ⟨hc, hwide⟩
    · rw [hclosed.regexAllowed_eq hprev hb ⟨hplain.2.2.2.1, hplain.2.2.2.2⟩,
        regexAllowedBehind_of_not_word hprev hb hword]
      simp [Preceding.regexAllowed, hplain]
    · have hbyte :=
        @not_mem_of_wide (asChar b) [')', ']', '\'', '"', '`', '/', '\x7d'] (by decide) hwide
      have hmark := @not_mem_of_wide c [']', '/'] (by decide) hc
      simp only [List.mem_cons, List.not_mem_nil, or_false, not_or] at hbyte hmark
      rw [hclosed.regexAllowed_eq hprev hb ⟨hbyte.1, hbyte.2.2.2.2.2.2⟩,
        regexAllowedBehind_of_not_word hprev hb (isWordByte_of_wide hwide)]
      simp [Preceding.regexAllowed, hbyte, hmark]

/-- Behind a `>` that is part of no arrow a brace opens an object literal. -/
theorem opensObject_of_greater {i : Nat} {b : UInt8} (hprev : st.prev = some i)
    (hb : src[i]? = some b) (hangle : asChar b = '>') (hbehind : NotBehind src i '=') :
    opensObject src st = .ok true := by
  have hword : isWordByte b = false := (isWordByte_of_asChar_eq hangle).trans (by decide)
  rw [opensObject, hprev]
  cases i with
  | zero =>
    simp [prevWord_of_not_word hprev hb hword, byteAt, hb, hangle, bind, Except.bind, pure,
      Except.pure]
  | succ j =>
    have hlt : j < src.length := Nat.lt_of_succ_lt (List.getElem?_eq_some_iff.mp hb).1
    have hbefore : src[j]? = some src[j] := List.getElem?_eq_getElem hlt
    have hequals := hbehind j _ rfl hbefore
    simp [prevWord_of_not_word hprev hb hword, byteAt, hb, hbefore, hangle, hequals, bind,
      Except.bind, pure, Except.pure]

theorem Recalls.opensObject_eq (h : Recalls src st p) :
    opensObject src st = .ok p.opensObject := by
  cases h with
  | nothing hprev => rw [opensObject, hprev]; rfl
  | @literal i b hprev hb hopen =>
    simp only [List.mem_cons, List.not_mem_nil, or_false] at hopen
    have hword : isWordByte b = false := by
      rcases hopen with h | h | h | h <;> rw [isWordByte_of_asChar_eq h] <;> decide
    have hmark : asChar b ≠ '>' := by
      rcases hopen with h | h | h | h <;> rw [h] <;> decide
    rw [opensObject_of_not_word hprev hb hword hmark]
    rcases hopen with h | h | h | h <;> rw [h] <;> rfl
  | word hprev hb hbyte hword hletters hflags =>
    rw [opensObject_of_word hprev hb hbyte, hword,
      isOneOf_append lettered_expressionWords hletters hflags]
    rfl
  | @closer i b allowed hprev hb hclose hplace =>
    have hword : isWordByte b = false := by
      rcases hclose with h | h <;> rw [isWordByte_of_asChar_eq h] <;> decide
    have hmark : asChar b ≠ '>' := by
      rcases hclose with h | h <;> rw [h] <;> decide
    rw [opensObject_of_not_word hprev hb hword hmark]
    rcases hclose with h | h <;> rw [h] <;> rfl
  | @arrow i b b' hprev hb hb' hequals hangle =>
    have hword : isWordByte b' = false := (isWordByte_of_asChar_eq hangle).trans (by decide)
    rw [opensObject, hprev]
    simp [prevWord_of_not_word hprev hb' hword, byteAt, hb, hb', hangle, hequals, bind, Except.bind,
      pure, Except.pure, Preceding.opensObject]
  | @mark i b c hprev hb hc hplain hword harrow =>
    rcases hc with rfl | ⟨hc, hwide⟩
    · by_cases hangle : asChar b = '>'
      · rw [opensObject_of_greater hprev hb hangle (harrow hangle), hangle]
        rfl
      · rw [opensObject_of_not_word hprev hb hword hangle]
        simp [Preceding.opensObject, hangle]
    · have hbyte := @not_mem_of_wide (asChar b) ('>' :: operandChars) (by decide) hwide
      have hmark := @not_mem_of_wide c ('>' :: operandChars) (by decide) hc
      rw [List.mem_cons, not_or] at hbyte hmark
      rw [opensObject_of_not_word hprev hb (isWordByte_of_wide hwide) hbyte.1]
      simp [Preceding.opensObject, hbyte, hmark]

theorem Recalls.opensControlHeader_eq (h : Recalls src st p) :
    opensControlHeader src st = .ok p.opensControlHeader := by
  have hnone : prevWord src st = .ok none → opensControlHeader src st = .ok false := fun hword ↦ by
    rw [opensControlHeader, hword]
    rfl
  cases h with
  | nothing hprev => exact hnone (prevWord_of_none hprev)
  | literal hprev hb hopen =>
    refine hnone (prevWord_of_not_word hprev hb ?_)
    simp only [List.mem_cons, List.not_mem_nil, or_false] at hopen
    rcases hopen with h | h | h | h <;> rw [isWordByte_of_asChar_eq h] <;> decide
  | word hprev hb hbyte hword hletters hflags =>
    rw [opensControlHeader, prevWord_of_word hprev hb hbyte, hword]
    exact congrArg Except.ok (isOneOf_append lettered_controlWords hletters hflags)
  | closer hprev hb hclose hplace =>
    refine hnone (prevWord_of_not_word hprev hb ?_)
    rcases hclose with h | h <;> rw [isWordByte_of_asChar_eq h] <;> decide
  | arrow hprev hb hb' hequals hangle =>
    exact hnone (prevWord_of_not_word hprev hb'
      ((isWordByte_of_asChar_eq hangle).trans (by decide)))
  | mark hprev hb hc hplain hword harrow =>
    refine hnone (prevWord_of_not_word hprev hb ?_)
    rcases hc with rfl | ⟨_, hwide⟩
    · exact hword
    · exact isWordByte_of_wide hwide

end BrowserScript.Wrapper.Bytes
