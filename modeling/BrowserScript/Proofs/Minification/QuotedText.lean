import Mathlib.Tactic.SplitIfs
import BrowserScript.Script.Printer.Quoted
import BrowserScript.Script.Token.Lexeme

/-!
Texts in quotes are read as they were. What is written for a character is the character itself or an
escape for it (`written_quotedChar`), so reading it gives the character, and reading the whole text
gives the text (`readToken_quotedText`). There is one exception: a backslash in front of what looks
like the escape for half a character is written as it is, and is read as a part of that escape.
-/

set_option autoImplicit false
set_option relaxedAutoImplicit false

namespace BrowserScript.Script

/-- Does the text hold the escape for half a character, or what looks like one? -/
def holdsHalfEscape : List Char → Bool
  | [] => false
  | c :: rest => (c = '\\' && startsHalfEscape rest) || holdsHalfEscape rest

/-! ### Escapes -/

/-- An escape that stands for a character, behind its backslash, whatever follows. -/
def Escapes (escape : List Char) (c : Char) : Prop :=
  ∀ tail, readEscape (escape ++ tail) = { chars := .ok [c], length := escape.length }

theorem digitBelow?_lt {radix d : Nat} {c : Char} (h : digitBelow? radix c = some d) :
    d < radix := by
  obtain ⟨-, hlt⟩ := Option.filter_eq_some_iff.mp h
  exact of_decide_eq_true hlt

theorem le_foldl_digits (digits : List Nat) (value : Nat) :
    value ≤ digits.foldl (fun n d ↦ n * 16 + d) value := by
  induction digits generalizing value with
  | nil => exact Nat.le_refl value
  | cons d digits ih =>
    have hgrown := ih (value * 16 + d)
    rw [List.foldl_cons]
    omega

/-- As many digits as are asked for are read, if their value is below the limit. -/
theorem readEscapeDigits_append {cs : List Char} {digits : List Nat} {value : Nat}
    (tail : List Char) (hdigits : cs.map (digitBelow? 16) = digits.map some)
    (hvalue : digits.foldl (fun n d ↦ n * 16 + d) value < escapeLimit) :
    readEscapeDigits cs.length value (cs ++ tail) = { digits, length := cs.length } := by
  induction cs generalizing digits value with
  | nil =>
    obtain rfl : digits = [] := List.map_eq_nil_iff.mp hdigits.symm
    simp only [List.length_nil, readEscapeDigits]
  | cons c cs ih =>
    obtain ⟨d, digits, rfl, hd, hrest⟩ := List.map_eq_cons_iff.mp hdigits.symm
    have hmark : c ≠ '_' := by
      rintro rfl
      exact Option.some_ne_none d (hd.trans (by decide))
    have hlimit : value * 16 + d < escapeLimit :=
      Nat.lt_of_le_of_lt (le_foldl_digits digits (value * 16 + d)) hvalue
    rw [List.length_cons, List.cons_append, readEscapeDigits, if_neg hmark, ← hd]
    simp only [if_pos hlimit, ih hrest.symm hvalue]

theorem escapes_twoDigits {high low : Char} {first second : Nat}
    (hhigh : digitBelow? 16 high = some first) (hlow : digitBelow? 16 low = some second) :
    Escapes ['x', high, low] (Char.ofNat (first * 16 + second)) := by
  intro tail
  have hfirst := digitBelow?_lt hhigh
  have hsecond := digitBelow?_lt hlow
  have hbound : (0 * 16 + first) * 16 + second < escapeLimit := by
    show _ < 0x100000000
    omega
  have hread : readEscapeDigits 2 0 (high :: low :: tail) =
      { digits := [first, second], length := 2 } :=
    @readEscapeDigits_append [high, low] [first, second] 0 tail
      (by simp only [List.map_cons, hhigh, hlow, List.map_nil]) hbound
  show readTwoDigitEscape (high :: low :: tail) = _
  rw [readTwoDigitEscape, hread]
  show Escape.mk (.ok [Char.ofNat ((0 * 16 + first) * 16 + second)]) 3 false none = _
  rw [Nat.zero_mul, Nat.zero_add]
  rfl

theorem readFourDigitEscape_append {cs : List Char} {digits : List Nat} (tail : List Char)
    (hdigits : cs.map (digitBelow? 16) = digits.map some) (hlength : cs.length = 4)
    (hbound : hexNumber digits < escapeLimit) (hwhole : isSurrogate (hexNumber digits) = false) :
    readFourDigitEscape (cs ++ tail) =
      { chars := .ok [Char.ofNat (hexNumber digits)], length := 5 } := by
  have hcount := congrArg List.length hdigits
  rw [List.length_map, List.length_map, hlength] at hcount
  have hread := readEscapeDigits_append tail hdigits hbound
  rw [hlength] at hread
  rw [readFourDigitEscape, hread]
  simp only [← hcount, hwhole, Nat.lt_irrefl, Bool.false_eq_true, if_false]

theorem escapes_lineSeparator : Escapes ['u', '2', '0', '2', '8'] '\u2028' := fun tail ↦
  @readFourDigitEscape_append ['2', '0', '2', '8'] [2, 0, 2, 8] tail (by decide) (by decide)
    (by decide) (by decide)

theorem escapes_paragraphSeparator : Escapes ['u', '2', '0', '2', '9'] '\u2029' := fun tail ↦
  @readFourDigitEscape_append ['2', '0', '2', '9'] [2, 0, 2, 9] tail (by decide) (by decide)
    (by decide) (by decide)

theorem escapes_byteOrderMark : Escapes ['u', 'F', 'E', 'F', 'F'] '\uFEFF' := fun tail ↦
  @readFourDigitEscape_append ['F', 'E', 'F', 'F'] [15, 14, 15, 15] tail (by decide) (by decide)
    (by decide) (by decide)

/-- The characters that stand for a character of their own behind a backslash. -/
theorem escapes_one {c value : Char}
    (h : (c, value) ∈ [('b', '\x08'), ('f', '\x0C'), ('n', '\n'), ('r', '\r'), ('v', '\x0B'),
      ('\\', '\\'), ('"', '"'), ('\'', '\'')]) :
    Escapes [c] value := by
  intro tail
  simp only [List.mem_cons, Prod.mk.injEq, List.not_mem_nil, or_false] at h
  rcases h with ⟨rfl, rfl⟩ | ⟨rfl, rfl⟩ | ⟨rfl, rfl⟩ | ⟨rfl, rfl⟩ | ⟨rfl, rfl⟩ | ⟨rfl, rfl⟩ |
    ⟨rfl, rfl⟩ | ⟨rfl, rfl⟩
  all_goals rfl

/-- Does the text open with a digit of an octal number? -/
def opensOctal (cs : List Char) : Bool := cs.head?.any fun d ↦ (digitBelow? 8 d).isSome

theorem digitBelow?_eq_none {c : Char} (h : c.isDigit = false) : digitBelow? 8 c = none := by
  have hdigit : ¬('0' ≤ c ∧ c ≤ '9') := by
    rintro ⟨hlow, hhigh⟩
    have hdigit : c.isDigit = true := by
      rw [Char.isDigit, Bool.and_eq_true]
      exact ⟨decide_eq_true hlow, decide_eq_true hhigh⟩
    exact Bool.false_ne_true (h.symm.trans hdigit)
  rw [digitBelow?, digitValue?, if_neg hdigit]
  split_ifs
  · exact Option.filter_eq_none_iff.mpr fun d hd ↦ by
      obtain rfl := Option.some.inj hd
      simp only [decide_eq_true_eq]
      omega
  · exact Option.filter_eq_none_iff.mpr fun d hd ↦ by
      obtain rfl := Option.some.inj hd
      simp only [decide_eq_true_eq]
      omega
  · rfl

theorem readEscape_null {tail : List Char} (h : opensOctal tail = false) :
    readEscape ('0' :: tail) = { chars := .ok ['\x00'], length := 1 } := by
  show (if '0' = '0' ∧ !opensOctal tail then readEscape.one '\x00'
    else readOctalEscape ('0' :: tail)) = _
  rw [if_pos ⟨rfl, by rw [h]; rfl⟩]
  rfl

theorem toList_controlEscape :
    ∀ n < 32, (controlEscape (Char.ofNat n)).toList =
      ['\\', 'x', Nat.digitChar (n / 16), Nat.digitChar (n % 16)] := by
  decide

theorem digitBelow?_digitChar : ∀ n < 16, digitBelow? 16 (Nat.digitChar n) = some n := by
  decide

theorem escapes_control {c : Char} (h : c.toNat < 32) :
    ∃ escape, (controlEscape c).toList = '\\' :: escape ∧ Escapes escape c := by
  have htext := toList_controlEscape c.toNat h
  have hvalue := escapes_twoDigits (digitBelow?_digitChar (c.toNat / 16) (by omega))
    (digitBelow?_digitChar (c.toNat % 16) (by omega))
  rw [Char.ofNat_toNat] at htext
  rw [Nat.div_add_mod', Char.ofNat_toNat] at hvalue
  exact ⟨_, htext, hvalue⟩

/-! ### Characters -/

/-- What is written for a character with `next` behind it: the character itself, an escape for it,
or the short escape of a null. -/
inductive Written (quote c : Char) (next : Option Char) : List Char → Prop
  | itself (hquote : c ≠ quote) (hfeed : c ≠ '\n') (hreturn : c ≠ '\r') (hbackslash : c ≠ '\\') :
      Written quote c next [c]
  | escaped {escape : List Char} (h : Escapes escape c) : Written quote c next ('\\' :: escape)
  | null (hchar : c = '\x00') (hnext : next.any Char.isDigit = false) :
      Written quote c next ['\\', '0']

theorem written_nullEscape (quote : Char) (next : Option Char) :
    Written quote '\x00' next (nullEscape next).toList := by
  unfold nullEscape
  split_ifs with hnext
  · exact .escaped (@escapes_twoDigits '0' '0' 0 0 (by decide) (by decide))
  · exact .null rfl (eq_false_of_ne_true hnext)

theorem written_quotedChar {quote c : Char} {rest : List Char}
    (hquote : quote = '"' ∨ quote = '\'') (hhalf : (c = '\\' && startsHalfEscape rest) = false) :
    Written quote c rest.head? (quotedChar quote c rest).toList := by
  rw [quotedChar]
  by_cases hnull : c = '\x00'
  · rw [if_pos hnull]
    subst hnull
    exact written_nullEscape quote rest.head?
  rw [if_neg hnull]
  by_cases hbackspace : c = '\x08'
  · rw [if_pos hbackspace]
    subst hbackspace
    exact .escaped (escapes_one (by decide))
  rw [if_neg hbackspace]
  by_cases hformFeed : c = '\x0C'
  · rw [if_pos hformFeed]
    subst hformFeed
    exact .escaped (escapes_one (by decide))
  rw [if_neg hformFeed]
  by_cases hfeed : c = '\n'
  · rw [if_pos hfeed]
    subst hfeed
    exact .escaped (escapes_one (by decide))
  rw [if_neg hfeed]
  by_cases hreturn : c = '\r'
  · rw [if_pos hreturn]
    subst hreturn
    exact .escaped (escapes_one (by decide))
  rw [if_neg hreturn]
  by_cases hvertical : c = '\x0B'
  · rw [if_pos hvertical]
    subst hvertical
    exact .escaped (escapes_one (by decide))
  rw [if_neg hvertical]
  by_cases htab : c = '\t'
  · rw [if_pos htab]
    subst htab
    exact .itself (by rcases hquote with rfl | rfl <;> decide) (by decide) (by decide) (by decide)
  rw [if_neg htab]
  by_cases hslash : c = '\\'
  · rw [if_pos hslash]
    rw [decide_eq_true hslash, Bool.true_and] at hhalf
    subst hslash
    rw [if_neg (ne_true_of_eq_false hhalf)]
    exact .escaped (escapes_one (by decide))
  rw [if_neg hslash]
  by_cases hmark : c = quote
  · rw [if_pos hmark]
    subst hmark
    rcases hquote with rfl | rfl
    · exact .escaped (escapes_one (by decide))
    · exact .escaped (escapes_one (by decide))
  rw [if_neg hmark]
  by_cases hcontrol : c.toNat < 32
  · rw [if_pos hcontrol]
    obtain ⟨escape, htext, hvalue⟩ := escapes_control hcontrol
    rw [htext]
    exact .escaped hvalue
  rw [if_neg hcontrol]
  by_cases hline : c = '\u2028'
  · rw [if_pos hline]
    subst hline
    exact .escaped escapes_lineSeparator
  rw [if_neg hline]
  by_cases hparagraph : c = '\u2029'
  · rw [if_pos hparagraph]
    subst hparagraph
    exact .escaped escapes_paragraphSeparator
  rw [if_neg hparagraph]
  by_cases horder : c = '\uFEFF'
  · rw [if_pos horder]
    subst horder
    exact .escaped escapes_byteOrderMark
  rw [if_neg horder, String.toList_singleton]
  exact .itself hmark hfeed hreturn hslash

/-! ### Reading -/

theorem readStringFrom_char {strict : Bool} {quote c : Char} {start : Nat} {read tail : List Char}
    {pos : Nat} (hquote : c ≠ quote) (hfeed : c ≠ '\n') (hreturn : c ≠ '\r')
    (hbackslash : c ≠ '\\') :
    readStringFrom strict quote start read [] pos (c :: tail) =
      readStringFrom strict quote start (c :: read) [] (pos + 1) tail := by
  rw [readStringFrom, if_neg hquote,
    if_neg (by simp only [hfeed, hreturn, or_self, not_false_eq_true]), if_neg hbackslash]

theorem readStringFrom_escape {strict : Bool} {quote c : Char} {start : Nat}
    {escape read tail : List Char} {pos : Nat} (hquote : '\\' ≠ quote)
    (h : readEscape (escape ++ tail) = { chars := .ok [c], length := escape.length }) :
    readStringFrom strict quote start read [] pos ('\\' :: escape ++ tail) =
      readStringFrom strict quote start (c :: read) [] (pos + 1 + escape.length) tail := by
  rw [List.cons_append, readStringFrom, if_neg hquote, if_neg (by decide), if_pos rfl]
  simp only [h, Escape.separatorFaults, Option.toList_none, List.map_nil, Bool.false_and,
    Bool.false_eq_true, if_false, List.append_nil, List.drop_left, List.reverse_singleton,
    List.singleton_append]

/-- Reading goes on behind what is written for a character, and the character has been read. -/
theorem Written.read {strict : Bool} {quote c : Char} {next : Option Char} {start pos : Nat}
    {text read tail : List Char} (hquote : '\\' ≠ quote) (h : Written quote c next text)
    (hoctal : next.any Char.isDigit = false → opensOctal tail = false) :
    ∃ after, readStringFrom strict quote start read [] pos (text ++ tail) =
      readStringFrom strict quote start (c :: read) [] after tail := by
  cases h with
  | itself hmark hfeed hreturn hbackslash =>
    exact ⟨_, readStringFrom_char hmark hfeed hreturn hbackslash⟩
  | escaped h => exact ⟨_, readStringFrom_escape hquote (h tail)⟩
  | null hchar hnext =>
    subst hchar
    exact ⟨_, @readStringFrom_escape _ _ _ _ ['0'] _ _ _ hquote (readEscape_null (hoctal hnext))⟩

theorem Written.opensOctal_append {quote c : Char} {next : Option Char} {text : List Char}
    (h : Written quote c next text) (hdigit : c.isDigit = false) (tail : List Char) :
    opensOctal (text ++ tail) = false := by
  cases h with
  | itself =>
    show (digitBelow? 8 c).isSome = false
    rw [digitBelow?_eq_none hdigit]
    rfl
  | escaped => rfl
  | null => rfl

/-- Where no digit is next, none is next in what is written for it. -/
theorem opensOctal_quotedChars {quote : Char} {text : List Char}
    (hquote : quote = '"' ∨ quote = '\'') (hhalf : holdsHalfEscape text = false)
    (hdigit : text.head?.any Char.isDigit = false) (tail : List Char) :
    opensOctal ((quotedChars quote text).toList ++ quote :: tail) = false := by
  cases text with
  | nil => rcases hquote with rfl | rfl <;> rfl
  | cons c rest =>
    obtain ⟨hhere, -⟩ := Bool.or_eq_false_iff.mp hhalf
    rw [quotedChars, String.toList_append, List.append_assoc]
    exact (written_quotedChar hquote hhere).opensOctal_append hdigit _

theorem readStringFrom_quotedChars {strict : Bool} {quote : Char} {text : List Char}
    (hquote : quote = '"' ∨ quote = '\'') (hhalf : holdsHalfEscape text = false)
    (start pos : Nat) (read tail : List Char) :
    ∃ after, readStringFrom strict quote start read [] pos
        ((quotedChars quote text).toList ++ quote :: tail) =
      ⟨read.reverse ++ text, ⟨after, tail⟩, none, []⟩ := by
  induction text generalizing read pos with
  | nil =>
    refine ⟨pos + 1, ?_⟩
    show readStringFrom strict quote start read [] pos (quote :: tail) = _
    rw [readStringFrom, if_pos rfl, List.append_nil]
  | cons c rest ih =>
    obtain ⟨hhere, hrest⟩ := Bool.or_eq_false_iff.mp hhalf
    have hbackslash : '\\' ≠ quote := by rcases hquote with rfl | rfl <;> decide
    obtain ⟨next, hnext⟩ := @Written.read strict _ _ _ start pos _ read _ hbackslash
      (written_quotedChar hquote hhere)
      fun hdigit ↦ opensOctal_quotedChars hquote hrest hdigit tail
    obtain ⟨after, hafter⟩ := ih hrest next (c :: read)
    refine ⟨after, ?_⟩
    rw [quotedChars, String.toList_append, List.append_assoc, hnext, hafter, List.reverse_cons,
      List.append_assoc, List.singleton_append]

theorem quoteFor_eq (text : List Char) : quoteFor text = '"' ∨ quoteFor text = '\'' := by
  unfold quoteFor
  split_ifs
  · exact .inr rfl
  · exact .inl rfl

/-- A text without an escape for half a character is read back from between its quotes. -/
theorem readToken_quotedText {text : String} (hhalf : holdsHalfEscape text.toList = false)
    (around : Surroundings) (lineBreak : Bool) (pos : Nat) (tail : List Char) :
    ∃ raw after, readToken around lineBreak ⟨pos, (quotedText text).toList ++ tail⟩ =
      ⟨.string text raw, ⟨after, tail⟩, []⟩ := by
  have hquote := quoteFor_eq text.toList
  have htext : (quotedText text).toList ++ tail = quoteFor text.toList ::
      ((quotedChars (quoteFor text.toList) text.toList).toList ++
        quoteFor text.toList :: tail) := by
    simp only [quotedText, String.toList_append, String.toList_singleton, List.append_assoc,
      List.cons_append, List.nil_append]
  obtain ⟨after, hread⟩ :=
    @readStringFrom_quotedChars around.strict _ _ hquote hhalf pos (pos + 1) [] tail
  generalize quoteFor text.toList = quote at hquote htext hread
  have htoken : ∀ rest, readToken around lineBreak ⟨pos, quote :: rest⟩ =
      readStringToken around.strict ⟨pos, quote :: rest⟩ quote rest := by
    intro rest
    rcases hquote with rfl | rfl
    · rfl
    · rfl
  simp only [htext, htoken, readStringToken, readString, hread, List.reverse_nil, List.nil_append,
    String.ofList_toList]
  exact ⟨_, after, rfl⟩

/-- The backslash of the text would have to be written twice. -/
example : quotedText "\\ud800" = "\"\\ud800\"" := by decide +kernel

end BrowserScript.Script
