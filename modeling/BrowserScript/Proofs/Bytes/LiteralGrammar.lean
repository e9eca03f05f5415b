import Mathlib
import BrowserScript.Proofs.Bytes.Literal

/-!
Whole strings, regular expressions and block comments as sequences of items, from the opening
delimiter to the end, and the agreement of the skippers on bytes with them. A place on an opening
delimiter is the place of a character of the text (`exists_split_of_byte`). From there a skipper
finds an end exactly if the text goes on with a literal, it finds the end of that literal, and there
is only one that the text goes on with (`skippers_read_literals`).
-/

set_option autoImplicit false
set_option relaxedAutoImplicit false

namespace BrowserScript.Wrapper.Bytes

open Text

/-! ### Items -/

/-- A backslash and the character that it escapes, which may be any. -/
def IsEscape (item : List Char) : Prop := ∃ e, item = ['\\', e]

/-- One character that is none of some others. -/
def IsCharBut (others item : List Char) : Prop := ∃ c ∉ others, item = [c]

/-- Items of a kind, one behind the other. -/
def IsSequence (isItem : List Char → Prop) (text : List Char) : Prop :=
  ∃ items : List (List Char), (∀ item ∈ items, isItem item) ∧ text = items.flatten

def IsStringItem (quote : Char) (item : List Char) : Prop :=
  IsEscape item ∨ IsCharBut [quote, '\\', '\n'] item

/-- Inside of a class only a bracket that closes it has a meaning of its own. -/
def IsClassItem (item : List Char) : Prop :=
  IsEscape item ∨ IsCharBut [']', '\\', '\n'] item

def IsClass (item : List Char) : Prop :=
  ∃ inner, IsSequence IsClassItem inner ∧ item = '[' :: (inner ++ [']'])

def IsRegexItem (item : List Char) : Prop :=
  IsEscape item ∨ IsCharBut ['/', '[', '\\', '\n'] item ∨ IsClass item

/-! ### Literals -/

/-- A string with its quotes. -/
def IsString (quote : Char) (literal : List Char) : Prop :=
  ∃ inner, IsSequence (IsStringItem quote) inner ∧ literal = quote :: (inner ++ [quote])

/-- A regular expression with its slashes and all the letters that stand behind it, in front of some
text. -/
def IsRegexBefore (literal rest : List Char) : Prop :=
  ∃ inner flags, IsSequence IsRegexItem inner ∧ FlagsBefore flags rest ∧
    literal = '/' :: (inner ++ '/' :: flags)

/-- A block comment with its marks. The first mark that may close it does. -/
def IsBlockComment (literal : List Char) : Prop :=
  ∃ inner, ¬['*', '/'] <:+: inner ++ ['*'] ∧ literal = '/' :: '*' :: (inner ++ ['*', '/'])

variable {isItem : List Char → Prop} {item text rest inner : List Char} {quote : Char}

theorem IsSequence.nil : IsSequence isItem [] := ⟨[], by simp, rfl⟩

theorem IsSequence.cons (hitem : isItem item) (h : IsSequence isItem text) :
    IsSequence isItem (item ++ text) := by
  obtain ⟨items, hitems, rfl⟩ := h
  exact ⟨item :: items, List.forall_mem_cons.mpr ⟨hitem, hitems⟩, rfl⟩

/-- What holds of nothing, and of an item in front of what it holds of, holds of a sequence. -/
theorem IsSequence.induct {P : List Char → Prop} (h : IsSequence isItem text) (nil : P [])
    (cons : ∀ item text, isItem item → P text → P (item ++ text)) : P text := by
  obtain ⟨items, hitems, rfl⟩ := h
  induction items with
  | nil => exact nil
  | cons item items ih =>
    obtain ⟨hitem, hitems⟩ := List.forall_mem_cons.mp hitems
    exact cons item items.flatten hitem (ih hitems)

/-! ### Grammars and skippers -/

theorem stringRest_iff :
    StringRest quote text ↔ ∃ inner, IsSequence (IsStringItem quote) inner ∧
      text = inner ++ [quote] := by
  constructor
  · intro h
    induction h with
    | close => exact ⟨[], .nil, rfl⟩
    | escape e _ ih =>
      obtain ⟨inner, hinner, rfl⟩ := ih
      exact ⟨['\\', e] ++ inner, hinner.cons (.inl ⟨e, rfl⟩), rfl⟩
    | @char c _ hescape hbreak hquote _ ih =>
      obtain ⟨inner, hinner, rfl⟩ := ih
      have hplain : c ∉ [quote, '\\', '\n'] := by simp [hescape, hbreak, hquote]
      exact ⟨[c] ++ inner, hinner.cons (.inr ⟨c, hplain, rfl⟩), rfl⟩
  · rintro ⟨inner, hinner, rfl⟩
    refine hinner.induct (P := fun inner ↦ StringRest quote (inner ++ [quote])) .close
      fun item text hitem htext ↦ ?_
    rcases hitem with ⟨e, rfl⟩ | ⟨c, hplain, rfl⟩
    · exact .escape e htext
    · simp only [List.mem_cons, List.not_mem_nil, or_false, not_or] at hplain
      exact .char hplain.2.1 hplain.2.2 hplain.1 htext

/-- Inside of a class there are the items of the class first, and then the bracket. -/
theorem regexRest_true_of_class {inner : List Char} (h : IsSequence IsClassItem inner)
    (htext : RegexRest false text) : RegexRest true (inner ++ ']' :: text) := by
  refine h.induct (P := fun inner ↦ RegexRest true (inner ++ ']' :: text)) (.closeClass htext)
    fun item more hitem hmore ↦ ?_
  rcases hitem with ⟨e, rfl⟩ | ⟨c, hplain, rfl⟩
  · exact .escape e hmore
  · simp only [List.mem_cons, List.not_mem_nil, or_false, not_or] at hplain
    by_cases hslash : c = '/'
    · subst hslash
      exact .slash hmore
    · by_cases hopen : c = '['
      · subst hopen
        exact .openClass hmore
      · exact .char (by simp [hplain, hslash, hopen]) hmore

/-- What is left of a regular expression, outside of classes or inside of one. -/
theorem exists_items_of_regexRest {inClass : Bool} (h : RegexRest inClass text) :
    ∃ inner, IsSequence IsRegexItem inner ∧
      if inClass then ∃ front, IsSequence IsClassItem front ∧
        text = front ++ ']' :: (inner ++ ['/'])
      else text = inner ++ ['/'] := by
  induction h with
  | close => exact ⟨[], .nil, rfl⟩
  | @escape inClass e text _ ih =>
    obtain ⟨inner, hinner, hrest⟩ := ih
    cases inClass with
    | false => exact ⟨['\\', e] ++ inner, hinner.cons (.inl ⟨e, rfl⟩), by rw [hrest]; rfl⟩
    | true =>
      obtain ⟨front, hfront, htext⟩ := hrest
      exact ⟨inner, hinner, ['\\', e] ++ front, hfront.cons (.inl ⟨e, rfl⟩), by rw [htext]; rfl⟩
  | @openClass inClass text _ ih =>
    obtain ⟨inner, hinner, front, hfront, htext⟩ := ih
    cases inClass with
    | false =>
      refine ⟨('[' :: (front ++ [']'])) ++ inner,
        hinner.cons (.inr (.inr ⟨front, hfront, rfl⟩)), ?_⟩
      simp [htext]
    | true =>
      have hplain : '[' ∉ [']', '\\', '\n'] := by decide
      exact ⟨inner, hinner, ['['] ++ front, hfront.cons (.inr ⟨'[', hplain, rfl⟩),
        by rw [htext]; rfl⟩
  | @closeClass inClass text _ ih =>
    obtain ⟨inner, hinner, hrest⟩ := ih
    cases inClass with
    | false =>
      have hplain : ']' ∉ ['/', '[', '\\', '\n'] := by decide
      exact ⟨[']'] ++ inner, hinner.cons (.inr (.inl ⟨']', hplain, rfl⟩)), by rw [hrest]; rfl⟩
    | true => exact ⟨inner, hinner, [], .nil, by rw [hrest]; rfl⟩
  | slash _ ih =>
    obtain ⟨inner, hinner, front, hfront, htext⟩ := ih
    have hplain : '/' ∉ [']', '\\', '\n'] := by decide
    exact ⟨inner, hinner, ['/'] ++ front, hfront.cons (.inr ⟨'/', hplain, rfl⟩), by rw [htext]; rfl⟩
  | @char inClass c text hc _ ih =>
    obtain ⟨inner, hinner, hrest⟩ := ih
    simp only [List.mem_cons, List.not_mem_nil, or_false, not_or] at hc
    cases inClass with
    | false =>
      have hplain : c ∉ ['/', '[', '\\', '\n'] := by simp [hc]
      exact ⟨[c] ++ inner, hinner.cons (.inr (.inl ⟨c, hplain, rfl⟩)), by rw [hrest]; rfl⟩
    | true =>
      obtain ⟨front, hfront, htext⟩ := hrest
      have hplain : c ∉ [']', '\\', '\n'] := by simp [hc]
      exact ⟨inner, hinner, [c] ++ front, hfront.cons (.inr ⟨c, hplain, rfl⟩), by rw [htext]; rfl⟩

theorem regexRest_iff :
    RegexRest false text ↔ ∃ inner, IsSequence IsRegexItem inner ∧ text = inner ++ ['/'] := by
  constructor
  · exact exists_items_of_regexRest
  · rintro ⟨inner, hinner, rfl⟩
    refine hinner.induct (P := fun inner ↦ RegexRest false (inner ++ ['/'])) .close
      fun item text hitem htext ↦ ?_
    rcases hitem with ⟨e, rfl⟩ | ⟨c, hplain, rfl⟩ | ⟨front, hfront, rfl⟩
    · exact .escape e htext
    · simp only [List.mem_cons, List.not_mem_nil, or_false, not_or] at hplain
      by_cases hclose : c = ']'
      · subst hclose
        exact .closeClass htext
      · exact .char (by simp [hplain, hclose]) htext
    · have hclass := regexRest_true_of_class hfront htext
      simpa using RegexRest.openClass hclass

theorem blockCommentRest_iff :
    BlockCommentRest text ↔
      ∃ inner, ¬['*', '/'] <:+: inner ++ ['*'] ∧ text = inner ++ ['*', '/'] := by
  constructor
  · intro h
    induction h with
    | close => exact ⟨[], fun hin ↦ absurd hin.length_le (by decide), rfl⟩
    | @char c _ hopen _ ih =>
      obtain ⟨inner, hfirst, rfl⟩ := ih
      refine ⟨c :: inner, fun hin ↦ ?_, rfl⟩
      rcases List.infix_cons_iff.mp hin with hprefix | hlater
      · obtain ⟨rfl, hslash⟩ := List.cons_prefix_cons.mp hprefix
        refine hopen ⟨rfl, ?_⟩
        cases inner with
        | nil => exact absurd hslash (by decide)
        | cons d inner => rw [← (List.cons_prefix_cons.mp hslash).1]; rfl
      · exact hfirst hlater
  · rintro ⟨inner, hfirst, rfl⟩
    induction inner with
    | nil => exact .close
    | cons c inner ih =>
      rw [List.cons_append, List.infix_cons_iff, not_or] at hfirst
      refine .char (fun hopen ↦ hfirst.1 ?_) (ih hfirst.2)
      obtain ⟨rfl, hslash⟩ := hopen
      cases inner with
      | nil => cases hslash
      | cons d inner =>
        obtain rfl : d = '/' := by simpa using hslash
        exact ⟨inner ++ ['*'], rfl⟩

/-! ### Places of delimiters -/

/-- A byte that is a character of ASCII is one of the characters of the text. -/
theorem exists_split_of_byte {d : Char} (hd : d.toNat < 128) {start : Nat}
    (h : (encode text)[start]? = some d.toUInt8) :
    ∃ before rest, text = before ++ d :: rest ∧ byteSize before = start := by
  induction text generalizing start with
  | nil => cases h
  | cons c text ih =>
    rw [encode_cons] at h
    rcases Nat.lt_or_ge start c.utf8Size with hinside | hbehind
    · rw [← String.length_utf8EncodeChar] at hinside
      rw [List.getElem?_append_left hinside] at h
      have hbyte := List.mem_of_getElem? h
      rcases Nat.lt_or_ge c.toNat 128 with hc | hc
      · rw [utf8EncodeChar_of_ascii hc] at hinside hbyte
        have hcd : d = c := by
          rw [← asChar_toUInt8 hd, List.mem_singleton.mp hbyte, asChar_toUInt8 hc]
        have hstart : start = 0 := by simpa using hinside
        exact ⟨[], text, by rw [hcd]; rfl, hstart.symm⟩
      · have hwide := le_asChar_of_mem hc hbyte
        rw [asChar_toUInt8 hd] at hwide
        omega
    · rw [List.getElem?_append_right (by simpa using hbehind), String.length_utf8EncodeChar] at h
      obtain ⟨before, rest, rfl, hsize⟩ := ih h
      refine ⟨c :: before, rest, rfl, ?_⟩
      rw [byteSize_cons, hsize]
      omega

/-- From the place of a byte that is a character of ASCII on, the text goes on with it. -/
theorem exists_stands_of_byte {d : Char} (hd : d.toNat < 128) {start : Nat}
    (h : (encode text)[start]? = some d.toUInt8) :
    ∃ rest, dropBytes start text = d :: rest ∧ Stands (encode text) start (d :: rest) := by
  obtain ⟨before, rest, rfl, rfl⟩ := exists_split_of_byte hd h
  have hstands := (Stands.whole (before ++ d :: rest)).append
  rw [Nat.zero_add] at hstands
  exact ⟨rest, dropBytes_byteSize_append before _, hstands⟩

/-! ### Skipping one literal -/

/-- The text goes on with a literal of a form, in front of some rest. -/
def StartsWith (form : List Char → List Char → Prop) (text literal : List Char) : Prop :=
  ∃ rest, form literal rest ∧ text = literal ++ rest

/-- From the byte `start` on, where a text stands, one literal of a form is skipped: the place
behind it is found if the text goes on with one, there is only one that it goes on with, and
otherwise it is reported that there is none. -/
structure SkipsOne (form : List Char → List Char → Prop) (kind : LiteralKind) (start : Nat)
    (text : List Char) (result : Except Stop Nat) : Prop where
  ok_iff : ∀ p, result = .ok p ↔
    ∃ literal, StartsWith form text literal ∧ p = start + byteSize literal
  unique : ∀ first second, StartsWith form text first → StartsWith form text second →
    first = second
  error_iff : result = .error (.unterminated kind start) ↔ ¬∃ literal, StartsWith form text literal

/-- Assumes: a search for the place behind a literal, which finds it if the text goes on with one.
The search skips one literal. -/
theorem skipsOne_of_found {form : List Char → List Char → Prop} {kind : LiteralKind} {start : Nat}
    {found : Option Place} (h : ∀ p, found = some p ↔
      ∃ literal, form literal p.rest ∧ text = literal ++ p.rest ∧
        p.offset = start + byteSize literal) :
    SkipsOne form kind start text (endOr kind start found) := by
  have hfound : ∀ literal rest, form literal rest → text = literal ++ rest →
      found = some ⟨start + byteSize literal, rest⟩ := fun literal rest hform htext ↦
    (h _).mpr ⟨literal, hform, htext, rfl⟩
  refine ⟨fun p ↦ ⟨fun hok ↦ ?_, ?_⟩, ?_, ⟨fun herror ↦ ?_, fun hnone ↦ ?_⟩⟩
  · cases found with
    | none => cases hok
    | some q =>
      obtain ⟨literal, hform, htext, hoffset⟩ := (h q).mp rfl
      cases hok
      exact ⟨literal, ⟨q.rest, hform, htext⟩, hoffset⟩
  · rintro ⟨literal, ⟨rest, hform, htext⟩, rfl⟩
    rw [hfound literal rest hform htext]
    rfl
  · rintro first second ⟨rest, hform, htext⟩ ⟨rest', hform', htext'⟩
    have hsame := (hfound first rest hform htext).symm.trans (hfound second rest' hform' htext')
    simp only [Option.some.injEq, Place.mk.injEq] at hsame
    rw [htext, hsame.2] at htext'
    exact List.append_cancel_right htext'
  · rintro ⟨literal, rest, hform, htext⟩
    rw [hfound literal rest hform htext] at herror
    cases herror
  · cases found with
    | none => rfl
    | some q =>
      obtain ⟨literal, hform, htext, _⟩ := (h q).mp rfl
      exact (hnone ⟨literal, q.rest, hform, htext⟩).elim

variable {src : List UInt8} {start : Nat}

theorem skipsOne_string (hquote : quote = '\'' ∨ quote = '"')
    (h : Stands src start (quote :: rest)) :
    SkipsOne (fun literal _ ↦ IsString quote literal) .stringLiteral start (quote :: rest)
      (skipString src quote start (start + 1)) := by
  have hform : quote.toNat < 128 ∧ quote ≠ '\\' ∧ quote ≠ '\n' ∧ quote.utf8Size = 1 := by
    rcases hquote with rfl | rfl <;> decide
  rw [skipString_eq hform.1 (h.tail_ascii hform.1)]
  refine skipsOne_of_found fun p ↦ ?_
  rw [skipString_eq_some_iff hform.2.1 hform.2.2.1 hform.2.2.2]
  constructor
  · rintro ⟨text, htext, rfl, hoffset⟩
    obtain ⟨inner, hinner, rfl⟩ := stringRest_iff.mp htext
    refine ⟨_, ⟨inner, hinner, rfl⟩, rfl, ?_⟩
    rw [hoffset, byteSize_cons, hform.2.2.2, Nat.add_assoc]
  · rintro ⟨_, ⟨inner, hinner, rfl⟩, htext, hoffset⟩
    refine ⟨_, stringRest_iff.mpr ⟨inner, hinner, rfl⟩, (List.cons.inj htext).2, ?_⟩
    rw [hoffset, byteSize_cons, hform.2.2.2, Nat.add_assoc]

theorem skipsOne_regex (h : Stands src start ('/' :: rest)) :
    SkipsOne IsRegexBefore .regex start ('/' :: rest)
      (skipRegex src start false (start + 1)) := by
  rw [skipRegex_eq (h.tail_ascii (by decide))]
  refine skipsOne_of_found fun p ↦ ?_
  rw [skipRegex_eq_some_iff]
  have hsize : '/'.utf8Size = 1 := by decide
  constructor
  · rintro ⟨text, flags, htext, hflags, rfl, hoffset⟩
    obtain ⟨inner, hinner, rfl⟩ := regexRest_iff.mp htext
    refine ⟨_, ⟨inner, flags, hinner, hflags, rfl⟩, by simp, ?_⟩
    simp only [hoffset, byteSize_cons, byteSize_append, byteSize_nil, hsize]
    omega
  · rintro ⟨_, ⟨inner, flags, hinner, hflags, rfl⟩, htext, hoffset⟩
    refine ⟨_, flags, regexRest_iff.mpr ⟨inner, hinner, rfl⟩, hflags,
      by simpa using (List.cons.inj htext).2, ?_⟩
    simp only [hoffset, byteSize_cons, byteSize_append, byteSize_nil, hsize]
    omega

theorem skipsOne_blockComment (h : Stands src start ('/' :: '*' :: rest))
    (hpos : start + 2 ≤ src.length) :
    SkipsOne (fun literal _ ↦ IsBlockComment literal) .blockComment start ('/' :: '*' :: rest)
      (skipBlockComment src start) := by
  rw [skipBlockComment_eq ((h.tail_ascii (by decide)).tail_ascii (by decide)) hpos]
  refine skipsOne_of_found fun p ↦ ?_
  rw [skipBlockComment_eq_some_iff]
  have hsize : '/'.utf8Size = 1 ∧ '*'.utf8Size = 1 := by decide
  constructor
  · rintro ⟨text, htext, rfl, hoffset⟩
    obtain ⟨inner, hfirst, rfl⟩ := blockCommentRest_iff.mp htext
    refine ⟨_, ⟨inner, hfirst, rfl⟩, rfl, ?_⟩
    simp only [hoffset, byteSize_cons, hsize]
    omega
  · rintro ⟨_, ⟨inner, hfirst, rfl⟩, htext, hoffset⟩
    refine ⟨_, blockCommentRest_iff.mpr ⟨inner, hfirst, rfl⟩,
      (List.cons.inj (List.cons.inj htext).2).2, ?_⟩
    simp only [hoffset, byteSize_cons, hsize]
    omega

/-- From the place of an opening delimiter in the bytes of any text, each skipper skips one literal:
the string, the regular expression with its flags, or the block comment that the text goes on with
there. It reports that there is none exactly if there is none, also where the text ends behind a
backslash or inside of a class. -/
theorem skippers_read_literals (text : List Char) (start : Nat) :
    (∀ quote, quote = '\'' ∨ quote = '"' → (encode text)[start]? = some quote.toUInt8 →
      SkipsOne (fun literal _ ↦ IsString quote literal) .stringLiteral start (dropBytes start text)
        (skipString (encode text) quote start (start + 1))) ∧
    ((encode text)[start]? = some '/'.toUInt8 →
      SkipsOne IsRegexBefore .regex start (dropBytes start text)
        (skipRegex (encode text) start false (start + 1))) ∧
    ((encode text)[start]? = some '/'.toUInt8 → (encode text)[start + 1]? = some '*'.toUInt8 →
      SkipsOne (fun literal _ ↦ IsBlockComment literal) .blockComment start (dropBytes start text)
        (skipBlockComment (encode text) start)) := by
  refine ⟨fun quote hquote hbyte ↦ ?_, fun hbyte ↦ ?_, fun hbyte hnext ↦ ?_⟩
  · have hascii : quote.toNat < 128 := by rcases hquote with rfl | rfl <;> decide
    obtain ⟨rest, hdrop, hstands⟩ := exists_stands_of_byte hascii hbyte
    rw [hdrop]
    exact skipsOne_string hquote hstands
  · obtain ⟨rest, hdrop, hstands⟩ := exists_stands_of_byte (by decide) hbyte
    rw [hdrop]
    exact skipsOne_regex hstands
  · obtain ⟨rest, hdrop, hstands⟩ := exists_stands_of_byte (by decide) hbyte
    have hstar : (encode text)[start + 1]?.any (asChar · = '*') := by
      rw [hnext]
      rfl
    obtain ⟨rest, rfl⟩ := List.head?_eq_some_iff.mp
      (((hstands.tail_ascii (by decide)).any_head? (by decide)).mp hstar)
    rw [hdrop]
    exact skipsOne_blockComment hstands (List.getElem?_eq_some_iff.mp hnext).1

/-- A regular expression behind a character of two bytes, with a slash in a class, one that is
escaped, and a flag. -/
theorem skippers_read_literals_regex :
    (encode "é/[/]\\/ü/g;".toList)[2]? = some '/'.toUInt8 ∧
      skipRegex (encode "é/[/]\\/ü/g;".toList) 2 false 3 = .ok 12 := by
  have hbyte : (encode "é/[/]\\/ü/g;".toList)[2]? = some '/'.toUInt8 := by decide +kernel
  refine ⟨hbyte, (((skippers_read_literals _ 2).2.1 hbyte).ok_iff 12).mpr
    ⟨"/[/]\\/ü/g".toList, ⟨[';'], ⟨"[/]\\/ü".toList, ['g'], ?_, ?_, rfl⟩, by decide +kernel⟩,
      by decide +kernel⟩⟩
  · have hclass : IsClass ['[', '/', ']'] :=
      ⟨['/'], ⟨[['/']], by simp [IsClassItem, IsCharBut], rfl⟩, rfl⟩
    exact ⟨[['[', '/', ']'], ['\\', '/'], ['ü']],
      by simp [IsRegexItem, IsEscape, IsCharBut, hclass], rfl⟩
  · refine ⟨by simp, ?_⟩
    rintro c ⟨⟩
    decide

end BrowserScript.Wrapper.Bytes
