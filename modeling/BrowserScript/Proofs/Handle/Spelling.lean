import Mathlib
import BrowserScript.Proofs.Bytes.Token
import BrowserScript.Proofs.Wrapper.StandaloneBody
import BrowserScript.Script.Token.Lexeme

/-!
A plain identifier as a token. Its characters are ones that names of scripts may have, and none of
them is a backslash, so it is read whole and without an escape up to the first character that is no
part of a name. Whether a word of this spelling is reserved is not asked here: only words that are
spelled with escapes are refused as tokens.
-/

set_option autoImplicit false
set_option relaxedAutoImplicit false

namespace BrowserScript.Script

open Text

variable {c : Char} {cs rest : List Char}

/-! ### Characters -/

/-- No blank, comment or line that is skipped starts with this character. -/
def StartsToken (lineBreak : Bool) (c : Char) : Prop :=
  isLineBreak c = false ∧ isBlank c = false ∧ c ∉ ['/', '<', '-'] ∧
    (lineBreak → c ∉ ['>', '=', '#'])

instance (lineBreak : Bool) (c : Char) : Decidable (StartsToken lineBreak c) :=
  inferInstanceAs (Decidable (_ ∧ _))

/-- A character that a word may start with. -/
theorem isNameStart_of_isWordStart (h : isWordStart c) :
    isNameStart c ∧ c ≠ '\x00' ∧ StartsToken true c := by
  have hall : ∀ n < 128, isWordStart (Char.ofNat n) →
      isNameStart (Char.ofNat n) ∧ Char.ofNat n ≠ '\x00' ∧ StartsToken true (Char.ofNat n) := by
    decide +kernel
  have hword : isWordChar c := by rw [isWordChar, h, Bool.true_or]
  have hc := hall c.toNat (Wrapper.Bytes.ascii_of_isWordChar hword)
  rw [Char.ofNat_toNat] at hc
  exact hc h

theorem isNameFollow_of_isWordChar (h : isWordChar c) : isNameFollow c := by
  have hall : ∀ n < 128, isWordChar (Char.ofNat n) → isNameFollow (Char.ofNat n) := by
    decide +kernel
  have hc := hall c.toNat (Wrapper.Bytes.ascii_of_isWordChar h)
  rw [Char.ofNat_toNat] at hc
  exact hc h

/-! ### Blanks -/

/-- A mark of a conflict starts with one of three characters. -/
theorem head_of_isConflictMark (h : isConflictMark (c :: rest)) : c ∈ ['<', '>', '='] := by
  obtain ⟨mark, hmem, hfront⟩ := List.any_eq_true.mp h
  obtain ⟨after, hafter⟩ := List.isPrefixOf_iff_prefix.mp hfront
  simp only [conflictMarks, List.mem_cons, List.not_mem_nil, or_false] at hmem
  rcases hmem with rfl | rfl | rfl
  · obtain rfl : '<' = c := (List.cons.inj hafter).1
    decide
  · obtain rfl : '>' = c := (List.cons.inj hafter).1
    decide
  · obtain rfl : '=' = c := (List.cons.inj hafter).1
    decide

theorem skipBlank_of_startsToken {lineBreak : Bool} (h : StartsToken lineBreak c)
    (tokenStart : Option Nat) (faults : List Placed) (pos : Nat) (rest : List Char) :
    skipBlank .between lineBreak tokenStart faults pos (c :: rest) =
      { after := ⟨pos, c :: rest⟩, lineBreak, tokenStart, faults } := by
  obtain ⟨hbreak, hblank, hcomment, hmark⟩ := h
  simp only [List.mem_cons, List.not_mem_nil, or_false, not_or] at hcomment hmark
  have hconflict : ¬(lineBreak ∧ isConflictMark (c :: rest)) := by
    rintro ⟨hline, hconflict⟩
    have hhead := head_of_isConflictMark hconflict
    simp [hcomment, hmark hline] at hhead
  rw [skipBlank, hbreak, hblank, if_neg (by decide), if_neg (by decide),
    if_neg (by simp [hcomment]), if_neg (by simp [hcomment]), if_neg (by simp [hcomment]),
    if_neg (by simp [hcomment]), if_neg hconflict]

/-! ### Tokens -/

/-- A token that stands directly in front of what is left, without a fault. -/
def Token.placed (token : Token) (here after : Remaining) (lineBreak : Bool) : Lexeme :=
  { token, after, start := here.pos, here, lineBreak }

theorem nextLexeme_of_readToken {around : Surroundings} {isFirst : Bool} {pos : Nat}
    {token : Token} {after : Remaining} (h : StartsToken isFirst c)
    (hstep : readToken around isFirst ⟨pos, c :: rest⟩ = ⟨token, after, []⟩) :
    nextLexeme around isFirst ⟨pos, c :: rest⟩ =
      token.placed ⟨pos, c :: rest⟩ after isFirst := by
  have hskipped : (if isFirst then skipInterpreterLine (c :: rest) else 0) = 0 := by
    split
    · next hfirst =>
      have hhash : c ≠ '#' := fun heq ↦ h.2.2.2 hfirst (by simp [heq])
      exact if_neg (by simp [hhash])
    · rfl
  simp only [nextLexeme, hskipped, Nat.add_zero, List.drop_zero, skipBlank_of_startsToken h, hstep]
  rfl

/-- A space in front of a token is skipped. -/
theorem nextLexeme_space (around : Surroundings) (pos : Nat) (rest : List Char) :
    nextLexeme around false ⟨pos, ' ' :: rest⟩ = nextLexeme around false ⟨pos + 1, rest⟩ := by
  have hspace : skipBlank .between false none [] pos (' ' :: rest) =
      skipBlank .between false none [] (pos + 1) rest := by
    rw [skipBlank, if_neg (by decide), if_pos (by decide)]
  simp [nextLexeme, hspace]

theorem nextLexeme_semicolon (around : Surroundings) (pos : Nat) (rest : List Char) :
    nextLexeme around false ⟨pos, ';' :: rest⟩ =
      Token.placed (.mark ";") ⟨pos, ';' :: rest⟩ ⟨pos + 1, rest⟩ false :=
  nextLexeme_of_readToken (by decide +kernel) rfl

theorem nextLexeme_equals (around : Surroundings) (pos : Nat) (rest : List Char) :
    nextLexeme around false ⟨pos, '=' :: ' ' :: rest⟩ =
      Token.placed (.mark "=") ⟨pos, '=' :: ' ' :: rest⟩ ⟨pos + 1, ' ' :: rest⟩ false :=
  nextLexeme_of_readToken (by decide +kernel) rfl

/-! ### Words -/

/-- Characters of a name are read up to one that is none and no backslash either. -/
theorem readNameFrom_append {name : List Char} (hname : ∀ d ∈ name, isNameFollow d)
    (hstop : isNameFollow c = false) (hback : c ≠ '\\') (token : NameToken) (pos : Nat)
    (rest : List Char) :
    readNameFrom token pos (name ++ c :: rest) =
      { token with
        name := name.reverse ++ token.name
        after := ⟨pos + name.length, c :: rest⟩ } := by
  induction name generalizing token pos with
  | nil =>
    rw [List.nil_append, readNameFrom, if_neg (by simp [hstop]), if_pos hback]
    rfl
  | cons d name ih =>
    obtain ⟨hd, hrest⟩ := List.forall_mem_cons.mp hname
    rw [List.cons_append, readNameFrom, if_pos hd, ih hrest]
    simp [Nat.add_assoc, Nat.add_comm 1]

/-- A plain identifier is read as the word that it spells. -/
theorem nextLexeme_word {name : String} (hname : isIdentifier name) (hstop : isNameFollow c = false)
    (hback : c ≠ '\\') (around : Surroundings) (isFirst : Bool) (pos : Nat) (rest : List Char) :
    nextLexeme around isFirst ⟨pos, name.toList ++ c :: rest⟩ =
      Token.placed (.word name) ⟨pos, name.toList ++ c :: rest⟩ ⟨pos + name.length, c :: rest⟩
        isFirst := by
  have hfollow : ∀ d ∈ name.toList, isNameFollow d := fun d hd ↦
    isNameFollow_of_isWordChar (Wrapper.isWordChar_of_isIdentifier hname d hd)
  have hread : readName ⟨pos, name.toList ++ c :: rest⟩ =
      { name := name.toList, after := ⟨pos + name.length, c :: rest⟩ } := by
    rw [readName, readNameFrom_append hfollow hstop hback, String.length_toList]
    simp
  have hword : readWordToken around ⟨pos, name.toList ++ c :: rest⟩ =
      ⟨.word name, ⟨pos + name.length, c :: rest⟩, []⟩ := by
    rw [readWordToken, hread]
    simp
  rw [isIdentifier] at hname
  cases hchars : name.toList with
  | nil =>
    rw [hchars] at hname
    cases hname
  | cons d more =>
    rw [hchars] at hname hword
    obtain ⟨hstart, hnull, htoken⟩ :=
      isNameStart_of_isWordStart (Bool.and_eq_true_iff.mp hname).1
    refine nextLexeme_of_readToken ⟨htoken.1, htoken.2.1, htoken.2.2.1, fun _ ↦ htoken.2.2.2 rfl⟩ ?_
    rw [readToken]
    simp only [if_neg hnull, if_pos (Or.inl hstart)]
    exact hword

end BrowserScript.Script
