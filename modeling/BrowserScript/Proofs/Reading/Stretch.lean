import BrowserScript.Proofs.Reading.Item
import BrowserScript.Script.Token.Blank

/-!
Stretches of a script: what may be read as items from one text on, up to another. Blanks and
comments are such a stretch, as long as they hold no fault (`stretch_skipBlank`), and what stands
behind them starts no comment (`not_comment_skipBlank`).
-/

set_option autoImplicit false
set_option relaxedAutoImplicit false

namespace BrowserScript.Reading

open Script Wrapper

/-- Items may be read from the first text on, and the second one is left behind them. -/
inductive Stretch : List Char → List Char → Prop
  | refl (text : List Char) : Stretch text text
  | item {rest after : List Char} (item : Item) (hform : item.Formed rest)
    (hrest : Stretch rest after) : Stretch (item.text ++ rest) after

variable {text middle rest after : List Char}

namespace Stretch

theorem trans (h : Stretch text middle) (h' : Stretch middle after) : Stretch text after := by
  induction h with
  | refl => exact h'
  | item item hform _ ih => exact .item item hform (ih h')

/-- Plain text is a stretch. -/
theorem plain (hplain : ∀ c ∈ text, c ∉ ['\'', '"', '`', '/', '\x7b', '\x7d']) (rest : List Char) :
    Stretch (text ++ rest) rest :=
  .item (.plain text) hplain (.refl rest)

theorem char {c : Char} (hplain : c ∉ ['\'', '"', '`', '/', '\x7b', '\x7d'])
    (hrest : Stretch rest after) : Stretch (c :: rest) after :=
  .item (.plain [c]) (by simpa [Item.Formed] using hplain) hrest

theorem odd (hodd : ['#', '!'] <+: text ∨ ['<', '!', '-', '-'] <+: text ∨ ['-', '-', '>'] <+: text ∨
    ['\\', 'u'] <:+: text) (rest : List Char) : Stretch (text ++ rest) rest :=
  .item (.odd text) hodd (.refl rest)

theorem suffix (h : Stretch text after) : after <:+ text := by
  induction h with
  | refl text => exact List.suffix_refl text
  | item item _ _ ih => exact ih.trans (List.suffix_append _ _)

/-- The items of a stretch may be read behind others. -/
theorem exists_reads (h : Stretch text after) {items : List Item} (hitems : Reads items text) :
    ∃ more, Reads more after ∧ itemsText more ++ after = itemsText items ++ text := by
  induction h generalizing items with
  | refl text => exact ⟨items, hitems, rfl⟩
  | item item hform _ ih =>
    obtain ⟨more, hmore, htext⟩ := ih (.cons hitems hform)
    exact ⟨more, hmore, by rw [htext, itemsText, List.append_assoc]⟩

end Stretch

/-! ### Blanks -/

/-- A character that is blank or breaks a line. -/
theorem plain_of_blank {c : Char} (h : isBlank c ∨ isLineBreak c) :
    c ∉ ['\'', '"', '`', '/', '\x7b', '\x7d'] := by
  intro hc
  simp only [List.mem_cons, List.not_mem_nil, or_false] at hc
  rcases hc with rfl | rfl | rfl | rfl | rfl | rfl <;> revert h <;> decide

/-- What skipping may leave of a text, if it meets no fault. Inside of a comment, what ends the
comment is left first; of a line break that takes two characters the first one may belong to the
comment as well. -/
def Skips (after : List Char) : BlankMode → List Char → Prop
  | .between, text => Stretch text after
  | .lineComment, text => ∃ line rest, text = line ++ rest ∧ (∀ c ∈ line, ¬isLineBreak c) ∧
      AtLineEnd rest ∧ Stretch rest after ∧
        ∀ more, rest = '\r' :: '\n' :: more → Stretch ('\n' :: more) after
  | .blockComment, text => ∃ comment rest, text = comment ++ rest ∧ BlockCommentRest comment ∧
      Stretch rest after

theorem Skips.lineComment_cons {c : Char} (h : Skips after .lineComment text)
    (hc : isLineBreak c = false) : Skips after .lineComment (c :: text) := by
  obtain ⟨line, rest, rfl, hline, hend, hrest⟩ := h
  exact ⟨c :: line, rest, rfl, List.forall_mem_cons.mpr ⟨by simp [hc], hline⟩, hend, hrest⟩

theorem Skips.lineComment_break {c : Char} (h : Stretch text after) (hc : isLineBreak c) :
    Skips after .lineComment (c :: text) := by
  refine ⟨[], c :: text, rfl, by simp, .inr (by simpa using hc), ?_, ?_⟩
  · exact .char (plain_of_blank (.inr hc)) h
  · rintro more hmore
    cases hmore
    exact h

theorem Skips.blockComment_cons {c : Char} (h : Skips after .blockComment text)
    (hc : ¬(c = '*' ∧ text.head? = some '/')) : Skips after .blockComment (c :: text) := by
  obtain ⟨comment, rest, rfl, hcomment, hrest⟩ := h
  refine ⟨c :: comment, rest, rfl, .char (fun hopen ↦ hc ⟨hopen.1, ?_⟩) hcomment, hrest⟩
  rw [List.head?_append_of_ne_nil comment hcomment.ne_nil, hopen.2]

/-- A line comment is a stretch, up to the line break behind it or into that. -/
theorem Skips.stretch_lineComment (h : Skips after .lineComment text) :
    Stretch ('/' :: '/' :: text) after := by
  obtain ⟨line, rest, rfl, hline, hend, hrest, hpair⟩ := h
  by_cases hcrlf : ∃ more, rest = '\r' :: '\n' :: more
  · obtain ⟨more, rfl⟩ := hcrlf
    have hform : (Item.lineComment (line ++ ['\r'])).Formed ('\n' :: more) :=
      ⟨line, hline, .inr ⟨rfl, rfl⟩⟩
    simpa [Item.text] using Stretch.item (.lineComment (line ++ ['\r'])) hform (hpair more rfl)
  · exact .item (.lineComment line) ⟨line, hline, .inl ⟨rfl, hend⟩⟩ hrest

/-- So is a comment of another form, up to the line break. -/
theorem Skips.stretch_odd {opening : List Char} (h : Skips after .lineComment text)
    (hopening : opening = ['<', '!', '-', '-'] ∨ opening = ['-', '-', '>']) :
    Stretch (opening ++ text) after := by
  obtain ⟨line, rest, rfl, _, _, hrest, _⟩ := h
  rw [← List.append_assoc]
  refine (Stretch.odd ?_ rest).trans hrest
  rcases hopening with rfl | rfl
  · exact .inr (.inl (List.prefix_append _ _))
  · exact .inr (.inr (.inl (List.prefix_append _ _)))

theorem Skips.stretch_blockComment (h : Skips after .blockComment text) :
    Stretch ('/' :: '*' :: text) after := by
  obtain ⟨comment, rest, rfl, hcomment, hrest⟩ := h
  exact .item (.blockComment comment) hcomment hrest

theorem Skips.between_cons {c : Char} (h : Stretch text after) (hc : isBlank c ∨ isLineBreak c) :
    Stretch (c :: text) after :=
  .char (plain_of_blank hc) h

theorem eq_cons_of_head? {c : Char} (h : text.head? = some c) : text = c :: text.drop 1 := by
  cases text <;> simp_all

theorem eq_append_of_take {n : Nat} {part : List Char} (h : text.take n = part) :
    text = part ++ text.drop n := by
  rw [← h, List.take_append_drop]

theorem skips_skipBlank (mode : BlankMode) (lineBreak : Bool) (tokenStart : Option Nat)
    (faults : List Placed) (pos : Nat) (cs : List Char)
    (hfaults : (skipBlank mode lineBreak tokenStart faults pos cs).faults = []) :
    faults = [] ∧ Skips (skipBlank mode lineBreak tokenStart faults pos cs).after.text mode cs := by
  fun_induction skipBlank mode lineBreak tokenStart faults pos cs with
  | case1 mode =>
    obtain ⟨hnone, hmode⟩ := List.append_eq_nil_iff.mp hfaults
    refine ⟨hnone, ?_⟩
    cases mode with
    | between => exact .refl []
    | lineComment => exact ⟨[], [], rfl, by simp, .inl rfl, .refl [], by simp⟩
    | blockComment => cases hmode
  | case2 _ _ _ _ c rest hc ih =>
    obtain ⟨hnone, hrest⟩ := ih hfaults
    exact ⟨hnone, .lineComment_break hrest hc⟩
  | case3 _ _ _ _ c rest hc ih =>
    obtain ⟨hnone, hrest⟩ := ih hfaults
    exact ⟨hnone, hrest.lineComment_cons (by simpa using hc)⟩
  | case4 _ _ _ _ c rest hc ih =>
    obtain ⟨hnone, hrest⟩ := ih hfaults
    refine ⟨hnone, ['*', '/'], rest.drop 1, ?_, .close, hrest⟩
    rw [hc.1, eq_cons_of_head? hc.2]
    rfl
  | case5 _ _ _ _ c rest hc ih =>
    obtain ⟨hnone, hrest⟩ := ih hfaults
    exact ⟨hnone, hrest.blockComment_cons hc⟩
  | case6 _ _ _ _ c rest hc ih =>
    obtain ⟨hnone, hrest⟩ := ih hfaults
    exact ⟨hnone, .between_cons hrest (.inr hc)⟩
  | case7 _ _ _ _ c rest _ hc ih =>
    obtain ⟨hnone, hrest⟩ := ih hfaults
    exact ⟨hnone, .between_cons hrest (.inl hc)⟩
  | case8 _ _ _ _ c rest _ _ hc ih =>
    obtain ⟨hnone, hrest⟩ := ih hfaults
    refine ⟨hnone, ?_⟩
    rw [hc.1, eq_cons_of_head? hc.2]
    exact hrest.stretch_lineComment
  | case9 _ _ _ _ c rest _ _ _ hc ih =>
    obtain ⟨hnone, hrest⟩ := ih hfaults
    refine ⟨hnone, ?_⟩
    rw [hc.1, eq_cons_of_head? hc.2]
    exact hrest.stretch_blockComment
  | case10 _ _ _ _ c rest _ _ _ _ hc ih =>
    obtain ⟨hnone, hrest⟩ := ih hfaults
    refine ⟨hnone, ?_⟩
    rw [hc.1, eq_append_of_take hc.2]
    exact hrest.stretch_odd (.inl rfl)
  | case11 _ _ _ _ c rest _ _ _ _ _ hc ih =>
    obtain ⟨hnone, hrest⟩ := ih hfaults
    refine ⟨hnone, ?_⟩
    rw [hc.1, eq_append_of_take hc.2.2]
    exact hrest.stretch_odd (.inr rfl)
  | case12 _ _ _ _ c rest _ _ _ _ _ _ _ ih => cases (List.append_eq_nil_iff.mp (ih hfaults).1).2
  | case13 _ _ _ _ c rest => exact ⟨hfaults, .refl (c :: rest)⟩

/-- Blanks and comments without a fault are a stretch. -/
theorem stretch_skipBlank {lineBreak : Bool} {tokenStart : Option Nat} {pos : Nat} {cs : List Char}
    (hfaults : (skipBlank .between lineBreak tokenStart [] pos cs).faults = []) :
    Stretch cs (skipBlank .between lineBreak tokenStart [] pos cs).after.text :=
  (skips_skipBlank .between lineBreak tokenStart [] pos cs hfaults).2

/-- No comment is left behind blanks. -/
theorem not_comment_skipBlank (mode : BlankMode) (lineBreak : Bool) (tokenStart : Option Nat)
    (faults : List Placed) (pos : Nat) (cs : List Char) {rest : List Char}
    (hrest : (skipBlank mode lineBreak tokenStart faults pos cs).after.text = '/' :: rest) :
    rest.head? ≠ some '/' ∧ rest.head? ≠ some '*' := by
  fun_induction skipBlank mode lineBreak tokenStart faults pos cs with
  | case1 => cases hrest
  | case13 _ _ _ _ c more _ _ hslash hstar =>
    cases hrest
    simpa using And.intro hslash hstar
  | _ => simp_all

end BrowserScript.Reading
