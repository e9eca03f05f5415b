import BrowserScript.Proofs.Wrapper.LiteralForm
import BrowserScript.Wrapper.Scanner

/-!
What one move of the brace scanner can be. `Step` lists the texts that a move may read, what may
stand behind each of them, and the state it leaves; `move_append_of_step` and
`exists_step_of_move` say that these are exactly the moves of the scanner that do not stop it.
Later statements about scans take a move apart with `Step` and do not open the scanner again.
-/

set_option autoImplicit false
set_option relaxedAutoImplicit false

namespace BrowserScript.Wrapper

open Text

/-- A move that goes on, right behind a structural brace if one is given. -/
def Move.onward : Option Brace → ScanState → Place → Move
  | none, next, p => .pass next p
  | some passed, next, p => .brace passed next p

@[simp] theorem stop_ne_onward (failure : Option Unterminated) (brace : Option Brace)
    (next : ScanState) (p : Place) : Move.stop failure ≠ Move.onward brace next p := by
  cases brace <;> simp [Move.onward]

theorem pass_eq_onward_iff {s next : ScanState} {brace : Option Brace} {p q : Place} :
    Move.pass s q = Move.onward brace next p ↔ brace = none ∧ next = s ∧ p = q := by
  cases brace <;> simp [Move.onward, eq_comm]

theorem brace_eq_onward_iff {s next : ScanState} {passed : Brace} {brace : Option Brace}
    {p q : Place} :
    Move.brace passed s q = Move.onward brace next p ↔
      brace = some passed ∧ next = s ∧ p = q := by
  cases brace <;> simp [Move.onward, eq_comm]

/-- The scanner in state `s` at the byte `offset` reads the first text, in front of the second one,
passes the brace that is given, and goes on in the last state. -/
inductive Step (s : ScanState) (offset : Nat) :
    List Char → List Char → Option Brace → ScanState → Prop
  | stringLiteral {quote : Char} {text : List Char} (rest : List Char)
    (hquote : quote = '\'' ∨ quote = '"') (htext : StringRest quote text) :
    Step s offset (quote :: text) rest none s.afterLiteral
  | template {text : List Char} (rest : List Char) (htext : TemplateStretch text) :
    Step s offset ('`' :: (text ++ ['`'])) rest none s.afterLiteral
  | substitution {text : List Char} (rest : List Char) (htext : TemplateStretch text) :
    Step s offset ('`' :: (text ++ ['$', '\x7b'])) rest none (s.enterSubstitution offset)
  | lineComment {text rest : List Char} (htext : CommentLineBefore ('/' :: text) rest) :
    Step s offset ('/' :: '/' :: text) rest none s.afterSpace
  | blockComment {text : List Char} (rest : List Char) (htext : BlockCommentRest text) :
    Step s offset ('/' :: '*' :: text) rest none s.afterSpace
  | regex {text flags rest : List Char} (hallowed : s.preceding.regexAllowed)
    (hslash : text.head? ≠ some '/') (hstar : text.head? ≠ some '*')
    (htext : RegexRest false text) (hflags : FlagsBefore flags rest) :
    Step s offset ('/' :: (text ++ flags)) rest none s.afterLiteral
  | division {rest : List Char} (hallowed : s.preceding.regexAllowed = false)
    (hslash : rest.head? ≠ some '/') (hstar : rest.head? ≠ some '*') :
    Step s offset ['/'] rest none (s.afterChar '/')
  | openParen (rest : List Char) : Step s offset ['('] rest none s.openParen
  | closeParen (rest : List Char) : Step s offset [')'] rest none s.closeParen
  | openBrace (rest : List Char) (houter : s.templates = []) :
    Step s offset ['\x7b'] rest (some .opening) s.openBrace
  | openInner {t : OpenTemplate} {outer : List OpenTemplate} (rest : List Char)
    (hinner : s.templates = t :: outer) :
    Step s offset ['\x7b'] rest none
      { s.openBrace with templates := ⟨t.start, t.depth + 1⟩ :: outer }
  | closeBrace (rest : List Char) (houter : s.templates = []) :
    Step s offset ['\x7d'] rest (some .closing) s.closeBrace
  | closeInner {start depth : Nat} {outer : List OpenTemplate} (rest : List Char)
    (hinner : s.templates = ⟨start, depth + 1⟩ :: outer) :
    Step s offset ['\x7d'] rest none
      { s.closeBrace with templates := ⟨start, depth⟩ :: outer }
  | closeTemplate {start : Nat} {outer : List OpenTemplate} {text : List Char} (rest : List Char)
    (hinner : s.templates = ⟨start, 0⟩ :: outer) (htext : TemplateStretch text) :
    Step s offset ('\x7d' :: (text ++ ['`'])) rest none
      ({ s.closeBrace with templates := outer } : ScanState).afterLiteral
  | nextSubstitution {start : Nat} {outer : List OpenTemplate} {text : List Char}
    (rest : List Char) (hinner : s.templates = ⟨start, 0⟩ :: outer)
    (htext : TemplateStretch text) :
    Step s offset ('\x7d' :: (text ++ ['$', '\x7b'])) rest none
      (({ s.closeBrace with templates := outer } : ScanState).enterSubstitution start)
  | space {c : Char} (rest : List Char) (hspace : isSpace c) :
    Step s offset [c] rest none s.afterSpace
  | char {c : Char} (rest : List Char)
    (hc : c ∉ ['\'', '"', '`', '/', '(', ')', '\x7b', '\x7d']) (hspace : isSpace c = false) :
    Step s offset [c] rest none (s.afterChar c)

variable {s next : ScanState} {offset : Nat} {read rest : List Char} {brace : Option Brace}

theorem Step.ne_nil (h : Step s offset read rest brace next) : read ≠ [] := by
  cases h <;> simp

theorem isSpace_not_delimiter {c : Char} (h : isSpace c) :
    c ∉ ['\'', '"', '`', '/', '(', ')', '\x7b', '\x7d'] ∧ c.utf8Size = 1 := by
  simp only [isSpace, Bool.or_eq_true, decide_eq_true_eq] at h
  rcases h with (((rfl | rfl) | rfl) | rfl) | rfl <;> decide

/-- A step that can be made is the move of the scanner. -/
theorem move_append_of_step (h : Step s offset read rest brace next) :
    s.move offset (read ++ rest) = Move.onward brace next ⟨offset + byteSize read, rest⟩ := by
  cases h with
  | @stringLiteral quote text _ hquote htext =>
    have hform : quote ≠ '\\' ∧ quote ≠ '\n' ∧ quote.utf8Size = 1 := by
      rcases hquote with rfl | rfl <;> decide
    rw [List.cons_append, ScanState.move, if_pos hquote,
      skipString_append htext hform.1 hform.2.1 hform.2.2, byteSize_cons, hform.2.2,
      ← Nat.add_assoc]
    rfl
  | @template text _ htext =>
    have hend : ('`' :: (text ++ ['`'])) ++ rest = '`' :: (text ++ '`' :: rest) := by simp
    rw [hend, ScanState.move, if_neg (by decide), if_pos rfl, skipTemplateText_closed htext]
    simp [ScanState.afterTemplateText, Move.onward, Nat.add_assoc]
  | @substitution text _ htext =>
    have hend : ('`' :: (text ++ ['$', '\x7b'])) ++ rest =
        '`' :: (text ++ '$' :: '\x7b' :: rest) := by simp
    rw [hend, ScanState.move, if_neg (by decide), if_pos rfl, skipTemplateText_substitution htext]
    simp [ScanState.afterTemplateText, Move.onward, Nat.add_assoc]
  | @lineComment text _ htext =>
    have hskip := skipLineComment_append htext (offset + 1)
    simp only [List.cons_append] at hskip ⊢
    simp [ScanState.move, ScanState.moveSlash, Move.onward, hskip, Nat.add_assoc]
  | @blockComment text _ htext =>
    have hskip := skipBlockComment_append htext (offset + 2) rest
    simp [ScanState.move, ScanState.moveSlash, Move.onward, hskip, Nat.add_assoc]
    omega
  | @regex text flags _ hallowed hslash hstar htext hflags =>
    have hend : ('/' :: (text ++ flags)) ++ rest = '/' :: (text ++ (flags ++ rest)) := by simp
    have hhead : (text ++ (flags ++ rest)).head? = text.head? :=
      List.head?_append_of_ne_nil text htext.ne_nil
    rw [hend, ScanState.move, if_neg (by decide), if_neg (by decide), if_pos rfl,
      ScanState.moveSlash, hhead, if_neg hslash, if_neg hstar, if_pos hallowed,
      skipRegex_append htext hflags]
    simp [Move.onward, Nat.add_assoc]
  | division hallowed hslash hstar =>
    simp [ScanState.move, ScanState.moveSlash, Move.onward, hallowed, hslash, hstar]
  | openParen | closeParen => simp [ScanState.move, Move.onward]
  | openBrace _ houter =>
    simp [ScanState.move, ScanState.moveOpenBrace, Move.onward, houter]
  | openInner _ hinner =>
    simp [ScanState.move, ScanState.moveOpenBrace, Move.onward, hinner]
  | closeBrace _ houter =>
    simp [ScanState.move, ScanState.moveCloseBrace, Move.onward, houter]
  | closeInner _ hinner =>
    simp [ScanState.move, ScanState.moveCloseBrace, Move.onward, hinner]
  | @closeTemplate _ _ text _ hinner htext =>
    have hend : ('\x7d' :: (text ++ ['`'])) ++ rest = '\x7d' :: (text ++ '`' :: rest) := by simp
    rw [hend]
    simp [ScanState.move, ScanState.moveCloseBrace, hinner, skipTemplateText_closed htext,
      ScanState.afterTemplateText, Move.onward, Nat.add_assoc]
  | @nextSubstitution _ _ text _ hinner htext =>
    have hend : ('\x7d' :: (text ++ ['$', '\x7b'])) ++ rest =
        '\x7d' :: (text ++ '$' :: '\x7b' :: rest) := by simp
    rw [hend]
    simp [ScanState.move, ScanState.moveCloseBrace, hinner, skipTemplateText_substitution htext,
      ScanState.afterTemplateText, Move.onward, Nat.add_assoc]
  | space _ hspace =>
    obtain ⟨hc, hsize⟩ := isSpace_not_delimiter hspace
    simp only [List.mem_cons, List.not_mem_nil, or_false, not_or] at hc
    simp [ScanState.move, Move.onward, hc, hspace, hsize]
  | char _ hc hspace =>
    simp only [List.mem_cons, List.not_mem_nil, or_false, not_or] at hc
    simp [ScanState.move, Move.onward, hc, hspace]

/-- Assumes: a move behind template text that does not stop the scanner. It reads a stretch of
such text and the mark that ends it. -/
theorem exists_stretch_of_afterTemplateText {p : Place} {start : Nat} {cs : List Char}
    (h : s.afterTemplateText start (skipTemplateText offset cs) = Move.onward brace next p) :
    ∃ text close, TemplateStretch text ∧ cs = text ++ close ++ p.rest ∧
      p.offset = offset + byteSize (text ++ close) ∧ brace = none ∧
        (close = ['`'] ∧ next = s.afterLiteral ∨
          close = ['$', '\x7b'] ∧ next = s.enterSubstitution start) := by
  cases hskip : skipTemplateText offset cs with
  | unterminated =>
    rw [hskip] at h
    exact (stop_ne_onward _ _ _ _ h).elim
  | closed q =>
    rw [hskip] at h
    obtain ⟨rfl, rfl, rfl⟩ := pass_eq_onward_iff.mp h
    obtain ⟨text, htext, rfl, hoffset⟩ := skipTemplateText_eq_closed_iff.mp hskip
    exact ⟨text, ['`'], htext, by simp, by simp [hoffset, Nat.add_assoc], rfl, .inl ⟨rfl, rfl⟩⟩
  | substitution q =>
    rw [hskip] at h
    obtain ⟨rfl, rfl, rfl⟩ := pass_eq_onward_iff.mp h
    obtain ⟨text, htext, rfl, hoffset⟩ := skipTemplateText_eq_substitution_iff.mp hskip
    exact ⟨text, ['$', '\x7b'], htext, by simp, by simp [hoffset, Nat.add_assoc], rfl,
      .inr ⟨rfl, rfl⟩⟩

theorem exists_step_of_moveSlash {p : Place} {cs : List Char}
    (h : s.moveSlash offset cs = Move.onward brace next p) :
    ∃ read, '/' :: cs = read ++ p.rest ∧ p.offset = offset + byteSize read ∧
      Step s offset read p.rest brace next := by
  revert h
  fun_cases ScanState.moveSlash s offset cs with
  | case1 hslash =>
    intro h
    obtain ⟨rfl, rfl, hp⟩ := pass_eq_onward_iff.mp h
    obtain ⟨line, hline, rfl, hoffset⟩ := skipLineComment_eq_iff.mp hp.symm
    cases line with
    | nil =>
      rw [List.nil_append] at hslash
      rcases hline.2 with hend | hend <;> simp [hend] at hslash
    | cons c text =>
      cases hslash
      refine ⟨'/' :: '/' :: text, rfl, ?_, .lineComment hline⟩
      simp [hoffset]
      omega
  | case2 hslash hstar hskip => exact fun h ↦ (stop_ne_onward _ _ _ _ h).elim
  | case3 hslash hstar q hskip =>
    intro h
    obtain ⟨rfl, rfl, rfl⟩ := pass_eq_onward_iff.mp h
    obtain ⟨text, htext, hrest, hoffset⟩ := skipBlockComment_eq_some_iff.mp hskip
    cases cs with
    | nil => cases hstar
    | cons c cs =>
      cases hstar
      simp only [List.tail_cons] at hrest
      refine ⟨'/' :: '*' :: text, by simp [hrest], ?_, .blockComment _ htext⟩
      simp [hoffset]
      omega
  | case4 hslash hstar hallowed hskip => exact fun h ↦ (stop_ne_onward _ _ _ _ h).elim
  | case5 hslash hstar hallowed q hskip =>
    intro h
    obtain ⟨rfl, rfl, rfl⟩ := pass_eq_onward_iff.mp h
    obtain ⟨text, flags, htext, hflags, rfl, hoffset⟩ := skipRegex_eq_some_iff.mp hskip
    rw [List.head?_append_of_ne_nil text htext.ne_nil] at hslash hstar
    refine ⟨'/' :: (text ++ flags), by simp, ?_, .regex hallowed hslash hstar htext hflags⟩
    simp [hoffset, Nat.add_assoc]
  | case6 hslash hstar hallowed =>
    intro h
    obtain ⟨rfl, rfl, rfl⟩ := pass_eq_onward_iff.mp h
    exact ⟨['/'], rfl, by simp, .division (by simpa using hallowed) hslash hstar⟩

theorem exists_step_of_moveOpenBrace {p : Place} {cs : List Char}
    (h : s.moveOpenBrace offset cs = Move.onward brace next p) :
    ∃ read, '\x7b' :: cs = read ++ p.rest ∧ p.offset = offset + byteSize read ∧
      Step s offset read p.rest brace next := by
  revert h
  fun_cases ScanState.moveOpenBrace s offset cs with
  | case1 houter =>
    intro h
    obtain ⟨rfl, rfl, rfl⟩ := brace_eq_onward_iff.mp h
    exact ⟨['\x7b'], rfl, by simp, .openBrace _ houter⟩
  | case2 t outer hinner =>
    intro h
    obtain ⟨rfl, rfl, rfl⟩ := pass_eq_onward_iff.mp h
    exact ⟨['\x7b'], rfl, by simp, .openInner _ hinner⟩

theorem exists_step_of_moveCloseBrace {p : Place} {cs : List Char}
    (h : s.moveCloseBrace offset cs = Move.onward brace next p) :
    ∃ read, '\x7d' :: cs = read ++ p.rest ∧ p.offset = offset + byteSize read ∧
      Step s offset read p.rest brace next := by
  revert h
  fun_cases ScanState.moveCloseBrace s offset cs with
  | case1 houter =>
    intro h
    obtain ⟨rfl, rfl, rfl⟩ := brace_eq_onward_iff.mp h
    exact ⟨['\x7d'], rfl, by simp, .closeBrace _ houter⟩
  | case2 start depth outer hinner =>
    intro h
    obtain ⟨rfl, rfl, rfl⟩ := pass_eq_onward_iff.mp h
    exact ⟨['\x7d'], rfl, by simp, .closeInner _ hinner⟩
  | case3 start outer hinner =>
    intro h
    obtain ⟨text, close, htext, rfl, hoffset, rfl, hclose⟩ := exists_stretch_of_afterTemplateText h
    refine ⟨'\x7d' :: (text ++ close), by simp, by simp [hoffset, Nat.add_assoc], ?_⟩
    rcases hclose with ⟨rfl, rfl⟩ | ⟨rfl, rfl⟩
    · exact .closeTemplate _ hinner htext
    · exact .nextSubstitution _ hinner htext

/-- A move of the scanner that does not stop it is a step. -/
theorem exists_step_of_move {p : Place} {cs : List Char}
    (h : s.move offset cs = Move.onward brace next p) :
    ∃ read, cs = read ++ p.rest ∧ p.offset = offset + byteSize read ∧
      Step s offset read p.rest brace next := by
  revert h
  fun_cases ScanState.move s offset cs with
  | case1 | case2 => exact fun h ↦ (stop_ne_onward _ _ _ _ h).elim
  | case3 c rest hquote q hskip =>
    intro h
    obtain ⟨rfl, rfl, rfl⟩ := pass_eq_onward_iff.mp h
    have hform : c ≠ '\\' ∧ c ≠ '\n' ∧ c.utf8Size = 1 := by
      rcases hquote with rfl | rfl <;> decide
    obtain ⟨text, htext, rfl, hoffset⟩ :=
      (skipString_eq_some_iff hform.1 hform.2.1 hform.2.2).mp hskip
    refine ⟨c :: text, rfl, ?_, .stringLiteral _ hquote htext⟩
    rw [hoffset, byteSize_cons, hform.2.2, Nat.add_assoc]
  | case4 rest =>
    intro h
    obtain ⟨text, close, htext, rfl, hoffset, rfl, hclose⟩ := exists_stretch_of_afterTemplateText h
    refine ⟨'`' :: (text ++ close), by simp, by simp [hoffset, Nat.add_assoc], ?_⟩
    rcases hclose with ⟨rfl, rfl⟩ | ⟨rfl, rfl⟩
    · exact .template _ htext
    · exact .substitution _ htext
  | case5 rest => exact exists_step_of_moveSlash
  | case6 rest =>
    intro h
    obtain ⟨rfl, rfl, rfl⟩ := pass_eq_onward_iff.mp h
    exact ⟨['('], rfl, by simp, .openParen _⟩
  | case7 rest =>
    intro h
    obtain ⟨rfl, rfl, rfl⟩ := pass_eq_onward_iff.mp h
    exact ⟨[')'], rfl, by simp, .closeParen _⟩
  | case8 rest => exact exists_step_of_moveOpenBrace
  | case9 rest => exact exists_step_of_moveCloseBrace
  | case10 c rest _ _ _ _ _ _ _ hspace =>
    intro h
    obtain ⟨rfl, rfl, rfl⟩ := pass_eq_onward_iff.mp h
    have hsize := (isSpace_not_delimiter hspace).2
    exact ⟨[c], rfl, by simp [hsize], .space _ hspace⟩
  | case11 c rest hquote hbacktick hslash hopen hclose hopenBrace hcloseBrace hspace =>
    intro h
    obtain ⟨rfl, rfl, rfl⟩ := pass_eq_onward_iff.mp h
    simp only [not_or] at hquote
    refine ⟨[c], rfl, by simp, .char _ ?_ (by simpa using hspace)⟩
    simp [hquote, hbacktick, hslash, hopen, hclose, hopenBrace, hcloseBrace]

end BrowserScript.Wrapper
