import Mathlib
import BrowserScript.Proofs.Handle.Operand

/-!
Reserved words that stand alone in front of a semicolon, apart from the four that are values. Most
of them start no expression; behind the others an operand, a name or a bracket is missing. The
reader fails at the word or at the semicolon, unless it only notes that an operand is missing
(`Refused`); what is read as an assignment then fails, or leaves a fault behind
(`refuses_readAssignment`).
-/

set_option autoImplicit false
set_option relaxedAutoImplicit false

namespace BrowserScript.Script

open Reader

variable {α : Type} {parts : Parts} {s t u : ReadState} {word semicolon : Lexeme} {name : String}
  {placed : Placed}

/-! ### At a semicolon -/

namespace ShowsSemicolon

theorem eatWord (h : ShowsSemicolon s t) (word : String) :
    Reader.eatWord word s = (.ok false, t) := by
  simp [Reader.eatWord, Reader.isWord, h.token, Token.isWord]

theorem exists_here (h : ShowsSemicolon s t) : ∃ pos, Reader.here s = (.ok pos, t) := by
  obtain ⟨l, hshows, htoken⟩ := h
  exact ⟨l.start, hshows.here (isPlain_of_mark htoken)⟩

theorem exists_raiseHere (h : ShowsSemicolon s s) (fault : Fault) :
    ∃ placed, (raiseHere fault : Reader α) s = (.error placed, s) := by
  obtain ⟨l, hshows, htoken⟩ := h
  exact ⟨_, raiseHere_of_current hshows.current (isPlain_of_mark htoken) fault⟩

theorem exists_raiseUnexpected (h : ShowsSemicolon s s) (wanted : String) :
    ∃ placed, (raiseUnexpected wanted : Reader α) s = (.error placed, s) := by
  simpa [raiseUnexpected, described, h.token] using h.exists_raiseHere _

theorem exists_expectMark (h : ShowsSemicolon s t) {mark : String} (hmark : ";" ≠ mark) :
    ∃ placed, Reader.expectMark mark s = (.error placed, t) := by
  simpa [Reader.expectMark, h.eatMark hmark, raiseExpected, described, h.again.token] using
    h.again.exists_raiseHere (α := Unit) _

/-- No operand starts with a semicolon. -/
theorem exists_readCallee (h : ShowsSemicolon s t) (parts : Parts) :
    ∃ placed, readCallee parts s = (.error placed, t) := by
  obtain ⟨pos, hhere⟩ := h.exists_here
  obtain ⟨pos', hhere'⟩ := h.again.exists_here
  obtain ⟨placed, hraise⟩ := h.again.exists_raiseHere (α := Expr) .expressionExpected
  exact ⟨placed, by
    simp [readCallee, hhere, h.again.eatWord, readPrimary, hhere', h.again.token, hraise]⟩

theorem exists_readUnary (h : ShowsSemicolon s t) (parts : Parts) :
    ∃ placed, readUnary parts s = (.error placed, t) := by
  obtain ⟨pos, hhere⟩ := h.exists_here
  obtain ⟨pos', hhere'⟩ := h.again.exists_here
  obtain ⟨placed, hcallee⟩ := h.again.exists_readCallee parts
  have hop : unaryOpHere t = (.ok none, t) := by
    simp [unaryOpHere, h.again.token, UnaryOp.all, UnaryOp.isWord, UnaryOp.text]
  exact ⟨placed, by simp [readUnary, hhere, h.again.updateOpHere, hop, h.again.eatWord,
    readLeftHandSide, hhere', hcallee]⟩

end ShowsSemicolon

/-! ### Words at which no expression starts -/

theorem readWordExpr_of_reserved (hcurrent : s.current = some word)
    (hword : word.token = .word name) (hname : name ∈ reservedWords)
    (hstarts : name ∉ ["this", "null", "true", "false", "function", "class"]) (pos : Nat)
    (canBeArrow : Bool) :
    readWordExpr parts pos canBeArrow name s = (.error ⟨.expressionExpected, word.start⟩, s) := by
  have hasync : name ≠ "async" := by
    rintro rfl
    exact absurd hname (by decide)
  have hlet : name ≠ "let" := by
    rintro rfl
    exact absurd hname (by decide)
  have hreserves : s.context.reserves name = true := by simp [Surroundings.reserves, hname]
  have hraise := raiseHere_of_current (α := Expr) hcurrent (isPlain_of_word hword)
    .expressionExpected
  unfold readWordExpr
  split
  case h_7 => simp [hasync, hlet, hreserves, hraise]
  all_goals exact absurd (by decide) hstarts

/-! ### Words behind which something is missing -/

/-- A function without a list of parameters. -/
theorem exists_readFunctionExpr (h : Alone s word semicolon) (hword : word.token = .word name) :
    ∃ placed, readFunctionExpr parts false s = (.error placed, s.atSemicolon word semicolon) := by
  have hstar := h.behind.eatMark (show ";" ≠ "*" by decide)
  have hname := fun c ↦ (h.behind.again.inContext c).atName
  choose placed hparen using fun c ↦
    (h.behind.again.inContext c).exists_expectMark (show ";" ≠ "(" by decide)
  simp [readFunctionExpr, h.shows.here (isPlain_of_word hword), h.shows.advance, readFunction, hstar,
    run_within, hname, readParamsAndBody, hparen]
  exact ⟨_, rfl⟩

/-- A class without a body. -/
theorem exists_readClassExpr (h : Alone s word semicolon) (hword : word.token = .word name) :
    ∃ placed, readClassExpr parts s = (.error placed, s.atSemicolon word semicolon) := by
  have hadvance := fun c ↦ (h.inContext c).shows.advance
  have hname := fun c ↦ (h.inContext c).behind.atName
  have hextends := fun c ↦ (h.inContext c).behind.again.eatWord "extends"
  choose placed hbrace using fun c ↦
    (h.inContext c).behind.again.exists_expectMark (show ";" ≠ "\x7b" by decide)
  simp [readClassExpr, h.shows.here (isPlain_of_word hword), readClass, run_within, hadvance, hname,
    hextends, hbrace]
  exact ⟨_, rfl⟩

/-- A construction of nothing. -/
theorem exists_readNew (h : Alone s word semicolon) (d start : Nat) :
    ∃ placed, readNew (Parts.below (d + 1)) start (s.behind word) =
      (.error placed, s.atSemicolon word semicolon) := by
  have hpoint := h.behind.eatMark (show ";" ≠ "." by decide)
  obtain ⟨placed, hmissing⟩ := h.behind.again.exists_readCallee (Parts.below d)
  have hcallee : (Parts.below (d + 1)).callee (s.atSemicolon word semicolon) =
      (.error placed, s.atSemicolon word semicolon) := hmissing
  exact ⟨placed, by simp [readNew, hpoint, hcallee]⟩

/-- `super` without a property. -/
theorem exists_readAccess_superBase (h : Alone s word semicolon) (hbound : 0 < s.bound)
    (parts : Parts) (start : Nat) :
    ∃ placed, readAccess parts start true (.superBase start) (s.behind word) =
      (.error placed, s.atSemicolon word semicolon) := by
  have hend := h.behind
  obtain ⟨bound, hsame⟩ :=
    Nat.exists_eq_succ_of_ne_zero (show (s.behind word).bound ≠ 0 from hbound.ne')
  obtain ⟨placed, hraise⟩ := hend.again.exists_raiseHere (α := Unit) .superAccess
  exact ⟨placed, by
    simp [readAccess, hsame, readSubscripts, readSubscript, eatQuestion, hend.isMark,
      hend.again.isMark, hend.again.eatMark, refuseBareBase, isSuperBase, hraise]⟩

/-- `import` without a bracket. -/
theorem exists_readImport (h : Alone s word semicolon) (parts : Parts) (start : Nat) :
    ∃ placed, readImport parts start true (s.behind word) =
      (.error placed, s.atSemicolon word semicolon) := by
  have hend := h.behind
  obtain ⟨placed, hraise⟩ := hend.again.exists_raiseUnexpected (α := Expr) "`.` or `(`"
  exact ⟨placed, by simp [readImport, hend.eatMark, hend.again.isMark, hraise]⟩

/-! ### Words without a value -/

/-- Of a word without a value, a reader fails at the word or at the semicolon, or it stops at the
semicolon and has noted a fault. -/
inductive Refused (s : ReadState) (word semicolon : Lexeme) : Except Placed Expr × ReadState → Prop
  | atWord (placed : Placed) : Refused s word semicolon (.error placed, s)
  | atSemicolon (placed : Placed) :
    Refused s word semicolon (.error placed, s.atSemicolon word semicolon)
  | noted (e : Expr) (he : isArrow e = false) (placed : Placed) :
    Refused s word semicolon (.ok e, (s.atSemicolon word semicolon).noting placed)

/-- An operand that is missing is only noted. -/
theorem refused_readUnaryRest (h : Alone s word semicolon) (d start : Nat) (op : UnaryOp) :
    Refused s word semicolon (readUnaryRest (Parts.below (d + 1)) start op (s.behind word)) := by
  obtain ⟨pos, hhere⟩ := h.behind.exists_here
  obtain ⟨placed, hmissing⟩ := h.behind.again.exists_readUnary (Parts.below d)
  have hunary : (Parts.below (d + 1)).unary (s.atSemicolon word semicolon) =
      (.error placed, s.atSemicolon word semicolon) := hmissing
  have hnote : note placed.fault placed.pos (s.atSemicolon word semicolon) = _ :=
    note_of_current rfl h.isPlain _ _
  cases op <;>
    · simp [readUnaryRest, hhere, hunary, hnote]
      exact .noted _ rfl placed

theorem exists_readPrimary_of_none (h : Alone s word semicolon) (hword : word.token = .word name)
    (hvalue : wordValue word.start name = none) :
    ∃ placed, readPrimary parts s = (.error placed, s) ∨
      readPrimary parts s = (.error placed, s.atSemicolon word semicolon) := by
  rw [readPrimary_of_word h.current hword]
  by_cases hfunction : name = "function"
  · subst hfunction
    obtain ⟨placed, hread⟩ := exists_readFunctionExpr h hword
    exact ⟨placed, .inr (by simpa [readWordExpr] using hread)⟩
  by_cases hclass : name = "class"
  · subst hclass
    obtain ⟨placed, hread⟩ := exists_readClassExpr h hword
    exact ⟨placed, .inr (by simpa [readWordExpr] using hread)⟩
  obtain ⟨hreserved, hnot⟩ := wordValue_eq_none_iff.mp hvalue
  refine ⟨_, .inl (readWordExpr_of_reserved h.current hword hreserved ?_ _ _)⟩
  simp only [List.mem_cons, List.not_mem_nil, or_false, not_or] at hnot ⊢
  exact ⟨hnot.1, hnot.2.1, hnot.2.2.1, hnot.2.2.2, hfunction, hclass⟩

/-- A word without a value is refused as an expression of one operand. -/
theorem refused_readUnary (h : Alone s word semicolon) (hword : word.token = .word name)
    (hvalue : wordValue word.start name = none) (hbound : 0 < s.bound) (d : Nat) :
    Refused s word semicolon (readUnary (Parts.below (d + 1)) s) := by
  have hhere := h.shows.here (isPlain_of_word hword)
  have hcount := updateOpHere_of_word h.current hword
  have hop : unaryOpHere s =
      (.ok (UnaryOp.all.find? fun op ↦ op.isWord && op.text = name), s) := by
    simp [unaryOpHere, h.shows.token, hword]
  have hmissing (op : UnaryOp) (hspelled : unaryOpHere s = (.ok (some op), s)) :
      Refused s word semicolon (readUnary (Parts.below (d + 1)) s) := by
    simp only [readUnary, run_bind, hhere, hcount, hspelled, h.shows.advance]
    exact refused_readUnaryRest h d word.start op
  by_cases hoperand : name ∈ operandWords
  · simp only [operandWords, List.mem_cons, List.not_mem_nil, or_false] at hoperand
    rcases hoperand with rfl | rfl | rfl | rfl | rfl | rfl | rfl
    · exact hmissing .typeof hop
    · exact hmissing .void hop
    · exact hmissing .delete hop
    · cases hvalue
    · obtain ⟨placed, hread⟩ := exists_readNew h d word.start
      simp [readUnary, hhere, hcount, unaryOpHere_of_word h.current hword, readLeftHandSide,
        readCallee, h.shows.eatWord, hword, Token.isWord, hread]
      exact .atSemicolon placed
    · obtain ⟨placed, hread⟩ :=
        exists_readAccess_superBase h hbound (Parts.below (d + 1)) word.start
      simp [readUnary, hhere, hcount, unaryOpHere_of_word h.current hword, readLeftHandSide,
        h.shows.eatWord, hword, Token.isWord, hread]
      exact .atSemicolon placed
    · obtain ⟨placed, hread⟩ := exists_readImport h (Parts.below (d + 1)) word.start
      simp [readUnary, hhere, hcount, unaryOpHere_of_word h.current hword, readLeftHandSide,
        h.shows.eatWord, hword, Token.isWord, hread]
      exact .atSemicolon placed
  · obtain ⟨placed, hread⟩ := exists_readPrimary_of_none h hword hvalue
    rw [readUnary_of_primary (t := s) h.current hword hoperand]
    · rcases hread with hread | hread
      · rw [hread]
        exact .atWord placed
      · rw [hread]
        exact .atSemicolon placed
    · intro e u hprimary
      rcases hread with hread | hread <;> cases hread.symm.trans hprimary

/-! ### Operators of two operands -/

/-- What is not read as an expression of one operand counts, unless an operator stands there. -/
theorem readBinary_of_error (hunary : readUnary parts s = (.error placed, t))
    (hdemand : demandToken t = (.ok (), t)) (hop : binaryOpHere t = (.ok none, t))
    (hin : isWord "in" t = (.ok false, t)) : readBinary parts s = (.error placed, t) := by
  simp [readBinary, readFirstOperand, hunary, hdemand, hop, hin]

/-- An operator without its left operand is noted; but it has no right operand either. -/
theorem exists_readBinary_of_operator (op : BinaryOp) (h : Alone s word semicolon)
    (hword : word.token = .word name)
    (hop : ∀ t, t.current = some word → t.context = s.context →
      binaryOpHere t = (.ok (some op), t))
    (hbinds : op.precedence ≠ 0) (hexp : op ≠ .exp) (hbound : 0 < s.bound) (d : Nat)
    (hunary : readUnary (Parts.below (d + 1)) s = (.error placed, s)) :
    ∃ placed u, readBinary (Parts.below (d + 1)) s = (.error placed, u) := by
  have hstart : tokenStart s = (.ok word.start, s) := by simp [tokenStart, h.current]
  have hnote := note_of_current h.current (isPlain_of_word hword) .expressionExpected word.start
  obtain ⟨t, ht⟩ : ∃ t, s.noting ⟨.expressionExpected, word.start⟩ = t := ⟨_, rfl⟩
  have halone : Alone t word semicolon :=
    ht ▸ ⟨h.current, h.next, h.read, h.mark, h.faults⟩
  have hfirst : readFirstOperand (Parts.below (d + 1)) s = (.ok (.invalid placed.pos), t) := by
    simp [readFirstOperand, hunary, h.shows.demandToken hword, hop s h.current rfl, h.shows.isWord,
      hstart, hnote, ht]
    rfl
  obtain ⟨missing, hmissing⟩ := halone.behind.exists_readUnary (Parts.below d)
  have hright : (Parts.below (d + 1)).unary (t.behind word) =
      (.error missing, t.atSemicolon word semicolon) := hmissing
  obtain ⟨bound, hsame⟩ := Nat.exists_eq_succ_of_ne_zero (show t.bound ≠ 0 from ht ▸ hbound.ne')
  have hagain := hop t halone.current (ht ▸ rfl)
  exact ⟨missing, t.atSemicolon word semicolon, by
    simp [readBinary, hfirst, isArrow, climbFrom, hsame, climb, hagain, hbinds, hexp,
      halone.shows.advance, hright]⟩

theorem readBinary_of_none (h : Alone s word semicolon) (hword : word.token = .word name)
    (hin : s.context.allowIn = true) (hvalue : wordValue word.start name = none)
    (hbound : 0 < s.bound) (d : Nat) :
    (∃ placed u, readBinary (Parts.below (d + 1)) s = (.error placed, u)) ∨
      ∃ e placed, isArrow e = false ∧ readBinary (Parts.below (d + 1)) s =
        (.ok e, (s.atSemicolon word semicolon).noting placed) := by
  have hrefused := refused_readUnary h hword hvalue hbound d
  generalize hunary : readUnary (Parts.below (d + 1)) s = result at hrefused
  cases hrefused with
  | atWord placed =>
    left
    by_cases hoperator : name = "in" ∨ name = "instanceof"
    · rcases hoperator with rfl | rfl
      · refine exists_readBinary_of_operator .isIn h hword (fun t ht hcontext ↦ ?_)
          (by decide) (by decide) hbound d hunary
        simp [binaryOpHere, (Shows.of_current ht).token, hword, hcontext, hin]
      · refine exists_readBinary_of_operator .isInstanceOf h hword (fun t ht _ ↦ ?_)
          (by decide) (by decide) hbound d hunary
        simp [binaryOpHere, (Shows.of_current ht).token, hword]
    · rw [not_or] at hoperator
      have hop : binaryOpHere s = (.ok none, s) := by
        simp [binaryOpHere, h.shows.token, hword, hoperator]
      refine ⟨placed, s, readBinary_of_error hunary (h.shows.demandToken hword) hop ?_⟩
      simp [h.shows.isWord, hword, Token.isWord, hoperator]
  | atSemicolon placed =>
    have hend := h.behind.again
    refine .inl ⟨placed, _, readBinary_of_error hunary ?_ hend.binaryOpHere ?_⟩
    · simp [demandToken, hend.token]
    · simp [Reader.isWord, hend.token, Token.isWord]
  | noted e he placed =>
    have hend : ShowsSemicolon _ ((s.atSemicolon word semicolon).noting placed) :=
      ⟨semicolon, .of_current rfl, h.mark⟩
    exact .inr ⟨e, placed, he, by
      simp [readBinary, readFirstOperand, hunary, he, hend.climbFrom hbound]⟩

/-! ### Assignments -/

/-- The reader fails, or it stops with this token at hand and has noted a fault. -/
def Refuses (l : Lexeme) (result : Except Placed α × ReadState) : Prop :=
  match result with
  | (.error _, _) => True
  | (.ok _, s) => s.current = some l ∧ s.faults ≠ []

/-- A word without a value is no assignment. -/
theorem refuses_readAssignment {later : List Lexeme}
    (h : Upcoming s (word :: semicolon :: later)) (hword : word.token = .word name)
    (hmark : semicolon.token = .mark ";") (hgenerator : s.context.inGenerator = false)
    (hin : s.context.allowIn = true) (hvalue : wordValue word.start name = none)
    (hbound : 0 < s.bound) (d : Nat) :
    Refuses semicolon (readAssignment (Parts.below (d + 1)) s) := by
  have hoperand := h.alone_atOperand hmark
  have hbinary := readBinary_of_none hoperand hword hin hvalue hbound d
  rw [readAssignment_of_binary h.step.1 hword hgenerator]
  · rcases hbinary with ⟨placed, u, hread⟩ | ⟨e, placed, -, hread⟩
    · rw [hread]
      trivial
    · rw [hread]
      exact ⟨rfl, List.cons_ne_nil _ _⟩
  · intro e t hread
    rcases hbinary with ⟨placed, u, hfails⟩ | ⟨e', placed, he, hstops⟩
    · cases hfails.symm.trans hread
    · cases hstops.symm.trans hread
      exact ⟨he, semicolon, .of_current rfl, hmark⟩

end BrowserScript.Script
