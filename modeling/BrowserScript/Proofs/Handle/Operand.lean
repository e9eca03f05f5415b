import Mathlib
import BrowserScript.Proofs.Handle.Running
import BrowserScript.Script.Grammar.Document

/-!
A word that stands alone in front of a semicolon, read as a value (`wordValue`). No access and no
operator can follow it, so each reader of an expression passes on what the reader below it has made
of the word (`readAssignment_of_value`). A word that is not reserved is an identifier there, also one
that has a meaning of its own in front of other tokens.
-/

set_option autoImplicit false
set_option relaxedAutoImplicit false

namespace BrowserScript.Script

open Reader

variable {parts : Parts} {s s' t u : ReadState} {l word semicolon : Lexeme} {name : String}
  {e : Expr}

/-! ### In front of a semicolon -/

/-- A reader that looks at a token finds a semicolon. -/
def ShowsSemicolon (s t : ReadState) : Prop := ∃ l, Shows s l t ∧ l.token = .mark ";"

/-- An expression that an operator might take, but that can also stand alone. -/
structure IsOperand (e : Expr) : Prop where
  not_arrow : isArrow e = false
  not_super : isSuperBase e = false
  not_import : isImportBase e = false

namespace ShowsSemicolon

theorem again (h : ShowsSemicolon s t) : ShowsSemicolon t t :=
  h.imp fun _ ⟨hshows, htoken⟩ ↦ ⟨hshows.again, htoken⟩

theorem inContext (h : ShowsSemicolon s t) (c : Context) :
    ShowsSemicolon (t.inContext c) (t.inContext c) :=
  h.imp fun _ ⟨hshows, htoken⟩ ↦ ⟨.of_current hshows.current, htoken⟩

theorem token (h : ShowsSemicolon s t) : Reader.token s = (.ok (.mark ";"), t) := by
  obtain ⟨l, hshows, htoken⟩ := h
  rw [hshows.token, htoken]

theorem isMark (h : ShowsSemicolon s t) (mark : String) :
    Reader.isMark mark s = (.ok (decide (";" = mark)), t) := by
  simp [Reader.isMark, h.token, Token.isMark]

theorem eatMark (h : ShowsSemicolon s t) {mark : String} (hmark : ";" ≠ mark) :
    Reader.eatMark mark s = (.ok false, t) := by
  simp [Reader.eatMark, h.isMark, hmark]

theorem exists_lineBreak (h : ShowsSemicolon s t) : ∃ r, Reader.lineBreak s = (.ok r, t) := by
  obtain ⟨l, hshows, htoken⟩ := h
  exact ⟨l.lineBreak, by simp [Reader.lineBreak, hshows.lexeme, htoken]⟩

theorem atName (h : ShowsSemicolon s t) : Reader.atName s = (.ok false, t) := by
  simp [Reader.atName, h.token]

theorem atStatementEnd (h : ShowsSemicolon s t) : Reader.atStatementEnd s = (.ok true, t) := by
  obtain ⟨r, hbreak⟩ := h.again.exists_lineBreak
  simp [Reader.atStatementEnd, h.token, hbreak]

theorem updateOpHere (h : ShowsSemicolon s t) : Reader.updateOpHere s = (.ok none, t) := by
  simp [Reader.updateOpHere, h.token]

theorem assignOpHere (h : ShowsSemicolon s t) : Reader.assignOpHere s = (.ok none, t) := by
  have hop : AssignOp.ofText? ";" = none := by decide
  simp [Reader.assignOpHere, h.token, hop]

/-- No access follows. -/
theorem readAccess (h : ShowsSemicolon s t) (he : IsOperand e) (hbound : 0 < s.bound) (start : Nat)
    (allowCall : Bool) : Reader.readAccess parts start allowCall e s = (.ok e, t) := by
  have hsubscript : readSubscript parts start allowCall e s = (.ok none, t) := by
    simp [readSubscript, eatQuestion, refuseBareBase, h.isMark, h.again.isMark, h.again.eatMark,
      he.not_super, he.not_import]
  obtain ⟨bound, hbound⟩ := Nat.exists_eq_succ_of_ne_zero hbound.ne'
  simp [Reader.readAccess, hbound, readSubscripts, hsubscript]

theorem binaryOpHere (h : ShowsSemicolon s t) : Reader.binaryOpHere s = (.ok none, t) := by
  have hop : BinaryOp.ofText? ";" = none := by decide
  simp [Reader.binaryOpHere, h.token, hop]

/-- No operator follows. -/
theorem climbFrom (h : ShowsSemicolon s t) (hbound : 0 < s.bound) :
    Reader.climbFrom parts e s = (.ok e, t) := by
  obtain ⟨bound, hbound⟩ := Nat.exists_eq_succ_of_ne_zero hbound.ne'
  simp [Reader.climbFrom, hbound, climb, h.binaryOpHere]

end ShowsSemicolon

/-- The word at hand stands alone in front of a semicolon, which has not been looked at. -/
structure Alone (s : ReadState) (word semicolon : Lexeme) : Prop where
  current : s.current = some word
  next : s.next = none
  read : ∀ c, (s.inContext c).readLexeme = semicolon
  mark : semicolon.token = .mark ";"
  faults : semicolon.faults = []

/-- The state with the semicolon at hand. -/
def ReadState.atSemicolon (s : ReadState) (word semicolon : Lexeme) : ReadState :=
  (s.behind word).shown semicolon

namespace Alone

theorem shows (h : Alone s word semicolon) : Shows s word s := .of_current h.current

theorem inContext (h : Alone s word semicolon) (c : Context) :
    Alone (s.inContext c) word semicolon :=
  ⟨h.current, h.next, h.read, h.mark, h.faults⟩

theorem isPlain (h : Alone s word semicolon) : semicolon.token.IsPlain := isPlain_of_mark h.mark

theorem behind (h : Alone s word semicolon) :
    ShowsSemicolon (s.behind word) (s.atSemicolon word semicolon) :=
  ⟨semicolon, .of_read rfl h.next (h.read s.context) h.faults h.isPlain, h.mark⟩

/-- Looking behind the word reads the semicolon in advance. -/
theorem peek (h : Alone s word semicolon) :
    Reader.peek s =
      (.ok semicolon, { s with next := some semicolon, rest := semicolon.after }) := by
  have hread : s.readLexeme = semicolon := h.read s.context
  simp only [Reader.peek, run_bind, h.shows.lexeme, run_get, h.next, Reader.readLexeme, hread,
    h.faults]
  show (_, { s with next := Reader.keep? semicolon, rest := semicolon.after }) = _
  rw [keep?_of_isPlain h.isPlain]

theorem behind_peek (h : Alone s word semicolon) :
    ShowsSemicolon ({ s with next := some semicolon, rest := semicolon.after }.behind word)
      (s.atSemicolon word semicolon) :=
  ⟨semicolon, .of_next rfl rfl h.isPlain, h.mark⟩

end Alone

/-! ### Names -/

/-- The rules for code outside of functions and classes that is not strict. -/
structure Context.IsLoose (c : Context) : Prop where
  strict : c.strict = false
  inAsync : c.inAsync = false
  inGenerator : c.inGenerator = false
  inStaticBlock : c.inStaticBlock = false
  inField : c.inField = false

theorem Context.IsLoose.reserves {c : Context} (h : c.IsLoose) (hname : name ∉ reservedWords) :
    c.reserves name = false := by
  simp [Surroundings.reserves, hname, h.strict, h.inAsync, h.inGenerator, h.inStaticBlock]

theorem readIdent_of_name (h : Shows s l s') (hl : l.token = .word name)
    (hname : name ∉ reservedWords) (hloose : s'.context.IsLoose) :
    readIdent true true s = (.ok (l.start, name), s'.behind l) := by
  have henum : name ≠ "enum" := fun heq ↦ hname (by rw [heq]; decide)
  simp [readIdent, h.demandToken hl, h.again.token, hl, h.again.advance, ReadState.behind, henum,
    hname, hloose.strict, hloose.inAsync, hloose.inStaticBlock, hloose.inField]

/-- A name in front of a semicolon is no head of an arrow function. -/
theorem readNameExpr_of_name (hcurrent : s.current = some word) (hword : word.token = .word name)
    (hend : ShowsSemicolon (s.behind word) t) (hname : name ∉ reservedWords)
    (hloose : s.context.IsLoose) (canBeArrow : Bool) :
    readNameExpr parts canBeArrow s = (.ok (.ident word.start { name }), t) := by
  obtain ⟨r, hbreak⟩ := hend.exists_lineBreak
  obtain ⟨r', hbreak'⟩ := hend.again.exists_lineBreak
  simp [readNameExpr, readIdent_of_name (.of_current hcurrent) hword hname hloose,
    hloose.inGenerator, hloose.inAsync, hbreak, hbreak', hend.again.atName, hend.again.isMark]

theorem readAsyncExpr?_of_alone (h : Alone s word semicolon) (canBeArrow : Bool) :
    readAsyncExpr? parts canBeArrow s =
      (.ok none, { s with next := some semicolon, rest := semicolon.after }) := by
  cases hbreak : semicolon.lineBreak <;>
    simp [readAsyncExpr?, h.peek, hbreak, h.mark, Token.isWord, Token.isMark]

/-- A word that is not reserved is the name that it spells. -/
theorem readWordExpr_of_name (h : Alone s word semicolon) (hword : word.token = .word name)
    (hname : name ∉ reservedWords) (hloose : s.context.IsLoose) (pos : Nat) (canBeArrow : Bool) :
    readWordExpr parts pos canBeArrow name s =
      (.ok (.ident word.start { name }), s.atSemicolon word semicolon) := by
  have hlisted : ∀ reserved ∈ reservedWords, name ≠ reserved := fun _ hmem heq ↦ hname (heq ▸ hmem)
  have hreserves := hloose.reserves hname
  unfold readWordExpr
  split
  case h_7 =>
    by_cases hasync : name = "async"
    · have hread : readNameExpr parts canBeArrow _ = _ :=
        readNameExpr_of_name (s := { s with next := some semicolon, rest := semicolon.after })
          h.current hword h.behind_peek hname hloose canBeArrow
      simp [hasync, readAsyncExpr?_of_alone h, hasync ▸ hreserves, hasync ▸ hread]
    · have hread : readNameExpr parts canBeArrow s = _ :=
        readNameExpr_of_name h.current hword h.behind hname hloose canBeArrow
      simp [hasync, hreserves, hread]
  all_goals exact absurd rfl (hlisted _ (by decide))

/-! ### Operands -/

/-- Words that start an expression with an operand of its own. -/
def operandWords : List String := ["typeof", "void", "delete", "await", "new", "super", "import"]

theorem updateOpHere_of_word (hcurrent : s.current = some word)
    (hword : word.token = .word name) : updateOpHere s = (.ok none, s) := by
  simp [updateOpHere, (Shows.of_current hcurrent).token, hword]

theorem unaryOpHere_of_word (hcurrent : s.current = some word) (hword : word.token = .word name)
    (hname : name ∉ ["typeof", "void", "delete"]) : unaryOpHere s = (.ok none, s) := by
  simp only [List.mem_cons, List.not_mem_nil, or_false, not_or] at hname
  simp [unaryOpHere, (Shows.of_current hcurrent).token, hword, UnaryOp.all, UnaryOp.isWord,
    UnaryOp.text, eq_comm, hname]

/-- What is read as an operand is also the expression of one operand, if nothing follows; and where
no operand is read, no expression is. -/
theorem readUnary_of_primary (hcurrent : s.current = some word) (hword : word.token = .word name)
    (hname : name ∉ operandWords)
    (hend : ∀ e u, readPrimary parts s = (.ok e, u) →
      ShowsSemicolon u t ∧ IsOperand e ∧ 0 < u.bound) :
    readUnary parts s =
      match readPrimary parts s with
      | (.ok e, _) => (.ok e, t)
      | (.error placed, u) => (.error placed, u) := by
  have hshows := Shows.of_current hcurrent
  have hhere := hshows.here (isPlain_of_word hword)
  have hcount := updateOpHere_of_word hcurrent hword
  have hop := unaryOpHere_of_word hcurrent hword fun hmem ↦ hname (by
    revert hmem
    simp only [operandWords, List.mem_cons]
    tauto)
  simp only [operandWords, List.mem_cons, List.not_mem_nil, or_false, not_or] at hname
  obtain ⟨-, -, -, hawait, hnew, hsuper, himport⟩ := hname
  rcases hprimary : readPrimary parts s with ⟨placed | e, u⟩
  · simp [readUnary, hhere, hcount, hop, hshows.eatWord, hword, Token.isWord, hawait,
      readLeftHandSide, readCallee, hnew, hsuper, himport, hprimary]
  · obtain ⟨hsemicolon, he, hbound⟩ := hend e u hprimary
    have hcallee : readCallee parts s = (.ok e, t) := by
      simp [readCallee, hhere, hshows.eatWord, hword, Token.isWord, hnew, hsuper, himport, hprimary,
        he.not_arrow, hsemicolon.readAccess he hbound]
    have hleft : readLeftHandSide parts s = (.ok e, t) := by
      simp [readLeftHandSide, hhere, hshows.eatWord, hword, Token.isWord, hsuper, himport, hcallee,
        he.not_arrow, hsemicolon.again.isMark]
    obtain ⟨r, hbreak⟩ := hsemicolon.again.exists_lineBreak
    cases r <;>
      simp [readUnary, hhere, hcount, hop, hshows.eatWord, hword, Token.isWord, hawait, hleft,
        he.not_arrow, hbreak, hsemicolon.again.updateOpHere]

/-- In front of a semicolon, `await` has no operand. -/
theorem readUnary_of_await (h : Alone s word semicolon) (hword : word.token = .word "await")
    (hloose : s.context.IsLoose) :
    readUnary parts s =
      (.ok (.ident word.start { name := "await" }), s.atSemicolon word semicolon) := by
  have hcount := updateOpHere_of_word h.current hword
  have hop := unaryOpHere_of_word h.current hword (by decide)
  have hasync : (s.behind word).context.inAsync = false := hloose.inAsync
  simp [readUnary, h.shows.here (isPlain_of_word hword), hcount, hop, h.shows.eatWord, hword,
    Token.isWord, readAwaitRest, h.behind.isMark, h.behind.again.isMark,
    h.behind.again.atStatementEnd, hasync]

/-! ### Values -/

/-- The value of a word that stands alone, if it has one. -/
def wordValue (pos : Nat) (name : String) : Option Expr :=
  match name with
  | "this" => some (.this pos)
  | "null" => some (.lit pos .null)
  | "true" => some (.lit pos (.bool true))
  | "false" => some (.lit pos (.bool false))
  | _ => if reservedWords.contains name then none else some (.ident pos { name })

theorem wordValue_of_not_mem (hname : name ∉ reservedWords) (pos : Nat) :
    wordValue pos name = some (.ident pos { name }) := by
  have hlisted : ∀ reserved ∈ reservedWords, name ≠ reserved := fun _ hmem heq ↦ hname (heq ▸ hmem)
  unfold wordValue
  split
  case h_5 => exact if_neg (by simpa using hname)
  all_goals exact absurd rfl (hlisted _ (by decide))

/-- A reserved word has no value, apart from four. -/
theorem wordValue_eq_none_iff {pos : Nat} :
    wordValue pos name = none ↔
      name ∈ reservedWords ∧ name ∉ ["this", "null", "true", "false"] := by
  unfold wordValue
  split
  case h_5 hthis hnull htrue hfalse =>
    have hnot : name ∉ ["this", "null", "true", "false"] := by
      simp only [List.mem_cons, List.not_mem_nil, or_false, not_or]
      exact ⟨hthis, hnull, htrue, hfalse⟩
    rw [and_iff_left hnot]
    simp
  all_goals simp

theorem readPrimary_of_word (hcurrent : s.current = some word) (hword : word.token = .word name) :
    readPrimary parts s =
      readWordExpr parts word.start (decide (s.arrowStart = some word.start)) name s := by
  have hshows := Shows.of_current hcurrent
  simp [readPrimary, hshows.here (isPlain_of_word hword), hshows.token, hword]

theorem isOperand_of_value {pos : Nat} (h : wordValue pos name = some e) : IsOperand e := by
  unfold wordValue at h
  split at h
  case h_5 =>
    split at h
    · cases h
    · cases h
      exact ⟨rfl, rfl, rfl⟩
  all_goals
    cases h
    exact ⟨rfl, rfl, rfl⟩

/-- Behind a word that is read as a value, the semicolon is next. -/
theorem exists_readPrimary_of_value (h : Alone s word semicolon) (hword : word.token = .word name)
    (hloose : s.context.IsLoose) (hvalue : wordValue word.start name = some e) :
    ∃ u, readPrimary parts s = (.ok e, u) ∧ u.bound = s.bound ∧
      ShowsSemicolon u (s.atSemicolon word semicolon) := by
  rw [readPrimary_of_word h.current hword]
  unfold wordValue at hvalue
  split at hvalue
  case h_5 =>
    split at hvalue
    · cases hvalue
    · next hname =>
      cases hvalue
      exact ⟨_, readWordExpr_of_name h hword (by simpa using hname) hloose _ _, rfl,
        h.behind.again⟩
  all_goals
    cases hvalue
    refine ⟨s.behind word, ?_, rfl, h.behind⟩
    simp [readWordExpr, readLiteral, h.shows.advance]

theorem readUnary_of_value (h : Alone s word semicolon) (hword : word.token = .word name)
    (hloose : s.context.IsLoose) (hvalue : wordValue word.start name = some e)
    (hbound : 0 < s.bound) :
    readUnary parts s = (.ok e, s.atSemicolon word semicolon) := by
  by_cases hawait : name = "await"
  · subst hawait
    obtain rfl : .ident word.start { name := "await" } = e := Option.some.inj hvalue
    exact readUnary_of_await h hword hloose
  · have hname : name ∉ operandWords := by
      intro hmem
      simp only [operandWords, List.mem_cons, List.not_mem_nil, or_false, hawait, false_or] at hmem
      rcases hmem with rfl | rfl | rfl | rfl | rfl | rfl <;> cases hvalue
    obtain ⟨u, hprimary, hsame, hend⟩ := exists_readPrimary_of_value h hword hloose hvalue
    rw [readUnary_of_primary h.current hword hname, hprimary]
    intro e' u' hprimary'
    cases hprimary.symm.trans hprimary'
    exact ⟨hend, isOperand_of_value hvalue, hsame ▸ hbound⟩

/-! ### Assignments -/

/-- The place that readers of an assignment keep in mind for an arrow function. -/
def ReadState.atOperand (s : ReadState) (l : Lexeme) : ReadState :=
  { s with arrowStart := if maySignalArrow l.token then some l.start else none }

theorem Upcoming.alone_atOperand {later : List Lexeme}
    (h : Upcoming s (word :: semicolon :: later)) (hmark : semicolon.token = .mark ";") :
    Alone ((s.shown word).atOperand word) word semicolon := by
  obtain ⟨-, hlater⟩ := h.step
  cases hlater with
  | cons _ _ hread hfaults _ _ => exact ⟨rfl, rfl, hread, hmark, hfaults⟩

/-- What is read with operators of two operands is all of an assignment, if nothing follows. -/
theorem readAssignment_of_binary (h : Shows s word s') (hword : word.token = .word name)
    (hgenerator : s'.context.inGenerator = false)
    (hend : ∀ e t, readBinary parts (s'.atOperand word) = (.ok e, t) →
      isArrow e = false ∧ ShowsSemicolon t t) :
    readAssignment parts s = readBinary parts (s'.atOperand word) := by
  have hhere := h.again.here (isPlain_of_word hword)
  rcases hbinary : readBinary parts (s'.atOperand word) with ⟨placed | e, t⟩
  · have hconditional : readConditional parts (s'.atOperand word) = (.error placed, t) := by
      simp [readConditional, hbinary]
    rw [ReadState.atOperand] at hconditional
    simp [readAssignment, h.demandToken hword, hhere, hgenerator, h.again.isWord, h.again.token,
      hconditional]
  · obtain ⟨he, hsemicolon⟩ := hend e t hbinary
    have hconditional : readConditional parts (s'.atOperand word) = (.ok e, t) := by
      simp [readConditional, hbinary, he, hsemicolon.eatMark]
    rw [ReadState.atOperand] at hconditional
    cases hnever : isNeverTarget e <;>
      simp [readAssignment, h.demandToken hword, hhere, hgenerator, h.again.isWord, h.again.token,
        hconditional, he, hnever, hsemicolon.assignOpHere]

/-- A word that has a value is read as that value, and the semicolon is at hand. -/
theorem readAssignment_of_value {later : List Lexeme} (h : Upcoming s (word :: semicolon :: later))
    (hword : word.token = .word name) (hmark : semicolon.token = .mark ";")
    (hloose : s.context.IsLoose) (hvalue : wordValue word.start name = some e)
    (hbound : 0 < s.bound) :
    readAssignment parts s = (.ok e, ((s.atOperand word).past word).shown semicolon) := by
  have hoperand := h.alone_atOperand hmark
  have he := isOperand_of_value hvalue
  have hunary : readUnary parts ((s.shown word).atOperand word) = (.ok e, _) :=
    readUnary_of_value hoperand hword hloose hvalue hbound
  have hbinary : readBinary parts ((s.shown word).atOperand word) =
      (.ok e, ((s.shown word).atOperand word).atSemicolon word semicolon) := by
    simp [readBinary, readFirstOperand, hunary, he.not_arrow,
      hoperand.behind.again.climbFrom hbound]
  rw [readAssignment_of_binary h.step.1 hword hloose.inGenerator, hbinary]
  · rfl
  · intro e' t hread
    cases hbinary.symm.trans hread
    exact ⟨he.not_arrow, hoperand.behind.again⟩

end BrowserScript.Script
