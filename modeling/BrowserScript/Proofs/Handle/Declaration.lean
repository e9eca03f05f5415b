import Mathlib
import BrowserScript.Proofs.Handle.Operand
import BrowserScript.Proofs.Handle.Spelling
import BrowserScript.Unwrapping

/-!
The declaration in front of an unwrapped body, read as a statement. Its text is five tokens, whatever
the context and whatever stands behind it (`upcoming_scopeTokens`). The statement that is read of
these tokens has no say in its value: that is what is read as an assignment behind the equals sign,
provided that it ends in front of the semicolon (`readDeclaration_eq`).
-/

set_option autoImplicit false
set_option relaxedAutoImplicit false

namespace BrowserScript.Script

open Reader

variable {parts : Parts} {s t : ReadState} {l : Lexeme} {handle name : String}

/-! ### Tokens -/

/-- The tokens of a declaration of `scope`. -/
structure ScopeTokens (handle : String) where
  var : Lexeme
  scope : Lexeme
  equals : Lexeme
  value : Lexeme
  semicolon : Lexeme
  var_token : var.token = .word "var"
  scope_token : scope.token = .word "scope"
  equals_token : equals.token = .mark "="
  value_token : value.token = .word handle
  semicolon_token : semicolon.token = .mark ";"

def ScopeTokens.list (tokens : ScopeTokens handle) : List Lexeme :=
  [tokens.var, tokens.scope, tokens.equals, tokens.value, tokens.semicolon]

/-- The text of the declaration, token by token. -/
theorem toList_scopeDeclaration (handle : String) (text : List Char) :
    (scopeDeclaration handle).toList ++ text = "var".toList ++ ' ' :: ("scope".toList ++
      ' ' :: '=' :: ' ' :: (handle.toList ++ ';' :: text)) := by
  simp [scopeDeclaration]

/-- The tokens of the declaration, where it starts at this offset. -/
def scopeTokens (handle : String) (pos : Nat) (text : List Char) : ScopeTokens handle where
  var := Token.placed (.word "var") ⟨pos, (scopeDeclaration handle).toList ++ text⟩
    ⟨pos + 3, ' ' :: ("scope".toList ++ ' ' :: '=' :: ' ' :: (handle.toList ++ ';' :: text))⟩
    (decide (pos = 0))
  scope := Token.placed (.word "scope")
    ⟨pos + 4, "scope".toList ++ ' ' :: '=' :: ' ' :: (handle.toList ++ ';' :: text)⟩
    ⟨pos + 9, ' ' :: '=' :: ' ' :: (handle.toList ++ ';' :: text)⟩ false
  equals := Token.placed (.mark "=") ⟨pos + 10, '=' :: ' ' :: (handle.toList ++ ';' :: text)⟩
    ⟨pos + 11, ' ' :: (handle.toList ++ ';' :: text)⟩ false
  value := Token.placed (.word handle) ⟨pos + 12, handle.toList ++ ';' :: text⟩
    ⟨pos + 12 + handle.length, ';' :: text⟩ false
  semicolon := Token.placed (.mark ";") ⟨pos + 12 + handle.length, ';' :: text⟩
    ⟨pos + 12 + handle.length + 1, text⟩ false
  var_token := rfl
  scope_token := rfl
  equals_token := rfl
  value_token := rfl
  semicolon_token := rfl

theorem readLexeme_inContext (hopen : s.openRegex = none) (c : Context) :
    (s.inContext c).readLexeme = nextLexeme c.toSurroundings (decide (s.rest.pos = 0)) s.rest := by
  simp only [ReadState.readLexeme, ReadState.inContext, hopen]

/-- Behind a token it is not the first one that is read. -/
theorem readLexeme_past (hopen : s.openRegex = none) (hpos : 0 < l.after.pos) (c : Context) :
    ((s.past l).inContext c).readLexeme = nextLexeme c.toSurroundings false l.after := by
  have hfirst : decide (l.after.pos = 0) = false := by simpa using hpos.ne'
  rw [← hfirst]
  exact readLexeme_inContext (s := s.past l) hopen c

/-- The text of the declaration is read as its tokens. -/
theorem upcoming_scopeTokens {pos : Nat} {text : List Char} (hhandle : Text.isIdentifier handle)
    (hcurrent : s.current = none) (hnext : s.next = none) (hopen : s.openRegex = none)
    (hrest : s.rest = ⟨pos, (scopeDeclaration handle).toList ++ text⟩) :
    Upcoming s (scopeTokens handle pos text).list := by
  have hword : Text.isIdentifier "var" ∧ Text.isIdentifier "scope" := by decide +kernel
  have hspace : isNameFollow ' ' = false := by decide
  have hsemicolon : isNameFollow ';' = false := by decide
  refine .cons hcurrent hnext (fun c ↦ ?_) rfl (isPlain_of_word rfl)
    (.cons rfl rfl (fun c ↦ ?_) rfl (isPlain_of_word rfl)
      (.cons rfl rfl (fun c ↦ ?_) rfl (isPlain_of_mark rfl)
        (.cons rfl rfl (fun c ↦ ?_) rfl (isPlain_of_word rfl)
          (.cons rfl rfl (fun c ↦ ?_) rfl (isPlain_of_mark rfl) (.nil _)))))
  · rw [readLexeme_inContext hopen c, hrest]
    simp only [scopeTokens, toList_scopeDeclaration]
    exact nextLexeme_word hword.1 hspace (by decide) _ _ _ _
  · rw [readLexeme_past hopen (Nat.succ_pos _)]
    exact (nextLexeme_space _ _ _).trans (nextLexeme_word hword.2 hspace (by decide) _ _ _ _)
  · rw [readLexeme_past (s := s.past _) hopen (Nat.succ_pos _)]
    exact (nextLexeme_space _ _ _).trans (nextLexeme_equals _ _ _)
  · rw [readLexeme_past (s := (s.past _).past _) hopen (Nat.succ_pos _)]
    exact (nextLexeme_space _ _ _).trans (nextLexeme_word hhandle hsemicolon (by decide) _ _ _ _)
  · rw [readLexeme_past (s := ((s.past _).past _).past _) hopen]
    · exact nextLexeme_semicolon _ _ _
    · show 0 < pos + 12 + handle.length
      omega

/-! ### Statements -/

theorem readPattern_of_name (h : Shows s l t) (hl : l.token = .word name)
    (hname : name ∉ reservedWords) (hloose : t.context.IsLoose) :
    readPattern parts false s = (.ok (.ident l.start { name }), t.behind l) := by
  have hbinding : readBindingName false t = (.ok (l.start, { name }), t.behind l) := by
    simp [readBindingName, h.again.isWord, readIdent_of_name h.again hl hname hloose,
      ReadState.behind, hloose.strict, hloose.inAsync, hloose.inGenerator]
  simp [readPattern, h.demandToken hl, h.again.token, hl, hbinding]

/-- The declarator with this value. -/
def ScopeTokens.declarator (tokens : ScopeTokens handle) (value : Expr) : Declarator :=
  .mk tokens.scope.start (.ident tokens.scope.start { name := "scope" }) (some value)

/-- The declaration with this value. -/
def ScopeTokens.declaration (tokens : ScopeTokens handle) (value : Expr) : Stmt :=
  .declaration tokens.var.start .var [tokens.declarator value]

/-- In front of the value. -/
def ReadState.atValue (s : ReadState) (tokens : ScopeTokens handle) : ReadState :=
  (((s.past tokens.var).past tokens.scope).past tokens.equals)

variable {tokens : ScopeTokens handle} {d : Nat}

/-- The declarator is its name, and what is read as an assignment behind the equals sign. -/
theorem readDeclarator_eq (h : Upcoming (s.past tokens.var) tokens.list.tail)
    (hloose : s.context.IsLoose) :
    readDeclarator (Parts.below (d + 1)) .var false ((s.past tokens.var).shown tokens.scope) =
      (tokens.declarator <$> readAssignment (Parts.below d)) (s.atValue tokens) := by
  obtain ⟨hscope, hlater⟩ := h.step
  obtain ⟨hequals, -⟩ := hlater.step
  have htarget : (Parts.below (d + 1)).pattern false ((s.past tokens.var).shown tokens.scope) =
      (.ok (.ident tokens.scope.start { name := "scope" }),
        (s.past tokens.var).past tokens.scope) :=
    readPattern_of_name hscope.again tokens.scope_token (by decide) hloose
  have hvalue : (Parts.below (d + 1)).assignment
      (((s.past tokens.var).past tokens.scope).past tokens.equals) =
        readAssignment (Parts.below d) (s.atValue tokens) := rfl
  simp [readDeclarator, hscope.again.here (isPlain_of_word tokens.scope_token), htarget,
    readDeclaratorValue, hequals.isWord, hequals.again.isWord, hequals.again.eatMark,
    tokens.equals_token, Token.isMark, hvalue]
  rcases readAssignment (Parts.below d) (s.atValue tokens) with ⟨_ | e, u⟩ <;> rfl

/-- Where the value ends in front of the semicolon, its declarator is the only one. -/
theorem readDeclarators_eq (h : Upcoming (s.past tokens.var) tokens.list.tail)
    (hloose : s.context.IsLoose)
    (hend : ∀ e u, readAssignment (Parts.below d) (s.atValue tokens) = (.ok e, u) →
      u.current = some tokens.semicolon) (wordEnd : Nat) {bound : Nat} (hbound : 0 < bound) :
    readDeclarators (Parts.below (d + 1)) .var false wordEnd bound (s.past tokens.var) =
      ((fun e ↦ [tokens.declarator e]) <$> readAssignment (Parts.below d)) (s.atValue tokens) := by
  obtain ⟨bound, rfl⟩ := Nat.exists_eq_succ_of_ne_zero hbound.ne'
  obtain ⟨hscope, -⟩ := h.step
  simp [readDeclarators, hscope.isMark, hscope.again.isEof (isPlain_of_word tokens.scope_token), tokens.scope_token,
    Token.isMark, readDeclarator_eq h hloose]
  rcases hvalue : readAssignment (Parts.below d) (s.atValue tokens) with ⟨_ | e, u⟩
  · rfl
  · have hcomma := (Shows.of_current (hend e u hvalue)).eatMark ","
    simp [hcomma, tokens.semicolon_token, Token.isMark]

/-- In the value of a declaration, `in` is an operator. -/
def ReadState.inDeclaration (s : ReadState) : ReadState :=
  s.inContext { s.context with allowIn := true }

/-- The declaration from its first word on, with what is read as its value. -/
theorem readDeclaration_eq (h : Upcoming s tokens.list) (hloose : s.context.IsLoose)
    (hbound : 0 < s.bound)
    (hend : ∀ e u, readAssignment (Parts.below d) (s.inDeclaration.atValue tokens) = (.ok e, u) →
      u.current = some tokens.semicolon) :
    readDeclaration (Parts.below (d + 1)) false (s.shown tokens.var) =
      match readAssignment (Parts.below d) (s.inDeclaration.atValue tokens) with
      | (.ok e, u) =>
        (.ok (tokens.declaration e), (u.inContext s.context).behind tokens.semicolon)
      | (.error fault, u) => (.error fault, u.inContext s.context) := by
  obtain ⟨hvar, hlater⟩ := h.step
  have hinside : Upcoming (s.inDeclaration.past tokens.var) tokens.list.tail := hlater.inContext _
  have hloose' : s.inDeclaration.context.IsLoose :=
    ⟨hloose.strict, hloose.inAsync, hloose.inGenerator, hloose.inStaticBlock, hloose.inField⟩
  have hsame : 0 < (s.past tokens.var).bound := hbound
  have hwithin : within (fun c ↦ { c with allowIn := true }) (readDeclarators (Parts.below (d + 1))
      .var false (s.past tokens.var).previousEnd (s.past tokens.var).bound) (s.past tokens.var) =
        match readAssignment (Parts.below d) (s.inDeclaration.atValue tokens) with
        | (.ok e, u) => (.ok [tokens.declarator e], u.inContext s.context)
        | (.error fault, u) => (.error fault, u.inContext s.context) := by
    rw [run_within]
    show (match readDeclarators _ _ _ _ _ (s.inDeclaration.past tokens.var) with
      | (result, s') => (result, s'.inContext s.context)) = _
    rw [readDeclarators_eq hinside hloose' hend _ hsame, run_map]
    rcases readAssignment (Parts.below d) (s.inDeclaration.atValue tokens) with ⟨_ | e, u⟩ <;> rfl
  simp [readDeclaration, hvar.again.here (isPlain_of_word tokens.var_token), hvar.again.token,
    tokens.var_token, varKindOf, hvar.again.advance, hwithin]
  rcases hvalue : readAssignment (Parts.below d) (s.inDeclaration.atValue tokens) with ⟨_ | e, u⟩
  · rfl
  · have hcurrent : (u.inContext s.context).current = some tokens.semicolon := hend e u hvalue
    have hsemicolon := (Shows.of_current hcurrent).eatMark ";"
    simp [eatSemicolon, hsemicolon, tokens.semicolon_token, Token.isMark]
    rfl

/-- A statement of a script that starts with the word `var`. -/
theorem readStatement_eq (h : Upcoming s tokens.list) :
    readStatement parts true (s.shown tokens.var) =
      readDeclaration parts false (s.shown tokens.var) := by
  have hvar := h.step.1.again
  have hhere := hvar.here (isPlain_of_word tokens.var_token)
  simp [readStatement, hvar.demandToken tokens.var_token, hhere, hvar.token, tokens.var_token,
    readWordStatement, readDeclarationStatement]

theorem readBodyStatement_eq (h : Upcoming s tokens.list) :
    readBodyStatement (Parts.below (d + 1)) isEof s =
      ((fun statement ↦ some (statement, false, tokens.var.start)) <$>
        readDeclaration (Parts.below d) false) (s.shown tokens.var) := by
  obtain ⟨hvar, -⟩ := h.step
  have hstart : tokenStart (s.shown tokens.var) = (.ok tokens.var.start, s.shown tokens.var) := rfl
  have hstatement : (Parts.below (d + 1)).statement true (s.shown tokens.var) =
    readDeclaration (Parts.below d) false (s.shown tokens.var) := readStatement_eq h
  simp [readBodyStatement, hvar.isEof (isPlain_of_word tokens.var_token), hvar.again.token, hstart, hstatement,
    tokens.var_token, isStrictDirective]

end BrowserScript.Script
