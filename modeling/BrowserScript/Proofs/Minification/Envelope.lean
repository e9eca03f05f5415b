import BrowserScript.Minification
import BrowserScript.Proofs.Baseline.Acceptance

/-!
What minification makes of a script: a banner, and the text of one statement. The statement calls a
function whose body is the list that comes out of simplification and renaming, with nothing lost or
changed (`Encloses`). The walk that puts the statements there leaves every tree as it is once it has
put them somewhere (`visitor_stmts_none`), so it does so once. In the text, the printed statements
stand between the braces as they are (`printScript_envelope`): a brace needs no blank on either side.
-/

set_option autoImplicit false
set_option relaxedAutoImplicit false

namespace BrowserScript

open Script

/-! ### A walk that has put its statements somewhere -/

namespace Envelope

/-- Where no statements are left, this leaves things as they are. -/
def Quiet {α : Type} (f : α → Filling α) : Prop := ∀ a, f a none = (a, none)

theorem Quiet.pure {α : Type} : Quiet (Pure.pure : α → Filling α) := fun _ ↦ rfl

theorem Quiet.mapM {α : Type} {f : α → Filling α} (hf : Quiet f) : Quiet (List.mapM f) := by
  intro as
  induction as with
  | nil => rfl
  | cons a as ih =>
    rw [List.mapM_cons]
    simp only [bind, StateT.bind, hf a, ih]
    rfl

theorem Quiet.visitOption {α : Type} {f : α → Filling α} (hf : Quiet f) :
    Quiet (Script.visitOption f) := by
  rintro (_ | a)
  · rfl
  · simp only [Script.visitOption, bind, StateT.bind, hf a]
    rfl

structure QuietVisitor (v : Visitor Filling) : Prop where
  expr : Quiet v.expr
  pattern : Quiet v.pattern
  function : Quiet v.function
  stmt : Quiet v.stmt
  stmts : Quiet v.stmts
  ident : Quiet v.ident
  shorthand : ∀ pos id, v.shorthand pos id none = (.shorthand pos id, none)
  shortTarget : ∀ pos id value, v.shortTarget pos id value none = (.assign pos id value, none)

namespace QuietVisitor

variable {v : Visitor Filling}

theorem key (hv : QuietVisitor v) : Quiet (Key.mapParts v) := by
  rintro (_ | _ | _ | _ | value | _)
  case computed =>
    simp only [Key.mapParts, bind, StateT.bind, hv.expr value]
    rfl
  all_goals rfl

theorem property (hv : QuietVisitor v) : Quiet (Property.mapParts v) := by
  intro p
  cases p
  case shorthand pos id => exact hv.shorthand pos id
  all_goals
    simp only [Property.mapParts, bind, StateT.bind, hv.key _, hv.expr _, hv.ident _, hv.function _]
    rfl

theorem member (hv : QuietVisitor v) : Quiet (Member.mapParts v) := by
  intro m
  cases m
  case empty => rfl
  all_goals
    simp only [Member.mapParts, bind, StateT.bind, hv.key _, hv.function _, hv.expr.visitOption _,
      hv.stmts _]
    rfl

theorem patternProperty (hv : QuietVisitor v) : Quiet (PatternProperty.mapParts v) := by
  intro p
  cases p
  case assign pos id value =>
    simp only [PatternProperty.mapParts, bind, StateT.bind, hv.expr.visitOption value]
    exact hv.shortTarget pos id value
  all_goals
    simp only [PatternProperty.mapParts, bind, StateT.bind, hv.key _, hv.pattern _]
    rfl

theorem patternParts (hv : QuietVisitor v) : Quiet (Pattern.mapParts v) := by
  intro p
  cases p
  case hole | invalid => rfl
  all_goals
    simp only [Pattern.mapParts, bind, StateT.bind, hv.pattern.mapM _, hv.patternProperty.mapM _,
      hv.pattern _, hv.expr _, hv.ident _]
    rfl

theorem declarator (hv : QuietVisitor v) : Quiet (Declarator.mapParts v) := by
  rintro ⟨pos, target, value⟩
  simp only [Declarator.mapParts, bind, StateT.bind, hv.pattern target, hv.expr.visitOption value]
  rfl

theorem switchCase (hv : QuietVisitor v) : Quiet (Case.mapParts v) := by
  rintro ⟨test, body⟩
  simp only [Case.mapParts, bind, StateT.bind, hv.expr.visitOption test, hv.stmts body]
  rfl

theorem arrowBody (hv : QuietVisitor v) (isExpr : Bool) : Quiet (mapArrowBody v isExpr) := by
  intro body
  unfold mapArrowBody
  split
  · next value =>
    simp only [bind, StateT.bind, hv.expr value]
    rfl
  · exact hv.stmts body

theorem exprParts (hv : QuietVisitor v) : Quiet (Expr.mapParts v) := by
  intro e
  cases e
  all_goals
    simp only [Expr.mapParts, bind, StateT.bind, hv.expr _, hv.expr.mapM _, hv.expr.visitOption _,
      hv.pattern _, hv.pattern.mapM _, hv.ident _, hv.ident.visitOption _, hv.function _,
      hv.property.mapM _, hv.member.mapM _, hv.arrowBody _ _]
    rfl

theorem stmtParts (hv : QuietVisitor v) : Quiet (Stmt.mapParts v) := by
  intro s
  cases s
  all_goals
    simp only [Stmt.mapParts, bind, StateT.bind, hv.expr _, hv.expr.visitOption _, hv.pattern _,
      hv.pattern.visitOption _, hv.ident _, hv.function _, hv.stmt _, hv.stmt.visitOption _,
      hv.stmts _, hv.member.mapM _, hv.declarator.mapM _, hv.switchCase.mapM _]
    rfl

end QuietVisitor

theorem quiet_fillFunction : Quiet fillFunction := fun ⟨_, _, _, _, _⟩ ↦ rfl

theorem quietVisitor (fuel : Nat) : QuietVisitor (visitor fuel) := by
  induction fuel with
  | zero =>
    exact ⟨.pure, .pure, .pure, .pure, .pure, .pure, fun _ _ ↦ rfl, fun _ _ _ ↦ rfl⟩
  | succ fuel ih =>
    exact ⟨ih.exprParts, ih.patternParts, quiet_fillFunction, ih.stmtParts, ih.stmtParts.mapM,
      .pure, fun _ _ ↦ rfl, fun _ _ _ ↦ rfl⟩

/-- The walk leaves a script as it is once it has put its statements somewhere. -/
theorem visitor_stmts_none (fuel : Nat) (script : List Stmt) :
    ((visitor fuel).stmts script).run none = (script, none) :=
  (quietVisitor fuel).stmts script

end Envelope

/-! ### Pieces next to plain marks -/

namespace Script.Piece

/-- Marks that are read as they are, whatever stands next to them. -/
def plainMarks : List String := ["(", ")", "\x7b", "\x7d", ",", ";"]

variable {mark : String}

/-- None of them is, or opens with, a mark that the piece next to it matters to. -/
structure IsPlain (mark : String) : Prop where
  ne : ∀ other ∈ ["+", "++", "-", "--", "/", "!", "."], mark ≠ other
  opensNoTag : mark.toList.head? ≠ some '<'
  closesNoComment : mark.toList.head? ≠ some '>'

theorem isPlain_of_mem (h : mark ∈ plainMarks) : IsPlain mark := by
  have hall : ∀ mark ∈ plainMarks,
      (∀ other ∈ ["+", "++", "-", "--", "/", "!", "."], mark ≠ other) ∧
        mark.toList.head? ≠ some '<' ∧ mark.toList.head? ≠ some '>' := by decide
  obtain ⟨hne, htag, hcomment⟩ := hall mark h
  exact ⟨hne, htag, hcomment⟩

theorem separator_of_left (h : mark ∈ plainMarks) (right : Piece) (next : Option Piece) :
    separator (.mark mark) right next = "" := by
  have hplain := isPlain_of_mem h
  have hplus := hplain.ne "+" (by decide)
  have hminus := hplain.ne "-" (by decide)
  have hdashes := hplain.ne "--" (by decide)
  have hslash := hplain.ne "/" (by decide)
  have hblank : needsBlank (.mark mark) right next = false := by
    cases right with
    | mark => simp only [needsBlank, hplus, hminus, hdashes, hplain.opensNoTag, decide_false,
        Bool.false_and, Bool.or_self]
    | number => simp only [needsBlank, hminus, decide_false, Bool.false_and]
    | regex => exact decide_eq_false hslash
    | word | quoted => rfl
  rw [separator, hblank, if_neg Bool.false_ne_true]
  exact nofun

theorem separator_of_right (h : mark ∈ plainMarks) (left : Piece) (next : Option Piece) :
    separator left (.mark mark) next = "" := by
  have hplain := isPlain_of_mem h
  have hplus := hplain.ne "+" (by decide)
  have hpluses := hplain.ne "++" (by decide)
  have hminus := hplain.ne "-" (by decide)
  have hdashes := hplain.ne "--" (by decide)
  have hbang := hplain.ne "!" (by decide)
  have hblank : needsBlank left (.mark mark) next = false := by
    cases left with
    | mark => simp only [needsBlank, hplus, hpluses, hminus, hdashes, hbang,
        hplain.closesNoComment, decide_false, Bool.or_self, Bool.and_false, Bool.false_and]
    | word | number | regex | quoted => rfl
  rw [separator, hblank, if_neg Bool.false_ne_true]
  intro digits _ hpoint
  exact hplain.ne "." (by decide) (Piece.mark.inj hpoint)

/-- A plain mark is not what makes a comment of the pieces in front of it. -/
theorem separator_of_next (h : mark ∈ plainMarks) (left right : Piece) :
    separator left right (some (.mark mark)) = separator left right none := by
  have hdashes := (isPlain_of_mem h).ne "--" (by decide)
  have hblank : needsBlank left right (some (.mark mark)) = needsBlank left right none := by
    cases left <;> cases right <;>
      simp only [needsBlank, Option.some.injEq, Piece.mark.injEq, hdashes, decide_false, reduceCtorEq]
  unfold separator
  rw [hblank]

theorem join_plainMark (h : mark ∈ plainMarks) (pieces : List Piece) :
    join (.mark mark :: pieces) = mark ++ join pieces := by
  cases pieces with
  | nil => simp [join, text]
  | cons piece pieces => rw [join, separator_of_left h, String.empty_append, text]

theorem join_append_plainMark (h : mark ∈ plainMarks) (front back : List Piece) :
    join (front ++ .mark mark :: back) = join front ++ join (.mark mark :: back) := by
  induction front with
  | nil => simp [join]
  | cons left front ih =>
    cases front with
    | nil =>
      simp only [List.cons_append, List.nil_append, join, separator_of_right h, String.empty_append]
    | cons right front =>
      have hseparator : separator left right (front ++ .mark mark :: back).head? =
          separator left right front.head? := by
        cases front with
        | nil => exact separator_of_next h left right
        | cons => rfl
      simp only [List.cons_append, join, hseparator, String.append_assoc]
      rw [← List.cons_append, ih]

end Script.Piece

/-- A script that is one statement: it calls, without arguments, a function that has neither a name
nor parameters and is no other kind of function, and the body of that function is the given list. -/
inductive Encloses (body : List Stmt) : List Stmt → Prop
  | call (pos callPos parenPos expressionPos functionPos : Nat) :
    Encloses body
      [.expr pos (.call callPos (.paren parenPos (.function expressionPos none
        (.mk functionPos false false [] body))) [])]

theorem envelope_eq (body : List Stmt) : Envelope.enclose body = .ok (envelope body) := by
  simp [envelope, Envelope.enclose_eq, Except.toOption]

theorem encloses_envelope (body : List Stmt) : Encloses body (envelope body) := by
  have henvelope := (envelope_eq body).symm.trans (Envelope.enclose_eq body)
  rw [Except.ok.inj henvelope]
  exact .call 0 0 0 1 1

/-- The text of the statements stands in the braces as it is. -/
theorem printScript_envelope {body script : List Stmt} (h : Encloses body script) :
    printScript script = "(function()\x7b" ++ printScript body ++ "\x7d)();" := by
  have hopen : "(" ∈ Piece.plainMarks := by decide
  have hclose : ")" ∈ Piece.plainMarks := by decide
  have hopenBrace : "\x7b" ∈ Piece.plainMarks := by decide
  have hcloseBrace : "\x7d" ∈ Piece.plainMarks := by decide
  have hpieces : stmtsPieces script =
      .mark "(" :: ([.word "function"] ++ .mark "(" :: .mark ")" :: .mark "\x7b" ::
        (stmtsPieces body ++ .mark "\x7d" :: [.mark ")", .mark "(", .mark ")", .mark ";"])) := by
    cases h with
    | call =>
      simp only [stmtsPieces, Stmt.pieces, Expr.pieces, Function.pieces, functionHead,
        Function.isAsync, Function.isGenerator, patternPieces, itemPieces, commaSeparated, inParens,
        inBraces, Place.first, decide_true, if_true, Bool.false_eq_true, if_false, Option.map_none,
        Option.toList_none, List.nil_append, List.append_nil, List.cons_append, List.append_assoc]
  have hword : Piece.join [.word "function"] = "function" := rfl
  have hend : Piece.join [.mark "\x7d", .mark ")", .mark "(", .mark ")", .mark ";"] =
      "\x7d)();" := by decide
  rw [printScript, hpieces, Piece.join_plainMark hopen, Piece.join_append_plainMark hopen,
    Piece.join_plainMark hopen, Piece.join_plainMark hclose, Piece.join_plainMark hopenBrace,
    Piece.join_append_plainMark hcloseBrace, hword, hend, printScript]
  simp only [← String.append_assoc]
  rfl

/-! ### The product -/

/-- Minification of a text fails for every descriptor with the same cause, or it makes a banner and,
on the lines below it, the same script for every descriptor: the optimized statements, in their order
and with nothing else, as the body of a function that is called at once. They can always be put
there, and the walk that does so changes nothing more. -/
theorem minify_encloses (text : String) :
    (∀ body, ∃ script, Envelope.enclose body = .ok script ∧ Encloses body script) ∧
    (∀ fuel script, ((Envelope.visitor fuel).stmts script).run none = (script, none)) ∧
    ((∃ cause, ∀ d, (minify text d).outcome = .error cause) ∨
      ∃ statements script, readBaselineScript text = .ok statements ∧
        Envelope.enclose (optimized statements) = .ok script ∧
        Encloses (optimized statements) script ∧
        printScript script =
          "(function()\x7b" ++ printScript (optimized statements) ++ "\x7d)();" ∧
        ∀ d, (minify text d).outcome = .ok ⟨d.banner ++ "\n" ++ printScript script⟩) := by
  refine ⟨fun body ↦ ⟨_, envelope_eq body, encloses_envelope body⟩, Envelope.visitor_stmts_none, ?_⟩
  cases hread : readBaselineScript text with
  | error cause =>
    refine .inl ⟨cause, fun d ↦ ?_⟩
    rw [outcome_minify, hread]
    rfl
  | ok statements =>
    have hscript := encloses_envelope (optimized statements)
    refine .inr ⟨statements, _, rfl, envelope_eq _, hscript, printScript_envelope hscript,
      fun d ↦ ?_⟩
    rw [outcome_minify, hread]
    rfl

end BrowserScript
