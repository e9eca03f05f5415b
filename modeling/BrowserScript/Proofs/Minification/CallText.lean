import BrowserScript.Proofs.Minification.CallOptimization
import BrowserScript.Proofs.Minification.Envelope

/-!
The text of a sequence of calls. Its pieces are joined at parentheses, commas and a semicolon, none
of which needs a blank, so the text is put together from the names and the literals as they are
(`printScript_inSequence`).
-/

set_option autoImplicit false
set_option relaxedAutoImplicit false

namespace BrowserScript.Script

/-! ### Texts -/

def Argument.text : Argument → String
  | .number value => numberText value
  | .string text => quotedText text

/-- A call as script text. -/
def CallEvent.text (e : CallEvent) : String :=
  e.callee ++ "(" ++ ",".intercalate (e.args.map (·.text)) ++ ")"

/-- Calls as the text of one statement, if there are any. -/
def callsText (events : List CallEvent) : String :=
  if events.isEmpty then "" else ",".intercalate (events.map (·.text)) ++ ";"

/-! ### Pieces -/

theorem not_numberLevel_lt_item (x : Float) : ¬numberLevel x < Place.item.level := by
  show ¬numberLevel x < 1
  rw [numberLevel]
  split
  · decide
  · split <;> decide

theorem pieces_argExpr (arg : Nat × Argument) :
    ∃ piece, (LiteralCall.argExpr arg).pieces .item = [piece] ∧ piece.text = arg.2.text := by
  obtain ⟨pos, arg⟩ := arg
  cases arg with
  | number value =>
    refine ⟨.number (numberText value), ?_, rfl⟩
    show inParens (numberLevel value < Place.item.level) [_] = _
    rw [inParens, decide_eq_false (not_numberLevel_lt_item value), if_neg Bool.false_ne_true]
    rfl
  | string text => exact ⟨.quoted (quotedText text), rfl, rfl⟩

namespace Piece

theorem join_singleton (piece : Piece) : join [piece] = piece.text := rfl

/-- The text of pieces, with what stands behind a plain mark that follows them. -/
theorem join_of_split {pieces front back : List Piece} {mark : String} (h : mark ∈ plainMarks)
    (hsplit : pieces = front ++ .mark mark :: back) :
    join pieces = join front ++ (mark ++ join back) := by
  rw [hsplit, join_append_plainMark h, join_plainMark h]

end Piece

theorem join_itemPieces (args : List (Nat × Argument)) :
    Piece.join (itemPieces (args.map LiteralCall.argExpr)) =
      ",".intercalate (args.map (·.2.text)) := by
  induction args with
  | nil => rfl
  | cons arg args ih =>
    obtain ⟨piece, hpieces, htext⟩ := pieces_argExpr arg
    cases args with
    | nil =>
      show Piece.join ((LiteralCall.argExpr arg).pieces .item) = arg.2.text
      rw [hpieces, Piece.join_singleton, htext]
    | cons next args =>
      have hsplit : itemPieces ((arg :: next :: args).map LiteralCall.argExpr) =
          [piece] ++ .mark "," :: itemPieces ((next :: args).map LiteralCall.argExpr) := by
        rw [← hpieces]
        rfl
      rw [Piece.join_of_split (by decide) hsplit, ih, Piece.join_singleton, htext]
      simp only [List.map_cons, String.intercalate_cons_cons, String.append_assoc]

theorem pieces_call (c : LiteralCall) (p : Place) :
    c.expr.pieces p = .word c.callee :: .mark "(" :: (itemPieces c.argExprs ++ [.mark ")"]) := by
  simp only [LiteralCall.expr, Expr.pieces, List.cons_append, List.nil_append]

theorem join_pieces_call (c : LiteralCall) (p : Place) :
    Piece.join (c.expr.pieces p) = c.event.text := by
  have hopen : c.expr.pieces p =
      [.word c.callee] ++ .mark "(" :: (itemPieces c.argExprs ++ [.mark ")"]) := pieces_call c p
  have hargs : Piece.join (itemPieces c.argExprs) = ",".intercalate (c.args.map (·.2.text)) :=
    join_itemPieces c.args
  have hclose : Piece.join (itemPieces c.argExprs ++ [.mark ")"]) =
      Piece.join (itemPieces c.argExprs) ++ (")" ++ Piece.join []) :=
    Piece.join_of_split (by decide) rfl
  rw [Piece.join_of_split (by decide) hopen, hclose, hargs, CallEvent.text, LiteralCall.event,
    List.map_map]
  show c.callee ++ ("(" ++ (_ ++ (")" ++ ""))) = _
  rw [String.append_empty, String.append_assoc, String.append_assoc]
  rfl

theorem join_sequencePieces (p : Place) (calls : List LiteralCall) :
    Piece.join (sequencePieces p (calls.map LiteralCall.expr)) =
      ",".intercalate ((calls.map (·.event)).map (·.text)) := by
  induction calls generalizing p with
  | nil => rfl
  | cons c calls ih =>
    cases calls with
    | nil => exact join_pieces_call c _
    | cons next calls =>
      have hsplit : sequencePieces p ((c :: next :: calls).map LiteralCall.expr) =
          c.expr.pieces (p.first 1) ++ .mark "," ::
            sequencePieces (p.later 0) ((next :: calls).map LiteralCall.expr) := rfl
      rw [Piece.join_of_split (by decide) hsplit, ih, join_pieces_call]
      simp only [List.map_cons, String.intercalate_cons_cons, String.append_assoc]

theorem printScript_expr (pos : Nat) (e : Expr) :
    printScript [.expr pos e] = Piece.join (e.pieces { start := .statement }) ++ ";" := by
  have hsplit : stmtsPieces [.expr pos e] =
      e.pieces { start := .statement } ++ .mark ";" :: [] := by
    rw [stmtsPieces, Stmt.pieces, stmtsPieces, List.append_nil]
  rw [printScript, Piece.join_of_split (by decide) hsplit]
  show _ ++ (";" ++ "") = _
  rw [String.append_empty]

/-- The text of calls in sequence. -/
theorem printScript_inSequence (calls : List LiteralCall) :
    printScript (inSequence calls) = callsText (calls.map (·.event)) := by
  match calls with
  | [] => rfl
  | [c] =>
    show printScript [.expr c.pos c.expr] = c.event.text ++ ";"
    rw [printScript_expr, join_pieces_call]
  | first :: second :: rest =>
    have hpieces := join_sequencePieces { start := .statement } (first :: second :: rest)
    show printScript [.expr first.pos (.seq first.pos _)] = ",".intercalate _ ++ ";"
    rw [printScript_expr, ← hpieces]
    rfl

end BrowserScript.Script
