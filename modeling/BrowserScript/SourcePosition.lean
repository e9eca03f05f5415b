/-!
Places in a script as a reader of an error message counts them.
-/

set_option autoImplicit false

namespace BrowserScript

/-- Lines count from one. Columns count from zero; a character outside of the basic plane, which is
written as two units of sixteen bits, counts twice. -/
structure SourcePosition where
  line : Nat
  column : Nat
  deriving DecidableEq, Repr, Inhabited

namespace SourcePosition

def text (p : SourcePosition) : String :=
  "(" ++ toString p.line ++ ":" ++ toString p.column ++ ")"

/-- The place `offset` characters behind another one. A line ends with a line feed, with a
carriage return, or with both of them in that order. -/
def moveOver (p : SourcePosition) : Nat → List Char → SourcePosition
  | 0, _ | _, [] => p
  | offset + 1, c :: rest =>
    if c = '\n' ∨ (c = '\r' ∧ rest.head? ≠ some '\n') then
      moveOver ⟨p.line + 1, 0⟩ offset rest
    else moveOver ⟨p.line, p.column + if c.toNat < 0x10000 then 1 else 2⟩ offset rest

/-- The place of the character at an offset. -/
def ofOffset (text : List Char) (offset : Nat) : SourcePosition :=
  moveOver ⟨1, 0⟩ offset text

end SourcePosition

end BrowserScript
