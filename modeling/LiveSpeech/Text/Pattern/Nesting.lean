/-!
# How deep a pattern is nested

A pattern that is nested too deep is refused.  Items that stand side by side count as one
level more than the deepest of them, unless there is only one.
-/

namespace LiveSpeech.Text.Pattern

set_option autoImplicit false

/-- Items that stand side by side. -/
structure Row where
  count : Nat
  depth : Nat
  deriving DecidableEq, Repr

namespace Row

def empty : Row := ⟨0, 0⟩

/-- The items and one more. -/
def add (row : Row) (depth : Nat) : Row := ⟨row.count + 1, max row.depth depth⟩

/-- The items, the last of which is now nested deeper. -/
def deepen (row : Row) (depth : Nat) : Row := { row with depth := max row.depth depth }

/-- How deep the items are nested together. -/
def nesting (row : Row) : Nat := if row.count < 2 then row.depth else row.depth + 1

end Row

/-- The deepest nesting that a pattern may have. -/
def deepest : Nat := 250

end LiveSpeech.Text.Pattern
