/-
Positions in a source text.

A position is a line and a column. A producer that recorded neither writes `-1`
for both, which is `Position.unknown`; any position with a negative coordinate
counts as unknown. `Position.earlier` and `Position.later` pick one of two
positions, and an unknown position never wins over a known one.
-/

namespace Scopewise

/-- A line and a column of a source text. -/
structure Position where
  line : Int32
  column : Int32
deriving DecidableEq, Repr

namespace Position

/-- The position of something whose place was never recorded. -/
def unknown : Position := ⟨-1, -1⟩

/-- A position is known when neither coordinate is negative. -/
def known (p : Position) : Bool := 0 ≤ p.line && 0 ≤ p.column

/-- Reading order: by line, and by column on the same line. -/
instance : LE Position where
  le a b := a.line < b.line ∨ (a.line = b.line ∧ a.column ≤ b.column)

instance (a b : Position) : Decidable (a ≤ b) :=
  inferInstanceAs (Decidable (a.line < b.line ∨ (a.line = b.line ∧ a.column ≤ b.column)))

/-- The first of two positions in reading order. A tie goes to `a`, and `b` is
taken when `a` is unknown. -/
def earlier (a b : Position) : Position :=
  if a.known ∧ (b.known → a ≤ b) then a else b

/-- The last of two positions in reading order. A tie goes to `a`, and `b` is
taken when `a` is unknown. -/
def later (a b : Position) : Position :=
  if a.known ∧ (b.known → b ≤ a) then a else b

/-- A known position reads `line:column`. -/
def text (p : Position) : String :=
  if p.known then s!"{p.line.toInt}:{p.column.toInt}" else "<unknown>"

end Position

end Scopewise
