/-!
# Places in a source file

A location is only carried along, so that a diagnostic can point at something.
It prints as line and column and is ordered in reading order.
-/

namespace StateWeave

/-- A line and a column; both are zero where nothing is known. -/
structure Location where
  line : UInt32 := 0
  column : UInt32 := 0
  deriving DecidableEq, Inhabited, Repr

namespace Location

/-- The place of anything whose place was never given. -/
def unknown : Location := {}

def text (l : Location) : String :=
  toString l.line.toNat ++ ":" ++ toString l.column.toNat

/-- Reading order: by line, and by column inside a line. -/
def compare (a b : Location) : Ordering :=
  (Ord.compare a.line b.line).then (Ord.compare a.column b.column)

end Location

end StateWeave
