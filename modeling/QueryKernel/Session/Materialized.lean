import QueryKernel.Error

/-!
Contract: which globals hold the decoded literal of an offset.

Owns: the shapes of decoded literals and the table from offsets to globals.
-/

namespace QueryKernel

namespace Session

/-- The globals of a decoded literal. -/
inductive Materialized where
  | scalar (value : Nat)
  | string (start address length : Nat)
deriving DecidableEq, Repr

/-- Decoded literals by offset, in the order of their first insertion. -/
structure MaterializedTable where
  entries : List (Nat × Materialized) := []
deriving DecidableEq, Repr

namespace MaterializedTable

def get? (table : MaterializedTable) (offset : Nat) : Option Materialized :=
  table.entries.lookup offset

def size (table : MaterializedTable) : Nat := table.entries.length

/-- Record the globals of an offset. An offset that was recorded before is
reported, and holds the new globals from then on. -/
def insert (table : MaterializedTable) (offset : Nat) (globals : Materialized) :
    Attempt MaterializedTable Unit :=
  match table.get? offset with
  | none => (.ok (), ⟨table.entries ++ [(offset, globals)]⟩)
  | some _ =>
      (.error (.breach (.materializedTwice offset)),
        ⟨table.entries.map fun entry => if entry.1 = offset then (offset, globals) else entry⟩)

end MaterializedTable

end Session

end QueryKernel
