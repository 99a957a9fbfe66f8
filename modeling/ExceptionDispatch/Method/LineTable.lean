/-!
# Line tables

From the offset of an instruction to its source line. An entry speaks for the instructions after
its start offset, that offset excluded; of several entries the last in the table decides. The
table is read as it stands, sorted or not.
-/

namespace ExceptionDispatch

/-- The line of the instructions after an offset. -/
structure LineEntry where
  startPc : UInt16
  line : UInt16
  deriving DecidableEq, Repr

/-- Line entries in the order of the table. -/
abbrev LineTable := List LineEntry

namespace LineTable

/-- The line of code that no entry speaks for. Embeds `DEFAULT_LINE`. -/
def defaultLine : UInt16 := 1

/-- The line of the instruction at an offset. Embeds `LineTable::line_for`. -/
def lineAt (table : LineTable) (pc : UInt16) : UInt16 :=
  table.foldl (fun line entry => if entry.startPc < pc then entry.line else line) defaultLine

/-- A further entry decides the line of the instructions that it speaks for. -/
theorem lineAt_append_singleton (table : LineTable) (entry : LineEntry) (pc : UInt16) :
    lineAt (table ++ [entry]) pc =
      if entry.startPc < pc then entry.line else lineAt table pc := by
  simp [lineAt]

end LineTable

end ExceptionDispatch
