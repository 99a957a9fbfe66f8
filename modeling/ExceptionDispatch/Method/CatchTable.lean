import ExceptionDispatch.Reference

/-!
# Catch tables

Which instructions of a method are protected, against which exceptions, and where the handler is.
A protected range excludes its start offset and includes its end offset.
-/

namespace ExceptionDispatch

/-- The exceptions that an entry is for. -/
inductive CatchType
  /-- Every exception. -/
  | any
  /-- The exceptions of the class that a constant names. -/
  | only (ref : ClassRef)
  deriving DecidableEq, Repr

/-- The catch type written as a position in the constant pool, where zero is for every exception.
Embeds `CatchType::from_index`. -/
def CatchType.ofIndex (index : UInt16) : CatchType :=
  match ClassRef.ofIndex? index with
  | none => any
  | some ref => only ref

/-- A protected range of instructions with its handler. -/
structure CatchEntry where
  startPc : UInt16
  endPc : UInt16
  handlerPc : UInt16
  catchType : CatchType
  deriving DecidableEq, Repr

/-- Whether an entry protects the instruction at an offset. Embeds `CatchEntry::covers`. -/
def CatchEntry.covers (entry : CatchEntry) (pc : UInt16) : Bool :=
  entry.startPc < pc && pc ≤ entry.endPc

/-- An entry protects the instructions after the start of its range and up to the end. -/
def CatchEntry.Protects (entry : CatchEntry) (pc : UInt16) : Prop :=
  entry.startPc < pc ∧ pc ≤ entry.endPc

instance (entry : CatchEntry) (pc : UInt16) : Decidable (entry.Protects pc) :=
  inferInstanceAs (Decidable (entry.startPc < pc ∧ pc ≤ entry.endPc))

/-- Catch entries in the order of their declaration. -/
abbrev CatchTable := List CatchEntry

/-- The entries that protect the instruction at an offset, in the order of their declaration. Embeds
`CatchTable::covering`. -/
def CatchTable.covering (table : CatchTable) (pc : UInt16) : List CatchEntry :=
  table.filter (CatchEntry.covers · pc)

/-- The entries that are found to protect an instruction are those that do. -/
theorem CatchEntry.covers_iff {entry : CatchEntry} {pc : UInt16} :
    entry.covers pc = true ↔ entry.Protects pc := by
  simp [covers, Protects]

/-- The covering entries are the entries of the table that protect the instruction. -/
theorem CatchTable.covering_eq_filter (table : CatchTable) (pc : UInt16) :
    table.covering pc = table.filter (·.Protects pc) := by
  simp only [covering, Bool.eq_iff_iff.2 (CatchEntry.covers_iff.trans decide_eq_true_iff.symm)]

/-- A covering entry is one of the table, and protects the instruction. -/
theorem CatchTable.mem_covering {table : CatchTable} {pc : UInt16} {entry : CatchEntry} :
    entry ∈ table.covering pc ↔ entry ∈ table ∧ entry.Protects pc := by
  simp [covering, CatchEntry.covers_iff]

end ExceptionDispatch
