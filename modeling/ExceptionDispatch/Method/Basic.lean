import ExceptionDispatch.Method.CatchTable
import ExceptionDispatch.Method.LineTable

/-!
# Methods

What dispatch needs to know of a method: its name, the class that declares it, its catch table and
its line table.
-/

namespace ExceptionDispatch

/-- A method of a class. -/
structure Method where
  name : String
  owner : ClassId
  catches : CatchTable := []
  lines : LineTable := []
  deriving DecidableEq, Repr

end ExceptionDispatch
