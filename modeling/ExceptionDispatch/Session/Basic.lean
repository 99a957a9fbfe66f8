import ExceptionDispatch.Machine.Basic

/-!
# Sessions

A machine with its methods and threads, on which commands are carried out one after the other.
-/

namespace ExceptionDispatch

/-- A machine with its methods and threads. -/
structure Session where
  machine : Machine := {}
  methods : Array Method := #[]
  threads : Array Thread := #[]
  deriving DecidableEq, Repr

end ExceptionDispatch
