import ExceptionDispatch.Builtin

/-!
# Settings

The settings of exception dispatch and the values that they have unless they are set.
-/

namespace ExceptionDispatch

/-- How the class of an exception is compared with the class that an entry catches. -/
inductive CatchMatching
  /-- They are the same class. -/
  | exact
  /-- The exception's class is the caught class or one of its subclasses. -/
  | subclass
  deriving DecidableEq, Repr

/-- The rule that a word stands for. Embeds `CatchMatching::parse`. -/
def CatchMatching.ofWord? (word : List Char) : Option CatchMatching :=
  if word = "exact".toList then some exact
  else if word = "subclass".toList then some subclass
  else none

/-- The settings of exception dispatch. Embeds `Config`. -/
structure Settings where
  /-- How many built-in exceptions a thread may be constructing at once. -/
  maxConstructionDepth : UInt16 := 16
  catalogLookup : LookupMode := .exact
  catchMatching : CatchMatching := .exact
  deriving DecidableEq, Repr

end ExceptionDispatch
