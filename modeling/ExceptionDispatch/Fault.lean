import ExceptionDispatch.Reference

/-!
# Faults

The ways in which a request to the machine makes no sense. A fault is no exception of the guest
program: nothing catches it, and the machine answers nothing further.
-/

namespace ExceptionDispatch

/-- Why a request cannot be carried out. -/
inductive Fault
  /-- No class is registered under the handle. -/
  | noSuchClass (id : ClassId)
  /-- No object is on the heap under the handle. -/
  | noSuchObject (object : ObjectRef)
  /-- The superclasses of the class form a cycle. -/
  | endlessAncestry (id : ClassId)
  /-- Guest code is nested deeper than the bound given for the operation. -/
  | nestingExceeded
  deriving DecidableEq, Repr

end ExceptionDispatch
