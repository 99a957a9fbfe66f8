import ExceptionDispatch.Fault

/-!
# Outcomes

How the parts of exception dispatch end. Wherever guest code may run, the exceptions it raises are
dispatched before it ends, and one that is caught in a frame below it ends whatever was going on
above that frame; this is the outcome `unwound`. An exception that nothing catches ends the program,
and so do the other fatal errors.
-/

namespace ExceptionDispatch

/-- The handler that an exception was dispatched to. -/
structure Handler where
  /-- The offset of the handler's first instruction. -/
  pc : UInt16
  /-- The number of frames popped on the way to the handler. -/
  popped : Nat
  deriving DecidableEq, Repr

/-- How the resolution of a class ends. -/
inductive Resolution
  | loaded (id : ClassId)
  | missing
  | unwound (handler : Handler)
  deriving DecidableEq, Repr

/-- How a run of guest code ends. -/
inductive Completion
  | returned
  | unwound (handler : Handler)
  deriving DecidableEq, Repr

/-- How the construction of a built-in exception ends. -/
inductive Construction
  | finished (object : ObjectRef)
  | unwound (handler : Handler)
  deriving DecidableEq, Repr

/-- An error that ends the program. -/
inductive Fatal
  /-- The class of a built-in exception cannot be resolved, so there is nothing to throw. -/
  | bootstrap (name : String)
  /-- An exception got to the end of the stack. -/
  | uncaught (diagnostic : String)
  /-- A built-in exception was raised with too many of them under construction. -/
  | constructionDepth (name : String) (limit : UInt16)
  deriving DecidableEq, Repr

namespace Fatal

/-- The text that the program ends with. Embeds the text of a `Fatal`. -/
def message : Fatal → String
  | bootstrap name => s!"could not resolve the class {name} of a runtime exception"
  | uncaught diagnostic => diagnostic
  | constructionDepth name limit =>
    s!"exception raised while constructing exception {name}: more than {limit} nested constructions"

/-- The exit status that the program ends with. Embeds `Fatal::status`. -/
def status (_ : Fatal) : Nat := 1

end Fatal

/-- Why an operation on the machine has no result. -/
inductive Halt
  | fatal (error : Fatal)
  | fault (fault : Fault)
  deriving DecidableEq, Repr

end ExceptionDispatch
