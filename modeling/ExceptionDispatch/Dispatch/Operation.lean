import ExceptionDispatch.Dispatch.Nesting

/-!
# Operations

The operations of dispatch as they are asked for from outside, each with the guest code that it
causes to run.
-/

namespace ExceptionDispatch

/-- How deep guest code can be nested in an operation. -/
def Execution.nestingBound (execution : Execution) : Nat :=
  execution.machine.initializers.length +
    (execution.machine.settings.maxConstructionDepth.toNat -
      execution.thread.constructionDepth.toNat)

/-- An operation of exception dispatch. -/
inductive Operation
  /-- Resolve a class by its name. -/
  | resolve (name : String)
  /-- Resolve the class that a constant of another class names. -/
  | resolveConstant (ref : ClassRef) (context : ClassId)
  /-- Dispatch a thrown object. -/
  | unwind (object : ObjectRef)
  /-- Dispatch a thrown object, or the exception about a thrown null reference. -/
  | throw (object? : Option ObjectRef)
  /-- Construct a built-in exception. -/
  | construct (kind : Builtin)
  /-- Construct a built-in exception and dispatch it. -/
  | constructAndUnwind (kind : Builtin)
  deriving DecidableEq, Repr

/-- The result of an operation that ends without an error. -/
inductive OperationResult
  | resolution (outcome : Resolution)
  | construction (outcome : Construction)
  | handler (outcome : Handler)
  deriving DecidableEq, Repr

namespace Operation

/-- Carry out an operation with a runner for guest code. -/
def runWith (run : GuestRunner) : Operation → Dispatch OperationResult
  | resolve name => return .resolution (← Dispatch.resolve run name)
  | resolveConstant ref context =>
    return .resolution (← Dispatch.resolveConstant run ref context)
  | unwind object => return .handler (← Dispatch.unwind run object)
  | throw object? => return .handler (← Dispatch.throwObject run object?)
  | construct kind => return .construction (← Dispatch.construct run kind)
  | constructAndUnwind kind => return .handler (← Dispatch.constructAndUnwind run kind)

/-- Carry out an operation. -/
def run (operation : Operation) : Dispatch OperationResult := fun execution =>
  operation.runWith (Dispatch.runner execution.nestingBound) execution

end Operation

end ExceptionDispatch
