import ExceptionDispatch.Dispatch.Search

/-!
# Raising exceptions

A built-in exception is constructed before it is thrown: its class is resolved, an instance is
allocated, and its constructor is run. The constructor is guest code, so it may raise exceptions in
turn, and the thread's construction depth bounds how far that goes. The depth counts the
constructors being run, whichever way each of them ends.
-/

namespace ExceptionDispatch.Dispatch

/-- What the constructor of an object does, if there is one for its class. Embeds
`TestRuntime::invoke_default_constructor`. -/
def constructorBody (run : GuestRunner) (object : ObjectRef) (classId : ClassId) :
    Dispatch Completion := do
  modifyMachine (Machine.addConstructed · object)
  let descriptor ← classAt classId
  match (← get).machine.takeConstructor? descriptor.name with
  | none => return .returned
  | some (code, machine) =>
    setMachine machine
    run code (some object)

/-- Run the constructor of an object; it is told of as it begins and as it ends, however it ends.
Embeds `Invoker::invoke_default_constructor`. -/
def runConstructor (run : GuestRunner) (object : ObjectRef) (classId : ClassId) :
    Dispatch Completion :=
  between (Execution.record · (.constructorEntered object))
    (Execution.record · (.constructorLeft object)) (constructorBody run object classId)

/-- Count an exception as being constructed for as long as an operation takes, however it ends.
Embeds the two changes of the depth in `construct`. -/
def counted {α : Type} (operation : Dispatch α) : Dispatch α :=
  between Execution.raiseDepth Execution.lowerDepth operation

/-- Construct a built-in exception. Embeds `construct`. -/
def construct (run : GuestRunner) (kind : Builtin) : Dispatch Construction := do
  let execution ← get
  let limit := execution.machine.settings.maxConstructionDepth
  if limit ≤ execution.thread.constructionDepth then
    abort (.constructionDepth kind.className limit)
  else
    match ← resolve run kind.className with
    | .missing => abort (.bootstrap kind.className)
    | .unwound handler => return .unwound handler
    | .loaded id =>
      let object ← allocate id
      record (.constructing kind)
      match ← counted (runConstructor run object id) with
      | .returned => return .finished object
      | .unwound handler => return .unwound handler

/-- Construct a built-in exception and dispatch it to its handler. Embeds `construct_and_unwind`. -/
def constructAndUnwind (run : GuestRunner) (kind : Builtin) : Dispatch Handler := do
  match ← construct run kind with
  | .finished object => unwind run object
  | .unwound handler => return handler

/-- Dispatch what guest code throws; in place of a null reference that is an exception about it.
Embeds `throw`. -/
def throwObject (run : GuestRunner) : Option ObjectRef → Dispatch Handler
  | some object => unwind run object
  | none => constructAndUnwind run .nullPointer

end ExceptionDispatch.Dispatch
