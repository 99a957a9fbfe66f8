import ExceptionDispatch.Dispatch.Basic

/-!
# Resolving classes

A class is resolved by its name: a registered class is there already, and another one is loaded,
after its initializer if it has one. The initializer is guest code, so it may raise exceptions, and
may register the class itself.
-/

namespace ExceptionDispatch.Dispatch

/-- Find a registered class, or load one. Embeds the end of `TestRuntime::resolve_or_load`. -/
def find (name : String) : Dispatch Resolution := do
  let machine := (← get).machine
  match machine.registry.idOf? name with
  | some id => return .loaded id
  | none =>
    match machine.load? name with
    | none => return .missing
    | some (id, machine) =>
      setMachine machine
      return .loaded id

/-- Resolve a class by its name, running its initializer first if it is not registered. Embeds
`ClassLoader::resolve_or_load`. -/
def resolve (run : GuestRunner) (name : String) : Dispatch Resolution := do
  let machine := (← get).machine
  match machine.registry.idOf? name, machine.takeInitializer? name with
  | none, some (code, machine) =>
    setMachine machine
    match ← run code none with
    | .returned => find name
    | .unwound handler => return .unwound handler
  | _, _ => find name

/-- Resolve the class that a constant of another class names. Embeds
`ClassLoader::resolve_symbolic`. -/
def resolveConstant (run : GuestRunner) (ref : ClassRef) (context : ClassId) :
    Dispatch Resolution := do
  match (← classAt context).classNameAt? ref with
  | none => return .missing
  | some name => resolve run name

end ExceptionDispatch.Dispatch
