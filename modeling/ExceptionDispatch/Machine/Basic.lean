import ExceptionDispatch.Class.Ancestry
import ExceptionDispatch.Guest
import ExceptionDispatch.Heap.Basic
import ExceptionDispatch.Settings.Basic

/-!
# The machine

All that the threads of the guest program share: registered classes, objects, settings, the classes
that can be loaded and the guest code that is to run. It also remembers which classes were loaded
and which objects were constructed.
-/

namespace ExceptionDispatch

/-- The state that threads share. Embeds `TestRuntime`. -/
structure Machine where
  registry : Registry := .empty
  heap : Heap := .empty
  settings : Settings := {}
  /-- The classes that can be loaded, each as often as it is listed. -/
  loadable : List ClassDescriptor := []
  initializers : List InitializerRule := []
  constructors : List ConstructorRule := []
  /-- The names of the classes loaded so far. -/
  loaded : Array String := #[]
  /-- The objects whose constructor was run so far. -/
  constructed : Array ObjectRef := #[]
  deriving DecidableEq, Repr

namespace Machine

/-- The class of texts. -/
def stringClass : String := "java/lang/String"

/-- The class of arrays of code units. -/
def charArrayClass : String := "[C"

/-- The built-in exception that a text stands for. Embeds `runtime_exception_named`. -/
def builtinNamed? (machine : Machine) (text : String) : Option Builtin :=
  Builtin.named? machine.settings.catalogLookup text

/-- Load the first loadable class of a name: it is listed once less and becomes registered. Embeds
the end of `TestRuntime::resolve_or_load`. -/
def load? (machine : Machine) (name : String) : Option (ClassId × Machine) :=
  (machine.loadable.find? (·.name == name)).map fun descriptor =>
    let defined := machine.registry.define descriptor
    (defined.1,
      { machine with
        registry := defined.2
        loadable := machine.loadable.eraseP (·.name == name)
        loaded := machine.loaded.push name })

/-- Take the first initializer of a class, which will not run again. -/
def takeInitializer? (machine : Machine) (name : String) : Option (GuestCode × Machine) :=
  (machine.initializers.find? (·.className == name)).map fun rule =>
    (rule.code,
      { machine with initializers := machine.initializers.eraseP (·.className == name) })

/-- Take the constructor that runs for an object of a class. -/
def takeConstructor? (machine : Machine) (className : String) : Option (GuestCode × Machine) :=
  (ConstructorRule.spendFirst? className machine.constructors).map fun found =>
    (found.1, { machine with constructors := found.2 })

/-- Remember that the constructor of an object is run. -/
def addConstructed (machine : Machine) (object : ObjectRef) : Machine :=
  { machine with constructed := machine.constructed.push object }

/-- Allocate an instance of a class with so many fields. -/
def allocate (machine : Machine) (id : ClassId) (fieldCount : UInt16) : ObjectRef × Machine :=
  let (object, heap) := machine.heap.allocate id fieldCount
  (object, { machine with heap })

/-- The two classes that a message is made of, with the number of fields of a text. -/
def messageClasses? (machine : Machine) : Option (ClassId × UInt16 × ClassId) := do
  let stringId ← machine.registry.idOf? stringClass
  let arrayId ← machine.registry.idOf? charArrayClass
  let descriptor ← machine.registry.get? stringId
  return (stringId, descriptor.fieldCount, arrayId)

/-- Give an object a message: its first field refers to a new text, whose first field refers to a
new array of code units. A field that is not there is left out, and without the two classes nothing
happens. Embeds `TestRuntime::set_message`. -/
def writeMessage (machine : Machine) (object : ObjectRef) (text : String) : Machine :=
  match machine.messageClasses? with
  | none => machine
  | some (stringId, fieldCount, arrayId) =>
    let (array, heap) := machine.heap.allocateText arrayId text
    let (string, heap) := heap.allocate stringId fieldCount
    let heap := heap.setField string 0 (.reference array)
    { machine with heap := heap.setField object 0 (.reference string) }

/-- A class that was just loaded is registered under its name. -/
theorem idOf?_of_load? {machine loaded : Machine} {name : String} {id : ClassId}
    (h : machine.load? name = some (id, loaded)) : loaded.registry.idOf? name = some id := by
  simp only [load?, Option.map_eq_some_iff, Prod.mk.injEq] at h
  obtain ⟨descriptor, hd, rfl, rfl⟩ := h
  have hn : descriptor.name = name := by simpa using List.find?_some hd
  rw [← hn]
  exact machine.registry.idOf?_define descriptor

end Machine

end ExceptionDispatch
