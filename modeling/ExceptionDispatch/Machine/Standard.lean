import ExceptionDispatch.Machine.Basic

/-!
# The standard machine

A machine on which the classes of exceptions and texts are registered and the built-in exceptions
can be loaded.
-/

namespace ExceptionDispatch

/-- The part of a class name after its last slash. -/
def simpleName (name : String) : String :=
  String.ofList (name.toList.reverse.takeWhile (· ≠ '/')).reverse

/-- The class of an exception, with one field and the source file that bears its name. Embeds
`exception_class`. -/
def exceptionClass (name : String) (superclass? : Option ClassId) : ClassDescriptor where
  name
  sourceFile := simpleName name ++ ".java"
  superclass?
  fieldCount := 1

namespace Machine

/-- The root of all exceptions. -/
def throwableClass : ClassDescriptor := exceptionClass "java/lang/Throwable" none

/-- The built-in exception that the other ones extend. -/
def runtimeExceptionClass : ClassDescriptor := exceptionClass Builtin.runtime.className (some ⟨0⟩)

/-- A machine with the classes of exceptions and texts, on which the other built-in exceptions can
be loaded. Embeds `TestRuntime::new`. -/
def standard : Machine where
  registry :=
    [throwableClass, runtimeExceptionClass,
      { name := stringClass, sourceFile := "String.java", fieldCount := 1 },
      { name := charArrayClass, sourceFile := "" }].foldl Registry.push .empty
  loadable :=
    (Builtin.all.filter (· ≠ .runtime)).map fun kind => exceptionClass kind.className (some ⟨1⟩)

end Machine

end ExceptionDispatch
