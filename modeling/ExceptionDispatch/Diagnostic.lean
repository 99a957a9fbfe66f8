import ExceptionDispatch.Class.Registry
import ExceptionDispatch.Fault
import ExceptionDispatch.Heap.Basic
import ExceptionDispatch.Thread

/-!
# Diagnostics

What can be told of a thrown exception: the text that the program ends with if nothing catches it,
and the message that the guest program put into it.
-/

namespace ExceptionDispatch

/-- What dispatch has to know of a thrown exception. The diagnostic is made where the exception is
thrown, because the frame is gone by the time that it is needed. -/
structure Thrown where
  classId : ClassId
  className : String
  diagnostic : String
  deriving DecidableEq, Repr

namespace Diagnostic

/-- The method shown for a thread that has no frames. Embeds `UNKNOWN_METHOD`. -/
def unknownMethod : String := "<unknown>"

/-- The class, the method and the line that an exception on a thread is thrown from; without frames
the class that the thread started in stands for them. Embeds `message_for`. -/
def origin (thread : Thread) : ClassId × String × UInt16 :=
  match thread.current? with
  | some frame => (frame.method.owner, frame.method.name, frame.line)
  | none => (thread.classId, unknownMethod, LineTable.defaultLine)

/-- The text of an uncaught exception. Embeds `message_for`. -/
def text (thread className ownerName method sourceFile : String) (line : UInt16) : String :=
  s!"Exception in thread \"{thread}\" {className}\n\tat " ++
    s!"{ownerName}.{method}({sourceFile}:{line})"

/-- The descriptor of a class. -/
def classAt (registry : Registry) (id : ClassId) : Except Fault ClassDescriptor :=
  match registry.get? id with
  | some descriptor => .ok descriptor
  | none => .error (.noSuchClass id)

/-- What dispatch has to know of an object thrown on a thread. Embeds `message_for`. -/
def thrown (registry : Registry) (heap : Heap) (thread : Thread) (ref : ObjectRef) :
    Except Fault Thrown := do
  let some object := heap.get? ref | .error (.noSuchObject ref)
  let descriptor ← classAt registry object.classId
  let (ownerId, method, line) := origin thread
  let owner ← classAt registry ownerId
  return {
    classId := object.classId
    className := descriptor.name
    diagnostic := text thread.name descriptor.name owner.name method owner.sourceFile line }

/-- The object that the first field of another one refers to. Embeds `text_of`. -/
def firstReference? (heap : Heap) (ref : ObjectRef) : Option ObjectRef :=
  (heap.get? ref).bind fun object => (object.field? 0).bind Value.reference?

/-- The code units of an array that holds nothing else. Embeds `text_of`. -/
def codeUnits? (heap : Heap) (ref : ObjectRef) : Option (List UInt16) :=
  (heap.get? ref).bind fun object => object.arrayValues?.bind fun values => values.mapM Value.char?

/-- The message of an exception: its first field refers to a text, whose first field refers to an
array of code units. Embeds `text_of`. -/
def messageText? (heap : Heap) (ref : ObjectRef) : Option String :=
  (firstReference? heap ref).bind fun string =>
    (firstReference? heap string).bind fun array =>
      (codeUnits? heap array).map fun units => String.ofList (Text.Utf16.decode units)

end Diagnostic

end ExceptionDispatch
