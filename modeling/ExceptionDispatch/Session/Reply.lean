import ExceptionDispatch.Dispatch.Operation

/-!
# Replies

The answers to commands. A reply holds what was asked for as it is; how it is written is up to the
one who asked.
-/

namespace ExceptionDispatch

/-- Why a command is not carried out. -/
inductive Refusal
  /-- No built-in exception has the identifier. -/
  | unknownKind
  /-- No constant has position zero. -/
  | invalidReference
  /-- No method has the number. -/
  | unknownMethod
  /-- No thread has the number. -/
  | unknownThread
  deriving DecidableEq, Repr

/-- What an operation of dispatch leaves behind. -/
structure Snapshot where
  /-- The frames of the operation's thread, from the current one on. -/
  frames : List Frame
  classCount : Nat
  objectCount : Nat
  loaded : List String
  constructed : List ObjectRef
  deriving DecidableEq, Repr

/-- The state of a machine and a thread. -/
def Snapshot.of (machine : Machine) (thread : Thread) : Snapshot where
  frames := thread.frames
  classCount := machine.registry.size
  objectCount := machine.heap.size
  loaded := machine.loaded.toList
  constructed := machine.constructed.toList

/-- The answer to a command. -/
inductive Reply
  | defined (id : ClassId) (classCount : Nat)
  | constantCount (count : Nat)
  | descriptor (descriptor : ClassDescriptor)
  | classCount (count : Nat)
  | classFound (id? : Option ClassId)
  | constantName (name? : Option String)
  | subclass (answer : Bool)
  | loadableCount (count : Nat)
  | ruleCount (count : Nat)
  | settings (settings : Settings)
  | allocated (object : ObjectRef)
  | fieldSet (done : Bool)
  | field (value? : Option Value)
  | object (object? : Option Object)
  | objectCount (count : Nat)
  | methodAdded (number : Nat)
  | threadAdded (number : Nat)
  | frameCount (count : Nat)
  /-- The number of frames after one was popped. -/
  | frameCountAfterPop (count : Nat)
  /-- The line of the current frame. -/
  | line (line? : Option UInt16)
  | threadName (name : String)
  | thread (thread : Thread)
  | text (text? : Option String)
  | builtin (kind? : Option Builtin)
  | state (snapshot : Snapshot)
  | result (result : OperationResult) (snapshot : Snapshot)
  | fatal (error : Fatal) (snapshot : Snapshot)
  | fault (fault : Fault)
  | refused (refusal : Refusal)
  deriving DecidableEq, Repr

end ExceptionDispatch
