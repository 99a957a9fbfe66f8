import ExceptionDispatch.Diagnostic
import ExceptionDispatch.Machine.Basic
import ExceptionDispatch.Trace

/-!
# Operations of dispatch

An operation works on the machine and on one thread. It ends with a result, with a fatal error or
with a fault, and leaves the machine, the thread and a trace behind in either case. Nothing in an
operation can see or change another thread.

This module holds the steps that all operations are made of. Guest code is run by a runner that
the operations take as an argument, so each of them is defined before guest code is.
-/

namespace ExceptionDispatch

/-- An operation in progress. -/
structure Execution where
  machine : Machine
  thread : Thread
  trace : Trace := #[]
  deriving DecidableEq, Repr

namespace Execution

/-- The operation with an event added to its trace. -/
def record (execution : Execution) (event : Event) : Execution :=
  { execution with trace := execution.trace.push ⟨execution.thread.constructionDepth, event⟩ }

/-- The operation with its thread changed. -/
def modifyThread (execution : Execution) (change : Thread → Thread) : Execution :=
  { execution with thread := change execution.thread }

/-- The operation with one more exception under construction. -/
def raiseDepth (execution : Execution) : Execution :=
  execution.modifyThread fun thread =>
    { thread with constructionDepth := thread.constructionDepth + 1 }

/-- The operation with one exception less under construction. -/
def lowerDepth (execution : Execution) : Execution :=
  execution.modifyThread fun thread =>
    { thread with constructionDepth := thread.constructionDepth - 1 }

end Execution

/-- An operation with a result. -/
abbrev Dispatch := EStateM Halt Execution

/-- How guest code is run, for the object that it constructs if it is a constructor. -/
abbrev GuestRunner := GuestCode → Option ObjectRef → Dispatch Completion

namespace Dispatch

/-- Replace the machine. -/
def setMachine (machine : Machine) : Dispatch Unit :=
  modify fun execution => { execution with machine }

/-- Change the machine. -/
def modifyMachine (change : Machine → Machine) : Dispatch Unit :=
  modify fun execution => { execution with machine := change execution.machine }

/-- Change the thread. -/
def modifyThread (change : Thread → Thread) : Dispatch Unit :=
  modify (Execution.modifyThread · change)

/-- Add an event to the trace. -/
def record (event : Event) : Dispatch Unit := modify (Execution.record · event)

/-- End with a fatal error. -/
def abort {α : Type} (error : Fatal) : Dispatch α := throw (.fatal error)

/-- Carry out an operation between two changes, of which the second is made however it ends. -/
def between {α : Type} (before after : Execution → Execution) (operation : Dispatch α) :
    Dispatch α :=
  fun execution =>
    match operation (before execution) with
    | .ok value left => .ok value (after left)
    | .error halt left => .error halt (after left)

/-- Give the answer of a look-up, or end with its fault. -/
def orFault {α : Type} : Except Fault α → Dispatch α
  | .ok value => return value
  | .error fault => throw (.fault fault)

/-- The descriptor of a class. -/
def classAt (id : ClassId) : Dispatch ClassDescriptor := do
  orFault (Diagnostic.classAt (← get).machine.registry id)

/-- Allocate an instance of a class. Embeds `Allocator::allocate`. -/
def allocate (id : ClassId) : Dispatch ObjectRef := do
  let descriptor ← classAt id
  modifyGet fun execution =>
    let (object, machine) := execution.machine.allocate id descriptor.fieldCount
    (object, { execution with machine })

end Dispatch

end ExceptionDispatch
