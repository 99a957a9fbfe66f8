import ExceptionDispatch.Dispatch.Loading

/-!
# Searching for a handler

A thrown exception is dispatched to the nearest frame that handles it. A frame handles it by the
first entry of its catch table that covers the current instruction and catches the exception's
class; a frame that does not is popped. Resolving the class that an entry catches may run guest
code, and an exception which that code raises takes the place of the one searched for if it is
caught outside that code.
-/

namespace ExceptionDispatch.Dispatch

/-- What the search of a frame finds. Embeds `Search`. -/
inductive SearchResult
  /-- The frame handles the exception at an offset. -/
  | found (handlerPc : UInt16)
  | notFound
  /-- Another exception was dispatched to a handler in the frame or below. -/
  | unwound (handler : Handler)
  deriving DecidableEq, Repr

/-- Whether an entry for one class catches the exceptions of another. Embeds `catches`. -/
def catches (target thrown : ClassId) : Dispatch Bool := do
  let machine := (← get).machine
  match machine.settings.catchMatching with
  | .exact => return target = thrown
  | .subclass => orFault (machine.registry.isSubclass thrown target)

/-- Search entries of a method's catch table for the first that catches an exception. Embeds
`find_handler`. -/
def search (run : GuestRunner) (thrown : ClassId) (method : Method) :
    List CatchEntry → Dispatch SearchResult
  | [] => return .notFound
  | entry :: rest => do
    match entry.catchType with
    | .any => return .found entry.handlerPc
    | .only ref =>
      match ← resolveConstant run ref method.owner with
      | .loaded target =>
        if ← catches target thrown then return .found entry.handlerPc
        else search run thrown method rest
      | .missing =>
        record (.unresolved ref.index (← classAt method.owner).name method.name)
        search run thrown method rest
      | .unwound handler => return .unwound handler

/-- Search the frames of the thread, from the current one on, after so many were popped. Embeds the
loop of `unwind`. -/
def searchFrames (run : GuestRunner) (thrown : Thrown) (popped : Nat) :
    List Frame → Dispatch Handler
  | [] => abort (.uncaught thrown.diagnostic)
  | frame :: callers => do
    let passage : Passage := ⟨thrown.className, frame.method.name, frame.pc⟩
    match ← search run thrown.classId frame.method frame.covering with
    | .found handlerPc =>
      modifyThread (Thread.setPc · handlerPc)
      record (.caught passage ⟨handlerPc, popped⟩)
      return ⟨handlerPc, popped⟩
    | .unwound handler =>
      record (.replaced passage handler)
      return ⟨handler.pc, popped + handler.popped⟩
    | .notFound =>
      record (.popping passage)
      modifyThread Thread.pop
      searchFrames run thrown (popped + 1) callers

/-- Dispatch a thrown object to its handler. Embeds `unwind`. -/
def unwind (run : GuestRunner) (object : ObjectRef) : Dispatch Handler := do
  let execution ← get
  let thrown ← orFault
    (Diagnostic.thrown execution.machine.registry execution.machine.heap execution.thread object)
  searchFrames run thrown 0 execution.thread.frames

end ExceptionDispatch.Dispatch
