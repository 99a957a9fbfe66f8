import ExceptionDispatch.Session.Basic
import ExceptionDispatch.Session.Command
import ExceptionDispatch.Session.Reply

/-!
# Carrying out commands

One command is answered, or makes no sense to the machine, or ends the program. A refused command
changes nothing.
-/

namespace ExceptionDispatch

/-- How a command ends. -/
inductive Outcome
  | answered (reply : Reply)
  | faulted (fault : Fault)
  | ended (error : Fatal)
  deriving DecidableEq, Repr

/-- A command carried out: how it ended, the session after it and what it wrote to the log. -/
structure Step where
  outcome : Outcome
  session : Session
  records : List Record := []
  deriving DecidableEq, Repr

/-- The built-in exception that has an identifier. -/
def kindOf (identifier : UInt8) : Except Refusal Builtin :=
  match Builtin.ofIdentifier? identifier with
  | some kind => .ok kind
  | none => .error .unknownKind

namespace OperationRequest

/-- The operation that is asked for. -/
def operation : OperationRequest → Except Refusal Operation
  | resolve name => .ok (.resolve name)
  | resolveConstant context index =>
    match ClassRef.ofIndex? index with
    | some ref => .ok (.resolveConstant ref context)
    | none => .error .invalidReference
  | unwind object => .ok (.unwind object)
  | throw object? => .ok (.throw object?)
  | construct identifier => (kindOf identifier).map .construct
  | constructAndUnwind identifier => (kindOf identifier).map .constructAndUnwind

end OperationRequest

/-- The action that is asked for. -/
def ActionRequest.action : ActionRequest → Except Refusal GuestAction
  | nothing => .ok .nothing
  | message text => .ok (.message text)
  | raise identifier => (kindOf identifier).map .raise
  | throw object? => .ok (.throw object?)

namespace Session

/-- The guest code that is asked for. -/
def guestCode (session : Session) (request : GuestRequest) : Except Refusal GuestCode := do
  let action ← request.action.action
  let frames ← request.frames.mapM fun (number, pc) =>
    match session.methods[number]? with
    | some method => Except.ok (Frame.mk method pc)
    | none => Except.error Refusal.unknownMethod
  return ⟨action, frames⟩

/-- The step that answers without a change. -/
def answer (session : Session) (reply : Reply) : Step := ⟨.answered reply, session, []⟩

/-- The step of a command that makes no sense to the machine. -/
def fail (session : Session) (fault : Fault) : Step := ⟨.faulted fault, session, []⟩

/-- The step of a refused command. -/
def refuse (session : Session) (refusal : Refusal) : Step := session.answer (.refused refusal)

/-- Go on with a look-up's answer, or with its fault. -/
def orFail {α : Type} (session : Session) (found : Except Fault α) (go : α → Step) : Step :=
  match found with
  | .ok value => go value
  | .error fault => session.fail fault

/-- Go on with what is asked for, or refuse it. -/
def orRefuse {α : Type} (session : Session) (found : Except Refusal α) (go : α → Step) : Step :=
  match found with
  | .ok value => go value
  | .error refusal => session.refuse refusal

/-- Go on with the thread that has a number. -/
def withThread (session : Session) (number : Nat) (go : Thread → Step) : Step :=
  match session.threads[number]? with
  | some thread => go thread
  | none => session.refuse .unknownThread

/-- The session with another machine. -/
def setMachine (session : Session) (machine : Machine) : Session := { session with machine }

/-- The session with the thread that has a number replaced. -/
def setThread (session : Session) (number : Nat) (thread : Thread) : Session :=
  { session with threads := session.threads.setIfInBounds number thread }

/-- The object under a handle. -/
def objectAt (session : Session) (object : ObjectRef) : Except Fault Object :=
  match session.machine.heap.get? object with
  | some found => .ok found
  | none => .error (.noSuchObject object)

/-- The session after an operation that one of its threads was given to. -/
def commit (session : Session) (number : Nat) (execution : Execution) : Session :=
  (session.setMachine execution.machine).setThread number execution.thread

/-- Carry out an operation on a thread; a fatal error ends as `onFatal` has it. -/
def operate (session : Session) (number : Nat) (request : OperationRequest)
    (onFatal : Fatal → Snapshot → List Record → Outcome × List Record) : Step :=
  session.withThread number fun thread =>
    session.orRefuse request.operation fun operation =>
      match operation.run { machine := session.machine, thread } with
      | .ok result execution =>
        ⟨.answered (.result result (.of execution.machine execution.thread)),
          session.commit number execution, execution.trace.records thread.name⟩
      | .error (.fatal error) execution =>
        let (outcome, records) :=
          onFatal error (.of execution.machine execution.thread)
            (execution.trace.records thread.name)
        ⟨outcome, session.commit number execution, records⟩
      | .error (.fault fault) execution =>
        ⟨.faulted fault, session.commit number execution, execution.trace.records thread.name⟩

/-- Carry out a command. -/
def step (session : Session) : Command → Step
  | .define descriptor =>
    let (id, registry) := session.machine.registry.define descriptor
    (session.setMachine { session.machine with registry }).answer (.defined id registry.size)
  | .editClass id edit =>
    session.orFail (Diagnostic.classAt session.machine.registry id) fun descriptor =>
      let registry := session.machine.registry.modify id edit.apply
      (session.setMachine { session.machine with registry }).answer
        (.constantCount (edit.apply descriptor).constants.length)
  | .showClass id =>
    session.orFail (Diagnostic.classAt session.machine.registry id) fun descriptor =>
      session.answer (.descriptor descriptor)
  | .countClasses => session.answer (.classCount session.machine.registry.size)
  | .findClass name => session.answer (.classFound (session.machine.registry.idOf? name))
  | .constantAt id index =>
    session.orFail (Diagnostic.classAt session.machine.registry id) fun descriptor =>
      match ClassRef.ofIndex? index with
      | some ref => session.answer (.constantName (descriptor.classNameAt? ref))
      | none => session.refuse .invalidReference
  | .isSubclass id other =>
    session.orFail (session.machine.registry.isSubclass id other) fun answer =>
      session.answer (.subclass answer)
  | .addLoadable descriptor =>
    let loadable := session.machine.loadable ++ [descriptor]
    (session.setMachine { session.machine with loadable }).answer (.loadableCount loadable.length)
  | .forgetLoadable name =>
    let loadable := session.machine.loadable.filter (·.name ≠ name)
    (session.setMachine { session.machine with loadable }).answer (.loadableCount loadable.length)
  | .addInitializer className guest =>
    session.orRefuse (session.guestCode guest) fun code =>
      let initializers := session.machine.initializers ++ [⟨className, code⟩]
      (session.setMachine { session.machine with initializers }).answer
        (.ruleCount initializers.length)
  | .addConstructor className? remaining? guest =>
    session.orRefuse (session.guestCode guest) fun code =>
      let constructors := session.machine.constructors ++ [⟨className?, remaining?, code⟩]
      (session.setMachine { session.machine with constructors }).answer
        (.ruleCount constructors.length)
  | .configure edit =>
    let settings := edit.apply session.machine.settings
    (session.setMachine { session.machine with settings }).answer (.settings settings)
  | .allocate id =>
    session.orFail (Diagnostic.classAt session.machine.registry id) fun descriptor =>
      let (object, machine) := session.machine.allocate id descriptor.fieldCount
      (session.setMachine machine).answer (.allocated object)
  | .allocateArray id values =>
    let (object, heap) := session.machine.heap.allocateArray id values
    (session.setMachine { session.machine with heap }).answer (.allocated object)
  | .allocateText id text =>
    let (object, heap) := session.machine.heap.allocateText id text
    (session.setMachine { session.machine with heap }).answer (.allocated object)
  | .setField object index value =>
    session.orFail (session.objectAt object) fun _ =>
      match session.machine.heap.setField? object index value with
      | some heap =>
        (session.setMachine { session.machine with heap }).answer (.fieldSet true)
      | none => session.answer (.fieldSet false)
  | .showField object index =>
    session.orFail (session.objectAt object) fun found =>
      session.answer (.field (found.field? index))
  | .showObject object => session.answer (.object (session.machine.heap.get? object))
  | .countObjects => session.answer (.objectCount session.machine.heap.size)
  | .addMethod method =>
    { session with methods := session.methods.push method }.answer
      (.methodAdded session.methods.size)
  | .addThread name classId =>
    { session with threads := session.threads.push { name, classId } }.answer
      (.threadAdded session.threads.size)
  | .push number methodNumber pc =>
    session.withThread number fun thread =>
      match session.methods[methodNumber]? with
      | some method =>
        let thread := thread.push { method, pc }
        (session.setThread number thread).answer (.frameCount thread.depth)
      | none => session.refuse .unknownMethod
  | .pop number =>
    session.withThread number fun thread =>
      let thread := thread.pop
      (session.setThread number thread).answer (.frameCountAfterPop thread.depth)
  | .setPc number pc =>
    session.withThread number fun thread =>
      let thread := thread.setPc pc
      (session.setThread number thread).answer (.line (thread.current?.map Frame.line))
  | .rename number name =>
    session.withThread number fun thread =>
      (session.setThread number { thread with name }).answer (.threadName name)
  | .showThread number => session.withThread number fun thread => session.answer (.thread thread)
  | .showDiagnostic number object =>
    session.withThread number fun thread =>
      session.orFail
        (Diagnostic.thrown session.machine.registry session.machine.heap thread object)
        fun thrown => session.answer (.text (some thrown.diagnostic))
  | .showMessage object =>
    session.answer (.text (Diagnostic.messageText? session.machine.heap object))
  | .findBuiltin text =>
    session.answer (.builtin (session.machine.builtinNamed? text))
  | .showState number =>
    session.withThread number fun thread =>
      session.answer (.state (.of session.machine thread))
  | .dispatch number request =>
    session.operate number request fun error snapshot records =>
      (.answered (.fatal error snapshot), records)
  | .raise number request =>
    session.operate number request fun error _ records =>
      (.ended error, records ++ [.terminating error.status])
  | .terminate error => ⟨.ended error, session, [.terminating error.status]⟩

section

variable {P : Session → Prop} {session : Session}

/-- Whatever holds before a look-up, and after what it goes on with, holds after both. -/
theorem orFail_session {α : Type} (hsession : P session) (found : Except Fault α) {go : α → Step}
    (hgo : ∀ value, P (go value).session) : P (session.orFail found go).session := by
  cases found with
  | ok value => exact hgo value
  | error fault => exact hsession

/-- Whatever holds before a request, and after what it goes on with, holds after both. -/
theorem orRefuse_session {α : Type} (hsession : P session) (found : Except Refusal α)
    {go : α → Step} (hgo : ∀ value, P (go value).session) :
    P (session.orRefuse found go).session := by
  cases found with
  | ok value => exact hgo value
  | error refusal => exact hsession

/-- Whatever holds before a thread is looked up, and after what that goes on with, holds after
both. -/
theorem withThread_session (hsession : P session) (number : Nat) {go : Thread → Step}
    (hgo : ∀ thread, session.threads[number]? = some thread → P (go thread).session) :
    P (session.withThread number go).session := by
  rw [withThread]
  cases hthread : session.threads[number]? with
  | none => exact hsession
  | some thread => exact hgo thread hthread

end

end Session

end ExceptionDispatch
