import ExceptionDispatch.Proofs.Evaluation

/-!
# Courses of dispatch

The parts of dispatch call each other through the guest code that they run. A course says what any
of them can do to an execution, one rule for each kind of step, with all that is known when the step
is taken; the parts themselves, their answers and their logs are left out. What a step preserves is
then preserved by a whole operation, by one induction over its course, and no proof has to follow
the calls again.
-/

namespace ExceptionDispatch

/-- How a part of an operation ends, as far as its caller has to know. -/
inductive Exit
  /-- The caller goes on. -/
  | normal
  /-- An exception was dispatched to a handler, and the caller ends as well. -/
  | unwound (handler : Handler)
  /-- The operation ends without a result. -/
  | halted (halt : Halt)
  deriving DecidableEq, Repr

/-- The exit of a part that began after so many frames were popped. -/
def Exit.addPopped (count : Nat) : Exit → Exit
  | unwound handler => unwound ⟨handler.pc, count + handler.popped⟩
  | exit => exit

/-- Without popped frames the exit is the same. -/
@[simp] theorem Exit.addPopped_zero (exit : Exit) : exit.addPopped 0 = exit := by
  cases exit <;> simp [addPopped]

/-- Popped frames add up. -/
theorem Exit.addPopped_addPopped (exit : Exit) (first second : Nat) :
    (exit.addPopped first).addPopped second = exit.addPopped (second + first) := by
  cases exit <;> simp [addPopped, Nat.add_assoc]

/-- Popped frames do not make a caller go on. -/
@[simp] theorem Exit.addPopped_eq_normal_iff {exit : Exit} {count : Nat} :
    exit.addPopped count = .normal ↔ exit = .normal := by
  cases exit <;> simp [addPopped]

/-- Popped frames do not matter to an operation that ends without a result. -/
@[simp] theorem Exit.addPopped_eq_halted_iff {exit : Exit} {count : Nat} {halt : Halt} :
    exit.addPopped count = .halted halt ↔ exit = .halted halt := by
  cases exit <;> simp [addPopped]

/-- A frame that handles every exception at its current instruction: an entry of its catch table
protects the instruction and is for all of them. -/
def Frame.CatchesAll (frame : Frame) : Prop :=
  ∃ entry ∈ frame.method.catches, entry.Protects frame.pc ∧ entry.catchType = .any

/-- Whether guest code has the machine dispatch an exception. -/
def GuestAction.raises : GuestAction → Bool
  | .nothing | .message _ => false
  | .raise _ | .throw _ => true

/-- Whether an event tells of the construction depth going up or down. -/
def Event.marksDepth : Event → Bool
  | .constructorEntered _ | .constructorLeft _ => true
  | _ => false

/-- Whether an event tells of guest code beginning or ending. -/
def Event.marksGuest : Event → Bool
  | .guestEntered _ | .guestLeft _ => true
  | _ => false

/-- Whether an event tells of a handler being installed. -/
def Event.installs : Event → Bool
  | .caught _ _ => true
  | _ => false

/-- What a fault says of the machine that it comes from: something was looked up that is not there,
or a walk along superclasses came to no end. No machine is to blame for guest code that is nested
too deep. -/
def Machine.Explains (machine : Machine) : Fault → Prop
  | .noSuchClass id => machine.registry.get? id = none
  | .noSuchObject object => machine.heap.get? object = none
  | .endlessAncestry id =>
    ∃ thrown sought, machine.registry.isSubclass thrown sought = .error (.endlessAncestry id)
  | .nestingExceeded => False

/-- How guest code that began at a depth ends, once what it did has ended in some way: its frames
are popped unless there was an error, and an exception that was caught on them is no matter of the
caller. -/
inductive GuestEnds (base : Nat) (acted : Execution) : Exit → Exit → Execution → Prop
  | returned : GuestEnds base acted .normal .normal (acted.leaveGuest base .returned)
  | caught (handler : Handler) (hdepth : base < acted.thread.depth) :
      GuestEnds base acted (.unwound handler) .normal (acted.leaveGuest base .returned)
  | unwound (handler : Handler) (hdepth : acted.thread.depth ≤ base) :
      GuestEnds base acted (.unwound handler) (.unwound handler)
        (acted.leaveGuest base (.unwound handler))
  | halted (halt : Halt) : GuestEnds base acted (.halted halt) (.halted halt) acted

/-- What a part of dispatch can do: `Course bound object? raises start exit finish` if it can get
from one execution to another one and end like that, where guest code is nested at most `bound`
times, `object?` is the object that the guest code around it constructs, and at most `raises`
exceptions are constructed outside any guest code of its own. -/
inductive Course : Nat → Option ObjectRef → Nat → Execution → Exit → Execution → Prop
  | refl {bound object? raises} (start : Execution) :
      Course bound object? raises start .normal start
  | trans {bound object? first second start middle exit finish}
      (hfirst : Course bound object? first start .normal middle)
      (hsecond : Course bound object? second middle exit finish) :
      Course bound object? (first + second) start exit finish
  | record {bound object? raises start exit finish} (event : Event)
      (hcourse : Course bound object? raises start exit finish)
      (hdepth : event.marksDepth = false) (hguest : event.marksGuest = false)
      (hinstalls : event.installs = false) :
      Course bound object? raises start exit (finish.record event)
  /-- A class is loaded. -/
  | load {bound object? raises} {start : Execution} {name : String} {id : ClassId}
      {machine : Machine} (hid : start.machine.registry.idOf? name = none)
      (hload : start.machine.load? name = some (id, machine)) :
      Course bound object? raises start .normal { start with machine }
  /-- A constructor gives its object a message. -/
  | message {bound raises} (start : Execution) (object : ObjectRef) (text : String) :
      Course bound (some object) raises start .normal
        { start with machine := start.machine.writeMessage object text }
  /-- The initializer of a class that is not registered is run. -/
  | initializer {bound object? raises acted} {start : Execution} {name : String}
      {code : GuestCode} {machine : Machine} {inner exit finish}
      (hid : start.machine.registry.idOf? name = none)
      (htake : start.machine.takeInitializer? name = some (code, machine))
      (hact : Course bound none 1 ({ start with machine }.enterGuest code) inner acted)
      (hquiet : code.action.raises = false → inner = .normal)
      (hends : GuestEnds start.thread.depth acted inner exit finish) :
      Course (bound + 1) object? raises start exit finish
  | initializerTooDeep {object? raises} {start : Execution} {name : String} {code : GuestCode}
      {machine : Machine} (hid : start.machine.registry.idOf? name = none)
      (htake : start.machine.takeInitializer? name = some (code, machine)) :
      Course 0 object? raises start (.halted (.fault .nestingExceeded)) { start with machine }
  /-- An exception is constructed that has no constructor. -/
  | construct {bound object? raises} {start : Execution} {kind : Builtin} {id : ClassId}
      {descriptor : ClassDescriptor}
      (hdepth : start.thread.constructionDepth < start.machine.settings.maxConstructionDepth)
      (hid : start.machine.registry.idOf? kind.className = some id)
      (hget : start.machine.registry.get? id = some descriptor)
      (htake : (start.beginConstruction kind id descriptor).machine.takeConstructor?
        descriptor.name = none) :
      Course bound object? (raises + 1) start .normal
        ((start.beginConstruction kind id descriptor).leaveConstructor start.nextObject)
  /-- An exception is constructed by its constructor. -/
  | constructor {bound object? raises acted} {start : Execution} {kind : Builtin} {id : ClassId}
      {descriptor : ClassDescriptor} {code : GuestCode} {machine : Machine} {inner exit finish}
      (hdepth : start.thread.constructionDepth < start.machine.settings.maxConstructionDepth)
      (hid : start.machine.registry.idOf? kind.className = some id)
      (hget : start.machine.registry.get? id = some descriptor)
      (htake : (start.beginConstruction kind id descriptor).machine.takeConstructor?
        descriptor.name = some (code, machine))
      (hact : Course bound (some start.nextObject) 1
        ({ start.beginConstruction kind id descriptor with machine }.enterGuest code) inner acted)
      (hquiet : code.action.raises = false → inner = .normal)
      (hends : GuestEnds start.thread.depth acted inner exit finish) :
      Course (bound + 1) object? (raises + 1) start exit
        (finish.leaveConstructor start.nextObject)
  | constructorTooDeep {object? raises} {start : Execution} {kind : Builtin} {id : ClassId}
      {descriptor : ClassDescriptor} {code : GuestCode} {machine : Machine}
      (hdepth : start.thread.constructionDepth < start.machine.settings.maxConstructionDepth)
      (hid : start.machine.registry.idOf? kind.className = some id)
      (hget : start.machine.registry.get? id = some descriptor)
      (htake : (start.beginConstruction kind id descriptor).machine.takeConstructor?
        descriptor.name = some (code, machine)) :
      Course 0 object? (raises + 1) start (.halted (.fault .nestingExceeded))
        ({ start.beginConstruction kind id descriptor with machine }.leaveConstructor
          start.nextObject)
  /-- The current frame handles an exception. -/
  | caught {bound object? raises} {start : Execution} {frame : Frame} {callers : List Frame}
      {entry : CatchEntry} (passage : Passage) (popped : Nat)
      (hframes : start.thread.frames = frame :: callers) (hentry : entry ∈ frame.covering) :
      Course bound object? raises start (.unwound ⟨entry.handlerPc, 0⟩)
        ((start.modifyThread (Thread.setPc · entry.handlerPc)).record
          (.caught passage ⟨entry.handlerPc, popped⟩))
  /-- The current frame is popped, and the search goes on below it. -/
  | popped {bound object? raises} {start : Execution} {frame : Frame} {callers : List Frame}
      {exit finish} (hframes : start.thread.frames = frame :: callers)
      (hframe : ¬ frame.CatchesAll)
      (hrest : Course bound object? raises (start.modifyThread Thread.pop) exit finish)
      (hexit : exit ≠ .normal) :
      Course bound object? raises start (exit.addPopped 1) finish
  | uncaught {bound object? raises} {start : Execution} (diagnostic : String)
      (hframes : start.thread.frames = []) :
      Course bound object? raises start (.halted (.fatal (.uncaught diagnostic))) start
  | bootstrap {bound object? raises} {start : Execution} {kind : Builtin}
      (hid : start.machine.registry.idOf? kind.className = none)
      (hload : start.machine.load? kind.className = none) :
      Course bound object? raises start (.halted (.fatal (.bootstrap kind.className))) start
  | constructionDepth {bound object? raises} {start : Execution} (kind : Builtin)
      (hdepth : start.machine.settings.maxConstructionDepth ≤ start.thread.constructionDepth) :
      Course bound object? raises start
        (.halted (.fatal (.constructionDepth kind.className
          start.machine.settings.maxConstructionDepth))) start
  | fault {bound object? raises} (start : Execution) {fault : Fault}
      (hfault : start.machine.Explains fault) :
      Course bound object? raises start (.halted (.fault fault)) start

namespace Course

variable {bound raises : Nat} {object? : Option ObjectRef} {start middle finish : Execution}
  {exit : Exit}

/-- A course goes on with one that constructs nothing itself. -/
theorem andThen (hfirst : Course bound object? raises start .normal middle)
    (hsecond : Course bound object? 0 middle exit finish) :
    Course bound object? raises start exit finish :=
  hfirst.trans hsecond

/-- A course that constructs nothing itself comes first. -/
theorem before (hfirst : Course bound object? 0 start .normal middle)
    (hsecond : Course bound object? raises middle exit finish) :
    Course bound object? raises start exit finish := by
  have hcourse := hfirst.trans hsecond
  rwa [Nat.zero_add] at hcourse

/-- A course that constructs nothing itself is one that may. -/
theorem weaken (hcourse : Course bound object? 0 start exit finish) :
    Course bound object? raises start exit finish :=
  (refl start).andThen hcourse

/-- A course can begin with an event. -/
theorem recordFirst (event : Event) (hdepth : event.marksDepth = false)
    (hguest : event.marksGuest = false) (hinstalls : event.installs = false)
    (hcourse : Course bound object? raises (start.record event) exit finish) :
    Course bound object? raises start exit finish :=
  ((refl start).record event hdepth hguest hinstalls).before hcourse

end Course

end ExceptionDispatch
