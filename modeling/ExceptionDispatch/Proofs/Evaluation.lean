import ExceptionDispatch.Dispatch.Operation

/-!
# Evaluation

What each part of dispatch does to an execution, with the monad's plumbing worked out. Each equation
has the cases of its definition and names the executions on the way, so that nothing that comes
later has to open a definition of dispatch again. Main statements: `resolve_apply`, `search_cons`,
`searchFrames_cons`, `construct_apply` and `perform_apply`.
-/

namespace ExceptionDispatch

namespace Execution

/-- The execution as guest code begins. -/
def enterGuest (execution : Execution) (code : GuestCode) : Execution :=
  (execution.modifyThread (Thread.pushAll · code.frames)).record
    (.guestEntered code.frames.length)

/-- The execution as guest code that began at a depth has ended. -/
def leaveGuest (execution : Execution) (base : Nat) (outcome : Completion) : Execution :=
  (execution.modifyThread (Thread.truncate · base)).record (.guestLeft outcome)

/-- The handle that the next object gets. -/
def nextObject (execution : Execution) : ObjectRef := ⟨execution.machine.heap.size⟩

/-- The execution as the constructor of an object begins. -/
def enterConstructor (execution : Execution) (object : ObjectRef) : Execution :=
  execution.raiseDepth.record (.constructorEntered object)

/-- The execution as the constructor of an object has ended. -/
def leaveConstructor (execution : Execution) (object : ObjectRef) : Execution :=
  (execution.record (.constructorLeft object)).lowerDepth

/-- The execution as the constructor of a new exception begins. -/
def beginConstruction (execution : Execution) (kind : Builtin) (id : ClassId)
    (descriptor : ClassDescriptor) : Execution :=
  let machine := (execution.machine.allocate id descriptor.fieldCount).2
  let entered := ({ execution with machine }.record (.constructing kind)).enterConstructor
    execution.nextObject
  { entered with machine := entered.machine.addConstructed execution.nextObject }

section

variable (execution : Execution)

/-- An event leaves the machine as it is. -/
@[simp] theorem machine_record (event : Event) :
    (execution.record event).machine = execution.machine := rfl

/-- An event leaves the thread as it is. -/
@[simp] theorem thread_record (event : Event) :
    (execution.record event).thread = execution.thread := rfl

/-- A change of the thread leaves the machine as it is. -/
@[simp] theorem machine_modifyThread (change : Thread → Thread) :
    (execution.modifyThread change).machine = execution.machine := rfl

/-- A change of the thread is made to the thread of the execution. -/
@[simp] theorem thread_modifyThread (change : Thread → Thread) :
    (execution.modifyThread change).thread = change execution.thread := rfl

/-- Guest code leaves the machine as it is when it begins. -/
@[simp] theorem machine_enterGuest (code : GuestCode) :
    (execution.enterGuest code).machine = execution.machine := rfl

/-- Guest code begins on its own frames. -/
@[simp] theorem thread_enterGuest (code : GuestCode) :
    (execution.enterGuest code).thread = execution.thread.pushAll code.frames := rfl

/-- Guest code leaves the machine as it is when it ends. -/
@[simp] theorem machine_leaveGuest (base : Nat) (outcome : Completion) :
    (execution.leaveGuest base outcome).machine = execution.machine := rfl

/-- Guest code takes its frames with it when it ends. -/
@[simp] theorem thread_leaveGuest (base : Nat) (outcome : Completion) :
    (execution.leaveGuest base outcome).thread = execution.thread.truncate base := rfl

/-- A constructor leaves the machine as it is when it has ended. -/
@[simp] theorem machine_leaveConstructor (object : ObjectRef) :
    (execution.leaveConstructor object).machine = execution.machine := rfl

/-- After a constructor the thread constructs one exception less. -/
@[simp] theorem thread_leaveConstructor (object : ObjectRef) :
    (execution.leaveConstructor object).thread =
      { execution.thread with
        constructionDepth := execution.thread.constructionDepth - 1 } := rfl

/-- A constructor begins with its object allocated and remembered. -/
@[simp] theorem machine_beginConstruction (kind : Builtin) (id : ClassId)
    (descriptor : ClassDescriptor) :
    (execution.beginConstruction kind id descriptor).machine =
      ((execution.machine.allocate id descriptor.fieldCount).2).addConstructed
        execution.nextObject := rfl

/-- In a constructor the thread constructs one more exception. -/
@[simp] theorem thread_beginConstruction (kind : Builtin) (id : ClassId)
    (descriptor : ClassDescriptor) :
    (execution.beginConstruction kind id descriptor).thread =
      { execution.thread with
        constructionDepth := execution.thread.constructionDepth + 1 } := rfl

/-- The settings stay as a constructor begins. -/
theorem settings_beginConstruction (kind : Builtin) (id : ClassId)
    (descriptor : ClassDescriptor) :
    (execution.beginConstruction kind id descriptor).machine.settings =
      execution.machine.settings := rfl

/-- The initializers stay as a constructor begins. -/
theorem initializers_beginConstruction (kind : Builtin) (id : ClassId)
    (descriptor : ClassDescriptor) :
    (execution.beginConstruction kind id descriptor).machine.initializers =
      execution.machine.initializers := rfl

end

end Execution

/-- What is known of a thrown object comes from three look-ups. -/
theorem Diagnostic.thrown_eq (registry : Registry) (heap : Heap) (thread : Thread)
    (ref : ObjectRef) :
    thrown registry heap thread ref =
      match heap.get? ref with
      | none => .error (.noSuchObject ref)
      | some object =>
        match registry.get? object.classId, registry.get? (origin thread).1 with
        | none, _ => .error (.noSuchClass object.classId)
        | some _, none => .error (.noSuchClass (origin thread).1)
        | some descriptor, some owner =>
          .ok {
            classId := object.classId
            className := descriptor.name
            diagnostic :=
              text thread.name descriptor.name owner.name (origin thread).2.1 owner.sourceFile
                (origin thread).2.2 } := by
  rw [thrown]
  cases heap.get? ref with
  | none => rfl
  | some object =>
    simp only [classAt]
    cases registry.get? object.classId with
    | none => rfl
    | some descriptor => cases registry.get? (origin thread).1 <;> rfl

/-- An exception comes from a registered class if the thread's class and the owners of its methods
are registered. -/
theorem Diagnostic.origin_lt {size : Nat} {thread : Thread} (hthread : thread.classId.index < size)
    (howners : ∀ frame ∈ thread.frames, frame.method.owner.index < size) :
    (origin thread).1.index < size := by
  rw [origin, Thread.current?]
  cases hframes : thread.frames with
  | nil => exact hthread
  | cons frame callers => exact howners frame (by simp [hframes])

/-- A thrown object whose class is registered, on a thread whose class and methods are of registered
classes, is told everything of. -/
theorem Diagnostic.exists_thrown_eq {registry : Registry} {heap : Heap} {thread : Thread}
    {object : ObjectRef} {found : Object} (hobject : heap.get? object = some found)
    (hclass : found.classId.index < registry.size) (hthread : thread.classId.index < registry.size)
    (howners : ∀ frame ∈ thread.frames, frame.method.owner.index < registry.size) :
    ∃ exception, thrown registry heap thread object = .ok exception ∧
      exception.classId = found.classId := by
  have horigin := origin_lt hthread howners
  obtain ⟨descriptor, hdescriptor⟩ :=
    Option.isSome_iff_exists.1 (Registry.get?_isSome_iff.2 hclass)
  obtain ⟨owner, howner⟩ := Option.isSome_iff_exists.1 (Registry.get?_isSome_iff.2 horigin)
  rw [thrown_eq, hobject]
  simp only [hdescriptor, howner]
  exact ⟨_, rfl, rfl⟩

namespace Dispatch

/-! ### Single steps -/

section

variable {α β : Type} (execution : Execution)

/-- An answer changes nothing. -/
theorem pure_apply (value : α) : (pure value : Dispatch α) execution = .ok value execution := rfl

/-- The execution is its own answer. -/
theorem get_apply : (get : Dispatch Execution) execution = .ok execution execution := rfl

/-- Recording an event always succeeds. -/
theorem record_apply (event : Event) :
    record event execution = .ok () (execution.record event) := rfl

/-- Replacing the machine always succeeds. -/
theorem setMachine_apply (machine : Machine) :
    setMachine machine execution = .ok () { execution with machine } := rfl

/-- Changing the machine always succeeds. -/
theorem modifyMachine_apply (change : Machine → Machine) :
    modifyMachine change execution =
      .ok () { execution with machine := change execution.machine } := rfl

/-- Changing the thread always succeeds. -/
theorem modifyThread_apply (change : Thread → Thread) :
    modifyThread change execution = .ok () (execution.modifyThread change) := rfl

/-- An operation goes on with an answer and ends with an error. -/
theorem bind_apply (operation : Dispatch α) (next : α → Dispatch β) :
    (operation >>= next) execution =
      match operation execution with
      | .ok value after => next value after
      | .error halt after => .error halt after := by
  change EStateM.bind operation next execution = _
  rw [EStateM.bind]
  cases operation execution <;> rfl

/-- What comes after a part begins where the part has ended. -/
theorem exists_of_bind_eq_ok {first : Dispatch α} {next : α → Dispatch β}
    {start after : Execution} {value : β} (h : (first >>= next) start = .ok value after) :
    ∃ found middle, first start = .ok found middle ∧ next found middle = .ok value after := by
  rw [bind_apply] at h
  cases hfirst : first start with
  | error halt middle =>
    rw [hfirst] at h
    cases h
  | ok found middle =>
    rw [hfirst] at h
    exact ⟨found, middle, rfl, h⟩

/-- A look-up gives its answer or its fault. -/
theorem orFault_apply (found : Except Fault α) :
    orFault found execution =
      match found with
      | .ok value => .ok value execution
      | .error fault => .error (.fault fault) execution := by
  cases found <;> rfl

/-- A class that is not registered is a fault. -/
theorem classAt_apply (id : ClassId) :
    classAt id execution =
      match execution.machine.registry.get? id with
      | some descriptor => .ok descriptor execution
      | none => .error (.fault (.noSuchClass id)) execution := by
  rw [classAt, bind_apply, get_apply]
  simp only [orFault_apply, Diagnostic.classAt]
  cases execution.machine.registry.get? id <;> rfl

/-- An instance of a registered class gets the next handle. -/
theorem allocate_apply (id : ClassId) :
    allocate id execution =
      match execution.machine.registry.get? id with
      | some descriptor =>
        .ok execution.nextObject
          { execution with machine := (execution.machine.allocate id descriptor.fieldCount).2 }
      | none => .error (.fault (.noSuchClass id)) execution := by
  rw [allocate, bind_apply, classAt_apply]
  cases execution.machine.registry.get? id <;> rfl

end

/-! ### Resolving classes -/

/-- A class is found in the registry, or else in the list of loadable classes. -/
theorem find_apply (name : String) (execution : Execution) :
    find name execution =
      match execution.machine.registry.idOf? name with
      | some id => .ok (.loaded id) execution
      | none =>
        match execution.machine.load? name with
        | none => .ok .missing execution
        | some (id, machine) => .ok (.loaded id) { execution with machine } := by
  simp only [find, bind_apply, get_apply]
  cases execution.machine.registry.idOf? name with
  | some id => rfl
  | none => cases execution.machine.load? name <;> rfl

/-- Only a class that is not registered has its initializer run. -/
theorem resolve_apply (run : GuestRunner) (name : String) (execution : Execution) :
    resolve run name execution =
      match execution.machine.registry.idOf? name, execution.machine.takeInitializer? name with
      | none, some (code, machine) =>
        match run code none { execution with machine } with
        | .ok .returned after => find name after
        | .ok (.unwound handler) after => .ok (.unwound handler) after
        | .error halt after => .error halt after
      | _, _ => find name execution := by
  simp only [resolve, bind_apply, get_apply]
  cases execution.machine.registry.idOf? name with
  | some id => rfl
  | none =>
    cases execution.machine.takeInitializer? name with
    | none => rfl
    | some taken =>
      simp only [bind_apply, setMachine_apply]
      cases run taken.1 none { execution with machine := taken.2 } with
      | error halt after => rfl
      | ok outcome after => cases outcome <;> rfl

/-- Without initializers a class is resolved by finding it. -/
theorem resolve_eq_find (run : GuestRunner) (name : String) {execution : Execution}
    (hinitializers : execution.machine.initializers = []) :
    resolve run name execution = find name execution := by
  have hnone : execution.machine.takeInitializer? name = none := by
    rw [Machine.takeInitializer?, hinitializers]
    rfl
  rw [resolve_apply, hnone]
  cases execution.machine.registry.idOf? name <;> rfl

/-- A constant is resolved by the class name that it holds. -/
theorem resolveConstant_apply (run : GuestRunner) (ref : ClassRef) (context : ClassId)
    (execution : Execution) :
    resolveConstant run ref context execution =
      match execution.machine.registry.get? context with
      | none => .error (.fault (.noSuchClass context)) execution
      | some descriptor =>
        match descriptor.classNameAt? ref with
        | none => .ok .missing execution
        | some name => resolve run name execution := by
  rw [resolveConstant, bind_apply, classAt_apply]
  cases execution.machine.registry.get? context with
  | none => rfl
  | some descriptor =>
    simp only
    cases descriptor.classNameAt? ref <;> rfl

/-! ### Searching for a handler -/

/-- Whether an entry for one class catches the exceptions of another, as the machine's settings have
it. -/
def verdict (machine : Machine) (target thrown : ClassId) : Except Fault Bool :=
  match machine.settings.catchMatching with
  | .exact => .ok (target = thrown)
  | .subclass => machine.registry.isSubclass thrown target

/-- Comparing classes changes nothing. -/
theorem catches_apply (target thrown : ClassId) (execution : Execution) :
    catches target thrown execution =
      match verdict execution.machine target thrown with
      | .ok answer => .ok answer execution
      | .error fault => .error (.fault fault) execution := by
  simp only [catches, bind_apply, get_apply, verdict]
  cases execution.machine.settings.catchMatching with
  | exact => rfl
  | subclass =>
    simp only [orFault_apply]
    cases execution.machine.registry.isSubclass thrown target <;> rfl

/-- Without entries there is nothing to find. -/
theorem search_nil (run : GuestRunner) (thrown : ClassId) (method : Method)
    (execution : Execution) :
    search run thrown method [] execution = .ok .notFound execution := rfl

/-- The first entry decides, unless it is for another class or for one that is missing. -/
theorem search_cons (run : GuestRunner) (thrown : ClassId) (method : Method) (entry : CatchEntry)
    (rest : List CatchEntry) (execution : Execution) :
    search run thrown method (entry :: rest) execution =
      match entry.catchType with
      | .any => .ok (.found entry.handlerPc) execution
      | .only ref =>
        match resolveConstant run ref method.owner execution with
        | .ok (.loaded target) after =>
          match verdict after.machine target thrown with
          | .ok true => .ok (.found entry.handlerPc) after
          | .ok false => search run thrown method rest after
          | .error fault => .error (.fault fault) after
        | .ok .missing after =>
          match after.machine.registry.get? method.owner with
          | some owner =>
            search run thrown method rest
              (after.record (.unresolved ref.index owner.name method.name))
          | none => .error (.fault (.noSuchClass method.owner)) after
        | .ok (.unwound handler) after => .ok (.unwound handler) after
        | .error halt after => .error halt after := by
  rw [search]
  cases entry.catchType with
  | any => rfl
  | only ref =>
    simp only [bind_apply]
    cases resolveConstant run ref method.owner execution with
    | error halt after => rfl
    | ok resolution after =>
      cases resolution with
      | loaded target =>
        simp only [bind_apply, catches_apply]
        cases verdict after.machine target thrown with
        | error fault => rfl
        | ok answer => cases answer <;> rfl
      | missing =>
        simp only [bind_apply, classAt_apply]
        cases after.machine.registry.get? method.owner <;> rfl
      | unwound handler => rfl

/-- An exception that no frame is left for is not caught. -/
theorem searchFrames_nil (run : GuestRunner) (thrown : Thrown) (popped : Nat)
    (execution : Execution) :
    searchFrames run thrown popped [] execution =
      .error (.fatal (.uncaught thrown.diagnostic)) execution := rfl

/-- A frame handles the exception, is popped, or loses it to another one. -/
theorem searchFrames_cons (run : GuestRunner) (thrown : Thrown) (popped : Nat) (frame : Frame)
    (callers : List Frame) (execution : Execution) :
    searchFrames run thrown popped (frame :: callers) execution =
      let passage : Passage := ⟨thrown.className, frame.method.name, frame.pc⟩
      match search run thrown.classId frame.method frame.covering execution with
      | .ok (.found pc) after =>
        .ok ⟨pc, popped⟩
          ((after.modifyThread (Thread.setPc · pc)).record (.caught passage ⟨pc, popped⟩))
      | .ok (.unwound handler) after =>
        .ok ⟨handler.pc, popped + handler.popped⟩ (after.record (.replaced passage handler))
      | .ok .notFound after =>
        searchFrames run thrown (popped + 1) callers
          ((after.record (.popping passage)).modifyThread Thread.pop)
      | .error halt after => .error halt after := by
  rw [searchFrames]
  simp only [bind_apply]
  cases search run thrown.classId frame.method frame.covering execution with
  | error halt after => rfl
  | ok found after =>
    cases found with
    | found pc => simp only [bind_apply, modifyThread_apply, record_apply, pure_apply]
    | notFound => simp only [bind_apply, modifyThread_apply, record_apply]
    | unwound handler => simp only [bind_apply, record_apply, pure_apply]

/-- The search starts at the current frame, once it is known what was thrown. -/
theorem unwind_apply (run : GuestRunner) (object : ObjectRef) (execution : Execution) :
    unwind run object execution =
      match Diagnostic.thrown execution.machine.registry execution.machine.heap execution.thread
        object with
      | .ok thrown => searchFrames run thrown 0 execution.thread.frames execution
      | .error fault => .error (.fault fault) execution := by
  simp only [unwind, bind_apply, get_apply, orFault_apply]
  cases Diagnostic.thrown execution.machine.registry execution.machine.heap execution.thread
    object <;> rfl

/-! ### Raising exceptions -/

/-- The constructor of an object is the one that the first applying rule is for. -/
theorem constructorBody_apply (run : GuestRunner) (object : ObjectRef) {id : ClassId}
    {descriptor : ClassDescriptor} {execution : Execution}
    (hid : execution.machine.registry.get? id = some descriptor) :
    constructorBody run object id execution =
      match (execution.machine.addConstructed object).takeConstructor? descriptor.name with
      | none => .ok .returned { execution with machine := execution.machine.addConstructed object }
      | some (code, machine) => run code (some object) { execution with machine } := by
  have hentered : (execution.machine.addConstructed object).registry.get? id = some descriptor :=
    hid
  simp only [constructorBody, bind_apply, modifyMachine_apply, classAt_apply, hentered, get_apply]
  cases (execution.machine.addConstructed object).takeConstructor? descriptor.name <;> rfl

/-- A constructor that is counted is running on one more construction, and so it is as it ends. -/
theorem counted_runConstructor_apply (run : GuestRunner) (object : ObjectRef) (id : ClassId)
    (execution : Execution) :
    counted (runConstructor run object id) execution =
      match constructorBody run object id (execution.enterConstructor object) with
      | .ok outcome after => .ok outcome (after.leaveConstructor object)
      | .error halt after => .error halt (after.leaveConstructor object) := by
  have hentered : execution.raiseDepth.record (.constructorEntered object) =
      execution.enterConstructor object := rfl
  simp only [counted, runConstructor, between, hentered]
  cases constructorBody run object id (execution.enterConstructor object) <;> rfl

/-- The run of a new exception's constructor, if there is one for its class. -/
def construction (run : GuestRunner) (kind : Builtin) (id : ClassId)
    (descriptor : ClassDescriptor) (execution : Execution) :
    EStateM.Result Halt Execution Completion :=
  let object := execution.nextObject
  let begun := execution.beginConstruction kind id descriptor
  match begun.machine.takeConstructor? descriptor.name with
  | none => .ok .returned (begun.leaveConstructor object)
  | some (code, machine) =>
    match run code (some object) { begun with machine } with
    | .ok outcome after => .ok outcome (after.leaveConstructor object)
    | .error halt after => .error halt (after.leaveConstructor object)

/-- The constructor of an exception whose class is registered begins on the new object. -/
theorem counted_runConstructor (run : GuestRunner) (kind : Builtin) {id : ClassId}
    {descriptor : ClassDescriptor} {execution : Execution}
    (hid : execution.machine.registry.get? id = some descriptor) :
    counted (runConstructor run execution.nextObject id)
        (({ execution with
          machine := (execution.machine.allocate id descriptor.fieldCount).2 } : Execution).record
            (.constructing kind)) =
      construction run kind id descriptor execution := by
  have hbody : constructorBody run execution.nextObject id
      ((({ execution with
        machine := (execution.machine.allocate id descriptor.fieldCount).2 } : Execution).record
          (.constructing kind)).enterConstructor execution.nextObject) =
      match (execution.beginConstruction kind id descriptor).machine.takeConstructor?
        descriptor.name with
      | none => .ok .returned (execution.beginConstruction kind id descriptor)
      | some (code, machine) =>
        run code (some execution.nextObject)
          { execution.beginConstruction kind id descriptor with machine } :=
    constructorBody_apply run execution.nextObject hid
  rw [counted_runConstructor_apply, hbody, construction]
  cases (execution.beginConstruction kind id descriptor).machine.takeConstructor?
    descriptor.name <;> rfl

/-- An exception is constructed below the depth limit if its class can be resolved. -/
theorem construct_apply (run : GuestRunner) (kind : Builtin) (execution : Execution) :
    construct run kind execution =
      let limit := execution.machine.settings.maxConstructionDepth
      if limit ≤ execution.thread.constructionDepth then
        .error (.fatal (.constructionDepth kind.className limit)) execution
      else
        match resolve run kind.className execution with
        | .ok .missing after => .error (.fatal (.bootstrap kind.className)) after
        | .ok (.unwound handler) after => .ok (.unwound handler) after
        | .ok (.loaded id) after =>
          match after.machine.registry.get? id with
          | none => .error (.fault (.noSuchClass id)) after
          | some descriptor =>
            match construction run kind id descriptor after with
            | .ok .returned left => .ok (.finished after.nextObject) left
            | .ok (.unwound handler) left => .ok (.unwound handler) left
            | .error halt left => .error halt left
        | .error halt after => .error halt after := by
  simp only [construct, bind_apply, get_apply]
  split
  · rfl
  · rw [bind_apply]
    cases resolve run kind.className execution with
    | error halt after => rfl
    | ok resolution after =>
      cases resolution with
      | missing => rfl
      | unwound handler => rfl
      | loaded id =>
        simp only [bind_apply, allocate_apply]
        cases hid : after.machine.registry.get? id with
        | none => rfl
        | some descriptor =>
          simp only [record_apply, counted_runConstructor run kind hid]
          cases construction run kind id descriptor after with
          | error halt left => rfl
          | ok outcome left => cases outcome <;> rfl

/-- A constructed exception is thrown. -/
theorem constructAndUnwind_apply (run : GuestRunner) (kind : Builtin) (execution : Execution) :
    constructAndUnwind run kind execution =
      match construct run kind execution with
      | .ok (.finished object) after => unwind run object after
      | .ok (.unwound handler) after => .ok handler after
      | .error halt after => .error halt after := by
  rw [constructAndUnwind, bind_apply]
  cases construct run kind execution with
  | error halt after => rfl
  | ok outcome after => cases outcome <;> rfl

/-! ### Running guest code -/

/-- Guest code that raises nothing at most writes a message. -/
theorem act_apply (run : GuestRunner) (object? : Option ObjectRef) (action : GuestAction)
    (execution : Execution) :
    act run object? action execution =
      match action, object? with
      | .nothing, _ => .ok none execution
      | .message _, none => .ok none execution
      | .message text, some object =>
        .ok none { execution with machine := execution.machine.writeMessage object text }
      | .raise kind, _ =>
        match constructAndUnwind run kind execution with
        | .ok handler after => .ok (some handler) after
        | .error halt after => .error halt after
      | .throw thrown?, _ =>
        match throwObject run thrown? execution with
        | .ok handler after => .ok (some handler) after
        | .error halt after => .error halt after := by
  cases action with
  | nothing => rfl
  | message text => cases object? <;> rfl
  | raise kind =>
    simp only [act, bind_apply]
    cases constructAndUnwind run kind execution <;> rfl
  | throw thrown? =>
    simp only [act, bind_apply]
    cases throwObject run thrown? execution <;> rfl

/-- Guest code acts on its own frames, and an error leaves them where they are. -/
theorem perform_apply (run : GuestRunner) (code : GuestCode) (object? : Option ObjectRef)
    (execution : Execution) :
    perform run code object? execution =
      match act run object? code.action (execution.enterGuest code) with
      | .ok raised? after =>
        let outcome := completion execution.thread.depth after.thread.depth raised?
        .ok outcome (after.leaveGuest execution.thread.depth outcome)
      | .error halt after => .error halt after := by
  simp only [perform, get_apply, modifyThread_apply, record_apply, pure_apply, bind_apply,
    Execution.enterGuest, Execution.leaveGuest]
  split
  next h => simp only [h]
  next h => simp only [h]

end Dispatch

end ExceptionDispatch
