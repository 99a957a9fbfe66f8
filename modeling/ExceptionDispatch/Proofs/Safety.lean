import ExceptionDispatch.Machine.Standard
import ExceptionDispatch.Proofs.Course.Nesting
import ExceptionDispatch.Proofs.WellFormed

/-!
# Safety

On a well-formed machine no operation looks up what is not there, however deep its guest code is
nested, and whichever way the operation ends, the machine is well-formed again. The parts of
dispatch are taken one by one: each of them, from a well-formed execution, ends without a fault in
an execution that is well-formed and has all that was there before. Main statement:
`Operation.run_wellFormed`.
-/

namespace ExceptionDispatch

/-- An execution is well-formed and has all classes and objects that another one has. -/
structure Execution.Advances (start finish : Execution) : Prop where
  growsTo : start.machine.GrowsTo finish.machine
  wellFormed : finish.WellFormed

namespace Execution.Advances

variable {start middle finish : Execution}

private theorem refl (hstart : start.WellFormed) : start.Advances start := ⟨.refl _, hstart⟩

private theorem trans (hfirst : start.Advances middle) (hsecond : middle.Advances finish) :
    start.Advances finish :=
  ⟨hfirst.growsTo.trans hsecond.growsTo, hsecond.wellFormed⟩

private theorem of_changes (hstart : start.WellFormed) {machine : Machine}
    (h : start.machine.Changes machine) : start.Advances { start with machine } where
  growsTo := h.growsTo
  wellFormed := ⟨h.wellFormed hstart.machine, h.growsTo.thread_fitsIn hstart.thread⟩

private theorem of_thread (hstart : start.WellFormed) (hmachine : finish.machine = start.machine)
    (hclass : finish.thread.classId = start.thread.classId)
    (hframes : ∀ frame ∈ finish.thread.frames,
      (∃ other ∈ start.thread.frames, frame.method = other.method) ∨
        frame.method.owner.index < start.machine.registry.size) : start.Advances finish := by
  refine ⟨hmachine ▸ .refl _, hmachine ▸ hstart.machine, ?_, ?_⟩
  · rw [hclass, hmachine]
    exact hstart.thread.classId
  · intro frame hframe
    rw [hmachine]
    rcases hframes frame hframe with ⟨other, hother, hmethod⟩ | howner
    · rw [hmethod]
      exact hstart.thread.frames other hother
    · exact howner

private theorem of_frames_subset (hstart : start.WellFormed)
    (hmachine : finish.machine = start.machine)
    (hclass : finish.thread.classId = start.thread.classId)
    (hframes : finish.thread.frames ⊆ start.thread.frames) : start.Advances finish := by
  apply of_thread hstart hmachine hclass
  intro frame hframe
  exact .inl ⟨frame, hframes hframe, rfl⟩

private theorem record (hstart : start.WellFormed) (event : Event) :
    start.Advances (start.record event) :=
  of_frames_subset hstart rfl rfl (List.Subset.refl _)

private theorem pop (hstart : start.WellFormed) :
    start.Advances (start.modifyThread Thread.pop) :=
  of_frames_subset hstart rfl rfl (List.tail_sublist _).subset

private theorem truncate (hstart : start.WellFormed) (depth : Nat) :
    start.Advances (start.modifyThread (Thread.truncate · depth)) :=
  of_frames_subset hstart rfl rfl (List.drop_sublist _ _).subset

private theorem leaveConstructor (h : start.Advances middle) (object : ObjectRef) :
    start.Advances (middle.leaveConstructor object) :=
  h.trans (of_frames_subset h.wellFormed rfl rfl (List.Subset.refl _))

private theorem setPc (hstart : start.WellFormed) (pc : UInt16) :
    start.Advances (start.modifyThread (Thread.setPc · pc)) := by
  refine of_thread hstart rfl ?_ ?_
  · rw [thread_modifyThread, Thread.setPc_eq]
  · intro frame hframe
    left
    simp only [thread_modifyThread, Thread.setPc] at hframe
    split at hframe
    next => exact ⟨frame, hframe, rfl⟩
    next top callers htop =>
      rw [htop]
      rcases List.mem_cons.1 hframe with rfl | hmem
      · exact ⟨top, List.mem_cons_self, rfl⟩
      · exact ⟨frame, List.mem_cons_of_mem _ hmem, rfl⟩

private theorem pushAll (hstart : start.WellFormed) {code : GuestCode}
    (hcode : code.FitsIn start.machine) :
    start.Advances (start.modifyThread (Thread.pushAll · code.frames)) := by
  refine of_thread hstart rfl rfl ?_
  intro frame hframe
  simp only [thread_modifyThread, Thread.pushAll, List.mem_append, List.mem_reverse] at hframe
  rcases hframe with hpushed | hmem
  · exact .inr (hcode.frames frame hpushed)
  · exact .inl ⟨frame, hmem, rfl⟩

end Execution.Advances

/-- A class that was found is registered. -/
def Resolution.FitsIn (resolution : Resolution) (machine : Machine) : Prop :=
  ∀ id, resolution = .loaded id → id.index < machine.registry.size

/-- An exception that was constructed exists. -/
def Construction.FitsIn (construction : Construction) (machine : Machine) : Prop :=
  ∀ object, construction = .finished object → object.index < machine.heap.size

namespace Dispatch

/-- A part of dispatch ends without a fault, unless guest code is nested too deep, in a well-formed
execution, and its answer fits the machine. -/
def Safe {α : Type} (start : Execution) (valid : α → Machine → Prop)
    (result : EStateM.Result Halt Execution α) : Prop :=
  start.Advances (finalOf result) ∧
    match result with
    | .ok value after => valid value after.machine
    | .error (.fault fault) _ => fault = .nestingExceeded
    | .error (.fatal _) _ => True

namespace Safe

variable {α β : Type} {start middle after : Execution} {valid : α → Machine → Prop}
  {validNext : β → Machine → Prop} {part : Dispatch α} {next : α → Dispatch β}

/-- Any answer fits. -/
abbrev Always : α → Machine → Prop := fun _ _ => True

private theorem ok {value : α} (h : start.Advances after) (hvalue : valid value after.machine) :
    Safe start valid (.ok value after) :=
  ⟨h, hvalue⟩

/-- Safe parts may follow each other. -/
theorem bind (hpart : Safe start valid (part start))
    (hnext : ∀ value after, start.Advances after → valid value after.machine →
      Safe after validNext (next value after)) :
    Safe start validNext ((part >>= next) start) := by
  rw [bind_apply]
  cases hresult : part start with
  | error halt after =>
    rw [hresult] at hpart
    cases halt <;> exact hpart
  | ok value after =>
    rw [hresult] at hpart
    have hafter := hnext value after hpart.1 hpart.2
    exact ⟨hpart.1.trans hafter.1, hafter.2⟩

private theorem step {value : α} (hpart : part start = .ok value middle)
    (hmiddle : start.Advances middle) (hnext : Safe middle validNext (next value middle)) :
    Safe start validNext ((part >>= next) start) := by
  rw [bind_apply, hpart]
  exact ⟨hmiddle.trans hnext.1, hnext.2⟩

end Safe

/-- Guest code is safe to run on a well-formed machine if what it refers to is there. -/
def RunnerSafe (run : GuestRunner) : Prop :=
  ∀ code object? start, start.WellFormed → code.FitsIn start.machine →
    Safe start Safe.Always (run code object? start)

section

variable {run : GuestRunner} {start : Execution}

/-! ### Resolving classes -/

private theorem exists_classAt_eq {id : ClassId} (hid : id.index < start.machine.registry.size) :
    ∃ descriptor, start.machine.registry.get? id = some descriptor ∧
      classAt id start = .ok descriptor start := by
  obtain ⟨descriptor, hget⟩ := Option.isSome_iff_exists.1 (Registry.get?_isSome_iff.2 hid)
  exact ⟨descriptor, hget, by rw [classAt_apply, hget]⟩

private theorem find_safe (hstart : start.WellFormed) (name : String) :
    Safe start Resolution.FitsIn (find name start) := by
  rw [find_apply]
  cases hid : start.machine.registry.idOf? name with
  | some id =>
    apply Safe.ok (.refl hstart)
    intro found hfound
    cases hfound
    exact Registry.lt_size_of_idOf? hid
  | none =>
    cases hload : start.machine.load? name with
    | none => exact .ok (.refl hstart) fun _ hfound => by cases hfound
    | some loaded =>
      apply Safe.ok (.of_changes hstart (.load hid hload))
      intro found hfound
      cases hfound
      exact Registry.lt_size_of_idOf? (Machine.idOf?_of_load? hload)

private theorem resolve_safe (hrun : RunnerSafe run) (hstart : start.WellFormed) (name : String) :
    Safe start Resolution.FitsIn (resolve run name start) := by
  apply Safe.step (get_apply start) (.refl hstart)
  cases hid : start.machine.registry.idOf? name with
  | some id => exact find_safe hstart name
  | none =>
    cases htake : start.machine.takeInitializer? name with
    | none => exact find_safe hstart name
    | some taken =>
      obtain ⟨code, machine⟩ := taken
      have hchange : start.machine.Changes machine := .initializer htake
      have htaken : start.Advances { start with machine } := .of_changes hstart hchange
      have hmem := Machine.mem_guestCodes_of_takeInitializer? htake
      have hcode : code.FitsIn machine :=
        hchange.growsTo.guestCode_fitsIn (hstart.machine.guestCodes code hmem)
      apply Safe.step (setMachine_apply start machine) htaken
      apply (hrun code none _ htaken.wellFormed hcode).bind
      intro outcome after hafter _
      cases outcome with
      | returned => exact find_safe hafter.wellFormed name
      | unwound handler => exact .ok (.refl hafter.wellFormed) fun _ hfound => by cases hfound

private theorem resolveConstant_safe (hrun : RunnerSafe run) (hstart : start.WellFormed)
    (ref : ClassRef) {context : ClassId} (hcontext : context.index < start.machine.registry.size) :
    Safe start Resolution.FitsIn (resolveConstant run ref context start) := by
  obtain ⟨descriptor, -, hclass⟩ := exists_classAt_eq hcontext
  apply Safe.step hclass (.refl hstart)
  cases descriptor.classNameAt? ref with
  | none => exact .ok (.refl hstart) fun _ hfound => by cases hfound
  | some name => exact resolve_safe hrun hstart name

/-! ### Searching for a handler -/

private theorem exists_catches_eq (hrooted : start.machine.Rooted) (target : ClassId)
    {thrown : ClassId} (hthrown : thrown.index < start.machine.registry.size) :
    ∃ answer, catches target thrown start = .ok answer start := by
  rw [catches_apply, verdict]
  cases start.machine.settings.catchMatching with
  | exact => exact ⟨_, rfl⟩
  | subclass =>
    obtain ⟨answer, hanswer, -⟩ := Registry.isSubclass_eq hrooted.registry hthrown target
    exact ⟨answer, by simp only [hanswer]⟩

/-- Searching the entries of a method is safe. -/
theorem search_safe (hrun : RunnerSafe run) (hstart : start.WellFormed) {thrown : ClassId}
    (hthrown : thrown.index < start.machine.registry.size) {method : Method}
    (howner : method.owner.index < start.machine.registry.size) (entries : List CatchEntry) :
    Safe start Safe.Always (search run thrown method entries start) := by
  induction entries generalizing start with
  | nil => exact .ok (.refl hstart) trivial
  | cons entry rest ih =>
    rw [search]
    cases entry.catchType with
    | any => exact .ok (.refl hstart) trivial
    | only ref =>
      apply (resolveConstant_safe hrun hstart ref howner).bind
      intro resolution after hafter _
      have hthrownAfter := hafter.growsTo.lt_registry_size hthrown
      have hownerAfter := hafter.growsTo.lt_registry_size howner
      cases resolution with
      | unwound handler => exact .ok (.refl hafter.wellFormed) trivial
      | loaded target =>
        obtain ⟨answer, hanswer⟩ :=
          exists_catches_eq hafter.wellFormed.machine.toRooted target hthrownAfter
        apply Safe.step hanswer (.refl hafter.wellFormed)
        cases answer with
        | true => exact .ok (.refl hafter.wellFormed) trivial
        | false => exact ih hafter.wellFormed hthrownAfter hownerAfter
      | missing =>
        obtain ⟨owner, -, hclass⟩ := exists_classAt_eq hownerAfter
        have hrecorded := Execution.Advances.record hafter.wellFormed
          (.unresolved ref.index owner.name method.name)
        apply Safe.step hclass (.refl hafter.wellFormed)
        apply Safe.step (record_apply after _) hrecorded
        exact ih hrecorded.wellFormed hthrownAfter hownerAfter

/-- Searching the stack is safe. -/
theorem searchFrames_safe (hrun : RunnerSafe run) (hstart : start.WellFormed)
    {exception : Thrown} (hthrown : exception.classId.index < start.machine.registry.size)
    (popped : Nat) {frames : List Frame}
    (howners : ∀ frame ∈ frames, frame.method.owner.index < start.machine.registry.size) :
    Safe start Safe.Always (searchFrames run exception popped frames start) := by
  induction frames generalizing start popped with
  | nil => exact ⟨.refl hstart, trivial⟩
  | cons frame callers ih =>
    obtain ⟨howner, hcallers⟩ := List.forall_mem_cons.1 howners
    rw [searchFrames]
    apply (search_safe hrun hstart hthrown howner frame.covering).bind
    intro result after hafter _
    cases result with
    | found pc =>
      have hmoved := Execution.Advances.setPc hafter.wellFormed pc
      have hrecorded := Execution.Advances.record hmoved.wellFormed
        (.caught ⟨exception.className, frame.method.name, frame.pc⟩ ⟨pc, popped⟩)
      apply Safe.step (modifyThread_apply after _) hmoved
      apply Safe.step (record_apply _ _) hrecorded
      exact .ok (.refl hrecorded.wellFormed) trivial
    | unwound handler =>
      have hrecorded := Execution.Advances.record hafter.wellFormed
        (.replaced ⟨exception.className, frame.method.name, frame.pc⟩ handler)
      apply Safe.step (record_apply after _) hrecorded
      exact .ok (.refl hrecorded.wellFormed) trivial
    | notFound =>
      have hrecorded := Execution.Advances.record hafter.wellFormed
        (.popping ⟨exception.className, frame.method.name, frame.pc⟩)
      have hpopped := Execution.Advances.pop hrecorded.wellFormed
      apply Safe.step (record_apply after _) hrecorded
      apply Safe.step (modifyThread_apply _ _) hpopped
      apply ih hpopped.wellFormed (hafter.growsTo.lt_registry_size hthrown)
      intro caller hcaller
      exact hafter.growsTo.lt_registry_size (hcallers caller hcaller)

private theorem unwind_safe (hrun : RunnerSafe run) (hstart : start.WellFormed) {object : ObjectRef}
    (hobject : object.index < start.machine.heap.size) :
    Safe start Safe.Always (unwind run object start) := by
  obtain ⟨found, hfound⟩ := Option.isSome_iff_exists.1 (Heap.get?_isSome_iff.2 hobject)
  have hmem : found.classId ∈ start.machine.heap.classIds := by
    apply List.mem_of_getElem?
    rw [Heap.getElem?_classIds, hfound, Option.map_some]
  have hclass := hstart.machine.objects found.classId hmem
  obtain ⟨exception, hthrown, hid⟩ :=
    Diagnostic.exists_thrown_eq hfound hclass hstart.thread.classId hstart.thread.frames
  rw [unwind_apply, hthrown]
  exact searchFrames_safe hrun hstart (hid ▸ hclass) 0 hstart.thread.frames

/-! ### Raising exceptions -/

private theorem advances_beginConstruction (hstart : start.WellFormed) (kind : Builtin)
    {id : ClassId} {descriptor : ClassDescriptor}
    (hget : start.machine.registry.get? id = some descriptor) :
    start.Advances (start.beginConstruction kind id descriptor) ∧
      start.nextObject.index <
        (start.beginConstruction kind id descriptor).machine.heap.size := by
  have hallocated := Execution.Advances.of_changes hstart (.allocation hget)
  constructor
  · exact hallocated.trans
      (.of_frames_subset hallocated.wellFormed rfl rfl (List.Subset.refl _))
  · simp [Execution.nextObject, Machine.addConstructed, Machine.allocate, Heap.allocate]

private theorem construction_safe (hrun : RunnerSafe run) (hstart : start.WellFormed)
    (kind : Builtin) {id : ClassId} {descriptor : ClassDescriptor}
    (hget : start.machine.registry.get? id = some descriptor) :
    Safe start (fun _ machine => start.nextObject.index < machine.heap.size)
      (construction run kind id descriptor start) := by
  obtain ⟨hbegun, hobject⟩ := advances_beginConstruction hstart kind hget
  rw [construction]
  cases htake : (start.beginConstruction kind id descriptor).machine.takeConstructor?
    descriptor.name with
  | none => exact .ok (hbegun.leaveConstructor _) hobject
  | some taken =>
    obtain ⟨code, machine⟩ := taken
    have hchange := Machine.Changes.constructor htake
    have htaken := Execution.Advances.of_changes hbegun.wellFormed hchange
    have hmem := Machine.mem_guestCodes_of_takeConstructor? htake
    have hcode : code.FitsIn machine :=
      hchange.growsTo.guestCode_fitsIn (hbegun.wellFormed.machine.guestCodes code hmem)
    have hsafe := hrun code (some start.nextObject) _ htaken.wellFormed hcode
    simp only
    cases hresult : run code (some start.nextObject)
      { start.beginConstruction kind id descriptor with machine } with
    | error halt after =>
      rw [hresult] at hsafe
      have hleft := ((hbegun.trans htaken).trans hsafe.1).leaveConstructor start.nextObject
      cases halt <;> exact ⟨hleft, hsafe.2⟩
    | ok outcome after =>
      rw [hresult] at hsafe
      have hleft := ((hbegun.trans htaken).trans hsafe.1).leaveConstructor start.nextObject
      exact .ok hleft ((htaken.trans hsafe.1).growsTo.lt_heap_size hobject)

/-- Constructing an exception is safe. -/
theorem construct_safe (hrun : RunnerSafe run) (hstart : start.WellFormed) (kind : Builtin) :
    Safe start Construction.FitsIn (construct run kind start) := by
  have hresolve := resolve_safe hrun hstart kind.className
  rw [construct_apply]
  simp only
  split
  next => exact ⟨.refl hstart, trivial⟩
  next =>
    cases hresult : resolve run kind.className start with
    | error halt after =>
      rw [hresult] at hresolve
      cases halt <;> exact hresolve
    | ok resolution after =>
      rw [hresult] at hresolve
      have hafter : start.Advances after := hresolve.1
      have hfits : resolution.FitsIn after.machine := hresolve.2
      cases resolution with
      | missing => exact ⟨hafter, trivial⟩
      | unwound handler => exact .ok hafter fun _ hobject => by cases hobject
      | loaded id =>
        obtain ⟨descriptor, hget⟩ :=
          Option.isSome_iff_exists.1 (Registry.get?_isSome_iff.2 (hfits id rfl))
        have hsafe := construction_safe hrun hafter.wellFormed kind hget
        simp only [hget]
        cases hrun : construction run kind id descriptor after with
        | error halt left =>
          rw [hrun] at hsafe
          cases halt <;> exact ⟨hafter.trans hsafe.1, hsafe.2⟩
        | ok outcome left =>
          rw [hrun] at hsafe
          cases outcome with
          | unwound handler =>
            exact .ok (hafter.trans hsafe.1) fun _ hobject => by cases hobject
          | returned =>
            apply Safe.ok (hafter.trans hsafe.1)
            intro object hobject
            cases hobject
            exact hsafe.2

private theorem constructAndUnwind_safe (hrun : RunnerSafe run) (hstart : start.WellFormed)
    (kind : Builtin) : Safe start Safe.Always (constructAndUnwind run kind start) := by
  apply (construct_safe hrun hstart kind).bind
  intro outcome after hafter hfits
  cases outcome with
  | finished object => exact unwind_safe hrun hafter.wellFormed (hfits object rfl)
  | unwound handler => exact .ok (.refl hafter.wellFormed) trivial

private theorem throwObject_safe (hrun : RunnerSafe run) (hstart : start.WellFormed)
    {object? : Option ObjectRef}
    (hobject : ∀ object ∈ object?, object.index < start.machine.heap.size) :
    Safe start Safe.Always (throwObject run object? start) := by
  cases object? with
  | none => exact constructAndUnwind_safe hrun hstart .nullPointer
  | some object => exact unwind_safe hrun hstart (hobject object rfl)

/-! ### Running guest code -/

private theorem act_safe (hrun : RunnerSafe run) (hstart : start.WellFormed)
    (object? : Option ObjectRef) {action : GuestAction}
    (hthrown : ∀ object ∈ action.thrown?, object.index < start.machine.heap.size) :
    Safe start Safe.Always (act run object? action start) := by
  cases action with
  | nothing => exact .ok (.refl hstart) trivial
  | message text =>
    cases object? with
    | none => exact .ok (.refl hstart) trivial
    | some object => exact .ok (.of_changes hstart (.message _ object text)) trivial
  | raise kind =>
    apply (constructAndUnwind_safe hrun hstart kind).bind
    intro handler after hafter _
    exact .ok (.refl hafter.wellFormed) trivial
  | throw thrown? =>
    apply (throwObject_safe hrun hstart hthrown).bind
    intro handler after hafter _
    exact .ok (.refl hafter.wellFormed) trivial

/-- Guest code is safe if what it causes to run is. -/
theorem perform_safe (hrun : RunnerSafe run) : RunnerSafe (perform run) := by
  intro code object? start hstart hcode
  have hpushed := Execution.Advances.pushAll hstart hcode
  have hentered := Execution.Advances.record hpushed.wellFormed
    (.guestEntered code.frames.length)
  apply Safe.step (get_apply start) (.refl hstart)
  apply Safe.step (modifyThread_apply start _) hpushed
  apply Safe.step (record_apply _ _) hentered
  apply (act_safe hrun hentered.wellFormed object? hcode.thrown).bind
  intro raised? after hafter _
  have hdropped := Execution.Advances.truncate hafter.wellFormed start.thread.depth
  have hleft := Execution.Advances.record hdropped.wellFormed
    (.guestLeft (completion start.thread.depth after.thread.depth raised?))
  apply Safe.step (get_apply after) (.refl hafter.wellFormed)
  apply Safe.step (modifyThread_apply after _) hdropped
  apply Safe.step (record_apply _ _) hleft
  exact .ok (.refl hleft.wellFormed) trivial

end

/-- Guest code is safe, however deep it may be nested. -/
theorem runner_safe (bound : Nat) : RunnerSafe (runner bound) := by
  induction bound with
  | zero => exact fun _ _ _ hstart _ => ⟨.refl hstart, rfl⟩
  | succ bound ih => exact perform_safe ih

/-- An operation that is given what is there is safe. -/
theorem runWith_safe (operation : Operation) (bound : Nat) {start : Execution}
    (hstart : start.WellFormed) (hoperation : operation.FitsIn start.machine) :
    Safe start Safe.Always (operation.runWith (runner bound) start) := by
  have hrun := runner_safe bound
  have hdone {α : Type} {after : Execution} (wrap : α → OperationResult) (answer : α)
      (hafter : after.WellFormed) :
      Safe after Safe.Always ((pure (wrap answer) : Dispatch OperationResult) after) :=
    .ok (.refl hafter) trivial
  cases operation with
  | resolve name =>
    exact (resolve_safe hrun hstart name).bind fun answer _ hafter _ =>
      hdone .resolution answer hafter.wellFormed
  | resolveConstant ref context =>
    exact (resolveConstant_safe hrun hstart ref hoperation).bind fun answer _ hafter _ =>
      hdone .resolution answer hafter.wellFormed
  | unwind object =>
    exact (unwind_safe hrun hstart hoperation).bind fun answer _ hafter _ =>
      hdone .handler answer hafter.wellFormed
  | throw object? =>
    exact (throwObject_safe hrun hstart hoperation).bind fun answer _ hafter _ =>
      hdone .handler answer hafter.wellFormed
  | construct kind =>
    exact (construct_safe hrun hstart kind).bind fun answer _ hafter _ =>
      hdone .construction answer hafter.wellFormed
  | constructAndUnwind kind =>
    exact (constructAndUnwind_safe hrun hstart kind).bind fun answer _ hafter _ =>
      hdone .handler answer hafter.wellFormed

end Dispatch

/-! ### Operations -/

/-- An operation on a well-formed execution ends without a fault, and leaves an execution that is
well-formed and has all that was there before. -/
theorem Operation.run_advances {operation : Operation} {start : Execution}
    (hstart : start.WellFormed) (hoperation : operation.FitsIn start.machine) :
    start.Advances (Dispatch.finalOf (operation.run start)) ∧
      ∀ fault after, operation.run start ≠ .error (.fault fault) after := by
  have hsafe := Dispatch.runWith_safe operation start.nestingBound hstart hoperation
  refine ⟨hsafe.1, ?_⟩
  intro fault after hrun
  have hrunWith : operation.runWith (Dispatch.runner start.nestingBound) start =
      .error (.fault fault) after := hrun
  rw [hrunWith] at hsafe
  exact run_ne_nestingExceeded hrun (congrArg Halt.fault hsafe.2)

/-- On a well-formed session no operation looks up what is not there, whichever thread it is for and
however deep guest code is nested; and the session is well-formed again, however the operation ends.
An operation may be given any name, any built-in exception, any object that exists or none, and any
constant of a registered class. -/
theorem Operation.run_wellFormed {session : Session} (h : session.WellFormed) {number : Nat}
    {thread : Thread} (hthread : session.threads[number]? = some thread) {operation : Operation}
    (hoperation : operation.FitsIn session.machine) :
    (∀ fault after, operation.run { machine := session.machine, thread } ≠
      .error (.fault fault) after) ∧
    (session.commit number
      (Dispatch.finalOf (operation.run { machine := session.machine, thread }))).WellFormed := by
  have hstart : Execution.WellFormed { machine := session.machine, thread } :=
    ⟨h.machine, h.threads thread (Array.mem_of_getElem? hthread)⟩
  obtain ⟨hadvances, hfault⟩ := run_advances hstart hoperation
  refine ⟨hfault, hadvances.wellFormed.machine, ?_, ?_⟩
  · intro method hmethod
    exact hadvances.growsTo.lt_registry_size (h.methods method hmethod)
  · intro other hother
    rcases Array.mem_or_eq_of_mem_setIfInBounds hother with hmem | rfl
    · exact hadvances.growsTo.thread_fitsIn (h.threads other hmem)
    · exact hadvances.wellFormed.thread

/-- A method of a class of exceptions that handles everything. -/
def handlingMethod : Method where
  name := "run"
  owner := ⟨1⟩
  catches := [⟨0, 8, 20, .any⟩]

/-- A thread in that method. -/
def handlingThread : Thread where
  name := "main"
  classId := ⟨0⟩
  frames := [⟨handlingMethod, 2⟩]

/-- A session on the standard machine with an object that constructors throw, and an exception whose
initializer raises another one. -/
def nestedSession : Session where
  machine := { Machine.standard with
    heap := (Heap.empty.allocate ⟨1⟩ 1).2
    initializers := [⟨Builtin.nullPointer.className, ⟨.raise .arithmetic, [⟨handlingMethod, 4⟩]⟩⟩]
    constructors := [{ code := ⟨.throw (some ⟨0⟩), [⟨handlingMethod, 9⟩]⟩ }] }
  methods := #[handlingMethod]
  threads := #[handlingThread]

/-- Exceptions that constructors and initializers raise are dispatched without a fault. -/
theorem Operation.run_wellFormed_of_nested :
    nestedSession.WellFormed ∧ nestedSession.threads[0]? = some handlingThread ∧
      (constructAndUnwind .nullPointer).FitsIn nestedSession.machine ∧
      (∀ fault after, (constructAndUnwind .nullPointer).run
        { machine := nestedSession.machine, thread := handlingThread } ≠
          .error (.fault fault) after) ∧
      (nestedSession.commit 0 (Dispatch.finalOf ((constructAndUnwind .nullPointer).run
        { machine := nestedSession.machine, thread := handlingThread }))).WellFormed := by
  have hsession : nestedSession.WellFormed := by decide
  have hthread : nestedSession.threads[0]? = some handlingThread := rfl
  have hfits : (constructAndUnwind .nullPointer).FitsIn nestedSession.machine := trivial
  exact ⟨hsession, hthread, hfits, run_wellFormed hsession hthread hfits⟩

end ExceptionDispatch
