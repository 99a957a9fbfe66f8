import ExceptionDispatch.Proofs.Course.Changes
import ExceptionDispatch.Proofs.Course.Nesting

/-!
# Termination

An operation comes to an end, whatever its guest code does. The room for nesting that it starts with
is as good as any greater one, the walks along superclasses end where superclasses come first, and
the constructors that are run can be counted beforehand: no more than the depth limit, and as many
again for each initializer that is used up. Main statement: `Operation.run_terminates`.
-/

namespace ExceptionDispatch

namespace Dispatch

/-! ### More room for nesting -/

/-- One part of dispatch does what another one does, unless guest code is nested too deep for it. -/
def Approximates {α : Type} (part full : Dispatch α) : Prop :=
  ∀ start, (∃ after, part start = .error (.fault .nestingExceeded) after) ∨
    part start = full start

namespace Approximates

variable {α β : Type} {part full : Dispatch α}

private theorem refl (part : Dispatch α) : Approximates part part := fun _ => .inr rfl

/-- Parts that follow each other may both be replaced. -/
theorem bind {next fullNext : α → Dispatch β} (hpart : Approximates part full)
    (hnext : ∀ value, Approximates (next value) (fullNext value)) :
    Approximates (part >>= next) (full >>= fullNext) := by
  intro start
  rw [bind_apply, bind_apply]
  rcases hpart start with ⟨after, hstuck⟩ | heq
  · rw [hstuck]
    exact .inl ⟨after, rfl⟩
  · rw [heq]
    cases full start with
    | ok value after => exact hnext value after
    | error halt after => exact .inr rfl

private theorem andThen (part : Dispatch α) {next fullNext : α → Dispatch β}
    (hnext : ∀ value, Approximates (next value) (fullNext value)) :
    Approximates (part >>= next) (part >>= fullNext) :=
  (refl part).bind hnext

private theorem between (before after : Execution → Execution) (hpart : Approximates part full) :
    Approximates (between before after part) (between before after full) := by
  intro start
  rw [Dispatch.between, Dispatch.between]
  rcases hpart (before start) with ⟨left, hstuck⟩ | heq
  · rw [hstuck]
    exact .inl ⟨after left, rfl⟩
  · rw [heq]
    exact .inr rfl

end Approximates

/-- Guest code is run by one runner as by another one that has more room. -/
def RunnerApproximates (run full : GuestRunner) : Prop :=
  ∀ code object?, Approximates (run code object?) (full code object?)

namespace RunnerApproximates

variable {run full : GuestRunner}

-- Each part of dispatch gets to guest code by the same steps with either runner.

private theorem resolve (h : RunnerApproximates run full) (name : String) :
    Approximates (resolve run name) (resolve full name) := by
  apply Approximates.andThen
  intro execution
  simp only
  cases execution.machine.registry.idOf? name with
  | some id => exact .refl _
  | none =>
    cases execution.machine.takeInitializer? name with
    | none => exact .refl _
    | some taken =>
      apply Approximates.andThen
      intro _
      apply (h taken.1 none).bind
      intro outcome
      exact .refl _

private theorem resolveConstant (h : RunnerApproximates run full) (ref : ClassRef)
    (context : ClassId) :
    Approximates (resolveConstant run ref context) (resolveConstant full ref context) := by
  apply Approximates.andThen
  intro descriptor
  cases descriptor.classNameAt? ref with
  | none => exact .refl _
  | some name => exact h.resolve name

private theorem search (h : RunnerApproximates run full) (thrown : ClassId) (method : Method)
    (entries : List CatchEntry) :
    Approximates (search run thrown method entries) (search full thrown method entries) := by
  induction entries with
  | nil => exact .refl _
  | cons entry rest ih =>
    rw [Dispatch.search, Dispatch.search]
    cases entry.catchType with
    | any => exact .refl _
    | only ref =>
      apply (h.resolveConstant ref method.owner).bind
      intro resolution
      cases resolution with
      | loaded target =>
        apply Approximates.andThen
        intro caught
        cases caught with
        | true => exact .refl _
        | false => exact ih
      | missing =>
        apply Approximates.andThen
        intro owner
        exact .andThen _ fun _ => ih
      | unwound handler => exact .refl _

private theorem searchFrames (h : RunnerApproximates run full) (thrown : Thrown) (popped : Nat)
    (frames : List Frame) :
    Approximates (searchFrames run thrown popped frames)
      (searchFrames full thrown popped frames) := by
  induction frames generalizing popped with
  | nil => exact .refl _
  | cons frame callers ih =>
    rw [Dispatch.searchFrames, Dispatch.searchFrames]
    apply (h.search thrown.classId frame.method frame.covering).bind
    intro result
    cases result with
    | found pc => exact .refl _
    | unwound handler => exact .refl _
    | notFound =>
      apply Approximates.andThen
      intro _
      exact .andThen _ fun _ => ih (popped + 1)

private theorem unwind (h : RunnerApproximates run full) (object : ObjectRef) :
    Approximates (unwind run object) (unwind full object) := by
  apply Approximates.andThen
  intro execution
  apply Approximates.andThen
  intro thrown
  exact h.searchFrames thrown 0 execution.thread.frames

private theorem runConstructor (h : RunnerApproximates run full) (object : ObjectRef)
    (id : ClassId) :
    Approximates (runConstructor run object id) (runConstructor full object id) := by
  apply Approximates.between
  apply Approximates.andThen
  intro _
  apply Approximates.andThen
  intro descriptor
  apply Approximates.andThen
  intro execution
  cases execution.machine.takeConstructor? descriptor.name with
  | none => exact .refl _
  | some taken => exact .andThen _ fun _ => h taken.1 (some object)

private theorem construct (h : RunnerApproximates run full) (kind : Builtin) :
    Approximates (construct run kind) (construct full kind) := by
  apply Approximates.andThen
  intro execution
  simp only
  split
  next => exact .refl _
  next =>
    apply (h.resolve kind.className).bind
    intro resolution
    cases resolution with
    | missing => exact .refl _
    | unwound handler => exact .refl _
    | loaded id =>
      apply Approximates.andThen
      intro object
      apply Approximates.andThen
      intro _
      apply ((h.runConstructor object id).between _ _).bind
      intro outcome
      exact .refl _

private theorem constructAndUnwind (h : RunnerApproximates run full) (kind : Builtin) :
    Approximates (constructAndUnwind run kind) (constructAndUnwind full kind) := by
  apply (h.construct kind).bind
  intro outcome
  cases outcome with
  | finished object => exact h.unwind object
  | unwound handler => exact .refl _

private theorem throwObject (h : RunnerApproximates run full) (object? : Option ObjectRef) :
    Approximates (throwObject run object?) (throwObject full object?) := by
  cases object? with
  | none => exact h.constructAndUnwind .nullPointer
  | some object => exact h.unwind object

private theorem act (h : RunnerApproximates run full) (object? : Option ObjectRef)
    (action : GuestAction) : Approximates (act run object? action) (act full object? action) := by
  cases action with
  | nothing => exact .refl _
  | message text => exact .refl _
  | raise kind => exact (h.constructAndUnwind kind).bind fun _ => .refl _
  | throw thrown? => exact (h.throwObject thrown?).bind fun _ => .refl _

private theorem perform (h : RunnerApproximates run full) :
    RunnerApproximates (perform run) (perform full) := by
  intro code object?
  apply Approximates.andThen
  intro execution
  apply Approximates.andThen
  intro _
  apply Approximates.andThen
  intro _
  apply (h.act object? code.action).bind
  intro raised?
  exact .refl _

end RunnerApproximates

/-- More room for nesting changes nothing for guest code that has room enough. -/
theorem runner_approximates {bound more : Nat} (hbound : bound ≤ more) :
    RunnerApproximates (runner bound) (runner more) := by
  induction bound generalizing more with
  | zero => exact fun _ _ start => .inl ⟨start, rfl⟩
  | succ bound ih =>
    obtain ⟨rest, rfl⟩ := Nat.exists_eq_add_of_le' hbound
    exact (ih (Nat.le_add_left bound rest)).perform

end Dispatch

/-- More room for nesting changes nothing for an operation. -/
theorem Operation.runWith_eq_run (operation : Operation) {start : Execution} {bound : Nat}
    (hbound : start.nestingBound ≤ bound) :
    operation.runWith (Dispatch.runner bound) start = operation.run start := by
  have hrunner := Dispatch.runner_approximates hbound
  have happroximates : Dispatch.Approximates
      (operation.runWith (Dispatch.runner start.nestingBound))
      (operation.runWith (Dispatch.runner bound)) := by
    cases operation with
    | resolve name => exact (hrunner.resolve name).bind fun _ => .refl _
    | resolveConstant ref context =>
      exact (hrunner.resolveConstant ref context).bind fun _ => .refl _
    | unwind object => exact (hrunner.unwind object).bind fun _ => .refl _
    | throw object? => exact (hrunner.throwObject object?).bind fun _ => .refl _
    | construct kind => exact (hrunner.construct kind).bind fun _ => .refl _
    | constructAndUnwind kind => exact (hrunner.constructAndUnwind kind).bind fun _ => .refl _
  rcases happroximates start with ⟨after, hstuck⟩ | heq
  · exact absurd rfl (run_ne_nestingExceeded hstuck)
  · exact heq.symm

/-! ### The number of constructors -/

namespace Execution

/-- How many more constructors may be entered one in the other. -/
def room (execution : Execution) : Nat :=
  execution.machine.settings.maxConstructionDepth.toNat -
    execution.thread.constructionDepth.toNat

/-- The constructors that were run, and as many for each initializer that is left as may be entered
one in the other. -/
def work (execution : Execution) : Nat :=
  execution.machine.constructed.size +
    execution.machine.settings.maxConstructionDepth.toNat * execution.machine.initializers.length

private theorem room_le (execution : Execution) :
    execution.room ≤ execution.machine.settings.maxConstructionDepth.toNat :=
  Nat.sub_le _ _

private theorem Keeps.room_eq {start finish : Execution} (h : start.Keeps finish) :
    finish.room = start.room := by
  rw [room, room, h.settings, h.depth]

private theorem work_takeInitializer {start : Execution} {machine : Machine} {name : String}
    {code : GuestCode} (h : start.machine.takeInitializer? name = some (code, machine)) :
    ({ start with machine } : Execution).work + start.room ≤ start.work := by
  obtain ⟨rule, hfind, -, rfl⟩ := Machine.eq_of_takeInitializer? h
  have hmem : rule ∈ start.machine.initializers := List.mem_of_find?_eq_some hfind
  have herase := List.length_eraseP_of_mem hmem (List.find?_some hfind)
  have hlength : start.machine.initializers.length =
      (start.machine.initializers.eraseP (·.className == name)).length + 1 := by
    have hpos := List.length_pos_of_mem hmem
    omega
  have hroom := start.room_le
  simp only [work, hlength, Nat.mul_add, Nat.mul_one]
  omega

private theorem work_beginConstruction {start : Execution}
    (hdepth : start.thread.constructionDepth < start.machine.settings.maxConstructionDepth)
    (kind : Builtin) (id : ClassId) (descriptor : ClassDescriptor) :
    (start.beginConstruction kind id descriptor).work = start.work + 1 ∧
      (start.beginConstruction kind id descriptor).room + 1 = start.room := by
  have hlt := UInt16.lt_iff_toNat_lt.1 hdepth
  have hconstructed : (start.beginConstruction kind id descriptor).machine.constructed.size =
      start.machine.constructed.size + 1 := by
    simp [Machine.addConstructed, Machine.allocate]
  constructor
  · rw [work, work, settings_beginConstruction, initializers_beginConstruction, hconstructed]
    omega
  · rw [room, room, settings_beginConstruction, toNat_depth_beginConstruction hdepth]
    omega

private theorem work_takeConstructor {start : Execution} {machine : Machine} {className : String}
    {code : GuestCode} (h : start.machine.takeConstructor? className = some (code, machine)) :
    ({ start with machine } : Execution).work = start.work := by
  obtain ⟨rules, -, rfl⟩ := Machine.eq_of_takeConstructor? h
  rfl

end Execution

/-- For each exception that is raised outside of guest code, the constructors that are run are no
more than there is room for, and for each initializer that is used up no more than the limit. -/
theorem Course.work_le {bound raises : Nat} {object? : Option ObjectRef}
    {start finish : Execution} {exit : Exit} (h : Course bound object? raises start exit finish) :
    finish.work ≤ start.work + raises * start.room := by
  -- Guest code raises one exception: an initializer pays for it with its own share of the work, a
  -- constructor with the room that it leaves.
  induction h with
  | refl | caught | uncaught | bootstrap | constructionDepth | fault => exact Nat.le_add_right _ _
  | trans hfirst _ ihfirst ihsecond =>
    rw [hfirst.keeps.room_eq] at ihsecond
    rw [Nat.add_mul]
    omega
  | record _ _ _ _ _ ih => exact ih
  | load _ hload =>
    obtain ⟨descriptor, -, -, rfl⟩ := Machine.eq_of_load? hload
    exact Nat.le_add_right _ _
  | message start object text =>
    rw [Machine.writeMessage_eq]
    exact Nat.le_add_right _ _
  | @initializer _ _ _ acted start _ code machine _ _ finish _ htake _ _ hends ih =>
    have htaken := Execution.work_takeInitializer htake
    have hroom := (Execution.keeps_enterInitializer htake).room_eq
    have hfinish : finish.work = acted.work := by rw [Execution.work, hends.machine_eq]; rfl
    have hentered : ({ start with machine }.enterGuest code).work =
        ({ start with machine } : Execution).work := rfl
    rw [hentered, hroom, Nat.one_mul] at ih
    omega
  | initializerTooDeep _ htake =>
    have htaken := Execution.work_takeInitializer htake
    omega
  | @construct _ _ raises start kind id descriptor hdepth _ _ _ =>
    obtain ⟨hwork, hroom⟩ := Execution.work_beginConstruction hdepth kind id descriptor
    have hleft : ((start.beginConstruction kind id descriptor).leaveConstructor
        start.nextObject).work = (start.beginConstruction kind id descriptor).work := rfl
    rw [hleft, hwork, Nat.succ_mul]
    omega
  | @constructor _ _ raises acted start kind id descriptor code machine _ _ finish hdepth _ _ htake
      _ _ hends ih =>
    obtain ⟨hwork, hroom⟩ := Execution.work_beginConstruction hdepth kind id descriptor
    have htaken := Execution.work_takeConstructor htake
    have hentered := (Execution.keeps_enterConstructor htake).room_eq
    have hfinish : (finish.leaveConstructor start.nextObject).work = acted.work := by
      rw [Execution.work, Execution.machine_leaveConstructor, hends.machine_eq]
      rfl
    rw [hentered, Nat.one_mul] at ih
    have hacted : acted.work ≤
        start.work + 1 + (start.beginConstruction kind id descriptor).room := by
      rw [← hwork, ← htaken]
      exact ih
    rw [hfinish, Nat.succ_mul]
    omega
  | @constructorTooDeep _ raises start kind id descriptor code machine hdepth _ _ htake =>
    obtain ⟨hwork, hroom⟩ := Execution.work_beginConstruction hdepth kind id descriptor
    have htaken := Execution.work_takeConstructor htake
    have hleft : (({ start.beginConstruction kind id descriptor with machine } :
        Execution).leaveConstructor start.nextObject).work =
          ({ start.beginConstruction kind id descriptor with machine } : Execution).work := rfl
    rw [hleft, htaken, hwork, Nat.succ_mul]
    omega
  | popped _ _ _ _ ih => exact ih

/-! ### Operations -/

/-- A fault of a look-up: a class or an object is not there. -/
def Fault.IsLookup : Fault → Prop
  | .noSuchClass _ | .noSuchObject _ => True
  | .endlessAncestry _ | .nestingExceeded => False

private theorem Machine.Rooted.isLookup_of_explains {machine : Machine} (hrooted : machine.Rooted)
    {fault : Fault} (h : machine.Explains fault) : fault.IsLookup := by
  cases fault with
  | noSuchClass | noSuchObject => trivial
  | nestingExceeded => exact h
  | endlessAncestry id =>
    obtain ⟨thrown, sought, hwalk⟩ := h
    by_cases hthrown : thrown.index < machine.registry.size
    · obtain ⟨answer, hanswer, -⟩ := Registry.isSubclass_eq hrooted.registry hthrown sought
      rw [hwalk] at hanswer
      cases hanswer
    · -- A class that is not registered ends the walk at once.
      have hget : machine.registry.get? thrown = none := by
        rw [← Option.not_isSome_iff_eq_none, Registry.get?_isSome_iff]
        exact hthrown
      rw [Registry.isSubclass, Registry.reaches, hget] at hwalk
      split at hwalk <;> cases hwalk

/-- A course that ends with a fault was short of nesting, or the machine that it leaves explains the
fault. -/
theorem Course.explains {bound raises : Nat} {object? : Option ObjectRef}
    {start finish : Execution} {exit : Exit} (h : Course bound object? raises start exit finish)
    {fault : Fault} (hexit : exit = .halted (.fault fault)) :
    fault = .nestingExceeded ∨ finish.machine.Explains fault := by
  induction h with
  | refl | load | message | construct | caught => cases hexit
  | uncaught | bootstrap | constructionDepth => cases hexit
  | trans _ _ _ ihsecond => exact ihsecond hexit
  | record _ _ _ _ _ ih => exact ih hexit
  | initializer _ _ _ _ hends ih =>
    rw [hends.machine_eq]
    exact ih (hends.eq_halted hexit)
  | constructor _ _ _ _ _ _ hends ih =>
    rw [Execution.machine_leaveConstructor, hends.machine_eq]
    exact ih (hends.eq_halted hexit)
  | initializerTooDeep | constructorTooDeep =>
    cases hexit
    exact .inl rfl
  | popped _ _ _ _ ih => exact ih (Exit.addPopped_eq_halted_iff.1 hexit)
  | fault start hfault =>
    cases hexit
    exact .inr hfault

/-- Every operation terminates, with a result, a fatal error or a look-up that fails: its answer is
the same however much more room for nesting there is, and no walk along superclasses is endless. The
constructors that it runs are at most as many as the depth limit, for the operation itself and for
each initializer that it uses up. -/
theorem Operation.run_terminates (operation : Operation) {start : Execution}
    (hrooted : start.machine.Rooted) :
    (∀ bound, start.nestingBound ≤ bound →
      operation.runWith (Dispatch.runner bound) start = operation.run start) ∧
    (∀ fault after, operation.run start = .error (.fault fault) after → fault.IsLookup) ∧
    ∃ objects spent,
      (Dispatch.finalOf (operation.run start)).machine.constructed.toList =
        start.machine.constructed.toList ++ objects ∧
      (Dispatch.finalOf (operation.run start)).machine.initializers.length + spent =
        start.machine.initializers.length ∧
      objects.length ≤ start.machine.settings.maxConstructionDepth.toNat * (1 + spent) := by
  have hcourse := operation.run_follows start
  refine ⟨fun bound hbound => operation.runWith_eq_run hbound, ?_, ?_⟩
  · intro fault after hrun
    rw [hrun] at hcourse
    rcases hcourse.explains rfl with rfl | hexplains
    · exact absurd rfl (run_ne_nestingExceeded hrun)
    · exact (Machine.rooted_of_changes hcourse.changes hrooted).isLookup_of_explains hexplains
  · obtain ⟨objects, hobjects⟩ := hcourse.growsTo.constructed
    obtain ⟨spent, hspent⟩ := Nat.exists_eq_add_of_le hcourse.keeps.initializers.length_le
    refine ⟨objects, spent, hobjects.symm, hspent.symm, ?_⟩
    have hwork := hcourse.work_le
    have hroom := start.room_le
    have hsize : (Dispatch.finalOf (operation.run start)).machine.constructed.size =
        start.machine.constructed.size + objects.length := by
      rw [← Array.length_toList, ← hobjects, List.length_append, Array.length_toList]
    rw [Execution.work, Execution.work, hcourse.keeps.settings, hspent, hsize, Nat.mul_add,
      Nat.one_mul] at hwork
    rw [Nat.mul_add, Nat.mul_one]
    omega

/-- A thread on a machine where the initializer of an exception's class raises another exception and
handles it itself. -/
def initializedExecution : Execution where
  machine := {
    registry := Registry.empty.push { name := Builtin.runtime.className, sourceFile := "" }
    settings := { maxConstructionDepth := 1 }
    loadable := [{
      name := Builtin.nullPointer.className
      sourceFile := ""
      superclass? := some ⟨0⟩ }]
    initializers := [{
      className := Builtin.nullPointer.className
      code := {
        action := .raise .runtime
        frames := [{
          method := { name := "<clinit>", owner := ⟨0⟩, catches := [⟨0, 8, 6, .any⟩] }
          pc := 4 }] } }] }
  thread := { name := "main", classId := ⟨0⟩ }

/-- One constructor at a time may run here, so with one initializer there are two of them. -/
theorem Operation.run_terminates_of_initializer :
    initializedExecution.machine.Rooted ∧
      (Operation.construct .nullPointer).runWith (Dispatch.runner 7) initializedExecution =
        (Operation.construct .nullPointer).run initializedExecution ∧
      ∃ objects spent,
        (Dispatch.finalOf ((Operation.construct .nullPointer).run
          initializedExecution)).machine.constructed.toList = objects ∧
        (Dispatch.finalOf ((Operation.construct .nullPointer).run
          initializedExecution)).machine.initializers.length + spent = 1 ∧
        objects = [⟨0⟩, ⟨1⟩] ∧ objects.length ≤ 1 * (1 + spent) := by
  have hrooted : initializedExecution.machine.Rooted := by decide
  have hconstructed : (Dispatch.finalOf ((Operation.construct .nullPointer).run
      initializedExecution)).machine.constructed.toList = [⟨0⟩, ⟨1⟩] := by decide +kernel
  obtain ⟨hsettled, -, objects, spent, hobjects, hspent, hlength⟩ :=
    run_terminates (.construct .nullPointer) hrooted
  have hall : objects = [⟨0⟩, ⟨1⟩] := hobjects.symm.trans hconstructed
  exact ⟨hrooted, hsettled 7 (by decide), objects, spent, hobjects, hspent, hall, hlength⟩

end ExceptionDispatch
