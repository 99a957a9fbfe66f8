import ExceptionDispatch.Machine.Standard
import ExceptionDispatch.Proofs.Conclusion
import ExceptionDispatch.Proofs.Evolution
import ExceptionDispatch.Proofs.SharedState
import Mathlib.Data.List.Nodup

/-!
# What happens once only

A class may be asked for again while its own initializer is running, and an exception may be
constructed while others are. Still, no class is loaded twice and no object is constructed twice,
and a class that was resolved is there for good. Main statement: `Session.run_onceOnly`.
-/

namespace ExceptionDispatch

namespace Machine

/-- The names of the loaded classes are distinct and registered, and the constructed objects are on
the heap, each constructed before those that were allocated after it. -/
structure OnceOnly (machine : Machine) : Prop where
  loaded : machine.loaded.toList.Nodup
  registered : ∀ name ∈ machine.loaded.toList, (machine.registry.idOf? name).isSome = true
  constructed : machine.constructed.toList.Pairwise (·.index < ·.index)
  allocated : ∀ object ∈ machine.constructed.toList, object.index < machine.heap.size

/-- An object was constructed as an exception of a kind between two states of a machine: it did not
exist before, it is of the class registered under the kind's name, and it is listed once among the
constructed objects. -/
structure Constructs (before after : Machine) (kind : Builtin) (object : ObjectRef) : Prop where
  fresh : before.heap.get? object = none
  classId : ∃ found, after.heap.get? object = some found ∧
    after.registry.idOf? kind.className = some found.classId
  once : after.constructed.toList.count object = 1

variable {old new machine : Machine}

private theorem onceOnly_of_empty (hloaded : machine.loaded = #[])
    (hconstructed : machine.constructed = #[]) : machine.OnceOnly :=
  ⟨by simp [hloaded], by simp [hloaded], by simp [hconstructed], by simp [hconstructed]⟩

namespace OnceOnly

private theorem constructed_nodup (h : machine.OnceOnly) : machine.constructed.toList.Nodup :=
  h.constructed.imp fun {first second} hlt (heq : first = second) =>
    Nat.lt_irrefl second.index (heq ▸ hlt)

private theorem evolves (h : old.OnceOnly) (hevolves : old.Evolves new)
    (hloaded : new.loaded = old.loaded) (hconstructed : new.constructed = old.constructed) :
    new.OnceOnly where
  loaded := hloaded ▸ h.loaded
  registered name hname := by
    rw [hloaded] at hname
    obtain ⟨id, hid⟩ := Option.isSome_iff_exists.1 (h.registered name hname)
    rw [hevolves.idOf?_eq hid]
    rfl
  constructed := hconstructed ▸ h.constructed
  allocated object hobject := by
    rw [hconstructed] at hobject
    exact Nat.lt_of_lt_of_le (h.allocated object hobject) hevolves.heap_size_le

private theorem load {name : String} {id : ClassId} (h : old.OnceOnly)
    (hid : old.registry.idOf? name = none) (hload : old.load? name = some (id, new)) :
    new.OnceOnly := by
  have hregistered := idOf?_of_load? hload
  have hextends := extendedBy_of_load? hload
  obtain ⟨descriptor, -, -, rfl⟩ := eq_of_load? hload
  refine ⟨?_, ?_, h.constructed, h.allocated⟩
  · rw [Array.toList_push, List.nodup_append]
    refine ⟨h.loaded, List.pairwise_singleton _ name, ?_⟩
    rintro other hother _ hname rfl
    rw [List.mem_singleton] at hname
    have hsome := h.registered other hother
    rw [hname, hid] at hsome
    cases hsome
  · intro other hother
    rw [Array.toList_push, List.mem_append, List.mem_singleton] at hother
    rcases hother with hmem | rfl
    · obtain ⟨found, hfound⟩ := Option.isSome_iff_exists.1 (h.registered other hmem)
      rw [hextends.idOf?_eq hfound]
      rfl
    · rw [hregistered]
      rfl

private theorem allocation (h : old.OnceOnly) (id : ClassId) (fieldCount : UInt16) :
    ((old.allocate id fieldCount).2.addConstructed ⟨old.heap.size⟩).OnceOnly := by
  have hsize : (old.allocate id fieldCount).2.heap.size = old.heap.size + 1 := Heap.size_push _ _
  refine ⟨h.loaded, h.registered, ?_, ?_⟩
  · -- The new handle is the size of the heap, and all objects constructed before are below it.
    rw [addConstructed, Array.toList_push, List.pairwise_append]
    refine ⟨h.constructed, List.pairwise_singleton _ _, ?_⟩
    intro object hobject other hother
    rw [List.mem_singleton.1 hother]
    exact h.allocated object hobject
  · intro object hobject
    rw [addConstructed, Array.toList_push, List.mem_append, List.mem_singleton] at hobject
    show object.index < (old.allocate id fieldCount).2.heap.size
    rw [hsize]
    rcases hobject with hmem | rfl
    · exact Nat.lt_succ_of_lt (h.allocated object hmem)
    · exact Nat.lt_succ_self _

end OnceOnly

/-- No change makes anything happen twice. -/
theorem Evolves.onceOnly (h : old.Evolves new) (hold : old.OnceOnly) : new.OnceOnly := by
  cases h with
  | edit hedit =>
    have hevolves : old.Evolves new := .edit hedit
    cases hedit <;> exact hold.evolves hevolves rfl rfl
  | change hchange =>
    cases hchange with
    | load hid hload => exact hold.load hid hload
    | allocation => exact hold.allocation _ _
    | message object text =>
      refine hold.evolves (.change (.message old object text)) ?_ ?_ <;> rw [writeMessage_eq]
    | initializer htake =>
      have hevolves : old.Evolves new := .change (.initializer htake)
      obtain ⟨rule, -, -, rfl⟩ := eq_of_takeInitializer? htake
      exact hold.evolves hevolves rfl rfl
    | constructor htake =>
      have hevolves : old.Evolves new := .change (.constructor htake)
      obtain ⟨rules, -, rfl⟩ := eq_of_takeConstructor? htake
      exact hold.evolves hevolves rfl rfl

private theorem onceOnly_of_evolves (h : Relation.ReflTransGen Evolves old new)
    (hold : old.OnceOnly) :
    new.OnceOnly := by
  induction h with
  | refl => exact hold
  | tail _ hstep ih => exact hstep.onceOnly ih

end Machine

namespace Dispatch

variable {bound : Nat} {start after : Execution}

private theorem resolve_of_idOf? (run : GuestRunner) {name : String} {id : ClassId}
    (hid : start.machine.registry.idOf? name = some id) :
    resolve run name start = .ok (.loaded id) start := by
  simp only [resolve_apply, find_apply, hid]

/-- A constructed exception was allocated after its class was resolved, and its constructor has
returned. -/
theorem exists_construction_of_construct {run : GuestRunner} {kind : Builtin} {object : ObjectRef}
    (hrun : construct run kind start = .ok (.finished object) after) :
    ∃ id descriptor middle, resolve run kind.className start = .ok (.loaded id) middle ∧
      middle.machine.registry.get? id = some descriptor ∧ object = middle.nextObject ∧
      construction run kind id descriptor middle = .ok .returned after := by
  simp only [construct_apply] at hrun
  split at hrun
  · cases hrun
  · split at hrun
    next => cases hrun
    next => cases hrun
    next id middle hresolve =>
      split at hrun
      next => cases hrun
      next descriptor hget =>
        split at hrun
        next left hconstruction =>
          cases hrun
          exact ⟨id, descriptor, middle, hresolve, hget, rfl, hconstruction⟩
        next => cases hrun
        next => cases hrun
    next => cases hrun

/-- Constructing an exception leaves an object that was constructed as one. -/
theorem constructs_of_construct {kind : Builtin} {object : ObjectRef}
    (honce : start.machine.OnceOnly)
    (hrun : construct (runner bound) kind start = .ok (.finished object) after) :
    start.machine.Constructs after.machine kind object := by
  obtain ⟨id, descriptor, middle, hresolve, hget, rfl, hconstruction⟩ :=
    exists_construction_of_construct hrun
  have hcourse : Follows bound none 1 start (construct (runner bound) kind start) :=
    construct_follows (guestsFollow bound) kind start
  have hfirst : Follows bound none 0 start (resolve (runner bound) kind.className start) :=
    resolve_follows (guestsFollow bound) kind.className start
  -- The object is listed before its constructor runs, and stays listed whatever that does.
  have hgrows := growsTo_construction bound kind id descriptor middle
  rw [hrun] at hcourse
  rw [hresolve] at hfirst
  rw [hconstruction] at hgrows
  have hafter : after.machine.OnceOnly :=
    Machine.onceOnly_of_evolves (Machine.evolves_of_changes hcourse.changes) honce
  have hnew : (middle.beginConstruction kind id descriptor).machine.heap.get? middle.nextObject =
      some (.fresh id descriptor.fieldCount.toNat) :=
    (Heap.get?_push _ _ _).trans (if_pos rfl)
  obtain ⟨found, hfound, rfl⟩ := hgrows.exists_get? hnew
  have hid : middle.machine.registry.idOf? kind.className = some found.classId :=
    idOf?_of_resolve hresolve
  refine ⟨?_, ⟨found, hfound, hgrows.registry.idOf?_eq hid⟩, ?_⟩
  · rw [← Option.not_isSome_iff_eq_none, Heap.get?_isSome_iff]
    exact Nat.not_lt.2 hfirst.growsTo.heap_size_le
  · refine List.count_eq_one_of_mem hafter.constructed_nodup (hgrows.constructed.subset ?_)
    simp [Machine.addConstructed]

end Dispatch

namespace Session

/-- A session answers a request for an operation on one of its threads with a result. -/
def Answers (session : Session) (number : Nat) (request : OperationRequest)
    (result : OperationResult) (after : Session) : Prop :=
  ∃ command snapshot records,
    (command = .dispatch number request ∨ command = .raise number request) ∧
      session.step command = ⟨.answered (.result result snapshot), after, records⟩

private theorem exists_run_of_operate {session after : Session} {number : Nat}
    {request : OperationRequest} {onFatal : Fatal → Snapshot → List Record → Outcome × List Record}
    {result : OperationResult} {snapshot : Snapshot} {records : List Record}
    (hfatal : ∀ error left written,
      (onFatal error left written).1 ≠ .answered (.result result snapshot))
    (h : session.operate number request onFatal =
      ⟨.answered (.result result snapshot), after, records⟩) :
    ∃ thread operation execution, request.operation = .ok operation ∧
      operation.run { machine := session.machine, thread } = .ok result execution ∧
      after.machine = execution.machine := by
  rw [operate, withThread] at h
  split at h
  next thread hthread =>
    simp only [orRefuse] at h
    split at h
    next operation hoperation =>
      split at h
      next found execution hrun =>
        cases h
        exact ⟨thread, operation, execution, hoperation, hrun, rfl⟩
      next error execution hrun =>
        simp only [Step.mk.injEq] at h
        exact absurd h.1 (hfatal _ _ _)
      next => cases h
    next => cases h
  next => cases h

/-- A session that answers with a result has carried out the operation. -/
theorem Answers.exists_run {session after : Session} {number : Nat} {request : OperationRequest}
    {result : OperationResult} (h : session.Answers number request result after) :
    ∃ thread operation execution, request.operation = .ok operation ∧
      operation.run { machine := session.machine, thread } = .ok result execution ∧
      after.machine = execution.machine := by
  obtain ⟨command, snapshot, records, rfl | rfl, hstep⟩ := h
  all_goals
    rw [step] at hstep
    refine exists_run_of_operate ?_ hstep
    intro error left written hanswered
    cases hanswered

/-- A request for the construction of an exception is for the kind that has the identifier. -/
theorem exists_kind_of_request {identifier : UInt8} {operation : Operation}
    (h : (OperationRequest.construct identifier).operation = .ok operation) :
    ∃ kind, Builtin.ofIdentifier? identifier = some kind ∧ operation = .construct kind := by
  simp only [OperationRequest.operation, kindOf] at h
  cases hkind : Builtin.ofIdentifier? identifier with
  | none =>
    rw [hkind] at h
    cases h
  | some kind =>
    rw [hkind] at h
    cases h
    exact ⟨kind, rfl, rfl⟩

private theorem setThread_self {session : Session} {number : Nat} {thread : Thread}
    (hthread : session.threads[number]? = some thread) :
    session.setThread number thread = session := by
  have hthreads : session.threads.setIfInBounds number thread = session.threads := by
    apply Array.ext_getElem?
    intro position
    rw [Array.getElem?_setIfInBounds]
    split
    next hposition =>
      rw [← hposition, hthread, if_pos (Array.getElem?_eq_some_iff.1 hthread).1]
    next => rfl
  rw [setThread, hthreads]

private theorem step_resolve_of_idOf? {session : Session} {number : Nat} {thread : Thread}
    (hthread : session.threads[number]? = some thread) {name : String} {id : ClassId}
    (hid : session.machine.registry.idOf? name = some id) :
    session.step (.dispatch number (.resolve name)) =
      ⟨.answered (.result (.resolution (.loaded id)) (.of session.machine thread)), session,
        []⟩ := by
  have hrun : (Operation.resolve name).run { machine := session.machine, thread } =
      .ok (.resolution (.loaded id)) { machine := session.machine, thread } := by
    rw [Operation.run, Operation.runWith, Dispatch.bind_apply, Dispatch.resolve_of_idOf? _ hid]
    rfl
  have hcommit : session.commit number { machine := session.machine, thread } = session :=
    setThread_self hthread
  simp only [step, operate, withThread, hthread, OperationRequest.operation, orRefuse, hrun,
    hcommit]
  rfl

/-- Loading and constructing happen once only. From a machine where nothing was loaded or
constructed, whatever commands are carried out: the loaded names are distinct and registered, and
the constructed objects increase; a name that was resolved as a class is from then on resolved as
that class, on every thread and without any effect; and an exception that was constructed is an
object that did not exist before, of the class registered under the exception's name, and
constructed once. All of this also holds in the middle of an operation, for what guest code resolves
and constructs there. -/
theorem run_onceOnly {start : Session} (hloaded : start.machine.loaded = #[])
    (hconstructed : start.machine.constructed = #[]) (commands : List Command) :
    let reached := (start.run commands).session
    reached.machine.OnceOnly ∧
    (∀ number name id after,
      reached.Answers number (.resolve name) (.resolution (.loaded id)) after →
      ∀ more other thread, (after.run more).session.threads[other]? = some thread →
        (after.run more).session.step (.dispatch other (.resolve name)) =
          ⟨.answered (.result (.resolution (.loaded id))
              (.of (after.run more).session.machine thread)), (after.run more).session, []⟩) ∧
    (∀ number identifier object after,
      reached.Answers number (.construct identifier) (.construction (.finished object)) after →
      ∃ kind, Builtin.ofIdentifier? identifier = some kind ∧
        reached.machine.Constructs after.machine kind object) ∧
    ∀ (execution : Execution) (bound : Nat),
      Relation.ReflTransGen Machine.Changes reached.machine execution.machine →
      execution.machine.OnceOnly ∧
      (∀ name id after,
        Dispatch.resolve (Dispatch.runner bound) name execution = .ok (.loaded id) after →
        ∀ (later : Execution) (more : Nat),
          Relation.ReflTransGen Machine.Evolves after.machine later.machine →
          Dispatch.resolve (Dispatch.runner more) name later = .ok (.loaded id) later) ∧
      ∀ kind object after,
        Dispatch.construct (Dispatch.runner bound) kind execution = .ok (.finished object) after →
        execution.machine.Constructs after.machine kind object := by
  intro reached
  have honce : reached.machine.OnceOnly := Machine.onceOnly_of_evolves
    (start.run_evolves commands) (Machine.onceOnly_of_empty hloaded hconstructed)
  refine ⟨honce, ?_, ?_, ?_⟩
  · intro number name id after hanswers more other thread hthread
    obtain ⟨_, operation, execution, hoperation, hrun, hmachine⟩ := hanswers.exists_run
    cases hoperation
    obtain ⟨resolution, middle, hresolve, heq⟩ := Dispatch.exists_of_bind_eq_ok hrun
    cases heq
    have hid : after.machine.registry.idOf? name = some id := by
      rw [hmachine]
      exact Dispatch.idOf?_of_resolve hresolve
    exact step_resolve_of_idOf? hthread (Machine.idOf?_of_evolves (after.run_evolves more) hid)
  · intro number identifier object after hanswers
    obtain ⟨_, operation, execution, hoperation, hrun, hmachine⟩ := hanswers.exists_run
    obtain ⟨kind, hkind, rfl⟩ := exists_kind_of_request hoperation
    obtain ⟨construction, middle, hconstruct, heq⟩ := Dispatch.exists_of_bind_eq_ok hrun
    cases heq
    rw [hmachine]
    exact ⟨kind, hkind, Dispatch.constructs_of_construct honce hconstruct⟩
  · intro execution bound hchanges
    have hnow := Machine.onceOnly_of_evolves (Machine.evolves_of_changes hchanges) honce
    refine ⟨hnow, ?_, fun kind object after => Dispatch.constructs_of_construct hnow⟩
    intro name id after hresolve later more hevolves
    exact Dispatch.resolve_of_idOf? _
      (Machine.idOf?_of_evolves hevolves (Dispatch.idOf?_of_resolve hresolve))

/-- Commands after which a class is asked for by its own initializer, and the first constructor that
runs raises another exception. -/
def reentrantCommands : List Command :=
  [.addThread "main" ⟨0⟩,
    .addMethod { name := "init", owner := ⟨0⟩, catches := [⟨0, 8, 20, .any⟩] },
    .addInitializer Builtin.nullPointer.className ⟨.raise 0, [(0, 4)]⟩,
    .addConstructor none (some 1) ⟨.raise 7, [(0, 4)]⟩]

/-- The class is loaded once, and of the three exceptions that are constructed the outermost comes
last. -/
theorem run_onceOnly_of_reentrant :
    let reached := (({ machine := .standard } : Session).run reentrantCommands).session
    let step := reached.step (.dispatch 0 (.construct 0))
    step.session.machine.loaded.toList = [.nullPointer, .arithmetic].map Builtin.className ∧
      step.session.machine.constructed = #[⟨0⟩, ⟨1⟩, ⟨2⟩] ∧
      reached.machine.Constructs step.session.machine .nullPointer ⟨2⟩ := by
  intro reached step
  let left : Thread := { name := "main", classId := ⟨0⟩ }
  have houtcome : step.outcome = .answered (.result (.construction (.finished ⟨2⟩))
      (.of step.session.machine left)) := by decide +kernel
  have hanswers : reached.Answers 0 (.construct 0) (.construction (.finished ⟨2⟩)) step.session :=
    ⟨_, _, step.records, .inl rfl, by rw [← houtcome]⟩
  have hloaded : ({ machine := .standard } : Session).machine.loaded = #[] := rfl
  obtain ⟨-, -, hconstructs, -⟩ := run_onceOnly hloaded rfl reentrantCommands
  obtain ⟨kind, hkind, hobject⟩ := hconstructs 0 0 ⟨2⟩ step.session hanswers
  cases hkind
  exact ⟨by decide +kernel, by decide +kernel, hobject⟩

end Session

end ExceptionDispatch
