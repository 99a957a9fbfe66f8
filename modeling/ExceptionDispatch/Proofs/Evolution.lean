import ExceptionDispatch.Proofs.Course.Changes
import ExceptionDispatch.Proofs.Course.Operation
import ExceptionDispatch.Session.Run

/-!
# How machines evolve

The machine of a session is changed by the operations of dispatch, each in many steps, and by the
other commands, each in one. However commands follow each other, and whatever guest code they run, a
machine only goes through such changes, so what every change preserves is preserved by every run.
Main statements: `Session.run_evolves` and `Machine.Evolves.idOf?_eq`.
-/

namespace ExceptionDispatch

namespace Machine

/-- One change that a command makes to the machine without dispatching anything. -/
inductive Edits : Machine → Machine → Prop
  | define (machine : Machine) (descriptor : ClassDescriptor) :
      Edits machine { machine with registry := (machine.registry.define descriptor).2 }
  | modify (machine : Machine) (id : ClassId) (edit : ClassDescriptor → ClassDescriptor) :
      Edits machine { machine with registry := machine.registry.modify id edit }
  /-- Settings are set, or loadable classes or rules are added or removed. -/
  | configure (machine : Machine) (settings : Settings) (loadable : List ClassDescriptor)
      (initializers : List InitializerRule) (constructors : List ConstructorRule) :
      Edits machine { machine with settings, loadable, initializers, constructors }
  | push (machine : Machine) (object : Object) :
      Edits machine { machine with heap := (machine.heap.push object).2 }
  | setField {machine : Machine} {object : ObjectRef} {index : Nat} {value : Value} {heap : Heap}
      (hset : machine.heap.setField? object index value = some heap) :
      Edits machine { machine with heap }

/-- One change that a command makes to the machine, or dispatch on behalf of it. -/
inductive Evolves (old new : Machine) : Prop
  | edit (h : old.Edits new)
  | change (h : old.Changes new)

variable {old new : Machine}

/-- What dispatch does to the machine is part of how it evolves. -/
theorem evolves_of_changes (h : Relation.ReflTransGen Changes old new) :
    Relation.ReflTransGen Evolves old new :=
  Relation.ReflTransGen.mono (fun _ _ => .change) _ _ h

/-- A registered name keeps its class, also if the class is renamed. -/
theorem Evolves.idOf?_eq (h : old.Evolves new) {name : String} {id : ClassId}
    (hid : old.registry.idOf? name = some id) : new.registry.idOf? name = some id := by
  cases h with
  | change hchange => exact hchange.growsTo.registry.idOf?_eq hid
  | edit hedit =>
    cases hedit with
    | define descriptor => exact (Registry.ExtendedBy.define old.registry descriptor).idOf?_eq hid
    | modify edited edit => rwa [Registry.idOf?_modify]
    | configure | push | setField => exact hid

/-- No object goes away. -/
theorem Evolves.heap_size_le (h : old.Evolves new) : old.heap.size ≤ new.heap.size := by
  cases h with
  | change hchange =>
    have hlength := hchange.growsTo.classIds.length_le
    rwa [Heap.length_classIds, Heap.length_classIds] at hlength
  | edit hedit =>
    cases hedit with
    | define | modify | configure => exact Nat.le_refl _
    | push object =>
      rw [Heap.size_push]
      exact Nat.le_succ _
    | setField hset => exact Nat.le_of_eq (Heap.size_of_setField? hset).symm

/-- However a machine evolves, a registered name keeps its class. -/
theorem idOf?_of_evolves (h : Relation.ReflTransGen Evolves old new) {name : String} {id : ClassId}
    (hid : old.registry.idOf? name = some id) : new.registry.idOf? name = some id := by
  induction h with
  | refl => exact hid
  | tail _ hstep ih => exact hstep.idOf?_eq ih

end Machine

namespace Session

/-! ### Commands -/

section

variable {session : Session}

private theorem withThread_evolves (number : Nat) {go : Thread → Step}
    (hgo : ∀ thread, Relation.ReflTransGen Machine.Evolves session.machine
      (go thread).session.machine) :
    Relation.ReflTransGen Machine.Evolves session.machine
      (session.withThread number go).session.machine :=
  withThread_session (P := fun after => Relation.ReflTransGen Machine.Evolves session.machine
    after.machine) .refl number fun thread _ => hgo thread

private theorem orFail_evolves {α : Type} (found : Except Fault α) {go : α → Step}
    (hgo : ∀ value, Relation.ReflTransGen Machine.Evolves session.machine
      (go value).session.machine) :
    Relation.ReflTransGen Machine.Evolves session.machine
      (session.orFail found go).session.machine :=
  orFail_session (P := fun after => Relation.ReflTransGen Machine.Evolves session.machine
    after.machine) .refl found hgo

private theorem orRefuse_evolves {α : Type} (found : Except Refusal α) {go : α → Step}
    (hgo : ∀ value, Relation.ReflTransGen Machine.Evolves session.machine
      (go value).session.machine) :
    Relation.ReflTransGen Machine.Evolves session.machine
      (session.orRefuse found go).session.machine :=
  orRefuse_session (P := fun after => Relation.ReflTransGen Machine.Evolves session.machine
    after.machine) .refl found hgo

/-- An operation changes the machine as dispatch does, however it ends. -/
theorem operate_changes (number : Nat) (request : OperationRequest)
    (onFatal : Fatal → Snapshot → List Record → Outcome × List Record) :
    Relation.ReflTransGen Machine.Changes session.machine
      (session.operate number request onFatal).session.machine := by
  refine withThread_session (P := fun after => Relation.ReflTransGen Machine.Changes
    session.machine after.machine) .refl number fun thread _ => ?_
  refine orRefuse_session (P := fun after => Relation.ReflTransGen Machine.Changes
    session.machine after.machine) .refl _ fun operation => ?_
  have hchanges := (operation.run_follows { machine := session.machine, thread }).changes
  split
  next hrun => rwa [hrun] at hchanges
  next hrun => rwa [hrun] at hchanges
  next hrun => rwa [hrun] at hchanges

end

/-- Every command changes the machine step by step. -/
theorem step_evolves (session : Session) (command : Command) :
    Relation.ReflTransGen Machine.Evolves session.machine
      (session.step command).session.machine := by
  have configured (settings : Settings) (loadable : List ClassDescriptor)
      (initializers : List InitializerRule) (constructors : List ConstructorRule) :
      Relation.ReflTransGen Machine.Evolves session.machine
        { session.machine with settings, loadable, initializers, constructors } :=
    .single (.edit (.configure _ _ _ _ _))
  have pushed (object : Object) : Relation.ReflTransGen Machine.Evolves session.machine
      { session.machine with heap := (session.machine.heap.push object).2 } :=
    .single (.edit (.push _ object))
  cases command with
  | define descriptor => exact .single (.edit (.define _ descriptor))
  | editClass id edit => exact orFail_evolves _ fun _ => .single (.edit (.modify _ id edit.apply))
  | addLoadable | forgetLoadable | configure => exact configured _ _ _ _
  | addInitializer | addConstructor => exact orRefuse_evolves _ fun _ => configured _ _ _ _
  | allocate => exact orFail_evolves _ fun _ => pushed _
  | allocateArray | allocateText => exact pushed _
  | setField object index value =>
    refine orFail_evolves _ fun found => ?_
    cases hset : session.machine.heap.setField? object index value with
    | none => exact .refl
    | some heap => exact .single (.edit (.setField hset))
  | constantAt id index =>
    refine orFail_evolves _ fun descriptor => ?_
    cases ClassRef.ofIndex? index <;> exact .refl
  | push number methodNumber pc =>
    refine withThread_evolves number fun thread => ?_
    cases session.methods[methodNumber]? <;> exact .refl
  | showClass | isSubclass | showField => exact orFail_evolves _ fun _ => .refl
  | pop number | setPc number | rename number | showThread number | showState number =>
    exact withThread_evolves number fun _ => .refl
  | showDiagnostic number =>
    exact withThread_evolves number fun _ => orFail_evolves _ fun _ => .refl
  | addMethod | addThread | terminate => exact .refl
  | countClasses | findClass | showObject | countObjects | showMessage | findBuiltin => exact .refl
  | dispatch number request | raise number request =>
    exact Machine.evolves_of_changes (operate_changes number request _)

/-- Every run of commands changes the machine step by step. -/
theorem run_evolves (session : Session) (commands : List Command) :
    Relation.ReflTransGen Machine.Evolves session.machine
      (session.run commands).session.machine := by
  induction commands generalizing session with
  | nil => exact .refl
  | cons command rest ih =>
    have hstep := session.step_evolves command
    rw [run]
    split
    · exact hstep.trans (ih _)
    · exact hstep
    · exact hstep

end Session

end ExceptionDispatch
