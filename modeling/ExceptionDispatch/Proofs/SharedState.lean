import ExceptionDispatch.Proofs.Course.Changes
import ExceptionDispatch.Proofs.Course.Operation
import ExceptionDispatch.Session.Step
import Mathlib.Data.List.Forall2

/-!
# What dispatch leaves as it was

Dispatch only adds to what threads share. Classes that it loads come after the others, objects that
it did not allocate itself are not written, initializers are used up and constructors run out, and
the settings, the methods and the other threads are not touched, however the operation ends. Main
statements: `Operation.run_addsOnly` and `Session.dispatch_addsOnly`.
-/

namespace ExceptionDispatch

/-! ### Constructors that run out -/

/-- A rule that is the same as before, except that its constructor may have run so many times that
fewer are left, if they are limited. -/
structure ConstructorRule.RunsOutTo (old new : ConstructorRule) : Prop where
  className? : new.className? = old.className?
  code : new.code = old.code
  remaining? : Option.Rel (· ≥ ·) old.remaining? new.remaining?

namespace ConstructorRule

private theorem RunsOutTo.refl (rule : ConstructorRule) : rule.RunsOutTo rule := by
  refine ⟨rfl, rfl, ?_⟩
  cases rule.remaining? with
  | none => exact .none
  | some count => exact .some (Nat.le_refl count)

private theorem rel_ge_trans {old middle new : Option Nat} (hfirst : Option.Rel (· ≥ ·) old middle)
    (hsecond : Option.Rel (· ≥ ·) middle new) : Option.Rel (· ≥ ·) old new := by
  cases hfirst with
  | none => exact hsecond
  | some hbefore =>
    cases hsecond with
    | some hleft => exact .some (Nat.le_trans hleft hbefore)

private theorem RunsOutTo.trans {old middle new : ConstructorRule} (hfirst : old.RunsOutTo middle)
    (hsecond : middle.RunsOutTo new) : old.RunsOutTo new where
  className? := hsecond.className?.trans hfirst.className?
  code := hsecond.code.trans hfirst.code
  remaining? := rel_ge_trans hfirst.remaining? hsecond.remaining?

private theorem runsOutTo_spend (rule : ConstructorRule) : rule.RunsOutTo rule.spend := by
  refine ⟨rfl, rfl, ?_⟩
  rw [spend]
  cases rule.remaining? with
  | none => exact .none
  | some count => exact .some (Nat.sub_le count 1)

private theorem forall₂_runsOutTo_of_spendFirst? {className : String}
    {rules spent : List ConstructorRule} {code : GuestCode}
    (h : spendFirst? className rules = some (code, spent)) :
    List.Forall₂ RunsOutTo rules spent := by
  induction rules generalizing spent with
  | nil => cases h
  | cons rule rest ih =>
    rw [spendFirst?] at h
    split at h
    · cases h
      exact .cons rule.runsOutTo_spend (List.forall₂_same.2 fun other _ => .refl other)
    · obtain ⟨⟨found, left⟩, hfound, heq⟩ := Option.map_eq_some_iff.1 h
      cases heq
      exact .cons (.refl rule) (ih hfound)

private theorem forall₂_runsOutTo_trans {old middle new : List ConstructorRule}
    (hfirst : List.Forall₂ RunsOutTo old middle) (hsecond : List.Forall₂ RunsOutTo middle new) :
    List.Forall₂ RunsOutTo old new := by
  induction hfirst generalizing new with
  | nil => exact hsecond
  | cons hrule _ ih =>
    cases hsecond with
    | cons hsame hrest => exact .cons (hrule.trans hsame) (ih hrest)

end ConstructorRule

private theorem Machine.Changes.constructors {old new : Machine} (h : old.Changes new) :
    List.Forall₂ ConstructorRule.RunsOutTo old.constructors new.constructors := by
  have hsame : List.Forall₂ ConstructorRule.RunsOutTo old.constructors old.constructors :=
    List.forall₂_same.2 fun rule _ => .refl rule
  cases h with
  | load _ hload =>
    obtain ⟨descriptor, -, -, rfl⟩ := eq_of_load? hload
    exact hsame
  | message object text =>
    rw [writeMessage_eq]
    exact hsame
  | initializer htake =>
    obtain ⟨rule, -, -, rfl⟩ := eq_of_takeInitializer? htake
    exact hsame
  | allocation => exact hsame
  | constructor htake =>
    obtain ⟨rules, hspend, rfl⟩ := eq_of_takeConstructor? htake
    exact ConstructorRule.forall₂_runsOutTo_of_spendFirst? hspend

/-- Changes upon changes let constructors run out at most. -/
theorem Machine.constructors_of_changes {old new : Machine}
    (h : Relation.ReflTransGen Changes old new) :
    List.Forall₂ ConstructorRule.RunsOutTo old.constructors new.constructors := by
  induction h with
  | refl => exact List.forall₂_same.2 fun rule _ => .refl rule
  | tail _ hchange ih => exact ConstructorRule.forall₂_runsOutTo_trans ih hchange.constructors

/-! ### Objects that are not written -/

namespace Heap

/-- The objects at the first positions are the same on two heaps. -/
def SameBelow (size : Nat) (old new : Heap) : Prop :=
  ∀ ref : ObjectRef, ref.index < size → new.get? ref = old.get? ref

variable {size : Nat} {old middle new : Heap}

private theorem SameBelow.refl (heap : Heap) : SameBelow size heap heap := fun _ _ => rfl

private theorem SameBelow.trans (hfirst : SameBelow size old middle)
    (hsecond : SameBelow size middle new) :
    SameBelow size old new :=
  fun ref href => (hsecond ref href).trans (hfirst ref href)

private theorem sameBelow_push (heap : Heap) (object : Object) (hsize : size ≤ heap.size) :
    SameBelow size heap (heap.push object).2 := by
  intro ref href
  rw [get?_push, if_neg (Nat.ne_of_lt (Nat.lt_of_lt_of_le href hsize))]

private theorem sameBelow_setField (heap : Heap) {object : ObjectRef}
    (hobject : size ≤ object.index) (index : Nat) (value : Value) :
    SameBelow size heap (heap.setField object index value) := by
  intro ref href
  rw [setField]
  cases hset : heap.setField? object index value with
  | none => rfl
  | some written =>
    have hne : object ≠ ref := by
      rintro rfl
      omega
    rw [Option.getD_some, get?_of_setField? hset, if_neg hne]

end Heap

private theorem Machine.sameBelow_writeMessage (machine : Machine) {object : ObjectRef}
    (text : String) {size : Nat} (hsize : size ≤ machine.heap.size)
    (hobject : size ≤ object.index) :
    Heap.SameBelow size machine.heap (machine.writeMessage object text).heap := by
  rw [writeMessage]
  cases machine.messageClasses? with
  | none => exact .refl _
  | some classes =>
    obtain ⟨stringId, fieldCount, arrayId⟩ := classes
    let array : Object := ⟨arrayId, .array ((Text.Utf16.encode text.toList).map Value.char)⟩
    let withArray := (machine.heap.push array).2
    let string := Object.fresh stringId fieldCount.toNat
    have hgrown : size ≤ withArray.size := by
      rw [Heap.size_push]
      exact Nat.le_succ_of_le hsize
    have hallocated := (machine.heap.sameBelow_push array hsize).trans
      (withArray.sameBelow_push string hgrown)
    exact (hallocated.trans (Heap.sameBelow_setField _ hgrown _ _)).trans
      (Heap.sameBelow_setField _ hobject _ _)

/-- A machine that grows has no fewer objects. -/
theorem Machine.GrowsTo.heap_size_le {old new : Machine} (h : old.GrowsTo new) :
    old.heap.size ≤ new.heap.size := by
  have hlength := h.classIds.length_le
  rwa [Heap.length_classIds, Heap.length_classIds] at hlength

/-- A course writes to no object at the first positions, if the object that is being constructed is
not among them. -/
theorem Course.sameBelow {bound raises size : Nat} {object? : Option ObjectRef}
    {start finish : Execution} {exit : Exit} (h : Course bound object? raises start exit finish)
    (hsize : size ≤ start.machine.heap.size) (hobject : ∀ object ∈ object?, size ≤ object.index) :
    Heap.SameBelow size start.machine.heap finish.machine.heap := by
  -- Inside a constructor the object is a new one, and inside an initializer there is none.
  have hallocated {start : Execution} (hsize : size ≤ start.machine.heap.size) (kind : Builtin)
      (id : ClassId) (descriptor : ClassDescriptor) :
      Heap.SameBelow size start.machine.heap
          (start.beginConstruction kind id descriptor).machine.heap ∧
        size ≤ (start.beginConstruction kind id descriptor).machine.heap.size := by
    refine ⟨Heap.sameBelow_push _ _ hsize, ?_⟩
    have hpushed := start.machine.heap.size_push (Object.fresh id descriptor.fieldCount.toNat)
    exact Nat.le_trans (Nat.le_succ_of_le hsize) (Nat.le_of_eq hpushed.symm)
  induction h with
  | refl | caught | uncaught | bootstrap | constructionDepth | fault => exact .refl _
  | trans hfirst _ ihfirst ihsecond =>
    have hmiddle := Nat.le_trans hsize hfirst.growsTo.heap_size_le
    exact (ihfirst hsize hobject).trans (ihsecond hmiddle hobject)
  | record _ _ _ _ _ ih => exact ih hsize hobject
  | load _ hload =>
    obtain ⟨descriptor, -, -, rfl⟩ := Machine.eq_of_load? hload
    exact .refl _
  | message start object text =>
    exact start.machine.sameBelow_writeMessage text hsize (hobject object rfl)
  | initializer _ htake _ _ hends ih =>
    obtain ⟨rule, -, -, rfl⟩ := Machine.eq_of_takeInitializer? htake
    rw [hends.machine_eq]
    exact ih hsize fun _ hmem => by cases hmem
  | initializerTooDeep _ htake =>
    obtain ⟨rule, -, -, rfl⟩ := Machine.eq_of_takeInitializer? htake
    exact .refl _
  | @construct _ _ _ _ kind id descriptor => exact (hallocated hsize kind id descriptor).1
  | @constructor _ _ _ _ start kind id descriptor _ _ _ _ _ _ _ _ htake _ _ hends ih =>
    obtain ⟨hbegun, hgrown⟩ := hallocated hsize kind id descriptor
    obtain ⟨rules, -, rfl⟩ := Machine.eq_of_takeConstructor? htake
    rw [Execution.machine_leaveConstructor, hends.machine_eq]
    refine hbegun.trans (ih hgrown ?_)
    rintro object ⟨⟩
    exact hsize
  | @constructorTooDeep _ _ _ kind id descriptor _ _ _ _ _ htake =>
    obtain ⟨rules, -, rfl⟩ := Machine.eq_of_takeConstructor? htake
    exact (hallocated hsize kind id descriptor).1
  | popped _ _ _ _ ih => exact ih hsize hobject

/-! ### Operations and sessions -/

/-- A machine has all that another one has: the settings, the classes at their positions and under
their names, and the objects as they were. Of its rules, initializers may be missing and
constructors may have run out. -/
structure Machine.AddsOnly (old new : Machine) : Prop where
  settings : new.settings = old.settings
  registry : old.registry.ExtendedBy new.registry
  descriptors : ∀ id descriptor, old.registry.get? id = some descriptor →
    new.registry.get? id = some descriptor
  names : ∀ name id, old.registry.idOf? name = some id → new.registry.idOf? name = some id
  objects : ∀ ref object, old.heap.get? ref = some object → new.heap.get? ref = some object
  initializers : new.initializers.Sublist old.initializers
  constructors : List.Forall₂ ConstructorRule.RunsOutTo old.constructors new.constructors

/-- A session has all that another one has, and has the same methods and the same threads but for
one, which has kept its name and its class. -/
structure Session.AddsOnly (number : Nat) (old new : Session) : Prop where
  machine : old.machine.AddsOnly new.machine
  methods : new.methods = old.methods
  others : ∀ other, other ≠ number → new.threads[other]? = old.threads[other]?
  thread : ∀ thread, old.threads[number]? = some thread →
    ∃ left, new.threads[number]? = some left ∧ left.name = thread.name ∧
      left.classId = thread.classId

/-- An operation only adds to the machine, however it ends. -/
theorem Operation.run_addsOnly (operation : Operation) (start : Execution) :
    start.machine.AddsOnly (Dispatch.finalOf (operation.run start)).machine := by
  have hcourse := operation.run_follows start
  have hregistry := hcourse.growsTo.registry
  exact {
    settings := hcourse.keeps.settings
    registry := hregistry
    descriptors := by
      intro id descriptor hget
      have hid : id.index < start.machine.registry.size :=
        Registry.get?_isSome_iff.1 (by rw [hget]; rfl)
      exact (hregistry.get?_eq hid).trans hget
    names := fun _ _ hid => hregistry.idOf?_eq hid
    objects := by
      intro ref object hget
      have href : ref.index < start.machine.heap.size :=
        Heap.get?_isSome_iff.1 (by rw [hget]; rfl)
      have hsame := hcourse.sameBelow (Nat.le_refl _) (fun _ hmem => by cases hmem) ref href
      exact hsame.trans hget
    initializers := hcourse.keeps.initializers
    constructors := Machine.constructors_of_changes hcourse.changes }

namespace Session

private theorem AddsOnly.refl (session : Session) (number : Nat) :
    session.AddsOnly number session where
  machine :=
    ⟨rfl, .refl _, fun _ _ h => h, fun _ _ h => h, fun _ _ h => h, List.Sublist.refl _,
      List.forall₂_same.2 fun rule _ => .refl rule⟩
  methods := rfl
  others _ _ := rfl
  thread thread hthread := ⟨thread, hthread, rfl, rfl⟩

private theorem commit_addsOnly {session : Session} {number : Nat} {thread : Thread}
    (hthread : session.threads[number]? = some thread) (operation : Operation) :
    session.AddsOnly number (session.commit number
      (Dispatch.finalOf (operation.run { machine := session.machine, thread }))) where
  machine := operation.run_addsOnly { machine := session.machine, thread }
  methods := rfl
  others other hother := Array.getElem?_setIfInBounds_ne hother.symm
  thread found hfound := by
    rw [hthread, Option.some.injEq] at hfound
    have hkeeps := (operation.run_follows { machine := session.machine, thread }).keeps
    have hlt : number < session.threads.size := (Array.getElem?_eq_some_iff.1 hthread).1
    refine ⟨_, Array.getElem?_setIfInBounds_self_of_lt hlt, ?_⟩
    rw [← hfound]
    exact ⟨hkeeps.threadName, hkeeps.threadClass⟩

/-- A request for an operation only adds to the session, whatever becomes of a fatal error. -/
theorem operate_addsOnly (session : Session) (number : Nat) (request : OperationRequest)
    (onFatal : Fatal → Snapshot → List Record → Outcome × List Record) :
    session.AddsOnly number (session.operate number request onFatal).session := by
  rw [operate, withThread]
  cases hthread : session.threads[number]? with
  | none => exact .refl session number
  | some thread =>
    simp only
    cases request.operation with
    | error refusal => exact .refl session number
    | ok operation =>
      have hadds := commit_addsOnly hthread operation
      simp only [orRefuse]
      cases hrun : operation.run { machine := session.machine, thread } with
      | ok result after => rwa [hrun] at hadds
      | error halt after =>
        rw [hrun] at hadds
        cases halt <;> exact hadds

/-- A command that dispatches on a thread only adds to the session, with whatever result, fatal
error or fault the dispatch ends: the settings, the methods and the other threads are the same, the
thread has its name and its class, every class is at its position and under its name as it was,
every object that was there is as it was, and rules only run out. -/
theorem dispatch_addsOnly (session : Session) (number : Nat) (request : OperationRequest) :
    session.AddsOnly number (session.step (.dispatch number request)).session ∧
      session.AddsOnly number (session.step (.raise number request)).session :=
  ⟨session.operate_addsOnly number request _, session.operate_addsOnly number request _⟩

end Session

end ExceptionDispatch
