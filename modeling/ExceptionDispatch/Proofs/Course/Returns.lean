import ExceptionDispatch.Proofs.Course.Changes
import ExceptionDispatch.Proofs.Course.Nesting

/-!
# Guest code that returns

The trace tells of each run of guest code that it began, and of those that returned. A run that ends
in any other way stays open in it for good, so as long as no more runs are open at the end of a part
of dispatch than at its beginning, all guest code that ran in between has returned. Main statements:
`Course.unreturned_le` and `Dispatch.returned_of_settled`.
-/

namespace ExceptionDispatch

/-- By how much an event changes the number of guest runs that have not returned. -/
def Event.unreturned : Event → Int
  | .guestEntered _ => 1
  | .guestLeft .returned => -1
  | _ => 0

/-- The number of guest runs that began and have not returned. -/
def Trace.unreturned (trace : Trace) : Int :=
  trace.toList.foldl (fun count entry => count + entry.event.unreturned) 0

private theorem Event.unreturned_eq_zero {event : Event} (hevent : event.marksGuest = false) :
    event.unreturned = 0 := by
  cases event with
  | guestEntered | guestLeft => cases hevent
  | constructing | constructorEntered | constructorLeft => rfl
  | caught | replaced | popping | unresolved => rfl

namespace Execution

variable (execution : Execution)

/-- An event counts from the moment that it is recorded. -/
@[simp] theorem unreturned_record (event : Event) :
    (execution.record event).trace.unreturned =
      execution.trace.unreturned + event.unreturned := by
  simp [record, Trace.unreturned]

/-- Events that are no guest code's do not count. -/
theorem unreturned_record_eq {event : Event} (hevent : event.marksGuest = false) :
    (execution.record event).trace.unreturned = execution.trace.unreturned := by
  rw [unreturned_record, Event.unreturned_eq_zero hevent, Int.add_zero]

private theorem unreturned_enterGuest (code : GuestCode) :
    (execution.enterGuest code).trace.unreturned = execution.trace.unreturned + 1 :=
  unreturned_record _ _

private theorem unreturned_leaveGuest (base : Nat) (outcome : Completion) :
    (execution.leaveGuest base outcome).trace.unreturned =
      execution.trace.unreturned + (Event.guestLeft outcome).unreturned :=
  unreturned_record _ _

/-- The beginning of a constructor is no guest code yet. -/
theorem unreturned_beginConstruction (kind : Builtin) (id : ClassId)
    (descriptor : ClassDescriptor) :
    (execution.beginConstruction kind id descriptor).trace.unreturned =
      execution.trace.unreturned := by
  simp [beginConstruction, enterConstructor, raiseDepth, record, modifyThread, Trace.unreturned,
    Event.unreturned]

/-- The end of a constructor is no guest code any more. -/
theorem unreturned_leaveConstructor (object : ObjectRef) :
    (execution.leaveConstructor object).trace.unreturned = execution.trace.unreturned := by
  simp [leaveConstructor, lowerDepth, record, modifyThread, Trace.unreturned, Event.unreturned]

end Execution

private theorem Machine.takeInitializer?_eq_none {machine : Machine}
    (hcodes : machine.guestCodes = []) (name : String) : machine.takeInitializer? name = none := by
  cases htake : machine.takeInitializer? name with
  | none => rfl
  | some taken =>
    have hmem := mem_guestCodes_of_takeInitializer? htake
    rw [hcodes] at hmem
    exact absurd hmem List.not_mem_nil

private theorem Machine.takeConstructor?_eq_none {machine : Machine}
    (hcodes : machine.guestCodes = []) (className : String) :
    machine.takeConstructor? className = none := by
  cases htake : machine.takeConstructor? className with
  | none => rfl
  | some taken =>
    have hmem := mem_guestCodes_of_takeConstructor? htake
    rw [hcodes] at hmem
    exact absurd hmem List.not_mem_nil

/-- Guest code is open after its end unless it has returned. -/
theorem GuestEnds.unreturned {count : Int} {base : Nat} {acted finish : Execution}
    {inner exit : Exit} (h : GuestEnds base acted inner exit finish)
    (hacted : count + 1 ≤ acted.trace.unreturned) :
    count ≤ finish.trace.unreturned ∧ (exit ≠ .normal → count < finish.trace.unreturned) := by
  cases h with
  | returned | caught =>
    rw [Execution.unreturned_leaveGuest]
    simp only [Event.unreturned]
    exact ⟨by omega, absurd rfl⟩
  | unwound =>
    rw [Execution.unreturned_leaveGuest]
    simp only [Event.unreturned]
    exact ⟨by omega, fun _ => by omega⟩
  | halted => exact ⟨by omega, fun _ => by omega⟩

namespace Course

variable {bound raises : Nat} {object? : Option ObjectRef} {start finish : Execution} {exit : Exit}

/-- No guest code returns that did not begin. -/
theorem unreturned_le (h : Course bound object? raises start exit finish) :
    start.trace.unreturned ≤ finish.trace.unreturned := by
  induction h with
  | refl | load | message | uncaught | bootstrap | constructionDepth | fault => exact Int.le_refl _
  | caught =>
    rw [Execution.unreturned_record_eq _ rfl]
    exact Int.le_refl _
  | initializerTooDeep => exact Int.le_refl _
  | trans _ _ ihfirst ihsecond => exact Int.le_trans ihfirst ihsecond
  | record event _ _ hguest _ ih =>
    rw [Execution.unreturned_record_eq _ hguest]
    exact ih
  | initializer _ _ _ _ hends ih =>
    rw [Execution.unreturned_enterGuest] at ih
    exact (hends.unreturned ih).1
  | @construct _ _ _ start kind id descriptor =>
    have hbegun := start.unreturned_beginConstruction kind id descriptor
    exact Int.le_of_eq (hbegun.symm.trans (Execution.unreturned_leaveConstructor _ _).symm)
  | @constructor _ _ _ _ start kind id descriptor _ _ _ _ _ _ _ _ _ _ _ hends ih =>
    rw [Execution.unreturned_leaveConstructor]
    have hbegun := start.unreturned_beginConstruction kind id descriptor
    rw [Execution.unreturned_enterGuest] at ih
    have hended := (hends.unreturned ih).1
    exact Int.le_trans (Int.le_of_eq hbegun.symm) hended
  | @constructorTooDeep _ _ start kind id descriptor =>
    rw [Execution.unreturned_leaveConstructor]
    exact Int.le_of_eq (start.unreturned_beginConstruction kind id descriptor).symm
  | popped _ _ _ _ ih => exact ih

/-- Without rules there is no guest code. -/
theorem unreturned_eq (h : Course bound object? raises start exit finish)
    (hcodes : start.machine.guestCodes = []) :
    finish.trace.unreturned = start.trace.unreturned := by
  induction h with
  | refl | load | message | uncaught | bootstrap | constructionDepth | fault => rfl
  | caught => exact Execution.unreturned_record_eq _ rfl
  | trans hfirst _ ihfirst ihsecond =>
    have hmiddle := hfirst.keeps.guestCodes_subset
    rw [hcodes, List.subset_nil] at hmiddle
    exact (ihsecond hmiddle).trans (ihfirst hcodes)
  | record event _ _ hguest _ ih =>
    rw [Execution.unreturned_record_eq _ hguest]
    exact ih hcodes
  | initializer _ htake | initializerTooDeep _ htake =>
    exact absurd ((Machine.takeInitializer?_eq_none hcodes _).symm.trans htake) nofun
  | construct =>
    rw [Execution.unreturned_leaveConstructor, Execution.unreturned_beginConstruction]
  | @constructor _ _ _ _ start kind id descriptor _ _ _ _ _ _ _ _ htake
  | @constructorTooDeep _ _ start kind id descriptor _ _ _ _ _ htake =>
    have hbegun : (start.beginConstruction kind id descriptor).machine.guestCodes = [] := hcodes
    have hnone := Machine.takeConstructor?_eq_none hbegun descriptor.name
    exact absurd (hnone.symm.trans htake) nofun
  | popped _ _ _ _ ih => exact ih hcodes

end Course

namespace Dispatch

/-- A part of dispatch that its caller goes on after, or that ends in another way with no more guest
code open than before and none that was nested too deep: no guest code made it end like that. -/
def Settled {α : Type} [Exits α] (start : Execution)
    (result : EStateM.Result Halt Execution α) : Prop :=
  exitOf result ≠ .normal →
    (finalOf result).trace.unreturned ≤ start.trace.unreturned ∧
      exitOf result ≠ .halted (.fault .nestingExceeded)

namespace Settled

variable {α β : Type} [Exits α] [Exits β] {start middle : Execution}
  {result : EStateM.Result Halt Execution α}

/-- The exit and the open guest code decide. -/
theorem congr {other : EStateM.Result Halt Execution β} (h : Settled start result)
    (hexit : exitOf other = exitOf result)
    (hopen : (finalOf other).trace.unreturned = (finalOf result).trace.unreturned) :
    Settled start other := by
  intro hother
  rw [hexit] at hother ⊢
  rw [hopen]
  exact h hother

/-- Which handler an exception went to does not matter. -/
theorem congr_unwound {other : EStateM.Result Halt Execution β} {handler passed : Handler}
    (h : Settled start result) (hexit : exitOf result = .unwound handler)
    (hother : exitOf other = .unwound passed)
    (hopen : (finalOf other).trace.unreturned = (finalOf result).trace.unreturned) :
    Settled start other := by
  intro _
  rw [hopen, hother]
  exact ⟨(h (by rw [hexit]; exact Exit.noConfusion)).1, Exit.noConfusion⟩

/-- What comes after a part is settled if both together are. -/
theorem after (h : Settled start result)
    (hle : start.trace.unreturned ≤ middle.trace.unreturned) : Settled middle result := by
  intro hexit
  obtain ⟨hopen, hnesting⟩ := h hexit
  exact ⟨Int.le_trans hopen hle, hnesting⟩

/-- A part that its caller goes on after is settled. -/
theorem of_normal (hexit : exitOf result = .normal) : Settled start result := absurd hexit

end Settled

/-- Guest code changes the machine step by step. -/
theorem changes_runner (bound : Nat) (code : GuestCode) (object? : Option ObjectRef)
    (start : Execution) :
    Relation.ReflTransGen Machine.Changes start.machine
      (finalOf (runner bound code object? start)).machine := by
  cases bound with
  | zero => exact .refl
  | succ bound =>
    have hcourse := act_follows_of_guestsFollow (guestsFollow bound) object? code.action
      (start.enterGuest code)
    rw [runner, (perform_ends (runner bound) code object? start).machine_eq]
    exact hcourse.changes

/-- Guest code that is settled has returned. -/
theorem returned_of_settled {bound : Nat} {code : GuestCode} {object? : Option ObjectRef}
    {start : Execution} {result : EStateM.Result Halt Execution Completion}
    (hrun : runner bound code object? start = result) (h : Settled start result) :
    exitOf result = .normal := by
  apply Decidable.byContradiction
  intro hexit
  obtain ⟨hopen, hnesting⟩ := h hexit
  rw [← hrun] at hexit hopen hnesting
  cases bound with
  | zero => exact hnesting rfl
  | succ bound =>
    have hcourse := act_follows_of_guestsFollow (guestsFollow bound) object? code.action
      (start.enterGuest code)
    have hacted := hcourse.unreturned_le
    rw [Execution.unreturned_enterGuest] at hacted
    have hlt := ((perform_ends (runner bound) code object? start).unreturned hacted).2 hexit
    exact absurd hopen (Int.not_le.2 hlt)

end Dispatch

end ExceptionDispatch
