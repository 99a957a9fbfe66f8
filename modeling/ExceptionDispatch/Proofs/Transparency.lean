import ExceptionDispatch.Machine.Standard
import ExceptionDispatch.Proofs.Conclusion
import ExceptionDispatch.Proofs.StackDiscipline

/-!
# Exceptions that guest code handles itself

Guest code that returns has handled all that it raised, and dispatch goes on as if it had not been
run: it comes to the same handler or to the same fatal error, on the same frames, as on the machine
without any rules. The two executions may load classes in another order and give other handles to
objects, but what they come to is told by what was known at the start. Main statement:
`Operation.run_withoutRules`.
-/

namespace ExceptionDispatch

/-- An operation that dispatches an exception. -/
def Operation.Dispatches : Operation → Prop
  | .unwind _ | .throw _ | .constructAndUnwind _ => True
  | .resolve _ | .resolveConstant _ _ | .construct _ => False

/-- The conclusion with its outcome in other words. -/
def Conclusion.map {α β : Type} (conclusion : Conclusion α) (wrap : α → β) : Conclusion β :=
  ⟨conclusion.outcome.map wrap, conclusion.frames⟩

/-- What an operation on a thread comes to, if it dispatches an exception. -/
def Machine.conclusion? (machine : Machine) (thread : Thread) :
    Operation → Option (Conclusion OperationResult)
  | .unwind object => (machine.thrown? thread (some object)).map (·.map .handler)
  | .throw object? => (machine.thrown? thread object?).map (·.map .handler)
  | .constructAndUnwind kind => (machine.raised? thread kind).map (·.map .handler)
  | .resolve _ | .resolveConstant _ _ | .construct _ => none

namespace Dispatch

variable {α β : Type} {part : Dispatch α} {start : Execution}

/-- An answer in other words comes to the same. -/
theorem conclusionOf_wrap (part : Dispatch α) (wrap : α → β) (start : Execution) :
    conclusionOf ((part >>= fun value => pure (wrap value)) start) =
      (conclusionOf (part start)).map wrap := by
  rw [bind_apply]
  cases part start <;> rfl

private theorem settled_of_wrap [Exits α] [Exits β] (wrap : α → β)
    (hwrap : ∀ value, Exits.exit (wrap value) = Exits.exit value)
    (h : Settled start ((part >>= fun value => pure (wrap value)) start)) :
    Settled start (part start) := by
  rw [bind_apply] at h
  cases hpart : part start with
  | error halt after =>
    rw [hpart] at h
    exact h.congr rfl rfl
  | ok value after =>
    rw [hpart] at h
    exact h.congr (hwrap value).symm rfl

end Dispatch

namespace Operation

variable {operation : Operation} {start : Execution}

/-- An operation all of whose guest code has returned is settled. -/
theorem settled_of_unreturned_le
    (h : (Dispatch.finalOf (operation.run start)).trace.unreturned ≤ start.trace.unreturned) :
    Dispatch.Settled start (operation.run start) := by
  intro _
  refine ⟨h, ?_⟩
  intro hexit
  cases hrun : operation.run start with
  | error halt after =>
    rw [hrun] at hexit
    exact run_ne_nestingExceeded hrun (Exit.halted.inj hexit)
  | ok result after =>
    rw [hrun] at hexit
    exact result.exit_ne_halted _ hexit

/-- An operation that dispatches an exception comes to what the dispatch comes to. -/
theorem conclusionOf_run {part : Dispatch Handler} {known : Option (Conclusion Handler)}
    (hrun : operation.run start =
      (part >>= fun handler => pure (OperationResult.handler handler)) start)
    (hpart : Dispatch.Settled start (part start) →
      known = some (Dispatch.conclusionOf (part start)))
    (h : Dispatch.Settled start (operation.run start)) :
    known.map (·.map .handler) = some (Dispatch.conclusionOf (operation.run start)) := by
  rw [hrun] at h ⊢
  have hsettled := Dispatch.settled_of_wrap OperationResult.handler (fun _ => rfl) h
  rw [hpart hsettled, Dispatch.conclusionOf_wrap]
  rfl

/-- A settled operation comes to what was known at the start. -/
theorem conclusion?_eq {base : Machine} (hbase : base.WellFormed) (hgrown : start.Extends base)
    (hheap : start.machine.heap = base.heap) (hthread : start.thread.FitsIn base)
    (hoperation : operation.Dispatches)
    (h : Dispatch.Settled start (operation.run start)) :
    base.conclusion? start.thread operation =
      some (Dispatch.conclusionOf (operation.run start)) := by
  have hthrown (object? : Option ObjectRef)
      (hrun : (Operation.throw object?).run start = operation.run start) :
      (base.thrown? start.thread object?).map (·.map .handler) =
        some (Dispatch.conclusionOf (operation.run start)) := by
    rw [← hrun] at h ⊢
    exact conclusionOf_run rfl (Dispatch.throwObject_settled hbase hgrown hheap hthread) h
  cases operation with
  | resolve | resolveConstant | construct => exact absurd hoperation id
  | unwind object => exact hthrown (some object) rfl
  | throw object? => exact hthrown object? rfl
  | constructAndUnwind kind =>
    exact conclusionOf_run rfl
      (Dispatch.constructAndUnwind_settled hbase.toRooted hgrown hthread) h

end Operation

/-- The execution without guest code to run. -/
def Execution.withoutRules (execution : Execution) : Execution :=
  { execution with machine := { execution.machine with initializers := [], constructors := [] } }

/-- Exceptions that guest code handles itself do not matter: if all guest code that an operation
runs returns, the operation dispatches its exception to the same handler, or ends with the same
fatal error, and leaves the same frames, as on the machine without any rules. -/
theorem Operation.run_withoutRules {operation : Operation} {start : Execution}
    (hstart : start.WellFormed) (hoperation : operation.Dispatches)
    (hreturned : (Dispatch.finalOf (operation.run start)).trace.unreturned =
      start.trace.unreturned) :
    Dispatch.conclusionOf (operation.run start) =
      Dispatch.conclusionOf (operation.run start.withoutRules) := by
  have hsettled := settled_of_unreturned_le (Int.le_of_eq hreturned)
  have hbare : Dispatch.Settled start.withoutRules (operation.run start.withoutRules) :=
    settled_of_unreturned_le
      (Int.le_of_eq ((operation.run_follows start.withoutRules).unreturned_eq rfl))
  have hknown := conclusion?_eq hstart.machine ⟨.refl _, rfl⟩ rfl hstart.thread hoperation hsettled
  -- The machine without rules has all the classes and objects that are known at the start.
  have hextends : start.withoutRules.Extends start.machine :=
    ⟨⟨.refl _, fun _ => rfl, List.prefix_rfl, List.prefix_rfl⟩, rfl⟩
  have hthread : start.withoutRules.thread.FitsIn start.machine := hstart.thread
  have hsame := conclusion?_eq hstart.machine hextends rfl hthread hoperation hbare
  exact Option.some.inj (hknown.symm.trans hsame)

/-- A frame that handles the exceptions of the class that a constant of its owner names. -/
def catchingFrame (index : UInt16) : Frame where
  method := { name := "run", owner := ⟨0⟩, catches := [⟨0, 8, 20, .ofIndex index⟩] }
  pc := 4

/-- A thread on a machine where an initializer raises another exception and all constructors throw
an object, and the guest code handles what it raises. -/
def shelteredExecution : Execution where
  machine := {
    registry := Registry.empty.push {
      name := "A"
      sourceFile := ""
      constants := [.classNamed Builtin.arithmetic.className,
        .classNamed Builtin.nullPointer.className] }
    heap := (Heap.empty.allocate ⟨0⟩ 0).2
    loadable := [{ name := Builtin.nullPointer.className, sourceFile := "" },
      { name := Builtin.arithmetic.className, sourceFile := "" }]
    initializers := [⟨Builtin.nullPointer.className, ⟨.raise .arithmetic, [catchingFrame 0]⟩⟩]
    constructors := [{ code := ⟨.throw (some ⟨0⟩), [catchingFrame 0]⟩ }] }
  thread := { name := "main", classId := ⟨0⟩, frames := [catchingFrame 1, catchingFrame 2] }

/-- Two constructors are run here and only one without the rules, and the exception is dispatched to
the second frame in either case. -/
theorem Operation.run_withoutRules_of_sheltered :
    shelteredExecution.WellFormed ∧ (constructAndUnwind .nullPointer).Dispatches ∧
      (Dispatch.finalOf ((constructAndUnwind .nullPointer).run
        shelteredExecution)).trace.unreturned = shelteredExecution.trace.unreturned ∧
      (Dispatch.finalOf ((constructAndUnwind .nullPointer).run
        shelteredExecution)).machine.constructed.size = 2 ∧
      Dispatch.exitOf ((constructAndUnwind .nullPointer).run
        shelteredExecution.withoutRules) = .unwound ⟨20, 1⟩ ∧
      Dispatch.conclusionOf ((constructAndUnwind .nullPointer).run shelteredExecution) =
        Dispatch.conclusionOf
          ((constructAndUnwind .nullPointer).run shelteredExecution.withoutRules) := by
  have hstart : shelteredExecution.WellFormed := by decide
  have hdispatches : (constructAndUnwind .nullPointer).Dispatches := trivial
  have hreturned : (Dispatch.finalOf ((constructAndUnwind .nullPointer).run
      shelteredExecution)).trace.unreturned = shelteredExecution.trace.unreturned := by
    decide +kernel
  exact ⟨hstart, hdispatches, hreturned, by decide +kernel, by decide +kernel,
    run_withoutRules hstart hdispatches hreturned⟩

end ExceptionDispatch
