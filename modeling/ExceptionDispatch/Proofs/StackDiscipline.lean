import ExceptionDispatch.Proofs.Course.Nesting

/-!
# The stack after an operation

What is left of a thread's stack after an operation, whatever its guest code did: everything if the
operation has no handler as its result, what is below and at the handler if it has one, and a bottom
part under frames of guest code after a fatal error. A frame that handles everything is never lost.
Main statements: `Operation.run_frames` and `Operation.catchesAll_stands`.
-/

namespace ExceptionDispatch

/-- The handler that an operation dispatched an exception to, if its result is one. -/
def OperationResult.handler? : OperationResult → Option Handler
  | .resolution (.unwound target) => some target
  | .construction (.unwound target) => some target
  | .handler target => some target
  | .resolution (.loaded _) | .resolution .missing | .construction (.finished _) => none

/-- An operation has a handler as its result if its course ends with one. -/
theorem OperationResult.exit_eq (result : OperationResult) :
    Exits.exit result =
      match result.handler? with
      | some target => .unwound target
      | none => .normal := by
  cases result with
  | resolution outcome => cases outcome <;> rfl
  | construction outcome => cases outcome <;> rfl
  | handler outcome => rfl

/-- A caller goes on after an operation that has no handler as its result. -/
theorem OperationResult.exit_eq_normal_iff {result : OperationResult} :
    Exits.exit result = .normal ↔ result.handler? = none := by
  rw [exit_eq]
  cases result.handler? <;> simp

/-- A caller ends with the handler that an operation has as its result. -/
theorem OperationResult.exit_eq_unwound_iff {result : OperationResult} {handler : Handler} :
    Exits.exit result = .unwound handler ↔ result.handler? = some handler := by
  rw [exit_eq]
  cases result.handler? <;> simp

/-- An operation with a result has not ended without one. -/
theorem OperationResult.exit_ne_halted (result : OperationResult) (halt : Halt) :
    Exits.exit result ≠ .halted halt := by
  rw [exit_eq]
  cases result.handler? <;> simp

/-- An operation with a result leaves the stack as its course does. -/
theorem Operation.frames_of_ok {operation : Operation} {start after : Execution}
    {result : OperationResult} (h : operation.run start = .ok result after) :
    match result.handler? with
    | some handler => Redirected start.thread.frames handler.pc after.thread.frames
    | none => after.thread.frames = start.thread.frames := by
  have hstack := (operation.run_follows start).stackAfter
  rw [h] at hstack
  simp only [Dispatch.exitOf, Dispatch.finalOf, OperationResult.exit_eq] at hstack
  cases hhandler : result.handler? with
  | some handler => rwa [hhandler] at hstack
  | none => rwa [hhandler] at hstack

/-- An operation that ends with a fatal error leaves the stack as its course does. -/
theorem Operation.frames_of_fatal {operation : Operation} {start after : Execution} {error : Fatal}
    (h : operation.run start = .error (.fatal error) after) :
    Abandoned start.machine.guestCodes start.thread.frames after.thread.frames ∧
      ∀ diagnostic, error = .uncaught diagnostic → after.thread.frames = [] := by
  have hstack := (operation.run_follows start).stackAfter
  rw [h] at hstack
  exact hstack

/-- Every operation keeps to the stack: with a handler as its result it leaves a bottom part of the
stack, in which the current frame has the handler and has gone to it; with any other result the
stack is as it was; and a fatal error leaves a bottom part of the stack as it was, under frames of
guest code, and nothing at all if it is that of an uncaught exception. -/
theorem Operation.run_frames (operation : Operation) (start : Execution) :
    match operation.run start with
    | .ok result after =>
      match result.handler? with
      | some handler => Redirected start.thread.frames handler.pc after.thread.frames
      | none => after.thread.frames = start.thread.frames
    | .error (.fatal error) after =>
      Abandoned start.machine.guestCodes start.thread.frames after.thread.frames ∧
        ∀ diagnostic, error = .uncaught diagnostic → after.thread.frames = []
    | .error (.fault fault) _ => fault ≠ .nestingExceeded := by
  cases hrun : operation.run start with
  | ok result after => exact frames_of_ok hrun
  | error halt after =>
    cases halt with
    | fatal error => exact frames_of_fatal hrun
    | fault fault => exact fun hfault => run_ne_nestingExceeded hrun (congrArg Halt.fault hfault)

/-! ### Frames that handle everything -/

/-- A frame is on a stack right above its callers, at whatever instruction. -/
def Frame.StandsOn (frame : Frame) (callers frames : List Frame) : Prop :=
  ∃ above pc, frames = above ++ { frame with pc } :: callers

/-- Where no frame that handles everything is gone, such a frame is among those that are left. -/
theorem Frame.CatchesAll.mem_rest {frame : Frame} {gone rest above callers : List Frame}
    (hframe : frame.CatchesAll) (hgone : ∀ passed ∈ gone, ¬ passed.CatchesAll)
    (h : gone ++ rest = above ++ frame :: callers) :
    ∃ upper, rest = upper ++ frame :: callers := by
  rcases List.append_eq_append_iff.1 h with ⟨upper, -, hrest⟩ | ⟨between, hbetween, hcallers⟩
  · exact ⟨upper, hrest⟩
  · cases between with
    | nil => exact ⟨[], hcallers.symm⟩
    | cons first others =>
      rw [List.cons_append, List.cons.injEq] at hcallers
      refine absurd hframe (hgone frame ?_)
      rw [hbetween, hcallers.1]
      exact List.mem_append_right above List.mem_cons_self

/-- A handler is never found past a frame that handles everything. -/
theorem Redirected.standsOn {above callers left : List Frame} {frame : Frame} {pc : UInt16}
    (h : Redirected (above ++ frame :: callers) pc left) (hframe : frame.CatchesAll) :
    frame.StandsOn callers left := by
  obtain ⟨gone, handling, rest, heq, rfl, -, hgone⟩ := h
  obtain ⟨upper, hupper⟩ := hframe.mem_rest hgone heq.symm
  cases upper with
  | nil =>
    rw [List.nil_append, List.cons.injEq] at hupper
    obtain ⟨rfl, rfl⟩ := hupper
    exact ⟨[], pc, rfl⟩
  | cons first others =>
    rw [List.cons_append, List.cons.injEq] at hupper
    exact ⟨{ handling with pc } :: others, frame.pc, by rw [hupper.2, List.cons_append]⟩

/-- A fatal error never takes a frame that handles everything. -/
theorem Abandoned.standsOn {codes : List GuestCode} {above callers left : List Frame}
    {frame : Frame} (h : Abandoned codes (above ++ frame :: callers) left)
    (hframe : frame.CatchesAll) : frame.StandsOn callers left := by
  obtain ⟨gone, rest, parts, heq, rfl, -, hgone⟩ := h
  obtain ⟨upper, rfl⟩ := hframe.mem_rest hgone heq.symm
  exact ⟨parts.flatten ++ upper, frame.pc, by rw [List.append_assoc]⟩

/-- A frame that handles everything is never unwound past: no operation on its thread ends with an
uncaught exception, and after each of them the frame is where it was, above the same callers. -/
theorem Operation.catchesAll_stands (operation : Operation) (start : Execution)
    {above callers : List Frame} {frame : Frame}
    (hframes : start.thread.frames = above ++ frame :: callers) (hframe : frame.CatchesAll) :
    match operation.run start with
    | .ok _ after => frame.StandsOn callers after.thread.frames
    | .error (.fatal error) after =>
      (∀ diagnostic, error ≠ .uncaught diagnostic) ∧ frame.StandsOn callers after.thread.frames
    | .error (.fault fault) _ => fault ≠ .nestingExceeded := by
  cases hrun : operation.run start with
  | ok result after =>
    have hleft := frames_of_ok hrun
    rw [hframes] at hleft
    cases hhandler : result.handler? with
    | some handler =>
      rw [hhandler] at hleft
      exact hleft.standsOn hframe
    | none =>
      rw [hhandler] at hleft
      exact ⟨above, frame.pc, hleft⟩
  | error halt after =>
    cases halt with
    | fatal error =>
      obtain ⟨habandoned, hempty⟩ := frames_of_fatal hrun
      rw [hframes] at habandoned
      have hstands := habandoned.standsOn hframe
      refine ⟨fun diagnostic herror => ?_, hstands⟩
      obtain ⟨upper, pc, hupper⟩ := hstands
      rw [hempty diagnostic herror] at hupper
      exact List.append_ne_nil_of_right_ne_nil upper (List.cons_ne_nil _ _) hupper.symm
    | fault fault => exact fun hfault => run_ne_nestingExceeded hrun (congrArg Halt.fault hfault)

/-- A frame that handles everything, after an entry for a class that has yet to be loaded. -/
def guardedFrame : Frame where
  method := {
    name := "run"
    owner := ⟨0⟩
    catches := [⟨0, 8, 10, .ofIndex 1⟩, ⟨0, 8, 20, .any⟩] }
  pc := 4

/-- A thread in that frame, on a machine where loading the class raises an exception whose own class
is missing. -/
def guardedExecution : Execution where
  machine := {
    registry :=
      Registry.empty.push { name := "A", sourceFile := "", constants := [.classNamed "B"] }
    heap := (Heap.empty.allocate ⟨0⟩ 0).2
    initializers := [⟨"B", ⟨.raise .nullPointer, []⟩⟩] }
  thread := { name := "main", classId := ⟨0⟩, frames := [guardedFrame] }

/-- A frame that handles everything stands even if dispatch cannot go on. -/
theorem Operation.catchesAll_stands_of_bootstrap :
    Dispatch.exitOf ((unwind ⟨0⟩).run guardedExecution) =
        .halted (.fatal (.bootstrap "java/lang/NullPointerException")) ∧
      guardedFrame.StandsOn []
        (Dispatch.finalOf ((unwind ⟨0⟩).run guardedExecution)).thread.frames := by
  have hexit : Dispatch.exitOf ((unwind ⟨0⟩).run guardedExecution) =
      .halted (.fatal (.bootstrap "java/lang/NullPointerException")) := by decide +kernel
  have hframes : guardedExecution.thread.frames = [] ++ guardedFrame :: [] := rfl
  have hframe : guardedFrame.CatchesAll := ⟨⟨0, 8, 20, .any⟩, by decide, by decide, rfl⟩
  have hstands := catchesAll_stands (unwind ⟨0⟩) guardedExecution hframes hframe
  refine ⟨hexit, ?_⟩
  cases hrun : (unwind ⟨0⟩).run guardedExecution with
  | ok result after =>
    rw [hrun] at hstands
    exact hstands
  | error halt after =>
    rw [hrun] at hstands hexit
    cases halt with
    | fatal error => exact hstands.2
    | fault fault => cases hexit

end ExceptionDispatch
