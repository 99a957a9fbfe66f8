import ExceptionDispatch.Machine.Standard
import ExceptionDispatch.Proofs.Conclusion
import ExceptionDispatch.Proofs.StackDiscipline

/-!
# What fatal errors say

A fatal error may come from guest code that is nested deep in an operation, and ends the operation
as it is. What it says is so when the operation has ended: the class that is missing is still
missing, the limit is that of the settings, and an uncaught exception has left no frame. What has to
be missing for an error can be told beforehand. Main statement: `Operation.run_fatal`.
-/

namespace ExceptionDispatch

/-! ### Missing classes -/

/-- No class of a name is registered, and none can be loaded. -/
def Machine.Lacks (machine : Machine) (name : String) : Prop :=
  machine.registry.idOf? name = none ∧ ∀ descriptor ∈ machine.loadable, descriptor.name ≠ name

/-- A machine lacks the classes whose names stand for nothing. -/
theorem Machine.lacks_iff {machine : Machine} {name : String} :
    machine.Lacks name ↔ machine.described? name = none := by
  rw [Lacks]
  cases hid : machine.registry.idOf? name with
  | some id => simp [Option.isSome_iff_ne_none.1 (described?_isSome hid)]
  | none => simp [described?, hid]

/-- A machine that grows lacks the classes that it lacked before, and no others. -/
theorem Machine.GrowsTo.lacks_iff {old new : Machine} (h : old.GrowsTo new) (name : String) :
    new.Lacks name ↔ old.Lacks name := by
  rw [Machine.lacks_iff, Machine.lacks_iff, h.described]

/-! ### Errors and their reasons -/

/-- What a fatal error says of the execution that it leaves. -/
def Fatal.Holds (execution : Execution) : Fatal → Prop
  | .bootstrap name => (∃ kind : Builtin, kind.className = name) ∧ execution.machine.Lacks name
  | .uncaught _ => execution.thread.frames = []
  | .constructionDepth name limit =>
    (∃ kind : Builtin, kind.className = name) ∧
      limit = execution.machine.settings.maxConstructionDepth

/-- An error says nothing of the construction depth that a thread is left at. -/
theorem Fatal.Holds.leaveConstructor {error : Fatal} {execution : Execution}
    (h : error.Holds execution) (object : ObjectRef) :
    error.Holds (execution.leaveConstructor object) := by
  cases error <;> exact h

namespace Course

variable {bound raises : Nat} {object? : Option ObjectRef} {start finish : Execution}
  {exit : Exit}

/-- What a fatal error says holds at its end, however deep the guest code is that it comes from. -/
theorem fatal_holds (h : Course bound object? raises start exit finish) {error : Fatal}
    (hexit : exit = .halted (.fatal error)) : error.Holds finish := by
  induction h with
  | refl | load | message | construct | caught => cases hexit
  | initializerTooDeep | constructorTooDeep | fault => cases hexit
  | trans _ _ _ ihsecond => exact ihsecond hexit
  | record _ _ _ _ _ ih =>
    have hholds := ih hexit
    cases error <;> exact hholds
  | initializer _ _ _ _ hends ih =>
    cases hends with
    | halted halt => exact ih hexit
    | returned | caught | unwound => cases hexit
  | constructor _ _ _ _ _ _ hends ih =>
    cases hends with
    | halted halt => exact (ih hexit).leaveConstructor _
    | returned | caught | unwound => cases hexit
  | popped _ _ _ _ ih => exact ih (Exit.addPopped_eq_halted_iff.1 hexit)
  | uncaught diagnostic hframes =>
    cases hexit
    exact hframes
  | @bootstrap _ _ _ _ kind hid hload =>
    cases hexit
    exact ⟨⟨kind, rfl⟩, Machine.lacks_iff.2 (Machine.described?_eq_none hid hload)⟩
  | constructionDepth kind =>
    cases hexit
    exact ⟨⟨kind, rfl⟩, rfl⟩

/-- Below the limit no exception is raised that is too deep, if constructors raise none. -/
theorem ne_constructionDepth (h : Course bound object? raises start exit finish)
    (hdepth : start.thread.constructionDepth < start.machine.settings.maxConstructionDepth)
    (hquiet : ∀ code ∈ start.machine.constructors.map ConstructorRule.code,
      code.action.raises = false) (name : String) (limit : UInt16) :
    exit ≠ .halted (.fatal (.constructionDepth name limit)) := by
  -- Initializers run at the depth of their caller; constructors go deeper, but raise nothing.
  induction h with
  | refl | load | message | construct | caught => exact Exit.noConfusion
  | initializerTooDeep | constructorTooDeep | fault => exact fun hexit => by cases hexit
  | uncaught | bootstrap => exact fun hexit => by cases hexit
  | trans hfirst _ _ ihsecond =>
    have hkeeps := hfirst.keeps
    rw [hkeeps.depth, hkeeps.settings, hkeeps.constructors] at ihsecond
    exact ihsecond hdepth hquiet
  | record _ _ _ _ _ ih => exact ih hdepth hquiet
  | initializer _ htake _ _ hends ih =>
    have hkeeps := Execution.keeps_enterInitializer htake
    rw [hkeeps.depth, hkeeps.settings, hkeeps.constructors] at ih
    exact fun hexit => ih hdepth hquiet (hends.eq_halted hexit)
  | constructor _ _ _ htake _ hnormal hends =>
    intro hexit
    obtain ⟨rules, hspend, -⟩ := Machine.eq_of_takeConstructor? htake
    have hraises := hquiet _ (ConstructorRule.code_of_spendFirst? hspend).1
    have hhalted := hends.eq_halted hexit
    rw [hnormal hraises] at hhalted
    cases hhalted
  | popped _ _ _ _ ih =>
    intro hexit
    exact ih hdepth hquiet (Exit.addPopped_eq_halted_iff.1 hexit)
  | constructionDepth kind hlimit => exact absurd hdepth (UInt16.not_lt.2 hlimit)

end Course

/-! ### Operations -/

/-- Every fatal error of an operation means what it says, wherever it comes from: a missing class is
that of a built-in exception, and it is neither registered nor loadable in the end; the limit of the
construction depth is the one that is set, and the exception is a built-in one; and the stack of an
uncaught exception is empty. If no class of a built-in exception is missing at the start, none is
found to be missing; and if the thread is below its limit and no constructor raises or throws, the
limit is never reached, whatever initializers do. -/
theorem Operation.run_fatal (operation : Operation) (start : Execution) :
    (∀ error after, operation.run start = .error (.fatal error) after →
      error.Holds after ∧ after.machine.settings = start.machine.settings) ∧
    ((∀ kind : Builtin, (start.machine.registry.idOf? kind.className).isSome = true ∨
        ∃ descriptor ∈ start.machine.loadable, descriptor.name = kind.className) →
      ∀ name after, operation.run start ≠ .error (.fatal (.bootstrap name)) after) ∧
    (start.thread.constructionDepth < start.machine.settings.maxConstructionDepth →
      (∀ rule ∈ start.machine.constructors, rule.code.action.raises = false) →
      ∀ name limit after,
        operation.run start ≠ .error (.fatal (.constructionDepth name limit)) after) := by
  have hcourse := operation.run_follows start
  refine ⟨?_, ?_, ?_⟩
  · intro error after hrun
    rw [hrun] at hcourse
    exact ⟨hcourse.fatal_holds rfl, hcourse.keeps.settings⟩
  · intro hknown name after hrun
    rw [hrun] at hcourse
    obtain ⟨⟨kind, rfl⟩, hlacks⟩ := hcourse.fatal_holds rfl
    obtain ⟨hid, hloadable⟩ := (hcourse.growsTo.lacks_iff _).1 hlacks
    rcases hknown kind with hregistered | ⟨descriptor, hmem, hname⟩
    · rw [hid] at hregistered
      cases hregistered
    · exact hloadable descriptor hmem hname
  · intro hdepth hquiet name limit after hrun
    rw [hrun] at hcourse
    exact hcourse.ne_constructionDepth hdepth (List.forall_mem_map.2 hquiet) name limit rfl

/-- A thread on the standard machine where the initializer of one exception's class raises another
exception, and one constructor at a time may write a message. -/
def messageExecution : Execution where
  machine := { Machine.standard with
    settings := { maxConstructionDepth := 1 }
    initializers := [⟨Builtin.nullPointer.className, ⟨.raise .arithmetic, [guardedFrame]⟩⟩]
    constructors := [{ code := ⟨.message "no value", []⟩ }] }
  thread := { name := "main", classId := ⟨0⟩ }

/-- A class that an initializer finds missing is missing in the end; on the standard machine none is
missing, and constructors that raise nothing never reach the limit. -/
theorem Operation.run_fatal_of_initializer :
    (∃ after, (unwind ⟨0⟩).run guardedExecution =
        .error (.fatal (.bootstrap Builtin.nullPointer.className)) after ∧
      after.machine.Lacks Builtin.nullPointer.className) ∧
    (∀ name after, (constructAndUnwind .nullPointer).run messageExecution ≠
      .error (.fatal (.bootstrap name)) after) ∧
    (∀ name limit after, (constructAndUnwind .nullPointer).run messageExecution ≠
      .error (.fatal (.constructionDepth name limit)) after) := by
  have hexit : Dispatch.exitOf ((unwind ⟨0⟩).run guardedExecution) =
      .halted (.fatal (.bootstrap Builtin.nullPointer.className)) := by decide +kernel
  have hknown : ∀ kind : Builtin,
      (messageExecution.machine.registry.idOf? kind.className).isSome = true ∨
        ∃ descriptor ∈ messageExecution.machine.loadable, descriptor.name = kind.className := by
    intro kind
    cases kind <;> decide
  obtain ⟨-, hbootstrap, hdepth⟩ := run_fatal (constructAndUnwind .nullPointer) messageExecution
  refine ⟨?_, hbootstrap hknown, hdepth (by decide) (by decide)⟩
  cases hrun : (unwind ⟨0⟩).run guardedExecution with
  | ok result after =>
    rw [hrun] at hexit
    exact absurd hexit (result.exit_ne_halted _)
  | error halt after =>
    rw [hrun] at hexit
    cases hexit
    obtain ⟨hholds, -⟩ := (run_fatal (unwind ⟨0⟩) guardedExecution).1 _ after hrun
    exact ⟨after, rfl, hholds.2⟩

end ExceptionDispatch
