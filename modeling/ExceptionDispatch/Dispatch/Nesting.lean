import ExceptionDispatch.Dispatch.Construction

/-!
# Running guest code

Guest code pushes its frames, acts, and ends in one of two ways: what it raised was caught below
its frames, or it returns and its frames are popped. What it raises may run further guest code. How
deep this goes is bounded beforehand: each run in progress either has used up an initializer or is
one of the constructors being run.
-/

namespace ExceptionDispatch.Dispatch

/-- Do what guest code does; the answer is the handler of what it raised, if it raised something. -/
def act (run : GuestRunner) (object? : Option ObjectRef) :
    GuestAction → Dispatch (Option Handler)
  | .nothing => return none
  | .message text => do
    match object? with
    | none => return none
    | some object =>
      modifyMachine (Machine.writeMessage · object text)
      return none
  | .raise kind => do return some (← constructAndUnwind run kind)
  | .throw thrown? => do return some (← throwObject run thrown?)

/-- How guest code ends that raised something or not: what it raised was caught below its frames if
the stack is no deeper than before. -/
def completion (base depth : Nat) : Option Handler → Completion
  | some handler => if depth ≤ base then .unwound handler else .returned
  | none => .returned

/-- Run guest code, with a runner for the guest code that it causes to run. Embeds what
`TestRuntime` does for an `Initializer` and a `Constructor`. -/
def perform (run : GuestRunner) (code : GuestCode) (object? : Option ObjectRef) :
    Dispatch Completion := do
  let base := (← get).thread.depth
  modifyThread (Thread.pushAll · code.frames)
  record (.guestEntered code.frames.length)
  let raised? ← act run object? code.action
  let outcome := completion base (← get).thread.depth raised?
  modifyThread (Thread.truncate · base)
  record (.guestLeft outcome)
  return outcome

/-- Run guest code in which guest code is nested at most so many times. -/
def runner : Nat → GuestRunner
  | 0, _, _ => throw (.fault .nestingExceeded)
  | bound + 1, code, object? => perform (runner bound) code object?

end Dispatch

end ExceptionDispatch
