import ExceptionDispatch.Session.Step

/-!
# Running a session

Commands are carried out in order until one of them ends the program or makes no sense to the
machine.
-/

namespace ExceptionDispatch

/-- A reply with what was written to the log on the way to it. -/
structure Answer where
  reply : Reply
  records : List Record
  deriving DecidableEq, Repr

/-- How a run ends. -/
inductive Ending
  /-- All commands were answered, or one made no sense to the machine. -/
  | completed
  /-- The program was ended by a fatal error, with these last records in the log. -/
  | ended (error : Fatal) (records : List Record)
  deriving DecidableEq, Repr

namespace Ending

/-- The exit status of the program. -/
def status : Ending → Nat
  | completed => 0
  | ended error _ => error.status

/-- What the program prints as it ends. -/
def errorText : Ending → String
  | completed => ""
  | ended error _ => error.message ++ "\n"

/-- The last records in the log. -/
def records : Ending → List Record
  | completed => []
  | ended _ records => records

end Ending

/-- The answers to commands, how the run ended and the session after it. -/
structure Transcript where
  answers : List Answer
  ending : Ending
  session : Session
  deriving DecidableEq, Repr

/-- Carry out commands, one after the other. -/
def Session.run (session : Session) : List Command → Transcript
  | [] => ⟨[], .completed, session⟩
  | command :: rest =>
    let step := session.step command
    match step.outcome with
    | .answered reply =>
      let transcript := step.session.run rest
      { transcript with answers := ⟨reply, step.records⟩ :: transcript.answers }
    | .faulted fault => ⟨[⟨.fault fault, step.records⟩], .completed, step.session⟩
    | .ended error => ⟨[], .ended error step.records, step.session⟩

end ExceptionDispatch
