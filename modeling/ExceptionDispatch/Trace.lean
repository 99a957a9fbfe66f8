import ExceptionDispatch.Builtin
import ExceptionDispatch.Outcome

/-!
# Traces

What happens in the course of an operation, in order. Some events are written to the log, as a
record with a level and a text; the others tell which guest code is running.
-/

namespace ExceptionDispatch

/-- The importance of a log record. -/
inductive Level
  | trace
  | debug
  | warn
  | error
  deriving DecidableEq, Repr

/-- The word that a level is written as. -/
def Level.word : Level → String
  | trace => "TRACE"
  | debug => "DEBUG"
  | warn => "WARN"
  | error => "ERROR"

/-- A line of the log. -/
structure Record where
  level : Level
  text : String
  deriving DecidableEq, Repr

/-- The last record of a program that ends. Embeds `terminate`. -/
def Record.terminating (status : Nat) : Record :=
  ⟨.error, s!"terminating with exit status {status}"⟩

/-- A frame that an exception comes through: the class of the exception, and the method and the
instruction of the frame. -/
structure Passage where
  className : String
  method : String
  pc : UInt16
  deriving DecidableEq, Repr

/-- Something that happens in the course of an operation. -/
inductive Event
  /-- A built-in exception is allocated and about to be constructed. -/
  | constructing (kind : Builtin)
  /-- The constructor of an object begins. -/
  | constructorEntered (object : ObjectRef)
  /-- The constructor of an object has ended, in whatever way. -/
  | constructorLeft (object : ObjectRef)
  /-- Guest code begins on as many new frames. -/
  | guestEntered (frames : Nat)
  /-- Guest code has ended, other than by a fatal error. -/
  | guestLeft (completion : Completion)
  /-- A frame handles the exception, so many frames above the handler having been popped. -/
  | caught (passage : Passage) (handler : Handler)
  /-- An exception raised in the search of a frame takes the place of the one searched for. -/
  | replaced (passage : Passage) (handler : Handler)
  /-- A frame does not handle the exception and is popped. -/
  | popping (passage : Passage)
  /-- A catch type names no class that can be loaded. -/
  | unresolved (index : UInt16) (owner method : String)
  deriving DecidableEq, Repr

/-- An event with the construction depth of the thread at that moment. -/
structure TraceEntry where
  depth : UInt16
  event : Event
  deriving DecidableEq, Repr

/-- The log record of an entry for a thread of a given name, if the log has one. Embeds the log
texts of `unwind`, `find_handler` and `construct`. -/
def TraceEntry.record? (thread : String) (entry : TraceEntry) : Option Record :=
  match entry.event with
  | .constructing kind =>
    let name := kind.className
    let depth := entry.depth
    some ⟨.debug, s!"thread '{thread}' constructing {name} (depth {depth})"⟩
  | .caught ⟨name, method, pc⟩ ⟨target, popped⟩ =>
    some ⟨.debug,
      s!"thread '{thread}' caught {name} in {method} at {pc}, " ++
        s!"jumping to {target} ({popped} popped)"⟩
  | .replaced ⟨name, method, pc⟩ ⟨target, _⟩ =>
    some ⟨.debug,
      s!"thread '{thread}' dropped {name} in {method} at {pc}, " ++
        s!"replaced by an exception caught at {target}"⟩
  | .popping ⟨name, method, pc⟩ =>
    some ⟨.trace, s!"thread '{thread}' popping frame of {method} at {pc}, no handler for {name}"⟩
  | .unresolved index owner method =>
    some ⟨.warn, s!"the catch type #{index} of {owner}.{method} can't be resolved"⟩
  | .constructorEntered _ | .constructorLeft _ | .guestEntered _ | .guestLeft _ => none

/-- Entries in the order in which they happened. -/
abbrev Trace := Array TraceEntry

/-- The log records of a trace for a thread of a given name. -/
def Trace.records (thread : String) (trace : Trace) : List Record :=
  trace.toList.filterMap (TraceEntry.record? thread)

end ExceptionDispatch
