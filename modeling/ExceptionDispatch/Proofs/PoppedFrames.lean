import ExceptionDispatch.Proofs.Locality
import Mathlib.Algebra.GroupWithZero.Nat

/-!
# Popped frames

A handler comes with the number of frames that were popped on the way to it. Some of them were on
the stack before the operation, and the others are those of guest code that was in progress when the
handler was installed: guest code that ended before has taken its frames with it, and guest code
that ends afterwards has none left. The trace tells which guest code was in progress. Main
statements: `Course.accounted` and `Operation.run_popped`.
-/

namespace ExceptionDispatch

/-! ### Guest code in progress -/

/-- The frames of each run of guest code in progress after an event, the innermost first, from those
of before it; there are none to tell if guest code ends that has not begun. -/
def Event.inProgress? (runs : List Nat) : Event → Option (List Nat)
  | .guestEntered frames => some (frames :: runs)
  | .guestLeft _ =>
    match runs with
    | [] => none
    | _ :: rest => some rest
  | _ => some runs

/-- The frames of each run of guest code in progress after a part of a trace. -/
def inProgressAfter? (runs : List Nat) (entries : List TraceEntry) : Option (List Nat) :=
  entries.foldlM (fun running entry => entry.event.inProgress? running) runs

private theorem Event.inProgress?_of_not_marksGuest {event : Event}
    (hevent : event.marksGuest = false) (runs : List Nat) : event.inProgress? runs = some runs := by
  cases event with
  | guestEntered | guestLeft => cases hevent
  | constructing | constructorEntered | constructorLeft => rfl
  | caught | replaced | popping | unresolved => rfl

private theorem inProgressAfter?_cons (runs : List Nat) (entry : TraceEntry)
    (rest : List TraceEntry) :
    inProgressAfter? runs (entry :: rest) =
      (entry.event.inProgress? runs).bind (inProgressAfter? · rest) := by
  rw [inProgressAfter?, List.foldlM_cons]
  rfl

private theorem inProgressAfter?_append (runs : List Nat) (first second : List TraceEntry) :
    inProgressAfter? runs (first ++ second) =
      (inProgressAfter? runs first).bind (inProgressAfter? · second) := by
  rw [inProgressAfter?, List.foldlM_append]
  rfl

/-- All guest code that begins in a part of a trace ends in it. -/
def Balanced (entries : List TraceEntry) : Prop :=
  ∀ runs, inProgressAfter? runs entries = some runs

namespace Balanced

variable {first second entries : List TraceEntry} {entry last : TraceEntry}

private theorem nil : Balanced [] := fun _ => rfl

private theorem append (hfirst : Balanced first) (hsecond : Balanced second) :
    Balanced (first ++ second) := by
  intro runs
  rw [inProgressAfter?_append, hfirst, Option.bind_some]
  exact hsecond runs

private theorem single (hentry : entry.event.marksGuest = false) : Balanced [entry] := by
  intro runs
  rw [inProgressAfter?_cons, Event.inProgress?_of_not_marksGuest hentry]
  rfl

private theorem guest {frames : Nat} {outcome : Completion} (h : Balanced entries)
    (hentry : entry.event = .guestEntered frames) (hlast : last.event = .guestLeft outcome) :
    Balanced (entry :: entries ++ [last]) := by
  intro runs
  have hinner : inProgressAfter? runs (entry :: entries) = some (frames :: runs) := by
    rw [inProgressAfter?_cons, hentry]
    exact h (frames :: runs)
  rw [inProgressAfter?_append, hinner, Option.bind_some, inProgressAfter?_cons, hlast]
  rfl

end Balanced

/-- The last handler that a part of a trace installs is at an offset, and it is installed while
guest code on so many frames is in progress, the innermost first, that has begun in that part. -/
def Installs (pc : UInt16) (opened : List Nat) (entries : List TraceEntry) : Prop :=
  ∃ seen entry rest passage handler, entries = seen ++ entry :: rest ∧
    entry.event = .caught passage handler ∧ handler.pc = pc ∧
    (∀ later ∈ rest, later.event.installs = false) ∧
    ∀ runs, inProgressAfter? runs seen = some (opened ++ runs)

namespace Installs

variable {pc : UInt16} {opened : List Nat} {entries others : List TraceEntry} {entry : TraceEntry}

private theorem single {passage : Passage} {handler : Handler}
    (hentry : entry.event = .caught passage handler) (hpc : handler.pc = pc) :
    Installs pc [] [entry] :=
  ⟨[], entry, [], passage, handler, rfl, hentry, hpc, by simp, fun _ => rfl⟩

private theorem after (h : Installs pc opened entries) (hothers : Balanced others) :
    Installs pc opened (others ++ entries) := by
  obtain ⟨seen, entry, rest, passage, handler, rfl, hentry, hpc, hrest, hseen⟩ := h
  refine ⟨others ++ seen, entry, rest, passage, handler, ?_, hentry, hpc, hrest, ?_⟩
  · rw [List.append_assoc]
  · intro runs
    rw [inProgressAfter?_append, hothers, Option.bind_some]
    exact hseen runs

private theorem followed (h : Installs pc opened entries)
    (hothers : ∀ later ∈ others, later.event.installs = false) :
    Installs pc opened (entries ++ others) := by
  obtain ⟨seen, entry, rest, passage, handler, rfl, hentry, hpc, hrest, hseen⟩ := h
  refine ⟨seen, entry, rest ++ others, passage, handler, ?_, hentry, hpc, ?_, hseen⟩
  · rw [List.append_assoc, List.cons_append]
  · intro later hlater
    exact (List.mem_append.1 hlater).elim (hrest later) (hothers later)

private theorem inGuest {frames : Nat} (h : Installs pc opened entries)
    (hentry : entry.event = .guestEntered frames) :
    Installs pc (opened ++ [frames]) (entry :: entries) := by
  obtain ⟨seen, last, rest, passage, handler, rfl, hlast, hpc, hrest, hseen⟩ := h
  refine ⟨entry :: seen, last, rest, passage, handler, rfl, hlast, hpc, hrest, ?_⟩
  intro runs
  rw [inProgressAfter?_cons, hentry]
  exact (hseen (frames :: runs)).trans (by rw [List.append_assoc, List.singleton_append])

end Installs

/-! ### Frames that are accounted for -/

/-- What the exit of a part of an operation says of the frames: its caller goes on with as many as
there were, and on the way to a handler those were popped that are missing at the end, and those of
the guest code that was in progress. -/
def Accounted (start : Execution) (exit : Exit) (finish : Execution) : Prop :=
  ∃ entries, finish.trace.toList = start.trace.toList ++ entries ∧
    match exit with
    | .normal => Balanced entries ∧ finish.thread.depth = start.thread.depth
    | .unwound handler =>
      Balanced entries ∧ ∃ opened, Installs handler.pc opened entries ∧
        finish.thread.depth + handler.popped = start.thread.depth + opened.sum
    | .halted _ => True

namespace Execution

private theorem toList_trace_record (execution : Execution) (event : Event) :
    (execution.record event).trace.toList =
      execution.trace.toList ++ [⟨execution.thread.constructionDepth, event⟩] := by
  simp [record]

private theorem toList_trace_guest {start acted : Execution} {code : GuestCode}
    {entries : List TraceEntry}
    (hacted : acted.trace.toList = (start.enterGuest code).trace.toList ++ entries) (base : Nat)
    (outcome : Completion) :
    (acted.leaveGuest base outcome).trace.toList = start.trace.toList ++
      (⟨start.thread.constructionDepth, .guestEntered code.frames.length⟩ :: entries ++
        [⟨acted.thread.constructionDepth, .guestLeft outcome⟩]) := by
  have hentered : (start.enterGuest code).trace.toList = start.trace.toList ++
      [⟨start.thread.constructionDepth, .guestEntered code.frames.length⟩] :=
    toList_trace_record _ _
  have hleft : (acted.leaveGuest base outcome).trace.toList = acted.trace.toList ++
      [⟨acted.thread.constructionDepth, .guestLeft outcome⟩] :=
    toList_trace_record _ _
  rw [hleft, hacted, hentered]
  simp only [List.append_assoc, List.cons_append, List.nil_append]

end Execution

private theorem Thread.depth_truncate (thread : Thread) (depth : Nat) :
    (thread.truncate depth).depth = min thread.depth depth := by
  simp only [Thread.depth, truncate, List.length_drop]
  omega

namespace Accounted

variable {start middle finish : Execution} {exit : Exit}

private theorem of_eq (htrace : finish.trace = start.trace)
    (hdepth : finish.thread.depth = start.thread.depth) : Accounted start .normal finish :=
  ⟨[], by rw [htrace, List.append_nil], .nil, hdepth⟩

private theorem halted {halt : Halt} (htrace : finish.trace = start.trace) :
    Accounted start (.halted halt) finish :=
  ⟨[], by rw [htrace, List.append_nil], trivial⟩

private theorem trans (hfirst : Accounted start .normal middle)
    (hsecond : Accounted middle exit finish) : Accounted start exit finish := by
  obtain ⟨first, hmiddle, hbalanced, hdepth⟩ := hfirst
  obtain ⟨second, hfinish, hexit⟩ := hsecond
  refine ⟨first ++ second, by rw [hfinish, hmiddle, List.append_assoc], ?_⟩
  cases exit with
  | normal => exact ⟨hbalanced.append hexit.1, hexit.2.trans hdepth⟩
  | unwound handler =>
    obtain ⟨hmore, opened, hinstalls, hpopped⟩ := hexit
    rw [hdepth] at hpopped
    exact ⟨hbalanced.append hmore, opened, hinstalls.after hbalanced, hpopped⟩
  | halted halt => trivial

private theorem record (h : Accounted start exit finish) (event : Event)
    (hguest : event.marksGuest = false) (hinstalls : event.installs = false) :
    Accounted start exit (finish.record event) := by
  obtain ⟨entries, hfinish, hexit⟩ := h
  refine ⟨entries ++ [⟨finish.thread.constructionDepth, event⟩], ?_, ?_⟩
  · rw [Execution.toList_trace_record, hfinish, List.append_assoc]
  · cases exit with
    | normal => exact ⟨hexit.1.append (.single hguest), hexit.2⟩
    | unwound handler =>
      obtain ⟨hbalanced, opened, hinner, hpopped⟩ := hexit
      exact ⟨hbalanced.append (.single hguest), opened, hinner.followed (by simpa using hinstalls),
        hpopped⟩
    | halted halt => trivial

private theorem congr {other : Execution} (h : Accounted start exit finish)
    (htrace : other.trace = finish.trace) (hdepth : other.thread.depth = finish.thread.depth) :
    Accounted start exit other := by
  rw [Accounted, htrace, hdepth]
  exact h

private theorem caught (start : Execution) (passage : Passage) (pc : UInt16) (popped : Nat) :
    Accounted start (.unwound ⟨pc, 0⟩)
      ((start.modifyThread (Thread.setPc · pc)).record (.caught passage ⟨pc, popped⟩)) :=
  ⟨_, Execution.toList_trace_record _ _, .single rfl, [], .single rfl rfl, by simp⟩

private theorem popped {frame : Frame} {callers : List Frame}
    (hframes : start.thread.frames = frame :: callers)
    (h : Accounted (start.modifyThread Thread.pop) exit finish) (hexit : exit ≠ .normal) :
    Accounted start (exit.addPopped 1) finish := by
  have hdepth : (start.modifyThread Thread.pop).thread.depth + 1 = start.thread.depth := by
    simp [Thread.depth, Thread.pop, hframes]
  obtain ⟨entries, hfinish, hrest⟩ := h
  refine ⟨entries, hfinish, ?_⟩
  cases exit with
  | normal => exact absurd rfl hexit
  | unwound handler =>
    obtain ⟨hbalanced, opened, hinstalls, hpopped⟩ := hrest
    exact ⟨hbalanced, opened, hinstalls, by simp only; omega⟩
  | halted halt => trivial

/-- Guest code takes its own frames with it, and those of them that were popped on the way to a
handler below them are accounted for as well. -/
theorem guest {acted : Execution} {code : GuestCode} {inner : Exit}
    (h : Accounted (start.enterGuest code) inner acted)
    (hends : GuestEnds start.thread.depth acted inner exit finish) :
    Accounted start exit finish := by
  obtain ⟨entries, hacted, hinner⟩ := h
  have hentered : (start.enterGuest code).thread.depth = code.frames.length + start.thread.depth :=
    Thread.depth_pushAll _ _
  cases hends with
  | halted halt =>
    refine ⟨⟨start.thread.constructionDepth, .guestEntered code.frames.length⟩ :: entries, ?_,
      trivial⟩
    rw [hacted, Execution.enterGuest, Execution.toList_trace_record, List.append_assoc]
    rfl
  | returned =>
    refine ⟨_, Execution.toList_trace_guest hacted _ _, hinner.1.guest rfl rfl, ?_⟩
    have hsame := hinner.2
    rw [Execution.thread_leaveGuest, Thread.depth_truncate]
    omega
  | caught handler hdepth =>
    refine ⟨_, Execution.toList_trace_guest hacted _ _, hinner.1.guest rfl rfl, ?_⟩
    rw [Execution.thread_leaveGuest, Thread.depth_truncate]
    omega
  | unwound handler hdepth =>
    obtain ⟨hbalanced, opened, hinstalls, hpopped⟩ := hinner
    refine ⟨_, Execution.toList_trace_guest hacted _ _, hbalanced.guest rfl rfl,
      opened ++ [code.frames.length],
      (hinstalls.inGuest rfl).followed (List.forall_mem_singleton.2 rfl), ?_⟩
    rw [Execution.thread_leaveGuest, Thread.depth_truncate, List.sum_append, List.sum_singleton]
    omega

private theorem beginConstruction (start : Execution) (kind : Builtin) (id : ClassId)
    (descriptor : ClassDescriptor) :
    Accounted start .normal (start.beginConstruction kind id descriptor) := by
  let machine := (start.machine.allocate id descriptor.fieldCount).2
  have hallocated : Accounted start .normal { start with machine } := .of_eq rfl rfl
  have hdeeper : Accounted start .normal
      (({ start with machine } : Execution).record (.constructing kind)).raiseDepth :=
    (hallocated.record _ rfl rfl).congr rfl rfl
  exact (hdeeper.record (.constructorEntered start.nextObject) rfl rfl).congr rfl rfl

private theorem leaveConstructor (h : Accounted start exit finish) (object : ObjectRef) :
    Accounted start exit (finish.leaveConstructor object) :=
  (h.record (.constructorLeft object) rfl rfl).congr rfl rfl

end Accounted

/-- All frames of an operation are accounted for. -/
theorem Course.accounted {bound raises : Nat} {object? : Option ObjectRef}
    {start finish : Execution} {exit : Exit}
    (h : Course bound object? raises start exit finish) : Accounted start exit finish := by
  induction h with
  | refl | load | message => exact .of_eq rfl rfl
  | uncaught | bootstrap | constructionDepth | fault | initializerTooDeep => exact .halted rfl
  | trans _ _ ihfirst ihsecond => exact ihfirst.trans ihsecond
  | record event _ _ hguest hinstalls ih => exact ih.record event hguest hinstalls
  | initializer _ _ _ _ hends ih => exact Accounted.trans (.of_eq rfl rfl) (ih.guest hends)
  | construct => exact (Accounted.beginConstruction _ _ _ _).leaveConstructor _
  | @constructor _ _ _ _ start kind id descriptor _ machine _ _ _ _ _ _ _ _ _ hends ih =>
    have htaken : Accounted start .normal
        { start.beginConstruction kind id descriptor with machine } :=
      (Accounted.beginConstruction start kind id descriptor).congr rfl rfl
    exact (htaken.trans (ih.guest hends)).leaveConstructor _
  | @constructorTooDeep _ _ start kind id descriptor _ machine =>
    have htaken : Accounted start .normal
        { start.beginConstruction kind id descriptor with machine } :=
      (Accounted.beginConstruction start kind id descriptor).congr rfl rfl
    exact (htaken.trans (.halted rfl)).leaveConstructor _
  | caught passage popped => exact .caught _ passage _ popped
  | popped hframes _ _ hexit ih => exact ih.popped hframes hexit

/-- The number of popped frames that comes with a handler accounts for every frame: it is the number
of frames that the operation has taken from the stack, together with those of all guest code that
had begun in the operation and was in progress when the handler was installed. So it is never less
than what is missing from the stack, and no more if there was no such guest code. -/
theorem Operation.run_popped {operation : Operation} {start after : Execution}
    {result : OperationResult} {handler : Handler} (hrun : operation.run start = .ok result after)
    (hhandler : result.handler? = some handler) :
    after.thread.depth ≤ start.thread.depth ∧
      ∃ entries runs, after.trace.toList = start.trace.toList ++ entries ∧
        Installs handler.pc runs entries ∧
        handler.popped = start.thread.depth - after.thread.depth + runs.sum ∧
        start.thread.depth - after.thread.depth ≤ handler.popped ∧
        (runs = [] → handler.popped = start.thread.depth - after.thread.depth) := by
  have hle : after.thread.depth ≤ start.thread.depth := by
    have hframes := frames_of_ok hrun
    rw [hhandler] at hframes
    exact hframes.length_le
  have haccounted := (operation.run_follows start).accounted
  rw [hrun] at haccounted
  simp only [Dispatch.exitOf, Dispatch.finalOf,
    OperationResult.exit_eq_unwound_iff.2 hhandler] at haccounted
  obtain ⟨entries, htrace, -, runs, hinstalls, hdepth⟩ := haccounted
  have hpopped : handler.popped = start.thread.depth - after.thread.depth + runs.sum := by omega
  refine ⟨hle, entries, runs, htrace, hinstalls, hpopped, by omega, ?_⟩
  rintro rfl
  exact hpopped

/-- A frame that handles nothing. -/
def bareFrame : Frame where
  method := { name := "run", owner := ⟨0⟩ }

/-- A thread on a machine where an exception comes out of the constructor of another one, which an
initializer raises on two frames, into a frame that does not handle it. -/
def escapingExecution : Execution where
  machine := { narrowExecution.machine with
    loadable := { name := Builtin.nullPointer.className, sourceFile := "" } ::
      narrowExecution.machine.loadable
    initializers := [⟨"B", ⟨.raise .nullPointer, [bareFrame, bareFrame]⟩⟩]
    constructors := [{ code := ⟨.throw (some ⟨0⟩), [bareFrame]⟩ }] }
  thread := { narrowExecution.thread with
    frames := bareFrame :: narrowExecution.thread.frames }

/-- Two of the five frames that are popped here were on the stack before, and the others are those
of the constructor and of the initializer. -/
theorem Operation.run_popped_of_nested :
    ∃ result after, (unwind ⟨0⟩).run escapingExecution = .ok result after ∧
      result.handler? = some ⟨20, 5⟩ ∧ escapingExecution.thread.depth = 4 ∧
      after.thread.depth = 2 ∧
      ∃ entries runs, after.trace.toList = entries ∧ Installs 20 runs entries ∧ runs.sum = 3 := by
  have hexit : Dispatch.exitOf ((unwind ⟨0⟩).run escapingExecution) = .unwound ⟨20, 5⟩ := by
    decide +kernel
  have hdepth : (Dispatch.finalOf ((unwind ⟨0⟩).run escapingExecution)).thread.depth = 2 := by
    decide +kernel
  cases hrun : (unwind ⟨0⟩).run escapingExecution with
  | error halt after =>
    rw [hrun] at hexit
    cases hexit
  | ok result after =>
    rw [hrun] at hexit hdepth
    have hhandler := OperationResult.exit_eq_unwound_iff.1 hexit
    obtain ⟨-, entries, runs, htrace, hinstalls, hpopped, -, -⟩ := run_popped hrun hhandler
    have hbefore : escapingExecution.thread.depth = 4 := rfl
    refine ⟨result, after, rfl, hhandler, hbefore, hdepth, entries, runs, htrace, hinstalls, ?_⟩
    have hafter : after.thread.depth = 2 := hdepth
    simp only at hpopped
    omega

end ExceptionDispatch
