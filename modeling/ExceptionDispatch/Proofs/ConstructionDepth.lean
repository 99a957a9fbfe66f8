import ExceptionDispatch.Proofs.Course.Nesting
import ExceptionDispatch.Session.Run

/-!
# The construction depth

A thread counts the constructors that are running on it. The count is back where it was after every
operation, so it is zero between commands; in the course of an operation it is the number of
constructors that are running, at every entry of the trace, and it never gets past its limit. A
constructor is running already as its beginning is told of, and still as its end is. Main statement:
`constructionDepth_balanced`.
-/

namespace ExceptionDispatch

/-- The objects whose constructors are running after an event, the innermost first, from those of
before it; there are none to tell if a constructor ends that is not the innermost. -/
def Event.running? (objects : List ObjectRef) : Event → Option (List ObjectRef)
  | .constructorEntered object => some (object :: objects)
  | .constructorLeft object =>
    match objects with
    | [] => none
    | innermost :: rest => if innermost = object then some rest else none
  | _ => some objects

/-- The objects whose constructors are running after a part of a trace. -/
def runningAfter? (objects : List ObjectRef) (entries : List TraceEntry) :
    Option (List ObjectRef) :=
  entries.foldlM (fun running entry => entry.event.running? running) objects

private theorem Event.running?_of_not_marksDepth {event : Event} (hevent : event.marksDepth = false)
    (objects : List ObjectRef) : event.running? objects = some objects := by
  cases event with
  | constructorEntered | constructorLeft => cases hevent
  | constructing | guestEntered | guestLeft | caught | replaced | popping | unresolved => rfl

/-- The part of a trace from some running constructors to some others, where every entry has as its
depth the number of those that are running before it or after it, and no depth is past the limit. -/
inductive Counts (limit : UInt16) : List ObjectRef → List TraceEntry → List ObjectRef → Prop
  | nil (objects : List ObjectRef) : Counts limit objects [] objects
  | cons {objects next left : List ObjectRef} {entry : TraceEntry} {rest : List TraceEntry}
      (hnext : entry.event.running? objects = some next)
      (hdepth : entry.depth.toNat = max objects.length next.length)
      (hlimit : entry.depth ≤ limit) (hrest : Counts limit next rest left) :
      Counts limit objects (entry :: rest) left

namespace Counts

variable {limit : UInt16} {objects middle left : List ObjectRef}

private theorem append {first second : List TraceEntry} (hfirst : Counts limit objects first middle)
    (hsecond : Counts limit middle second left) :
    Counts limit objects (first ++ second) left := by
  induction hfirst with
  | nil => exact hsecond
  | cons hnext hdepth hlimit _ ih => exact .cons hnext hdepth hlimit (ih hsecond)

private theorem single {entry : TraceEntry} (hnext : entry.event.running? objects = some left)
    (hdepth : entry.depth.toNat = max objects.length left.length) (hlimit : entry.depth ≤ limit) :
    Counts limit objects [entry] left :=
  .cons hnext hdepth hlimit (.nil left)

private theorem runningAfter?_eq {entries : List TraceEntry}
    (h : Counts limit objects entries left) :
    runningAfter? objects entries = some left := by
  induction h with
  | nil => rfl
  | cons hnext _ _ _ ih =>
    rw [runningAfter?, List.foldlM_cons, hnext]
    exact ih

/-- At every entry the depth is the number of running constructors. -/
theorem depth_eq {seen rest : List TraceEntry} {entry : TraceEntry}
    (h : Counts limit objects (seen ++ entry :: rest) left) :
    ∃ before after, runningAfter? objects seen = some before ∧
      entry.event.running? before = some after ∧
      entry.depth.toNat = max before.length after.length ∧ entry.depth ≤ limit := by
  induction seen generalizing objects with
  | nil =>
    cases h with
    | cons hnext hdepth hlimit _ => exact ⟨objects, _, rfl, hnext, hdepth, hlimit⟩
  | cons first others ih =>
    cases h with
    | cons hnext _ _ hrest =>
      obtain ⟨before, after, hbefore, hentry⟩ := ih hrest
      refine ⟨before, after, ?_, hentry⟩
      rw [runningAfter?, List.foldlM_cons, hnext]
      exact hbefore

end Counts

namespace Execution

/-- One execution leads to another one by a part of the trace that counts as many running
constructors at its end as at its beginning. -/
def Counted (start finish : Execution) : Prop :=
  ∃ entries : List TraceEntry, finish.trace.toList = start.trace.toList ++ entries ∧
    ∀ objects : List ObjectRef, objects.length = start.thread.constructionDepth.toNat →
      Counts start.machine.settings.maxConstructionDepth objects entries objects

/-- The depth of a thread is within its limit. -/
def Within (execution : Execution) : Prop :=
  execution.thread.constructionDepth ≤ execution.machine.settings.maxConstructionDepth

private theorem Keeps.within {start finish : Execution} (h : start.Keeps finish)
    (hstart : start.Within) :
    finish.Within := by
  rw [Within, h.depth, h.settings]
  exact hstart

private theorem within_beginConstruction {start : Execution}
    (hdepth : start.thread.constructionDepth < start.machine.settings.maxConstructionDepth)
    (kind : Builtin) (id : ClassId) (descriptor : ClassDescriptor) :
    (start.beginConstruction kind id descriptor).Within := by
  have hlt := UInt16.lt_iff_toNat_lt.1 hdepth
  rw [Within, UInt16.le_iff_toNat_le, toNat_depth_beginConstruction hdepth]
  exact hlt

namespace Counted

variable {start middle finish : Execution}

private theorem of_trace_eq (h : finish.trace = start.trace) : start.Counted finish :=
  ⟨[], by rw [h, List.append_nil], fun objects _ => .nil objects⟩

private theorem trans (hfirst : start.Counted middle) (hkeeps : start.Keeps middle)
    (hsecond : middle.Counted finish) : start.Counted finish := by
  obtain ⟨first, hmiddle, hcounts⟩ := hfirst
  obtain ⟨second, hfinish, hmore⟩ := hsecond
  refine ⟨first ++ second, by rw [hfinish, hmiddle, List.append_assoc], ?_⟩
  intro objects hobjects
  rw [hkeeps.depth, hkeeps.settings] at hmore
  exact (hcounts objects hobjects).append (hmore objects hobjects)

private theorem record (execution : Execution) {event : Event} (hevent : event.marksDepth = false)
    (hwithin : execution.Within) : execution.Counted (execution.record event) := by
  refine ⟨[⟨execution.thread.constructionDepth, event⟩], by simp [Execution.record], ?_⟩
  intro objects hobjects
  have hdepth : execution.thread.constructionDepth.toNat = max objects.length objects.length := by
    rw [Nat.max_self, hobjects]
  exact .single (Event.running?_of_not_marksDepth hevent objects) hdepth hwithin

private theorem enterGuest (execution : Execution) (code : GuestCode) (hwithin : execution.Within) :
    execution.Counted (execution.enterGuest code) := by
  have hpushed : execution.Counted (execution.modifyThread (Thread.pushAll · code.frames)) :=
    of_trace_eq rfl
  exact hpushed.trans (execution.keeps_modifyThread fun _ => rfl) (record _ rfl hwithin)

private theorem leaveGuest (execution : Execution) (base : Nat) (outcome : Completion)
    (hwithin : execution.Within) : execution.Counted (execution.leaveGuest base outcome) := by
  have hpopped : execution.Counted (execution.modifyThread (Thread.truncate · base)) :=
    of_trace_eq rfl
  exact hpopped.trans (execution.keeps_modifyThread fun _ => rfl) (record _ rfl hwithin)

private theorem leaveConstructor {kind : Builtin} {id : ClassId} {descriptor : ClassDescriptor}
    (hdepth : start.thread.constructionDepth < start.machine.settings.maxConstructionDepth)
    (hkeeps : (start.beginConstruction kind id descriptor).Keeps finish)
    (hinner : (start.beginConstruction kind id descriptor).Counted finish) :
    start.Counted (finish.leaveConstructor start.nextObject) := by
  obtain ⟨entries, hentries, hcounts⟩ := hinner
  have hsucc := toNat_depth_beginConstruction hdepth kind id descriptor
  have hleft : finish.thread.constructionDepth = start.thread.constructionDepth + 1 := hkeeps.depth
  have hwithin := within_beginConstruction hdepth kind id descriptor
  have hbegun : (start.beginConstruction kind id descriptor).trace.toList =
      start.trace.toList ++ [⟨start.thread.constructionDepth, .constructing kind⟩,
        ⟨start.thread.constructionDepth + 1, .constructorEntered start.nextObject⟩] := by
    simp [beginConstruction, enterConstructor, raiseDepth, Execution.record, modifyThread]
  have hended : (finish.leaveConstructor start.nextObject).trace.toList =
      finish.trace.toList ++
        [⟨finish.thread.constructionDepth, .constructorLeft start.nextObject⟩] := by
    simp [Execution.leaveConstructor, lowerDepth, Execution.record, modifyThread]
  refine ⟨⟨start.thread.constructionDepth, .constructing kind⟩ ::
    ⟨start.thread.constructionDepth + 1, .constructorEntered start.nextObject⟩ ::
    (entries ++ [⟨start.thread.constructionDepth + 1, .constructorLeft start.nextObject⟩]), ?_, ?_⟩
  · rw [hended, hentries, hbegun, hleft]
    simp only [List.append_assoc, List.cons_append, List.nil_append]
  · intro objects hobjects
    -- Inside the constructor one more object is running than outside of it.
    have hentered : (start.nextObject :: objects).length =
        (start.beginConstruction kind id descriptor).thread.constructionDepth.toNat := by
      rw [hsucc, List.length_cons, hobjects]
    have hinside : (start.thread.constructionDepth + 1).toNat =
        (start.nextObject :: objects).length := hentered.symm
    have hmore : objects.length ≤ (start.nextObject :: objects).length := Nat.le_succ _
    refine .cons rfl (by rw [Nat.max_self, hobjects]) (UInt16.le_of_lt hdepth) ?_
    refine .cons rfl (by rw [hinside, Nat.max_eq_right hmore]) hwithin ?_
    refine (hcounts _ hentered).append (.single (if_pos rfl) ?_ hwithin)
    rw [hinside, Nat.max_eq_left hmore]

end Counted

end Execution

private theorem GuestEnds.counted {base : Nat} {acted finish : Execution} {inner exit : Exit}
    (h : GuestEnds base acted inner exit finish) (hwithin : acted.Within) :
    acted.Counted finish := by
  cases h with
  | returned => exact .leaveGuest acted base _ hwithin
  | caught => exact .leaveGuest acted base _ hwithin
  | unwound => exact .leaveGuest acted base _ hwithin
  | halted => exact .of_trace_eq rfl

private theorem Execution.Counted.guest {start acted finish : Execution} {code : GuestCode}
    {base : Nat} {inner exit : Exit} (hwithin : start.Within)
    (hkeeps : (start.enterGuest code).Keeps acted)
    (hacted : (start.enterGuest code).Within → (start.enterGuest code).Counted acted)
    (hends : GuestEnds base acted inner exit finish) : start.Counted finish := by
  have hentered := start.keeps_enterGuest code
  have hcounted := (enterGuest start code hwithin).trans hentered
    (hacted (hentered.within hwithin))
  exact hcounted.trans (hentered.trans hkeeps)
    (hends.counted (hkeeps.within (hentered.within hwithin)))

/-- Every entry of an operation's trace has the number of running constructors as its depth. -/
theorem Course.counted {bound raises : Nat} {object? : Option ObjectRef}
    {start finish : Execution} {exit : Exit}
    (h : Course bound object? raises start exit finish) (hwithin : start.Within) :
    start.Counted finish := by
  induction h with
  | refl | load | message | uncaught | bootstrap | constructionDepth | fault =>
    exact .of_trace_eq rfl
  | @caught _ _ _ start _ _ entry =>
    have hmoved := start.keeps_modifyThread fun thread => thread.setPc_eq entry.handlerPc
    refine Execution.Counted.trans ?_ hmoved (.record _ rfl (hmoved.within hwithin))
    exact .of_trace_eq rfl
  | initializerTooDeep => exact .of_trace_eq rfl
  | trans hfirst _ ihfirst ihsecond =>
    exact (ihfirst hwithin).trans hfirst.keeps (ihsecond (hfirst.keeps.within hwithin))
  | record event hcourse hevent _ _ ih =>
    have hrecorded := Execution.Counted.record _ hevent (hcourse.keeps.within hwithin)
    exact (ih hwithin).trans hcourse.keeps hrecorded
  | initializer _ htake hact _ hends ih =>
    have htaken := Execution.keeps_takeInitializer htake
    have hguest := Execution.Counted.guest (htaken.within hwithin) hact.keeps ih hends
    refine Execution.Counted.trans ?_ htaken hguest
    exact .of_trace_eq rfl
  | construct hdepth => exact .leaveConstructor hdepth (.refl _) (.of_trace_eq rfl)
  | @constructor _ _ _ _ _ kind id descriptor _ _ _ _ _ hdepth _ _ htake hact _ hends ih =>
    have htaken := Execution.keeps_takeConstructor htake
    have hbegun : (Execution.beginConstruction _ kind id descriptor).Within :=
      Execution.within_beginConstruction hdepth kind id descriptor
    have hguest := Execution.Counted.guest (htaken.within hbegun) hact.keeps ih hends
    have hentered := Execution.keeps_enterConstructor htake
    refine .leaveConstructor hdepth (hentered.trans (hact.keeps.trans hends.keeps)) ?_
    refine Execution.Counted.trans ?_ htaken hguest
    exact .of_trace_eq rfl
  | constructorTooDeep hdepth _ _ htake =>
    exact .leaveConstructor hdepth (Execution.keeps_takeConstructor htake) (.of_trace_eq rfl)
  | popped _ _ _ _ ih => exact ih hwithin

/-! ### Sessions -/

namespace Session

/-- No thread is constructing an exception. -/
def Idle (session : Session) : Prop :=
  ∀ thread ∈ session.threads, thread.constructionDepth = 0

variable {session : Session}

private theorem Idle.setMachine (h : session.Idle) (machine : Machine) :
    (session.setMachine machine).Idle := h

private theorem Idle.setThread (h : session.Idle) (number : Nat) {thread : Thread}
    (hthread : thread.constructionDepth = 0) : (session.setThread number thread).Idle := by
  intro other hother
  rcases Array.mem_or_eq_of_mem_setIfInBounds hother with hmem | rfl
  · exact h other hmem
  · exact hthread

private theorem Idle.withThread (h : session.Idle) (number : Nat) {go : Thread → Step}
    (hgo : ∀ thread, thread.constructionDepth = 0 → (go thread).session.Idle) :
    (session.withThread number go).session.Idle :=
  withThread_session h number fun thread hthread =>
    hgo thread (h thread (Array.mem_of_getElem? hthread))

private theorem Idle.operate (h : session.Idle) (number : Nat) (request : OperationRequest)
    (onFatal : Fatal → Snapshot → List Record → Outcome × List Record) :
    (session.operate number request onFatal).session.Idle := by
  refine h.withThread number fun thread hthread => orRefuse_session h _ fun operation => ?_
  have hkeeps := (operation.run_follows { machine := session.machine, thread }).keeps
  have hdepth := hkeeps.depth.trans hthread
  split
  next result after hrun =>
    rw [hrun] at hdepth
    exact (h.setMachine _).setThread number hdepth
  next error after hrun =>
    rw [hrun] at hdepth
    exact (h.setMachine _).setThread number hdepth
  next fault after hrun =>
    rw [hrun] at hdepth
    exact (h.setMachine _).setThread number hdepth

/-- No command leaves a thread constructing an exception. -/
theorem Idle.step (h : session.Idle) (command : Command) : (session.step command).session.Idle := by
  cases command with
  | define | addLoadable | forgetLoadable | configure | allocateArray | allocateText | addMethod =>
    exact h
  | countClasses | findClass | showObject | countObjects | showMessage | findBuiltin | terminate =>
    exact h
  | editClass | showClass | isSubclass | allocate | showField => exact orFail_session h _ fun _ => h
  | addInitializer | addConstructor => exact orRefuse_session h _ fun _ => h
  | constantAt id index =>
    refine orFail_session h _ fun descriptor => ?_
    cases ClassRef.ofIndex? index <;> exact h
  | setField object index value =>
    refine orFail_session h _ fun found => ?_
    cases session.machine.heap.setField? object index value <;> exact h
  | addThread name classId =>
    intro thread hthread
    rcases Array.mem_push.1 hthread with hmem | rfl
    · exact h thread hmem
    · rfl
  | push number methodNumber pc =>
    refine h.withThread number fun thread hthread => ?_
    cases session.methods[methodNumber]? with
    | none => exact h
    | some method => exact h.setThread number hthread
  | pop number => exact h.withThread number fun thread hthread => h.setThread number hthread
  | setPc number pc =>
    refine h.withThread number fun thread hthread => h.setThread number ?_
    rw [thread.setPc_eq]
    exact hthread
  | rename number name =>
    exact h.withThread number fun thread hthread => h.setThread number hthread
  | showThread number | showState number => exact h.withThread number fun _ _ => h
  | showDiagnostic number object =>
    exact h.withThread number fun _ _ => orFail_session h _ fun _ => h
  | dispatch number request | raise number request => exact h.operate number request _

/-- No run of commands leaves a thread constructing an exception. -/
theorem Idle.run (h : session.Idle) (commands : List Command) :
    (session.run commands).session.Idle := by
  induction commands generalizing session with
  | nil => exact h
  | cons command rest ih =>
    have hstep := h.step command
    rw [Session.run]
    split
    · exact ih hstep
    · exact hstep
    · exact hstep

end Session

/-- The construction depth is balanced, bounded and never wraps. Every operation ends at the depth
that it began at. If that is zero, then at every entry of its trace the depth is the number of
constructors that are running: those that were entered and not left before the entry, with the one
that is entered at it. It is within its limit. Commands leave every thread at depth zero. -/
theorem constructionDepth_balanced :
    (∀ (operation : Operation) (start : Execution),
      (Dispatch.finalOf (operation.run start)).thread.constructionDepth =
        start.thread.constructionDepth) ∧
    (∀ (operation : Operation) (start : Execution), start.thread.constructionDepth = 0 →
      ∃ entries : List TraceEntry,
        (Dispatch.finalOf (operation.run start)).trace.toList = start.trace.toList ++ entries ∧
        runningAfter? [] entries = some [] ∧
        ∀ seen entry rest, entries = seen ++ entry :: rest →
          ∃ before after, runningAfter? [] seen = some before ∧
            entry.event.running? before = some after ∧
            entry.depth.toNat = max before.length after.length ∧
            entry.depth ≤ start.machine.settings.maxConstructionDepth) ∧
    (∀ (session : Session) (commands : List Command), session.Idle →
      (session.run commands).session.Idle) := by
  refine ⟨fun operation start => (operation.run_follows start).keeps.depth, ?_,
    fun session commands h => h.run commands⟩
  intro operation start hdepth
  have hwithin : start.Within := by
    rw [Execution.Within, hdepth]
    exact UInt16.zero_le
  obtain ⟨entries, htrace, hcounts⟩ := (operation.run_follows start).counted hwithin
  have hempty := hcounts [] (by rw [hdepth]; rfl)
  refine ⟨entries, htrace, hempty.runningAfter?_eq, ?_⟩
  rintro seen entry rest rfl
  exact hempty.depth_eq

/-- A thread on a machine where the constructor of an exception raises the same exception again. -/
def recursiveExecution : Execution where
  machine := {
    registry := Registry.empty.push { name := Builtin.runtime.className, sourceFile := "" }
    settings := { maxConstructionDepth := 2 }
    constructors := [{ code := ⟨.raise .runtime, []⟩ }] }
  thread := { name := "main", classId := ⟨0⟩ }

/-- Constructors that raise in turn are counted up to the limit, and all of them are left. -/
theorem constructionDepth_balanced_of_recursion :
    Dispatch.exitOf ((Operation.construct .runtime).run recursiveExecution) =
        .halted (.fatal (.constructionDepth Builtin.runtime.className 2)) ∧
      (∃ entries : List TraceEntry,
        (Dispatch.finalOf ((Operation.construct .runtime).run recursiveExecution)).trace.toList =
          entries ∧
        runningAfter? [] entries = some [] ∧
        entries.map TraceEntry.depth = [0, 1, 1, 1, 2, 2, 2, 1]) ∧
      (({} : Session).run [.addThread "main" ⟨0⟩, .raise 0 (.construct 0)]).session.Idle := by
  have hexit : Dispatch.exitOf ((Operation.construct .runtime).run recursiveExecution) =
      .halted (.fatal (.constructionDepth Builtin.runtime.className 2)) := by decide +kernel
  have hdepths : (Dispatch.finalOf ((Operation.construct .runtime).run
      recursiveExecution)).trace.toList.map TraceEntry.depth = [0, 1, 1, 1, 2, 2, 2, 1] := by
    decide +kernel
  obtain ⟨entries, htrace, hrunning, -⟩ :=
    constructionDepth_balanced.2.1 (.construct .runtime) recursiveExecution rfl
  rw [htrace] at hdepths
  have hnew : ({} : Session).Idle := fun thread hthread => by simp at hthread
  exact ⟨hexit, ⟨entries, htrace, hrunning, hdepths⟩, constructionDepth_balanced.2.2 _ _ hnew⟩

end ExceptionDispatch
