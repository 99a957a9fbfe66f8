import ExceptionDispatch.Proofs.Examination

/-!
# Dispatches that commute

Without initializers, dispatching thrown objects on two threads gives the same in either order. The
threads share the classes: each search may load some that the other one looks for as well, so these
come to the registry in another order and at other positions. But what either search finds was known
before both, and which classes are loaded depends only on the names that are looked for, not on
their order. Main statement: `Session.unwinds_commute`.
-/

namespace ExceptionDispatch

/-- The descriptor of the class registered under a name. -/
def Registry.named? (registry : Registry) (name : String) : Option ClassDescriptor :=
  (registry.idOf? name).bind registry.get?

namespace Machine

/-- Two machines are the same but for the order in which classes were loaded: the same names are
registered, each for a class with the same descriptor, and the same classes are left to be
loaded. -/
structure SameButOrder (first second : Machine) : Prop extends first.SameButClasses second where
  names : first.registry.keys.Perm second.registry.keys
  descriptors : ∀ name, second.registry.named? name = first.registry.named? name
  loadable : second.loadable = first.loadable
  loaded : first.loaded.toList.Perm second.loaded.toList

private theorem named?_eq (machine : Machine) (name : String) :
    machine.registry.named? name =
      if name ∈ machine.registry.keys then machine.described? name else none := by
  rw [Registry.named?, described?]
  by_cases hname : name ∈ machine.registry.keys
  · cases hid : machine.registry.idOf? name with
    | none => exact absurd hname (Registry.idOf?_eq_none_iff.1 hid)
    | some id => rw [if_pos hname, Option.bind_some]
  · rw [if_neg hname, Registry.idOf?_eq_none_iff.2 hname, Option.bind_none]

private theorem foldl_eraseP_perm {first second : List String} (h : first.Perm second)
    (descriptors : List ClassDescriptor) :
    first.foldl (fun left name => left.eraseP (·.name == name)) descriptors =
      second.foldl (fun left name => left.eraseP (·.name == name)) descriptors := by
  refine h.foldl_eq' ?_ descriptors
  intro name _ other _ left
  by_cases hsame : name = other
  · rw [hsame]
  · apply List.eraseP_comm
    intro descriptor _
    by_cases hname : descriptor.name = name
    · exact .inr (by simpa [hname] using hsame)
    · exact .inl (by simpa using hname)

private theorem Loads.sameButOrder {machine first second : Machine} {names others : List String}
    (hfirst : machine.Loads first names) (hsecond : machine.Loads second others)
    (hperm : names.Perm others) (hfirstGrows : machine.GrowsTo first)
    (hsecondGrows : machine.GrowsTo second) (hsame : first.SameButClasses second) :
    first.SameButOrder second := by
  have hkeys : first.registry.keys.Perm second.registry.keys := by
    rw [hfirst.keys, hsecond.keys]
    exact hperm.append_left _
  refine { hsame with names := hkeys, descriptors := ?_, loadable := ?_, loaded := ?_ }
  · intro name
    rw [named?_eq, named?_eq, hfirstGrows.described, hsecondGrows.described]
    simp only [hkeys.mem_iff]
  · rw [hfirst.loadable, hsecond.loadable, foldl_eraseP_perm hperm]
  · rw [hfirst.loaded, hsecond.loaded]
    exact hperm.append_left _

private theorem sameButOrder_lookForAll (machine : Machine) (first second : List String) :
    (machine.lookForAll (first ++ second)).SameButOrder (machine.lookForAll (second ++ first)) := by
  have hmem (name : String) :
      name ∈ ((first ++ second).filter machine.canLoad).eraseDups ↔
        name ∈ ((second ++ first).filter machine.canLoad).eraseDups := by
    simp [or_comm]
  have hperm := (List.perm_ext_iff_of_nodup (nodup_eraseDups _) (nodup_eraseDups _)).2 hmem
  exact (machine.loads_lookForAll _).sameButOrder (machine.loads_lookForAll _) hperm
    (machine.growsTo_lookForAll _) (machine.growsTo_lookForAll _)
    ((machine.sameButClasses_lookForAll _).symm.trans (machine.sameButClasses_lookForAll _))

end Machine

/-- The result or the fatal error of an operation. -/
def Dispatch.answerOf? {α : Type} : EStateM.Result Halt Execution α → Option (Except Fatal α)
  | .ok value _ => some (.ok value)
  | .error (.fatal error) _ => some (.error error)
  | .error (.fault _) _ => none

/-- The result or the fatal error that an operation was answered with. -/
def Outcome.result? : Outcome → Option (Except Fatal OperationResult)
  | .answered (.result result _) => some (.ok result)
  | .answered (.fatal error _) => some (.error error)
  | _ => none

/-- An operation on a thread can be told beforehand from a machine: whatever classes were looked for
since, its answer is the same, it writes the same to the log, leaves the same thread and looks for
the same classes. -/
def Operation.Foretold (operation : Operation) (base : Machine) (thread : Thread)
    (answer : Except Fatal OperationResult) (records : List Record) (left : Thread)
    (names : List String) : Prop :=
  ∀ sought,
    let result := operation.run { machine := base.lookForAll sought, thread }
    let after := Dispatch.finalOf result
    Dispatch.answerOf? result = some answer ∧ after.trace.records thread.name = records ∧
      after.thread = left ∧ after.machine = base.lookForAll (sought ++ names)

/-- Without initializers, dispatching a thrown object can be told beforehand. -/
theorem Operation.exists_foretold_unwind {base : Machine} {object : ObjectRef} {found : Object}
    {thread : Thread} (hinitializers : base.initializers = [])
    (hordered : base.registry.Ordered) (hobject : base.heap.get? object = some found)
    (hclass : found.classId.index < base.registry.size) (hthread : thread.FitsIn base) :
    ∃ answer records left names,
      (unwind object).Foretold base thread answer records left names := by
  obtain ⟨exception, hthrown, -⟩ :=
    Diagnostic.exists_thrown_eq hobject hclass hthread.classId hthread.frames
  let steps := base.searchSteps (.registered found.classId) 0 thread.frames
  let known := base.searched (.registered found.classId) exception.diagnostic 0 thread.frames
  refine ⟨(match known.outcome with
      | .ok handler => .ok (.handler handler)
      | .error _ => .error (.uncaught exception.diagnostic)),
    steps.filterMap (base.recordOf? thread exception.className),
    { thread with frames := known.frames }, steps.filterMap base.soughtName?, ?_⟩
  intro sought
  let start : Execution := { machine := base.lookForAll sought, thread }
  have hgrown : base.GrowsLazilyTo start.machine :=
    Machine.GrowsLazilyTo.lookForAll ⟨.refl base, rfl, hinitializers⟩ sought
  obtain ⟨same, -, hsame, htakes, hconclusion⟩ := Dispatch.unwind_takes hgrown hordered
    (base.sameButClasses_lookForAll sought).heap hthread (Dispatch.runner start.nestingBound)
    hobject hclass
  rw [hthrown, Except.ok.injEq] at hsame
  subst hsame
  have hcourse : Dispatch.Follows start.nestingBound none 0 start
      (Dispatch.unwind (Dispatch.runner start.nestingBound) object start) :=
    Dispatch.unwind_follows (Dispatch.guestsFollow _) object start
  have hkeeps := hcourse.keeps
  have hrecords := htakes.records_eq
  have hmachine := htakes.machine
  have houtcome := base.outcome_searched (.registered found.classId) exception.diagnostic 0
    thread.frames
  rw [← Machine.lookForAll_append] at hmachine
  rw [Operation.run_unwind]
  cases hrun : Dispatch.unwind (Dispatch.runner start.nestingBound) object start with
  | ok handler after =>
    rw [hrun] at hkeeps hrecords hmachine hconclusion
    have hknown : known = ⟨.ok handler, after.thread.frames⟩ := hconclusion.symm
    rw [hknown]
    exact ⟨rfl, hrecords, hkeeps.thread_eq, hmachine⟩
  | error halt after =>
    rw [hrun] at hkeeps hrecords hmachine hconclusion
    have hknown : known = ⟨.error halt, after.thread.frames⟩ := hconclusion.symm
    have hsearched : known.outcome = .error (.fatal (.uncaught exception.diagnostic)) := by
      rcases houtcome with ⟨_, _, hhandled, -⟩ | ⟨huncaught, -⟩
      · rw [← hconclusion] at hhandled
        cases hhandled
      · exact huncaught
    rw [hknown] at hsearched ⊢
    cases hsearched
    exact ⟨rfl, hrecords, hkeeps.thread_eq, hmachine⟩

namespace Session

private theorem step_dispatch {session : Session} {number : Nat} {thread : Thread}
    {request : OperationRequest} {operation : Operation}
    (hthread : session.threads[number]? = some thread)
    (hoperation : request.operation = .ok operation) :
    let step := session.step (.dispatch number request)
    let result := operation.run { machine := session.machine, thread }
    let after := Dispatch.finalOf result
    step.outcome.result? = Dispatch.answerOf? result ∧
      step.records = after.trace.records thread.name ∧
      step.session = session.commit number after := by
  simp only [step, operate, withThread, hthread, orRefuse, hoperation]
  cases operation.run { machine := session.machine, thread } with
  | ok result after => exact ⟨rfl, rfl, rfl⟩
  | error halt after => cases halt <;> exact ⟨rfl, rfl, rfl⟩

/-- An operation that can be told beforehand is answered as it was told. -/
theorem step_foretold {session : Session} {number : Nat} {thread left : Thread}
    {request : OperationRequest} {operation : Operation} {base : Machine}
    {answer : Except Fatal OperationResult} {records : List Record} {names : List String}
    (h : operation.Foretold base thread answer records left names)
    (hthread : session.threads[number]? = some thread)
    (hoperation : request.operation = .ok operation) {sought : List String}
    (hmachine : session.machine = base.lookForAll sought) :
    let step := session.step (.dispatch number request)
    step.outcome.result? = some answer ∧ step.records = records ∧
      step.session = { session with
        machine := base.lookForAll (sought ++ names)
        threads := session.threads.setIfInBounds number left } := by
  obtain ⟨hanswer, hrecords, hleft, hafter⟩ := h sought
  obtain ⟨hresult, hwritten, hsession⟩ := step_dispatch hthread hoperation
  rw [hmachine] at hresult hwritten hsession
  refine ⟨hresult.trans hanswer, hwritten.trans hrecords, hsession.trans ?_⟩
  rw [commit, setMachine, setThread, hleft, hafter]

/-- Dispatches on different threads commute. Without initializers, where superclasses come before
their subclasses and all threads, methods and objects are of registered classes, two thrown objects
that are dispatched on two threads have the same handlers or the same diagnostics in either order.
Either way the same is written to the log for each, the threads are left with the same stacks, and
the machine is the same but for the order in which classes were loaded. -/
theorem unwinds_commute {session : Session} {number other : Nat} {object otherObject : ObjectRef}
    (hne : number ≠ other) (hinitializers : session.machine.initializers = [])
    (hordered : session.machine.registry.Ordered)
    (hobjects : ∀ id ∈ session.machine.heap.classIds, id.index < session.machine.registry.size)
    (hthreads : ∀ thread ∈ session.threads, thread.FitsIn session.machine)
    (hnumber : number < session.threads.size) (hother : other < session.threads.size)
    (hobject : object.index < session.machine.heap.size)
    (hotherObject : otherObject.index < session.machine.heap.size) :
    let first := session.step (.dispatch number (.unwind object))
    let second := first.session.step (.dispatch other (.unwind otherObject))
    let secondFirst := session.step (.dispatch other (.unwind otherObject))
    let firstSecond := secondFirst.session.step (.dispatch number (.unwind object))
    (∃ answer, first.outcome.result? = some answer ∧ firstSecond.outcome.result? = some answer) ∧
      (∃ answer, second.outcome.result? = some answer ∧
        secondFirst.outcome.result? = some answer) ∧
      firstSecond.records = first.records ∧ secondFirst.records = second.records ∧
      firstSecond.session.threads = second.session.threads ∧
      firstSecond.session.methods = second.session.methods ∧
      second.session.machine.SameButOrder firstSecond.session.machine := by
  have hforetold (thread : Thread) (hthread : thread ∈ session.threads) (ref : ObjectRef)
      (href : ref.index < session.machine.heap.size) :
      ∃ answer records left names,
        (Operation.unwind ref).Foretold session.machine thread answer records left names := by
    obtain ⟨found, hfound⟩ := Option.isSome_iff_exists.1 (Heap.get?_isSome_iff.2 href)
    exact Operation.exists_foretold_unwind hinitializers hordered hfound
      (hobjects _ (Heap.classId_mem_classIds hfound)) (hthreads thread hthread)
  have hrequest (ref : ObjectRef) : (OperationRequest.unwind ref).operation = .ok (.unwind ref) :=
    rfl
  have hstart : session.machine = session.machine.lookForAll [] := rfl
  -- Both dispatches are told from the machine at the start, so neither order matters to them.
  obtain ⟨_, _, left, names, hfirst⟩ := hforetold _ (Array.getElem_mem hnumber) object hobject
  obtain ⟨_, _, otherLeft, otherNames, hsecond⟩ :=
    hforetold _ (Array.getElem_mem hother) otherObject hotherObject
  obtain ⟨hanswer, hrecords, hafter⟩ :=
    step_foretold hfirst (Array.getElem?_eq_getElem hnumber) (hrequest object) hstart
  obtain ⟨hotherAnswer, hotherRecords, hotherAfter⟩ :=
    step_foretold hsecond (Array.getElem?_eq_getElem hother) (hrequest otherObject) hstart
  intro first second secondFirst firstSecond
  have hsecondThread : first.session.threads[other]? = some session.threads[other] := by
    rw [hafter, Array.getElem?_setIfInBounds_ne hne, Array.getElem?_eq_getElem hother]
  have hfirstThread : secondFirst.session.threads[number]? = some session.threads[number] := by
    rw [hotherAfter, Array.getElem?_setIfInBounds_ne hne.symm, Array.getElem?_eq_getElem hnumber]
  obtain ⟨hlaterAnswer, hlaterRecords, hlater⟩ :=
    step_foretold hsecond hsecondThread (hrequest otherObject) (congrArg Session.machine hafter)
  obtain ⟨hotherLaterAnswer, hotherLaterRecords, hotherLater⟩ :=
    step_foretold hfirst hfirstThread (hrequest object) (congrArg Session.machine hotherAfter)
  refine ⟨⟨_, hanswer, hotherLaterAnswer⟩, ⟨_, hlaterAnswer, hotherAnswer⟩,
    hotherLaterRecords.trans hrecords.symm, hotherRecords.trans hlaterRecords.symm, ?_, ?_, ?_⟩
  · rw [hotherLater, hlater, hafter, hotherAfter]
    exact Array.setIfInBounds_comm _ _ hne.symm
  · rw [hotherLater, hlater, hafter, hotherAfter]
  · rw [hotherLater, hlater]
    exact session.machine.sameButOrder_lookForAll names otherNames

/-- A frame that catches the class at a position of the constant pool. -/
def namingFrame (index : UInt16) : Frame where
  method := { name := "run", owner := ⟨0⟩, catches := [⟨0, 8, 20, .ofIndex index⟩] }
  pc := 4

/-- Two threads on a machine with two loadable classes, each of which one of them names. -/
def namingSession : Session where
  machine := {
    registry := Registry.empty.push {
      name := "A"
      sourceFile := ""
      constants := [.classNamed "Y", .classNamed "Z", .classNamed "A"] }
    heap := (Heap.empty.allocate ⟨0⟩ 0).2
    loadable := [{ name := "Y", sourceFile := "" }, { name := "Z", sourceFile := "" }] }
  threads := #[{ name := "main", classId := ⟨0⟩, frames := [namingFrame 1] },
    { name := "other", classId := ⟨0⟩, frames := [namingFrame 2, namingFrame 3] }]

/-- The object is uncaught on the one thread and handled on the other one, and the two classes are
loaded in the order of the dispatches. -/
theorem unwinds_commute_of_names :
    let second := (namingSession.step (.dispatch 0 (.unwind ⟨0⟩))).session.step
      (.dispatch 1 (.unwind ⟨0⟩))
    let firstSecond := (namingSession.step (.dispatch 1 (.unwind ⟨0⟩))).session.step
      (.dispatch 0 (.unwind ⟨0⟩))
    second.outcome.result? = some (.ok (.handler ⟨20, 1⟩)) ∧
      second.session.machine.loaded.toList = ["Y", "Z"] ∧
      firstSecond.session.machine.loaded.toList = ["Z", "Y"] ∧
      second.session.machine.SameButOrder firstSecond.session.machine := by
  intro second firstSecond
  have hne : 0 ≠ 1 := by decide
  have hinitializers : namingSession.machine.initializers = [] := rfl
  obtain ⟨-, -, -, -, -, -, hsame⟩ := unwinds_commute hne hinitializers (by decide) (by decide)
    (by decide) (by decide) (by decide) (show (⟨0⟩ : ObjectRef).index < _ by decide)
    (show (⟨0⟩ : ObjectRef).index < _ by decide)
  let left : Thread :=
    { name := "other", classId := ⟨0⟩, frames := [{ namingFrame 3 with pc := 20 }] }
  have houtcome : second.outcome =
      .answered (.result (.handler ⟨20, 1⟩) (.of second.session.machine left)) := by
    decide +kernel
  refine ⟨?_, by decide +kernel, by decide +kernel, hsame⟩
  rw [houtcome]
  rfl

end Session

end ExceptionDispatch
