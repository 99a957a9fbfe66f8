import ExceptionDispatch.Proofs.LazyLoading
import ExceptionDispatch.Proofs.Selection

/-!
# What a search examines

Without initializers, the search for a handler can be told step by step from the machine as it is at
the start: which catch entries are examined, which frames are popped, and where the exception is
handled. Looking at these steps one after the other tells which classes are loaded, in which order,
and everything that is written to the log. Main statement: `Operation.unwind_examines`.
-/

namespace ExceptionDispatch

/-! ### Matching entries -/

namespace Machine

variable {machine : Machine} {thrown : ClassId}

private theorem inherits_iff_extends? (hordered : machine.registry.Ordered)
    (hthrown : thrown.index < machine.registry.size) (target : ClassId) :
    machine.registry.Inherits thrown target ↔
      thrown = target ∨ machine.extends? (.registered thrown) (.registered target) = true := by
  obtain ⟨descriptor, hget⟩ := Option.isSome_iff_exists.1 (Registry.get?_isSome_iff.2 hthrown)
  have hdescriptor : machine.descriptorOf? (.registered thrown) = some descriptor := hget
  rw [extends?, hdescriptor, Option.bind_some]
  cases hsuper : descriptor.superclass? with
  | none => simp [Registry.inherits_iff_of_none hget hsuper]
  | some superclass =>
    have hlt := Nat.lt_trans (hordered thrown superclass ⟨descriptor, hget, hsuper⟩) hthrown
    obtain ⟨answer, hanswer, hiff⟩ := Registry.isSubclass_eq hordered hlt target
    simp only [Registry.inherits_iff_of_some hget hsuper, hanswer, hiff]

/-- Of the classes that are registered, those catch an exception that are found to. -/
theorem catchesKey_registered_iff (hordered : machine.registry.Ordered)
    (hthrown : thrown.index < machine.registry.size) (target : ClassId) :
    machine.catchesKey (.registered thrown) (.registered target) = true ↔
      machine.Catches thrown target := by
  rw [catchesKey, Catches]
  cases machine.settings.catchMatching with
  | exact => simp [eq_comm]
  | subclass => simp [inherits_iff_extends? hordered hthrown]

private theorem catchesKey_loadable (machine : Machine) (thrown : ClassId) (name : String) :
    machine.catchesKey (.registered thrown) (.loadable name) = false := by
  have hextends : machine.extends? (.registered thrown) (.loadable name) = false := by
    rw [extends?]
    cases (machine.descriptorOf? (.registered thrown)).bind ClassDescriptor.superclass? <;> rfl
  rw [catchesKey]
  cases machine.settings.catchMatching <;> simp [hextends]

/-- A catch entry is found to match an exception of a registered class exactly if it does. -/
theorem matchesKey_registered_iff (hordered : machine.registry.Ordered)
    (hthrown : thrown.index < machine.registry.size) (method : Method) (entry : CatchEntry) :
    machine.matchesKey (.registered thrown) method entry = true ↔
      machine.Matches thrown method entry := by
  cases htype : entry.catchType with
  | any => simp [matchesKey, Matches, htype]
  | only ref =>
    cases howner : machine.registry.get? method.owner with
    | none => simp [matchesKey, Matches, htype, howner]
    | some owner =>
      cases hname : owner.classNameAt? ref with
      | none =>
        have hmatches : ¬ machine.Matches thrown method entry :=
          not_matches_of_no_name htype howner hname
        simp [matchesKey, htype, howner, hname, hmatches]
      | some name =>
        rw [matches_iff_of_name htype howner hname]
        simp only [matchesKey, htype, howner, Option.bind_some, hname, key]
        cases hid : machine.registry.idOf? name with
        | none => simp [catchesKey_loadable]
        | some target => simp [described?_isSome hid, catchesKey_registered_iff hordered hthrown]

end Machine

/-! ### Steps of a search -/

/-- One step of the search for a handler. -/
inductive SearchStep
  /-- A catch entry of a method is examined. -/
  | examined (method : Method) (entry : CatchEntry)
  /-- A frame is popped. -/
  | popped (frame : Frame)
  /-- A frame handles the exception. -/
  | handled (frame : Frame) (handler : Handler)
  deriving DecidableEq, Repr

namespace Machine

/-- The entries that are examined in search of a handler: all up to the first that matches, and that
one, or all if none matches. -/
def examined (machine : Machine) (thrown : ClassKey) (method : Method)
    (entries : List CatchEntry) : List CatchEntry :=
  entries.take (entries.findIdx (machine.matchesKey thrown method) + 1)

/-- The steps of the search of a stack, after so many frames were popped: the entries that cover the
current instruction of a frame are examined, and then the frame handles the exception or is
popped. -/
def searchSteps (machine : Machine) (thrown : ClassKey) (popped : Nat) :
    List Frame → List SearchStep
  | [] => []
  | frame :: callers =>
    (machine.examined thrown frame.method frame.covering).map (.examined frame.method) ++
      match frame.covering.find? (machine.matchesKey thrown frame.method) with
      | some entry => [.handled frame ⟨entry.handlerPc, popped⟩]
      | none => .popped frame :: machine.searchSteps thrown (popped + 1) callers

/-- What the search of a stack for the handler of an exception of a class does, after so many frames
were popped. Of the catch entries of a frame, those count that protect its current instruction. In
the topmost frame that has a matching one, the entries up to the first that matches are examined; in
the frames above it all of them are, and then the frame is popped. -/
inductive Searches (machine : Machine) (thrown : ClassId) :
    Nat → List Frame → List SearchStep → Prop
  | uncaught (popped : Nat) : Searches machine thrown popped [] []
  | handled {popped : Nat} {frame : Frame} {callers : List Frame} {entry : CatchEntry}
      {before after : List CatchEntry}
      (hprotecting : frame.method.catches.filter (·.Protects frame.pc) =
        before ++ entry :: after)
      (hbefore : ∀ earlier ∈ before, ¬ machine.Matches thrown frame.method earlier)
      (hentry : machine.Matches thrown frame.method entry) :
      Searches machine thrown popped (frame :: callers)
        ((before ++ [entry]).map (.examined frame.method) ++
          [.handled frame ⟨entry.handlerPc, popped⟩])
  | popped {popped : Nat} {frame : Frame} {callers : List Frame} {rest : List SearchStep}
      (hframe : machine.Passes thrown frame)
      (hrest : Searches machine thrown (popped + 1) callers rest) :
      Searches machine thrown popped (frame :: callers)
        ((frame.method.catches.filter (·.Protects frame.pc)).map
          (.examined frame.method) ++ .popped frame :: rest)

/-- The class that is looked for in a step: the one that the examined entry names. -/
def soughtName? (machine : Machine) : SearchStep → Option String
  | .examined method entry =>
    match entry.catchType with
    | .any => none
    | .only ref => (machine.registry.get? method.owner).bind (·.classNameAt? ref)
  | .popped _ | .handled _ _ => none

/-- What happens in a step of the search for the handler of an exception of a class. An entry that
is for a class tells only if no such class is named, or it is neither registered nor loadable. -/
def eventOf? (machine : Machine) (className : String) : SearchStep → Option Event
  | .examined method entry =>
    match entry.catchType with
    | .any => none
    | .only ref =>
      match (machine.soughtName? (.examined method entry)).bind machine.described? with
      | some _ => none
      | none => (machine.registry.get? method.owner).map fun owner =>
          .unresolved ref.index owner.name method.name
  | .popped frame => some (.popping ⟨className, frame.method.name, frame.pc⟩)
  | .handled frame handler => some (.caught ⟨className, frame.method.name, frame.pc⟩ handler)

/-- What is written to the log in a step, on a thread: a warning about an examined entry that names
no class, or one that is neither registered nor loadable, then each frame that is popped, and the
handler that is gone to. -/
def recordOf? (machine : Machine) (thread : Thread) (className : String) :
    SearchStep → Option Record
  | .examined method entry =>
    match entry.catchType, machine.registry.get? method.owner with
    | .only ref, some owner =>
      match (owner.classNameAt? ref).bind machine.described? with
      | some _ => none
      | none => some ⟨.warn, "the catch type #" ++ toString ref.index ++ " of " ++ owner.name ++
          "." ++ method.name ++ " can't be resolved"⟩
    | _, _ => none
  | .popped frame => some ⟨.trace, "thread '" ++ thread.name ++ "' popping frame of " ++
      frame.method.name ++ " at " ++ toString frame.pc ++ ", no handler for " ++ className⟩
  | .handled frame handler => some ⟨.debug, "thread '" ++ thread.name ++ "' caught " ++ className ++
      " in " ++ frame.method.name ++ " at " ++ toString frame.pc ++ ", jumping to " ++
      toString handler.pc ++ " (" ++ toString handler.popped ++ " popped)"⟩

/-- What is written to the log in a step is what the event of the step is written as. -/
theorem recordOf?_eq (machine : Machine) (thread : Thread) (className : String)
    (step : SearchStep) :
    machine.recordOf? thread className step =
      (machine.eventOf? className step).bind fun event =>
        TraceEntry.record? thread.name ⟨thread.constructionDepth, event⟩ := by
  cases step with
  | popped frame => rfl
  | handled frame handler =>
    simp only [recordOf?, eventOf?, Option.bind_some, TraceEntry.record?, String.append_assoc]
    rfl
  | examined method entry =>
    rw [recordOf?, eventOf?, soughtName?]
    cases entry.catchType with
    | any => rfl
    | only ref =>
      cases machine.registry.get? method.owner with
      | none => rfl
      | some owner =>
        simp only [Option.bind_some]
        cases (owner.classNameAt? ref).bind machine.described? <;> rfl

/-- A machine without initializers that has grown from another one. -/
structure GrowsLazilyTo (old new : Machine) : Prop where
  growsTo : old.GrowsTo new
  settings : new.settings = old.settings
  initializers : new.initializers = []

variable {base machine : Machine}

/-- Looking for classes lets a machine grow. -/
theorem GrowsLazilyTo.lookForAll (h : base.GrowsLazilyTo machine) (names : List String) :
    base.GrowsLazilyTo (machine.lookForAll names) where
  growsTo := h.growsTo.trans (machine.growsTo_lookForAll names)
  settings := (machine.sameButClasses_lookForAll names).settings.trans h.settings
  initializers := (machine.sameButClasses_lookForAll names).initializers.trans h.initializers

end Machine

/-- One execution comes from another one by the steps of a search, as a machine tells them
beforehand: the classes are looked for that these name, and what happens is traced. -/
structure Execution.Takes (start : Execution) (base : Machine) (className : String)
    (steps : List SearchStep) (finish : Execution) : Prop where
  machine : finish.machine = start.machine.lookForAll (steps.filterMap base.soughtName?)
  trace : finish.trace.toList = start.trace.toList ++
    (steps.filterMap (base.eventOf? className)).map (.mk start.thread.constructionDepth)
  depth : finish.thread.constructionDepth = start.thread.constructionDepth

namespace Execution.Takes

variable {base : Machine} {className : String} {first second : List SearchStep}
  {start middle finish : Execution}

private theorem nil (start : Execution) : start.Takes base className [] start :=
  ⟨rfl, by simp, rfl⟩

private theorem append (hfirst : start.Takes base className first middle)
    (hsecond : middle.Takes base className second finish) :
    start.Takes base className (first ++ second) finish where
  machine := by
    rw [hsecond.machine, hfirst.machine, List.filterMap_append, Machine.lookForAll_append]
  trace := by
    rw [hsecond.trace, hfirst.trace, hfirst.depth, List.filterMap_append, List.map_append,
      List.append_assoc]
  depth := hsecond.depth.trans hfirst.depth

private theorem growsLazilyTo (h : start.Takes base className first finish)
    (hgrown : base.GrowsLazilyTo start.machine) : base.GrowsLazilyTo finish.machine := by
  rw [h.machine]
  exact hgrown.lookForAll _

private theorem single {step : SearchStep}
    (hmachine : finish.machine = start.machine.lookForAll (base.soughtName? step).toList)
    (htrace : finish.trace.toList = start.trace.toList ++
      (base.eventOf? className step).toList.map (.mk start.thread.constructionDepth))
    (hdepth : finish.thread.constructionDepth = start.thread.constructionDepth) :
    start.Takes base className [step] finish where
  machine := by rw [hmachine]; cases hname : base.soughtName? step <;> simp [hname]
  trace := by rw [htrace]; cases hevent : base.eventOf? className step <;> simp [hevent]
  depth := hdepth

end Execution.Takes

namespace Dispatch

variable {base : Machine} {start : Execution} {thrown : ClassId}

private theorem verdict_eq_matchesKey (hgrown : base.GrowsLazilyTo start.machine)
    (hordered : base.registry.Ordered) (hthrown : thrown.index < base.registry.size)
    {method : Method} {entry : CatchEntry} {ref : ClassRef} {owner : ClassDescriptor}
    {name : String} {target : ClassId} (htype : entry.catchType = .only ref)
    (howner : base.registry.get? method.owner = some owner)
    (hname : owner.classNameAt? ref = some name)
    (htarget : start.machine.registry.idOf? name = some target) :
    verdict start.machine target thrown =
      .ok (base.matchesKey (.registered thrown) method entry) := by
  have hold : Grown base start := ⟨hgrown.initializers, hgrown.settings, hgrown.growsTo.registry⟩
  obtain ⟨answer, hverdict, hiff⟩ := hold.verdict_eq hordered hthrown htarget
  rw [hverdict, Except.ok.injEq, Bool.eq_iff_iff, hiff,
    Machine.matchesKey_registered_iff hordered hthrown,
    Machine.matches_iff_of_name htype howner hname]

/-- Examining one entry is one step of a search, as a machine tells it beforehand: the entry is
found if it matches, and else the search goes on. -/
structure Examines (base : Machine) (thrown : ClassId) (run : GuestRunner) (className : String)
    (method : Method) (entry : CatchEntry) (start after : Execution) : Prop where
  takes : start.Takes base className [.examined method entry] after
  thread : after.thread = start.thread
  search : ∀ rest, Dispatch.search run thrown method (entry :: rest) start =
    if base.matchesKey (.registered thrown) method entry then .ok (.found entry.handlerPc) after
    else Dispatch.search run thrown method rest after

private theorem exists_examines_of_name (hgrown : base.GrowsLazilyTo start.machine)
    (hordered : base.registry.Ordered) (hthrown : thrown.index < base.registry.size)
    (run : GuestRunner) (className : String) {method : Method} {entry : CatchEntry} {ref : ClassRef}
    {owner : ClassDescriptor} {name : String} (htype : entry.catchType = .only ref)
    (howner : base.registry.get? method.owner = some owner)
    (hname : owner.classNameAt? ref = some name) :
    ∃ after, Examines base thrown run className method entry start after := by
  have hlt := Registry.get?_isSome_iff.1 (Option.isSome_of_eq_some howner)
  have hget := (hgrown.growsTo.registry.get?_eq hlt).trans howner
  have hsought : base.soughtName? (.examined method entry) = some name := by
    simp [Machine.soughtName?, htype, howner, hname]
  have hdescribed : ((start.machine.lookFor name).registry.idOf? name).isSome =
      (base.described? name).isSome := by
    rw [Machine.isSome_idOf?_lookFor, hgrown.growsTo.described]
  let middle : Execution := { start with machine := start.machine.lookFor name }
  have hmiddle : base.GrowsLazilyTo middle.machine := hgrown.lookForAll [name]
  have hstill := (hmiddle.growsTo.registry.get?_eq hlt).trans howner
  have hresolve : resolve run name start = .ok (middle.machine.resolution name) middle :=
    resolve_eq_lookFor run hgrown.initializers
  -- The entry is told of beforehand by the class that its name stands for, whether or not that is
  -- loaded yet; the search compares positions in the registry, once it is.
  cases hid : middle.machine.registry.idOf? name with
  | some target =>
    have hverdict := verdict_eq_matchesKey hmiddle hordered hthrown htype howner hname hid
    have hevent : base.eventOf? className (.examined method entry) = none := by
      rw [hid, Option.isSome_some, eq_comm, Option.isSome_iff_exists] at hdescribed
      obtain ⟨descriptor, hdescriptor⟩ := hdescribed
      simp [Machine.eventOf?, htype, hsought, hdescriptor]
    refine ⟨middle, .single ?_ ?_ rfl, rfl, fun rest => ?_⟩
    · simp [hsought, Machine.lookForAll, middle]
    · simp [hevent, middle]
    · simp only [search_cons, resolveConstant_apply, htype, hget, hname, hresolve,
        Machine.resolution, hid, hverdict]
      cases base.matchesKey (.registered thrown) method entry <;> rfl
  | none =>
    have hmissing : base.described? name = none := by
      rw [hid, Option.isSome_none, eq_comm, Option.isSome_eq_false_iff] at hdescribed
      exact Option.isNone_iff_eq_none.1 hdescribed
    let unresolved : Event := .unresolved ref.index owner.name method.name
    refine ⟨middle.record unresolved, .single ?_ ?_ rfl, rfl, fun rest => ?_⟩
    · simp [hsought, Machine.lookForAll, middle]
    · simp [Machine.eventOf?, htype, hsought, hmissing, howner, Execution.record, unresolved,
        middle]
    · simp [search_cons, resolveConstant_apply, htype, hget, hname, hresolve,
        Machine.resolution, hid, hstill, Machine.matchesKey, howner, hmissing, unresolved]

private theorem exists_examines (hgrown : base.GrowsLazilyTo start.machine)
    (hordered : base.registry.Ordered) (hthrown : thrown.index < base.registry.size)
    (run : GuestRunner) (className : String) {method : Method}
    (howner : method.owner.index < base.registry.size) (entry : CatchEntry) :
    ∃ after, Examines base thrown run className method entry start after := by
  obtain ⟨owner, hold⟩ := Option.isSome_iff_exists.1 (Registry.get?_isSome_iff.2 howner)
  cases htype : entry.catchType with
  | any =>
    refine ⟨start, .single ?_ ?_ rfl, rfl, fun rest => ?_⟩
    · simp [Machine.soughtName?, htype, Machine.lookForAll]
    · simp [Machine.eventOf?, htype]
    · simp [search_cons, Machine.matchesKey, htype]
  | only ref =>
    cases hname : owner.classNameAt? ref with
    | some name =>
      exact exists_examines_of_name hgrown hordered hthrown run className htype hold hname
    | none =>
      have hget := (hgrown.growsTo.registry.get?_eq howner).trans hold
      have hsought : base.soughtName? (.examined method entry) = none := by
        simp [Machine.soughtName?, htype, hold, hname]
      let unresolved : Event := .unresolved ref.index owner.name method.name
      refine ⟨start.record unresolved, .single ?_ ?_ rfl, rfl, fun rest => ?_⟩
      · simp [hsought, Machine.lookForAll]
      · simp [Machine.eventOf?, htype, hsought, hold, Execution.record, unresolved]
      · simp [search_cons, resolveConstant_apply, Machine.matchesKey, htype, hget, hold, hname,
          unresolved]

/-- The entries of a frame are examined up to the first that matches. -/
theorem search_takes (hgrown : base.GrowsLazilyTo start.machine)
    (hordered : base.registry.Ordered) (hthrown : thrown.index < base.registry.size)
    (run : GuestRunner) (className : String) {method : Method}
    (howner : method.owner.index < base.registry.size) (entries : List CatchEntry) :
    ∃ after, start.Takes base className
        ((base.examined (.registered thrown) method entries).map (.examined method)) after ∧
      after.thread = start.thread ∧
      search run thrown method entries start =
        .ok (match entries.find? (base.matchesKey (.registered thrown) method) with
          | some entry => .found entry.handlerPc
          | none => .notFound) after := by
  induction entries generalizing start with
  | nil => exact ⟨start, .nil start, rfl, rfl⟩
  | cons entry rest ih =>
    obtain ⟨middle, hentry, hthread, hsearch⟩ :=
      exists_examines hgrown hordered hthrown run className howner entry
    cases hmatches : base.matchesKey (.registered thrown) method entry with
    | true =>
      refine ⟨middle, ?_, hthread, ?_⟩
      · simpa [Machine.examined, List.findIdx_cons, hmatches] using hentry
      · rw [hsearch, if_pos hmatches, List.find?_cons_of_pos hmatches]
    | false =>
      obtain ⟨after, hrest, hsame, heq⟩ := ih (hentry.growsLazilyTo hgrown)
      refine ⟨after, ?_, hsame.trans hthread, ?_⟩
      · simpa [Machine.examined, List.findIdx_cons, hmatches] using hentry.append hrest
      · simp [hsearch, heq, hmatches]

/-- The frames of a stack are examined up to the one that handles the exception. -/
theorem searchFrames_takes (hgrown : base.GrowsLazilyTo start.machine)
    (hordered : base.registry.Ordered) (run : GuestRunner) {exception : Thrown}
    (hthrown : exception.classId.index < base.registry.size) (popped : Nat) {frames : List Frame}
    (howners : ∀ frame ∈ frames, frame.method.owner.index < base.registry.size)
    (hframes : start.thread.frames = frames) :
    let result := searchFrames run exception popped frames start
    start.Takes base exception.className
        (base.searchSteps (.registered exception.classId) popped frames) (finalOf result) ∧
      conclusionOf result =
        base.searched (.registered exception.classId) exception.diagnostic popped frames := by
  induction frames generalizing start popped with
  | nil =>
    rw [searchFrames_nil]
    refine ⟨.nil start, ?_⟩
    rw [conclusionOf, hframes]
    rfl
  | cons frame callers ih =>
    obtain ⟨howner, hcallers⟩ := List.forall_mem_cons.1 howners
    obtain ⟨after, htakes, hthread, hsearch⟩ := search_takes hgrown hordered hthrown run
      exception.className howner frame.covering
    have hafter : after.thread.frames = frame :: callers := by rw [hthread, hframes]
    rw [searchFrames_cons, Machine.searchSteps, Machine.searched]
    simp only [hsearch]
    cases hfind : frame.covering.find?
        (base.matchesKey (.registered exception.classId) frame.method) with
    | some entry =>
      have hdepth (pc : UInt16) : (after.thread.setPc pc).constructionDepth =
          after.thread.constructionDepth := by rw [Thread.setPc_eq]
      refine ⟨htakes.append (.single rfl ?_ (hdepth _)), ?_⟩
      · simp [finalOf, Machine.eventOf?, Execution.record, Execution.modifyThread, hdepth]
      · simp [conclusionOf, Thread.setPc, hafter]
    | none =>
      let middle :=
        (after.record (.popping ⟨exception.className, frame.method.name, frame.pc⟩)).modifyThread
          Thread.pop
      have hpopped : after.Takes base exception.className [.popped frame] middle :=
        .single rfl
          (by simp [middle, Machine.eventOf?, Execution.record, Execution.modifyThread]) rfl
      have hframes : middle.thread.frames = callers := by simp [middle, Thread.pop, hafter]
      have hmiddle := hpopped.growsLazilyTo (htakes.growsLazilyTo hgrown)
      obtain ⟨hrest, hconclusion⟩ := ih hmiddle (popped + 1) hcallers hframes
      exact ⟨htakes.append (hpopped.append hrest), hconclusion⟩

/-- Dispatching an object examines the frames of its thread. -/
theorem unwind_takes (hgrown : base.GrowsLazilyTo start.machine) (hordered : base.registry.Ordered)
    (hheap : start.machine.heap = base.heap) (hthread : start.thread.FitsIn base)
    (run : GuestRunner) {object : ObjectRef} {found : Object}
    (hobject : base.heap.get? object = some found)
    (hclass : found.classId.index < base.registry.size) :
    ∃ exception, exception.classId = found.classId ∧
      Diagnostic.thrown base.registry base.heap start.thread object = .ok exception ∧
      start.Takes base exception.className
        (base.searchSteps (.registered found.classId) 0 start.thread.frames)
        (finalOf (unwind run object start)) ∧
      conclusionOf (unwind run object start) =
        base.searched (.registered found.classId) exception.diagnostic 0 start.thread.frames := by
  obtain ⟨exception, hthrown, hid⟩ :=
    Diagnostic.exists_thrown_eq hobject hclass hthread.classId hthread.frames
  have horigin := Diagnostic.origin_lt hthread.classId hthread.frames
  have hnow : Diagnostic.thrown start.machine.registry start.machine.heap start.thread object =
      .ok exception := by
    rw [← hthrown, hheap, Diagnostic.thrown_eq, Diagnostic.thrown_eq, hobject]
    simp only [hgrown.growsTo.registry.get?_eq hclass, hgrown.growsTo.registry.get?_eq horigin]
  rw [unwind_apply, hnow, ← hid]
  rw [← hid] at hclass
  exact ⟨exception, rfl, hthrown,
    searchFrames_takes hgrown hordered run hclass 0 hthread.frames rfl⟩

end Dispatch

namespace Machine

variable {machine : Machine} {thrown : ClassId}

private theorem examined_of_none {key : ClassKey} {method : Method} {entries : List CatchEntry}
    (h : ∀ entry ∈ entries, machine.matchesKey key method entry = false) :
    machine.examined key method entries = entries := by
  rw [examined, List.findIdx_eq_length.2 h]
  exact List.take_of_length_le (Nat.le_succ _)

private theorem examined_of_append {key : ClassKey} {method : Method}
    {before after : List CatchEntry} {entry : CatchEntry}
    (hbefore : ∀ earlier ∈ before, machine.matchesKey key method earlier = false)
    (hentry : machine.matchesKey key method entry = true) :
    machine.examined key method (before ++ entry :: after) = before ++ [entry] := by
  induction before with
  | nil => simp [examined, List.findIdx_cons, hentry]
  | cons earlier rest ih =>
    obtain ⟨hearlier, hrest⟩ := List.forall_mem_cons.1 hbefore
    simpa [examined, List.findIdx_cons, hearlier] using ih hrest

/-- The steps of a search are the ones that are computed. -/
theorem searches_searchSteps (hordered : machine.registry.Ordered)
    (hthrown : thrown.index < machine.registry.size) (popped : Nat) (frames : List Frame) :
    machine.Searches thrown popped frames
      (machine.searchSteps (.registered thrown) popped frames) := by
  have hmatches (method : Method) (entry : CatchEntry) :=
    matchesKey_registered_iff hordered hthrown method entry
  have hpasses {method : Method} {entry : CatchEntry}
      (h : machine.matchesKey (.registered thrown) method entry = false) :
      ¬ machine.Matches thrown method entry := by
    rw [← hmatches, h]
    exact Bool.false_ne_true
  induction frames generalizing popped with
  | nil => exact .uncaught popped
  | cons frame callers ih =>
    have hprotecting : frame.covering = frame.method.catches.filter (·.Protects frame.pc) :=
      CatchTable.covering_eq_filter frame.method.catches frame.pc
    rw [searchSteps]
    cases hfind : frame.covering.find? (machine.matchesKey (.registered thrown) frame.method) with
    | none =>
      simp only [List.find?_eq_none, Bool.not_eq_true] at hfind
      have hpassed : machine.Passes thrown frame :=
        passes_iff_covering.2 fun entry hentry => hpasses (hfind entry hentry)
      rw [examined_of_none hfind, hprotecting]
      exact .popped hpassed (ih (popped + 1))
    | some entry =>
      obtain ⟨hentry, before, after, hcovering, hbefore⟩ := List.find?_eq_some_iff_append.1 hfind
      simp only [Bool.not_eq_true'] at hbefore
      rw [hcovering, examined_of_append hbefore hentry]
      exact .handled (hprotecting.symm.trans hcovering)
        (fun earlier hearlier => hpasses (hbefore earlier hearlier))
        ((hmatches frame.method entry).1 hentry)

/-- A search ends with the frame that handles the exception, or with no frame left. -/
theorem outcome_searched (machine : Machine) (key : ClassKey) (diagnostic : String) (popped : Nat)
    (frames : List Frame) :
    (∃ frame handler,
        (machine.searched key diagnostic popped frames).outcome = .ok handler ∧
        (machine.searchSteps key popped frames).getLast? = some (.handled frame handler)) ∨
      (machine.searched key diagnostic popped frames).outcome =
          .error (.fatal (.uncaught diagnostic)) ∧
        ∀ frame handler, .handled frame handler ∉ machine.searchSteps key popped frames := by
  induction frames generalizing popped with
  | nil => exact .inr ⟨rfl, by simp [searchSteps]⟩
  | cons frame callers ih =>
    rw [searched, searchSteps]
    cases frame.covering.find? (machine.matchesKey key frame.method) with
    | some entry => exact .inl ⟨frame, _, rfl, by simp⟩
    | none =>
      rcases ih (popped + 1) with ⟨handling, handler, houtcome, hlast⟩ | ⟨houtcome, hnone⟩
      · refine .inl ⟨handling, handler, houtcome, ?_⟩
        simp [List.getLast?_append, List.getLast?_cons, hlast]
      · exact .inr ⟨houtcome, by simpa using hnone⟩

end Machine

/-- What is traced in the steps of a search is what is written to the log. -/
theorem Execution.Takes.records_eq {base : Machine} {className : String} {steps : List SearchStep}
    {start finish : Execution} (h : start.Takes base className steps finish) :
    finish.trace.records start.thread.name =
      start.trace.records start.thread.name ++
        steps.filterMap (base.recordOf? start.thread className) := by
  have hrecords := funext (base.recordOf?_eq start.thread className)
  rw [Trace.records, Trace.records, h.trace, List.filterMap_append, List.filterMap_map,
    List.filterMap_filterMap, hrecords]
  rfl

/-- Dispatching a thrown object is answered with its handler. -/
theorem Operation.run_unwind (object : ObjectRef) (start : Execution) :
    (unwind object).run start =
      match Dispatch.unwind (Dispatch.runner start.nestingBound) object start with
      | .ok handler after => .ok (.handler handler) after
      | .error halt after => .error halt after := by
  rw [run, runWith, Dispatch.bind_apply]
  cases Dispatch.unwind (Dispatch.runner start.nestingBound) object start <;> rfl

/-- The search loads and logs exactly what it examines. Without initializers, dispatching a thrown
object takes the frames of the thread from the current one on. In each it examines the catch entries
that protect the current instruction, up to and including the first that matches, and it pops the
frame if none does. The classes that are loaded are those that the examined entries name and that
were not registered but loadable, each once and in the order in which they are first named. The log
tells of every examined entry that names no class or one that is neither registered nor loadable, of
every popped frame, and at last of the handler if there is one. -/
theorem Operation.unwind_examines {start : Execution} {object : ObjectRef} {found : Object}
    (hinitializers : start.machine.initializers = [])
    (hordered : start.machine.registry.Ordered)
    (hobject : start.machine.heap.get? object = some found)
    (hclass : found.classId.index < start.machine.registry.size)
    (hthread : start.thread.FitsIn start.machine) :
    ∃ exception steps,
      Diagnostic.thrown start.machine.registry start.machine.heap start.thread object =
        .ok exception ∧
      start.machine.Searches found.classId 0 start.thread.frames steps ∧
      let result := (unwind object).run start
      let after := Dispatch.finalOf result
      after.machine.loaded.toList = start.machine.loaded.toList ++
        ((steps.filterMap start.machine.soughtName?).filter start.machine.canLoad).eraseDups ∧
      after.trace.toList = start.trace.toList ++
        (steps.filterMap (start.machine.eventOf? exception.className)).map
          (.mk start.thread.constructionDepth) ∧
      after.trace.records start.thread.name = start.trace.records start.thread.name ++
        steps.filterMap (start.machine.recordOf? start.thread exception.className) ∧
      ((∃ frame handler, Dispatch.exitOf result = .unwound handler ∧
          steps.getLast? = some (.handled frame handler)) ∨
        Dispatch.exitOf result = .halted (.fatal (.uncaught exception.diagnostic)) ∧
          ∀ frame handler, .handled frame handler ∉ steps) := by
  have hgrown : start.machine.GrowsLazilyTo start.machine := ⟨.refl _, rfl, hinitializers⟩
  obtain ⟨exception, -, hthrown, htakes, hconclusion⟩ := Dispatch.unwind_takes hgrown hordered rfl
    hthread (Dispatch.runner start.nestingBound) hobject hclass
  let steps := start.machine.searchSteps (.registered found.classId) 0 start.thread.frames
  have hsearches := Machine.searches_searchSteps hordered hclass 0 start.thread.frames
  have houtcome := start.machine.outcome_searched (.registered found.classId) exception.diagnostic 0
    start.thread.frames
  have hloaded := congrArg (fun machine => machine.loaded.toList) htakes.machine
  have htrace := htakes.trace
  have hrecords := htakes.records_eq
  simp only [(start.machine.loads_lookForAll _).loaded] at hloaded
  rw [← hconclusion] at houtcome
  refine ⟨exception, steps, hthrown, hsearches, ?_⟩
  rw [run_unwind]
  cases hrun : Dispatch.unwind (Dispatch.runner start.nestingBound) object start with
  | ok handler after =>
    rw [hrun] at hloaded htrace hrecords houtcome
    refine ⟨hloaded, htrace, hrecords, ?_⟩
    rcases houtcome with ⟨frame, _, heq, hlast⟩ | ⟨heq, -⟩
    · cases heq
      exact .inl ⟨frame, handler, rfl, hlast⟩
    · cases heq
  | error halt after =>
    rw [hrun] at hloaded htrace hrecords houtcome
    refine ⟨hloaded, htrace, hrecords, ?_⟩
    rcases houtcome with ⟨_, _, heq, -⟩ | ⟨heq, hnone⟩
    · cases heq
    · cases heq
      exact .inr ⟨rfl, hnone⟩

/-- A frame that catches a class that can be loaded, a missing one, and what is no class. -/
def vainFrame : Frame where
  method := {
    name := "inner"
    owner := ⟨0⟩
    catches := [⟨0, 8, 10, .ofIndex 1⟩, ⟨0, 8, 11, .ofIndex 3⟩, ⟨0, 8, 12, .ofIndex 4⟩] }
  pc := 4

/-- A frame that also catches the class of the machine's object, before the missing one. -/
def hitFrame : Frame where
  method := {
    name := "outer"
    owner := ⟨0⟩
    catches := [⟨0, 8, 10, .ofIndex 1⟩, ⟨0, 8, 20, .ofIndex 2⟩, ⟨0, 8, 30, .ofIndex 3⟩] }
  pc := 4

/-- A thread in both frames, on a machine with one loadable class. -/
def examiningExecution : Execution where
  machine := {
    registry := Registry.empty.push {
      name := "A"
      sourceFile := ""
      constants := [.classNamed "Z", .classNamed "A", .classNamed "Q", .other] }
    heap := (Heap.empty.allocate ⟨0⟩ 0).2
    loadable := [{ name := "Z", sourceFile := "" }, { name := "Y", sourceFile := "" }] }
  thread := { name := "main", classId := ⟨0⟩, frames := [vainFrame, hitFrame] }

/-- The loadable class is loaded once although it is named twice, the missing one is told of only
where it is examined, and the handler comes last. -/
theorem Operation.unwind_examines_of_frames :
    let after := Dispatch.finalOf ((unwind ⟨0⟩).run examiningExecution)
    after.trace.records "main" = [
        ⟨.warn, "the catch type #3 of A.inner can't be resolved"⟩,
        ⟨.warn, "the catch type #4 of A.inner can't be resolved"⟩,
        ⟨.trace, "thread 'main' popping frame of inner at 4, no handler for A"⟩,
        ⟨.debug, "thread 'main' caught A in outer at 4, jumping to 20 (1 popped)"⟩] ∧
      ∃ steps, examiningExecution.machine.Searches ⟨0⟩ 0 [vainFrame, hitFrame] steps ∧
        ((steps.filterMap examiningExecution.machine.soughtName?).filter
          examiningExecution.machine.canLoad).eraseDups = ["Z"] ∧
        after.trace.records "main" =
          steps.filterMap (examiningExecution.machine.recordOf? examiningExecution.thread "A") ∧
        ∃ frame, steps.getLast? = some (.handled frame ⟨20, 1⟩) := by
  intro after
  have hloaded : after.machine.loaded.toList = ["Z"] := by decide +kernel
  have hexit : Dispatch.exitOf ((unwind ⟨0⟩).run examiningExecution) = .unwound ⟨20, 1⟩ := by
    decide +kernel
  have hinitializers : examiningExecution.machine.initializers = [] := rfl
  have hobject : examiningExecution.machine.heap.get? ⟨0⟩ = some (.fresh ⟨0⟩ 0) := by decide
  have hname : (Diagnostic.thrown examiningExecution.machine.registry
      examiningExecution.machine.heap examiningExecution.thread ⟨0⟩).toOption.map
        Thrown.className = some "A" := by
    decide +kernel
  obtain ⟨exception, steps, hthrown, hsearches, hnames, -, hrecords, houtcome⟩ :=
    unwind_examines hinitializers (by decide) hobject (by decide) (by decide)
  rw [hthrown] at hname
  rw [Option.some.inj hname] at hrecords
  refine ⟨by decide +kernel, steps, hsearches, ?_, hrecords, ?_⟩
  · rw [← hloaded]
    exact hnames.symm
  · rcases houtcome with ⟨frame, handler, hunwound, hlast⟩ | ⟨huncaught, -⟩
    · rw [hexit] at hunwound
      cases hunwound
      exact ⟨frame, hlast⟩
    · rw [hexit] at huncaught
      cases huncaught

end ExceptionDispatch
