import ExceptionDispatch.Proofs.Course.Stack

/-!
# Operations have courses

Every part of dispatch follows a course, whatever its guest code does: the parts are taken one by
one, with guest code that is nested less deep behind them, and an induction on the nesting closes
the circle. Main statements: `Dispatch.guestsFollow` and `Operation.run_follows`.
-/

namespace ExceptionDispatch

/-- The exit that an answer of a part of dispatch stands for. -/
class Exits (α : Type) where
  exit : α → Exit

instance : Exits Resolution where
  exit
    | .loaded _ | .missing => .normal
    | .unwound handler => .unwound handler

instance : Exits Completion where
  exit
    | .returned => .normal
    | .unwound handler => .unwound handler

instance : Exits Construction where
  exit
    | .finished _ => .normal
    | .unwound handler => .unwound handler

instance : Exits Handler where
  exit := .unwound

instance : Exits (Option Handler) where
  exit
    | none => .normal
    | some handler => .unwound handler

instance : Exits Dispatch.SearchResult where
  exit
    | .found _ | .notFound => .normal
    | .unwound handler => .unwound handler

instance : Exits OperationResult where
  exit
    | .resolution outcome => Exits.exit outcome
    | .construction outcome => Exits.exit outcome
    | .handler outcome => Exits.exit outcome

private theorem Registry.fault_of_reaches {registry : Registry} {sought id : ClassId} {steps : Nat}
    {fault : Fault} (h : registry.reaches sought steps id = .error fault) :
    (∃ missing, fault = .noSuchClass missing ∧ registry.get? missing = none) ∨
      ∃ last, fault = .endlessAncestry last := by
  induction steps generalizing id with
  | zero =>
    cases h
    exact .inr ⟨id, rfl⟩
  | succ steps ih =>
    rw [reaches] at h
    split at h
    · cases h
    · split at h
      next hget =>
        cases h
        exact .inl ⟨id, rfl, hget⟩
      next =>
        split at h
        · cases h
        · exact ih h

private theorem Diagnostic.explains_of_thrown {machine : Machine} {thread : Thread}
    {object : ObjectRef} {fault : Fault}
    (h : thrown machine.registry machine.heap thread object = .error fault) :
    machine.Explains fault := by
  rw [thrown_eq] at h
  split at h
  next hobject =>
    cases h
    exact hobject
  next =>
    split at h
    next hclass =>
      cases h
      exact hclass
    next howner =>
      cases h
      exact howner
    next => cases h

namespace Dispatch

/-- The exit of a result. -/
def exitOf {α : Type} [Exits α] : EStateM.Result Halt Execution α → Exit
  | .ok value _ => Exits.exit value
  | .error halt _ => .halted halt

/-- The execution after a result. -/
def finalOf {α : Type} : EStateM.Result Halt Execution α → Execution
  | .ok _ after => after
  | .error _ after => after

/-- A result that a course leads to. -/
def Follows {α : Type} [Exits α] (bound : Nat) (object? : Option ObjectRef) (raises : Nat)
    (start : Execution) (result : EStateM.Result Halt Execution α) : Prop :=
  Course bound object? raises start (exitOf result) (finalOf result)

/-- Guest code that is nested less deep follows courses. -/
def GuestsFollow (bound : Nat) : Prop :=
  ∀ lower, lower < bound → ∀ object? action start,
    Follows lower object? 1 start (act (runner lower) object? action start)

private theorem act_of_not_raises (run : GuestRunner) (object? : Option ObjectRef)
    {action : GuestAction} (haction : action.raises = false) (start : Execution) :
    exitOf (act run object? action start) = .normal := by
  rw [act_apply]
  cases action with
  | nothing => rfl
  | message text => cases object? <;> rfl
  | raise kind => cases haction
  | throw thrown? => cases haction

/-- The end of guest code after what it did. -/
theorem perform_ends (run : GuestRunner) (code : GuestCode) (object? : Option ObjectRef)
    (start : Execution) :
    GuestEnds start.thread.depth
      (finalOf (act run object? code.action (start.enterGuest code)))
      (exitOf (act run object? code.action (start.enterGuest code)))
      (exitOf (perform run code object? start)) (finalOf (perform run code object? start)) := by
  rw [perform_apply]
  cases act run object? code.action (start.enterGuest code) with
  | error halt after => exact .halted halt
  | ok raised? after =>
    cases raised? with
    | none => exact .returned
    | some handler =>
      simp only [completion]
      split
      next hdepth => exact .unwound handler hdepth
      next hdepth => exact .caught handler (Nat.lt_of_not_le hdepth)

/-! ### Resolving classes -/

section

variable {bound raises : Nat} {object? : Option ObjectRef}

/-- Finding a class at most loads it. -/
theorem find_follows (name : String) (start : Execution) :
    Follows bound object? raises start (find name start) := by
  rw [find_apply]
  cases hid : start.machine.registry.idOf? name with
  | some id => exact .refl start
  | none =>
    cases hload : start.machine.load? name with
    | none => exact .refl start
    | some found => exact .load hid hload

/-- Resolving a class runs its initializer before it is loaded. -/
theorem resolve_follows (hguests : GuestsFollow bound) (name : String) (start : Execution) :
    Follows bound object? 0 start (resolve (runner bound) name start) := by
  rw [resolve_apply]
  cases hid : start.machine.registry.idOf? name with
  | some id => exact find_follows name start
  | none =>
    cases htake : start.machine.takeInitializer? name with
    | none => exact find_follows name start
    | some taken =>
      obtain ⟨code, machine⟩ := taken
      cases bound with
      | zero => exact .initializerTooDeep hid htake
      | succ lower =>
        have hcourse : Follows (lower + 1) object? 0 start
            (runner (lower + 1) code none { start with machine }) :=
          .initializer hid htake (hguests lower (Nat.lt_succ_self lower) none code.action _)
            (fun haction => act_of_not_raises _ _ haction _)
            (perform_ends (runner lower) code none { start with machine })
        simp only
        cases hrun : runner (lower + 1) code none { start with machine } with
        | error halt after => rwa [hrun] at hcourse
        | ok outcome after =>
          rw [hrun] at hcourse
          cases outcome with
          | returned => exact hcourse.andThen (find_follows name after)
          | unwound handler => exact hcourse

/-- A constant that holds no class name is missing. -/
theorem resolveConstant_follows (hguests : GuestsFollow bound) (ref : ClassRef)
    (context : ClassId) (start : Execution) :
    Follows bound object? 0 start (resolveConstant (runner bound) ref context start) := by
  rw [resolveConstant_apply]
  cases hget : start.machine.registry.get? context with
  | none => exact .fault start hget
  | some descriptor =>
    simp only
    cases descriptor.classNameAt? ref with
    | none => exact .refl start
    | some name => exact resolve_follows hguests name start

private theorem exists_find_of_resolve {run : GuestRunner} {name : String} {resolution : Resolution}
    {start after : Execution} (h : resolve run name start = .ok resolution after)
    (hresolution : ∀ handler, resolution ≠ .unwound handler) :
    ∃ middle, find name middle = .ok resolution after := by
  rw [resolve_apply] at h
  split at h
  · split at h
    next middle _ => exact ⟨middle, h⟩
    next handler _ _ =>
      cases h
      exact absurd rfl (hresolution handler)
    next => cases h
  · exact ⟨start, h⟩

/-- A class that was resolved is registered. -/
theorem idOf?_of_resolve {run : GuestRunner} {name : String} {id : ClassId}
    {start after : Execution} (h : resolve run name start = .ok (.loaded id) after) :
    after.machine.registry.idOf? name = some id := by
  obtain ⟨middle, hfind⟩ := exists_find_of_resolve h (by simp)
  rw [find_apply] at hfind
  split at hfind
  next found hid =>
    cases hfind
    exact hid
  next =>
    split at hfind
    next => cases hfind
    next found machine hload =>
      cases hfind
      exact Machine.idOf?_of_load? hload

/-- A class that is missing is neither registered nor loadable. -/
theorem load?_of_resolve {run : GuestRunner} {name : String} {start after : Execution}
    (h : resolve run name start = .ok .missing after) :
    after.machine.registry.idOf? name = none ∧ after.machine.load? name = none := by
  obtain ⟨middle, hfind⟩ := exists_find_of_resolve h (by simp)
  rw [find_apply] at hfind
  split at hfind
  next => cases hfind
  next hid =>
    split at hfind
    next hload =>
      cases hfind
      exact ⟨hid, hload⟩
    next => cases hfind

/-! ### Searching for a handler -/

private theorem explains_of_verdict {machine : Machine} {target thrown : ClassId} {fault : Fault}
    (h : verdict machine target thrown = .error fault) : machine.Explains fault := by
  rw [verdict] at h
  split at h
  · cases h
  · rcases Registry.fault_of_reaches h with ⟨missing, rfl, hmissing⟩ | ⟨last, rfl⟩
    · exact hmissing
    · exact ⟨thrown, target, h⟩

/-- The search of a frame ends as the resolution of the classes on the way does. -/
theorem search_follows (hguests : GuestsFollow bound) (thrown : ClassId) (method : Method)
    (entries : List CatchEntry) (start : Execution) :
    Follows bound object? 0 start (search (runner bound) thrown method entries start) := by
  induction entries generalizing start with
  | nil => exact .refl start
  | cons entry rest ih =>
    rw [search_cons]
    cases entry.catchType with
    | any => exact .refl start
    | only ref =>
      have hcourse : Follows bound object? 0 start
          (resolveConstant (runner bound) ref method.owner start) :=
        resolveConstant_follows hguests ref method.owner start
      simp only
      cases hresolve : resolveConstant (runner bound) ref method.owner start with
      | error halt after => rwa [hresolve] at hcourse
      | ok resolution after =>
        rw [hresolve] at hcourse
        cases resolution with
        | unwound handler => exact hcourse
        | loaded target =>
          simp only
          cases hverdict : verdict after.machine target thrown with
          | error fault =>
            exact hcourse.andThen (.fault after (explains_of_verdict hverdict))
          | ok answer =>
            cases answer with
            | true => exact hcourse
            | false => exact hcourse.andThen (ih after)
        | missing =>
          simp only
          cases hget : after.machine.registry.get? method.owner with
          | none => exact hcourse.andThen (.fault after hget)
          | some owner => exact (hcourse.record _ rfl rfl rfl).andThen (ih _)

private theorem search_cons_ok {run : GuestRunner} {thrown : ClassId} {method : Method}
    {entry : CatchEntry} {rest : List CatchEntry} {result : SearchResult}
    {start after : Execution}
    (h : search run thrown method (entry :: rest) start = .ok result after) :
    result = .found entry.handlerPc ∨ (∃ handler, result = .unwound handler) ∨
      entry.catchType ≠ .any ∧
        ∃ middle, search run thrown method rest middle = .ok result after := by
  rw [search_cons] at h
  split at h
  next =>
    cases h
    exact .inl rfl
  next ref htype =>
    have hrest {middle : Execution}
        (hmiddle : search run thrown method rest middle = .ok result after) :
        entry.catchType ≠ .any ∧
          ∃ middle, search run thrown method rest middle = .ok result after :=
      ⟨by simp [htype], middle, hmiddle⟩
    split at h
    next =>
      split at h
      next =>
        cases h
        exact .inl rfl
      next => exact .inr (.inr (hrest h))
      next => cases h
    next =>
      split at h
      next => exact .inr (.inr (hrest h))
      next => cases h
    next handler _ _ =>
      cases h
      exact .inr (.inl ⟨handler, rfl⟩)
    next => cases h

private theorem mem_of_search_found {run : GuestRunner} {thrown : ClassId} {method : Method}
    {entries : List CatchEntry} {pc : UInt16} {start after : Execution}
    (h : search run thrown method entries start = .ok (.found pc) after) :
    ∃ entry ∈ entries, entry.handlerPc = pc := by
  induction entries generalizing start with
  | nil => cases h
  | cons entry rest ih =>
    rcases search_cons_ok h with hfound | ⟨handler, hunwound⟩ | ⟨-, middle, hrest⟩
    · cases hfound
      exact ⟨entry, List.mem_cons_self, rfl⟩
    · cases hunwound
    · obtain ⟨found, hmem, hpc⟩ := ih hrest
      exact ⟨found, List.mem_cons_of_mem _ hmem, hpc⟩

private theorem ne_any_of_search_notFound {run : GuestRunner} {thrown : ClassId} {method : Method}
    {entries : List CatchEntry} {start after : Execution}
    (h : search run thrown method entries start = .ok .notFound after) :
    ∀ entry ∈ entries, entry.catchType ≠ .any := by
  induction entries generalizing start with
  | nil => exact fun _ hentry => absurd hentry List.not_mem_nil
  | cons entry rest ih =>
    rcases search_cons_ok h with hfound | ⟨handler, hunwound⟩ | ⟨htype, middle, hrest⟩
    · cases hfound
    · cases hunwound
    · exact List.forall_mem_cons.2 ⟨htype, ih hrest⟩

/-- The search of the stack never lets its caller go on. -/
theorem searchFrames_follows (hguests : GuestsFollow bound) (thrown : Thrown) (popped : Nat)
    {frames : List Frame} {start : Execution} (hframes : start.thread.frames = frames) :
    ∃ exit, exit ≠ .normal ∧
      exitOf (searchFrames (runner bound) thrown popped frames start) = exit.addPopped popped ∧
      Course bound object? 0 start exit
        (finalOf (searchFrames (runner bound) thrown popped frames start)) := by
  induction frames generalizing start popped with
  | nil => exact ⟨_, Exit.noConfusion, rfl, .uncaught thrown.diagnostic hframes⟩
  | cons frame callers ih =>
    have hcourse : Follows bound object? 0 start
        (search (runner bound) thrown.classId frame.method frame.covering start) :=
      search_follows hguests thrown.classId frame.method frame.covering start
    rw [searchFrames_cons]
    simp only
    cases hsearch : search (runner bound) thrown.classId frame.method frame.covering start with
    | error halt after =>
      rw [hsearch] at hcourse
      exact ⟨_, Exit.noConfusion, rfl, hcourse⟩
    | ok result after =>
      rw [hsearch] at hcourse
      cases result with
      | found pc =>
        obtain ⟨entry, hentry, rfl⟩ := mem_of_search_found hsearch
        have hafter : after.thread.frames = frame :: callers := hcourse.stackAfter.trans hframes
        refine ⟨.unwound ⟨entry.handlerPc, 0⟩, Exit.noConfusion, rfl, ?_⟩
        exact hcourse.andThen (.caught _ popped hafter hentry)
      | unwound handler => exact ⟨_, Exit.noConfusion, rfl, hcourse.record _ rfl rfl rfl⟩
      | notFound =>
        have hafter : after.thread.frames = frame :: callers := hcourse.stackAfter.trans hframes
        -- A frame is popped after all of its entries were tried, so none of them is for everything.
        have hframe : ¬ frame.CatchesAll := fun ⟨entry, hentry, hprotects, hany⟩ =>
          ne_any_of_search_notFound hsearch entry (CatchTable.mem_covering.2 ⟨hentry, hprotects⟩)
            hany
        have hpopped : ((after.record (.popping ⟨thrown.className, frame.method.name,
            frame.pc⟩)).modifyThread Thread.pop).thread.frames = callers := by
          simp [Thread.pop, hafter]
        obtain ⟨exit, hexit, heq, hrest⟩ := ih (popped + 1) hpopped
        refine ⟨exit.addPopped 1, by simpa using hexit, ?_, ?_⟩
        · rw [heq, Exit.addPopped_addPopped]
        · exact hcourse.andThen (.recordFirst _ rfl rfl rfl (.popped hafter hframe hrest hexit))

/-- Dispatching an object never lets its caller go on. -/
theorem unwind_follows (hguests : GuestsFollow bound) (object : ObjectRef) (start : Execution) :
    Follows bound object? 0 start (unwind (runner bound) object start) := by
  rw [unwind_apply]
  cases hthrown : Diagnostic.thrown start.machine.registry start.machine.heap start.thread
    object with
  | error fault => exact .fault start (Diagnostic.explains_of_thrown hthrown)
  | ok thrown =>
    obtain ⟨exit, -, heq, hcourse⟩ :
        ∃ exit, exit ≠ .normal ∧
          exitOf (searchFrames (runner bound) thrown 0 start.thread.frames start) =
            exit.addPopped 0 ∧
          Course bound object? 0 start exit
            (finalOf (searchFrames (runner bound) thrown 0 start.thread.frames start)) :=
      searchFrames_follows hguests thrown 0 rfl
    rw [Follows, heq, Exit.addPopped_zero]
    exact hcourse

/-! ### Raising exceptions -/

/-- A construction below the limit runs the constructor of a new object. -/
theorem construction_follows (hguests : GuestsFollow bound) {kind : Builtin} {id : ClassId}
    {descriptor : ClassDescriptor} {start : Execution}
    (hdepth : start.thread.constructionDepth < start.machine.settings.maxConstructionDepth)
    (hid : start.machine.registry.idOf? kind.className = some id)
    (hget : start.machine.registry.get? id = some descriptor) :
    Follows bound object? 1 start (construction (runner bound) kind id descriptor start) := by
  rw [construction]
  cases htake : (start.beginConstruction kind id descriptor).machine.takeConstructor?
    descriptor.name with
  | none => exact .construct hdepth hid hget htake
  | some taken =>
    obtain ⟨code, machine⟩ := taken
    simp only
    cases bound with
    | zero => exact .constructorTooDeep hdepth hid hget htake
    | succ lower =>
      have hcourse : Course (lower + 1) object? 1 start
          (exitOf (runner (lower + 1) code (some start.nextObject)
            { start.beginConstruction kind id descriptor with machine }))
          ((finalOf (runner (lower + 1) code (some start.nextObject)
            { start.beginConstruction kind id descriptor with machine })).leaveConstructor
              start.nextObject) :=
        .constructor hdepth hid hget htake
          (hguests lower (Nat.lt_succ_self lower) (some start.nextObject) code.action _)
          (fun haction => act_of_not_raises _ _ haction _)
          (perform_ends (runner lower) code (some start.nextObject)
            { start.beginConstruction kind id descriptor with machine })
      cases hrun : runner (lower + 1) code (some start.nextObject)
        { start.beginConstruction kind id descriptor with machine } with
      | error halt after => rwa [hrun] at hcourse
      | ok outcome after => rwa [hrun] at hcourse

/-- Constructing an exception constructs one of its own at most. -/
theorem construct_follows (hguests : GuestsFollow bound) (kind : Builtin) (start : Execution) :
    Follows bound object? 1 start (construct (runner bound) kind start) := by
  rw [construct_apply]
  simp only
  split
  next hdepth => exact .constructionDepth kind hdepth
  next hdepth =>
    have hcourse : Follows bound object? 0 start
        (resolve (runner bound) kind.className start) :=
      resolve_follows hguests kind.className start
    cases hresolve : resolve (runner bound) kind.className start with
    | error halt after =>
      rw [hresolve] at hcourse
      exact hcourse.weaken
    | ok resolution after =>
      rw [hresolve] at hcourse
      cases resolution with
      | missing =>
        obtain ⟨hid, hload⟩ := load?_of_resolve hresolve
        exact hcourse.before (.bootstrap hid hload)
      | unwound handler => exact hcourse.weaken
      | loaded id =>
        have hid := idOf?_of_resolve hresolve
        have hkeeps : start.Keeps after := hcourse.keeps
        have hafter : after.thread.constructionDepth <
            after.machine.settings.maxConstructionDepth := by
          rw [hkeeps.depth, hkeeps.settings]
          exact UInt16.not_le.1 hdepth
        simp only
        cases hget : after.machine.registry.get? id with
        | none => exact hcourse.before (.fault after hget)
        | some descriptor =>
          have hconstruction : Follows bound object? 1 after
              (construction (runner bound) kind id descriptor after) :=
            construction_follows hguests hafter hid hget
          simp only
          cases hrun : construction (runner bound) kind id descriptor after with
          | error halt left =>
            rw [hrun] at hconstruction
            exact hcourse.before hconstruction
          | ok outcome left =>
            rw [hrun] at hconstruction
            cases outcome <;> exact hcourse.before hconstruction

/-- An exception that was constructed is dispatched. -/
theorem constructAndUnwind_follows (hguests : GuestsFollow bound) (kind : Builtin)
    (start : Execution) :
    Follows bound object? 1 start (constructAndUnwind (runner bound) kind start) := by
  have hcourse : Follows bound object? 1 start (construct (runner bound) kind start) :=
    construct_follows hguests kind start
  rw [constructAndUnwind_apply]
  cases hconstruct : construct (runner bound) kind start with
  | error halt after => rwa [hconstruct] at hcourse
  | ok outcome after =>
    rw [hconstruct] at hcourse
    cases outcome with
    | finished object => exact hcourse.andThen (unwind_follows hguests object after)
    | unwound handler => exact hcourse

/-- Throwing constructs an exception of its own at most. -/
theorem throwObject_follows (hguests : GuestsFollow bound) (thrown? : Option ObjectRef)
    (start : Execution) :
    Follows bound object? 1 start (throwObject (runner bound) thrown? start) := by
  cases thrown? with
  | none => exact constructAndUnwind_follows hguests .nullPointer start
  | some object => exact (unwind_follows hguests object start).weaken

end

/-! ### The circle -/

/-- Guest code follows a course if deeper guest code does. -/
theorem act_follows_of_guestsFollow {bound : Nat} (hguests : GuestsFollow bound)
    (object? : Option ObjectRef) (action : GuestAction) (start : Execution) :
    Follows bound object? 1 start (act (runner bound) object? action start) := by
  rw [act_apply]
  cases action with
  | nothing => exact .refl start
  | message text =>
    cases object? with
    | none => exact .refl start
    | some object => exact .message start object text
  | raise kind =>
    have hcourse : Follows bound object? 1 start
        (constructAndUnwind (runner bound) kind start) :=
      constructAndUnwind_follows hguests kind start
    simp only
    cases hrun : constructAndUnwind (runner bound) kind start <;> rwa [hrun] at hcourse
  | throw thrown? =>
    have hcourse : Follows bound object? 1 start
        (throwObject (runner bound) thrown? start) :=
      throwObject_follows hguests thrown? start
    simp only
    cases hrun : throwObject (runner bound) thrown? start <;> rwa [hrun] at hcourse

/-- Guest code follows a course, however deep it is nested. -/
theorem guestsFollow (bound : Nat) : GuestsFollow bound := by
  -- Guest code at one depth runs guest code of the next one only, for which this is known.
  induction bound with
  | zero => exact fun lower hlower => absurd hlower (Nat.not_lt_zero lower)
  | succ bound ih =>
    intro lower hlower object? action start
    rcases Nat.lt_succ_iff_lt_or_eq.1 hlower with hlt | rfl
    · exact ih lower hlt object? action start
    · exact act_follows_of_guestsFollow ih object? action start

end Dispatch

private theorem Dispatch.Follows.map {α β : Type} [Exits α] [Exits β] {bound raises : Nat}
    {object? : Option ObjectRef} {start : Execution} {part : Dispatch α} {wrap : α → β}
    (hwrap : ∀ answer, Exits.exit (wrap answer) = Exits.exit answer)
    (h : Follows bound object? raises start (part start)) :
    Follows bound object? raises start ((part >>= fun answer => pure (wrap answer)) start) := by
  rw [bind_apply]
  cases hpart : part start with
  | error halt after => rwa [hpart] at h
  | ok answer after =>
    rw [hpart] at h
    show Course bound object? raises start (Exits.exit (wrap answer)) after
    rw [hwrap]
    exact h

/-- Every operation follows a course, however deep its guest code may be nested. -/
theorem Operation.runWith_follows (operation : Operation) (bound : Nat) (start : Execution) :
    Dispatch.Follows bound none 1 start (operation.runWith (Dispatch.runner bound) start) := by
  have hguests := Dispatch.guestsFollow bound
  cases operation with
  | resolve name =>
    have hcourse : Dispatch.Follows bound none 0 start
        (Dispatch.resolve (Dispatch.runner bound) name start) :=
      Dispatch.resolve_follows hguests name start
    exact Dispatch.Follows.map (fun _ => rfl) hcourse.weaken
  | resolveConstant ref context =>
    have hcourse : Dispatch.Follows bound none 0 start
        (Dispatch.resolveConstant (Dispatch.runner bound) ref context start) :=
      Dispatch.resolveConstant_follows hguests ref context start
    exact Dispatch.Follows.map (fun _ => rfl) hcourse.weaken
  | unwind object =>
    have hcourse : Dispatch.Follows bound none 0 start
        (Dispatch.unwind (Dispatch.runner bound) object start) :=
      Dispatch.unwind_follows hguests object start
    exact Dispatch.Follows.map (fun _ => rfl) hcourse.weaken
  | throw object? =>
    exact Dispatch.Follows.map (fun _ => rfl) (Dispatch.throwObject_follows hguests object? start)
  | construct kind =>
    exact Dispatch.Follows.map (fun _ => rfl) (Dispatch.construct_follows hguests kind start)
  | constructAndUnwind kind =>
    exact Dispatch.Follows.map (fun _ => rfl)
      (Dispatch.constructAndUnwind_follows hguests kind start)

/-- Every operation follows a course with as much nesting as the operation allows. -/
theorem Operation.run_follows (operation : Operation) (start : Execution) :
    Dispatch.Follows start.nestingBound none 1 start (operation.run start) :=
  operation.runWith_follows start.nestingBound start

end ExceptionDispatch
