import ExceptionDispatch.Proofs.Course.Nesting
import ExceptionDispatch.Proofs.StackDiscipline

/-!
# What dispatch sees of the stack

Dispatch never looks below the frame that handles an exception: whatever is under that frame may be
replaced, and the operation does the same. This holds of each part of dispatch, and is kept when one
part follows another. A part that its caller goes on after gives the stack back, and one that ends
with a handler above the replaced frames has not reached them: had any search on the way got there,
the handler would be at that place or below. Main statement: `Operation.run_aboveHandler`.
-/

namespace ExceptionDispatch

/-- The execution with other frames on its thread. -/
def Execution.onFrames (execution : Execution) (frames : List Frame) : Execution :=
  { execution with thread := { execution.thread with frames } }

namespace Execution

variable (execution : Execution) (frames : List Frame)

@[simp] private theorem machine_onFrames :
    (execution.onFrames frames).machine = execution.machine := rfl

/-- The other frames are on the thread. -/
@[simp] theorem frames_onFrames : (execution.onFrames frames).thread.frames = frames := rfl

private theorem onFrames_self : execution.onFrames execution.thread.frames = execution := rfl

private theorem onFrames_setPc (pc : UInt16) :
    (execution.modifyThread (Thread.setPc · pc)).onFrames frames = execution.onFrames frames := by
  rw [onFrames, thread_modifyThread, Thread.setPc_eq]
  rfl

private theorem leaveGuest_onFrames (base other : Nat) (outcome : Completion) :
    (execution.onFrames frames).leaveGuest base outcome =
      (execution.leaveGuest other outcome).onFrames (frames.drop (frames.length - base)) := rfl

/-- A change of an execution that neither sees nor changes the frames. -/
def Frameless (change : Execution → Execution) : Prop :=
  ∀ start frames, change (start.onFrames frames) = (change start).onFrames frames

private theorem Frameless.frames_eq {change : Execution → Execution} (h : Frameless change)
    (start : Execution) : (change start).thread.frames = start.thread.frames := by
  have hsame := h start start.thread.frames
  rw [start.onFrames_self] at hsame
  rw [hsame, frames_onFrames]

end Execution

private theorem Diagnostic.thrown_onFrames (execution : Execution) (frame : Frame)
    (callers others : List Frame) (object : ObjectRef) :
    thrown execution.machine.registry execution.machine.heap
        (execution.onFrames (frame :: callers)).thread object =
      thrown execution.machine.registry execution.machine.heap
        (execution.onFrames (frame :: others)).thread object := rfl

/-- The stack has no more frames once an exception went to a handler. -/
theorem Redirected.length_le {frames left : List Frame} {pc : UInt16}
    (h : Redirected frames pc left) : left.length ≤ frames.length := by
  obtain ⟨above, frame, callers, rfl, rfl, -, -⟩ := h
  simp

namespace Dispatch

variable {α β : Type}

/-! ### Parts that see no frame -/

/-- A part of dispatch that neither sees nor changes the frames. -/
def Frameless (part : Dispatch α) : Prop :=
  ∀ start frames, part (start.onFrames frames) =
    match part start with
    | .ok value after => .ok value (after.onFrames frames)
    | .error halt after => .error halt (after.onFrames frames)

namespace Frameless

private theorem pure (value : α) : Frameless (pure value) := fun _ _ => rfl

private theorem orFault (found : Except Fault α) : Frameless (orFault found) := by
  intro start frames
  cases found <;> rfl

private theorem record (event : Event) : Frameless (record event) := fun _ _ => rfl

private theorem setMachine (machine : Machine) : Frameless (setMachine machine) := fun _ _ => rfl

private theorem modifyMachine (change : Machine → Machine) : Frameless (modifyMachine change) :=
  fun _ _ => rfl

private theorem bind {part : Dispatch α} {next : α → Dispatch β} (hpart : Frameless part)
    (hnext : ∀ value, Frameless (next value)) : Frameless (part >>= next) := by
  intro start frames
  rw [bind_apply, bind_apply, hpart start frames]
  cases part start with
  | ok value after => exact hnext value after frames
  | error halt after => rfl

private theorem get {next : Execution → Dispatch β}
    (hsame : ∀ execution frames, next (execution.onFrames frames) = next execution)
    (hnext : ∀ execution, Frameless (next execution)) : Frameless (get >>= next) := by
  intro start frames
  rw [bind_apply, get_apply, bind_apply, get_apply]
  simp only
  rw [hsame]
  exact hnext start start frames

private theorem classAt (id : ClassId) : Frameless (classAt id) :=
  .get (fun _ _ => rfl) fun _ => .orFault _

private theorem allocate (id : ClassId) : Frameless (allocate id) :=
  (Frameless.classAt id).bind fun _ _ _ => rfl

private theorem find (name : String) : Frameless (find name) := by
  apply Frameless.get (fun _ _ => rfl)
  intro execution
  simp only
  cases execution.machine.registry.idOf? name with
  | some id => exact .pure _
  | none =>
    cases execution.machine.load? name with
    | none => exact .pure _
    | some found => exact (Frameless.setMachine _).bind fun _ => .pure _

private theorem catches (target thrown : ClassId) : Frameless (catches target thrown) := by
  apply Frameless.get (fun _ _ => rfl)
  intro execution
  simp only
  cases execution.machine.settings.catchMatching with
  | exact => exact .pure _
  | subclass => exact .orFault _

end Frameless

/-! ### Parts that see the frames that they leave -/

/-- A part of dispatch that sees the top of the stack only: where it leaves frames that were below
the top, it would have done the same on any others, with the same frames left above them. A part
that its caller goes on after gives the whole top back. -/
def Local [Exits α] (part : Dispatch α) : Prop :=
  ∀ ⦃start above below value after⦄, start.thread.frames = above ++ below →
    part start = .ok value after →
    (Exits.exit value ≠ .normal → below.length < after.thread.depth) →
    ∃ top, after.thread.frames = top ++ below ∧ (Exits.exit value = .normal → top = above) ∧
      ∀ others, part (start.onFrames (above ++ others)) =
        .ok value (after.onFrames (top ++ others))

/-- What comes after an answer: it sees the top of the stack only if the caller goes on, and else it
is an answer that its caller does not go on after either. -/
def LeadsTo [Exits α] [Exits β] (value : α) (next : Dispatch β) : Prop :=
  Exits.exit value = .normal ∧ Local next ∨
    Exits.exit value ≠ .normal ∧ ∃ answer, next = pure answer ∧ Exits.exit answer ≠ .normal

/-- Guest code that sees the top of the stack only. -/
def RunnerLocal (run : GuestRunner) : Prop := ∀ code object?, Local (run code object?)

private theorem Frameless.frames_eq {part : Dispatch α} (h : Frameless part)
    {start after : Execution} {value : α} (hpart : part start = .ok value after) :
    after.thread.frames = start.thread.frames := by
  have hsame := h start start.thread.frames
  rw [start.onFrames_self, hpart] at hsame
  simp only [EStateM.Result.ok.injEq, true_and] at hsame
  rw [hsame, Execution.frames_onFrames]

section

variable [Exits α] [Exits β]

private theorem LeadsTo.goesOn {value : α} {next : Dispatch β} (hexit : Exits.exit value = .normal)
    (hnext : Local next) : LeadsTo value next :=
  .inl ⟨hexit, hnext⟩

private theorem LeadsTo.ends {value : α} {answer : β} {handler passed : Handler}
    (hexit : Exits.exit value = .unwound handler) (hanswer : Exits.exit answer = .unwound passed) :
    LeadsTo value (pure answer) :=
  .inr ⟨by simp [hexit], answer, rfl, by simp [hanswer]⟩

end

namespace Local

variable [Exits α] [Exits β]

private theorem of_frameless {part : Dispatch α} (h : Frameless part) : Local part := by
  intro start above below value after hframes hpart _
  refine ⟨above, (h.frames_eq hpart).trans hframes, fun _ => rfl, ?_⟩
  intro others
  rw [h, hpart]

private theorem abort (error : Fatal) : Local (Dispatch.abort error : Dispatch α) := by
  intro start above below value after _ hpart
  cases hpart

private theorem get {next : Execution → Dispatch α}
    (hsame : ∀ execution frames, next (execution.onFrames frames) = next execution)
    (hnext : ∀ execution, Local (next execution)) : Local (get >>= next) := by
  intro start above below value after hframes hpart hstays
  rw [bind_apply, get_apply] at hpart
  obtain ⟨top, hleft, htop, hothers⟩ := hnext start hframes hpart hstays
  refine ⟨top, hleft, htop, ?_⟩
  intro others
  rw [bind_apply, get_apply]
  simp only
  rw [hsame]
  exact hothers others

private theorem after_frameless {γ : Type} {first : Dispatch γ} {next : γ → Dispatch α}
    (hfirst : Frameless first) (hnext : ∀ value, Local (next value)) :
    Local (first >>= next) := by
  intro start above below value after hframes hpart hstays
  rw [bind_apply] at hpart
  cases hrun : first start with
  | error halt middle =>
    rw [hrun] at hpart
    cases hpart
  | ok found middle =>
    rw [hrun] at hpart
    have hmiddle := (hfirst.frames_eq hrun).trans hframes
    obtain ⟨top, hleft, htop, hothers⟩ := hnext found hmiddle hpart hstays
    refine ⟨top, hleft, htop, ?_⟩
    intro others
    rw [bind_apply, hfirst, hrun]
    exact hothers others

/-- Parts follow each other on the same top; one that ends with a handler is the last. -/
theorem bind {part : Dispatch α} {next : α → Dispatch β} (hpart : Local part)
    (hnext : ∀ value, LeadsTo value (next value)) : Local (part >>= next) := by
  intro start above below value after hframes hrun hstays
  rw [bind_apply] at hrun
  cases hfirst : part start with
  | error halt middle =>
    rw [hfirst] at hrun
    cases hrun
  | ok found middle =>
    rw [hfirst] at hrun
    rcases hnext found with ⟨hexit, hlocal⟩ | ⟨hexit, answer, hanswer, hunwound⟩
    · obtain ⟨top, hmiddle, htop, hothers⟩ := hpart hframes hfirst (absurd hexit ·)
      obtain ⟨rest, hleft, hrest, hagain⟩ := hlocal hmiddle hrun hstays
      refine ⟨rest, hleft, fun h => (hrest h).trans (htop hexit), ?_⟩
      intro others
      rw [bind_apply, hothers]
      exact hagain others
    · simp only [hanswer, pure_apply] at hrun
      cases hrun
      obtain ⟨top, hmiddle, -, hothers⟩ := hpart hframes hfirst fun _ => hstays hunwound
      refine ⟨top, hmiddle, fun h => absurd h hunwound, ?_⟩
      intro others
      rw [bind_apply, hothers]
      simp only
      rw [hanswer]
      rfl

private theorem wrap {part : Dispatch α} (hpart : Local part) (answer : α → β)
    (hanswer : ∀ value, Exits.exit (answer value) = Exits.exit value) :
    Local (part >>= fun value => pure (answer value)) := by
  apply hpart.bind
  intro value
  by_cases hexit : Exits.exit value = .normal
  · exact .goesOn hexit (.of_frameless (.pure _))
  · exact .inr ⟨hexit, answer value, rfl, by rwa [hanswer]⟩

private theorem between {before after : Execution → Execution} {part : Dispatch α}
    (hbefore : Execution.Frameless before) (hafter : Execution.Frameless after)
    (hpart : Local part) : Local (Dispatch.between before after part) := by
  intro start above below value finish hframes hrun hstays
  rw [Dispatch.between] at hrun
  cases hinner : part (before start) with
  | error halt left =>
    rw [hinner] at hrun
    cases hrun
  | ok found left =>
    rw [hinner] at hrun
    cases hrun
    rw [Thread.depth, hafter.frames_eq] at hstays
    have hbegun := (hbefore.frames_eq start).trans hframes
    obtain ⟨top, hleft, htop, hothers⟩ := hpart hbegun hinner hstays
    refine ⟨top, (hafter.frames_eq left).trans hleft, htop, ?_⟩
    intro others
    rw [Dispatch.between, hbefore, hothers others, ← hafter]

end Local

/-! ### The parts of dispatch -/

section

variable {run : GuestRunner}

private theorem resolve_local (hrun : RunnerLocal run) (name : String) :
    Local (resolve run name) := by
  apply Local.get (fun _ _ => rfl)
  intro execution
  simp only
  cases execution.machine.registry.idOf? name with
  | some id => exact .of_frameless (.find name)
  | none =>
    cases execution.machine.takeInitializer? name with
    | none => exact .of_frameless (.find name)
    | some taken =>
      apply Local.after_frameless (.setMachine _)
      intro _
      apply (hrun taken.1 none).bind
      intro outcome
      cases outcome with
      | returned => exact .goesOn rfl (.of_frameless (.find name))
      | unwound handler => exact .ends rfl rfl

private theorem resolveConstant_local (hrun : RunnerLocal run) (ref : ClassRef)
    (context : ClassId) :
    Local (resolveConstant run ref context) := by
  apply Local.after_frameless (.classAt context)
  intro descriptor
  cases descriptor.classNameAt? ref with
  | none => exact .of_frameless (.pure _)
  | some name => exact resolve_local hrun name

/-- The search of a frame sees what the resolution of the classes on the way does. -/
theorem search_local (hrun : RunnerLocal run) (thrown : ClassId) (method : Method)
    (entries : List CatchEntry) : Local (search run thrown method entries) := by
  induction entries with
  | nil => exact .of_frameless (.pure _)
  | cons entry rest ih =>
    rw [search]
    cases entry.catchType with
    | any => exact .of_frameless (.pure _)
    | only ref =>
      apply (resolveConstant_local hrun ref method.owner).bind
      intro resolution
      cases resolution with
      | loaded target =>
        apply LeadsTo.goesOn rfl
        apply Local.after_frameless (.catches target thrown)
        intro caught
        cases caught with
        | true => exact .of_frameless (.pure _)
        | false => exact ih
      | missing =>
        apply LeadsTo.goesOn rfl
        apply Local.after_frameless (.classAt method.owner)
        intro owner
        exact .after_frameless (.record _) fun _ => ih
      | unwound handler => exact .ends rfl rfl

private theorem runConstructor_local (hrun : RunnerLocal run) (object : ObjectRef) (id : ClassId) :
    Local (runConstructor run object id) := by
  apply Local.between (fun _ _ => rfl) (fun _ _ => rfl)
  apply Local.after_frameless (.modifyMachine _)
  intro _
  apply Local.after_frameless (.classAt id)
  intro descriptor
  apply Local.get (fun _ _ => rfl)
  intro execution
  cases execution.machine.takeConstructor? descriptor.name with
  | none => exact .of_frameless (.pure _)
  | some taken => exact .after_frameless (.setMachine _) fun _ => hrun taken.1 (some object)

/-- Constructing an exception sees what its initializer and its constructor do. -/
theorem construct_local (hrun : RunnerLocal run) (kind : Builtin) :
    Local (construct run kind) := by
  apply Local.get (fun _ _ => rfl)
  intro execution
  simp only
  split
  next => exact .abort _
  next =>
    apply (resolve_local hrun kind.className).bind
    intro resolution
    cases resolution with
    | missing => exact .goesOn rfl (.abort _)
    | unwound handler => exact .ends rfl rfl
    | loaded id =>
      apply LeadsTo.goesOn rfl
      apply Local.after_frameless (.allocate id)
      intro object
      apply Local.after_frameless (.record _)
      intro _
      have hcounted : Local (counted (runConstructor run object id)) :=
        .between (fun _ _ => rfl) (fun _ _ => rfl) (runConstructor_local hrun object id)
      apply hcounted.bind
      intro outcome
      cases outcome with
      | returned => exact .goesOn rfl (.of_frameless (.pure _))
      | unwound handler => exact .ends rfl rfl

end

section

variable {bound : Nat}

private theorem depth_le_of_searchFrames {thrown : Thrown} {popped : Nat} {start after : Execution}
    {handler : Handler}
    (h : searchFrames (runner bound) thrown popped start.thread.frames start =
      .ok handler after) : after.thread.depth ≤ start.thread.depth := by
  obtain ⟨exit, hexit, heq, hcourse⟩ :
      ∃ exit, exit ≠ .normal ∧
        exitOf (searchFrames (runner bound) thrown popped start.thread.frames start) =
          exit.addPopped popped ∧
        Course bound none 0 start exit
          (finalOf (searchFrames (runner bound) thrown popped start.thread.frames start)) :=
    searchFrames_follows (guestsFollow bound) thrown popped rfl
  rw [h] at heq hcourse
  cases exit with
  | normal => exact absurd rfl hexit
  | halted halt => cases heq
  | unwound target =>
    have hleft : Redirected start.thread.frames target.pc after.thread.frames :=
      hcourse.stackAfter
    exact hleft.length_le

/-- The search of a stack that ends above the bottom has not come to the bottom. -/
theorem searchFrames_above (hrun : RunnerLocal (runner bound)) (thrown : Thrown) (popped : Nat)
    {above below : List Frame} {start after : Execution} {handler : Handler}
    (hframes : start.thread.frames = above ++ below)
    (hsearch : searchFrames (runner bound) thrown popped (above ++ below) start =
      .ok handler after)
    (hstays : below.length < after.thread.depth) :
    above ≠ [] ∧ ∃ top, after.thread.frames = top ++ below ∧
      ∀ others, searchFrames (runner bound) thrown popped (above ++ others)
        (start.onFrames (above ++ others)) = .ok handler (after.onFrames (top ++ others)) := by
  induction above generalizing start popped with
  | nil =>
    rw [← hframes] at hsearch
    have hdepth := depth_le_of_searchFrames hsearch
    rw [Thread.depth, Thread.depth, hframes] at hdepth
    exact absurd hstays (Nat.not_lt.2 hdepth)
  | cons frame above ih =>
    refine ⟨List.cons_ne_nil _ _, ?_⟩
    have hlocal := search_local hrun thrown.classId frame.method frame.covering
    rw [List.cons_append, searchFrames_cons] at hsearch
    simp only at hsearch
    split at hsearch
    next pc middle hfound =>
      cases hsearch
      obtain ⟨top, hmiddle, htop, hothers⟩ := hlocal hframes hfound (absurd rfl ·)
      rw [htop rfl] at hmiddle hothers
      refine ⟨{ frame with pc } :: above, by simp [Thread.setPc, hmiddle], ?_⟩
      intro others
      have hmoved := middle.onFrames_setPc ({ frame with pc } :: above ++ others) pc
      rw [List.cons_append, searchFrames_cons, ← List.cons_append, hothers others]
      simp only [EStateM.Result.ok.injEq, true_and]
      exact congrArg (Execution.record · _) hmoved.symm
    next inner middle hunwound =>
      cases hsearch
      obtain ⟨top, hmiddle, -, hothers⟩ := hlocal hframes hunwound fun _ => hstays
      refine ⟨top, hmiddle, ?_⟩
      intro others
      rw [List.cons_append, searchFrames_cons, ← List.cons_append, hothers others]
      rfl
    next middle hnone =>
      obtain ⟨top, hmiddle, htop, hothers⟩ := hlocal hframes hnone (absurd rfl ·)
      rw [htop rfl] at hmiddle hothers
      have hpopped : ((middle.record (.popping ⟨thrown.className, frame.method.name,
          frame.pc⟩)).modifyThread Thread.pop).thread.frames = above ++ below := by
        simp [Thread.pop, hmiddle]
      obtain ⟨-, rest, hleft, hrest⟩ := ih (popped + 1) hpopped hsearch
      refine ⟨rest, hleft, ?_⟩
      intro others
      rw [List.cons_append, searchFrames_cons, ← List.cons_append, hothers others]
      exact hrest others
    next => cases hsearch

/-- Dispatching an object sees the frames that it searches. -/
theorem unwind_local (hrun : RunnerLocal (runner bound)) (object : ObjectRef) :
    Local (unwind (runner bound) object) := by
  intro start above below handler after hframes hunwind hstays
  have hexit : Exits.exit handler ≠ .normal := Exit.noConfusion
  rw [unwind_apply] at hunwind
  cases hthrown : Diagnostic.thrown start.machine.registry start.machine.heap start.thread
    object with
  | error fault =>
    rw [hthrown] at hunwind
    cases hunwind
  | ok thrown =>
    rw [hthrown] at hunwind
    simp only [hframes] at hunwind
    obtain ⟨hnonempty, top, hleft, hothers⟩ :=
      searchFrames_above hrun thrown 0 hframes hunwind (hstays hexit)
    refine ⟨top, hleft, fun h => absurd h hexit, ?_⟩
    intro others
    -- The current frame is not replaced, so the diagnostic is the same.
    obtain ⟨frame, callers, rfl⟩ := List.exists_cons_of_ne_nil hnonempty
    have hsame := Diagnostic.thrown_onFrames start frame (callers ++ below) (callers ++ others)
      object
    rw [← List.cons_append, ← hframes, start.onFrames_self, hthrown] at hsame
    rw [unwind_apply, Execution.machine_onFrames, List.cons_append, ← hsame]
    exact hothers others

private theorem constructAndUnwind_local (hrun : RunnerLocal (runner bound)) (kind : Builtin) :
    Local (constructAndUnwind (runner bound) kind) := by
  apply (construct_local hrun kind).bind
  intro outcome
  cases outcome with
  | finished object => exact .goesOn rfl (unwind_local hrun object)
  | unwound handler => exact .ends rfl rfl

private theorem throwObject_local (hrun : RunnerLocal (runner bound)) (object? : Option ObjectRef) :
    Local (throwObject (runner bound) object?) := by
  cases object? with
  | none => exact constructAndUnwind_local hrun .nullPointer
  | some object => exact unwind_local hrun object

/-! ### Guest code -/

private theorem act_local (hrun : RunnerLocal (runner bound)) (object? : Option ObjectRef)
    (action : GuestAction) : Local (act (runner bound) object? action) := by
  cases action with
  | nothing => exact .of_frameless (.pure _)
  | message text =>
    cases object? with
    | none => exact .of_frameless (.pure _)
    | some object => exact .of_frameless ((Frameless.modifyMachine _).bind fun _ => .pure _)
  | raise kind => exact (constructAndUnwind_local hrun kind).wrap some fun _ => rfl
  | throw thrown? => exact (throwObject_local hrun thrown?).wrap some fun _ => rfl

private theorem completion_eq_returned_iff {base depth : Nat} {raised? : Option Handler} :
    completion base depth raised? = .returned ↔ (Exits.exit raised? ≠ .normal → base < depth) := by
  cases raised? with
  | none => simp [completion, Exits.exit]
  | some handler => simp [completion, Exits.exit]

private theorem completion_eq_unwound_iff {base depth : Nat} {raised? : Option Handler}
    {handler : Handler} :
    completion base depth raised? = .unwound handler ↔
      raised? = some handler ∧ depth ≤ base := by
  cases raised? with
  | none => simp [completion]
  | some raised => by_cases hdepth : depth ≤ base <;> simp [completion, hdepth]

section

variable {code : GuestCode} {object? : Option ObjectRef} {start acted : Execution}
  {raised? : Option Handler}

/-- The end of guest code follows from the end of what it did. -/
theorem perform_eq {run : GuestRunner} {outcome : Completion}
    (hact : act run object? code.action (start.enterGuest code) = .ok raised? acted)
    (hcompletion : completion start.thread.depth acted.thread.depth raised? = outcome) :
    perform run code object? start =
      .ok outcome (acted.leaveGuest start.thread.depth outcome) := by
  rw [perform_apply, hact]
  simp only [hcompletion]

private theorem perform_returned (hrun : RunnerLocal (runner bound))
    (hact : act (runner bound) object? code.action (start.enterGuest code) = .ok raised? acted)
    (hcompletion : completion start.thread.depth acted.thread.depth raised? = .returned) :
    (acted.leaveGuest start.thread.depth .returned).thread.frames = start.thread.frames ∧
      ∀ others, perform (runner bound) code object? (start.onFrames others) =
        .ok .returned ((acted.leaveGuest start.thread.depth .returned).onFrames others) := by
  have hended := completion_eq_returned_iff.1 hcompletion
  have hentered : (start.enterGuest code).thread.frames =
      code.frames.reverse ++ start.thread.frames := rfl
  obtain ⟨top, hacted, -, hothers⟩ :=
    act_local hrun object? code.action hentered hact hended
  refine ⟨Thread.frames_truncate_length hacted, ?_⟩
  intro others
  have hagain : act (runner bound) object? code.action ((start.onFrames others).enterGuest code) =
      .ok raised? (acted.onFrames (top ++ others)) := hothers others
  have hreturned : completion others.length (top ++ others).length raised? = .returned := by
    apply completion_eq_returned_iff.2
    intro hexit
    have hdepth := hended hexit
    simp only [Thread.depth, hacted, List.length_append] at hdepth ⊢
    omega
  have hdrop : (top ++ others).drop ((top ++ others).length - others.length) = others := by
    simp
  rw [perform_eq hagain hreturned]
  refine congrArg (EStateM.Result.ok Completion.returned) ?_
  exact (acted.leaveGuest_onFrames _ _ start.thread.depth _).trans
    (congrArg (Execution.onFrames _) hdrop)

private theorem perform_unwound (hrun : RunnerLocal (runner bound)) {above below : List Frame}
    {handler : Handler} (hframes : start.thread.frames = above ++ below)
    (hact : act (runner bound) object? code.action (start.enterGuest code) = .ok raised? acted)
    (hcompletion : completion start.thread.depth acted.thread.depth raised? = .unwound handler)
    (hstays : below.length < acted.thread.depth) :
    ∃ top, acted.thread.frames = top ++ below ∧
      ∀ others, perform (runner bound) code object? (start.onFrames (above ++ others)) =
        .ok (.unwound handler)
          ((acted.leaveGuest start.thread.depth (.unwound handler)).onFrames (top ++ others)) := by
  obtain ⟨rfl, hdepth⟩ := completion_eq_unwound_iff.1 hcompletion
  have hentered : (start.enterGuest code).thread.frames =
      code.frames.reverse ++ above ++ below := by
    rw [List.append_assoc, ← hframes]
    rfl
  obtain ⟨top, hacted, -, hothers⟩ :=
    act_local hrun object? code.action hentered hact fun _ => hstays
  refine ⟨top, hacted, ?_⟩
  intro others
  have hagain : act (runner bound) object? code.action
      ((start.onFrames (above ++ others)).enterGuest code) =
        .ok (some handler) (acted.onFrames (top ++ others)) := by
    rw [← hothers others, List.append_assoc]
    rfl
  have hlength : (top ++ others).length ≤ (above ++ others).length := by
    simp only [Thread.depth, hframes, hacted, List.length_append] at hdepth ⊢
    omega
  have hunwound : completion (above ++ others).length (top ++ others).length (some handler) =
      .unwound handler := completion_eq_unwound_iff.2 ⟨rfl, hlength⟩
  have hdrop : (top ++ others).drop ((top ++ others).length - (above ++ others).length) =
      top ++ others := by
    rw [Nat.sub_eq_zero_of_le hlength, List.drop_zero]
  rw [perform_eq hagain hunwound]
  refine congrArg (EStateM.Result.ok (Completion.unwound handler)) ?_
  exact (acted.leaveGuest_onFrames _ _ start.thread.depth _).trans
    (congrArg (Execution.onFrames _) hdrop)

end

/-- Guest code sees the top of the stack only. -/
theorem perform_local (hrun : RunnerLocal (runner bound)) :
    RunnerLocal (perform (runner bound)) := by
  intro code object? start above below outcome after hframes hperform hstays
  cases hact : act (runner bound) object? code.action (start.enterGuest code) with
  | error halt acted =>
    rw [perform_apply, hact] at hperform
    cases hperform
  | ok raised? acted =>
    cases hcompletion : completion start.thread.depth acted.thread.depth raised? with
    | returned =>
      rw [perform_eq hact hcompletion] at hperform
      cases hperform
      obtain ⟨hleft, hothers⟩ := perform_returned hrun hact hcompletion
      exact ⟨above, hleft.trans hframes, fun _ => rfl, fun others => hothers (above ++ others)⟩
    | unwound handler =>
      rw [perform_eq hact hcompletion] at hperform
      cases hperform
      have hdepth := (completion_eq_unwound_iff.1 hcompletion).2
      have hkept : (acted.leaveGuest start.thread.depth (.unwound handler)).thread.frames =
          acted.thread.frames := by
        rw [Execution.thread_leaveGuest, Thread.truncate]
        exact congrArg acted.thread.frames.drop (Nat.sub_eq_zero_of_le hdepth)
      have hexit : Exits.exit (Completion.unwound handler) ≠ .normal := Exit.noConfusion
      have hacted : below.length < acted.thread.depth := by
        rw [Thread.depth, ← hkept]
        exact hstays hexit
      obtain ⟨top, hleft, hothers⟩ := perform_unwound hrun hframes hact hcompletion hacted
      exact ⟨top, hkept.trans hleft, fun h => absurd h hexit, hothers⟩

end

/-- Guest code sees the top of the stack only, however deep it may be nested. -/
theorem runner_local (bound : Nat) : RunnerLocal (runner bound) := by
  induction bound with
  | zero =>
    intro code object? start above below outcome after _ hrun
    cases hrun
  | succ bound ih => exact perform_local ih

/-- An operation sees the top of the stack only. -/
theorem runWith_local (operation : Operation) (bound : Nat) :
    Local (operation.runWith (runner bound)) := by
  have hrun := runner_local bound
  cases operation with
  | resolve name => exact (resolve_local hrun name).wrap OperationResult.resolution fun _ => rfl
  | resolveConstant ref context =>
    exact (resolveConstant_local hrun ref context).wrap OperationResult.resolution fun _ => rfl
  | unwind object => exact (unwind_local hrun object).wrap OperationResult.handler fun _ => rfl
  | throw object? =>
    exact (throwObject_local hrun object?).wrap OperationResult.handler fun _ => rfl
  | construct kind =>
    exact (construct_local hrun kind).wrap OperationResult.construction fun _ => rfl
  | constructAndUnwind kind =>
    exact (constructAndUnwind_local hrun kind).wrap OperationResult.handler fun _ => rfl

end Dispatch

/-- An operation never looks below the frame that handles its exception: if its result is a handler
above the bottom part of the stack, or is none at all, it has the same result on any other bottom
part, and leaves the same machine and trace and the same frames above that part. An operation that
has no handler as its result does the same on every stack. -/
theorem Operation.run_aboveHandler (operation : Operation) {start after : Execution}
    {above below : List Frame} {result : OperationResult}
    (hframes : start.thread.frames = above ++ below)
    (hrun : operation.run start = .ok result after)
    (hstays : ∀ handler ∈ result.handler?, below.length < after.thread.depth) :
    (∃ top, after.thread.frames = top ++ below ∧
      ∀ others, operation.run (start.onFrames (above ++ others)) =
        .ok result (after.onFrames (top ++ others))) ∧
    (result.handler? = none →
      ∀ frames, operation.run (start.onFrames frames) = .ok result (after.onFrames frames)) := by
  have hlocal := Dispatch.runWith_local operation start.nestingBound
  constructor
  · have hdepth : Exits.exit result ≠ .normal → below.length < after.thread.depth := by
      intro hexit
      rw [ne_eq, OperationResult.exit_eq_normal_iff, ← ne_eq, Option.ne_none_iff_exists'] at hexit
      obtain ⟨handler, hhandler⟩ := hexit
      exact hstays handler hhandler
    obtain ⟨top, hleft, -, hothers⟩ := hlocal hframes hrun hdepth
    exact ⟨top, hleft, hothers⟩
  · intro hhandler frames
    -- All of the stack is replaced here, and nothing stands above it.
    have hexit := OperationResult.exit_eq_normal_iff.2 hhandler
    obtain ⟨top, -, htop, hothers⟩ :=
      hlocal (List.nil_append start.thread.frames).symm hrun (absurd hexit ·)
    have hsame := hothers frames
    rwa [htop hexit] at hsame

/-- A frame that handles the exceptions of a class that has yet to be loaded. -/
def narrowFrame : Frame where
  method := { guardedFrame.method with catches := [⟨0, 8, 10, .ofIndex 1⟩] }
  pc := 4

/-- A thread in that frame, on a machine where the initializer of the class throws an object and
handles it itself. -/
def narrowExecution : Execution where
  machine := { guardedExecution.machine with
    loadable := [{ name := "B", sourceFile := "" }]
    initializers := [⟨"B", ⟨.throw (some ⟨0⟩), [guardedFrame]⟩⟩] }
  thread := {
    guardedExecution.thread with frames := [narrowFrame, guardedFrame, guardedFrame] }

/-- The frame below the handler may be any, though an initializer was run above it. -/
theorem Operation.run_aboveHandler_of_initializer :
    narrowExecution.thread.frames = [narrowFrame, guardedFrame] ++ [guardedFrame] ∧
      ∃ result after, (unwind ⟨0⟩).run narrowExecution = .ok result after ∧
        result.handler? = some ⟨20, 1⟩ ∧ [guardedFrame].length < after.thread.depth ∧
        ∃ top, after.thread.frames = top ++ [guardedFrame] ∧
          ∀ others, (unwind ⟨0⟩).run
              (narrowExecution.onFrames ([narrowFrame, guardedFrame] ++ others)) =
            .ok result (after.onFrames (top ++ others)) := by
  have hframes : narrowExecution.thread.frames =
      [narrowFrame, guardedFrame] ++ [guardedFrame] := rfl
  have hexit : Dispatch.exitOf ((unwind ⟨0⟩).run narrowExecution) = .unwound ⟨20, 1⟩ := by
    decide +kernel
  have hdepth : [guardedFrame].length <
      (Dispatch.finalOf ((unwind ⟨0⟩).run narrowExecution)).thread.depth := by decide +kernel
  refine ⟨hframes, ?_⟩
  cases hrun : (unwind ⟨0⟩).run narrowExecution with
  | error halt after =>
    rw [hrun] at hexit
    cases hexit
  | ok result after =>
    rw [hrun] at hexit hdepth
    have hstays : ∀ handler ∈ result.handler?, [guardedFrame].length < after.thread.depth :=
      fun _ _ => hdepth
    obtain ⟨habove, -⟩ := run_aboveHandler (unwind ⟨0⟩) hframes hrun hstays
    exact ⟨result, after, rfl, OperationResult.exit_eq_unwound_iff.1 hexit, hdepth, habove⟩

end ExceptionDispatch
