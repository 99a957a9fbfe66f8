import ExceptionDispatch.Proofs.FatalErrors
import ExceptionDispatch.Proofs.Locality
import ExceptionDispatch.Proofs.SharedState
import ExceptionDispatch.Proofs.Transparency

/-!
# Exceptions that replace others

An exception that comes out of a constructor or an initializer takes the place of the one that was
to be constructed. It is dispatched once, from the frames of the guest code, and goes where it would
have gone if the caller had raised it, with those frames popped as well; the exception that it
replaces has no effect on that. Main statement: `Operation.constructAndUnwind_replaced`.
-/

namespace ExceptionDispatch

/-! ### Searches of parts of a stack -/

namespace Machine

variable {machine : Machine} {thrown : ClassKey}

/-- No entry of a frame handles the exceptions of a class. -/
def PassesKey (machine : Machine) (thrown : ClassKey) (frame : Frame) : Prop :=
  frame.covering.find? (machine.matchesKey thrown frame.method) = none

private theorem searched_cons_of_passesKey {frame : Frame} (hframe : machine.PassesKey thrown frame)
    (diagnostic : String) (popped : Nat) (callers : List Frame) :
    machine.searched thrown diagnostic popped (frame :: callers) =
      machine.searched thrown diagnostic (popped + 1) callers := by
  rw [searched, show frame.covering.find? (machine.matchesKey thrown frame.method) = none from
    hframe]

/-- Frames that handle nothing are popped. -/
theorem searched_append {above : List Frame}
    (habove : ∀ frame ∈ above, machine.PassesKey thrown frame)
    (diagnostic : String) (popped : Nat) (below : List Frame) :
    machine.searched thrown diagnostic popped (above ++ below) =
      machine.searched thrown diagnostic (popped + above.length) below := by
  induction above generalizing popped with
  | nil => rfl
  | cons frame rest ih =>
    obtain ⟨hframe, hrest⟩ := List.forall_mem_cons.1 habove
    rw [List.cons_append, searched_cons_of_passesKey hframe, ih hrest, List.length_cons,
      Nat.add_assoc, Nat.add_comm 1]

/-- Either a frame of the stack handles the exception, whatever was popped before, or no frame does
and the exception is uncaught. -/
theorem searched_cases (machine : Machine) (thrown : ClassKey) (frames : List Frame) :
    (∃ pc count left, left.length ≤ frames.length ∧ ∀ diagnostic popped,
        machine.searched thrown diagnostic popped frames = ⟨.ok ⟨pc, popped + count⟩, left⟩) ∨
      (∀ frame ∈ frames, machine.PassesKey thrown frame) ∧ ∀ diagnostic popped,
        machine.searched thrown diagnostic popped frames =
          ⟨.error (.fatal (.uncaught diagnostic)), []⟩ := by
  induction frames with
  | nil => exact .inr ⟨by simp, fun _ _ => rfl⟩
  | cons frame callers ih =>
    cases hfind : frame.covering.find? (machine.matchesKey thrown frame.method) with
    | some entry =>
      refine .inl ⟨entry.handlerPc, 0, { frame with pc := entry.handlerPc } :: callers,
        Nat.le_refl _, ?_⟩
      intro diagnostic popped
      rw [searched, hfind]
      rfl
    | none =>
      rcases ih with ⟨pc, count, left, hlength, hsearched⟩ | ⟨hpass, hsearched⟩
      · refine .inl ⟨pc, 1 + count, left, Nat.le_succ_of_le hlength, ?_⟩
        intro diagnostic popped
        rw [searched_cons_of_passesKey hfind, hsearched, Nat.add_assoc]
      · refine .inr ⟨List.forall_mem_cons.2 ⟨hfind, hpass⟩, ?_⟩
        intro diagnostic popped
        rw [searched_cons_of_passesKey hfind, hsearched]

private theorem length_frames_searched_le (machine : Machine) (thrown : ClassKey)
    (diagnostic : String) (popped : Nat) (frames : List Frame) :
    (machine.searched thrown diagnostic popped frames).frames.length ≤ frames.length := by
  rcases machine.searched_cases thrown frames with
    ⟨pc, count, left, hlength, hsearched⟩ | ⟨-, hsearched⟩
  · rw [hsearched]
    exact hlength
  · rw [hsearched]
    exact Nat.zero_le _

private theorem descriptorOf?_key (machine : Machine) (name : String) :
    machine.descriptorOf? (machine.key name) = machine.described? name := by
  rw [key, described?]
  cases machine.registry.idOf? name <;> rfl

private theorem exists_described?_of_not_lacks {name : String} (hname : ¬ machine.Lacks name) :
    ∃ descriptor, machine.described? name = some descriptor := by
  rwa [lacks_iff, ← ne_eq, Option.ne_none_iff_exists'] at hname

private theorem exists_unwound?_eq {thread : Thread} (hthread : thread.FitsIn machine)
    {name : String} (hname : ¬ machine.Lacks name) :
    ∃ diagnostic, machine.unwound? thread (machine.key name) =
      some (machine.searched (machine.key name) diagnostic 0 thread.frames) := by
  obtain ⟨descriptor, hdescriptor⟩ := exists_described?_of_not_lacks hname
  have horigin := Diagnostic.origin_lt hthread.classId hthread.frames
  obtain ⟨owner, howner⟩ := Option.isSome_iff_exists.1 (Registry.get?_isSome_iff.2 horigin)
  refine ⟨Diagnostic.text thread.name descriptor.name owner.name (Diagnostic.origin thread).2.1
    owner.sourceFile (Diagnostic.origin thread).2.2, ?_⟩
  simp only [unwound?, descriptorOf?_key, hdescriptor, howner, Option.bind_eq_bind,
    Option.bind_some, Option.pure_def]

private theorem raised?_eq {thread : Thread} {kind : Builtin}
    (hdepth : thread.constructionDepth < machine.settings.maxConstructionDepth)
    (hkind : ¬ machine.Lacks kind.className) :
    machine.raised? thread kind = machine.unwound? thread (machine.key kind.className) := by
  obtain ⟨descriptor, hdescriptor⟩ := exists_described?_of_not_lacks hkind
  rw [raised?]
  simp only [if_neg (UInt16.not_le.2 hdepth), hdescriptor]

end Machine

/-! ### Machines without guest code to run -/

/-- The initializers of a machine have been run, and its constructors have run out. -/
structure Machine.Spent (machine : Machine) : Prop where
  initializers : machine.initializers = []
  constructors : ∀ rule ∈ machine.constructors, rule.remaining? = some 0

private theorem ConstructorRule.eq_some_zero_of_rel {left : Option Nat}
    (h : Option.Rel (· ≥ ·) (some 0) left) : left = some 0 := by
  cases h with
  | some hle => rw [Nat.le_zero.1 hle]

private theorem ConstructorRule.remaining?_of_forall₂ {old new : List ConstructorRule}
    (h : List.Forall₂ RunsOutTo old new) (hold : ∀ rule ∈ old, rule.remaining? = some 0) :
    ∀ rule ∈ new, rule.remaining? = some 0 := by
  induction h with
  | nil => exact hold
  | cons hrule _ ih =>
    obtain ⟨hfirst, hrest⟩ := List.forall_mem_cons.1 hold
    refine List.forall_mem_cons.2 ⟨?_, ih hrest⟩
    have hremaining := hrule.remaining?
    rw [hfirst] at hremaining
    exact eq_some_zero_of_rel hremaining

namespace Machine.Spent

variable {machine : Machine}

private theorem takeInitializer?_eq_none (h : machine.Spent) (name : String) :
    machine.takeInitializer? name = none := by
  rw [takeInitializer?, h.initializers]
  rfl

private theorem takeConstructor?_eq_none (h : machine.Spent) (className : String) :
    machine.takeConstructor? className = none := by
  rw [takeConstructor?, Option.map_eq_none_iff, ConstructorRule.spendFirst?_eq_none_iff]
  intro rule hrule
  simp [ConstructorRule.applies, h.constructors rule hrule]

end Machine.Spent

namespace Course

variable {bound raises : Nat} {object? : Option ObjectRef} {start finish : Execution} {exit : Exit}

private theorem spent (h : Course bound object? raises start exit finish)
    (hspent : start.machine.Spent) : finish.machine.Spent where
  initializers := by
    have hsublist := h.keeps.initializers
    rwa [hspent.initializers, List.sublist_nil] at hsublist
  constructors := ConstructorRule.remaining?_of_forall₂
    (Machine.constructors_of_changes h.changes) hspent.constructors

/-- Where no guest code is left to run, none begins and none is nested too deep. -/
theorem quiet_of_spent (h : Course bound object? raises start exit finish)
    (hspent : start.machine.Spent) :
    finish.trace.unreturned = start.trace.unreturned ∧
      exit ≠ .halted (.fault .nestingExceeded) := by
  induction h with
  | refl | load | message => exact ⟨rfl, Exit.noConfusion⟩
  | caught => exact ⟨Execution.unreturned_record_eq _ rfl, Exit.noConfusion⟩
  | uncaught | bootstrap | constructionDepth => exact ⟨rfl, fun hexit => by cases hexit⟩
  | fault _ hfault =>
    refine ⟨rfl, ?_⟩
    rintro ⟨⟩
    exact hfault
  | trans hfirst _ ihfirst ihsecond =>
    obtain ⟨hopen, hexit⟩ := ihsecond (hfirst.spent hspent)
    exact ⟨hopen.trans (ihfirst hspent).1, hexit⟩
  | record event _ _ hguest _ ih =>
    rw [Execution.unreturned_record_eq _ hguest]
    exact ih hspent
  | initializer _ htake | initializerTooDeep _ htake =>
    exact absurd ((hspent.takeInitializer?_eq_none _).symm.trans htake) nofun
  | construct =>
    rw [Execution.unreturned_leaveConstructor, Execution.unreturned_beginConstruction]
    exact ⟨rfl, Exit.noConfusion⟩
  | @constructor _ _ _ _ start kind id descriptor _ _ _ _ _ _ _ _ htake
  | @constructorTooDeep _ _ start kind id descriptor _ _ _ _ _ htake =>
    have hbegun : (start.beginConstruction kind id descriptor).machine.Spent :=
      ⟨hspent.initializers, hspent.constructors⟩
    have hnone := hbegun.takeConstructor?_eq_none descriptor.name
    exact absurd (hnone.symm.trans htake) nofun
  | popped _ _ _ _ ih =>
    obtain ⟨hopen, hexit⟩ := ih hspent
    exact ⟨hopen, fun h => hexit (Exit.addPopped_eq_halted_iff.1 h)⟩

end Course

namespace Dispatch

variable {α β γ : Type}

private theorem settled_of_spent [Exits α] {bound raises : Nat} {object? : Option ObjectRef}
    {start : Execution} {result : EStateM.Result Halt Execution α}
    (h : Follows bound object? raises start result) (hspent : start.machine.Spent) :
    Settled start result := by
  intro _
  obtain ⟨hopen, hexit⟩ := h.quiet_of_spent hspent
  exact ⟨Int.le_of_eq hopen, hexit⟩

/-! ### Parts that end as others do -/

/-- Two parts of dispatch end in the same way, with the same frames left. -/
def EndsLike [Exits α] [Exits β] (first : EStateM.Result Halt Execution α)
    (second : EStateM.Result Halt Execution β) : Prop :=
  exitOf first = exitOf second ∧ (finalOf first).thread.frames = (finalOf second).thread.frames

namespace EndsLike

private theorem trans [Exits α] [Exits β] [Exits γ] {first : EStateM.Result Halt Execution α}
    {second : EStateM.Result Halt Execution β} {third : EStateM.Result Halt Execution γ}
    (hfirst : EndsLike first second) (hsecond : EndsLike second third) : EndsLike first third :=
  ⟨hfirst.1.trans hsecond.1, hfirst.2.trans hsecond.2⟩

private theorem conclusionOf_eq {first second : EStateM.Result Halt Execution Handler}
    (h : EndsLike first second) : conclusionOf first = conclusionOf second := by
  obtain ⟨hexit, hframes⟩ := h
  cases first with
  | ok handler after =>
    cases second with
    | ok other left =>
      cases hexit
      exact congrArg (Conclusion.mk _) hframes
    | error halt left => cases hexit
  | error halt after =>
    cases second with
    | ok other left => cases hexit
    | error other left =>
      cases hexit
      exact congrArg (Conclusion.mk _) hframes

end EndsLike

private theorem exitOf_handler_ne_normal (result : EStateM.Result Halt Execution Handler) :
    exitOf result ≠ .normal := by
  cases result <;> exact Exit.noConfusion

section

variable {run : GuestRunner} {start : Execution} {kind : Builtin}

private theorem perform_endsLike {code : GuestCode} (object? : Option ObjectRef)
    (haction : code.action = .raise kind)
    (hdepth : (finalOf (constructAndUnwind run kind (start.enterGuest code))).thread.depth ≤
      start.thread.depth) :
    EndsLike (perform run code object? start)
      (constructAndUnwind run kind (start.enterGuest code)) := by
  have hact := act_apply run object? code.action (start.enterGuest code)
  rw [haction] at hact
  cases hrun : constructAndUnwind run kind (start.enterGuest code) with
  | error halt acted =>
    simp only [hrun] at hact
    rw [perform_apply, haction, hact]
    exact ⟨rfl, rfl⟩
  | ok handler acted =>
    simp only [hrun] at hact hdepth
    rw [← haction] at hact
    rw [perform_eq hact (if_pos hdepth)]
    refine ⟨rfl, ?_⟩
    exact congrArg acted.thread.frames.drop (Nat.sub_eq_zero_of_le hdepth)

private theorem resolve_endsLike {name : String} {code : GuestCode} {machine : Machine}
    (hid : start.machine.registry.idOf? name = none)
    (htake : start.machine.takeInitializer? name = some (code, machine))
    (hexit : exitOf (run code none { start with machine }) ≠ .normal) :
    EndsLike (resolve run name start) (run code none { start with machine }) := by
  simp only [resolve_apply, hid, htake]
  cases hrun : run code none { start with machine } with
  | error halt after => exact ⟨rfl, rfl⟩
  | ok outcome after =>
    rw [hrun] at hexit
    cases outcome with
    | returned => exact absurd rfl hexit
    | unwound handler => exact ⟨rfl, rfl⟩

private theorem construct_endsLike_resolve
    (hdepth : start.thread.constructionDepth < start.machine.settings.maxConstructionDepth)
    (hexit : exitOf (resolve run kind.className start) ≠ .normal) :
    EndsLike (construct run kind start) (resolve run kind.className start) := by
  simp only [construct_apply, if_neg (UInt16.not_le.2 hdepth)]
  cases hresolve : resolve run kind.className start with
  | error halt after => exact ⟨rfl, rfl⟩
  | ok resolution after =>
    rw [hresolve] at hexit
    cases resolution with
    | loaded | missing => exact absurd rfl hexit
    | unwound handler => exact ⟨rfl, rfl⟩

private theorem construction_endsLike {id : ClassId} {descriptor : ClassDescriptor}
    {code : GuestCode} {machine : Machine}
    (htake : (start.beginConstruction kind id descriptor).machine.takeConstructor?
      descriptor.name = some (code, machine)) :
    EndsLike (construction run kind id descriptor start)
      (run code (some start.nextObject)
        { start.beginConstruction kind id descriptor with machine }) := by
  rw [construction]
  simp only [htake]
  cases run code (some start.nextObject)
    { start.beginConstruction kind id descriptor with machine } <;> exact ⟨rfl, rfl⟩

private theorem construct_endsLike_construction {middle : Execution} {id : ClassId}
    {descriptor : ClassDescriptor}
    (hdepth : start.thread.constructionDepth < start.machine.settings.maxConstructionDepth)
    (hresolve : resolve run kind.className start = .ok (.loaded id) middle)
    (hget : middle.machine.registry.get? id = some descriptor)
    (hexit : exitOf (construction run kind id descriptor middle) ≠ .normal) :
    EndsLike (construct run kind start) (construction run kind id descriptor middle) := by
  simp only [construct_apply, if_neg (UInt16.not_le.2 hdepth), hresolve, hget]
  cases hrun : construction run kind id descriptor middle with
  | error halt after => exact ⟨rfl, rfl⟩
  | ok outcome after =>
    rw [hrun] at hexit
    cases outcome with
    | returned => exact absurd rfl hexit
    | unwound handler => exact ⟨rfl, rfl⟩

/-- An exception that is not constructed is not dispatched. -/
theorem constructAndUnwind_endsLike (hexit : exitOf (construct run kind start) ≠ .normal) :
    EndsLike (constructAndUnwind run kind start) (construct run kind start) := by
  rw [constructAndUnwind_apply]
  cases hrun : construct run kind start with
  | error halt after => exact ⟨rfl, rfl⟩
  | ok outcome after =>
    rw [hrun] at hexit
    cases outcome with
    | finished object => exact absurd rfl hexit
    | unwound handler => exact ⟨rfl, rfl⟩

end

end Dispatch

/-! ### The only guest code -/

/-- The only guest code of a machine is the initializer of a built-in exception's class, which is
not registered, or a constructor that runs once, for objects of that class or of any. -/
inductive Machine.RunsOnly (machine : Machine) (kind : Builtin) (code : GuestCode) : Prop
  | initializer (hid : machine.registry.idOf? kind.className = none)
      (hinitializers : machine.initializers = [⟨kind.className, code⟩])
      (hconstructors : machine.constructors = [])
  | constructor {descriptor : ClassDescriptor} (className? : Option String)
      (hdescribed : machine.described? kind.className = some descriptor)
      (hclass : className? = none ∨ className? = some descriptor.name)
      (hinitializers : machine.initializers = [])
      (hconstructors : machine.constructors = [⟨className?, some 1, code⟩])

private theorem Machine.takeConstructor?_of_once {machine : Machine} {className : String}
    {className? : Option String} {code : GuestCode}
    (hclass : className? = none ∨ className? = some className)
    (hconstructors : machine.constructors = [⟨className?, some 1, code⟩]) :
    machine.takeConstructor? className =
      some (code, { machine with constructors := [⟨className?, some 0, code⟩] }) := by
  have happlies : (ConstructorRule.mk className? (some 1) code).applies className = true := by
    rcases hclass with rfl | rfl <;> simp [ConstructorRule.applies]
  rw [takeConstructor?, hconstructors, ConstructorRule.spendFirst?, if_pos happlies]
  rfl

/-- An execution is one in which the guest code of a machine is about to run on a thread, as the
last that is left of it: nothing is missing from the machine or the thread, and at most one more
exception is under construction. -/
structure Execution.Reaches (start reached : Execution) : Prop where
  spent : reached.machine.Spent
  grown : reached.Extends start.machine
  thread : ∃ depth, reached.thread = { start.thread with constructionDepth := depth } ∧
    depth.toNat ≤ start.thread.constructionDepth.toNat + 1

namespace Dispatch

section

variable {bound : Nat} {start : Execution} {kind : Builtin} {code : GuestCode}

/-- The initializer of an exception's class is run before the exception is constructed, and the
construction ends with it if it does not return. -/
theorem constructAndUnwind_endsLike_initializer
    (hdepth : start.thread.constructionDepth < start.machine.settings.maxConstructionDepth)
    (hid : start.machine.registry.idOf? kind.className = none)
    (hinitializers : start.machine.initializers = [⟨kind.className, code⟩])
    (hconstructors : start.machine.constructors = []) :
    ∃ reached, start.Reaches reached ∧ ∀ run : GuestRunner,
      exitOf (run code none reached) ≠ .normal →
        EndsLike (constructAndUnwind run kind start) (run code none reached) := by
  have htake : start.machine.takeInitializer? kind.className =
      some (code, { start.machine with initializers := [] }) := by
    rw [Machine.takeInitializer?, hinitializers]
    simp
  refine ⟨{ start with machine := { start.machine with initializers := [] } }, ?_, ?_⟩
  · refine ⟨⟨rfl, ?_⟩, ⟨(Machine.Changes.initializer htake).growsTo, rfl⟩, _, rfl,
      Nat.le_succ _⟩
    simp [hconstructors]
  · intro run hexit
    have hresolve := resolve_endsLike hid htake hexit
    rw [← hresolve.1] at hexit
    have hconstruct := construct_endsLike_resolve hdepth hexit
    rw [← hconstruct.1] at hexit
    exact (constructAndUnwind_endsLike hexit).trans (hconstruct.trans hresolve)

private theorem exists_find_eq {name : String} {descriptor : ClassDescriptor}
    (hdescribed : start.machine.described? name = some descriptor) :
    ∃ id machine, find name start = .ok (.loaded id) { start with machine } ∧
      machine.registry.get? id = some descriptor ∧ start.machine.GrowsTo machine ∧
      machine.settings = start.machine.settings ∧
      machine.initializers = start.machine.initializers ∧
      machine.constructors = start.machine.constructors := by
  cases hid : start.machine.registry.idOf? name with
  | some id =>
    refine ⟨id, start.machine, ?_, ?_, .refl _, rfl, rfl, rfl⟩
    · rw [find_apply, hid]
    · rwa [Machine.described?, hid] at hdescribed
  | none =>
    cases hload : start.machine.load? name with
    | none =>
      rw [Machine.described?_eq_none hid hload] at hdescribed
      cases hdescribed
    | some found =>
      obtain ⟨id, machine⟩ := found
      have hgrows := (Machine.Changes.load hid hload).growsTo
      have hnow := (hgrows.described name).trans hdescribed
      rw [Machine.described?, Machine.idOf?_of_load? hload] at hnow
      refine ⟨id, machine, ?_, hnow, hgrows, ?_⟩
      · rw [find_apply, hid]
        simp only [hload]
      · obtain ⟨_, -, -, rfl⟩ := Machine.eq_of_load? hload
        exact ⟨rfl, rfl, rfl⟩

/-- The constructor of an exception is run on the new object, and the exception is not dispatched
if its constructor does not return. -/
theorem constructAndUnwind_endsLike_constructor {descriptor : ClassDescriptor}
    {className? : Option String}
    (hdepth : start.thread.constructionDepth < start.machine.settings.maxConstructionDepth)
    (hdescribed : start.machine.described? kind.className = some descriptor)
    (hclass : className? = none ∨ className? = some descriptor.name)
    (hinitializers : start.machine.initializers = [])
    (hconstructors : start.machine.constructors = [⟨className?, some 1, code⟩]) :
    ∃ reached object, start.Reaches reached ∧ ∀ run : GuestRunner,
      exitOf (run code (some object) reached) ≠ .normal →
        EndsLike (constructAndUnwind run kind start) (run code (some object) reached) := by
  obtain ⟨id, loaded, hfind, hget, hgrows, hsettings, hinits, hcons⟩ :=
    exists_find_eq hdescribed
  let middle : Execution := { start with machine := loaded }
  let begun := middle.beginConstruction kind id descriptor
  let spent : Machine := { begun.machine with constructors := [⟨className?, some 0, code⟩] }
  have htake : begun.machine.takeConstructor? descriptor.name = some (code, spent) :=
    Machine.takeConstructor?_of_once hclass (hcons.trans hconstructors)
  have hresolve (run : GuestRunner) : resolve run kind.className start = .ok (.loaded id) middle :=
    (resolve_eq_find run kind.className hinitializers).trans hfind
  refine ⟨{ begun with machine := spent }, middle.nextObject, ?_, ?_⟩
  · have hallocated := (Machine.Changes.allocation hget).growsTo
    have htaken := (Machine.Changes.constructor htake).growsTo
    refine ⟨⟨hinits.trans hinitializers, ?_⟩, ⟨hgrows.trans (hallocated.trans htaken), hsettings⟩,
      start.thread.constructionDepth + 1, rfl, ?_⟩
    · exact List.forall_mem_singleton.2 rfl
    · rw [UInt16.toNat_add]
      exact Nat.mod_le _ _
  · intro run hexit
    have hconstruction : EndsLike (construction run kind id descriptor middle)
        (run code (some middle.nextObject) { begun with machine := spent }) :=
      construction_endsLike htake
    rw [← hconstruction.1] at hexit
    have hconstruct := construct_endsLike_construction hdepth (hresolve run) hget hexit
    rw [← hconstruct.1] at hexit
    exact (constructAndUnwind_endsLike hexit).trans (hconstruct.trans hconstruction)

private theorem exists_reaches_of_runsOnly
    (hdepth : start.thread.constructionDepth < start.machine.settings.maxConstructionDepth)
    (hrule : start.machine.RunsOnly kind code) :
    ∃ reached object?, start.Reaches reached ∧ ∀ run : GuestRunner,
      exitOf (run code object? reached) ≠ .normal →
        EndsLike (constructAndUnwind run kind start) (run code object? reached) := by
  cases hrule with
  | initializer hid hinitializers hconstructors =>
    obtain ⟨reached, hreached, hends⟩ :=
      constructAndUnwind_endsLike_initializer hdepth hid hinitializers hconstructors
    exact ⟨reached, none, hreached, hends⟩
  | constructor className? hdescribed hclass hinitializers hconstructors =>
    obtain ⟨reached, object, hreached, hends⟩ :=
      constructAndUnwind_endsLike_constructor hdepth hdescribed hclass hinitializers hconstructors
    exact ⟨reached, some object, hreached, hends⟩

private theorem conclusionOf_guest {reached : Execution} {conclusion : Conclusion Handler}
    (hrooted : start.machine.Rooted) (hreached : start.Reaches reached)
    (hlimit : start.thread.constructionDepth.toNat + 1 <
      start.machine.settings.maxConstructionDepth.toNat)
    (hkind : ¬ start.machine.Lacks kind.className)
    (hfits : (start.onFrames (code.frames.reverse ++ start.thread.frames)).thread.FitsIn
      start.machine)
    (hknown : start.machine.unwound?
      (start.onFrames (code.frames.reverse ++ start.thread.frames)).thread
      (start.machine.key kind.className) = some conclusion) :
    conclusionOf (constructAndUnwind (runner bound) kind (reached.enterGuest code)) =
      conclusion := by
  obtain ⟨hspent, hgrown, depth, hthread, hle⟩ := hreached
  have hentered : (reached.enterGuest code).thread =
      { (start.onFrames (code.frames.reverse ++ start.thread.frames)).thread with
        constructionDepth := depth } := by
    rw [Execution.thread_enterGuest, hthread]
    rfl
  have hdepth : (reached.enterGuest code).thread.constructionDepth <
      start.machine.settings.maxConstructionDepth := by
    rw [hentered, UInt16.lt_iff_toNat_lt]
    exact Nat.lt_of_le_of_lt hle hlimit
  have hfollows : Follows bound none 1 (reached.enterGuest code)
      (constructAndUnwind (runner bound) kind (reached.enterGuest code)) :=
    constructAndUnwind_follows (guestsFollow bound) kind _
  have hpushed : (reached.enterGuest code).thread.FitsIn start.machine := by
    rw [hentered]
    exact ⟨hfits.classId, hfits.frames⟩
  have hgrowing : (reached.enterGuest code).Extends start.machine := ⟨hgrown.1, hgrown.2⟩
  have hraised := constructAndUnwind_settled hrooted hgrowing hpushed
    (settled_of_spent hfollows hspent)
  rw [Machine.raised?_eq hdepth hkind, hentered] at hraised
  exact Option.some.inj (hraised.symm.trans hknown)

end

end Dispatch

/-! ### Operations -/

private theorem Machine.RunsOnly.mem_guestCodes {machine : Machine} {kind : Builtin}
    {code : GuestCode} (h : machine.RunsOnly kind code) : code ∈ machine.guestCodes := by
  cases h with
  | initializer _ hinitializers _ => simp [guestCodes, hinitializers]
  | constructor _ _ _ _ hconstructors => simp [guestCodes, hconstructors]

private theorem Execution.WellFormed.onFrames {start : Execution} (hstart : start.WellFormed)
    {frames : List Frame}
    (hframes : ∀ frame ∈ frames, frame.method.owner.index < start.machine.registry.size) :
    (start.onFrames frames).thread.FitsIn start.machine :=
  ⟨hstart.thread.classId, hframes⟩

private theorem Execution.WellFormed.owner_lt {start : Execution} (hstart : start.WellFormed)
    {code : GuestCode} (hcode : code ∈ start.machine.guestCodes) :
    ∀ frame ∈ code.frames.reverse, frame.method.owner.index < start.machine.registry.size := by
  intro frame hframe
  exact (hstart.machine.guestCodes code hcode).frames frame (List.mem_reverse.1 hframe)

namespace Operation

private theorem conclusionOf_run_withoutRules {start : Execution} {kind : Builtin}
    {frames : List Frame} {conclusion : Conclusion Handler} (hmachine : start.machine.WellFormed)
    (hdepth : start.thread.constructionDepth < start.machine.settings.maxConstructionDepth)
    (hkind : ¬ start.machine.Lacks kind.className)
    (hfits : (start.onFrames frames).thread.FitsIn start.machine)
    (hknown : start.machine.unwound? (start.onFrames frames).thread
      (start.machine.key kind.className) = some conclusion) :
    Dispatch.conclusionOf ((constructAndUnwind kind).run (start.withoutRules.onFrames frames)) =
      conclusion.map .handler := by
  let bare := start.withoutRules.onFrames frames
  have hsettled : Dispatch.Settled bare ((constructAndUnwind kind).run bare) :=
    Dispatch.settled_of_spent (run_follows _ bare) ⟨rfl, fun _ hrule => by cases hrule⟩
  have hextends : bare.Extends start.machine :=
    ⟨⟨.refl _, fun _ => rfl, List.prefix_rfl, List.prefix_rfl⟩, rfl⟩
  have hdispatches : (constructAndUnwind kind).Dispatches := trivial
  have hsame := conclusion?_eq hmachine hextends rfl hfits hdispatches hsettled
  have hbelow : bare.thread.constructionDepth < start.machine.settings.maxConstructionDepth :=
    hdepth
  have hraised := (Machine.raised?_eq hbelow hkind).trans hknown
  rw [Machine.conclusion?, hraised, Option.map_some] at hsame
  exact (Option.some.inj hsame).symm

private theorem passes_of_uncaught {start : Execution} {kind : Builtin} {frames : List Frame}
    {diagnostic : String} (hmachine : start.machine.WellFormed)
    (hdepth : start.thread.constructionDepth < start.machine.settings.maxConstructionDepth)
    (hkind : ¬ start.machine.Lacks kind.className)
    (hfits : (start.onFrames frames).thread.FitsIn start.machine)
    (huncaught : (Dispatch.conclusionOf ((constructAndUnwind kind).run
      (start.withoutRules.onFrames frames))).outcome = .error (.fatal (.uncaught diagnostic))) :
    ∀ frame ∈ frames, start.machine.PassesKey (start.machine.key kind.className) frame := by
  obtain ⟨own, hknown⟩ := Machine.exists_unwound?_eq hfits hkind
  rw [conclusionOf_run_withoutRules hmachine hdepth hkind hfits hknown] at huncaught
  rcases start.machine.searched_cases (start.machine.key kind.className) frames with
    ⟨pc, count, left, -, hsearched⟩ | ⟨hpass, -⟩
  · rw [Execution.frames_onFrames, hsearched] at huncaught
    cases huncaught
  · exact hpass

/-- An exception raised by the only guest code goes where it was known to go from there, if it gets
past the frames of the guest code. -/
theorem conclusionOf_run_runsOnly {start : Execution} {first second : Builtin} {code : GuestCode}
    {conclusion : Conclusion Handler} (hstart : start.WellFormed)
    (hlimit : start.thread.constructionDepth.toNat + 1 <
      start.machine.settings.maxConstructionDepth.toNat)
    (hsecond : ¬ start.machine.Lacks second.className) (haction : code.action = .raise second)
    (hrule : start.machine.RunsOnly first code)
    (hknown : start.machine.unwound?
      (start.onFrames (code.frames.reverse ++ start.thread.frames)).thread
      (start.machine.key second.className) = some conclusion)
    (hlength : conclusion.frames.length ≤ start.thread.depth) :
    Dispatch.conclusionOf ((constructAndUnwind first).run start) = conclusion.map .handler := by
  have hdepth : start.thread.constructionDepth < start.machine.settings.maxConstructionDepth := by
    rw [UInt16.lt_iff_toNat_lt]
    omega
  have hfits := hstart.onFrames (List.forall_mem_append.2
    ⟨hstart.owner_lt hrule.mem_guestCodes, hstart.thread.frames⟩)
  obtain ⟨reached, object?, hreached, hends⟩ := Dispatch.exists_reaches_of_runsOnly hdepth hrule
  obtain ⟨bound, hbound⟩ : ∃ bound, start.nestingBound = bound + 1 := by
    apply Nat.exists_eq_succ_of_ne_zero
    rw [Execution.nestingBound]
    omega
  let inner :=
    Dispatch.constructAndUnwind (Dispatch.runner bound) second (reached.enterGuest code)
  have hinner : Dispatch.conclusionOf inner = conclusion :=
    Dispatch.conclusionOf_guest hstart.machine.toRooted hreached hlimit hsecond hfits hknown
  have hleft : (Dispatch.finalOf inner).thread.depth ≤ reached.thread.depth := by
    obtain ⟨-, -, depth, hthread, -⟩ := hreached
    rw [hthread, Thread.depth, ← Dispatch.frames_conclusionOf, hinner]
    exact hlength
  have hperform := Dispatch.perform_endsLike object? haction hleft
  have hexit : Dispatch.exitOf (Dispatch.runner (bound + 1) code object? reached) ≠ .normal := by
    rw [Dispatch.runner, hperform.1]
    exact Dispatch.exitOf_handler_ne_normal _
  have houter := (hends _ hexit).trans hperform
  have hrun : (constructAndUnwind first).run start =
      (Dispatch.constructAndUnwind (Dispatch.runner (bound + 1)) first >>=
        fun handler => pure (OperationResult.handler handler)) start := by
    rw [← hbound]
    rfl
  rw [hrun, Dispatch.conclusionOf_wrap, houter.conclusionOf_eq, hinner]

private theorem exists_searched_of_runsOnly {start : Execution} {first second : Builtin}
    {code : GuestCode} {diagnostic : String} (hstart : start.WellFormed)
    (hlimit : start.thread.constructionDepth.toNat + 1 <
      start.machine.settings.maxConstructionDepth.toNat)
    (hsecond : ¬ start.machine.Lacks second.className) (haction : code.action = .raise second)
    (hrule : start.machine.RunsOnly first code)
    (hunhandled : (Dispatch.conclusionOf ((constructAndUnwind second).run
      (start.withoutRules.onFrames code.frames.reverse))).outcome =
        .error (.fatal (.uncaught diagnostic))) :
    let searched (raised : String) (popped : Nat) : Conclusion OperationResult :=
      (start.machine.searched (start.machine.key second.className) raised popped
        start.thread.frames).map .handler
    ∃ raiser caller,
      Dispatch.conclusionOf ((constructAndUnwind first).run start) =
        searched raiser code.frames.length ∧
      Dispatch.conclusionOf ((constructAndUnwind second).run
        (start.withoutRules.onFrames (code.frames.reverse ++ start.thread.frames))) =
          searched raiser code.frames.length ∧
      Dispatch.conclusionOf ((constructAndUnwind second).run start.withoutRules) =
        searched caller 0 := by
  intro searched
  have hbelow : start.thread.constructionDepth < start.machine.settings.maxConstructionDepth := by
    rw [UInt16.lt_iff_toNat_lt]
    omega
  have howners := hstart.owner_lt hrule.mem_guestCodes
  have hwhole := hstart.onFrames (List.forall_mem_append.2 ⟨howners, hstart.thread.frames⟩)
  obtain ⟨caller, hcaller⟩ := Machine.exists_unwound?_eq hstart.thread hsecond
  obtain ⟨raiser, hraiser⟩ := Machine.exists_unwound?_eq hwhole hsecond
  -- The frames of the guest code handle nothing, so the search goes on below them.
  have hpass := passes_of_uncaught hstart.machine hbelow hsecond (hstart.onFrames howners)
    hunhandled
  rw [Execution.frames_onFrames, Machine.searched_append hpass, Nat.zero_add,
    List.length_reverse] at hraiser
  refine ⟨raiser, caller, ?_, ?_, ?_⟩
  · exact conclusionOf_run_runsOnly hstart hlimit hsecond haction hrule hraiser
      (Machine.length_frames_searched_le _ _ _ _ _)
  · exact conclusionOf_run_withoutRules hstart.machine hbelow hsecond hwhole hraiser
  · exact conclusionOf_run_withoutRules hstart.machine hbelow hsecond hstart.thread hcaller

/-- An exception that comes out of the constructor or the initializer of another one replaces it
just as if the caller had raised it. Let the only guest code be the initializer of an exception's
class or a constructor of it that runs once, and let it raise a second exception that its own frames
do not handle. Constructing and dispatching the first exception then comes to what it comes to for
the second one without any rules: to the same handler, with the frames of the guest code popped as
well, and with the same frames left, or to an uncaught exception. The diagnostic is that of the
second exception raised on the frames of the guest code. -/
theorem constructAndUnwind_replaced {start : Execution} {first second : Builtin}
    {code : GuestCode} {diagnostic : String} (hstart : start.WellFormed)
    (hdepth : start.thread.constructionDepth = 0)
    (hlimit : 2 ≤ start.machine.settings.maxConstructionDepth)
    (hsecond : ¬ start.machine.Lacks second.className)
    (haction : code.action = .raise second) (hrule : start.machine.RunsOnly first code)
    (hunhandled : (Dispatch.conclusionOf ((constructAndUnwind second).run
      (start.withoutRules.onFrames code.frames.reverse))).outcome =
        .error (.fatal (.uncaught diagnostic))) :
    let replaced := Dispatch.conclusionOf ((constructAndUnwind first).run start)
    let bare := Dispatch.conclusionOf ((constructAndUnwind second).run start.withoutRules)
    (∀ pc popped frames,
      replaced = ⟨.ok (.handler ⟨pc, popped + code.frames.length⟩), frames⟩ ↔
        bare = ⟨.ok (.handler ⟨pc, popped⟩), frames⟩) ∧
    ((∃ diagnostic, replaced = ⟨.error (.fatal (.uncaught diagnostic)), []⟩) ↔
      ∃ diagnostic, bare = ⟨.error (.fatal (.uncaught diagnostic)), []⟩) ∧
    ((∃ handler frames, bare = ⟨.ok (.handler handler), frames⟩) ∨
      ∃ diagnostic, bare = ⟨.error (.fatal (.uncaught diagnostic)), []⟩) ∧
    replaced = Dispatch.conclusionOf ((constructAndUnwind second).run
      (start.withoutRules.onFrames (code.frames.reverse ++ start.thread.frames))) := by
  intro replaced bare
  have hroom : start.thread.constructionDepth.toNat + 1 <
      start.machine.settings.maxConstructionDepth.toNat := by
    rw [hdepth]
    exact UInt16.le_iff_toNat_le.1 hlimit
  obtain ⟨raiser, caller, hreplaced, hwhole, hbare⟩ :=
    exists_searched_of_runsOnly hstart hroom hsecond haction hrule hunhandled
  have hsame := hreplaced.trans hwhole.symm
  rcases start.machine.searched_cases (start.machine.key second.className) start.thread.frames with
    ⟨pc, count, left, -, hsearched⟩ | ⟨-, hsearched⟩
  · simp only [hsearched, Nat.zero_add] at hreplaced hbare
    have hhandled : replaced = ⟨.ok (.handler ⟨pc, code.frames.length + count⟩), left⟩ := hreplaced
    have hcalled : bare = ⟨.ok (.handler ⟨pc, count⟩), left⟩ := hbare
    refine ⟨?_, ?_, .inl ⟨_, _, hcalled⟩, hsame⟩
    · intro other popped frames
      have hcount : code.frames.length + count = popped + code.frames.length ↔ count = popped := by
        omega
      simp [hhandled, hcalled, hcount]
    · simp [hhandled, hcalled]
  · simp only [hsearched] at hreplaced hbare
    have huncaught : replaced = ⟨.error (.fatal (.uncaught raiser)), []⟩ := hreplaced
    have hcalled : bare = ⟨.error (.fatal (.uncaught caller)), []⟩ := hbare
    refine ⟨?_, ?_, .inr ⟨caller, hcalled⟩, hsame⟩
    · intro pc popped frames
      simp [huncaught, hcalled]
    · simp [huncaught, hcalled]

end Operation

/-- The sheltered thread with its frames the other way round, on a machine where a constructor
raises another exception once and does not handle it, though it would handle the first one. -/
def replacedExecution : Execution where
  machine := { shelteredExecution.machine with
    initializers := []
    constructors := [{ remaining? := some 1, code := ⟨.raise .arithmetic, [catchingFrame 2]⟩ }] }
  thread := { shelteredExecution.thread with frames := [catchingFrame 2, catchingFrame 1] }

/-- The exception is not handled by the first frame, which handles the one that it replaces, but by
the second one, as if the thread had raised it. -/
theorem Operation.constructAndUnwind_replaced_of_constructor :
    replacedExecution.WellFormed ∧
      replacedExecution.machine.RunsOnly .nullPointer ⟨.raise .arithmetic, [catchingFrame 2]⟩ ∧
      (Dispatch.conclusionOf ((constructAndUnwind .nullPointer).run
        replacedExecution.withoutRules)).outcome = .ok (.handler ⟨20, 0⟩) ∧
      ∃ frames,
        Dispatch.conclusionOf ((constructAndUnwind .arithmetic).run
          replacedExecution.withoutRules) = ⟨.ok (.handler ⟨20, 1⟩), frames⟩ ∧
        Dispatch.conclusionOf ((constructAndUnwind .nullPointer).run replacedExecution) =
          ⟨.ok (.handler ⟨20, 2⟩), frames⟩ := by
  have hstart : replacedExecution.WellFormed := by decide
  have hsecond : ¬ replacedExecution.machine.Lacks Builtin.arithmetic.className := by
    rw [Machine.lacks_iff]
    decide
  have hrule : replacedExecution.machine.RunsOnly .nullPointer
      ⟨.raise .arithmetic, [catchingFrame 2]⟩ :=
    .constructor none rfl (.inl rfl) rfl rfl
  have hunhandled : (Dispatch.conclusionOf ((constructAndUnwind .arithmetic).run
      (replacedExecution.withoutRules.onFrames [catchingFrame 2]))).outcome =
        .error (.fatal (.uncaught
          "Exception in thread \"main\" java/lang/ArithmeticException\n\tat A.run(:1)")) := by
    decide +kernel
  have hfirst : (Dispatch.conclusionOf ((constructAndUnwind .nullPointer).run
      replacedExecution.withoutRules)).outcome = .ok (.handler ⟨20, 0⟩) := by decide +kernel
  let bare := Dispatch.conclusionOf ((constructAndUnwind .arithmetic).run
    replacedExecution.withoutRules)
  have houtcome : bare.outcome = .ok (.handler ⟨20, 1⟩) := by decide +kernel
  have hbare : bare = ⟨.ok (.handler ⟨20, 1⟩), bare.frames⟩ :=
    congrArg (Conclusion.mk · bare.frames) houtcome
  obtain ⟨hhandler, -, -, -⟩ := constructAndUnwind_replaced hstart rfl (by decide) hsecond rfl
    hrule hunhandled
  exact ⟨hstart, hrule, hfirst, bare.frames, hbare, (hhandler 20 1 bare.frames).2 hbare⟩

end ExceptionDispatch
