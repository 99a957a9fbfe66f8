import ExceptionDispatch.Proofs.FatalErrors
import ExceptionDispatch.Proofs.LazyLoading
import ExceptionDispatch.Proofs.PoppedFrames

/-!
# Constructors that never end

If the constructor of every exception raises a further exception, constructions nest until the limit
of the construction depth is reached, and the error that this is leaves everything as it is then:
one object for each construction, and the frames of all their constructors. Main statement:
`Operation.construct_reachesLimit`.
-/

namespace ExceptionDispatch

/-- The kinds of so many nested constructions: the outermost, and the one that all others are of. -/
def nestedKinds (outer inner : Builtin) : Nat → List Builtin
  | 0 => []
  | count + 1 => outer :: List.replicate count inner

private theorem nestedKinds_self (kind : Builtin) (count : Nat) :
    nestedKinds kind kind count = List.replicate count kind := by
  cases count <;> rfl

private theorem length_nestedKinds (outer inner : Builtin) (count : Nat) :
    (nestedKinds outer inner count).length = count := by
  cases count <;> simp [nestedKinds]

/-- Of the machine's rules the first is for all objects, without end, and raises an exception on
some frames; and there are no initializers. -/
structure Machine.AlwaysRaises (machine : Machine) (kind : Builtin) (frames : List Frame) :
    Prop where
  initializers : machine.initializers = []
  constructors : ∃ rest, machine.constructors = { code := ⟨.raise kind, frames⟩ } :: rest

namespace Machine.AlwaysRaises

variable {machine other : Machine} {kind : Builtin} {frames : List Frame}

private theorem congr (h : machine.AlwaysRaises kind frames)
    (hinitializers : other.initializers = machine.initializers)
    (hconstructors : other.constructors = machine.constructors) : other.AlwaysRaises kind frames :=
  ⟨hinitializers.trans h.initializers, hconstructors ▸ h.constructors⟩

private theorem takeConstructor?_eq (h : machine.AlwaysRaises kind frames) (className : String) :
    machine.takeConstructor? className = some (⟨.raise kind, frames⟩, machine) := by
  obtain ⟨rest, hrest⟩ := h.constructors
  have happlies : ({ code := ⟨.raise kind, frames⟩ } : ConstructorRule).applies className = true :=
    rfl
  rw [takeConstructor?, hrest, ConstructorRule.spendFirst?, if_pos happlies, Option.map_some,
    ConstructorRule.spend, Option.map_none, ← hrest]

end Machine.AlwaysRaises

/-- One execution comes from another one by nested constructions of some kinds: each leaves an
object of its class and its constructor's frames, and no handler was installed on the way. -/
structure Execution.Nests (start : Execution) (frames : List Frame) (kinds : List Builtin)
    (finish : Execution) : Prop where
  frames : finish.thread.frames =
    (List.replicate kinds.length frames.reverse).flatten ++ start.thread.frames
  objects : ∃ added,
    finish.machine.heap.objects.toList = start.machine.heap.objects.toList ++ added ∧
      added.map (some ·.classId) = kinds.map (finish.machine.registry.idOf? ·.className)
  constructed : finish.machine.constructed.toList = start.machine.constructed.toList ++
    (List.range' start.machine.heap.size kinds.length).map ObjectRef.mk
  trace : ∃ entries : List TraceEntry, finish.trace.toList = start.trace.toList ++ entries ∧
    ∀ entry ∈ entries, entry.event.installs = false

namespace Execution.Nests

variable {start finish : Execution} {frames : List Frame} {kinds : List Builtin}

private theorem nil (start : Execution) (frames : List Frame) : start.Nests frames [] start :=
  ⟨by simp, ⟨[], by simp, rfl⟩, by simp, ⟨[], by simp, by simp⟩⟩

private theorem lookFor {name : String}
    (h : { start with machine := start.machine.lookFor name }.Nests frames kinds finish) :
    start.Nests frames kinds finish := by
  have hsame := start.machine.sameButClasses_lookFor name
  obtain ⟨hframes, hobjects, hconstructed, htrace⟩ := h
  simp only [hsame.heap, hsame.constructed] at hobjects hconstructed
  exact ⟨hframes, hobjects, hconstructed, htrace⟩

private theorem cons {kind : Builtin} {id : ClassId} {descriptor : ClassDescriptor}
    {action : GuestAction} (hid : finish.machine.registry.idOf? kind.className = some id)
    (h : ((start.beginConstruction kind id descriptor).enterGuest ⟨action, frames⟩).Nests frames
      kinds finish) :
    start.Nests frames (kind :: kinds) (finish.leaveConstructor start.nextObject) := by
  obtain ⟨hframes, ⟨added, hobjects, hclasses⟩, hconstructed, entries, htrace, hquiet⟩ := h
  refine ⟨?_, ⟨.fresh id descriptor.fieldCount.toNat :: added, ?_, ?_⟩, ?_, ?_⟩
  · show finish.thread.frames = _
    simp [hframes, Thread.pushAll, List.replicate_succ']
  · show finish.machine.heap.objects.toList = _
    simp [hobjects, Machine.addConstructed, Machine.allocate, Heap.allocate, Heap.push]
  · simp [hclasses, hid, Object.fresh]
  · show finish.machine.constructed.toList = _
    simp [hconstructed, Machine.addConstructed, Machine.allocate, Heap.allocate, nextObject,
      List.range'_succ]
  · let quiet : List TraceEntry :=
      [⟨start.thread.constructionDepth, .constructing kind⟩,
        ⟨start.thread.constructionDepth + 1, .constructorEntered start.nextObject⟩,
        ⟨start.thread.constructionDepth + 1, .guestEntered frames.length⟩]
    refine ⟨quiet ++ entries ++
      [⟨finish.thread.constructionDepth, .constructorLeft start.nextObject⟩], ?_, ?_⟩
    · simp [leaveConstructor, lowerDepth, htrace, quiet, beginConstruction, enterGuest,
        enterConstructor, raiseDepth, record, modifyThread, Thread.pushAll]
    · intro entry hentry
      simp only [quiet, List.mem_append, List.mem_cons, List.not_mem_nil, or_false] at hentry
      rcases hentry with ((rfl | rfl | rfl) | hmem) | rfl
      · rfl
      · rfl
      · rfl
      · exact hquiet entry hmem
      · rfl

end Execution.Nests

namespace Dispatch

private theorem construct_of_construct_error {bound : Nat} {start middle after : Execution}
    {kind raised : Builtin} {frames : List Frame} {id : ClassId} {descriptor : ClassDescriptor}
    {halt : Halt}
    (hdepth : ¬ start.machine.settings.maxConstructionDepth ≤ start.thread.constructionDepth)
    (hresolve : resolve (runner (bound + 1)) kind.className start = .ok (.loaded id) middle)
    (hget : middle.machine.registry.get? id = some descriptor)
    (hraises : middle.machine.AlwaysRaises raised frames)
    (hraised : construct (runner bound) raised
      ((middle.beginConstruction kind id descriptor).enterGuest ⟨.raise raised, frames⟩) =
        .error halt after) :
    construct (runner (bound + 1)) kind start =
      .error halt (after.leaveConstructor middle.nextObject) := by
  have hbegun : (middle.beginConstruction kind id descriptor).machine.AlwaysRaises raised frames :=
    hraises.congr rfl rfl
  have htake := hbegun.takeConstructor?_eq descriptor.name
  have hguest : runner (bound + 1) ⟨.raise raised, frames⟩ (some middle.nextObject)
      (middle.beginConstruction kind id descriptor) = .error halt after := by
    rw [runner, perform_apply, act_apply]
    simp only [constructAndUnwind_apply, hraised]
  simp only [construct_apply, if_neg hdepth, hresolve, hget, construction, htake, hguest]

private theorem exists_entered {start : Execution} {kind raised : Builtin} {frames : List Frame}
    (hraises : start.machine.AlwaysRaises raised frames)
    (hkind : ¬ start.machine.Lacks kind.className)
    (hdepth : start.thread.constructionDepth < start.machine.settings.maxConstructionDepth)
    (bound : Nat) :
    ∃ entered : Execution, entered.machine.AlwaysRaises raised frames ∧
      start.machine.GrowsTo entered.machine ∧
      entered.machine.settings = start.machine.settings ∧
      entered.thread.constructionDepth.toNat = start.thread.constructionDepth.toNat + 1 ∧
      ∀ halt after kinds, construct (runner bound) raised entered = .error halt after →
        entered.Nests frames kinds after →
        ∃ left, construct (runner (bound + 1)) kind start = .error halt left ∧
          start.Nests frames (kind :: kinds) left := by
  have hsame := start.machine.sameButClasses_lookFor kind.className
  have hgrows := Machine.growsTo_of_changes (start.machine.changes_lookFor kind.className)
  rw [Machine.lacks_iff, ← ne_eq, Option.ne_none_iff_exists'] at hkind
  obtain ⟨descriptor, hdescribed⟩ := hkind
  obtain ⟨id, hid, hget, hresolve⟩ :=
    exists_resolve_eq (runner (bound + 1)) hraises.initializers hdescribed
  let middle : Execution := { start with machine := start.machine.lookFor kind.className }
  have hmiddle : middle.machine.AlwaysRaises raised frames :=
    hraises.congr hsame.initializers hsame.constructors
  have hbelow : middle.thread.constructionDepth < middle.machine.settings.maxConstructionDepth := by
    show _ < (start.machine.lookFor kind.className).settings.maxConstructionDepth
    rwa [hsame.settings]
  let entered := (middle.beginConstruction kind id descriptor).enterGuest ⟨.raise raised, frames⟩
  have hentered := hgrows.trans (Machine.Changes.allocation hget).growsTo
  refine ⟨entered, hmiddle.congr rfl rfl, hentered, hsame.settings,
    Execution.toNat_depth_beginConstruction hbelow kind id descriptor, ?_⟩
  intro halt after kinds hrun hnests
  have hcourse : Follows bound none 1 entered (construct (runner bound) raised entered) :=
    construct_follows (guestsFollow bound) raised entered
  rw [hrun] at hcourse
  have hafter : after.machine.registry.idOf? kind.className = some id :=
    hcourse.growsTo.registry.idOf?_eq hid
  exact ⟨_, construct_of_construct_error (UInt16.not_le.2 hdepth) hresolve hget hmiddle hrun,
    .lookFor (.cons hafter hnests)⟩

/-- Constructions whose constructors always raise end at the limit of the construction depth. -/
theorem construct_nests {start : Execution} {kind raised : Builtin} {frames : List Frame}
    {count bound : Nat} (hraises : start.machine.AlwaysRaises raised frames)
    (hkind : ¬ start.machine.Lacks kind.className)
    (hraised : ¬ start.machine.Lacks raised.className)
    (hdepth : start.thread.constructionDepth.toNat + count =
      start.machine.settings.maxConstructionDepth.toNat) (hbound : count ≤ bound) :
    ∃ after, construct (runner bound) kind start =
        .error (.fatal (.constructionDepth (if count = 0 then kind else raised).className
          start.machine.settings.maxConstructionDepth)) after ∧
      start.Nests frames (nestedKinds kind raised count) after := by
  -- The induction is on the room below the limit. From the second construction on, all are of the
  -- exception that constructors raise, so the kind is general only for the first one.
  induction count generalizing start kind bound with
  | zero =>
    have hlimit : start.machine.settings.maxConstructionDepth ≤ start.thread.constructionDepth :=
      UInt16.le_iff_toNat_le.2 (Nat.le_of_eq hdepth.symm)
    refine ⟨start, ?_, .nil start frames⟩
    simp only [construct_apply, if_pos hlimit, if_true]
  | succ count ih =>
    cases bound with
    | zero => exact absurd hbound (Nat.not_succ_le_zero count)
    | succ lower =>
      have hbelow : start.thread.constructionDepth < start.machine.settings.maxConstructionDepth :=
        UInt16.lt_iff_toNat_lt.2 (by omega)
      obtain ⟨entered, hentered, hgrows, hsettings, hdeeper, hleave⟩ :=
        exists_entered hraises hkind hbelow lower
      have hstill : ¬ entered.machine.Lacks raised.className :=
        fun hlacks => hraised ((hgrows.lacks_iff raised.className).1 hlacks)
      obtain ⟨after, hrun, hnests⟩ := ih hentered hstill hstill
        (by rw [hdeeper, hsettings]; omega) (Nat.le_of_succ_le_succ hbound)
      rw [ite_self, hsettings] at hrun
      rw [nestedKinds_self] at hnests
      exact hleave _ after _ hrun hnests

end Dispatch

/-- A constructor that always raises hits the limit of the construction depth exactly. On a machine
without initializers, where the first rule has every constructor raise an exception, constructing an
exception on an idle thread ends with the error about the limit, which names the exception that was
to be raised last. So many objects were allocated and constructed, in this order, as the limit says:
the first is the exception that was asked for, the others are those that constructors raised. No
handler was installed on the way, whatever the constructors' frames catch, and these frames are left
on the stack, once for each constructor. -/
theorem Operation.construct_reachesLimit {start : Execution} {kind raised : Builtin}
    {frames : List Frame} (hraises : start.machine.AlwaysRaises raised frames)
    (hkind : ¬ start.machine.Lacks kind.className)
    (hraised : ¬ start.machine.Lacks raised.className)
    (hdepth : start.thread.constructionDepth = 0) :
    let limit := start.machine.settings.maxConstructionDepth
    ∃ after, (construct kind).run start =
        .error (.fatal (.constructionDepth (if limit = 0 then kind else raised).className limit))
          after ∧
      (∃ added, after.machine.heap.objects.toList = start.machine.heap.objects.toList ++ added ∧
        added.map (some ·.classId) = (nestedKinds kind raised limit.toNat).map
          (after.machine.registry.idOf? ·.className)) ∧
      after.machine.constructed.toList = start.machine.constructed.toList ++
        (List.range' start.machine.heap.size limit.toNat).map ObjectRef.mk ∧
      (∃ entries : List TraceEntry, after.trace.toList = start.trace.toList ++ entries ∧
        ∀ entry ∈ entries, entry.event.installs = false) ∧
      after.thread = { start.thread with
        frames := (List.replicate limit.toNat frames.reverse).flatten ++ start.thread.frames } := by
  intro limit
  have hbound : limit.toNat ≤ start.nestingBound := by
    rw [Execution.nestingBound, hdepth]
    exact Nat.le_add_left _ _
  obtain ⟨after, hrun, hnests⟩ := Dispatch.construct_nests hraises hkind hraised
    (by rw [hdepth]; exact Nat.zero_add _) hbound
  have hcourse := (construct kind).run_follows start
  have hwhole : (construct kind).run start = .error (.fatal (.constructionDepth
      (if limit = 0 then kind else raised).className limit)) after := by
    rw [run, runWith, Dispatch.bind_apply, hrun]
    simp only [← UInt16.toNat_inj, UInt16.toNat_zero, limit]
  obtain ⟨hframes, hobjects, hconstructed, htrace⟩ := hnests
  rw [length_nestedKinds] at hframes hconstructed
  rw [hwhole] at hcourse
  have hthread := hcourse.keeps.thread_eq
  refine ⟨after, hwhole, hobjects, hconstructed, htrace, ?_⟩
  rw [← hframes]
  exact hthread

/-- A thread on a machine where constructors raise an exception whose class has yet to be loaded, in
a frame that handles everything. -/
def endlessExecution : Execution where
  machine := {
    registry := Registry.empty.push { name := Builtin.runtime.className, sourceFile := "" }
    settings := { maxConstructionDepth := 3 }
    loadable := [{ name := Builtin.io.className, sourceFile := "" }]
    constructors := [{ code := ⟨.raise .io, [guardedFrame]⟩ }] }
  thread := { name := "main", classId := ⟨0⟩, frames := [guardedFrame] }

/-- Three objects are constructed, the last two of the class that is loaded on the way, and three
frames are left although each of them handles everything. -/
theorem Operation.construct_reachesLimit_of_guardedFrame :
    ∃ after, (construct .runtime).run endlessExecution =
        .error (.fatal (.constructionDepth Builtin.io.className 3)) after ∧
      after.machine.heap.objects.toList.map Object.classId = [⟨0⟩, ⟨1⟩, ⟨1⟩] ∧
      after.machine.constructed.toList = [⟨0⟩, ⟨1⟩, ⟨2⟩] ∧
      after.thread.frames = List.replicate 4 guardedFrame := by
  have hraises : endlessExecution.machine.AlwaysRaises .io [guardedFrame] := ⟨rfl, [], rfl⟩
  have hruntime : ¬ endlessExecution.machine.Lacks Builtin.runtime.className := by
    rw [Machine.lacks_iff]
    decide
  have hio : ¬ endlessExecution.machine.Lacks Builtin.io.className := by
    rw [Machine.lacks_iff]
    decide
  obtain ⟨after, hrun, -, hconstructed, -, hthread⟩ :=
    construct_reachesLimit hraises hruntime hio rfl
  have hafter : after = Dispatch.finalOf ((construct .runtime).run endlessExecution) := by
    rw [hrun]
    rfl
  refine ⟨after, hrun, ?_, hconstructed, congrArg Thread.frames hthread⟩
  rw [hafter]
  decide +kernel

end ExceptionDispatch
