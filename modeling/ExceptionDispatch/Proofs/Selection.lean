import ExceptionDispatch.Proofs.Ancestry
import ExceptionDispatch.Proofs.Course.Operation

/-!
# The handler that is selected

Without initializers dispatch runs no guest code, and the handler that it finds can be told from the
machine as it is at the start: it is the first matching entry of the topmost frame that has one. The
search loads classes on its way, but a class that it loads is never the thrown one or a superclass
of it, so no entry matches because of it. Main statement: `Operation.unwind_selects`.
-/

namespace ExceptionDispatch

namespace Machine

/-- An entry for one class catches the exceptions of another one: the same, or one that inherits
from it, as the settings have it. -/
def Catches (machine : Machine) (thrown target : ClassId) : Prop :=
  match machine.settings.catchMatching with
  | .exact => target = thrown
  | .subclass => machine.registry.Inherits thrown target

/-- A catch entry of a method is for the exceptions of a class: it is for all of them, or the
constant that it refers to names a class that is registered and catches them. -/
def Matches (machine : Machine) (thrown : ClassId) (method : Method) (entry : CatchEntry) : Prop :=
  match entry.catchType with
  | .any => True
  | .only ref =>
    ∃ owner name target, machine.registry.get? method.owner = some owner ∧
      owner.classNameAt? ref = some name ∧ machine.registry.idOf? name = some target ∧
      machine.Catches thrown target

/-- The first entry of a list that matches. -/
def FirstMatch (machine : Machine) (thrown : ClassId) (method : Method)
    (entries : List CatchEntry) (entry : CatchEntry) : Prop :=
  ∃ before after, entries = before ++ entry :: after ∧ machine.Matches thrown method entry ∧
    ∀ earlier ∈ before, ¬ machine.Matches thrown method earlier

/-- A frame without an entry that protects its current instruction and matches. -/
def Passes (machine : Machine) (thrown : ClassId) (frame : Frame) : Prop :=
  ∀ entry ∈ frame.method.catches, entry.Protects frame.pc →
    ¬ machine.Matches thrown frame.method entry

/-- The topmost frame of a stack that has a matching entry among those that protect its current
instruction, between the frames above it and its callers, and the first such entry. -/
structure Selects (machine : Machine) (thrown : ClassId) (frames above : List Frame)
    (frame : Frame) (callers : List Frame) (entry : CatchEntry) : Prop where
  frames_eq : frames = above ++ frame :: callers
  passes : ∀ passed ∈ above, machine.Passes thrown passed
  first : machine.FirstMatch thrown frame.method
    (frame.method.catches.filter (·.Protects frame.pc)) entry

variable {machine : Machine} {thrown : ClassId} {method : Method}

/-- An entry whose reference stands for a name matches if the name's class catches. -/
theorem matches_iff_of_name {entry : CatchEntry} {ref : ClassRef} {owner : ClassDescriptor}
    {name : String} (htype : entry.catchType = .only ref)
    (howner : machine.registry.get? method.owner = some owner)
    (hname : owner.classNameAt? ref = some name) :
    machine.Matches thrown method entry ↔
      ∃ target, machine.registry.idOf? name = some target ∧ machine.Catches thrown target := by
  rw [Matches, htype]
  constructor
  · rintro ⟨found, named, target, hfound, hnamed, htarget⟩
    rw [howner, Option.some.injEq] at hfound
    rw [← hfound, hname, Option.some.injEq] at hnamed
    rw [← hnamed] at htarget
    exact ⟨target, htarget⟩
  · rintro ⟨target, htarget⟩
    exact ⟨owner, name, target, howner, hname, htarget⟩

/-- An entry whose reference stands for no name does not match. -/
theorem not_matches_of_no_name {entry : CatchEntry} {ref : ClassRef} {owner : ClassDescriptor}
    (htype : entry.catchType = .only ref)
    (howner : machine.registry.get? method.owner = some owner)
    (hname : owner.classNameAt? ref = none) : ¬ machine.Matches thrown method entry := by
  rw [Matches, htype]
  rintro ⟨found, named, target, hfound, hnamed, -⟩
  rw [howner, Option.some.injEq] at hfound
  rw [← hfound, hname] at hnamed
  cases hnamed

private theorem FirstMatch.head {entry : CatchEntry} (rest : List CatchEntry)
    (hentry : machine.Matches thrown method entry) :
    machine.FirstMatch thrown method (entry :: rest) entry :=
  ⟨[], rest, rfl, hentry, fun _ h => absurd h List.not_mem_nil⟩

private theorem FirstMatch.tail {entry found : CatchEntry} {rest : List CatchEntry}
    (hentry : ¬ machine.Matches thrown method entry)
    (h : machine.FirstMatch thrown method rest found) :
    machine.FirstMatch thrown method (entry :: rest) found := by
  obtain ⟨before, after, rfl, hfound, hbefore⟩ := h
  exact ⟨entry :: before, after, rfl, hfound, List.forall_mem_cons.2 ⟨hentry, hbefore⟩⟩

/-- A frame passes an exception on if no covering entry matches. -/
theorem passes_iff_covering {frame : Frame} :
    machine.Passes thrown frame ↔
      ∀ entry ∈ frame.covering, ¬ machine.Matches thrown frame.method entry := by
  simp only [Passes, Frame.covering, CatchTable.mem_covering, and_imp]

private theorem Selects.tail {frames above callers : List Frame} {first frame : Frame}
    {entry : CatchEntry} (hfirst : machine.Passes thrown first)
    (h : machine.Selects thrown frames above frame callers entry) :
    machine.Selects thrown (first :: frames) (first :: above) frame callers entry where
  frames_eq := by rw [h.frames_eq, List.cons_append]
  passes := List.forall_mem_cons.2 ⟨hfirst, h.passes⟩
  first := h.first

end Machine

/-- An execution on a machine without initializers that has all classes of another machine and the
settings of that one. -/
structure Grown (machine : Machine) (execution : Execution) : Prop where
  initializers : execution.machine.initializers = []
  settings : execution.machine.settings = machine.settings
  registry : machine.registry.ExtendedBy execution.machine.registry

namespace Grown

variable {machine : Machine} {start : Execution} {thrown : ClassId}

private theorem record (h : Grown machine start) (event : Event) :
    Grown machine (start.record event) :=
  ⟨h.initializers, h.settings, h.registry⟩

private theorem modifyThread (h : Grown machine start) (change : Thread → Thread) :
    Grown machine (start.modifyThread change) :=
  ⟨h.initializers, h.settings, h.registry⟩

private theorem find_eq (h : Grown machine start) (name : String) :
    ∃ after, Grown machine after ∧ after.thread = start.thread ∧
      ((∃ id, Dispatch.find name start = .ok (.loaded id) after ∧
          after.machine.registry.idOf? name = some id) ∨
        Dispatch.find name start = .ok .missing after ∧ machine.registry.idOf? name = none) := by
  rw [Dispatch.find_apply]
  cases hid : start.machine.registry.idOf? name with
  | some id => exact ⟨start, h, rfl, .inl ⟨id, rfl, hid⟩⟩
  | none =>
    cases hload : start.machine.load? name with
    | none =>
      refine ⟨start, h, rfl, .inr ⟨rfl, ?_⟩⟩
      cases hold : machine.registry.idOf? name with
      | none => rfl
      | some id =>
        rw [h.registry.idOf?_eq hold] at hid
        cases hid
    | some found =>
      obtain ⟨id, loaded⟩ := found
      have hkeeps := Execution.keeps_load hload
      refine ⟨{ start with machine := loaded }, ⟨?_, ?_, ?_⟩, rfl, .inl ⟨id, rfl, ?_⟩⟩
      · have hsublist := hkeeps.initializers
        rw [h.initializers] at hsublist
        exact List.sublist_nil.1 hsublist
      · exact hkeeps.settings.trans h.settings
      · exact h.registry.trans (Machine.extendedBy_of_load? hload)
      · exact Machine.idOf?_of_load? hload

/-- Whether an entry's class catches an exception is decided by the classes that were there first:
an exception of one of them is caught by none that is new. -/
theorem verdict_eq (h : Grown machine start) (hordered : machine.registry.Ordered)
    (hthrown : thrown.index < machine.registry.size) {name : String} {target : ClassId}
    (htarget : start.machine.registry.idOf? name = some target) :
    ∃ answer, Dispatch.verdict start.machine target thrown = .ok answer ∧
      (answer = true ↔
        ∃ found, machine.registry.idOf? name = some found ∧ machine.Catches thrown found) := by
  have hcatches : (∃ found, machine.registry.idOf? name = some found ∧
      machine.Catches thrown found) ↔ machine.Catches thrown target := by
    cases hold : machine.registry.idOf? name with
    | some found =>
      rw [h.registry.idOf?_eq hold, Option.some.injEq] at htarget
      simp [htarget]
    | none =>
      have hnew := h.registry.size_le_of_idOf? hold htarget
      refine iff_of_false (by simp) fun hcaught => ?_
      -- What catches the exception is at or before its class, but a new class comes after it.
      have hle : target.index ≤ thrown.index := by
        rw [Machine.Catches] at hcaught
        split at hcaught
        · exact Nat.le_of_eq (congrArg ClassId.index hcaught)
        · exact hordered.index_le hcaught
      omega
  rw [hcatches, Dispatch.verdict, Machine.Catches, h.settings]
  cases machine.settings.catchMatching with
  | exact => exact ⟨_, rfl, decide_eq_true_iff⟩
  | subclass => exact h.registry.isSubclass_eq hordered hthrown target

private theorem resolveConstant_eq (h : Grown machine start) (run : GuestRunner) {owner : ClassId}
    (howner : owner.index < machine.registry.size) (ref : ClassRef) :
    ∃ descriptor, machine.registry.get? owner = some descriptor ∧
      start.machine.registry.get? owner = some descriptor ∧
      Dispatch.resolveConstant run ref owner start =
        match descriptor.classNameAt? ref with
        | none => .ok .missing start
        | some name => Dispatch.find name start := by
  obtain ⟨descriptor, hget⟩ := Option.isSome_iff_exists.1 (Registry.get?_isSome_iff.2 howner)
  have hstart := (h.registry.get?_eq howner).trans hget
  refine ⟨descriptor, hget, hstart, ?_⟩
  rw [Dispatch.resolveConstant_apply, hstart]
  simp only
  cases descriptor.classNameAt? ref with
  | none => rfl
  | some name => exact Dispatch.resolve_eq_find run name h.initializers

/-- One entry is the one that is found if it matches, and is passed over if not. -/
theorem search_entry (h : Grown machine start) (hordered : machine.registry.Ordered)
    (hthrown : thrown.index < machine.registry.size) (run : GuestRunner) {method : Method}
    (howner : method.owner.index < machine.registry.size) (entry : CatchEntry) :
    ∃ after, Grown machine after ∧ after.thread = start.thread ∧
      ((machine.Matches thrown method entry ∧ ∀ rest,
          Dispatch.search run thrown method (entry :: rest) start =
            .ok (.found entry.handlerPc) after) ∨
        (¬ machine.Matches thrown method entry ∧ ∀ rest,
          Dispatch.search run thrown method (entry :: rest) start =
            Dispatch.search run thrown method rest after)) := by
  cases htype : entry.catchType with
  | any =>
    refine ⟨start, h, rfl, .inl ⟨?_, fun rest => ?_⟩⟩
    · rw [Machine.Matches, htype]
      trivial
    · rw [Dispatch.search_cons, htype]
  | only ref =>
    obtain ⟨descriptor, hold, hget, hresolve⟩ := h.resolveConstant_eq run howner ref
    let unresolved : Event := .unresolved ref.index descriptor.name method.name
    simp only [Dispatch.search_cons, htype, hresolve]
    cases hname : descriptor.classNameAt? ref with
    | none =>
      have hmatches : ¬ machine.Matches thrown method entry :=
        Machine.not_matches_of_no_name htype hold hname
      refine ⟨start.record unresolved, h.record unresolved, rfl, .inr ⟨hmatches, fun rest => ?_⟩⟩
      simp only [hget]
      rfl
    | some name =>
      rw [Machine.matches_iff_of_name htype hold hname]
      obtain ⟨after, hafter, hthread, ⟨id, hfind, hid⟩ | ⟨hfind, hmissing⟩⟩ := h.find_eq name
      · obtain ⟨answer, hverdict, hiff⟩ := hafter.verdict_eq hordered hthrown hid
        refine ⟨after, hafter, hthread, ?_⟩
        simp only [hfind, hverdict, ← hiff]
        cases answer with
        | true => exact .inl ⟨rfl, fun _ => rfl⟩
        | false => exact .inr ⟨Bool.false_ne_true, fun _ => rfl⟩
      · have hstill := (hafter.registry.get?_eq howner).trans hold
        refine ⟨after.record unresolved, hafter.record unresolved, hthread,
          .inr ⟨by simp [hmissing], fun rest => ?_⟩⟩
        simp only [hfind, hstill]
        rfl

/-- The search of a frame finds the first entry that matches. -/
theorem search_eq (h : Grown machine start) (hordered : machine.registry.Ordered)
    (hthrown : thrown.index < machine.registry.size) (run : GuestRunner) {method : Method}
    (howner : method.owner.index < machine.registry.size) (entries : List CatchEntry) :
    ∃ after, Grown machine after ∧ after.thread = start.thread ∧
      ((∃ entry, machine.FirstMatch thrown method entries entry ∧
          Dispatch.search run thrown method entries start = .ok (.found entry.handlerPc) after) ∨
        (∀ entry ∈ entries, ¬ machine.Matches thrown method entry) ∧
          Dispatch.search run thrown method entries start = .ok .notFound after) := by
  induction entries generalizing start with
  | nil =>
    exact ⟨start, h, rfl, .inr ⟨fun _ hentry => absurd hentry List.not_mem_nil,
      Dispatch.search_nil run thrown method start⟩⟩
  | cons entry rest ih =>
    obtain ⟨middle, hmiddle, hthread, ⟨hentry, hsearch⟩ | ⟨hentry, hsearch⟩⟩ :=
      h.search_entry hordered hthrown run howner entry
    · exact ⟨middle, hmiddle, hthread, .inl ⟨entry, .head rest hentry, hsearch rest⟩⟩
    · obtain ⟨after, hafter, heq, ⟨found, hfound, hrest⟩ | ⟨hnone, hrest⟩⟩ := ih hmiddle
      · refine ⟨after, hafter, heq.trans hthread, .inl ⟨found, hfound.tail hentry, ?_⟩⟩
        rw [hsearch, hrest]
      · refine ⟨after, hafter, heq.trans hthread,
          .inr ⟨List.forall_mem_cons.2 ⟨hentry, hnone⟩, ?_⟩⟩
        rw [hsearch, hrest]

/-- The search of a stack finds the topmost frame with a matching entry, and pops the frames above
it; without such a frame it pops all of them. -/
theorem searchFrames_eq (h : Grown machine start) (hordered : machine.registry.Ordered)
    (run : GuestRunner) {exception : Thrown}
    (hthrown : exception.classId.index < machine.registry.size) (popped : Nat)
    {frames : List Frame}
    (howners : ∀ frame ∈ frames, frame.method.owner.index < machine.registry.size)
    (hframes : start.thread.frames = frames) :
    (∃ above frame callers entry after,
        machine.Selects exception.classId frames above frame callers entry ∧
        Dispatch.searchFrames run exception popped frames start =
          .ok ⟨entry.handlerPc, popped + above.length⟩ after ∧
        after.thread.frames = { frame with pc := entry.handlerPc } :: callers) ∨
      ∃ after, (∀ frame ∈ frames, machine.Passes exception.classId frame) ∧
        Dispatch.searchFrames run exception popped frames start =
          .error (.fatal (.uncaught exception.diagnostic)) after ∧
        after.thread.frames = [] := by
  induction frames generalizing start popped with
  | nil =>
    exact .inr ⟨start, fun _ hframe => absurd hframe List.not_mem_nil,
      Dispatch.searchFrames_nil run exception popped start, hframes⟩
  | cons frame callers ih =>
    obtain ⟨howner, hcallers⟩ := List.forall_mem_cons.1 howners
    obtain ⟨middle, hmiddle, hthread, ⟨entry, hentry, hsearch⟩ | ⟨hnone, hsearch⟩⟩ :=
      h.search_eq hordered hthrown run howner frame.covering
    · have hselects : machine.Selects exception.classId (frame :: callers) [] frame callers entry :=
        ⟨rfl, fun _ hpassed => absurd hpassed List.not_mem_nil, by
          rwa [Frame.covering, CatchTable.covering_eq_filter] at hentry⟩
      refine .inl ⟨[], frame, callers, entry,
        (middle.modifyThread (Thread.setPc · entry.handlerPc)).record
          (.caught ⟨exception.className, frame.method.name, frame.pc⟩ ⟨entry.handlerPc, popped⟩),
        hselects, ?_, ?_⟩
      · simp only [Dispatch.searchFrames_cons, hsearch]
        rfl
      · simp [Thread.setPc, hthread, hframes]
    · have hpassed : machine.Passes exception.classId frame := Machine.passes_iff_covering.2 hnone
      let passage : Passage := ⟨exception.className, frame.method.name, frame.pc⟩
      have hpopped : ((middle.record (.popping passage)).modifyThread
          Thread.pop).thread.frames = callers := by
        simp [Thread.pop, hthread, hframes]
      have hgrown := (hmiddle.record (.popping passage)).modifyThread Thread.pop
      have hrun : Dispatch.searchFrames run exception popped (frame :: callers) start =
          Dispatch.searchFrames run exception (popped + 1) callers
            ((middle.record (.popping passage)).modifyThread Thread.pop) := by
        simp only [Dispatch.searchFrames_cons, hsearch]
        rfl
      rw [hrun]
      rcases ih hgrown (popped + 1) hcallers hpopped with
        ⟨above, handling, rest, entry, after, hselects, heq, hafter⟩ |
          ⟨after, hpasses, heq, hafter⟩
      · refine .inl ⟨frame :: above, handling, rest, entry, after, hselects.tail hpassed, ?_,
          hafter⟩
        rw [heq, List.length_cons, Nat.add_assoc, Nat.add_comm 1]
      · exact .inr ⟨after, List.forall_mem_cons.2 ⟨hpassed, hpasses⟩, heq, hafter⟩

end Grown

/-- Without initializers, dispatching a thrown object does what the machine tells beforehand: if
some frame has an entry that matches, the exception goes to the first such entry of the topmost such
frame, and exactly the frames above that one are popped; if none has, the exception is uncaught, and
its diagnostic is that of the place it was thrown from. -/
theorem Operation.unwind_selects {start : Execution} {object : ObjectRef} {found : Object}
    (hinitializers : start.machine.initializers = [])
    (hordered : start.machine.registry.Ordered)
    (hobject : start.machine.heap.get? object = some found)
    (hclass : found.classId.index < start.machine.registry.size)
    (hthread : start.thread.classId.index < start.machine.registry.size)
    (howners : ∀ frame ∈ start.thread.frames,
      frame.method.owner.index < start.machine.registry.size) :
    (∃ above frame callers entry after,
        start.machine.Selects found.classId start.thread.frames above frame callers entry ∧
        (unwind object).run start = .ok (.handler ⟨entry.handlerPc, above.length⟩) after ∧
        after.thread.frames = { frame with pc := entry.handlerPc } :: callers) ∨
      ∃ exception after, (∀ frame ∈ start.thread.frames, start.machine.Passes found.classId frame) ∧
        Diagnostic.thrown start.machine.registry start.machine.heap start.thread object =
          .ok exception ∧
        (unwind object).run start = .error (.fatal (.uncaught exception.diagnostic)) after ∧
        after.thread.frames = [] := by
  obtain ⟨exception, hthrown, hid⟩ :=
    Diagnostic.exists_thrown_eq hobject hclass hthread howners
  rw [← hid] at hclass ⊢
  have hgrown : Grown start.machine start := ⟨hinitializers, rfl, .refl _⟩
  have hunwind : Dispatch.unwind (Dispatch.runner start.nestingBound) object start =
      Dispatch.searchFrames (Dispatch.runner start.nestingBound) exception 0
        start.thread.frames start := by
    rw [Dispatch.unwind_apply, hthrown]
  rcases hgrown.searchFrames_eq hordered (Dispatch.runner start.nestingBound) hclass 0 howners rfl
    with ⟨above, frame, callers, entry, after, hselects, heq, hafter⟩ |
      ⟨after, hpasses, heq, hafter⟩
  · refine .inl ⟨above, frame, callers, entry, after, hselects, ?_, hafter⟩
    rw [run, runWith, Dispatch.bind_apply, hunwind, heq, Nat.zero_add]
    rfl
  · refine .inr ⟨exception, after, hpasses, hthrown, ?_, hafter⟩
    rw [run, runWith, Dispatch.bind_apply, hunwind, heq]

/-- A frame that catches a class that has yet to be loaded. -/
def unrelatedFrame : Frame where
  method := { name := "inner", owner := ⟨0⟩, catches := [⟨0, 8, 10, .ofIndex 1⟩] }
  pc := 4

/-- A frame that also catches its own class. -/
def relatedFrame : Frame where
  method := {
    name := "outer"
    owner := ⟨0⟩
    catches := [⟨0, 8, 10, .ofIndex 1⟩, ⟨0, 8, 20, .ofIndex 2⟩] }
  pc := 4

/-- A thread in both frames, on a machine with an object of a subclass. -/
def layeredExecution : Execution where
  machine := {
    registry :=
      (Registry.empty.push {
        name := "A"
        sourceFile := ""
        constants := [.classNamed "Z", .classNamed "A"] }).push {
          name := "B"
          sourceFile := ""
          superclass? := some ⟨0⟩ }
    heap := (Heap.empty.allocate ⟨1⟩ 0).2
    settings := { catchMatching := .subclass }
    loadable := [{ name := "Z", sourceFile := "" }] }
  thread := { name := "main", classId := ⟨0⟩, frames := [unrelatedFrame, relatedFrame] }

/-- The frame for an unrelated class is popped, and the one for the superclass handles the
exception. -/
theorem Operation.unwind_selects_superclass :
    Dispatch.exitOf ((unwind ⟨0⟩).run layeredExecution) = .unwound ⟨20, 1⟩ ∧
      ∃ above frame callers entry,
        layeredExecution.machine.Selects ⟨1⟩ layeredExecution.thread.frames above frame callers
          entry ∧
        entry.handlerPc = 20 ∧ above.length = 1 := by
  have hexit : Dispatch.exitOf ((unwind ⟨0⟩).run layeredExecution) = .unwound ⟨20, 1⟩ := by
    decide +kernel
  have hinitializers : layeredExecution.machine.initializers = [] := rfl
  have hobject : layeredExecution.machine.heap.get? ⟨0⟩ = some (.fresh ⟨1⟩ 0) := by decide
  refine ⟨hexit, ?_⟩
  rcases unwind_selects hinitializers (by decide) hobject (by decide) (by decide) (by decide) with
    ⟨above, frame, callers, entry, after, hselects, hrun, -⟩ | ⟨exception, after, -, -, hrun, -⟩
  · rw [hrun] at hexit
    obtain ⟨hpc, hpopped⟩ := Handler.mk.inj (Exit.unwound.inj hexit)
    exact ⟨above, frame, callers, entry, hselects, hpc, hpopped⟩
  · rw [hrun] at hexit
    cases hexit

end ExceptionDispatch
