import ExceptionDispatch.Proofs.Course.Returns
import ExceptionDispatch.Proofs.WellFormed

/-!
# What dispatch comes to

As long as all guest code returns, what dispatch comes to can be told from the machine as it is at
the start: its classes, those that can be loaded and the objects that are there. Guest code may load
classes in another order, so a class is told by its position only if it was registered at the start,
and by its name if not. Main statements: `Dispatch.searchFrames_settled` and
`Dispatch.throwObject_settled`.
-/

namespace ExceptionDispatch

/-! ### Classes by name -/

/-- A class as a machine knows it: by its position if it is registered, and else by its name. -/
inductive ClassKey
  | registered (id : ClassId)
  | loadable (name : String)
  deriving DecidableEq, Repr

namespace Machine

/-- What a machine knows the class of a name by. -/
def key (machine : Machine) (name : String) : ClassKey :=
  match machine.registry.idOf? name with
  | some id => .registered id
  | none => .loadable name

/-- The descriptor of a class that is registered or can be loaded. -/
def descriptorOf? (machine : Machine) : ClassKey → Option ClassDescriptor
  | .registered id => machine.registry.get? id
  | .loadable name => machine.loadable.find? (·.name == name)

/-- A name is described if a class is registered under it. -/
theorem described?_isSome {machine : Machine} {name : String} {id : ClassId}
    (hid : machine.registry.idOf? name = some id) : (machine.described? name).isSome = true := by
  rw [described?, hid]
  exact Registry.get?_isSome_iff.2 (Registry.lt_size_of_idOf? hid)

/-- A name is not described if no class of it is registered or can be loaded. -/
theorem described?_eq_none {machine : Machine} {name : String}
    (hid : machine.registry.idOf? name = none) (hload : machine.load? name = none) :
    machine.described? name = none := by
  rw [described?, hid]
  exact Option.map_eq_none_iff.1 hload

private theorem Rooted.superclass_lt {machine : Machine} (hrooted : machine.Rooted) {key : ClassKey}
    {descriptor : ClassDescriptor} {superclass : ClassId}
    (hdescriptor : machine.descriptorOf? key = some descriptor)
    (hsuper : descriptor.superclass? = some superclass) :
    superclass.index < machine.registry.size := by
  cases key with
  | registered id =>
    have hid : id.index < machine.registry.size :=
      Registry.get?_isSome_iff.1 (by rw [show machine.registry.get? id = _ from hdescriptor]; rfl)
    exact Nat.lt_trans (hrooted.registry id superclass ⟨descriptor, hdescriptor, hsuper⟩) hid
  | loadable name =>
    exact hrooted.loadable descriptor (List.mem_of_find?_eq_some hdescriptor) superclass hsuper

/-- Whether a class inherits from another one that is not itself. -/
def extends? (machine : Machine) (thrown target : ClassKey) : Bool :=
  match (machine.descriptorOf? thrown).bind ClassDescriptor.superclass? with
  | none => false
  | some superclass =>
    match target with
    | .loadable _ => false
    | .registered id =>
      match machine.registry.isSubclass superclass id with
      | .ok answer => answer
      | .error _ => false

/-- Whether an entry for one class catches the exceptions of another one. -/
def catchesKey (machine : Machine) (thrown target : ClassKey) : Bool :=
  match machine.settings.catchMatching with
  | .exact => thrown = target
  | .subclass => thrown = target || machine.extends? thrown target

/-- Whether a catch entry of a method is for the exceptions of a class. -/
def matchesKey (machine : Machine) (thrown : ClassKey) (method : Method) (entry : CatchEntry) :
    Bool :=
  match entry.catchType with
  | .any => true
  | .only ref =>
    match (machine.registry.get? method.owner).bind (·.classNameAt? ref) with
    | none => false
    | some name =>
      (machine.described? name).isSome && machine.catchesKey thrown (machine.key name)

end Machine

private theorem Registry.eq_of_idOf? {registry : Registry} {first second : String} {id : ClassId}
    (hfirst : registry.idOf? first = some id) (hsecond : registry.idOf? second = some id) :
    first = second := by
  rw [idOf?_eq_findIdx?, Option.map_eq_some_iff] at hfirst hsecond
  obtain ⟨position, hposition, rfl⟩ := hfirst
  obtain ⟨other, hother, heq⟩ := hsecond
  cases heq
  obtain ⟨_, hkey, -⟩ := List.findIdx?_eq_some_iff_getElem.1 hposition
  obtain ⟨_, hsame, -⟩ := List.findIdx?_eq_some_iff_getElem.1 hother
  exact (beq_iff_eq.1 hkey).symm.trans (beq_iff_eq.1 hsame)

/-- A class that an earlier machine knows by a key has a position in a later one. -/
def ClassKey.Denotes (old new : Machine) (id : ClassId) : ClassKey → Prop
  | .registered found => id = found ∧ found.index < old.registry.size
  | .loadable name => old.registry.idOf? name = none ∧ new.registry.idOf? name = some id

namespace ClassKey.Denotes

variable {old middle new : Machine} {key other : ClassKey} {id otherId : ClassId}

private theorem of_idOf? (h : old.GrowsTo new) {name : String}
    (hid : new.registry.idOf? name = some id) : (old.key name).Denotes old new id := by
  rw [Machine.key]
  cases hold : old.registry.idOf? name with
  | some found =>
    rw [h.registry.idOf?_eq hold, Option.some.injEq] at hid
    exact ⟨hid.symm, Registry.lt_size_of_idOf? hold⟩
  | none => exact ⟨hold, hid⟩

private theorem growsTo (h : key.Denotes old middle id) (hgrows : middle.GrowsTo new) :
    key.Denotes old new id := by
  cases key with
  | registered found => exact h
  | loadable name => exact ⟨h.1, hgrows.registry.idOf?_eq h.2⟩

private theorem get?_eq (h : key.Denotes old new id) (hgrows : old.GrowsTo new) :
    new.registry.get? id = old.descriptorOf? key := by
  cases key with
  | registered found =>
    obtain ⟨rfl, hlt⟩ := h
    exact hgrows.registry.get?_eq hlt
  | loadable name =>
    obtain ⟨hold, hnew⟩ := h
    have hdescribed := hgrows.described name
    simp only [Machine.described?, hold, hnew] at hdescribed
    exact hdescribed

private theorem lt_size (h : key.Denotes old new id) (hgrows : old.GrowsTo new) :
    id.index < new.registry.size := by
  cases key with
  | registered found =>
    obtain ⟨rfl, hlt⟩ := h
    exact Nat.lt_of_lt_of_le hlt hgrows.registry.size_le
  | loadable name => exact Registry.lt_size_of_idOf? h.2

private theorem eq_iff (h : key.Denotes old new id) (hother : other.Denotes old new otherId)
    (hgrows : old.GrowsTo new) : id = otherId ↔ key = other := by
  cases key with
  | registered found =>
    obtain ⟨rfl, hlt⟩ := h
    cases other with
    | registered second =>
      obtain ⟨rfl, -⟩ := hother
      simp
    | loadable name =>
      have hle := hgrows.registry.size_le_of_idOf? hother.1 hother.2
      refine iff_of_false ?_ nofun
      rintro rfl
      omega
  | loadable name =>
    cases other with
    | registered second =>
      obtain ⟨rfl, hlt⟩ := hother
      have hle := hgrows.registry.size_le_of_idOf? h.1 h.2
      refine iff_of_false ?_ nofun
      rintro rfl
      omega
    | loadable second =>
      rw [ClassKey.loadable.injEq]
      constructor
      · rintro rfl
        exact Registry.eq_of_idOf? h.2 hother.2
      · rintro rfl
        exact Option.some.inj (h.2.symm.trans hother.2)

private theorem isSubclass_eq (h : key.Denotes old new id) (hother : other.Denotes old new otherId)
    (hgrows : old.GrowsTo new) (hrooted : old.Rooted) :
    new.registry.isSubclass id otherId =
      .ok (key = other || old.extends? key other) := by
  rw [Registry.isSubclass, Registry.reaches]
  by_cases hsame : id = otherId
  · have hkey := (h.eq_iff hother hgrows).1 hsame
    simp [hsame, hkey]
  · have hkey : key ≠ other := fun heq => hsame ((h.eq_iff hother hgrows).2 heq)
    obtain ⟨descriptor, hget⟩ :=
      Option.isSome_iff_exists.1 (Registry.get?_isSome_iff.2 (h.lt_size hgrows))
    have hold := (h.get?_eq hgrows).symm.trans hget
    rw [if_neg hsame, hget, Machine.extends?, hold]
    simp only [Option.bind_some, decide_eq_false hkey, Bool.false_or]
    cases hsuper : descriptor.superclass? with
    | none => rfl
    | some superclass =>
      have hlt := hrooted.superclass_lt hold hsuper
      have hsteps := Nat.lt_of_lt_of_le hlt hgrows.registry.size_le
      obtain ⟨answer, hanswer, hiff⟩ :=
        hgrows.registry.reaches_eq hrooted.registry otherId hlt hsteps
      simp only [hanswer]
      cases other with
      | registered found =>
        obtain ⟨rfl, -⟩ := hother
        obtain ⟨earlier, hearlier, hinherits⟩ :=
          Registry.isSubclass_eq hrooted.registry hlt otherId
        simp only [hearlier]
        exact congrArg Except.ok (Bool.eq_iff_iff.2 (hiff.trans hinherits.symm))
      | loadable name =>
        -- A class that was loaded later comes after all superclasses.
        have hle := hgrows.registry.size_le_of_idOf? hother.1 hother.2
        have hanswer : answer ≠ true := by
          intro htrue
          have hindex := hrooted.registry.index_le (hiff.1 htrue)
          omega
        rw [Bool.eq_false_iff.2 hanswer]

end ClassKey.Denotes

/-! ### Conclusions -/

/-- What an operation comes to, with the frames that it leaves. -/
structure Conclusion (α : Type) where
  outcome : Except Halt α
  frames : List Frame

namespace Dispatch

/-- What a result comes to. -/
def conclusionOf {α : Type} : EStateM.Result Halt Execution α → Conclusion α
  | .ok value after => ⟨.ok value, after.thread.frames⟩
  | .error halt after => ⟨.error halt, after.thread.frames⟩

/-- A conclusion has the frames of the last execution. -/
theorem frames_conclusionOf {α : Type} (result : EStateM.Result Halt Execution α) :
    (conclusionOf result).frames = (finalOf result).thread.frames := by
  cases result <;> rfl

end Dispatch

namespace Machine

/-- What the search of a stack comes to for an exception of a class, after so many frames were
popped: the first frame with a matching entry handles it. -/
def searched (machine : Machine) (thrown : ClassKey) (diagnostic : String) (popped : Nat) :
    List Frame → Conclusion Handler
  | [] => ⟨.error (.fatal (.uncaught diagnostic)), []⟩
  | frame :: callers =>
    match frame.covering.find? (machine.matchesKey thrown frame.method) with
    | some entry =>
      ⟨.ok ⟨entry.handlerPc, popped⟩, { frame with pc := entry.handlerPc } :: callers⟩
    | none => machine.searched thrown diagnostic (popped + 1) callers

/-- What dispatching an exception of a class on a thread comes to, if the class is known. -/
def unwound? (machine : Machine) (thread : Thread) (thrown : ClassKey) :
    Option (Conclusion Handler) := do
  let (ownerId, method, line) := Diagnostic.origin thread
  let descriptor ← machine.descriptorOf? thrown
  let owner ← machine.registry.get? ownerId
  let diagnostic :=
    Diagnostic.text thread.name descriptor.name owner.name method owner.sourceFile line
  return machine.searched thrown diagnostic 0 thread.frames

/-- What constructing a built-in exception and dispatching it on a thread comes to. -/
def raised? (machine : Machine) (thread : Thread) (kind : Builtin) : Option (Conclusion Handler) :=
  let limit := machine.settings.maxConstructionDepth
  if limit ≤ thread.constructionDepth then
    some ⟨.error (.fatal (.constructionDepth kind.className limit)), thread.frames⟩
  else
    match machine.described? kind.className with
    | none => some ⟨.error (.fatal (.bootstrap kind.className)), thread.frames⟩
    | some _ => machine.unwound? thread (machine.key kind.className)

/-- What throwing an object, or no object, on a thread comes to. -/
def thrown? (machine : Machine) (thread : Thread) : Option ObjectRef → Option (Conclusion Handler)
  | none => machine.raised? thread .nullPointer
  | some object =>
    match machine.heap.get? object with
    | none => some ⟨.error (.fault (.noSuchObject object)), thread.frames⟩
    | some found => machine.unwound? thread (.registered found.classId)

end Machine

/-! ### Executions on a machine that has grown -/

namespace Execution

/-- An execution on a machine that has grown from another one. -/
structure Extends (execution : Execution) (machine : Machine) : Prop where
  growsTo : machine.GrowsTo execution.machine
  settings : execution.machine.settings = machine.settings

/-- An execution goes on from another one on the same thread, with the machine grown and no fewer
runs of guest code open. -/
structure Continues (start finish : Execution) : Prop where
  growsTo : start.machine.GrowsTo finish.machine
  settings : finish.machine.settings = start.machine.settings
  thread : finish.thread = start.thread
  unreturned_le : start.trace.unreturned ≤ finish.trace.unreturned

private theorem Continues.refl (execution : Execution) : execution.Continues execution :=
  ⟨.refl _, rfl, rfl, Int.le_refl _⟩

private theorem continues_record (execution : Execution) {event : Event}
    (hevent : event.marksGuest = false) : execution.Continues (execution.record event) :=
  ⟨.refl _, rfl, rfl, Int.le_of_eq (execution.unreturned_record_eq hevent).symm⟩

variable {base : Machine} {start middle finish : Execution}

private theorem Extends.continues (h : start.Extends base) (hgoes : start.Continues finish) :
    finish.Extends base :=
  ⟨h.growsTo.trans hgoes.growsTo, hgoes.settings.trans h.settings⟩

private theorem Continues.trans (hfirst : start.Continues middle)
    (hsecond : middle.Continues finish) :
    start.Continues finish where
  growsTo := hfirst.growsTo.trans hsecond.growsTo
  settings := hsecond.settings.trans hfirst.settings
  thread := hsecond.thread.trans hfirst.thread
  unreturned_le := Int.le_trans hfirst.unreturned_le hsecond.unreturned_le

end Execution

private theorem Course.continues {bound raises : Nat} {object? : Option ObjectRef}
    {start finish : Execution} (h : Course bound object? raises start .normal finish) :
    start.Continues finish where
  growsTo := h.growsTo
  settings := h.keeps.settings
  thread := by
    have hframes : finish.thread.frames = start.thread.frames := h.stackAfter
    rw [h.keeps.thread_eq, hframes]
  unreturned_le := h.unreturned_le

namespace Dispatch

private theorem verdict_eq {base machine : Machine} (hgrows : base.GrowsTo machine)
    (hsettings : machine.settings = base.settings) (hrooted : base.Rooted)
    {thrown target : ClassKey} {thrownId targetId : ClassId}
    (hthrown : thrown.Denotes base machine thrownId)
    (htarget : target.Denotes base machine targetId) :
    verdict machine targetId thrownId = .ok (base.catchesKey thrown target) := by
  rw [verdict, Machine.catchesKey, hsettings]
  cases base.settings.catchMatching with
  | exact =>
    have hsame : targetId = thrownId ↔ thrown = target :=
      eq_comm.trans (hthrown.eq_iff htarget hgrows)
    simp [hsame]
  | subclass => exact hthrown.isSubclass_eq htarget hgrows hrooted

variable {base : Machine} {bound : Nat} {start : Execution}

/-! ### Resolving classes -/

private theorem exitOf_find (name : String) (execution : Execution) :
    exitOf (find name execution) = .normal := by
  rw [find_apply]
  cases execution.machine.registry.idOf? name with
  | some id => rfl
  | none => cases execution.machine.load? name <;> rfl

private theorem exitOf_resolve {name : String}
    (h : Settled start (resolve (runner bound) name start)) :
    exitOf (resolve (runner bound) name start) = .normal := by
  rw [resolve_apply] at h ⊢
  cases hid : start.machine.registry.idOf? name with
  | some id => exact exitOf_find name start
  | none =>
    cases htake : start.machine.takeInitializer? name with
    | none => exact exitOf_find name start
    | some taken =>
      simp only [hid, htake] at h ⊢
      cases hrun : runner bound taken.1 none { start with machine := taken.2 } with
      | error halt after =>
        rw [hrun] at h
        exact returned_of_settled hrun (h.congr rfl rfl)
      | ok outcome after =>
        cases outcome with
        | returned => exact exitOf_find name after
        | unwound handler =>
          rw [hrun] at h
          exact returned_of_settled hrun (h.congr rfl rfl)

/-- A class is resolved if it was registered or could be loaded at the start. -/
theorem resolve_settled {name : String} (hgrown : start.Extends base)
    (h : Settled start (resolve (runner bound) name start)) :
    ∃ after, start.Continues after ∧
      ((base.described? name = none ∧
          resolve (runner bound) name start = .ok .missing after) ∨
        ((base.described? name).isSome = true ∧
          ∃ id, after.machine.registry.idOf? name = some id ∧
            resolve (runner bound) name start = .ok (.loaded id) after)) := by
  have hexit := exitOf_resolve h
  have hcourse : Follows bound none 0 start (resolve (runner bound) name start) :=
    resolve_follows (guestsFollow bound) name start
  rw [Follows, hexit] at hcourse
  have hgoes := hcourse.continues
  cases hresolve : resolve (runner bound) name start with
  | error halt after =>
    rw [hresolve] at hexit
    cases hexit
  | ok resolution after =>
    rw [hresolve] at hgoes hexit
    have hdescribed : after.machine.described? name = base.described? name :=
      (hgrown.continues hgoes).growsTo.described name
    rw [← hdescribed]
    refine ⟨after, hgoes, ?_⟩
    cases resolution with
    | unwound handler => cases hexit
    | missing =>
      obtain ⟨hid, hload⟩ := load?_of_resolve hresolve
      exact .inl ⟨Machine.described?_eq_none hid hload, rfl⟩
    | loaded id =>
      have hid := idOf?_of_resolve hresolve
      exact .inr ⟨Machine.described?_isSome hid, id, hid, rfl⟩

/-! ### Searching for a handler -/

private theorem settled_resolve_of_search {thrown : ClassId} {method : Method} {entry : CatchEntry}
    {rest : List CatchEntry} {ref : ClassRef} {owner : ClassDescriptor} {name : String}
    (htype : entry.catchType = .only ref)
    (howner : start.machine.registry.get? method.owner = some owner)
    (hname : owner.classNameAt? ref = some name)
    (h : Settled start (search (runner bound) thrown method (entry :: rest) start)) :
    Settled start (resolve (runner bound) name start) := by
  simp only [search_cons, htype, resolveConstant_apply, howner, hname] at h
  cases hresolve : resolve (runner bound) name start with
  | error halt after =>
    rw [hresolve] at h
    exact h.congr rfl rfl
  | ok resolution after =>
    rw [hresolve] at h
    cases resolution with
    | loaded | missing => exact .of_normal rfl
    | unwound handler => exact h.congr rfl rfl

private theorem search_entry_settled (hrooted : base.Rooted) {thrown : ClassKey}
    {thrownId : ClassId} {method : Method} (howner : method.owner.index < base.registry.size)
    (entry : CatchEntry) (rest : List CatchEntry) (hgrown : start.Extends base)
    (hthrown : thrown.Denotes base start.machine thrownId)
    (h : Settled start (search (runner bound) thrownId method (entry :: rest) start)) :
    ∃ after, start.Continues after ∧
      search (runner bound) thrownId method (entry :: rest) start =
        if base.matchesKey thrown method entry then .ok (.found entry.handlerPc) after
        else search (runner bound) thrownId method rest after := by
  obtain ⟨owner, hold⟩ := Option.isSome_iff_exists.1 (Registry.get?_isSome_iff.2 howner)
  have hget := (hgrown.growsTo.registry.get?_eq howner).trans hold
  cases htype : entry.catchType with
  | any =>
    refine ⟨start, .refl start, ?_⟩
    simp only [search_cons, Machine.matchesKey, htype, if_true]
  | only ref =>
    let unresolved : Event := .unresolved ref.index owner.name method.name
    simp only [search_cons, htype, resolveConstant_apply, hget]
    cases hname : owner.classNameAt? ref with
    | none =>
      refine ⟨start.record unresolved, start.continues_record rfl, ?_⟩
      simp [Machine.matchesKey, htype, hold, hname, hget, unresolved]
    | some name =>
      have hmatches : base.matchesKey thrown method entry =
          ((base.described? name).isSome && base.catchesKey thrown (base.key name)) := by
        simp [Machine.matchesKey, htype, hold, hname]
      obtain ⟨after, hgoes, ⟨hnone, hresolve⟩ | ⟨hsome, id, hid, hresolve⟩⟩ :=
        resolve_settled hgrown (settled_resolve_of_search htype hget hname h)
      · have hafter := ((hgrown.continues hgoes).growsTo.registry.get?_eq howner).trans hold
        refine ⟨after.record unresolved, hgoes.trans (after.continues_record rfl), ?_⟩
        simp [hmatches, hnone, hresolve, hafter, unresolved]
      · have hgrows := (hgrown.continues hgoes).growsTo
        have hverdict := verdict_eq hgrows (hgrown.continues hgoes).settings hrooted
          (hthrown.growsTo hgoes.growsTo) (.of_idOf? hgrows hid)
        refine ⟨after, hgoes, ?_⟩
        simp only [hmatches, hsome, Bool.true_and, hresolve, hverdict]
        cases base.catchesKey thrown (base.key name) <;> rfl

/-- The search of a frame finds the first entry that matches by what was known at the start. -/
theorem search_settled (hrooted : base.Rooted) {thrown : ClassKey} {thrownId : ClassId}
    {method : Method} (howner : method.owner.index < base.registry.size)
    (entries : List CatchEntry) (hgrown : start.Extends base)
    (hthrown : thrown.Denotes base start.machine thrownId)
    (h : Settled start (search (runner bound) thrownId method entries start)) :
    ∃ after, start.Continues after ∧
      search (runner bound) thrownId method entries start =
        .ok (match entries.find? (base.matchesKey thrown method) with
          | some entry => .found entry.handlerPc
          | none => .notFound) after := by
  induction entries generalizing start with
  | nil => exact ⟨start, .refl start, rfl⟩
  | cons entry rest ih =>
    obtain ⟨middle, hgoes, hentry⟩ :=
      search_entry_settled hrooted howner entry rest hgrown hthrown h
    rw [hentry] at h ⊢
    by_cases hmatches : base.matchesKey thrown method entry = true
    · refine ⟨middle, hgoes, ?_⟩
      rw [if_pos hmatches, List.find?_cons_of_pos hmatches]
    · rw [if_neg hmatches] at h ⊢
      obtain ⟨after, hafter, hrest⟩ :=
        ih (hgrown.continues hgoes) (hthrown.growsTo hgoes.growsTo) (h.after hgoes.unreturned_le)
      refine ⟨after, hgoes.trans hafter, ?_⟩
      rw [hrest, List.find?_cons_of_neg hmatches]

private theorem settled_search_of_searchFrames {exception : Thrown} {popped : Nat} {frame : Frame}
    {callers : List Frame}
    (h : Settled start (searchFrames (runner bound) exception popped (frame :: callers) start)) :
    Settled start
      (search (runner bound) exception.classId frame.method frame.covering start) := by
  rw [searchFrames_cons] at h
  cases hsearch : search (runner bound) exception.classId frame.method frame.covering start with
  | error halt after =>
    simp only [hsearch] at h
    exact h.congr rfl rfl
  | ok result after =>
    simp only [hsearch] at h
    cases result with
    | found | notFound => exact .of_normal rfl
    | unwound handler =>
      exact h.congr_unwound rfl rfl (after.unreturned_record_eq rfl).symm

/-- The search of a stack comes to what was known at the start. -/
theorem searchFrames_settled (hrooted : base.Rooted) {exception : Thrown} {thrown : ClassKey}
    (popped : Nat) {frames : List Frame}
    (howners : ∀ frame ∈ frames, frame.method.owner.index < base.registry.size)
    (hframes : start.thread.frames = frames) (hgrown : start.Extends base)
    (hthrown : thrown.Denotes base start.machine exception.classId)
    (h : Settled start (searchFrames (runner bound) exception popped frames start)) :
    conclusionOf (searchFrames (runner bound) exception popped frames start) =
      base.searched thrown exception.diagnostic popped frames := by
  induction frames generalizing start popped with
  | nil =>
    rw [searchFrames_nil, conclusionOf, hframes]
    rfl
  | cons frame callers ih =>
    obtain ⟨howner, hcallers⟩ := List.forall_mem_cons.1 howners
    obtain ⟨after, hgoes, hsearch⟩ := search_settled hrooted howner frame.covering hgrown hthrown
      (settled_search_of_searchFrames h)
    have hafter : after.thread.frames = frame :: callers := by rw [hgoes.thread, hframes]
    have hextends := hgrown.continues hgoes
    rw [searchFrames_cons, Machine.searched]
    rw [searchFrames_cons] at h
    simp only [hsearch] at h ⊢
    cases hfind : frame.covering.find? (base.matchesKey thrown frame.method) with
    | some entry => simp [conclusionOf, Thread.setPc, hafter]
    | none =>
      simp only [hfind] at h ⊢
      apply ih (popped + 1) hcallers
      · simp [Thread.pop, hafter]
      · exact ⟨hextends.growsTo, hextends.settings⟩
      · exact hthrown.growsTo hgoes.growsTo
      · apply h.after
        exact (hgoes.trans (after.continues_record rfl)).unreturned_le

/-- Dispatching an object comes to what was known at the start of its class. -/
theorem unwind_settled (hrooted : base.Rooted) {object : ObjectRef} {found : Object}
    {thrown : ClassKey} (hgrown : start.Extends base) (hthread : start.thread.FitsIn base)
    (hobject : start.machine.heap.get? object = some found)
    (hthrown : thrown.Denotes base start.machine found.classId)
    (h : Settled start (unwind (runner bound) object start)) :
    base.unwound? start.thread thrown =
      some (conclusionOf (unwind (runner bound) object start)) := by
  have horigin := Diagnostic.origin_lt hthread.classId hthread.frames
  obtain ⟨owner, howner⟩ := Option.isSome_iff_exists.1 (Registry.get?_isSome_iff.2 horigin)
  have hnow := (hgrown.growsTo.registry.get?_eq horigin).trans howner
  obtain ⟨descriptor, hget⟩ := Option.isSome_iff_exists.1
    (Registry.get?_isSome_iff.2 (hthrown.lt_size hgrown.growsTo))
  have hdescriptor := (hthrown.get?_eq hgrown.growsTo).symm.trans hget
  rw [unwind_apply, Diagnostic.thrown_eq, hobject] at h ⊢
  simp only [hget, hnow] at h ⊢
  rw [searchFrames_settled hrooted 0 hthread.frames rfl hgrown hthrown h]
  simp [Machine.unwound?, hdescriptor, howner]

/-! ### Raising exceptions -/

/-- A construction changes the machine step by step, once its object is there. -/
theorem changes_construction (bound : Nat) (kind : Builtin) (id : ClassId)
    (descriptor : ClassDescriptor) (execution : Execution) :
    Relation.ReflTransGen Machine.Changes
      (execution.beginConstruction kind id descriptor).machine
      (finalOf (construction (runner bound) kind id descriptor execution)).machine := by
  rw [construction]
  cases htake : (execution.beginConstruction kind id descriptor).machine.takeConstructor?
    descriptor.name with
  | none => exact .refl
  | some taken =>
    have hguest := changes_runner bound taken.1 (some execution.nextObject)
      { execution.beginConstruction kind id descriptor with machine := taken.2 }
    simp only
    cases hrun : runner bound taken.1 (some execution.nextObject)
      { execution.beginConstruction kind id descriptor with machine := taken.2 } with
    | error halt after =>
      rw [hrun] at hguest
      exact .head (.constructor htake) hguest
    | ok outcome after =>
      rw [hrun] at hguest
      exact .head (.constructor htake) hguest

/-- The object of a construction is there from its beginning on. -/
theorem growsTo_construction (bound : Nat) (kind : Builtin) (id : ClassId)
    (descriptor : ClassDescriptor) (execution : Execution) :
    (execution.beginConstruction kind id descriptor).machine.GrowsTo
      (finalOf (construction (runner bound) kind id descriptor execution)).machine :=
  Machine.growsTo_of_changes (changes_construction bound kind id descriptor execution)

private theorem exitOf_construction {kind : Builtin} {id : ClassId} {descriptor : ClassDescriptor}
    (h : Settled start (construction (runner bound) kind id descriptor start)) :
    exitOf (construction (runner bound) kind id descriptor start) = .normal := by
  rw [construction] at h ⊢
  have hbegun := start.unreturned_beginConstruction kind id descriptor
  cases htake : (start.beginConstruction kind id descriptor).machine.takeConstructor?
    descriptor.name with
  | none => rfl
  | some taken =>
    simp only [htake] at h ⊢
    have hleft (after : Execution) := (after.unreturned_leaveConstructor start.nextObject).symm
    have hexit (result : EStateM.Result Halt Execution Completion)
        (hrun : runner bound taken.1 (some start.nextObject)
          { start.beginConstruction kind id descriptor with machine := taken.2 } = result)
        (hresult : Settled start result) : exitOf result = .normal :=
      returned_of_settled hrun (hresult.after (Int.le_of_eq hbegun.symm))
    cases hrun : runner bound taken.1 (some start.nextObject)
      { start.beginConstruction kind id descriptor with machine := taken.2 } with
    | error halt after =>
      rw [hrun] at h
      exact hexit (.error halt after) hrun (h.congr rfl (hleft after))
    | ok outcome after =>
      rw [hrun] at h
      exact hexit (.ok outcome after) hrun (h.congr rfl (hleft after))

/-- A construction that is settled leaves an object of the class that was asked for. -/
theorem construction_settled {kind : Builtin} {id : ClassId} {descriptor : ClassDescriptor}
    (h : Settled start (construction (runner bound) kind id descriptor start)) :
    ∃ after found,
      construction (runner bound) kind id descriptor start = .ok .returned after ∧
        after.machine.heap.get? start.nextObject = some found ∧ found.classId = id := by
  have hexit := exitOf_construction h
  have hgrows := growsTo_construction bound kind id descriptor start
  have hnew : (start.beginConstruction kind id descriptor).machine.heap.get? start.nextObject =
      some (.fresh id descriptor.fieldCount.toNat) :=
    (Heap.get?_push _ _ _).trans (if_pos rfl)
  obtain ⟨found, hfound, hclass⟩ := hgrows.exists_get? hnew
  cases hrun : construction (runner bound) kind id descriptor start with
  | error halt after =>
    rw [hrun] at hexit
    cases hexit
  | ok outcome after =>
    rw [hrun] at hexit hfound
    cases outcome with
    | unwound handler => cases hexit
    | returned => exact ⟨after, found, rfl, hfound, hclass⟩

private theorem settled_resolve_of_construct {kind : Builtin}
    (hdepth : ¬ start.machine.settings.maxConstructionDepth ≤ start.thread.constructionDepth)
    (h : Settled start (construct (runner bound) kind start)) :
    Settled start (resolve (runner bound) kind.className start) := by
  simp only [construct_apply, if_neg hdepth] at h
  cases hresolve : resolve (runner bound) kind.className start with
  | error halt after =>
    rw [hresolve] at h
    exact h.congr rfl rfl
  | ok resolution after =>
    rw [hresolve] at h
    cases resolution with
    | loaded | missing => exact .of_normal rfl
    | unwound handler => exact h.congr rfl rfl

private theorem settled_construction_of_construct {kind : Builtin} {middle : Execution}
    {id : ClassId} {descriptor : ClassDescriptor}
    (hdepth : ¬ start.machine.settings.maxConstructionDepth ≤ start.thread.constructionDepth)
    (hresolve : resolve (runner bound) kind.className start = .ok (.loaded id) middle)
    (hget : middle.machine.registry.get? id = some descriptor)
    (h : Settled start (construct (runner bound) kind start)) :
    Settled start (construction (runner bound) kind id descriptor middle) := by
  simp only [construct_apply, if_neg hdepth, hresolve, hget] at h
  cases hrun : construction (runner bound) kind id descriptor middle with
  | error halt after =>
    rw [hrun] at h
    exact h.congr rfl rfl
  | ok outcome after =>
    rw [hrun] at h
    cases outcome with
    | returned => exact .of_normal rfl
    | unwound handler => exact h.congr rfl rfl

/-- An exception whose class is known is constructed, unless the thread is at its limit. -/
theorem construct_settled {kind : Builtin} (hgrown : start.Extends base)
    (hdepth : ¬ start.machine.settings.maxConstructionDepth ≤ start.thread.constructionDepth)
    (h : Settled start (construct (runner bound) kind start)) :
    ∃ after, start.Continues after ∧
      ((base.described? kind.className = none ∧
          construct (runner bound) kind start =
            .error (.fatal (.bootstrap kind.className)) after) ∨
        ((base.described? kind.className).isSome = true ∧
          ∃ object found, construct (runner bound) kind start = .ok (.finished object) after ∧
            after.machine.heap.get? object = some found ∧
            (base.key kind.className).Denotes base after.machine found.classId)) := by
  obtain ⟨middle, hgoes, ⟨hnone, hresolve⟩ | ⟨hsome, id, hid, hresolve⟩⟩ :=
    resolve_settled hgrown (settled_resolve_of_construct hdepth h)
  · refine ⟨middle, hgoes, .inl ⟨hnone, ?_⟩⟩
    simp only [construct_apply, if_neg hdepth, hresolve]
  · obtain ⟨descriptor, hget⟩ :=
      Option.isSome_iff_exists.1 (Registry.get?_isSome_iff.2 (Registry.lt_size_of_idOf? hid))
    have hsettled := settled_construction_of_construct hdepth hresolve hget h
    obtain ⟨after, found, hrun, hfound, rfl⟩ :=
      construction_settled (hsettled.after hgoes.unreturned_le)
    have hconstruct : construct (runner bound) kind start =
        .ok (.finished middle.nextObject) after := by
      simp only [construct_apply, if_neg hdepth, hresolve, hget, hrun]
    have hcourse : Follows bound none 1 start (construct (runner bound) kind start) :=
      construct_follows (guestsFollow bound) kind start
    have hgrows := growsTo_construction bound kind found.classId descriptor middle
    rw [hconstruct] at hcourse
    rw [hrun] at hgrows
    have hknown : (base.key kind.className).Denotes base middle.machine found.classId :=
      .of_idOf? (hgrown.continues hgoes).growsTo hid
    exact ⟨after, hcourse.continues, .inr ⟨hsome, middle.nextObject, found, hconstruct, hfound,
      hknown.growsTo ((Machine.Changes.allocation hget).growsTo.trans hgrows)⟩⟩

private theorem settled_construct_of_constructAndUnwind {kind : Builtin}
    (h : Settled start (constructAndUnwind (runner bound) kind start)) :
    Settled start (construct (runner bound) kind start) := by
  rw [constructAndUnwind_apply] at h
  cases hrun : construct (runner bound) kind start with
  | error halt after =>
    rw [hrun] at h
    exact h.congr rfl rfl
  | ok outcome after =>
    rw [hrun] at h
    cases outcome with
    | finished object => exact .of_normal rfl
    | unwound handler => exact h.congr rfl rfl

/-- Constructing an exception and dispatching it comes to what was known at the start. -/
theorem constructAndUnwind_settled (hrooted : base.Rooted) {kind : Builtin}
    (hgrown : start.Extends base) (hthread : start.thread.FitsIn base)
    (h : Settled start (constructAndUnwind (runner bound) kind start)) :
    base.raised? start.thread kind =
      some (conclusionOf (constructAndUnwind (runner bound) kind start)) := by
  rw [Machine.raised?, ← hgrown.settings]
  by_cases hdepth : start.machine.settings.maxConstructionDepth ≤ start.thread.constructionDepth
  · simp only [constructAndUnwind_apply, construct_apply, if_pos hdepth]
    rfl
  · simp only [if_neg hdepth]
    obtain ⟨after, hgoes, ⟨hnone, hrun⟩ | ⟨hsome, object, found, hrun, hfound, hclass⟩⟩ :=
      construct_settled hgrown hdepth (settled_construct_of_constructAndUnwind h)
    · rw [hnone, constructAndUnwind_apply, hrun, conclusionOf, hgoes.thread]
    · obtain ⟨descriptor, hdescribed⟩ := Option.isSome_iff_exists.1 hsome
      rw [constructAndUnwind_apply, hrun] at h
      rw [hdescribed, constructAndUnwind_apply, hrun, ← hgoes.thread]
      have hfits : after.thread.FitsIn base := by rwa [hgoes.thread]
      exact unwind_settled hrooted (hgrown.continues hgoes) hfits hfound hclass
        (h.after hgoes.unreturned_le)

/-- Throwing an object that was there at the start, or no object, comes to what was known then. -/
theorem throwObject_settled (hbase : base.WellFormed) (hgrown : start.Extends base)
    (hheap : start.machine.heap = base.heap) (hthread : start.thread.FitsIn base)
    {object? : Option ObjectRef}
    (h : Settled start (throwObject (runner bound) object? start)) :
    base.thrown? start.thread object? =
      some (conclusionOf (throwObject (runner bound) object? start)) := by
  cases object? with
  | none => exact constructAndUnwind_settled hbase.toRooted hgrown hthread h
  | some object =>
    rw [Machine.thrown?, ← hheap]
    cases hobject : start.machine.heap.get? object with
    | none =>
      simp only [throwObject, unwind_apply, Diagnostic.thrown_eq, hobject]
      rfl
    | some found =>
      have hclass := hbase.objects found.classId (Heap.classId_mem_classIds (hheap ▸ hobject))
      exact unwind_settled hbase.toRooted hgrown hthread hobject ⟨rfl, hclass⟩ h

end Dispatch

end ExceptionDispatch
