import ExceptionDispatch.Proofs.Course.Basic

/-!
# What a course keeps

Whatever happens in an operation, the settings and the identity of the thread stay, the
construction depth ends where it began, initializers are only taken away, and constructors only run
out. Main statement: `Course.keeps`.
-/

namespace ExceptionDispatch

namespace ConstructorRule

/-- A constructor that is run belongs to a rule, and the rules keep their guest code. -/
theorem code_of_spendFirst? {className : String} {rules spent : List ConstructorRule}
    {code : GuestCode} (h : spendFirst? className rules = some (code, spent)) :
    code ∈ rules.map ConstructorRule.code ∧
      spent.map ConstructorRule.code = rules.map ConstructorRule.code := by
  induction rules generalizing spent with
  | nil => simp [spendFirst?] at h
  | cons rule rest ih =>
    rw [spendFirst?] at h
    split at h
    · cases h
      simp [spend]
    · obtain ⟨⟨found, left⟩, hfound, heq⟩ := Option.map_eq_some_iff.1 h
      cases heq
      obtain ⟨hmem, hcodes⟩ := ih hfound
      simp [hmem, hcodes]

end ConstructorRule

namespace Machine

/-- The guest code that there are rules for. -/
def guestCodes (machine : Machine) : List GuestCode :=
  machine.initializers.map InitializerRule.code ++ machine.constructors.map ConstructorRule.code

/-- Loading a class moves its descriptor from the loadable classes to the registry. -/
theorem eq_of_load? {machine loaded : Machine} {name : String} {id : ClassId}
    (h : machine.load? name = some (id, loaded)) :
    ∃ descriptor, machine.loadable.find? (·.name == name) = some descriptor ∧
      id = (machine.registry.define descriptor).1 ∧
      loaded = { machine with
        registry := (machine.registry.define descriptor).2
        loadable := machine.loadable.eraseP (·.name == name)
        loaded := machine.loaded.push name } := by
  obtain ⟨descriptor, hfind, heq⟩ := Option.map_eq_some_iff.1 h
  cases heq
  exact ⟨descriptor, hfind, rfl, rfl⟩

/-- Taking an initializer removes its rule. -/
theorem eq_of_takeInitializer? {machine taken : Machine} {name : String} {code : GuestCode}
    (h : machine.takeInitializer? name = some (code, taken)) :
    ∃ rule, machine.initializers.find? (·.className == name) = some rule ∧ rule.code = code ∧
      taken = { machine with
        initializers := machine.initializers.eraseP (·.className == name) } := by
  obtain ⟨rule, hfind, heq⟩ := Option.map_eq_some_iff.1 h
  cases heq
  exact ⟨rule, hfind, rfl, rfl⟩

/-- Taking a constructor uses up one run of its rule. -/
theorem eq_of_takeConstructor? {machine taken : Machine} {className : String} {code : GuestCode}
    (h : machine.takeConstructor? className = some (code, taken)) :
    ∃ rules, ConstructorRule.spendFirst? className machine.constructors = some (code, rules) ∧
      taken = { machine with constructors := rules } := by
  obtain ⟨⟨found, rules⟩, hspend, heq⟩ := Option.map_eq_some_iff.1 h
  cases heq
  exact ⟨rules, hspend, rfl⟩

/-- A message is written on the heap only. -/
theorem writeMessage_eq (machine : Machine) (object : ObjectRef) (text : String) :
    machine.writeMessage object text =
      { machine with heap := (machine.writeMessage object text).heap } := by
  rw [writeMessage]
  cases machine.messageClasses? <;> rfl

/-- The initializer that is taken is one of the machine's guest codes. -/
theorem mem_guestCodes_of_takeInitializer? {machine taken : Machine} {name : String}
    {code : GuestCode} (h : machine.takeInitializer? name = some (code, taken)) :
    code ∈ machine.guestCodes := by
  obtain ⟨rule, hfind, rfl, -⟩ := eq_of_takeInitializer? h
  exact List.mem_append_left _ (List.mem_map_of_mem (List.mem_of_find?_eq_some hfind))

/-- The constructor that is taken is one of the machine's guest codes. -/
theorem mem_guestCodes_of_takeConstructor? {machine taken : Machine} {className : String}
    {code : GuestCode} (h : machine.takeConstructor? className = some (code, taken)) :
    code ∈ machine.guestCodes := by
  obtain ⟨rules, hspend, -⟩ := eq_of_takeConstructor? h
  exact List.mem_append_right _ (ConstructorRule.code_of_spendFirst? hspend).1

end Machine

/-- One execution keeps what another one has that no operation changes. -/
structure Execution.Keeps (start finish : Execution) : Prop where
  settings : finish.machine.settings = start.machine.settings
  threadName : finish.thread.name = start.thread.name
  threadClass : finish.thread.classId = start.thread.classId
  depth : finish.thread.constructionDepth = start.thread.constructionDepth
  initializers : finish.machine.initializers.Sublist start.machine.initializers
  constructors : finish.machine.constructors.map ConstructorRule.code =
    start.machine.constructors.map ConstructorRule.code

namespace Execution.Keeps

/-- Nothing is changed by doing nothing. -/
theorem refl (execution : Execution) : execution.Keeps execution :=
  ⟨rfl, rfl, rfl, rfl, List.Sublist.refl _, rfl⟩

/-- What is kept twice is kept. -/
theorem trans {start middle finish : Execution} (hfirst : start.Keeps middle)
    (hsecond : middle.Keeps finish) : start.Keeps finish where
  settings := hsecond.settings.trans hfirst.settings
  threadName := hsecond.threadName.trans hfirst.threadName
  threadClass := hsecond.threadClass.trans hfirst.threadClass
  depth := hsecond.depth.trans hfirst.depth
  initializers := hsecond.initializers.trans hfirst.initializers
  constructors := hsecond.constructors.trans hfirst.constructors

/-- The thread has changed in its frames only. -/
theorem thread_eq {start finish : Execution} (h : start.Keeps finish) :
    finish.thread = { start.thread with frames := finish.thread.frames } := by
  calc
    finish.thread = ⟨finish.thread.name, finish.thread.classId, finish.thread.frames,
        finish.thread.constructionDepth⟩ := rfl
    _ = { start.thread with frames := finish.thread.frames } := by
      rw [h.threadName, h.threadClass, h.depth]

/-- No guest code is new. -/
theorem guestCodes_subset {start finish : Execution} (h : start.Keeps finish) :
    finish.machine.guestCodes ⊆ start.machine.guestCodes := by
  intro code hcode
  rw [Machine.guestCodes, List.mem_append, h.constructors] at hcode
  rw [Machine.guestCodes, List.mem_append]
  exact hcode.imp_left fun hmem => (h.initializers.map _).subset hmem

end Execution.Keeps

/-- Moving the current frame changes nothing but the frames. -/
theorem Thread.setPc_eq (thread : Thread) (pc : UInt16) :
    thread.setPc pc = { thread with frames := (thread.setPc pc).frames } := by
  rw [setPc]
  cases thread.frames <;> rfl

namespace Execution

private theorem keeps_record (start : Execution) (event : Event) :
    start.Keeps (start.record event) :=
  ⟨rfl, rfl, rfl, rfl, List.Sublist.refl _, rfl⟩

/-- A change of the frames keeps everything. -/
theorem keeps_modifyThread (start : Execution) {change : Thread → Thread}
    (h : ∀ thread, change thread = { thread with frames := (change thread).frames }) :
    start.Keeps (start.modifyThread change) where
  settings := rfl
  threadName := by rw [thread_modifyThread, h]
  threadClass := by rw [thread_modifyThread, h]
  depth := by rw [thread_modifyThread, h]
  initializers := List.Sublist.refl _
  constructors := rfl

/-- A loaded class keeps everything. -/
theorem keeps_load {start : Execution} {machine : Machine} {name : String} {id : ClassId}
    (h : start.machine.load? name = some (id, machine)) : start.Keeps { start with machine } := by
  obtain ⟨descriptor, -, -, rfl⟩ := Machine.eq_of_load? h
  exact ⟨rfl, rfl, rfl, rfl, List.Sublist.refl _, rfl⟩

private theorem keeps_writeMessage (start : Execution) (object : ObjectRef) (text : String) :
    start.Keeps { start with machine := start.machine.writeMessage object text } := by
  rw [Machine.writeMessage_eq]
  exact ⟨rfl, rfl, rfl, rfl, List.Sublist.refl _, rfl⟩

/-- The initializer that is taken is one less to run. -/
theorem keeps_takeInitializer {start : Execution} {machine : Machine} {name : String}
    {code : GuestCode} (h : start.machine.takeInitializer? name = some (code, machine)) :
    start.Keeps { start with machine } := by
  obtain ⟨rule, -, -, rfl⟩ := Machine.eq_of_takeInitializer? h
  exact ⟨rfl, rfl, rfl, rfl, List.eraseP_sublist, rfl⟩

/-- The beginning of guest code only pushes frames. -/
theorem keeps_enterGuest (start : Execution) (code : GuestCode) :
    start.Keeps (start.enterGuest code) :=
  (start.keeps_modifyThread fun _ => rfl).trans (keeps_record _ _)

private theorem keeps_leaveGuest (start : Execution) (base : Nat) (outcome : Completion) :
    start.Keeps (start.leaveGuest base outcome) :=
  (start.keeps_modifyThread fun _ => rfl).trans (keeps_record _ _)

/-- The constructor that is taken keeps its guest code. -/
theorem keeps_takeConstructor {start : Execution} {machine : Machine} {className : String}
    {code : GuestCode} (h : start.machine.takeConstructor? className = some (code, machine)) :
    start.Keeps { start with machine } := by
  obtain ⟨rules, hspend, rfl⟩ := Machine.eq_of_takeConstructor? h
  exact ⟨rfl, rfl, rfl, rfl, List.Sublist.refl _, (ConstructorRule.code_of_spendFirst? hspend).2⟩

/-- The beginning of an initializer keeps everything. -/
theorem keeps_enterInitializer {start : Execution} {machine : Machine} {name : String}
    {code : GuestCode} (h : start.machine.takeInitializer? name = some (code, machine)) :
    start.Keeps ({ start with machine }.enterGuest code) :=
  (keeps_takeInitializer h).trans (keeps_enterGuest _ code)

/-- The beginning of a constructor's guest code keeps everything. -/
theorem keeps_enterConstructor {start : Execution} {machine : Machine} {className : String}
    {code : GuestCode} (h : start.machine.takeConstructor? className = some (code, machine)) :
    start.Keeps ({ start with machine }.enterGuest code) :=
  (keeps_takeConstructor h).trans (keeps_enterGuest _ code)

private theorem keeps_leaveConstructor {start finish : Execution} {kind : Builtin} {id : ClassId}
    {descriptor : ClassDescriptor} {object : ObjectRef}
    (h : (start.beginConstruction kind id descriptor).Keeps finish) :
    start.Keeps (finish.leaveConstructor object) where
  settings := h.settings
  threadName := h.threadName
  threadClass := h.threadClass
  depth := by simp [h.depth]
  initializers := h.initializers
  constructors := h.constructors

end Execution

/-- However guest code ends, what it has kept is kept. -/
theorem GuestEnds.keeps {base : Nat} {acted finish : Execution} {inner exit : Exit}
    (h : GuestEnds base acted inner exit finish) : acted.Keeps finish := by
  cases h with
  | returned => exact acted.keeps_leaveGuest _ _
  | caught => exact acted.keeps_leaveGuest _ _
  | unwound => exact acted.keeps_leaveGuest _ _
  | halted => exact .refl _

/-- An operation keeps the settings, the thread's identity and its construction depth, and no guest
code is new after it. -/
theorem Course.keeps {bound raises : Nat} {object? : Option ObjectRef} {start finish : Execution}
    {exit : Exit} (h : Course bound object? raises start exit finish) : start.Keeps finish := by
  induction h with
  | refl start => exact .refl start
  | trans _ _ ihfirst ihsecond => exact ihfirst.trans ihsecond
  | record event _ _ _ _ ih => exact ih.trans (Execution.keeps_record _ event)
  | load _ hload => exact Execution.keeps_load hload
  | message start object text => exact start.keeps_writeMessage object text
  | initializer _ htake _ _ hends ih =>
    exact (Execution.keeps_enterInitializer htake).trans (ih.trans hends.keeps)
  | initializerTooDeep _ htake => exact Execution.keeps_takeInitializer htake
  | construct => exact Execution.keeps_leaveConstructor (.refl _)
  | constructor _ _ _ htake _ _ hends ih =>
    exact Execution.keeps_leaveConstructor
      ((Execution.keeps_enterConstructor htake).trans (ih.trans hends.keeps))
  | constructorTooDeep _ _ _ htake =>
    exact Execution.keeps_leaveConstructor (Execution.keeps_takeConstructor htake)
  | caught =>
    exact (Execution.keeps_modifyThread _ fun thread => thread.setPc_eq _).trans
      (Execution.keeps_record _ _)
  | popped _ _ _ _ ih => exact (Execution.keeps_modifyThread _ fun _ => rfl).trans ih
  | uncaught | bootstrap | constructionDepth | fault => exact .refl _

end ExceptionDispatch
