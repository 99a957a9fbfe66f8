import ExceptionDispatch.Proofs.Course.Changes
import ExceptionDispatch.Session.Run

/-!
# Well-formed machines

On a well-formed machine everything that is referred to is there: the superclasses of classes, the
classes of objects, the owners of methods and the objects that guest code throws. A machine that
grows keeps what was there, so what is well-formed stays so with every change. Main statement:
`Machine.Changes.wellFormed`.
-/

namespace ExceptionDispatch

/-- The object that guest code throws. -/
def GuestAction.thrown? : GuestAction → Option ObjectRef
  | .throw object? => object?
  | .nothing | .message _ | .raise _ => none

/-- The owners of the guest code's methods are registered, and the object that it throws exists. -/
structure GuestCode.FitsIn (code : GuestCode) (machine : Machine) : Prop where
  frames : ∀ frame ∈ code.frames, frame.method.owner.index < machine.registry.size
  thrown : ∀ object ∈ code.action.thrown?, object.index < machine.heap.size

/-- The class of the thread and the owners of its methods are registered. -/
structure Thread.FitsIn (thread : Thread) (machine : Machine) : Prop where
  classId : thread.classId.index < machine.registry.size
  frames : ∀ frame ∈ thread.frames, frame.method.owner.index < machine.registry.size

/-- Superclasses come first, the classes of objects are registered, and guest code refers to what is
there. -/
structure Machine.WellFormed (machine : Machine) : Prop extends machine.Rooted where
  objects : ∀ id ∈ machine.heap.classIds, id.index < machine.registry.size
  guestCodes : ∀ code ∈ machine.guestCodes, code.FitsIn machine

/-- The machine is well-formed, and the thread refers to what is there. -/
structure Execution.WellFormed (execution : Execution) : Prop where
  machine : execution.machine.WellFormed
  thread : execution.thread.FitsIn execution.machine

/-- The machine is well-formed, and all methods and threads refer to what is there. -/
structure Session.WellFormed (session : Session) : Prop where
  machine : session.machine.WellFormed
  methods : ∀ method ∈ session.methods, method.owner.index < session.machine.registry.size
  threads : ∀ thread ∈ session.threads, thread.FitsIn session.machine

/-- What an operation is given is there. -/
def Operation.FitsIn (machine : Machine) : Operation → Prop
  | .resolve _ | .construct _ | .constructAndUnwind _ => True
  | .resolveConstant _ context => context.index < machine.registry.size
  | .unwind object => object.index < machine.heap.size
  | .throw object? => ∀ object ∈ object?, object.index < machine.heap.size

instance (code : GuestCode) (machine : Machine) : Decidable (code.FitsIn machine) :=
  decidable_of_iff ((∀ frame ∈ code.frames, frame.method.owner.index < machine.registry.size) ∧
      ∀ object ∈ code.action.thrown?, object.index < machine.heap.size)
    ⟨fun h => ⟨h.1, h.2⟩, fun h => ⟨h.frames, h.thrown⟩⟩

instance (thread : Thread) (machine : Machine) : Decidable (thread.FitsIn machine) :=
  decidable_of_iff (thread.classId.index < machine.registry.size ∧
      ∀ frame ∈ thread.frames, frame.method.owner.index < machine.registry.size)
    ⟨fun h => ⟨h.1, h.2⟩, fun h => ⟨h.classId, h.frames⟩⟩

instance (machine : Machine) : Decidable machine.WellFormed :=
  decidable_of_iff (machine.Rooted ∧
      (∀ id ∈ machine.heap.classIds, id.index < machine.registry.size) ∧
      ∀ code ∈ machine.guestCodes, code.FitsIn machine)
    ⟨fun h => ⟨h.1, h.2.1, h.2.2⟩, fun h => ⟨h.toRooted, h.objects, h.guestCodes⟩⟩

instance (execution : Execution) : Decidable execution.WellFormed :=
  decidable_of_iff (execution.machine.WellFormed ∧ execution.thread.FitsIn execution.machine)
    ⟨fun h => ⟨h.1, h.2⟩, fun h => ⟨h.machine, h.thread⟩⟩

instance (session : Session) : Decidable session.WellFormed :=
  decidable_of_iff (session.machine.WellFormed ∧
      (∀ method ∈ session.methods, method.owner.index < session.machine.registry.size) ∧
      ∀ thread ∈ session.threads, thread.FitsIn session.machine)
    ⟨fun h => ⟨h.1, h.2.1, h.2.2⟩, fun h => ⟨h.machine, h.methods, h.threads⟩⟩

/-! ### Growth -/

namespace Machine.GrowsTo

variable {old new : Machine}

/-- A registered class stays registered. -/
theorem lt_registry_size (h : old.GrowsTo new) {id : ClassId}
    (hid : id.index < old.registry.size) : id.index < new.registry.size :=
  Nat.lt_of_lt_of_le hid h.registry.size_le

/-- An object that exists goes on existing. -/
theorem lt_heap_size (h : old.GrowsTo new) {object : ObjectRef}
    (hobject : object.index < old.heap.size) : object.index < new.heap.size := by
  have hlength := h.classIds.length_le
  rw [Heap.length_classIds, Heap.length_classIds] at hlength
  omega

/-- What guest code refers to stays there. -/
theorem guestCode_fitsIn (h : old.GrowsTo new) {code : GuestCode} (hcode : code.FitsIn old) :
    code.FitsIn new where
  frames frame hframe := h.lt_registry_size (hcode.frames frame hframe)
  thrown object hobject := h.lt_heap_size (hcode.thrown object hobject)

/-- What a thread refers to stays there. -/
theorem thread_fitsIn (h : old.GrowsTo new) {thread : Thread} (hthread : thread.FitsIn old) :
    thread.FitsIn new where
  classId := h.lt_registry_size hthread.classId
  frames frame hframe := h.lt_registry_size (hthread.frames frame hframe)

/-- A machine stays well-formed as it grows if the new objects are of registered classes and no
guest code is new. -/
theorem wellFormed (h : old.GrowsTo new) (hold : old.WellFormed) (hrooted : new.Rooted)
    (hobjects : ∀ id ∈ new.heap.classIds,
      id ∈ old.heap.classIds ∨ id.index < new.registry.size)
    (hcodes : new.guestCodes ⊆ old.guestCodes) : new.WellFormed where
  toRooted := hrooted
  objects := by
    intro id hid
    rcases hobjects id hid with hmem | hlt
    · exact h.lt_registry_size (hold.objects id hmem)
    · exact hlt
  guestCodes code hcode := h.guestCode_fitsIn (hold.guestCodes code (hcodes hcode))

end Machine.GrowsTo

/-- Every change keeps a machine well-formed. -/
theorem Machine.Changes.wellFormed {old new : Machine} (h : old.Changes new)
    (hold : old.WellFormed) : new.WellFormed := by
  have hgrows := h.growsTo
  have hrooted := h.rooted hold.toRooted
  cases h with
  | load hid hload =>
    obtain ⟨descriptor, -, -, rfl⟩ := eq_of_load? hload
    exact hgrows.wellFormed hold hrooted (fun _ hmem => .inl hmem) (List.Subset.refl _)
  | message object text =>
    obtain ⟨added, hadded, hregistered⟩ := old.classIds_writeMessage object text
    rw [writeMessage_eq] at hgrows hrooted ⊢
    refine hgrows.wellFormed hold hrooted ?_ (List.Subset.refl _)
    intro id hid
    rw [hadded] at hid
    exact (List.mem_append.1 hid).imp_right (hregistered id)
  | initializer htake =>
    obtain ⟨rule, -, -, rfl⟩ := eq_of_takeInitializer? htake
    refine hgrows.wellFormed hold hrooted (fun _ hmem => .inl hmem) ?_
    intro code hcode
    rw [guestCodes, List.mem_append] at hcode ⊢
    exact hcode.imp_left fun hmem => (List.eraseP_sublist.map _).subset hmem
  | @allocation id descriptor hget =>
    refine hgrows.wellFormed hold hrooted ?_ (List.Subset.refl _)
    intro other hother
    have hid : id.index < old.registry.size := Registry.get?_isSome_iff.1 (by rw [hget]; rfl)
    simp only [addConstructed, allocate, Heap.allocate, Heap.classIds_push, List.mem_append,
      List.mem_singleton] at hother
    rcases hother with hmem | rfl
    · exact .inl hmem
    · exact .inr hid
  | constructor htake =>
    obtain ⟨rules, hspend, rfl⟩ := eq_of_takeConstructor? htake
    refine hgrows.wellFormed hold hrooted (fun _ hmem => .inl hmem) ?_
    rw [guestCodes, guestCodes, (ConstructorRule.code_of_spendFirst? hspend).2]
    exact List.Subset.refl _

end ExceptionDispatch
