import ExceptionDispatch.Proofs.Ancestry
import ExceptionDispatch.Proofs.Course.Keeps

/-!
# The machine in the course of an operation

Whatever guest code does, dispatch changes the machine in five ways only: a class is loaded, an
initializer or a constructor is taken, an exception is allocated and counted as constructed, and a
message is written. So a machine only grows: classes and objects stay where they are, and what a
name stands for is settled before its class is loaded. Main statements: `Course.changes`,
`Machine.Changes.growsTo` and `Machine.Changes.rooted`.
-/

namespace ExceptionDispatch

/-! ### Classes of objects -/

namespace Heap

/-- The classes of the objects, by increasing position. -/
def classIds (heap : Heap) : List ClassId := heap.objects.toList.map Object.classId

/-- An object is of the class that is listed at its position. -/
theorem getElem?_classIds (heap : Heap) (ref : ObjectRef) :
    heap.classIds[ref.index]? = (heap.get? ref).map Object.classId := by
  simp [classIds, get?]

/-- The class of an object is listed. -/
theorem classId_mem_classIds {heap : Heap} {ref : ObjectRef} {object : Object}
    (hobject : heap.get? ref = some object) : object.classId ∈ heap.classIds :=
  List.mem_of_getElem? ((heap.getElem?_classIds ref).trans (congrArg _ hobject))

/-- The class of an object put on the heap comes last. -/
@[simp] theorem classIds_push (heap : Heap) (object : Object) :
    (heap.push object).2.classIds = heap.classIds ++ [object.classId] := by
  simp [push, classIds]

/-- There are as many classes listed as objects. -/
@[simp] theorem length_classIds (heap : Heap) : heap.classIds.length = heap.size := by
  simp [classIds, size]

/-- Writing a field keeps every object's class. -/
@[simp] theorem classIds_setField (heap : Heap) (ref : ObjectRef) (index : Nat) (value : Value) :
    (heap.setField ref index value).classIds = heap.classIds := by
  rw [setField]
  cases hset : heap.setField? ref index value with
  | none => rfl
  | some written =>
    simp only [setField?, Option.bind_eq_some_iff, Option.map_eq_some_iff] at hset
    obtain ⟨object, hobject, changed, hchanged, rfl⟩ := hset
    have hclass : heap.classIds[ref.index]? = some changed.classId := by
      rw [getElem?_classIds, hobject, Option.map_some, Object.classId_of_setField? hchanged]
    have hset : heap.classIds.set ref.index changed.classId = heap.classIds := by
      apply List.ext_getElem?
      intro position
      rw [List.getElem?_set]
      split
      next hposition =>
        rw [← hposition, if_pos (List.getElem?_eq_some_iff.1 hclass).1, hclass]
      next => rfl
    simpa [classIds] using hset

end Heap

/-! ### Changes of the machine -/

/-- One change that dispatch makes to the machine. -/
inductive Machine.Changes : Machine → Machine → Prop
  | load {machine loaded : Machine} {name : String} {id : ClassId}
      (hid : machine.registry.idOf? name = none)
      (hload : machine.load? name = some (id, loaded)) : Changes machine loaded
  | message (machine : Machine) (object : ObjectRef) (text : String) :
      Changes machine (machine.writeMessage object text)
  | initializer {machine taken : Machine} {name : String} {code : GuestCode}
      (htake : machine.takeInitializer? name = some (code, taken)) : Changes machine taken
  | allocation {machine : Machine} {id : ClassId} {descriptor : ClassDescriptor}
      (hget : machine.registry.get? id = some descriptor) :
      Changes machine
        ((machine.allocate id descriptor.fieldCount).2.addConstructed ⟨machine.heap.size⟩)
  | constructor {machine taken : Machine} {className : String} {code : GuestCode}
      (htake : machine.takeConstructor? className = some (code, taken)) : Changes machine taken

/-- The end of guest code does not matter to the machine. -/
theorem GuestEnds.machine_eq {base : Nat} {acted finish : Execution} {inner exit : Exit}
    (h : GuestEnds base acted inner exit finish) : finish.machine = acted.machine := by
  cases h <;> rfl

/-- A course changes the machine step by step. -/
theorem Course.changes {bound raises : Nat} {object? : Option ObjectRef}
    {start finish : Execution} {exit : Exit} (h : Course bound object? raises start exit finish) :
    Relation.ReflTransGen Machine.Changes start.machine finish.machine := by
  induction h with
  | refl | caught | uncaught | bootstrap | constructionDepth | fault => exact .refl
  | trans _ _ ihfirst ihsecond => exact ihfirst.trans ihsecond
  | record _ _ _ _ _ ih => exact ih
  | load hid hload => exact .single (.load hid hload)
  | message start object text => exact .single (.message _ object text)
  | initializer _ htake _ _ hends ih =>
    rw [hends.machine_eq]
    exact .head (.initializer htake) ih
  | initializerTooDeep _ htake => exact .single (.initializer htake)
  | construct _ _ hget => exact .single (.allocation hget)
  | constructor _ _ hget htake _ _ hends ih =>
    rw [Execution.machine_leaveConstructor, hends.machine_eq]
    exact .head (.allocation hget) (.head (.constructor htake) ih)
  | constructorTooDeep _ _ hget htake =>
    exact .head (.allocation hget) (.single (.constructor htake))
  | popped _ _ _ _ ih => exact ih

/-! ### Growth -/

namespace Machine

/-- The descriptor that a name stands for: that of the class registered under it, or else the first
loadable one of that name. -/
def described? (machine : Machine) (name : String) : Option ClassDescriptor :=
  match machine.registry.idOf? name with
  | some id => machine.registry.get? id
  | none => machine.loadable.find? (·.name == name)

/-- One machine has all classes and objects of another one where they were, and every name stands
for the same class. -/
structure GrowsTo (old new : Machine) : Prop where
  registry : old.registry.ExtendedBy new.registry
  described : ∀ name, new.described? name = old.described? name
  classIds : old.heap.classIds <+: new.heap.classIds
  constructed : old.constructed.toList <+: new.constructed.toList

/-- Nothing grows by itself. -/
theorem GrowsTo.refl (machine : Machine) : machine.GrowsTo machine :=
  ⟨.refl _, fun _ => rfl, List.prefix_rfl, List.prefix_rfl⟩

/-- What has grown may grow again. -/
theorem GrowsTo.trans {old middle new : Machine} (hfirst : old.GrowsTo middle)
    (hsecond : middle.GrowsTo new) : old.GrowsTo new where
  registry := hfirst.registry.trans hsecond.registry
  described name := (hsecond.described name).trans (hfirst.described name)
  classIds := hfirst.classIds.trans hsecond.classIds
  constructed := hfirst.constructed.trans hsecond.constructed

/-- An object stays where it is, and stays of its class. -/
theorem GrowsTo.exists_get? {old new : Machine} (h : old.GrowsTo new) {ref : ObjectRef}
    {object : Object} (hobject : old.heap.get? ref = some object) :
    ∃ found, new.heap.get? ref = some found ∧ found.classId = object.classId := by
  obtain ⟨added, hadded⟩ := h.classIds
  have hold : old.heap.classIds[ref.index]? = some object.classId := by
    rw [Heap.getElem?_classIds, hobject, Option.map_some]
  have hnew : new.heap.classIds[ref.index]? = some object.classId := by
    rw [← hadded, List.getElem?_append_left (List.getElem?_eq_some_iff.1 hold).1, hold]
  rw [Heap.getElem?_classIds, Option.map_eq_some_iff] at hnew
  exact hnew

/-- A class that is loaded was the first loadable one of its name, and is added at the end. -/
theorem eq_of_load?_of_idOf? {machine loaded : Machine} {name : String} {id : ClassId}
    (hid : machine.registry.idOf? name = none)
    (hload : machine.load? name = some (id, loaded)) :
    ∃ descriptor, machine.loadable.find? (·.name == name) = some descriptor ∧
      descriptor.name = name ∧ id = ⟨machine.registry.size⟩ ∧
      loaded = { machine with
        registry := machine.registry.push descriptor
        loadable := machine.loadable.eraseP (·.name == name)
        loaded := machine.loaded.push name } := by
  obtain ⟨descriptor, hfind, rfl, rfl⟩ := eq_of_load? hload
  have hname : descriptor.name = name := by simpa using List.find?_some hfind
  rw [← hname] at hid
  rw [Registry.define_of_idOf?_none hid]
  exact ⟨descriptor, hfind, hname, rfl, rfl⟩

/-- Taking out the first descriptor of one name keeps the first one of every other name. -/
theorem find?_eraseP_of_ne {name other : String} (hne : other ≠ name)
    (descriptors : List ClassDescriptor) :
    (descriptors.eraseP (·.name == name)).find? (·.name == other) =
      descriptors.find? (·.name == other) := by
  induction descriptors with
  | nil => rfl
  | cons descriptor rest ih =>
    by_cases hname : descriptor.name = name
    · have hother : descriptor.name ≠ other := fun h => hne (h.symm.trans hname)
      simp [hname, hne.symm]
    · simp [hname, List.find?_cons, ih]

private theorem described?_of_load? {machine loaded : Machine} {name : String} {id : ClassId}
    (hid : machine.registry.idOf? name = none)
    (hload : machine.load? name = some (id, loaded)) (other : String) :
    loaded.described? other = machine.described? other := by
  obtain ⟨descriptor, hfind, hname, -, rfl⟩ := eq_of_load?_of_idOf? hid hload
  have hnew : descriptor.name ∉ machine.registry.keys := by
    rw [hname]
    exact Registry.idOf?_eq_none_iff.1 hid
  rw [described?, described?, Registry.idOf?_push _ _ _ hnew]
  by_cases hother : other = descriptor.name
  · rw [if_pos hother, hother, hname, hid]
    simp only [Registry.get?_push, if_true, hfind]
  · rw [if_neg hother]
    cases hfound : machine.registry.idOf? other with
    | some found =>
      have hlt := Registry.lt_size_of_idOf? hfound
      simp only [Registry.get?_push, if_neg (Nat.ne_of_lt hlt)]
    | none => exact find?_eraseP_of_ne (hname ▸ hother) machine.loadable

/-- A message is made of objects of registered classes. -/
theorem classIds_writeMessage (machine : Machine) (object : ObjectRef) (text : String) :
    ∃ added, (machine.writeMessage object text).heap.classIds = machine.heap.classIds ++ added ∧
      ∀ id ∈ added, id.index < machine.registry.size := by
  rw [writeMessage]
  cases hclasses : machine.messageClasses? with
  | none => exact ⟨[], (List.append_nil _).symm, by simp⟩
  | some classes =>
    obtain ⟨stringId, fieldCount, arrayId⟩ := classes
    simp only [messageClasses?, Option.bind_eq_bind, Option.bind_eq_some_iff, Option.pure_def,
      Option.some.injEq, Prod.mk.injEq] at hclasses
    obtain ⟨string, hstring, array, harray, descriptor, -, rfl, -, rfl⟩ := hclasses
    refine ⟨[array, string], ?_, ?_⟩
    · simp [Heap.allocateText, Heap.allocateArray, Heap.allocate, Object.fresh]
    · intro id hmem
      simp only [List.mem_cons, List.not_mem_nil, or_false] at hmem
      rcases hmem with rfl | rfl
      · exact Registry.lt_size_of_idOf? harray
      · exact Registry.lt_size_of_idOf? hstring

/-- Each change lets the machine grow. -/
theorem Changes.growsTo {old new : Machine} (h : old.Changes new) : old.GrowsTo new := by
  cases h with
  | load hid hload =>
    have hdescribed := described?_of_load? hid hload
    have hregistry := extendedBy_of_load? hload
    obtain ⟨descriptor, -, -, rfl⟩ := eq_of_load? hload
    exact ⟨hregistry, hdescribed, List.prefix_rfl, List.prefix_rfl⟩
  | message object text =>
    obtain ⟨added, hadded, -⟩ := old.classIds_writeMessage object text
    rw [writeMessage_eq]
    exact ⟨.refl _, fun _ => rfl, ⟨added, hadded.symm⟩, List.prefix_rfl⟩
  | initializer htake =>
    obtain ⟨rule, -, -, rfl⟩ := eq_of_takeInitializer? htake
    exact ⟨.refl _, fun _ => rfl, List.prefix_rfl, List.prefix_rfl⟩
  | @allocation id descriptor _ =>
    refine ⟨.refl _, fun _ => rfl, ⟨[id], ?_⟩, ⟨[⟨old.heap.size⟩], ?_⟩⟩
    · simp [allocate, addConstructed, Heap.allocate, Object.fresh]
    · simp [allocate, addConstructed]
  | constructor htake =>
    obtain ⟨rules, -, rfl⟩ := eq_of_takeConstructor? htake
    exact ⟨.refl _, fun _ => rfl, List.prefix_rfl, List.prefix_rfl⟩

/-- Changes upon changes let the machine grow. -/
theorem growsTo_of_changes {old new : Machine} (h : Relation.ReflTransGen Changes old new) :
    old.GrowsTo new := by
  induction h with
  | refl => exact .refl old
  | tail _ hchange ih => exact ih.trans hchange.growsTo

end Machine

/-- A machine only grows in the course of an operation. -/
theorem Course.growsTo {bound raises : Nat} {object? : Option ObjectRef}
    {start finish : Execution} {exit : Exit} (h : Course bound object? raises start exit finish) :
    start.machine.GrowsTo finish.machine :=
  Machine.growsTo_of_changes h.changes

/-! ### Superclasses -/

private theorem Registry.Ordered.push {registry : Registry} (hordered : registry.Ordered)
    {descriptor : ClassDescriptor}
    (hsuper : ∀ superclass ∈ descriptor.superclass?, superclass.index < registry.size) :
    (registry.push descriptor).Ordered := by
  rintro id superclass ⟨found, hget, hextends⟩
  rw [get?_push] at hget
  split at hget
  next hid =>
    cases hget
    rw [hid]
    exact hsuper superclass hextends
  next => exact hordered id superclass ⟨found, hget, hextends⟩

namespace Machine

/-- Superclasses come first: each one before the classes that extend it, and those of the classes
that have yet to be loaded among the classes that are registered. -/
structure Rooted (machine : Machine) : Prop where
  registry : machine.registry.Ordered
  loadable : ∀ descriptor ∈ machine.loadable, ∀ superclass ∈ descriptor.superclass?,
    superclass.index < machine.registry.size

instance (machine : Machine) : Decidable machine.Rooted :=
  decidable_of_iff (machine.registry.Ordered ∧ ∀ descriptor ∈ machine.loadable,
      ∀ superclass ∈ descriptor.superclass?, superclass.index < machine.registry.size)
    ⟨fun h => ⟨h.1, h.2⟩, fun h => ⟨h.registry, h.loadable⟩⟩

/-- No change puts a class before its superclass. -/
theorem Changes.rooted {old new : Machine} (h : old.Changes new) (hrooted : old.Rooted) :
    new.Rooted := by
  cases h with
  | load hid hload =>
    obtain ⟨descriptor, hfind, -, -, rfl⟩ := eq_of_load?_of_idOf? hid hload
    have hsuper := hrooted.loadable descriptor (List.mem_of_find?_eq_some hfind)
    refine ⟨hrooted.registry.push hsuper, ?_⟩
    intro other hother superclass hsuperclass
    have hlt := hrooted.loadable other (List.mem_of_mem_eraseP hother) superclass hsuperclass
    rw [Registry.size_push]
    omega
  | message object text =>
    rw [writeMessage_eq]
    exact ⟨hrooted.registry, hrooted.loadable⟩
  | initializer htake =>
    obtain ⟨rule, -, -, rfl⟩ := eq_of_takeInitializer? htake
    exact ⟨hrooted.registry, hrooted.loadable⟩
  | allocation => exact ⟨hrooted.registry, hrooted.loadable⟩
  | constructor htake =>
    obtain ⟨rules, -, rfl⟩ := eq_of_takeConstructor? htake
    exact ⟨hrooted.registry, hrooted.loadable⟩

/-- Changes upon changes put no class before its superclass. -/
theorem rooted_of_changes {old new : Machine} (h : Relation.ReflTransGen Changes old new)
    (hrooted : old.Rooted) : new.Rooted := by
  induction h with
  | refl => exact hrooted
  | tail _ hchange ih => exact hchange.rooted ih

end Machine

end ExceptionDispatch
