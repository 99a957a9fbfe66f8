import ExceptionDispatch.Class.Descriptor

/-!
# The class registry

Registered classes in the order of their first definition. A class is registered under the name it
had then: its descriptor may be edited afterwards, its name included, but neither its position nor
the name it is found by changes. Main statements: `get?_push`, `idOf?_push`, `get?_modify` and
`idOf?_modify` say what each operation does to the look-ups.
-/

namespace ExceptionDispatch

/-- A registered class with the name it is found by. -/
structure RegistryEntry where
  key : String
  descriptor : ClassDescriptor
  deriving DecidableEq, Repr

/-- The registered classes, by increasing position. Embeds `ClassTable`. -/
structure Registry where
  entries : Array RegistryEntry
  deriving DecidableEq, Repr

namespace Registry

/-- No class is registered. -/
def empty : Registry := ⟨#[]⟩

/-- The number of registered classes. Embeds `ClassTable::len`. -/
def size (registry : Registry) : Nat := registry.entries.size

/-- The names that classes are found by, by increasing position. -/
def keys (registry : Registry) : List String := registry.entries.toList.map RegistryEntry.key

/-- The position of the class registered under a name. Embeds `ClassTable::id_of`. -/
def idOf? (registry : Registry) (name : String) : Option ClassId :=
  (registry.entries.toList.findIdx? fun entry => entry.key == name).map ClassId.mk

/-- The descriptor at a position. Embeds `ClassTable::get`. -/
def get? (registry : Registry) (id : ClassId) : Option ClassDescriptor :=
  registry.entries[id.index]?.map RegistryEntry.descriptor

/-- The registry with one more class at its end. -/
def push (registry : Registry) (descriptor : ClassDescriptor) : Registry :=
  ⟨registry.entries.push ⟨descriptor.name, descriptor⟩⟩

/-- The position of the class of a descriptor's name, which is registered first if it is new. Embeds
`ClassTable::define`. -/
def define (registry : Registry) (descriptor : ClassDescriptor) : ClassId × Registry :=
  match registry.idOf? descriptor.name with
  | some id => (id, registry)
  | none => (⟨registry.size⟩, registry.push descriptor)

/-- The registry with the descriptor at a position edited. Embeds `ClassTable::get_mut`. -/
def modify (registry : Registry) (id : ClassId) (edit : ClassDescriptor → ClassDescriptor) :
    Registry :=
  ⟨registry.entries.modify id.index fun entry => ⟨entry.key, edit entry.descriptor⟩⟩

/-- A look-up succeeds exactly below the size. -/
theorem get?_isSome_iff {registry : Registry} {id : ClassId} :
    (registry.get? id).isSome = true ↔ id.index < registry.size := by
  simp [get?, size]

/-- A name is found at the first position that has it. -/
theorem idOf?_eq_findIdx? (registry : Registry) (name : String) :
    registry.idOf? name = (registry.keys.findIdx? (· == name)).map ClassId.mk := by
  rw [idOf?, keys, List.findIdx?_map]
  rfl

/-- A name is not found exactly when no class is registered under it. -/
theorem idOf?_eq_none_iff {registry : Registry} {name : String} :
    registry.idOf? name = none ↔ name ∉ registry.keys := by
  rw [idOf?_eq_findIdx?, Option.map_eq_none_iff, List.findIdx?_eq_none_iff]
  constructor
  · intro h hm
    simpa using h name hm
  · intro h key hk
    simp only [beq_eq_false_iff_ne]
    exact fun he => h (he ▸ hk)

/-- A found name has a descriptor. -/
theorem lt_size_of_idOf? {registry : Registry} {name : String} {id : ClassId}
    (h : registry.idOf? name = some id) : id.index < registry.size := by
  rw [idOf?, Option.map_eq_some_iff] at h
  obtain ⟨i, hi, rfl⟩ := h
  have := (List.findIdx?_eq_some_iff_getElem.1 hi).1
  simpa [size] using this

/-- A class added at the end has the next position. -/
@[simp] theorem size_push (registry : Registry) (descriptor : ClassDescriptor) :
    (registry.push descriptor).size = registry.size + 1 := by
  simp [push, size]

/-- A class added at the end is found there, and every other one where it was. -/
theorem get?_push (registry : Registry) (descriptor : ClassDescriptor) (id : ClassId) :
    (registry.push descriptor).get? id =
      if id.index = registry.size then some descriptor else registry.get? id := by
  simp only [push, get?, size, Array.getElem?_push, apply_ite (Option.map _)]
  rfl

/-- The name of a class added at the end comes last. -/
@[simp] theorem keys_push (registry : Registry) (descriptor : ClassDescriptor) :
    (registry.push descriptor).keys = registry.keys ++ [descriptor.name] := by
  simp [push, keys]

/-- There are as many names as classes. -/
@[simp] theorem length_keys (registry : Registry) : registry.keys.length = registry.size := by
  simp [keys, size]

/-- A class added under a new name is found by it, and every other name as it was. -/
theorem idOf?_push (registry : Registry) (descriptor : ClassDescriptor) (name : String)
    (h : descriptor.name ∉ registry.keys) :
    (registry.push descriptor).idOf? name =
      if name = descriptor.name then some ⟨registry.size⟩ else registry.idOf? name := by
  rw [idOf?_eq_findIdx?, keys_push, List.findIdx?_append]
  split
  next hn =>
    subst hn
    have hnone : registry.keys.findIdx? (· == descriptor.name) = none := by
      have := idOf?_eq_none_iff.2 h
      rwa [idOf?_eq_findIdx?, Option.map_eq_none_iff] at this
    simp [hnone]
  next hn =>
    have hne : (descriptor.name == name) = false := by
      simpa using fun he => hn he.symm
    simp [List.findIdx?_singleton, hne, idOf?_eq_findIdx?]

/-- A class is defined at the position that its name has from then on. -/
theorem idOf?_define (registry : Registry) (descriptor : ClassDescriptor) :
    (registry.define descriptor).2.idOf? descriptor.name =
      some (registry.define descriptor).1 := by
  rw [define]
  split
  next h => exact h
  next h => simp [idOf?_push _ _ _ (idOf?_eq_none_iff.1 h)]

/-- Defining a registered name again changes nothing. -/
theorem define_of_idOf? {registry : Registry} {descriptor : ClassDescriptor} {id : ClassId}
    (h : registry.idOf? descriptor.name = some id) :
    registry.define descriptor = (id, registry) := by
  rw [define, h]

/-- Defining a new name adds its class at the end. -/
theorem define_of_idOf?_none {registry : Registry} {descriptor : ClassDescriptor}
    (h : registry.idOf? descriptor.name = none) :
    registry.define descriptor = (⟨registry.size⟩, registry.push descriptor) := by
  rw [define, h]

/-- Editing keeps the number of classes. -/
@[simp] theorem size_modify (registry : Registry) (id : ClassId)
    (edit : ClassDescriptor → ClassDescriptor) :
    (registry.modify id edit).size = registry.size := by
  simp [modify, size]

/-- Editing keeps the names that classes are found by. -/
@[simp] theorem keys_modify (registry : Registry) (id : ClassId)
    (edit : ClassDescriptor → ClassDescriptor) :
    (registry.modify id edit).keys = registry.keys := by
  apply List.ext_getElem
  · simp
  · intro i h₁ h₂
    simp only [keys, modify, List.getElem_map, Array.getElem_toList, Array.getElem_modify]
    split <;> rfl

/-- Editing keeps what every name finds. -/
@[simp] theorem idOf?_modify (registry : Registry) (id : ClassId)
    (edit : ClassDescriptor → ClassDescriptor) (name : String) :
    (registry.modify id edit).idOf? name = registry.idOf? name := by
  rw [idOf?_eq_findIdx?, idOf?_eq_findIdx?, keys_modify]

/-- Editing changes the descriptor at its position and no other. -/
theorem get?_modify (registry : Registry) (id other : ClassId)
    (edit : ClassDescriptor → ClassDescriptor) :
    (registry.modify id edit).get? other =
      if id = other then (registry.get? other).map edit else registry.get? other := by
  simp only [modify, get?, Array.getElem?_modify, ClassId.ext_iff]
  split <;> simp [Function.comp_def]

end Registry

end ExceptionDispatch
