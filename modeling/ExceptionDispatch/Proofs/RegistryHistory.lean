import ExceptionDispatch.Diagnostic
import ExceptionDispatch.Proofs.LazyLoading
import Mathlib.Data.Finset.Card

/-!
# The history of a registry

What is found in a registry can be told from the changes that were made to it, without the registry:
the names are those that were defined, in the order of their first definitions, and each stands for
the class of its first definition with the edits that were made to it since. Names that are edited
do not matter, since a class is found by the name it was defined under. Main statement:
`Registry.changeAll_firstWins`.
-/

namespace ExceptionDispatch

/-- A change that is asked of a registry. -/
inductive RegistryChange
  /-- Define a class, unless one of its name is defined already. -/
  | define (descriptor : ClassDescriptor)
  /-- Edit the class at a position, in whatever way. -/
  | edit (id : ClassId) (edit : ClassDescriptor → ClassDescriptor)

namespace RegistryChange

/-- The class that is to be defined. -/
def defined? : RegistryChange → Option ClassDescriptor
  | define descriptor => some descriptor
  | edit _ _ => none

/-- The edit that is to be made to the class at a position. -/
def editOf? (id : ClassId) : RegistryChange → Option (ClassDescriptor → ClassDescriptor)
  | define _ => none
  | edit other change => if other = id then some change else none

/-- The classes that are to be defined, in order. -/
def definitions (changes : List RegistryChange) : List ClassDescriptor :=
  changes.filterMap defined?

/-- The first definition of a name. -/
def firstDefinition? (changes : List RegistryChange) (name : String) : Option ClassDescriptor :=
  (definitions changes).find? (·.name == name)

/-- The names that are defined, each where it is defined first. -/
def definedNames (changes : List RegistryChange) : List String :=
  ((definitions changes).map ClassDescriptor.name).eraseDups

/-- The edits that are made to the class at a position, in order. -/
def editsOf (id : ClassId) (changes : List RegistryChange) :
    List (ClassDescriptor → ClassDescriptor) :=
  changes.filterMap (editOf? id)

/-- The class at a position: the first definition of the name that has this position, with the edits
made to it. -/
def classOf? (changes : List RegistryChange) (id : ClassId) : Option ClassDescriptor :=
  ((definedNames changes)[id.index]?.bind (firstDefinition? changes)).map fun first =>
    (editsOf id changes).foldl (fun descriptor edit => edit descriptor) first

/-- Every class that is edited was defined before. -/
def EditsDefined (changes : List RegistryChange) : Prop :=
  ∀ position id change, changes[position]? = some (edit id change) →
    id.index < (definedNames (changes.take position)).length

end RegistryChange

namespace Registry

/-- The registry after a change; a class that is edited has to be there. -/
def change (registry : Registry) : RegistryChange → Except Fault Registry
  | .define descriptor => .ok (registry.define descriptor).2
  | .edit id edit => (Diagnostic.classAt registry id).map fun _ => registry.modify id edit

/-- The registry after changes, one after the other. -/
def changeAll (registry : Registry) (changes : List RegistryChange) : Except Fault Registry :=
  changes.foldlM change registry

end Registry

/-! ### Further changes -/

namespace RegistryChange

variable {changes : List RegistryChange} {descriptor : ClassDescriptor} {id : ClassId}

private theorem definitions_append_define :
    definitions (changes ++ [define descriptor]) = definitions changes ++ [descriptor] := by
  simp [definitions, defined?]

private theorem definitions_append_edit (edited : ClassDescriptor → ClassDescriptor) :
    definitions (changes ++ [edit id edited]) = definitions changes := by
  simp [definitions, defined?]

private theorem mem_definedNames {name : String} :
    name ∈ definedNames changes ↔ ∃ first ∈ definitions changes, first.name = name := by
  rw [definedNames, List.mem_eraseDups, List.mem_map]

private theorem definedNames_append_define :
    definedNames (changes ++ [define descriptor]) =
      if descriptor.name ∈ definedNames changes then definedNames changes
      else definedNames changes ++ [descriptor.name] := by
  rw [definedNames, definitions_append_define, List.map_append, List.map_singleton,
    eraseDups_append_singleton, definedNames]
  simp only [List.mem_eraseDups]

private theorem definedNames_append_edit (edited : ClassDescriptor → ClassDescriptor) :
    definedNames (changes ++ [edit id edited]) = definedNames changes := by
  rw [definedNames, definitions_append_edit, definedNames]

private theorem editsOf_append_define :
    editsOf id (changes ++ [define descriptor]) = editsOf id changes := by
  simp [editsOf, editOf?]

private theorem editsOf_append_edit (other : ClassId) (edited : ClassDescriptor → ClassDescriptor) :
    editsOf other (changes ++ [edit id edited]) =
      if id = other then editsOf other changes ++ [edited] else editsOf other changes := by
  by_cases h : id = other <;> simp [editsOf, editOf?, h]

private theorem firstDefinition?_append_define {name : String} (h : name ∈ definedNames changes) :
    firstDefinition? (changes ++ [define descriptor]) name = firstDefinition? changes name := by
  obtain ⟨first, hmem, hname⟩ := mem_definedNames.1 h
  have hsome : (firstDefinition? changes name).isSome = true :=
    List.find?_isSome.2 ⟨first, hmem, by simpa using hname⟩
  obtain ⟨found, hfound⟩ := Option.isSome_iff_exists.1 hsome
  rw [hfound]
  rw [firstDefinition?] at hfound ⊢
  rw [definitions_append_define, List.find?_append, hfound, Option.some_or]

private theorem classOf?_eq_none (hid : (definedNames changes).length ≤ id.index) :
    classOf? changes id = none := by
  rw [classOf?, List.getElem?_eq_none hid]
  rfl

private theorem classOf?_append_of_lt (hid : id.index < (definedNames changes).length) :
    classOf? (changes ++ [define descriptor]) id = classOf? changes id := by
  have hname : (definedNames (changes ++ [define descriptor]))[id.index]? =
      (definedNames changes)[id.index]? := by
    rw [definedNames_append_define]
    split
    · rfl
    · exact List.getElem?_append_left hid
  rw [classOf?, classOf?, hname, editsOf_append_define, List.getElem?_eq_getElem hid,
    Option.bind_some, Option.bind_some, firstDefinition?_append_define (List.getElem_mem hid)]

private theorem classOf?_append_of_not_mem (hname : descriptor.name ∉ definedNames changes)
    (hid : id.index = (definedNames changes).length) (hedits : editsOf id changes = []) :
    classOf? (changes ++ [define descriptor]) id = some descriptor := by
  have hnone : (definitions changes).find? (·.name == descriptor.name) = none := by
    rw [List.find?_eq_none]
    intro first hmem hsame
    exact hname (mem_definedNames.2 ⟨first, hmem, by simpa using hsame⟩)
  have hfirst : firstDefinition? (changes ++ [define descriptor]) descriptor.name =
      some descriptor := by
    rw [firstDefinition?, definitions_append_define, List.find?_append, hnone, Option.none_or]
    simp
  rw [classOf?, definedNames_append_define, if_neg hname, hid, List.getElem?_concat_length,
    Option.bind_some, hfirst, editsOf_append_define, hedits]
  rfl

private theorem classOf?_append_define (descriptor : ClassDescriptor)
    (hedits : id.index = (definedNames changes).length → editsOf id changes = []) :
    classOf? (changes ++ [define descriptor]) id =
      if descriptor.name ∉ definedNames changes ∧ id.index = (definedNames changes).length then
        some descriptor
      else classOf? changes id := by
  by_cases hlt : id.index < (definedNames changes).length
  · rw [if_neg (by omega), classOf?_append_of_lt hlt]
  · by_cases hnew : descriptor.name ∉ definedNames changes ∧
        id.index = (definedNames changes).length
    · rw [if_pos hnew, classOf?_append_of_not_mem hnew.1 hnew.2 (hedits hnew.2)]
    · have hpast : (definedNames (changes ++ [define descriptor])).length ≤ id.index := by
        rw [definedNames_append_define]
        split
        · omega
        · next hmem =>
          have hne : id.index ≠ (definedNames changes).length := fun heq => hnew ⟨hmem, heq⟩
          rw [List.length_append, List.length_singleton]
          omega
      rw [if_neg hnew, classOf?_eq_none hpast, classOf?_eq_none (by omega)]

private theorem classOf?_append_edit (other : ClassId)
    (edited : ClassDescriptor → ClassDescriptor) :
    classOf? (changes ++ [edit id edited]) other =
      if id = other then (classOf? changes other).map edited else classOf? changes other := by
  have hfirst : firstDefinition? (changes ++ [edit id edited]) = firstDefinition? changes := by
    funext name
    rw [firstDefinition?, definitions_append_edit, firstDefinition?]
  rw [classOf?, definedNames_append_edit, hfirst, editsOf_append_edit]
  split
  · simp only [List.foldl_append, List.foldl_cons, List.foldl_nil, classOf?, Option.map_map]
    rfl
  · rfl

end RegistryChange

/-! ### The registry -/

namespace Registry

/-- Where no name is registered twice, each is found at its position. -/
theorem idOf?_eq_some_iff {registry : Registry} (hkeys : registry.keys.Nodup) {name : String}
    {id : ClassId} : registry.idOf? name = some id ↔ registry.keys[id.index]? = some name := by
  rw [idOf?_eq_findIdx?, Option.map_eq_some_iff]
  constructor
  · rintro ⟨position, hposition, rfl⟩
    obtain ⟨hlt, hkey, -⟩ := List.findIdx?_eq_some_iff_getElem.1 hposition
    rw [List.getElem?_eq_getElem hlt, beq_iff_eq.1 hkey]
  · intro h
    obtain ⟨hlt, hkey⟩ := List.getElem?_eq_some_iff.1 h
    refine ⟨id.index, List.findIdx?_eq_some_iff_getElem.2 ⟨hlt, by simpa using hkey, ?_⟩, rfl⟩
    intro earlier hearlier hsame
    have heq := (hkeys.getElem_inj_iff).1 ((beq_iff_eq.1 hsame).trans hkey.symm)
    omega

/-- A registry is what a history of changes has made of it. -/
structure Records (registry : Registry) (changes : List RegistryChange) : Prop where
  keys : registry.keys = RegistryChange.definedNames changes
  get? : ∀ id, registry.get? id = RegistryChange.classOf? changes id
  /-- No class is edited before it is there. -/
  edits : ∀ id, registry.size ≤ id.index → RegistryChange.editsOf id changes = []

namespace Records

variable {registry : Registry} {changes : List RegistryChange}

private theorem nil : Registry.empty.Records [] := by
  refine ⟨rfl, ?_, fun _ _ => rfl⟩
  intro id
  rfl

private theorem size_eq (h : registry.Records changes) :
    registry.size = (RegistryChange.definedNames changes).length := by
  rw [← length_keys, h.keys]

private theorem keys_nodup (h : registry.Records changes) : registry.keys.Nodup := by
  rw [h.keys]
  exact nodup_eraseDups _

private theorem isSome_idOf?_iff (h : registry.Records changes) {name : String} :
    (registry.idOf? name).isSome = true ↔ name ∈ RegistryChange.definedNames changes := by
  rw [Option.isSome_iff_ne_none, ne_eq, idOf?_eq_none_iff, Decidable.not_not, h.keys]

private theorem define (h : registry.Records changes) (descriptor : ClassDescriptor) :
    (registry.define descriptor).2.Records (changes ++ [.define descriptor]) := by
  have hsize := h.size_eq
  have hclass (id : ClassId) :=
    RegistryChange.classOf?_append_define descriptor fun heq => h.edits id (by omega)
  cases hid : registry.idOf? descriptor.name with
  | some found =>
    have hmem : descriptor.name ∈ RegistryChange.definedNames changes :=
      h.isSome_idOf?_iff.1 (by rw [hid]; rfl)
    rw [define_of_idOf? hid]
    refine ⟨?_, ?_, ?_⟩
    · rw [h.keys, RegistryChange.definedNames_append_define, if_pos hmem]
    · intro id
      rw [h.get?, hclass, if_neg fun hnew => hnew.1 hmem]
    · intro id hle
      rw [RegistryChange.editsOf_append_define]
      exact h.edits id hle
  | none =>
    have hmem : descriptor.name ∉ RegistryChange.definedNames changes := by
      rw [← h.keys]
      exact idOf?_eq_none_iff.1 hid
    rw [define_of_idOf?_none hid]
    refine ⟨?_, ?_, ?_⟩
    · rw [keys_push, h.keys, RegistryChange.definedNames_append_define, if_neg hmem]
    · intro id
      rw [get?_push, hsize, h.get?, hclass]
      simp only [hmem, not_false_eq_true, true_and]
    · intro id hle
      rw [size_push] at hle
      rw [RegistryChange.editsOf_append_define]
      exact h.edits id (by omega)

private theorem modify (h : registry.Records changes) {id : ClassId}
    (hid : id.index < registry.size) (edit : ClassDescriptor → ClassDescriptor) :
    (registry.modify id edit).Records (changes ++ [.edit id edit]) := by
  refine ⟨?_, ?_, ?_⟩
  · rw [keys_modify, h.keys, RegistryChange.definedNames_append_edit]
  · intro other
    rw [get?_modify, RegistryChange.classOf?_append_edit, h.get?]
  · intro other hle
    rw [size_modify] at hle
    have hne : id ≠ other := by
      rintro rfl
      omega
    rw [RegistryChange.editsOf_append_edit, if_neg hne]
    exact h.edits other hle

/-- A change is made and recorded, if it is no edit of a class that is not there. -/
theorem change (h : registry.Records changes) (next : RegistryChange)
    (hdefined : ∀ id edit, next = .edit id edit → id.index < registry.size) :
    ∃ after, registry.change next = .ok after ∧ after.Records (changes ++ [next]) := by
  cases next with
  | define descriptor => exact ⟨_, rfl, h.define descriptor⟩
  | edit id edit =>
    have hid := hdefined id edit rfl
    obtain ⟨descriptor, hget⟩ := Option.isSome_iff_exists.1 (get?_isSome_iff.2 hid)
    refine ⟨registry.modify id edit, ?_, h.modify hid edit⟩
    simp only [Registry.change, Diagnostic.classAt, hget, Except.map]

/-- Changes are made and recorded, if every class that is edited was defined before. -/
theorem changeAll {before : List RegistryChange} (h : registry.Records before)
    (hdefined : RegistryChange.EditsDefined (before ++ changes)) :
    ∃ after, registry.changeAll changes = .ok after ∧ after.Records (before ++ changes) := by
  induction changes generalizing registry before with
  | nil => exact ⟨registry, rfl, by rwa [List.append_nil]⟩
  | cons next rest ih =>
    have hnext : ∀ id edit, next = .edit id edit → id.index < registry.size := by
      rintro id edit rfl
      have hlt := hdefined before.length id edit (by simp)
      rwa [List.take_left, ← h.size_eq] at hlt
    obtain ⟨middle, hmiddle, hrecords⟩ := h.change next hnext
    rw [List.append_cons] at hdefined ⊢
    obtain ⟨after, hafter, hall⟩ := ih hrecords hdefined
    refine ⟨after, ?_, hall⟩
    rw [Registry.changeAll, List.foldlM_cons, hmiddle]
    exact hafter

end Records

/-- A registry is a map by names in which the first definition of a name wins, with positions that
are dense and stay. From the empty registry, any definitions and edits, as long as only classes are
edited that were defined before, lead to a registry that has as many classes as different names were
defined. A name is found exactly at its place among the names in the order of their first
definitions, whatever names classes were given since, and the class there is the one of this first
definition with all edits made to it, in order. A further definition gives the position of its name,
and leaves the registry as it is if the name was defined already. -/
theorem changeAll_firstWins {changes : List RegistryChange}
    (hdefined : RegistryChange.EditsDefined changes) :
    ∃ registry, empty.changeAll changes = .ok registry ∧
      registry.size =
        ((RegistryChange.definitions changes).map ClassDescriptor.name).toFinset.card ∧
      (∀ name id, registry.idOf? name = some id ↔
        (RegistryChange.definedNames changes)[id.index]? = some name) ∧
      (∀ id, registry.get? id = RegistryChange.classOf? changes id) ∧
      ∀ descriptor, (registry.define descriptor).2.idOf? descriptor.name =
          some (registry.define descriptor).1 ∧
        (descriptor.name ∈ RegistryChange.definedNames changes →
          registry.idOf? descriptor.name = some (registry.define descriptor).1 ∧
            (registry.define descriptor).2 = registry) := by
  obtain ⟨registry, hregistry, hrecords⟩ := Records.nil.changeAll hdefined
  rw [List.nil_append] at hrecords
  refine ⟨registry, hregistry, ?_, ?_, hrecords.get?, ?_⟩
  · have hnames : ((RegistryChange.definitions changes).map ClassDescriptor.name).toFinset =
        (RegistryChange.definedNames changes).toFinset := by
      ext name
      simp [RegistryChange.definedNames]
    rw [hnames, ← hrecords.keys, List.toFinset_card_of_nodup hrecords.keys_nodup, length_keys]
  · intro name id
    rw [idOf?_eq_some_iff hrecords.keys_nodup, hrecords.keys]
  · intro descriptor
    refine ⟨registry.idOf?_define descriptor, ?_⟩
    intro hmem
    obtain ⟨id, hid⟩ := Option.isSome_iff_exists.1 (hrecords.isSome_idOf?_iff.2 hmem)
    rw [define_of_idOf? hid]
    exact ⟨hid, rfl⟩

/-- Two classes are defined, the first is given the name of the second, both names are defined again
and the first class is edited once more. -/
def renamingChanges : List RegistryChange :=
  [.define { name := "Main", sourceFile := "Main.java" },
    .define { name := "Util", sourceFile := "Util.java" },
    .edit ⟨0⟩ fun descriptor => { descriptor with name := "Util", fieldCount := 2 },
    .define { name := "Util", sourceFile := "Other.java", fieldCount := 7 },
    .define { name := "Main", sourceFile := "Other.java", superclass? := some ⟨1⟩ },
    .edit ⟨0⟩ fun descriptor => { descriptor with fieldCount := descriptor.fieldCount * 3 },
    .define { name := "Late", sourceFile := "Late.java" }]

/-- The renamed class is found by its old name only, and has both edits of its first definition. -/
theorem changeAll_firstWins_of_renaming :
    RegistryChange.EditsDefined renamingChanges ∧
      ∃ registry, empty.changeAll renamingChanges = .ok registry ∧ registry.size = 3 ∧
        registry.idOf? "Main" = some ⟨0⟩ ∧ registry.idOf? "Util" = some ⟨1⟩ ∧
        registry.get? ⟨0⟩ =
          some { name := "Util", sourceFile := "Main.java", fieldCount := 6 } ∧
        registry.get? ⟨1⟩ = some { name := "Util", sourceFile := "Util.java" } := by
  have hdefined : RegistryChange.EditsDefined renamingChanges := by
    intro position id edit hedit
    rcases position with _ | _ | _ | _ | _ | _ | _ | position <;> cases hedit <;> decide
  obtain ⟨registry, hregistry, hsize, hids, hclasses, -⟩ := changeAll_firstWins hdefined
  refine ⟨hdefined, registry, hregistry, hsize.trans (by decide), ?_, ?_, ?_, ?_⟩
  · exact (hids "Main" ⟨0⟩).2 (by decide)
  · exact (hids "Util" ⟨1⟩).2 (by decide)
  · rw [hclasses]
    decide
  · rw [hclasses]
    decide

end Registry

end ExceptionDispatch
