import ExceptionDispatch.Machine.Basic
import Mathlib.Logic.Relation

/-!
# Superclasses in a growing registry

Loading classes adds to the end of the registry, so a class that is registered keeps its position,
its name and its superclasses, and a name that was not registered gets a position past all others.
Where superclasses come before their subclasses, the walk along superclass links finds exactly the
superclasses, so it decides an order, and classes that were added do not change what it finds. Main
statements: `Registry.ExtendedBy.isSubclass_eq` and `Registry.isSubclass_order`.
-/

namespace ExceptionDispatch

namespace Registry

/-! ### Growing registries -/

/-- One registry has all classes of another one where they were, and maybe more at its end. -/
def ExtendedBy (old new : Registry) : Prop :=
  ∃ added : Array RegistryEntry, new.entries = old.entries ++ added

/-- The registry after the definition of classes, one after the other. -/
def defineAll (registry : Registry) (descriptors : List ClassDescriptor) : Registry :=
  descriptors.foldl (fun registry descriptor => (registry.define descriptor).2) registry

namespace ExtendedBy

variable {old middle new : Registry} {name : String} {id : ClassId}

/-- A registry may stay as it is. -/
theorem refl (registry : Registry) : registry.ExtendedBy registry :=
  ⟨#[], (Array.append_empty).symm⟩

/-- A registry may be extended more than once. -/
theorem trans (hfirst : old.ExtendedBy middle) (hsecond : middle.ExtendedBy new) :
    old.ExtendedBy new := by
  obtain ⟨first, hfirst⟩ := hfirst
  obtain ⟨second, hsecond⟩ := hsecond
  exact ⟨first ++ second, by rw [hsecond, hfirst, Array.append_assoc]⟩

/-- Defining a class extends the registry. -/
theorem define (registry : Registry) (descriptor : ClassDescriptor) :
    registry.ExtendedBy (registry.define descriptor).2 := by
  rw [Registry.define]
  cases registry.idOf? descriptor.name with
  | some id => exact .refl registry
  | none => exact ⟨#[⟨descriptor.name, descriptor⟩], Array.push_eq_append⟩

private theorem defineAll (registry : Registry) (descriptors : List ClassDescriptor) :
    registry.ExtendedBy (registry.defineAll descriptors) := by
  induction descriptors generalizing registry with
  | nil => exact .refl registry
  | cons descriptor rest ih => exact (define registry descriptor).trans (ih _)

/-- No class is lost. -/
theorem size_le (h : old.ExtendedBy new) : old.size ≤ new.size := by
  obtain ⟨added, hadded⟩ := h
  rw [size, size, hadded, Array.size_append]
  exact Nat.le_add_right _ _

/-- A registered class keeps its descriptor. -/
theorem get?_eq (h : old.ExtendedBy new) (hid : id.index < old.size) :
    new.get? id = old.get? id := by
  obtain ⟨added, hadded⟩ := h
  rw [get?, get?, hadded, Array.getElem?_append_left hid]

private theorem keys_eq (h : old.ExtendedBy new) : ∃ added, new.keys = old.keys ++ added := by
  obtain ⟨added, hadded⟩ := h
  exact ⟨added.toList.map RegistryEntry.key, by simp [keys, hadded]⟩

/-- A registered name keeps its position. -/
theorem idOf?_eq (h : old.ExtendedBy new) (hid : old.idOf? name = some id) :
    new.idOf? name = some id := by
  obtain ⟨added, hadded⟩ := h.keys_eq
  rw [idOf?_eq_findIdx?] at hid ⊢
  obtain ⟨position, hposition, rfl⟩ := Option.map_eq_some_iff.1 hid
  rw [hadded, List.findIdx?_append, hposition, Option.some_or]
  rfl

/-- A name that was not registered gets a position past the old classes. -/
theorem size_le_of_idOf? (h : old.ExtendedBy new) (hold : old.idOf? name = none)
    (hnew : new.idOf? name = some id) : old.size ≤ id.index := by
  obtain ⟨added, hadded⟩ := h.keys_eq
  rw [idOf?_eq_findIdx?] at hold hnew
  rw [hadded, List.findIdx?_append, Option.map_eq_none_iff.1 hold, Option.none_or] at hnew
  obtain ⟨position, hposition, rfl⟩ := Option.map_eq_some_iff.1 hnew
  obtain ⟨offset, -, rfl⟩ := Option.map_eq_some_iff.1 hposition
  rw [length_keys]
  exact Nat.le_add_left _ _

end ExtendedBy

/-! ### Superclasses -/

/-- One class is the superclass of another one. -/
def Extends (registry : Registry) (id superclass : ClassId) : Prop :=
  ∃ descriptor, registry.get? id = some descriptor ∧ descriptor.superclass? = some superclass

/-- One class is another one or one of its superclasses, near or far. -/
def Inherits (registry : Registry) : ClassId → ClassId → Prop :=
  Relation.ReflTransGen registry.Extends

/-- Every superclass comes before the classes that extend it. -/
def Ordered (registry : Registry) : Prop :=
  ∀ id superclass, registry.Extends id superclass → superclass.index < id.index

variable {registry old new : Registry} {id other : ClassId} {descriptor : ClassDescriptor}

private theorem ordered_iff : registry.Ordered ↔
    ∀ position, position < registry.size →
      ((registry.get? ⟨position⟩).bind ClassDescriptor.superclass?).all
        (·.index < position) = true := by
  constructor
  · intro hordered position hposition
    have hsome : (registry.get? ⟨position⟩).isSome = true := get?_isSome_iff.2 hposition
    obtain ⟨descriptor, hget⟩ := Option.isSome_iff_exists.1 hsome
    rw [hget, Option.bind_some]
    cases hsuper : descriptor.superclass? with
    | none => rfl
    | some superclass => exact decide_eq_true (hordered _ _ ⟨descriptor, hget, hsuper⟩)
  · rintro h id superclass ⟨descriptor, hget, hsuper⟩
    have hid : id.index < registry.size := get?_isSome_iff.1 (by rw [hget]; rfl)
    have hall := h id.index hid
    rw [hget, Option.bind_some, hsuper] at hall
    exact of_decide_eq_true hall

instance (registry : Registry) : Decidable registry.Ordered :=
  decidable_of_iff _ ordered_iff.symm

/-- In an ordered registry the superclasses of a class do not come after it. -/
theorem Ordered.index_le (hordered : registry.Ordered) (h : registry.Inherits id other) :
    other.index ≤ id.index := by
  induction h with
  | refl => exact Nat.le_refl _
  | tail _ hextends ih => exact Nat.le_trans (Nat.le_of_lt (hordered _ _ hextends)) ih

private theorem Ordered.lt_size (hordered : registry.Ordered) (h : registry.Inherits id other)
    (hid : id.index < registry.size) : other.index < registry.size :=
  Nat.lt_of_le_of_lt (hordered.index_le h) hid

/-- In an ordered registry two classes that inherit from each other are one class. -/
theorem Ordered.inherits_antisymm (hordered : registry.Ordered) (h : registry.Inherits id other)
    (hback : registry.Inherits other id) : id = other := by
  ext
  exact Nat.le_antisymm (hordered.index_le hback) (hordered.index_le h)

private theorem extends_iff {superclass : ClassId} (hget : registry.get? id = some descriptor) :
    registry.Extends id superclass ↔ descriptor.superclass? = some superclass := by
  simp only [Extends, hget, Option.some.injEq, exists_eq_left']

private theorem rightUnique_extends (registry : Registry) :
    Relator.RightUnique registry.Extends := by
  intro id first second ⟨descriptor, hget, hfirst⟩ hsecond
  rw [extends_iff hget, hfirst] at hsecond
  exact Option.some.inj hsecond

/-- Of two classes that a class inherits from, one inherits from the other. -/
theorem inherits_total {first second : ClassId} (hfirst : registry.Inherits id first)
    (hsecond : registry.Inherits id second) :
    registry.Inherits first second ∨ registry.Inherits second first :=
  Relation.ReflTransGen.total_of_right_unique registry.rightUnique_extends hfirst hsecond

/-- A class that extends nothing inherits from itself only. -/
theorem inherits_iff_of_none (hget : registry.get? id = some descriptor)
    (hsuper : descriptor.superclass? = none) : registry.Inherits id other ↔ id = other := by
  rw [Inherits, Relation.ReflTransGen.cases_head_iff, or_iff_left_iff_imp]
  rintro ⟨superclass, hextends, -⟩
  rw [extends_iff hget, hsuper] at hextends
  cases hextends

/-- A class inherits from itself and from what its superclass inherits from. -/
theorem inherits_iff_of_some {superclass : ClassId} (hget : registry.get? id = some descriptor)
    (hsuper : descriptor.superclass? = some superclass) :
    registry.Inherits id other ↔ id = other ∨ registry.Inherits superclass other := by
  rw [Inherits, Relation.ReflTransGen.cases_head_iff]
  simp only [extends_iff hget, hsuper, Option.some.injEq, exists_eq_left']

/-- The walk from an old class sees old classes only, and with steps enough it finds the sought
class if that is one of its superclasses. -/
theorem ExtendedBy.reaches_eq (h : old.ExtendedBy new) (hordered : old.Ordered)
    (sought : ClassId) {steps : Nat} (hid : id.index < old.size) (hsteps : id.index < steps) :
    ∃ answer, new.reaches sought steps id = .ok answer ∧
      (answer = true ↔ old.Inherits id sought) := by
  induction steps generalizing id with
  | zero => exact absurd hsteps (Nat.not_lt_zero _)
  | succ steps ih =>
    obtain ⟨descriptor, hget⟩ := Option.isSome_iff_exists.1 (get?_isSome_iff.2 hid)
    rw [reaches, h.get?_eq hid, hget]
    by_cases hsought : id = sought
    · refine ⟨true, if_pos hsought, iff_of_true rfl ?_⟩
      rw [hsought]
      exact .refl
    · rw [if_neg hsought]
      cases hsuper : descriptor.superclass? with
      | none =>
        refine ⟨false, by simp only [hsuper], ?_⟩
        rw [inherits_iff_of_none hget hsuper]
        exact iff_of_false Bool.false_ne_true hsought
      | some superclass =>
        have hlt := hordered id superclass ⟨descriptor, hget, hsuper⟩
        obtain ⟨answer, hanswer, hiff⟩ := ih (Nat.lt_trans hlt hid) (by omega)
        refine ⟨answer, by simp only [hsuper, hanswer], ?_⟩
        rw [hiff, inherits_iff_of_some hget hsuper, or_iff_right hsought]

/-- Classes that were added do not change whether an old class is a subclass. -/
theorem ExtendedBy.isSubclass_eq (h : old.ExtendedBy new) (hordered : old.Ordered)
    (hid : id.index < old.size) (other : ClassId) :
    ∃ answer, new.isSubclass id other = .ok answer ∧ (answer = true ↔ old.Inherits id other) :=
  h.reaches_eq hordered other hid (Nat.lt_succ_of_lt (Nat.lt_of_lt_of_le hid h.size_le))

/-- In an ordered registry the walk decides whether one class inherits from another one. -/
theorem isSubclass_eq (hordered : registry.Ordered) (hid : id.index < registry.size)
    (other : ClassId) :
    ∃ answer, registry.isSubclass id other = .ok answer ∧
      (answer = true ↔ registry.Inherits id other) :=
  (ExtendedBy.refl registry).isSubclass_eq hordered hid other

/-- In an ordered registry the walk finds a class exactly if it is inherited from. -/
theorem isSubclass_eq_true_iff (hordered : registry.Ordered) (hid : id.index < registry.size) :
    registry.isSubclass id other = .ok true ↔ registry.Inherits id other := by
  obtain ⟨answer, hanswer, hiff⟩ := isSubclass_eq hordered hid other
  rw [hanswer, Except.ok.injEq, hiff]

private theorem ExtendedBy.isSubclass_congr (h : old.ExtendedBy new) (hordered : old.Ordered)
    (hid : id.index < old.size) (other : ClassId) :
    new.isSubclass id other = old.isSubclass id other := by
  obtain ⟨answer, hanswer, hiff⟩ := h.isSubclass_eq hordered hid other
  obtain ⟨before, hbefore, hbeforeIff⟩ := Registry.isSubclass_eq hordered hid other
  rw [hanswer, hbefore, Except.ok.injEq, Bool.eq_iff_iff, hiff, hbeforeIff]

/-- In an ordered registry the walk along superclass links decides an order. From a registered class
it ends within as many classes as there are up to that one, at no link that leads out of the
registry, and finds a class exactly if zero or more links lead there. What it decides is reflexive,
transitive and antisymmetric, and total among the classes that one class inherits from. Defining
further classes, whatever they extend, changes no answer for a registered class. -/
theorem isSubclass_order (hordered : registry.Ordered) :
    (∀ id other, id.index < registry.size → ∃ answer,
      registry.isSubclass id other = .ok answer ∧
      (∀ steps, id.index < steps → registry.reaches other steps id = .ok answer) ∧
      (answer = true ↔ Relation.ReflTransGen registry.Extends id other)) ∧
    (∀ id, registry.isSubclass id id = .ok true) ∧
    (∀ low middle high, low.index < registry.size → registry.isSubclass low middle = .ok true →
      registry.isSubclass middle high = .ok true → registry.isSubclass low high = .ok true) ∧
    (∀ id other, id.index < registry.size → other.index < registry.size →
      registry.isSubclass id other = .ok true → registry.isSubclass other id = .ok true →
      id = other) ∧
    (∀ id first second, id.index < registry.size → registry.isSubclass id first = .ok true →
      registry.isSubclass id second = .ok true →
      registry.isSubclass first second = .ok true ∨
        registry.isSubclass second first = .ok true) ∧
    ∀ id other, id.index < registry.size → ∀ descriptors,
      (registry.defineAll descriptors).isSubclass id other = registry.isSubclass id other := by
  refine ⟨?_, registry.isSubclass_self, ?_, ?_, ?_, ?_⟩
  · intro id other hid
    obtain ⟨answer, hanswer, hiff⟩ := isSubclass_eq hordered hid other
    refine ⟨answer, hanswer, ?_, hiff⟩
    intro steps hsteps
    obtain ⟨found, hfound, hfoundIff⟩ :=
      (ExtendedBy.refl registry).reaches_eq hordered other hid hsteps
    rw [hfound, Except.ok.injEq, Bool.eq_iff_iff, hfoundIff, hiff]
  · intro low middle high hlow hfirst hsecond
    rw [isSubclass_eq_true_iff hordered hlow] at hfirst ⊢
    rw [isSubclass_eq_true_iff hordered (hordered.lt_size hfirst hlow)] at hsecond
    exact hfirst.trans hsecond
  · intro id other hid hother h hback
    rw [isSubclass_eq_true_iff hordered hid] at h
    rw [isSubclass_eq_true_iff hordered hother] at hback
    exact hordered.inherits_antisymm h hback
  · intro id first second hid hfirst hsecond
    rw [isSubclass_eq_true_iff hordered hid] at hfirst hsecond
    rw [isSubclass_eq_true_iff hordered (hordered.lt_size hfirst hid),
      isSubclass_eq_true_iff hordered (hordered.lt_size hsecond hid)]
    exact inherits_total hfirst hsecond
  · intro id other hid descriptors
    exact (ExtendedBy.defineAll registry descriptors).isSubclass_congr hordered hid other

/-- A root, a class that extends it, and two classes that extend that one. -/
def branchingRegistry : Registry :=
  empty.defineAll
    [{ name := "Root", sourceFile := "Root.java" },
      { name := "Inner", sourceFile := "Inner.java", superclass? := some ⟨0⟩ },
      { name := "Left", sourceFile := "Left.java", superclass? := some ⟨1⟩ },
      { name := "Right", sourceFile := "Right.java", superclass? := some ⟨1⟩ }]

/-- A branch inherits from the root and not from the other branch, and a class that extends itself
changes nothing for either. -/
theorem isSubclass_order_of_branching :
    branchingRegistry.Ordered ∧
      branchingRegistry.isSubclass ⟨2⟩ ⟨0⟩ = .ok true ∧
      branchingRegistry.isSubclass ⟨2⟩ ⟨3⟩ = .ok false ∧
      ¬ Relation.ReflTransGen branchingRegistry.Extends ⟨2⟩ ⟨3⟩ ∧
      (branchingRegistry.defineAll
        [{ name := "Loop", sourceFile := "Loop.java", superclass? := some ⟨4⟩ }]).isSubclass
          ⟨2⟩ ⟨3⟩ = .ok false := by
  have hordered : branchingRegistry.Ordered := by decide
  have hfalse : branchingRegistry.isSubclass ⟨2⟩ ⟨3⟩ = .ok false := rfl
  obtain ⟨hwalk, -, htrans, -, -, hadded⟩ := isSubclass_order hordered
  refine ⟨hordered, ?_, hfalse, ?_, (hadded ⟨2⟩ ⟨3⟩ (by decide) _).trans hfalse⟩
  · exact htrans ⟨2⟩ ⟨1⟩ ⟨0⟩ (by decide) rfl rfl
  · obtain ⟨answer, hanswer, -, hiff⟩ := hwalk ⟨2⟩ ⟨3⟩ (by decide)
    rw [hfalse, Except.ok.injEq] at hanswer
    rw [← hiff, ← hanswer]
    exact Bool.false_ne_true

end Registry

/-- Loading a class extends the registry. -/
theorem Machine.extendedBy_of_load? {machine loaded : Machine} {name : String} {id : ClassId}
    (h : machine.load? name = some (id, loaded)) :
    machine.registry.ExtendedBy loaded.registry := by
  obtain ⟨descriptor, -, heq⟩ := Option.map_eq_some_iff.1 h
  cases heq
  exact .define machine.registry descriptor

end ExceptionDispatch
