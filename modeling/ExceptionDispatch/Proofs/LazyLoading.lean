import ExceptionDispatch.Proofs.Conclusion

/-!
# Lazy loading

Without initializers, resolving classes only loads those that are not registered and can be loaded.
Which classes are loaded by looking for some names one after the other can be told from the machine
as it is at the start: each one at the first of its names, and no class twice. Main statements:
`Machine.loads_lookForAll` and `Dispatch.resolve_eq_lookFor`.
-/

namespace ExceptionDispatch

/-- No element is left twice. -/
theorem nodup_eraseDups {α : Type} [BEq α] [LawfulBEq α] :
    (elements : List α) → elements.eraseDups.Nodup
  | [] => by simp
  | element :: rest => by
    rw [List.eraseDups_cons, List.nodup_cons]
    refine ⟨?_, nodup_eraseDups (rest.filter fun other => !other == element)⟩
    simp [List.mem_eraseDups]
  termination_by elements => elements.length
  decreasing_by exact Nat.lt_succ_of_le (List.length_filter_le _ rest)

/-- An element at the end is left if it is new. -/
theorem eraseDups_append_singleton {α : Type} [DecidableEq α]
    (elements : List α) (element : α) :
    (elements ++ [element]).eraseDups =
      if element ∈ elements then elements.eraseDups else elements.eraseDups ++ [element] := by
  rw [List.eraseDups_append]
  by_cases h : element ∈ elements
  · simp [List.removeAll, h]
  · simp [List.removeAll, h, List.eraseDups_cons]

namespace Machine

/-- Whether the class of a name can be loaded: it is not registered, and some class of that name is
loadable. -/
def canLoad (machine : Machine) (name : String) : Bool :=
  (machine.registry.idOf? name).isNone && (machine.loadable.find? (·.name == name)).isSome

/-- The machine after a class was looked for, which is loaded if it can be. -/
def lookFor (machine : Machine) (name : String) : Machine :=
  match machine.registry.idOf? name, machine.load? name with
  | none, some (_, loaded) => loaded
  | _, _ => machine

/-- The machine after several classes were looked for, one after the other. -/
def lookForAll (machine : Machine) (names : List String) : Machine := names.foldl lookFor machine

/-- A machine has loaded classes of some names, in this order and each by its first loadable one. -/
structure Loads (old new : Machine) (names : List String) : Prop where
  loaded : new.loaded.toList = old.loaded.toList ++ names
  keys : new.registry.keys = old.registry.keys ++ names
  loadable : new.loadable =
    names.foldl (fun left name => left.eraseP (·.name == name)) old.loadable

/-- Two machines have the same objects, settings and rules, and have constructed the same
objects. -/
structure SameButClasses (first second : Machine) : Prop where
  heap : second.heap = first.heap
  settings : second.settings = first.settings
  initializers : second.initializers = first.initializers
  constructors : second.constructors = first.constructors
  constructed : second.constructed = first.constructed

variable {machine : Machine} {name : String}

private theorem SameButClasses.refl (machine : Machine) : machine.SameButClasses machine :=
  ⟨rfl, rfl, rfl, rfl, rfl⟩

/-- What is the same on one machine is so on the other one. -/
theorem SameButClasses.symm {first second : Machine} (h : first.SameButClasses second) :
    second.SameButClasses first :=
  ⟨h.heap.symm, h.settings.symm, h.initializers.symm, h.constructors.symm, h.constructed.symm⟩

/-- What is the same twice is the same. -/
theorem SameButClasses.trans {first second third : Machine} (hfirst : first.SameButClasses second)
    (hsecond : second.SameButClasses third) : first.SameButClasses third where
  heap := hsecond.heap.trans hfirst.heap
  settings := hsecond.settings.trans hfirst.settings
  initializers := hsecond.initializers.trans hfirst.initializers
  constructors := hsecond.constructors.trans hfirst.constructors
  constructed := hsecond.constructed.trans hfirst.constructed

private theorem load?_of_canLoad (h : machine.canLoad name = true) :
    machine.registry.idOf? name = none ∧
      ∃ id, machine.load? name = some (id, machine.lookFor name) := by
  rw [canLoad, Bool.and_eq_true, Option.isNone_iff_eq_none] at h
  obtain ⟨hid, hloadable⟩ := h
  obtain ⟨descriptor, hfind⟩ := Option.isSome_iff_exists.1 hloadable
  refine ⟨hid, (machine.registry.define descriptor).1, ?_⟩
  simp only [lookFor, hid, load?, hfind, Option.map_some]

private theorem lookFor_of_not_canLoad (h : machine.canLoad name = false) :
    machine.lookFor name = machine := by
  rw [lookFor]
  split
  next id loaded hid hload =>
    obtain ⟨descriptor, hfind, -, -⟩ := eq_of_load? hload
    simp [canLoad, hid, hfind] at h
  next => rfl

/-- Looking for a class changes the machine as dispatch does. -/
theorem changes_lookFor (machine : Machine) (name : String) :
    Relation.ReflTransGen Changes machine (machine.lookFor name) := by
  cases hcan : machine.canLoad name with
  | false =>
    rw [lookFor_of_not_canLoad hcan]
  | true =>
    obtain ⟨hid, id, hload⟩ := load?_of_canLoad hcan
    exact .single (.load hid hload)

/-- Looking for a class does not touch anything else. -/
theorem sameButClasses_lookFor (machine : Machine) (name : String) :
    machine.SameButClasses (machine.lookFor name) := by
  cases hcan : machine.canLoad name with
  | false =>
    rw [lookFor_of_not_canLoad hcan]
    exact .refl machine
  | true =>
    obtain ⟨-, id, hload⟩ := load?_of_canLoad hcan
    obtain ⟨descriptor, -, -, heq⟩ := eq_of_load? hload
    rw [heq]
    exact ⟨rfl, rfl, rfl, rfl, rfl⟩

/-- Names that are looked for later are looked for on the machine that is left. -/
theorem lookForAll_append (machine : Machine) (first second : List String) :
    machine.lookForAll (first ++ second) = (machine.lookForAll first).lookForAll second :=
  List.foldl_append

private theorem changes_lookForAll (machine : Machine) (names : List String) :
    Relation.ReflTransGen Changes machine (machine.lookForAll names) := by
  induction names generalizing machine with
  | nil => exact .refl
  | cons name rest ih => exact (machine.changes_lookFor name).trans (ih _)

/-- Looking for classes lets the machine grow. -/
theorem growsTo_lookForAll (machine : Machine) (names : List String) :
    machine.GrowsTo (machine.lookForAll names) :=
  growsTo_of_changes (machine.changes_lookForAll names)

/-- Looking for classes does not touch anything else. -/
theorem sameButClasses_lookForAll (machine : Machine) (names : List String) :
    machine.SameButClasses (machine.lookForAll names) := by
  induction names generalizing machine with
  | nil => exact .refl machine
  | cons name rest ih => exact (machine.sameButClasses_lookFor name).trans (ih _)

/-! ### The classes that are loaded -/

private theorem canLoad_lookFor (h : machine.canLoad name = true) (other : String) :
    (machine.lookFor name).canLoad other = (machine.canLoad other && !other == name) := by
  obtain ⟨hid, id, hload⟩ := load?_of_canLoad h
  have hregistered := idOf?_of_load? hload
  obtain ⟨descriptor, -, hname, -, heq⟩ := eq_of_load?_of_idOf? hid hload
  by_cases hother : other = name
  · simp [canLoad, hother, hregistered]
  · have hnew : descriptor.name ∉ machine.registry.keys := by
      rw [hname]
      exact Registry.idOf?_eq_none_iff.1 hid
    rw [heq]
    simp [canLoad, Registry.idOf?_push _ _ _ hnew, hname, hother, find?_eraseP_of_ne hother]

private theorem Loads.cons {new : Machine} {names : List String}
    (hcan : machine.canLoad name = true) (h : (machine.lookFor name).Loads new names) :
    machine.Loads new (name :: names) := by
  obtain ⟨hid, id, hload⟩ := load?_of_canLoad hcan
  obtain ⟨descriptor, -, hname, -, heq⟩ := eq_of_load?_of_idOf? hid hload
  obtain ⟨hloaded, hkeys, hloadable⟩ := h
  rw [heq] at hloaded hkeys hloadable
  refine ⟨?_, ?_, hloadable⟩
  · simpa using hloaded
  · simpa [hname] using hkeys

/-- Looking for classes loads those that can be loaded, each at the first of its names. -/
theorem loads_lookForAll (machine : Machine) (names : List String) :
    machine.Loads (machine.lookForAll names) (names.filter machine.canLoad).eraseDups := by
  induction names generalizing machine with
  | nil => exact ⟨by simp [lookForAll], by simp [lookForAll], by simp [lookForAll]⟩
  | cons name rest ih =>
    have hrest := ih (machine.lookFor name)
    rw [lookForAll, List.foldl_cons]
    cases hcan : machine.canLoad name with
    | false =>
      rw [lookFor_of_not_canLoad hcan] at hrest ⊢
      rwa [List.filter_cons_of_neg (by simp [hcan])]
    | true =>
      rw [List.filter_cons_of_pos hcan, List.eraseDups_cons, List.filter_filter]
      have hsame : (machine.lookFor name).canLoad =
          fun other => !other == name && machine.canLoad other := by
        funext other
        rw [canLoad_lookFor hcan, Bool.and_comm]
      rw [hsame] at hrest
      exact hrest.cons hcan

/-- A class is there after it was looked for if it was registered or could be loaded. -/
theorem isSome_idOf?_lookFor (machine : Machine) (name : String) :
    ((machine.lookFor name).registry.idOf? name).isSome = (machine.described? name).isSome := by
  cases hcan : machine.canLoad name with
  | false =>
    rw [lookFor_of_not_canLoad hcan]
    cases hid : machine.registry.idOf? name with
    | some id => rw [described?_isSome hid, Option.isSome_some]
    | none =>
      simp only [canLoad, hid, Option.isNone_none, Bool.true_and] at hcan
      simp only [described?, hid, hcan, Option.isSome_none]
  | true =>
    obtain ⟨hid, id, hload⟩ := load?_of_canLoad hcan
    simp only [canLoad, hid, Option.isNone_none, Bool.true_and] at hcan
    rw [idOf?_of_load? hload, described?, hid]
    exact hcan.symm

end Machine

/-- The resolution of a class that was looked for. -/
def Machine.resolution (machine : Machine) (name : String) : Resolution :=
  match machine.registry.idOf? name with
  | some id => .loaded id
  | none => .missing

/-- Without initializers, a class that is resolved is looked for. -/
theorem Dispatch.resolve_eq_lookFor (run : GuestRunner) {execution : Execution} {name : String}
    (hinitializers : execution.machine.initializers = []) :
    resolve run name execution =
      .ok ((execution.machine.lookFor name).resolution name)
        { execution with machine := execution.machine.lookFor name } := by
  rw [resolve_eq_find run name hinitializers, find_apply, Machine.lookFor]
  cases hid : execution.machine.registry.idOf? name with
  | some id => simp only [Machine.resolution, hid]
  | none =>
    cases hload : execution.machine.load? name with
    | none => simp only [Machine.resolution, hid]
    | some found =>
      obtain ⟨id, loaded⟩ := found
      simp only [Machine.resolution, Machine.idOf?_of_load? hload]

/-- A class that is registered or can be loaded is resolved, without an effect but for its
loading. -/
theorem Dispatch.exists_resolve_eq (run : GuestRunner) {start : Execution} {name : String}
    {descriptor : ClassDescriptor} (hinitializers : start.machine.initializers = [])
    (hname : start.machine.described? name = some descriptor) :
    ∃ id, (start.machine.lookFor name).registry.idOf? name = some id ∧
      (start.machine.lookFor name).registry.get? id = some descriptor ∧
      resolve run name start =
        .ok (.loaded id) { start with machine := start.machine.lookFor name } := by
  have hsome := start.machine.isSome_idOf?_lookFor name
  rw [hname] at hsome
  obtain ⟨id, hid⟩ := Option.isSome_iff_exists.1 hsome
  have hsame : (start.machine.lookFor name).described? name = some descriptor := by
    rw [(Machine.growsTo_of_changes (start.machine.changes_lookFor name)).described, hname]
  refine ⟨id, hid, ?_, ?_⟩
  · rwa [Machine.described?, hid] at hsame
  · rw [resolve_eq_lookFor run hinitializers, Machine.resolution, hid]

end ExceptionDispatch
