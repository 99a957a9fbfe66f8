import ExceptionDispatch.Proofs.OnceOnly

/-!
# The history of a heap

What is found on a heap can be told from the allocations and the writes that were made to it,
without the heap: handles are dense, the shape of an object is the one it was allocated with, and a
field holds what was last written to it, or null. A write counts if the object has the field, which
its shape says, whatever has become of its class since. Commands make these changes, and so does
guest code in the middle of an operation. Main statements: `Heap.Stores.changeAll` and
`Session.run_storesHeap`.
-/

namespace ExceptionDispatch

/-! ### Shapes -/

/-- What is settled for good when an object is allocated: its class, and how many fields it has or
which values the array holds. -/
inductive Shape
  | fields (classId : ClassId) (count : Nat)
  | array (classId : ClassId) (values : List Value)
  deriving DecidableEq, Repr

namespace Shape

/-- The number of fields; an array has none. -/
def fieldCount : Shape → Nat
  | fields _ count => count
  | array _ _ => 0

/-- A new object of a shape, with all its fields null. -/
def fresh : Shape → Object
  | fields classId count => Object.fresh classId count
  | array classId values => ⟨classId, .array values⟩

/-- The shape of an array of the UTF-16 code units of a text. -/
def ofText (classId : ClassId) (text : String) : Shape :=
  .array classId ((Text.Utf16.encode text.toList).map Value.char)

end Shape

namespace Object

/-- The shape of an object. -/
def shape (object : Object) : Shape :=
  match object.body with
  | .fields slots => .fields object.classId slots.length
  | .array values => .array object.classId values

private theorem length_fields (object : Object) :
    object.fields.length = object.shape.fieldCount := by
  obtain ⟨classId, body⟩ := object
  cases body <;> rfl

private theorem shape_of_setField? {object written : Object} {index : Nat} {value : Value}
    (h : object.setField? index value = some written) : written.shape = object.shape := by
  rw [setField?] at h
  split at h
  next slots hbody =>
    split at h
    next =>
      cases h
      simp only [shape, hbody, List.length_set]
    next => cases h
  next => cases h

end Object

namespace Shape

/-- A new object has the shape that it is made of. -/
@[simp] theorem shape_fresh (shape : Shape) : shape.fresh.shape = shape := by
  cases shape with
  | fields classId count => simp [fresh, Object.fresh, Object.shape]
  | array classId values => rfl

private theorem field?_fresh (shape : Shape) (index : Nat) :
    shape.fresh.field? index = if index < shape.fieldCount then some .null else none := by
  cases shape with
  | fields classId count => exact List.getElem?_replicate
  | array classId values => rfl

end Shape

namespace Heap

/-- The shapes of the objects, by increasing position. -/
def shapes (heap : Heap) : List Shape := heap.objects.toList.map Object.shape

/-- There are as many shapes as objects. -/
@[simp] theorem length_shapes (heap : Heap) : heap.shapes.length = heap.size := by
  simp [shapes, size]

private theorem getElem?_shapes (heap : Heap) (position : Nat) :
    heap.shapes[position]? = (heap.get? ⟨position⟩).map Object.shape := by
  simp [shapes, get?]

/-- The shape of an object put on the heap comes last. -/
@[simp] theorem shapes_push (heap : Heap) (object : Object) :
    (heap.push object).2.shapes = heap.shapes ++ [object.shape] := by
  simp [push, shapes]

private theorem shapes_of_setField? {heap written : Heap} {ref : ObjectRef} {index : Nat}
    {value : Value} (h : heap.setField? ref index value = some written) :
    written.shapes = heap.shapes := by
  apply List.ext_getElem?
  intro position
  rw [getElem?_shapes, getElem?_shapes, get?_of_setField? h]
  split
  next href =>
    obtain ⟨object, hobject, hwritten⟩ := Option.bind_eq_some_iff.1 h
    obtain ⟨changed, hchanged, -⟩ := Option.map_eq_some_iff.1 hwritten
    rw [← href, hobject, Option.bind_some, hchanged, Option.map_some, Option.map_some,
      Object.shape_of_setField? hchanged]
  next => rfl

private theorem field?_of_setField? {heap written : Heap} {ref : ObjectRef} {index : Nat}
    {value : Value} (h : heap.setField? ref index value = some written) (other : ObjectRef)
    (position : Nat) :
    (written.get? other).bind (Object.field? · position) =
      if ref = other ∧ index = position then some value
      else (heap.get? other).bind (Object.field? · position) := by
  rw [get?_of_setField? h]
  by_cases hother : ref = other
  · obtain ⟨object, hobject, hwritten⟩ := Option.bind_eq_some_iff.1 h
    obtain ⟨changed, hchanged, -⟩ := Option.map_eq_some_iff.1 hwritten
    subst hother
    rw [if_pos rfl, hobject, Option.bind_some, hchanged, Option.bind_some, Option.bind_some,
      Object.field?_of_setField? hchanged]
    simp only [true_and]
  · rw [if_neg hother, if_neg fun hsame => hother hsame.1]

end Heap

/-! ### Changes of the heap -/

/-- A change that is asked of a heap. -/
inductive HeapChange
  /-- Put a new object on the heap. -/
  | allocate (shape : Shape)
  /-- Write a field, if there is such a field. -/
  | write (object : ObjectRef) (index : Nat) (value : Value)
  deriving DecidableEq, Repr

namespace HeapChange

/-- The shapes that were allocated, in order. The latest change of a history comes first. -/
def shapes : List HeapChange → List Shape
  | [] => []
  | allocate shape :: earlier => shapes earlier ++ [shape]
  | write _ _ _ :: earlier => shapes earlier

/-- Whether there is an object under a handle, allocated with so many fields that one has this
index. -/
def hasField (history : List HeapChange) (object : ObjectRef) (index : Nat) : Bool :=
  (shapes history)[object.index]?.any (index < ·.fieldCount)

/-- The value that was last written to a field. Attempts to write a field that was not there at that
time do not count. -/
def lastWrite? (object : ObjectRef) (index : Nat) : List HeapChange → Option Value
  | [] => none
  | allocate _ :: earlier => lastWrite? object index earlier
  | write written position value :: earlier =>
    if written = object ∧ position = index ∧ hasField earlier object index = true then some value
    else lastWrite? object index earlier

variable {history : List HeapChange} {object : ObjectRef} {index : Nat}

private theorem shapes_prefix_append (changes history : List HeapChange) :
    shapes history <+: shapes (changes ++ history) := by
  induction changes with
  | nil => exact List.prefix_rfl
  | cons change changes ih =>
    cases change with
    | allocate shape => exact ih.trans (List.prefix_append _ _)
    | write => exact ih

/-- A write adds no field. -/
@[simp] theorem hasField_write (written : ObjectRef) (position : Nat) (value : Value) :
    hasField (write written position value :: history) object index =
      hasField history object index := rfl

private theorem hasField_eq_false (h : (shapes history).length ≤ object.index) :
    hasField history object index = false := by
  rw [hasField, List.getElem?_eq_none h, Option.any_none]

private theorem hasField_allocate (shape : Shape) :
    hasField (allocate shape :: history) object index =
      if object.index = (shapes history).length then decide (index < shape.fieldCount)
      else hasField history object index := by
  rw [hasField, shapes, List.getElem?_append]
  split
  next hlt => rw [if_neg (Nat.ne_of_lt hlt), hasField]
  next hle =>
    split
    next heq => simp [heq]
    next hne =>
      have hbeyond : 1 ≤ object.index - (shapes history).length := by omega
      rw [hasField_eq_false (Nat.le_of_not_lt hle), List.getElem?_eq_none hbeyond, Option.any_none]

private theorem lastWrite?_eq_none (h : hasField history object index = false) :
    lastWrite? object index history = none := by
  -- No field is there earlier that is not there later, so no earlier write counts either.
  induction history with
  | nil => rfl
  | cons change earlier ih =>
    cases change with
    | allocate shape =>
      rw [hasField_allocate] at h
      split at h
      next hnew => exact ih (hasField_eq_false (Nat.le_of_eq hnew.symm))
      next => exact ih h
    | write written position value =>
      have hearlier : hasField earlier object index = false := h
      rw [lastWrite?, if_neg (by simp [hearlier])]
      exact ih hearlier

end HeapChange

namespace Heap

/-- The heap after a change. -/
def change (heap : Heap) : HeapChange → Heap
  | .allocate shape => (heap.push shape.fresh).2
  | .write object index value => heap.setField object index value

/-- The heap after changes, the last of which is the latest. -/
def changeAll (heap : Heap) (changes : List HeapChange) : Heap :=
  changes.foldr (fun change after => after.change change) heap

private theorem changeAll_append (heap : Heap) (later earlier : List HeapChange) :
    heap.changeAll (later ++ earlier) = (heap.changeAll earlier).changeAll later :=
  List.foldr_append

/-- All that can be found out about a heap is told by its history: under which handle the next
object comes, which shapes the objects have, what is read from a field and whether a field can be
written. -/
structure Stores (heap : Heap) (history : List HeapChange) : Prop where
  next : ∀ object, (heap.push object).1 = ⟨(HeapChange.shapes history).length⟩
  shapes : heap.shapes = HeapChange.shapes history
  field? : ∀ object index, (heap.get? object).bind (Object.field? · index) =
    if HeapChange.hasField history object index = true then
      some ((HeapChange.lastWrite? object index history).getD .null)
    else none
  setField? : ∀ object index value, (heap.setField? object index value).isSome =
    HeapChange.hasField history object index

namespace Stores

variable {heap : Heap} {history : List HeapChange}

private theorem of_shapes (hshapes : heap.shapes = HeapChange.shapes history)
    (hfield : ∀ object index, (heap.get? object).bind (Object.field? · index) =
      if HeapChange.hasField history object index = true then
        some ((HeapChange.lastWrite? object index history).getD .null)
      else none) : heap.Stores history where
  next object := by
    rw [← hshapes, length_shapes]
    rfl
  shapes := hshapes
  field? := hfield
  setField? object index value := by
    rw [HeapChange.hasField, ← hshapes, getElem?_shapes, Heap.setField?]
    cases heap.get? object with
    | none => rfl
    | some found =>
      rw [Option.bind_some, Option.isSome_map, Option.map_some, Option.any_some, Bool.eq_iff_iff,
        Object.setField?_isSome_iff, found.length_fields, decide_eq_true_iff]

private theorem empty : Heap.empty.Stores [] :=
  .of_shapes rfl fun _ _ => rfl

private theorem allocate (h : heap.Stores history) (shape : Shape) :
    (heap.push shape.fresh).2.Stores (.allocate shape :: history) := by
  refine .of_shapes ?_ ?_
  · rw [shapes_push, h.shapes, Shape.shape_fresh, HeapChange.shapes]
  · intro object index
    have hsize : heap.size = (HeapChange.shapes history).length := by
      rw [← h.shapes, length_shapes]
    rw [get?_push, HeapChange.hasField_allocate, HeapChange.lastWrite?, hsize]
    split
    next hnew =>
      have hfield : HeapChange.hasField history object index = false :=
        HeapChange.hasField_eq_false (Nat.le_of_eq hnew.symm)
      rw [HeapChange.lastWrite?_eq_none hfield, Option.bind_some, shape.field?_fresh]
      simp only [decide_eq_true_iff, Option.getD_none]
    next => exact h.field? object index

private theorem write (h : heap.Stores history) (object : ObjectRef) (index : Nat) (value : Value) :
    (heap.setField object index value).Stores (.write object index value :: history) := by
  have hfield := h.setField? object index value
  rw [setField]
  cases hset : heap.setField? object index value with
  | none =>
    rw [hset, Option.isSome_none] at hfield
    refine .of_shapes h.shapes fun other position => ?_
    have hlast : HeapChange.lastWrite? other position (.write object index value :: history) =
        HeapChange.lastWrite? other position history := by
      refine if_neg ?_
      rintro ⟨rfl, rfl, hother⟩
      rw [← hfield] at hother
      exact Bool.noConfusion hother
    rw [Option.getD_none, HeapChange.hasField_write, hlast]
    exact h.field? other position
  | some written =>
    rw [hset, Option.isSome_some] at hfield
    refine .of_shapes ((shapes_of_setField? hset).trans h.shapes) fun other position => ?_
    rw [Option.getD_some, field?_of_setField? hset, HeapChange.hasField_write,
      HeapChange.lastWrite?]
    by_cases hsame : object = other ∧ index = position
    -- The write was possible, so the object has the field, and this is what was last written to it.
    · obtain ⟨rfl, rfl⟩ := hsame
      rw [if_pos ⟨rfl, rfl⟩, if_pos hfield.symm, if_pos ⟨rfl, rfl, hfield.symm⟩, Option.getD_some]
    · have hother : ¬ (object = other ∧ index = position ∧
          HeapChange.hasField history other position = true) := fun h => hsame ⟨h.1, h.2.1⟩
      rw [if_neg hsame, if_neg hother]
      exact h.field? other position

/-- Changes are stored, whatever was stored before. -/
theorem changeAll (h : heap.Stores history) (changes : List HeapChange) :
    (heap.changeAll changes).Stores (changes ++ history) := by
  induction changes with
  | nil => exact h
  | cons change changes ih =>
    cases change with
    | allocate shape => exact ih.allocate shape
    | write object index value => exact ih.write object index value

end Stores

/-- Changes lead from one heap to another one, and from the history of the one to the history of the
other. -/
def Advances (old new : Heap × List HeapChange) : Prop :=
  ∃ changes, new.1 = old.1.changeAll changes ∧ new.2 = changes ++ old.2

namespace Advances

variable {old middle new : Heap × List HeapChange}

private theorem refl (old : Heap × List HeapChange) : Advances old old := ⟨[], rfl, rfl⟩

private theorem trans (hfirst : Advances old middle) (hsecond : Advances middle new) :
    Advances old new := by
  obtain ⟨first, hheap, hhistory⟩ := hfirst
  obtain ⟨second, hheap', hhistory'⟩ := hsecond
  refine ⟨second ++ first, ?_, ?_⟩
  · rw [hheap', hheap, changeAll_append]
  · rw [hhistory', hhistory, List.append_assoc]

private theorem stores (h : Advances old new) (hold : old.1.Stores old.2) : new.1.Stores new.2 := by
  obtain ⟨changes, hheap, hhistory⟩ := h
  rw [hheap, hhistory]
  exact hold.changeAll changes

private theorem grows (h : Advances old new) (hold : old.1.Stores old.2) :
    old.2 <:+ new.2 ∧ old.1.shapes <+: new.1.shapes := by
  have hnew := h.stores hold
  obtain ⟨changes, -, hhistory⟩ := h
  rw [hold.shapes, hnew.shapes, hhistory]
  exact ⟨List.suffix_append _ _, HeapChange.shapes_prefix_append changes old.2⟩

private theorem of_steps {α : Type} (heapOf : α → Heap)
    {step : α × List HeapChange → α × List HeapChange → Prop}
    (hstep : ∀ before after, step before after →
      Advances (heapOf before.1, before.2) (heapOf after.1, after.2))
    {before after : α × List HeapChange} (h : Relation.ReflTransGen step before after) :
    Advances (heapOf before.1, before.2) (heapOf after.1, after.2) := by
  induction h with
  | refl => exact .refl _
  | tail _ hlast ih => exact ih.trans (hstep _ _ hlast)

end Advances

end Heap

/-! ### Dispatch -/

namespace Machine

/-- The changes that giving an object a message makes to the heap: an array and a text are
allocated, the array is written to the text and the text to the object. -/
def messageChanges (machine : Machine) (object : ObjectRef) (text : String) : List HeapChange :=
  match machine.messageClasses? with
  | none => []
  | some (stringId, fieldCount, arrayId) =>
    let array : ObjectRef := ⟨machine.heap.size⟩
    let string : ObjectRef := ⟨machine.heap.size + 1⟩
    [.write object 0 (.reference string), .write string 0 (.reference array),
      .allocate (.fields stringId fieldCount.toNat), .allocate (.ofText arrayId text)]

private theorem heap_writeMessage (machine : Machine) (object : ObjectRef) (text : String) :
    (machine.writeMessage object text).heap =
      machine.heap.changeAll (machine.messageChanges object text) := by
  rw [writeMessage, messageChanges]
  cases machine.messageClasses? with
  | none => rfl
  | some classes =>
    obtain ⟨stringId, fieldCount, arrayId⟩ := classes
    -- The text comes after the array, so its handle is known before either is allocated.
    have hstring (shape : Shape) (object : Object) :
        ((machine.heap.push shape.fresh).2.push object).1 = ⟨machine.heap.size + 1⟩ := by
      rw [← machine.heap.size_push shape.fresh]
      rfl
    simp only [Heap.changeAll, List.foldr_cons, List.foldr_nil, Heap.change]
    rw [← hstring (.ofText arrayId text) (Shape.fields stringId fieldCount.toNat).fresh]
    rfl

/-- One change that dispatch makes to the machine, with what it adds to the history of the heap. -/
inductive Logs : Machine × List HeapChange → Machine × List HeapChange → Prop
  /-- The heap is not concerned. -/
  | elsewhere {old new : Machine} (history : List HeapChange) (hchange : old.Changes new)
      (hheap : new.heap = old.heap) : Logs (old, history) (new, history)
  /-- An exception is allocated, with as many fields as its class has now. -/
  | allocation {machine : Machine} {id : ClassId} {descriptor : ClassDescriptor}
      (history : List HeapChange) (hget : machine.registry.get? id = some descriptor) :
      Logs (machine, history)
        ((machine.allocate id descriptor.fieldCount).2.addConstructed ⟨machine.heap.size⟩,
          .allocate (.fields id descriptor.fieldCount.toNat) :: history)
  /-- A constructor writes a message. -/
  | message (machine : Machine) (history : List HeapChange) (object : ObjectRef) (text : String) :
      Logs (machine, history)
        (machine.writeMessage object text, machine.messageChanges object text ++ history)

/-- Every change that dispatch makes adds something to the history, if only nothing. -/
theorem Changes.exists_logs {old new : Machine} (h : old.Changes new)
    (history : List HeapChange) : ∃ after, Logs (old, history) (new, after) := by
  cases h with
  | load hid hload =>
    refine ⟨history, .elsewhere history (.load hid hload) ?_⟩
    obtain ⟨descriptor, -, -, rfl⟩ := eq_of_load? hload
    rfl
  | message object text => exact ⟨_, .message old history object text⟩
  | initializer htake =>
    refine ⟨history, .elsewhere history (.initializer htake) ?_⟩
    obtain ⟨rule, -, -, rfl⟩ := eq_of_takeInitializer? htake
    rfl
  | allocation hget => exact ⟨_, .allocation history hget⟩
  | constructor htake =>
    refine ⟨history, .elsewhere history (.constructor htake) ?_⟩
    obtain ⟨rules, -, rfl⟩ := eq_of_takeConstructor? htake
    rfl

private theorem exists_logs_of_changes {old new : Machine}
    (h : Relation.ReflTransGen Changes old new) (history : List HeapChange) :
    ∃ after, Relation.ReflTransGen Logs (old, history) (new, after) := by
  induction h with
  | refl => exact ⟨history, .refl⟩
  | tail _ hchange ih =>
    obtain ⟨middle, hmiddle⟩ := ih
    obtain ⟨after, hafter⟩ := hchange.exists_logs middle
    exact ⟨after, hmiddle.tail hafter⟩

private theorem Logs.advances {old new : Machine × List HeapChange} (h : Logs old new) :
    Heap.Advances (old.1.heap, old.2) (new.1.heap, new.2) := by
  cases h with
  | elsewhere history _ hheap => exact ⟨[], hheap, rfl⟩
  | @allocation machine id descriptor history hget =>
    exact ⟨[.allocate (.fields id descriptor.fieldCount.toNat)], rfl, rfl⟩
  | message machine history object text =>
    exact ⟨machine.messageChanges object text, machine.heap_writeMessage object text, rfl⟩

private theorem advances_of_logs {old new : Machine × List HeapChange}
    (h : Relation.ReflTransGen Logs old new) :
    Heap.Advances (old.1.heap, old.2) (new.1.heap, new.2) :=
  Heap.Advances.of_steps Machine.heap (fun _ _ => Logs.advances) h

/-- An exception is allocated on the way from one machine to another one, under the handle that
comes next at that moment and with as many fields as its class has then. -/
def Allocates (old new : Machine × List HeapChange) (object : ObjectRef) : Prop :=
  ∃ machine history id descriptor, Relation.ReflTransGen Logs old (machine, history) ∧
    machine.registry.get? id = some descriptor ∧
    object = ⟨(HeapChange.shapes history).length⟩ ∧
    Relation.ReflTransGen Logs
      ((machine.allocate id descriptor.fieldCount).2.addConstructed object,
        .allocate (.fields id descriptor.fieldCount.toNat) :: history) new

end Machine

private theorem Dispatch.exists_allocates_of_construct {bound : Nat} {kind : Builtin}
    {object : ObjectRef} {start after : Execution} {history : List HeapChange}
    (hstores : start.machine.heap.Stores history)
    (hrun : construct (runner bound) kind start = .ok (.finished object) after) :
    ∃ afterwards, Machine.Allocates (start.machine, history) (after.machine, afterwards)
      object := by
  obtain ⟨id, descriptor, middle, hresolve, hget, rfl, hconstruction⟩ :=
    exists_construction_of_construct hrun
  have hfirst : Follows bound none 0 start (resolve (runner bound) kind.className start) :=
    resolve_follows (guestsFollow bound) kind.className start
  have hlast := changes_construction bound kind id descriptor middle
  rw [hresolve] at hfirst
  rw [hconstruction] at hlast
  obtain ⟨during, hduring⟩ := Machine.exists_logs_of_changes hfirst.changes history
  obtain ⟨afterwards, hafterwards⟩ := Machine.exists_logs_of_changes hlast
    (.allocate (.fields id descriptor.fieldCount.toNat) :: during)
  have hmiddle : middle.machine.heap.Stores during :=
    (Machine.advances_of_logs hduring).stores hstores
  have hnext : middle.nextObject = ⟨(HeapChange.shapes during).length⟩ :=
    hmiddle.next (.fresh id descriptor.fieldCount.toNat)
  exact ⟨afterwards, middle.machine, during, id, descriptor, hduring, hget, hnext, hafterwards⟩

/-! ### Sessions -/

/-- Whether a command carries out an operation of dispatch. -/
def Command.dispatches : Command → Bool
  | .dispatch .. | .raise .. => true
  | _ => false

namespace Session

/-- The changes that a command makes to the heap without dispatching anything. -/
def heapChanges (session : Session) : Command → List HeapChange
  | .allocate id =>
    match session.machine.registry.get? id with
    | some descriptor => [.allocate (.fields id descriptor.fieldCount.toNat)]
    | none => []
  | .allocateArray id values => [.allocate (.array id values)]
  | .allocateText id text => [.allocate (.ofText id text)]
  | .setField object index value => [.write object index value]
  | _ => []

/-- A command is carried out, and the history of the heap goes on: by the changes of the command, or
by those that dispatch makes on its behalf. -/
inductive Carries : Session × List HeapChange → Session × List HeapChange → Prop
  | edit {session : Session} {command : Command} (history : List HeapChange)
      (hcommand : command.dispatches = false) :
      Carries (session, history)
        ((session.step command).session, session.heapChanges command ++ history)
  | dispatch {session : Session} {command : Command} {history after : List HeapChange}
      (hcommand : command.dispatches = true)
      (hlogs : Relation.ReflTransGen Machine.Logs (session.machine, history)
        ((session.step command).session.machine, after)) :
      Carries (session, history) ((session.step command).session, after)

variable {session : Session}

/-- A heap is that of a session. -/
def HasHeap (heap : Heap) (session : Session) : Prop := session.machine.heap = heap

/-- A command that dispatches nothing makes its changes to the heap. -/
theorem heap_step {command : Command} (hcommand : command.dispatches = false) :
    (session.step command).session.machine.heap =
      session.machine.heap.changeAll (session.heapChanges command) := by
  have hsame : HasHeap session.machine.heap session := rfl
  cases command with
  | allocate id =>
    simp only [step, orFail, Diagnostic.classAt, heapChanges]
    cases session.machine.registry.get? id <;> rfl
  | setField object index value =>
    show _ = session.machine.heap.setField object index value
    simp only [step, orFail, objectAt]
    rw [Heap.setField]
    cases hfound : session.machine.heap.get? object with
    | none =>
      rw [Heap.setField?, hfound]
      rfl
    | some found => cases session.machine.heap.setField? object index value <;> rfl
  | allocateArray | allocateText => rfl
  | editClass | showClass | isSubclass | showField =>
    exact orFail_session hsame _ fun _ => rfl
  | constantAt id index =>
    refine orFail_session hsame _ fun descriptor => ?_
    cases ClassRef.ofIndex? index <;> rfl
  | addInitializer | addConstructor => exact orRefuse_session hsame _ fun _ => rfl
  | push number methodNumber pc =>
    refine withThread_session hsame number fun thread _ => ?_
    cases session.methods[methodNumber]? <;> rfl
  | pop number | setPc number | rename number | showThread number | showState number =>
    exact withThread_session hsame number fun _ _ => rfl
  | showDiagnostic number =>
    exact withThread_session hsame number fun _ _ => orFail_session hsame _ fun _ => rfl
  | define | addLoadable | forgetLoadable | configure | addMethod | addThread | terminate => rfl
  | countClasses | findClass | showObject | countObjects | showMessage | findBuiltin => rfl
  | dispatch | raise => cases hcommand

private theorem exists_carries (session : Session) (command : Command) (history : List HeapChange) :
    ∃ after, Carries (session, history) ((session.step command).session, after) := by
  cases hcommand : command.dispatches with
  | false => exact ⟨_, .edit history hcommand⟩
  | true =>
    have hchanges : Relation.ReflTransGen Machine.Changes session.machine
        (session.step command).session.machine := by
      cases command with
      | dispatch number request | raise number request => exact operate_changes number request _
      | _ => cases hcommand
    obtain ⟨after, hlogs⟩ := Machine.exists_logs_of_changes hchanges history
    exact ⟨after, .dispatch hcommand hlogs⟩

/-- Every run of commands has a history of the heap. -/
theorem exists_carries_run (session : Session) (commands : List Command)
    (history : List HeapChange) :
    ∃ after, Relation.ReflTransGen Carries (session, history)
      ((session.run commands).session, after) := by
  induction commands generalizing session history with
  | nil => exact ⟨history, .refl⟩
  | cons command rest ih =>
    obtain ⟨middle, hstep⟩ := session.exists_carries command history
    rw [run]
    split
    · obtain ⟨after, hrest⟩ := ih (session.step command).session middle
      exact ⟨after, hrest.head hstep⟩
    · exact ⟨middle, .single hstep⟩
    · exact ⟨middle, .single hstep⟩

private theorem Carries.advances {old new : Session × List HeapChange} (h : Carries old new) :
    Heap.Advances (old.1.machine.heap, old.2) (new.1.machine.heap, new.2) := by
  cases h with
  | edit history hcommand => exact ⟨_, heap_step hcommand, rfl⟩
  | dispatch hcommand hlogs => exact Machine.advances_of_logs hlogs

private theorem advances_of_carries {old new : Session × List HeapChange}
    (h : Relation.ReflTransGen Carries old new) :
    Heap.Advances (old.1.machine.heap, old.2) (new.1.machine.heap, new.2) :=
  Heap.Advances.of_steps (fun session => session.machine.heap) (fun _ _ => Carries.advances) h

/-- What a session answers about its objects is told by the history of its heap. A new object gets
the handle that comes next, also if it is an exception; under a handle that was given out, a field
is read and written as the history has it, and an attempt to write a field that is not there changes
nothing. -/
structure AnswersFrom (session : Session) (history : List HeapChange) : Prop where
  allocate : ∀ id descriptor, session.machine.registry.get? id = some descriptor →
    (session.step (.allocate id)).outcome =
      .answered (.allocated ⟨(HeapChange.shapes history).length⟩)
  allocateArray : ∀ id values, (session.step (.allocateArray id values)).outcome =
    .answered (.allocated ⟨(HeapChange.shapes history).length⟩)
  allocateText : ∀ id text, (session.step (.allocateText id text)).outcome =
    .answered (.allocated ⟨(HeapChange.shapes history).length⟩)
  construct : ∀ number identifier object after,
    session.Answers number (.construct identifier) (.construction (.finished object)) after →
    ∃ afterwards, Machine.Allocates (session.machine, history) (after.machine, afterwards) object
  setField : ∀ object index value, object.index < (HeapChange.shapes history).length →
    (session.step (.setField object index value)).outcome =
        .answered (.fieldSet (HeapChange.hasField history object index)) ∧
      (HeapChange.hasField history object index = false →
        (session.step (.setField object index value)).session = session)
  showField : ∀ object index, object.index < (HeapChange.shapes history).length →
    (session.step (.showField object index)).outcome =
      .answered (.field (if HeapChange.hasField history object index = true then
        some ((HeapChange.lastWrite? object index history).getD .null) else none))

/-- Answers are as the heap is. -/
theorem answersFrom_of_stores {history : List HeapChange}
    (h : session.machine.heap.Stores history) : session.AnswersFrom history := by
  have hallocated (object : Object) : Outcome.answered (.allocated
      (session.machine.heap.push object).1) =
        .answered (.allocated ⟨(HeapChange.shapes history).length⟩) := by
    rw [h.next]
  have hfound {object : ObjectRef} (hlt : object.index < (HeapChange.shapes history).length) :
      ∃ found, session.machine.heap.get? object = some found := by
    rw [← h.shapes, Heap.length_shapes] at hlt
    exact Option.isSome_iff_exists.1 (Heap.get?_isSome_iff.2 hlt)
  refine ⟨?_, fun id values => hallocated (Shape.array id values).fresh,
    fun id text => hallocated (Shape.ofText id text).fresh, ?_, ?_, ?_⟩
  · intro id descriptor hget
    simp only [step, orFail, Diagnostic.classAt, hget]
    exact hallocated (Shape.fields id descriptor.fieldCount.toNat).fresh
  · intro number identifier object after hanswers
    obtain ⟨_, operation, execution, hoperation, hrun, hmachine⟩ := hanswers.exists_run
    obtain ⟨kind, -, rfl⟩ := exists_kind_of_request hoperation
    obtain ⟨construction, middle, hconstruct, heq⟩ := Dispatch.exists_of_bind_eq_ok hrun
    cases heq
    rw [hmachine]
    exact Dispatch.exists_allocates_of_construct h hconstruct
  · intro object index value hlt
    obtain ⟨found, hfound⟩ := hfound hlt
    have hfield := h.setField? object index value
    simp only [step, orFail, objectAt, hfound]
    cases hset : session.machine.heap.setField? object index value with
    | none =>
      rw [hset, Option.isSome_none] at hfield
      rw [← hfield]
      exact ⟨rfl, fun _ => rfl⟩
    | some written =>
      rw [hset, Option.isSome_some] at hfield
      rw [← hfield]
      exact ⟨rfl, fun hmissing => Bool.noConfusion hmissing⟩
  · intro object index hlt
    obtain ⟨found, hfound⟩ := hfound hlt
    have hfield := h.field? object index
    rw [hfound, Option.bind_some] at hfield
    simp only [step, orFail, objectAt, hfound, hfield, answer]

/-- A heap is a store of objects whose shapes never change. From an empty heap, whatever commands
are carried out, in whatever order, there is a history of the allocations and writes that were made,
those of guest code included, and it tells what is found: handles are dense, an object has the class
and the number of fields, or the values of the array, that it was allocated with, whatever its class
was edited to since, a field can be written exactly if the object was allocated with it, and holds
what was last written to it, or null. Later commands only add to the history, so every handle stays
valid and every object keeps its shape. All of this also holds in the middle of an operation. -/
theorem run_storesHeap {start : Session} (hempty : start.machine.heap = .empty) :
    (∀ commands, ∃ history,
      Relation.ReflTransGen Carries (start, []) ((start.run commands).session, history)) ∧
    ∀ session history, Relation.ReflTransGen Carries (start, []) (session, history) →
      session.machine.heap.Stores history ∧ session.AnswersFrom history ∧
      (∀ later afterwards, Relation.ReflTransGen Carries (session, history) (later, afterwards) →
        history <:+ afterwards ∧
          session.machine.heap.shapes <+: later.machine.heap.shapes) ∧
      ∀ (execution : Execution) during,
        Relation.ReflTransGen Machine.Logs (session.machine, history)
          (execution.machine, during) →
        execution.machine.heap.Stores during ∧
          (history <:+ during ∧ session.machine.heap.shapes <+: execution.machine.heap.shapes) ∧
          ∀ bound kind object after,
            Dispatch.construct (Dispatch.runner bound) kind execution =
              .ok (.finished object) after →
            ∃ afterwards,
              Machine.Allocates (execution.machine, during) (after.machine, afterwards) object := by
  refine ⟨fun commands => start.exists_carries_run commands [], ?_⟩
  intro session history hreached
  have hstart : start.machine.heap.Stores [] := by
    rw [hempty]
    exact .empty
  have hstores : session.machine.heap.Stores history :=
    (advances_of_carries hreached).stores hstart
  refine ⟨hstores, answersFrom_of_stores hstores, ?_, ?_⟩
  · intro later afterwards hlater
    exact (advances_of_carries hlater).grows hstores
  · intro execution during hlogs
    have hadvances := Machine.advances_of_logs hlogs
    have hduring := hadvances.stores hstores
    exact ⟨hduring, hadvances.grows hstores,
      fun _ _ _ _ => Dispatch.exists_allocates_of_construct hduring⟩

/-- Commands after which a class has fewer fields than its first object, and the constructor of an
exception has written a message. -/
def shapingCommands : List Command :=
  [.define { name := "Point", sourceFile := "Point.java", fieldCount := 2 },
    .allocate ⟨4⟩,
    .editClass ⟨4⟩ { fieldCount? := some 1 },
    .allocate ⟨4⟩,
    .setField ⟨0⟩ 1 (.int 4),
    .setField ⟨1⟩ 1 (.int 5),
    .addThread "main" ⟨0⟩,
    .addConstructor none none ⟨.message "no", []⟩,
    .dispatch 0 (.construct 0)]

/-- The first object has kept its two fields, the second one was allocated with one, and the message
is the last value written to the exception. -/
theorem run_storesHeap_of_message :
    ({ machine := .standard } : Session).machine.heap = .empty ∧
      ∃ session history,
        Relation.ReflTransGen Carries ({ machine := .standard }, []) (session, history) ∧
        HeapChange.shapes history = [.fields ⟨4⟩ 2, .fields ⟨4⟩ 1, .fields ⟨5⟩ 1,
          .ofText ⟨3⟩ "no", .fields ⟨2⟩ 1] ∧
        (session.step (.showField ⟨0⟩ 1)).outcome = .answered (.field (some (.int 4))) ∧
        (session.step (.setField ⟨1⟩ 1 .null)).outcome = .answered (.fieldSet false) ∧
        (HeapChange.lastWrite? ⟨2⟩ 0 history).getD .null = .reference ⟨4⟩ := by
  have hempty : ({ machine := .standard } : Session).machine.heap = .empty := rfl
  obtain ⟨hpath, hholds⟩ := run_storesHeap hempty
  obtain ⟨history, hhistory⟩ := hpath shapingCommands
  obtain ⟨hstores, hanswers, -⟩ := hholds _ history hhistory
  have hshapes : HeapChange.shapes history = [.fields ⟨4⟩ 2, .fields ⟨4⟩ 1, .fields ⟨5⟩ 1,
      .ofText ⟨3⟩ "no", .fields ⟨2⟩ 1] := hstores.shapes.symm.trans (by decide +kernel)
  refine ⟨hempty, _, history, hhistory, hshapes, by decide +kernel, ?_, ?_⟩
  · rw [(hanswers.setField ⟨1⟩ 1 .null (by rw [hshapes]; decide)).1, HeapChange.hasField, hshapes]
    rfl
  · have hfield := hstores.field? ⟨2⟩ 0
    rw [HeapChange.hasField, hshapes] at hfield
    have hread : (({ machine := .standard } : Session).run
        shapingCommands).session.machine.heap.get? ⟨2⟩ =
          some ⟨⟨5⟩, .fields [.reference ⟨4⟩]⟩ := by decide +kernel
    rw [hread] at hfield
    exact (Option.some.inj hfield).symm

end Session

end ExceptionDispatch
