import ExceptionDispatch.Machine.Standard
import ExceptionDispatch.Proofs.LazyLoading
import ExceptionDispatch.Proofs.SharedState
import ExceptionDispatch.Proofs.Surrogates

/-!
# Messages

The message of an exception is two references away: its first field refers to a text, whose first
field refers to an array of code units. It can be read from any heap, whatever is on it, and a
message that a constructor has written is there for good, since dispatch writes to no object that it
did not allocate. Main statements: `Diagnostic.messageText?_exact` and
`Operation.construct_writesMessage`.
-/

namespace ExceptionDispatch

/-! ### Reading -/

namespace Heap

/-- The first field of an instance refers to an object, which need not be there. -/
def RefersTo (heap : Heap) (ref target : ObjectRef) : Prop :=
  ∃ classId others, heap.get? ref = some ⟨classId, .fields (.reference target :: others)⟩

/-- An array holds code units and nothing else. -/
def HoldsUnits (heap : Heap) (ref : ObjectRef) (units : List UInt16) : Prop :=
  ∃ classId, heap.get? ref = some ⟨classId, .array (units.map .char)⟩

/-- An instance refers to an instance that refers to an array of code units. -/
def HasMessage (heap : Heap) (ref : ObjectRef) (units : List UInt16) : Prop :=
  ∃ string array, heap.RefersTo ref string ∧ heap.RefersTo string array ∧
    heap.HoldsUnits array units

end Heap

namespace Diagnostic

variable {heap : Heap} {ref : ObjectRef}

private theorem firstReference?_eq_some_iff {target : ObjectRef} :
    firstReference? heap ref = some target ↔ heap.RefersTo ref target := by
  constructor
  · intro h
    obtain ⟨⟨classId, body⟩, hobject, hfield⟩ := Option.bind_eq_some_iff.1 h
    obtain ⟨value, hvalue, hreference⟩ := Option.bind_eq_some_iff.1 hfield
    cases body with
    | array values => cases hvalue
    | fields slots =>
      cases slots with
      | nil => cases hvalue
      | cons slot others =>
        cases hvalue
        cases value with
        | reference found =>
          cases hreference
          exact ⟨classId, others, hobject⟩
        | null | int | long | char => cases hreference
  · rintro ⟨classId, others, hobject⟩
    rw [firstReference?, hobject]
    rfl

private theorem mapM_char?_eq_some_iff {values : List Value} {units : List UInt16} :
    values.mapM Value.char? = some units ↔ values = units.map Value.char := by
  induction values generalizing units with
  | nil => cases units <;> simp
  | cons value rest ih =>
    rw [List.mapM_cons]
    cases value with
    | char unit =>
      change ((rest.mapM Value.char?).bind fun left => some (unit :: left)) = some units ↔ _
      rw [Option.bind_eq_some_iff]
      constructor
      · rintro ⟨left, hleft, heq⟩
        cases heq
        rw [ih.1 hleft]
        rfl
      · intro h
        cases units with
        | nil => cases h
        | cons first left =>
          obtain ⟨hunit, hrest⟩ := List.cons.inj h
          cases hunit
          exact ⟨left, ih.2 hrest, rfl⟩
    | null | int | long | reference => cases units <;> simp [Value.char?]

private theorem codeUnits?_eq_some_iff {units : List UInt16} :
    codeUnits? heap ref = some units ↔ heap.HoldsUnits ref units := by
  constructor
  · intro h
    obtain ⟨⟨classId, body⟩, hobject, hvalues⟩ := Option.bind_eq_some_iff.1 h
    obtain ⟨values, hbody, hunits⟩ := Option.bind_eq_some_iff.1 hvalues
    rw [mapM_char?_eq_some_iff] at hunits
    cases body with
    | fields slots => cases hbody
    | array found =>
      cases hbody
      exact ⟨classId, by rw [hobject, hunits]⟩
  · rintro ⟨classId, hobject⟩
    rw [codeUnits?, hobject]
    exact mapM_char?_eq_some_iff.mpr rfl

/-- A message is read from its code units. -/
theorem messageText?_eq_some_iff {text : String} :
    messageText? heap ref = some text ↔
      ∃ units, heap.HasMessage ref units ∧ text.toList = Text.Utf16.decode units := by
  simp only [messageText?, Option.bind_eq_some_iff, Option.map_eq_some_iff,
    firstReference?_eq_some_iff, codeUnits?_eq_some_iff]
  constructor
  · rintro ⟨string, hstring, array, harray, units, hunits, rfl⟩
    exact ⟨units, ⟨string, array, hstring, harray, hunits⟩, String.toList_ofList⟩
  · rintro ⟨units, ⟨string, array, hstring, harray, hunits⟩, htext⟩
    refine ⟨string, hstring, array, harray, units, hunits, ?_⟩
    rw [← htext, String.ofList_toList]

/-- Reading a message is total and exact, also with references that lead nowhere, in a circle or to
objects of another shape. There is a message exactly if the object is an instance whose first field
refers to an instance whose first field refers to an array of code units. It is the text that these
units read as: written again it has a unit for each of them, the same one unless that is a surrogate
without its partner, which is replaced, so that all are the same exactly if the units are
well-formed. -/
theorem messageText?_exact (heap : Heap) (ref : ObjectRef) :
    ((messageText? heap ref).isSome = true ↔ ∃ units, heap.HasMessage ref units) ∧
      ∀ text, messageText? heap ref = some text ↔
        ∃ units, heap.HasMessage ref units ∧ Text.Utf16.ReadAs units text.toList := by
  constructor
  · rw [Option.isSome_iff_exists]
    constructor
    · rintro ⟨text, htext⟩
      obtain ⟨units, hunits, -⟩ := messageText?_eq_some_iff.1 htext
      exact ⟨units, hunits⟩
    · rintro ⟨units, hunits⟩
      exact ⟨String.ofList (Text.Utf16.decode units),
        messageText?_eq_some_iff.2 ⟨units, hunits, String.toList_ofList⟩⟩
  · intro text
    simp only [messageText?_eq_some_iff, Text.Utf16.readAs_iff]

/-- A heap with an exception whose message has a surrogate without its partner, and with one that
refers to itself. -/
def surrogateHeap : Heap where
  objects := #[⟨⟨0⟩, .fields [.reference ⟨1⟩]⟩, ⟨⟨1⟩, .fields [.reference ⟨2⟩, .int 3]⟩,
    ⟨⟨2⟩, .array [.char 72, .char 0xD800, .char 105]⟩, ⟨⟨0⟩, .fields [.reference ⟨3⟩]⟩]

/-- The message is found, with a replacement for the surrogate, and a circle leads to none. -/
theorem messageText?_exact_of_surrogate :
    messageText? surrogateHeap ⟨0⟩ = some "H\uFFFDi" ∧ messageText? surrogateHeap ⟨3⟩ = none := by
  have hmessage : surrogateHeap.HasMessage ⟨0⟩ [72, 0xD800, 105] :=
    ⟨⟨1⟩, ⟨2⟩, ⟨⟨0⟩, [], rfl⟩, ⟨⟨1⟩, [.int 3], rfl⟩, ⟨⟨2⟩, rfl⟩⟩
  have hread : Text.Utf16.ReadAs [72, 0xD800, 105] "H\uFFFDi".toList :=
    Text.Utf16.readAs_iff.2 (by decide +kernel)
  refine ⟨((messageText?_exact surrogateHeap ⟨0⟩).2 _).2 ⟨_, hmessage, hread⟩, ?_⟩
  have hcircle := (messageText?_exact surrogateHeap ⟨3⟩).1
  rw [← Option.not_isSome_iff_eq_none, hcircle]
  rintro ⟨units, string, array, ⟨_, _, hstring⟩, ⟨_, _, harray⟩, _, hunits⟩
  cases hstring
  cases harray
  cases hunits

end Diagnostic

/-! ### Writing -/

private theorem ConstructorRule.exists_spendFirst?_eq {className : String}
    {rules : List ConstructorRule} {rule : ConstructorRule}
    (h : rules.find? (·.applies className) = some rule) :
    ∃ spent, spendFirst? className rules = some (rule.code, spent) := by
  induction rules with
  | nil => cases h
  | cons first rest ih =>
    rw [spendFirst?]
    rw [List.find?_cons] at h
    cases happlies : first.applies className with
    | true =>
      rw [happlies] at h
      cases h
      exact ⟨_, rfl⟩
    | false =>
      rw [happlies] at h
      obtain ⟨spent, hspent⟩ := ih h
      exact ⟨first :: spent, by rw [hspent]; rfl⟩

namespace Heap

/-- An instance has a first field. -/
def HasField (heap : Heap) (ref : ObjectRef) : Prop :=
  ∃ classId slot others, heap.get? ref = some ⟨classId, .fields (slot :: others)⟩

section

variable {heap : Heap} {ref : ObjectRef}

private theorem get?_push_of_some {object : Object} (h : heap.get? ref = some object)
    (added : Object) :
    (heap.push added).2.get? ref = some object := by
  have hlt : ref.index < heap.size := get?_isSome_iff.1 (by rw [h]; rfl)
  rw [get?_push, if_neg (Nat.ne_of_lt hlt), h]

private theorem get?_push_self (heap : Heap) (added : Object) :
    (heap.push added).2.get? (heap.push added).1 = some added := by
  rw [get?_push]
  exact if_pos rfl

private theorem HasField.push (h : heap.HasField ref) (added : Object) :
    (heap.push added).2.HasField ref := by
  obtain ⟨classId, slot, others, hobject⟩ := h
  exact ⟨classId, slot, others, get?_push_of_some hobject added⟩

private theorem HasField.ne_push (h : heap.HasField ref) (added : Object) :
    ref ≠ (heap.push added).1 := by
  obtain ⟨_, _, _, hobject⟩ := h
  have hlt : ref.index < heap.size := get?_isSome_iff.1 (by rw [hobject]; rfl)
  rintro rfl
  exact Nat.lt_irrefl _ hlt

private theorem hasField_allocate (heap : Heap) (classId : ClassId) {fieldCount : UInt16}
    (h : 0 < fieldCount) :
    (heap.allocate classId fieldCount).2.HasField (heap.allocate classId fieldCount).1 := by
  have hpos : 0 < fieldCount.toNat := UInt16.lt_iff_toNat_lt.1 h
  obtain ⟨others, hothers⟩ := Nat.exists_eq_succ_of_ne_zero (Nat.ne_of_gt hpos)
  refine ⟨classId, .null, List.replicate others .null, ?_⟩
  rw [allocate, get?_push_self, Object.fresh, hothers, List.replicate_succ]

end

private theorem get?_setField_first {heap : Heap} {ref : ObjectRef} {classId : ClassId}
    {slot : Value} {others : List Value}
    (hobject : heap.get? ref = some ⟨classId, .fields (slot :: others)⟩) (value : Value)
    (other : ObjectRef) :
    (heap.setField ref 0 value).get? other =
      if ref = other then some ⟨classId, .fields (value :: others)⟩ else heap.get? other := by
  have hwritten : heap.setField? ref 0 value =
      some ⟨heap.objects.setIfInBounds ref.index ⟨classId, .fields (value :: others)⟩⟩ := by
    rw [setField?, hobject]
    rfl
  rw [setField, hwritten, Option.getD_some, get?_of_setField? hwritten, hobject]
  rfl

private theorem hasMessage_setField {heap : Heap} {object string array : ObjectRef}
    {units : List UInt16} (hne : object ≠ string) (hobject : heap.HasField object)
    (hstring : heap.HasField string) (harray : heap.HoldsUnits array units) :
    ((heap.setField string 0 (.reference array)).setField object 0
      (.reference string)).HasMessage object units := by
  obtain ⟨classId, slot, others, hobject⟩ := hobject
  obtain ⟨stringId, first, rest, hstring⟩ := hstring
  obtain ⟨arrayId, harray⟩ := harray
  -- The array is none of the two instances, since it is no instance at all.
  have hstringArray : string ≠ array := by
    rintro rfl
    rw [hstring] at harray
    cases harray
  have hobjectArray : object ≠ array := by
    rintro rfl
    rw [hobject] at harray
    cases harray
  have hlinked := get?_setField_first hstring (.reference array)
  have hsame : (heap.setField string 0 (.reference array)).get? object =
      some ⟨classId, .fields (slot :: others)⟩ := by
    rw [hlinked, if_neg hne.symm, hobject]
  have hwritten := get?_setField_first hsame (.reference string)
  refine ⟨string, array, ⟨classId, others, ?_⟩, ⟨stringId, rest, ?_⟩, ⟨arrayId, ?_⟩⟩
  · rw [hwritten, if_pos rfl]
  · rw [hwritten, if_neg hne, hlinked, if_pos rfl]
  · rw [hwritten, if_neg hobjectArray, hlinked, if_neg hstringArray, harray]

/-- A message is there for as long as no object changes. -/
theorem HasMessage.mono {old new : Heap} {ref : ObjectRef} {units : List UInt16}
    (h : old.HasMessage ref units)
    (hkeeps : ∀ other object, old.get? other = some object → new.get? other = some object) :
    new.HasMessage ref units := by
  obtain ⟨string, array, ⟨_, _, hobject⟩, ⟨_, _, hstring⟩, _, harray⟩ := h
  exact ⟨string, array, ⟨_, _, hkeeps _ _ hobject⟩, ⟨_, _, hkeeps _ _ hstring⟩, _,
    hkeeps _ _ harray⟩

end Heap

namespace Machine

/-- The classes that messages are made of are registered, and a text has a field. -/
def HasTextClasses (machine : Machine) : Prop :=
  ∃ stringId arrayId descriptor, machine.registry.idOf? stringClass = some stringId ∧
    machine.registry.idOf? charArrayClass = some arrayId ∧
      machine.registry.get? stringId = some descriptor ∧ 0 < descriptor.fieldCount

/-- A machine has a message written to exceptions of a kind: their class is registered or can be
loaded, and has a field for it, and of the rules that apply to them the first is for a constructor
that writes the message. -/
structure WritesMessage (machine : Machine) (kind : Builtin) (text : String) : Prop where
  initializers : machine.initializers = []
  limit : 0 < machine.settings.maxConstructionDepth
  texts : machine.HasTextClasses
  exception : ∃ descriptor, machine.described? kind.className = some descriptor ∧
    0 < descriptor.fieldCount ∧
      ∃ rule, machine.constructors.find? (·.applies descriptor.name) = some rule ∧
        rule.code.action = .message text

/-- What may happen to a machine as long as only dispatch works on it: an operation runs on some
thread, however it ends, or there are other settings, loadable classes and rules. -/
inductive Dispatches : Machine → Machine → Prop
  | operation (machine : Machine) (operation : Operation) (thread : Thread) (trace : Trace) :
      Dispatches machine (Dispatch.finalOf (operation.run { machine, thread, trace })).machine
  | configure (machine : Machine) (settings : Settings) (loadable : List ClassDescriptor)
      (initializers : List InitializerRule) (constructors : List ConstructorRule) :
      Dispatches machine { machine with settings, loadable, initializers, constructors }

variable {old new machine : Machine}

private theorem get?_of_dispatches (h : Relation.ReflTransGen Dispatches old new) {ref : ObjectRef}
    {object : Object} (hobject : old.heap.get? ref = some object) :
    new.heap.get? ref = some object := by
  induction h with
  | refl => exact hobject
  | tail _ hstep ih =>
    cases hstep with
    | operation operation thread trace =>
      exact (operation.run_addsOnly { machine := _, thread, trace }).objects ref object ih
    | configure => exact ih

private theorem HasTextClasses.extended (h : old.HasTextClasses)
    (hextends : old.registry.ExtendedBy new.registry) : new.HasTextClasses := by
  obtain ⟨stringId, arrayId, descriptor, hstring, harray, hget, hcount⟩ := h
  have hsame := hextends.get?_eq (Registry.lt_size_of_idOf? hstring)
  exact ⟨stringId, arrayId, descriptor, hextends.idOf?_eq hstring, hextends.idOf?_eq harray,
    hsame.trans hget, hcount⟩

/-- An object with a field is given the code units of a text as its message. -/
theorem hasMessage_writeMessage {object : ObjectRef} (hobject : machine.heap.HasField object)
    (htexts : machine.HasTextClasses) (text : String) :
    (machine.writeMessage object text).heap.HasMessage object
      (Text.Utf16.encode text.toList) := by
  obtain ⟨stringId, arrayId, descriptor, hstring, harray, hget, hcount⟩ := htexts
  have hclasses : machine.messageClasses? = some (stringId, descriptor.fieldCount, arrayId) := by
    simp [messageClasses?, hstring, harray, hget]
  -- The array comes first, and then the text that refers to it.
  let allocated := machine.heap.allocateText arrayId text
  have hunits : allocated.2.get? allocated.1 =
      some ⟨arrayId, .array ((Text.Utf16.encode text.toList).map .char)⟩ :=
    Heap.get?_push_self _ _
  have hold : allocated.2.HasField object := hobject.push _
  rw [writeMessage, hclasses]
  exact Heap.hasMessage_setField (hold.ne_push _) (hold.push _)
    (Heap.hasField_allocate allocated.2 stringId hcount) ⟨_, Heap.get?_push_of_some hunits _⟩

end Machine

namespace Dispatch

private theorem perform_message (run : GuestRunner) {code : GuestCode} {text : String}
    (haction : code.action = .message text) (object : ObjectRef) (start : Execution) :
    ∃ after, perform run code (some object) start = .ok .returned after ∧
      after.machine = start.machine.writeMessage object text ∧ after.thread = start.thread := by
  rw [perform_apply, act_apply, haction]
  exact ⟨_, rfl, rfl, start.thread.truncate_pushAll code.frames⟩

private theorem construction_message (start : Execution) {descriptor : ClassDescriptor}
    {rule : ConstructorRule} {text : String} (htexts : start.machine.HasTextClasses)
    (hfields : 0 < descriptor.fieldCount)
    (hrule : start.machine.constructors.find? (·.applies descriptor.name) = some rule)
    (haction : rule.code.action = .message text) (kind : Builtin) (id : ClassId) (bound : Nat) :
    ∃ after, construction (runner (bound + 1)) kind id descriptor start = .ok .returned after ∧
      after.machine.heap.HasMessage start.nextObject (Text.Utf16.encode text.toList) ∧
      after.thread = start.thread := by
  obtain ⟨spent, hspent⟩ := ConstructorRule.exists_spendFirst?_eq hrule
  let taken : Machine :=
    { (start.beginConstruction kind id descriptor).machine with constructors := spent }
  have htake : (start.beginConstruction kind id descriptor).machine.takeConstructor?
      descriptor.name = some (rule.code, taken) := by
    show (ConstructorRule.spendFirst? descriptor.name start.machine.constructors).map _ = _
    rw [hspent, Option.map_some]
  have hobject : taken.heap.HasField start.nextObject :=
    start.machine.heap.hasField_allocate id hfields
  obtain ⟨after, hrun, hmachine, hthread⟩ := perform_message (runner bound) haction
    start.nextObject { start.beginConstruction kind id descriptor with machine := taken }
  refine ⟨after.leaveConstructor start.nextObject, ?_, ?_, ?_⟩
  · simp only [construction, htake, runner, hrun]
  · rw [Execution.machine_leaveConstructor, hmachine]
    exact Machine.hasMessage_writeMessage hobject htexts text
  · rw [Execution.thread_leaveConstructor, hthread]
    simp

/-- An exception is constructed with the message that its constructor writes, and the thread is as
it was. -/
theorem construct_message {start : Execution} {kind : Builtin} {text : String}
    (hmessage : start.machine.WritesMessage kind text)
    (hdepth : start.thread.constructionDepth = 0) (bound : Nat) :
    ∃ object after, construct (runner (bound + 1)) kind start = .ok (.finished object) after ∧
      after.machine.heap.HasMessage object (Text.Utf16.encode text.toList) ∧
      after.thread = start.thread := by
  obtain ⟨descriptor, hdescribed, hfields, rule, hrule, haction⟩ := hmessage.exception
  have hlimit :
      ¬ start.machine.settings.maxConstructionDepth ≤ start.thread.constructionDepth := by
    rw [hdepth]
    exact UInt16.not_le.2 hmessage.limit
  -- The exception's class may be loaded first, which leaves all other classes as they are.
  obtain ⟨id, -, hget, hresolve⟩ :=
    exists_resolve_eq (runner (bound + 1)) hmessage.initializers hdescribed
  have hsame := start.machine.sameButClasses_lookFor kind.className
  have hextends :=
    (Machine.growsTo_of_changes (start.machine.changes_lookFor kind.className)).registry
  rw [← hsame.constructors] at hrule
  obtain ⟨after, hrun, hheap, hthread⟩ := construction_message
    { start with machine := start.machine.lookFor kind.className }
    (hmessage.texts.extended hextends) hfields hrule haction kind id bound
  refine ⟨_, after, ?_, hheap, hthread⟩
  simp only [construct_apply, if_neg hlimit, hresolve, hget, hrun]

end Dispatch

/-- Messages survive construction unchanged. On a machine that has a message written to exceptions
of a kind, on an idle thread, constructing such an exception ends with an object that has this
message, and leaves the thread as it was. The object has the message ever after, whatever operations
are carried out on whatever threads, and whatever rules there are for them. -/
theorem Operation.construct_writesMessage {start : Execution} {kind : Builtin} {text : String}
    (hmessage : start.machine.WritesMessage kind text)
    (hdepth : start.thread.constructionDepth = 0) :
    ∃ object after, (construct kind).run start = .ok (.construction (.finished object)) after ∧
      Diagnostic.messageText? after.machine.heap object = some text ∧
      after.thread = start.thread ∧
      ∀ later, Relation.ReflTransGen Machine.Dispatches after.machine later →
        Diagnostic.messageText? later.heap object = some text := by
  have hlimit : 0 < start.machine.settings.maxConstructionDepth.toNat :=
    UInt16.lt_iff_toNat_lt.1 hmessage.limit
  have hpos : start.nestingBound ≠ 0 := by
    rw [Execution.nestingBound, hdepth, UInt16.toNat_zero]
    omega
  obtain ⟨bound, hbound⟩ := Nat.exists_eq_succ_of_ne_zero hpos
  obtain ⟨object, after, hrun, hheap, hthread⟩ :=
    Dispatch.construct_message hmessage hdepth bound
  have hread {heap : Heap} (h : heap.HasMessage object (Text.Utf16.encode text.toList)) :
      Diagnostic.messageText? heap object = some text :=
    Diagnostic.messageText?_eq_some_iff.2 ⟨_, h, (Text.Utf16.decode_encode _).symm⟩
  refine ⟨object, after, ?_, hread hheap, hthread, ?_⟩
  · rw [run, hbound, runWith, Dispatch.bind_apply, hrun]
    rfl
  · intro later hlater
    exact hread (hheap.mono fun _ _ hobject => Machine.get?_of_dispatches hlater hobject)

/-- A thread on a machine where the constructor of one exception writes a message, once. -/
def writingExecution : Execution where
  machine := { Machine.standard with
    constructors := [{
      className? := some Builtin.io.className
      remaining? := some 1
      code := ⟨.message "a😀", [{ method := { name := "init", owner := ⟨0⟩ }, pc := 4 }]⟩ }] }
  thread := { name := "main", classId := ⟨0⟩ }

/-- The message is there after two more exceptions were constructed on another thread, one of them
for an initializer, and given a message as well. -/
theorem Operation.construct_writesMessage_of_standard :
    ∃ object after, (construct .io).run writingExecution =
        .ok (.construction (.finished object)) after ∧
      Diagnostic.messageText? after.machine.heap object = some "a😀" ∧
      after.thread = writingExecution.thread ∧
      let machine := { after.machine with
        initializers := [⟨Builtin.arithmetic.className, ⟨.raise .nullPointer, []⟩⟩]
        constructors := [{ code := ⟨.message "b", []⟩ }] }
      let left := Dispatch.finalOf ((constructAndUnwind .arithmetic).run
        { machine, thread := { name := "other", classId := ⟨0⟩ } })
      Diagnostic.messageText? left.machine.heap object = some "a😀" := by
  have htexts : writingExecution.machine.HasTextClasses :=
    ⟨⟨2⟩, ⟨3⟩, { name := Machine.stringClass, sourceFile := "String.java", fieldCount := 1 },
      by decide +kernel⟩
  have hmessage : writingExecution.machine.WritesMessage .io "a😀" :=
    ⟨rfl, by decide, htexts, exceptionClass Builtin.io.className (some ⟨1⟩), by decide +kernel,
      by decide, writingExecution.machine.constructors.head (by decide), by decide +kernel,
      by decide⟩
  obtain ⟨object, after, hrun, htext, hthread, hlater⟩ := construct_writesMessage hmessage rfl
  refine ⟨object, after, hrun, htext, hthread, hlater _ ?_⟩
  exact (Relation.ReflTransGen.single (.configure after.machine _ _ _ _)).tail
    (.operation _ (constructAndUnwind .arithmetic) _ _)

end ExceptionDispatch
