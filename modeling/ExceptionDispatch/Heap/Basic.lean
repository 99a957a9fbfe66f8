import ExceptionDispatch.Heap.Object
import ExceptionDispatch.Text.Utf16

/-!
# The heap

Objects in the order of their allocation. A handle is given out once and stays valid: nothing is
ever taken off the heap.
-/

namespace ExceptionDispatch

/-- The objects of the guest program, by increasing position. -/
structure Heap where
  objects : Array Object
  deriving DecidableEq, Repr

namespace Heap

/-- Nothing is allocated. -/
def empty : Heap := ⟨#[]⟩

/-- The number of objects. Embeds `Heap::len`. -/
def size (heap : Heap) : Nat := heap.objects.size

/-- The object under a handle. Embeds `Heap::try_get`. -/
def get? (heap : Heap) (ref : ObjectRef) : Option Object := heap.objects[ref.index]?

/-- Put an object on the heap, under the next handle. Embeds `Heap::push`. -/
def push (heap : Heap) (object : Object) : ObjectRef × Heap :=
  (⟨heap.size⟩, ⟨heap.objects.push object⟩)

/-- Allocate an instance with all its fields null. Embeds `Heap::allocate`. -/
def allocate (heap : Heap) (classId : ClassId) (fieldCount : UInt16) : ObjectRef × Heap :=
  heap.push (Object.fresh classId fieldCount.toNat)

/-- Allocate an array. Embeds `Heap::allocate_array`. -/
def allocateArray (heap : Heap) (classId : ClassId) (values : List Value) : ObjectRef × Heap :=
  heap.push ⟨classId, .array values⟩

/-- Allocate an array of the UTF-16 code units of a text. Embeds `Heap::allocate_chars`. -/
def allocateText (heap : Heap) (classId : ClassId) (text : String) : ObjectRef × Heap :=
  heap.allocateArray classId ((Text.Utf16.encode text.toList).map Value.char)

/-- The heap with one field of one object written, if there is such a field. Embeds `Heap::get_mut`
with `Object::set_field`. -/
def setField? (heap : Heap) (ref : ObjectRef) (index : Nat) (value : Value) : Option Heap :=
  (heap.get? ref).bind fun object =>
    (object.setField? index value).map fun written =>
      ⟨heap.objects.setIfInBounds ref.index written⟩

/-- The heap after an attempt to write a field, which without such a field does nothing. -/
def setField (heap : Heap) (ref : ObjectRef) (index : Nat) (value : Value) : Heap :=
  (heap.setField? ref index value).getD heap

/-- A look-up succeeds exactly below the size. -/
theorem get?_isSome_iff {heap : Heap} {ref : ObjectRef} :
    (heap.get? ref).isSome = true ↔ ref.index < heap.size := by
  simp [get?, size]

/-- An object put on the heap adds one to the size. -/
@[simp] theorem size_push (heap : Heap) (object : Object) :
    (heap.push object).2.size = heap.size + 1 := by
  simp [push, size]

/-- An object put on the heap is found under its handle, and every other one where it was. -/
theorem get?_push (heap : Heap) (object : Object) (ref : ObjectRef) :
    (heap.push object).2.get? ref =
      if ref.index = heap.size then some object else heap.get? ref := by
  simp only [push, get?, size, Array.getElem?_push]
  rfl

/-- Writing a field keeps the number of objects. -/
theorem size_of_setField? {heap written : Heap} {ref : ObjectRef} {index : Nat} {value : Value}
    (h : heap.setField? ref index value = some written) : written.size = heap.size := by
  simp only [setField?, Option.bind_eq_some_iff, Option.map_eq_some_iff] at h
  obtain ⟨_, _, _, _, rfl⟩ := h
  simp [size]

/-- Writing a field changes its object only. -/
theorem get?_of_setField? {heap written : Heap} {ref : ObjectRef} {index : Nat} {value : Value}
    (h : heap.setField? ref index value = some written) (other : ObjectRef) :
    written.get? other =
      if ref = other then (heap.get? ref).bind (Object.setField? · index value)
      else heap.get? other := by
  simp only [setField?, Option.bind_eq_some_iff, Option.map_eq_some_iff] at h
  obtain ⟨object, ho, changed, hc, rfl⟩ := h
  have hlt : ref.index < heap.objects.size := get?_isSome_iff.1 (by simp [ho])
  rw [ho, Option.bind_some, hc]
  simp only [get?, Array.getElem?_setIfInBounds, ObjectRef.ext_iff, hlt, if_true]

end Heap

end ExceptionDispatch
