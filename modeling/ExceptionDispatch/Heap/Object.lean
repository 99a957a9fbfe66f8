import ExceptionDispatch.Reference

/-!
# Values and objects

What a field or an array slot holds, and the objects of the guest program: instances with fields
and arrays with values. An object keeps its class and its shape for good; only the fields of an
instance can be written.
-/

namespace ExceptionDispatch

/-- What a field or an array slot holds. -/
inductive Value
  | null
  | int (value : Int32)
  | long (value : Int64)
  /-- A UTF-16 code unit. -/
  | char (unit : UInt16)
  | reference (target : ObjectRef)
  deriving DecidableEq, Repr

namespace Value

/-- The object that a value refers to. Embeds `Value::as_reference`. -/
def reference? : Value → Option ObjectRef
  | reference target => some target
  | _ => none

/-- The code unit that a value is. Embeds `Value::as_char`. -/
def char? : Value → Option UInt16
  | char unit => some unit
  | _ => none

end Value

/-- What an object consists of. -/
inductive Body
  | fields (slots : List Value)
  | array (values : List Value)
  deriving DecidableEq, Repr

/-- An object of the guest program. -/
structure Object where
  classId : ClassId
  body : Body
  deriving DecidableEq, Repr

namespace Object

/-- An instance with all its fields null. -/
def fresh (classId : ClassId) (fieldCount : Nat) : Object :=
  ⟨classId, .fields (List.replicate fieldCount .null)⟩

/-- The fields of an instance; an array has none. -/
def fields (object : Object) : List Value :=
  match object.body with
  | .fields slots => slots
  | .array _ => []

/-- The value of a field. Embeds `Object::field`. -/
def field? (object : Object) (index : Nat) : Option Value := object.fields[index]?

/-- The values of an array. Embeds `Object::array_values`. -/
def arrayValues? (object : Object) : Option (List Value) :=
  match object.body with
  | .fields _ => none
  | .array values => some values

/-- The object with one field written, if it has that field. Embeds `Object::set_field`. -/
def setField? (object : Object) (index : Nat) (value : Value) : Option Object :=
  match object.body with
  | .fields slots =>
    if index < slots.length then some ⟨object.classId, .fields (slots.set index value)⟩ else none
  | .array _ => none

/-- A field can be written exactly when the object has it. -/
theorem setField?_isSome_iff {object : Object} {index : Nat} {value : Value} :
    (object.setField? index value).isSome = true ↔ index < object.fields.length := by
  unfold setField? fields
  split <;> simp_all

/-- Writing a field changes that field only. -/
theorem field?_of_setField? {object written : Object} {index : Nat} {value : Value}
    (h : object.setField? index value = some written) (other : Nat) :
    written.field? other = if index = other then some value else object.field? other := by
  rw [setField?] at h
  split at h
  next slots hb =>
    split at h
    next hi =>
      cases h
      simp only [field?, fields, hb, List.getElem?_set]
      split <;> simp_all
    next => cases h
  next => cases h

/-- Writing a field keeps the class. -/
theorem classId_of_setField? {object written : Object} {index : Nat} {value : Value}
    (h : object.setField? index value = some written) : written.classId = object.classId := by
  rw [setField?] at h
  split at h
  · split at h
    · cases h
      rfl
    · cases h
  · cases h

end Object

end ExceptionDispatch
