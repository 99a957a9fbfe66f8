/-!
# References

The two kinds of handle that the machine gives out, for classes and for objects, and the symbolic
reference by which a class names another one. Handles are dense from zero, so a handle is a
position in the registry or in the heap, and may be beyond its end.
-/

namespace ExceptionDispatch

/-- The position of a class in the registry. -/
@[ext] structure ClassId where
  index : Nat
  deriving DecidableEq, Repr

/-- The position of an object on the heap. -/
@[ext] structure ObjectRef where
  index : Nat
  deriving DecidableEq, Repr

/-- The position of an entry in the constant pool of a class, which counts from one. -/
structure ClassRef where
  index : UInt16
  index_ne_zero : index ≠ 0
  deriving DecidableEq, Repr

/-- The reference with a given position; position zero is never used. Embeds `ClassRef::new`. -/
def ClassRef.ofIndex? (index : UInt16) : Option ClassRef :=
  if h : index = 0 then none else some ⟨index, h⟩

end ExceptionDispatch
