import ExceptionDispatch.Reference

/-!
# Class descriptors

What the machine knows of a class: its name and source file, the class it extends, how many fields
its instances have, and its constant pool.
-/

namespace ExceptionDispatch

/-- An entry of a constant pool: the name of a class, or something that names no class. -/
inductive Constant
  | classNamed (name : String)
  | other
  deriving DecidableEq, Repr

/-- The description of a class. Embeds `Class`. -/
structure ClassDescriptor where
  name : String
  sourceFile : String
  superclass? : Option ClassId := none
  /-- The number of fields of an instance. -/
  fieldCount : UInt16 := 0
  /-- The constant pool, from position one on. -/
  constants : List Constant := []
  deriving DecidableEq, Repr

namespace ClassDescriptor

/-- The class name that a symbolic reference stands for. Embeds `Class::class_name_at`. -/
def classNameAt? (descriptor : ClassDescriptor) (ref : ClassRef) : Option String :=
  match descriptor.constants[ref.index.toNat - 1]? with
  | some (.classNamed name) => some name
  | _ => none

end ClassDescriptor

end ExceptionDispatch
