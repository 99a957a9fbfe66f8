import ExceptionDispatch.Class.Registry
import ExceptionDispatch.Fault

/-!
# Superclasses

Whether a class is another one or one of its subclasses, found by following superclass links. The
walk from a class ends at the sought class, at a class that extends nothing, or at a link that
leads out of the registry; a walk longer than the registry has come back to where it was and would
never end.
-/

namespace ExceptionDispatch.Registry

/-- Follow superclass links from a class, for at most so many classes, in search of another one.
Embeds the loop of `ClassId::is_subclass_of`. -/
def reaches (registry : Registry) (sought : ClassId) : Nat → ClassId → Except Fault Bool
  | 0, id => .error (.endlessAncestry id)
  | steps + 1, id =>
    if id = sought then .ok true
    else
      match registry.get? id with
      | none => .error (.noSuchClass id)
      | some descriptor =>
        match descriptor.superclass? with
        | none => .ok false
        | some superclass => registry.reaches sought steps superclass

/-- Whether a class is another one or one of its subclasses. Embeds `ClassId::is_subclass_of`. -/
def isSubclass (registry : Registry) (id other : ClassId) : Except Fault Bool :=
  registry.reaches other (registry.size + 1) id

/-- Every class is its own subclass, registered or not. -/
theorem isSubclass_self (registry : Registry) (id : ClassId) :
    registry.isSubclass id id = .ok true := by
  simp [isSubclass, reaches]

end ExceptionDispatch.Registry
