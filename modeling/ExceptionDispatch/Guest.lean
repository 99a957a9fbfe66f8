import ExceptionDispatch.Builtin
import ExceptionDispatch.Thread

/-!
# Guest code

Initializers of classes and constructors of exceptions, as far as dispatch can tell them apart:
the frames that they push and what they do on them. Rules say which guest code runs when. An
initializer runs at most once; a constructor may run any number of times, or so many times and no
more. Main statement: what `spendFirst?` runs belongs to a rule that applies
(`spendFirst?_eq_none_iff`).
-/

namespace ExceptionDispatch

/-- What guest code does. Embeds `Constructor`. -/
inductive GuestAction
  | nothing
  /-- Give the object under construction a message. -/
  | message (text : String)
  /-- Have the machine raise a built-in exception. -/
  | raise (kind : Builtin)
  /-- Throw an object, or a null reference. -/
  | throw (object? : Option ObjectRef)
  deriving DecidableEq, Repr

/-- Guest code: the frames it pushes, in this order, and what it does on them. -/
structure GuestCode where
  action : GuestAction
  frames : List Frame := []
  deriving DecidableEq, Repr

/-- The initializer of a class, to run before the class is loaded. Embeds `Initializer`. -/
structure InitializerRule where
  className : String
  code : GuestCode
  deriving DecidableEq, Repr

/-- A constructor, to run for new exceptions of one class or of any. -/
structure ConstructorRule where
  className? : Option String := none
  /-- How many more times the constructor runs, if that is limited. -/
  remaining? : Option Nat := none
  code : GuestCode
  deriving DecidableEq, Repr

namespace ConstructorRule

/-- Whether a rule is for objects of a class and not used up. -/
def applies (rule : ConstructorRule) (className : String) : Bool :=
  (rule.className? == none || rule.className? == some className) && rule.remaining? != some 0

/-- The rule after one more run of its constructor. -/
def spend (rule : ConstructorRule) : ConstructorRule :=
  { rule with remaining? := rule.remaining?.map (· - 1) }

/-- The constructor that the first applying rule is for, and the rules after its run. -/
def spendFirst? (className : String) :
    List ConstructorRule → Option (GuestCode × List ConstructorRule)
  | [] => none
  | rule :: rest =>
    if rule.applies className then some (rule.code, rule.spend :: rest)
    else (spendFirst? className rest).map fun found => (found.1, rule :: found.2)

/-- There is no constructor to run exactly when no rule applies. -/
theorem spendFirst?_eq_none_iff {className : String} {rules : List ConstructorRule} :
    spendFirst? className rules = none ↔ ∀ rule ∈ rules, rule.applies className = false := by
  induction rules with
  | nil => simp [spendFirst?]
  | cons rule rest ih =>
    rw [spendFirst?]
    split
    next h => simp [h]
    next h => simp [h, ih]

end ConstructorRule

end ExceptionDispatch
