import ExceptionDispatch.Dispatch.Operation

/-!
# Commands

What can be asked of a session. Methods and threads are known by number, built-in exceptions by
identifier and constants by position; whether there are such is found out when the command is
carried out.
-/

namespace ExceptionDispatch

/-- Changes to the descriptor of a class. -/
structure ClassEdit where
  name? : Option String := none
  sourceFile? : Option String := none
  /-- The new superclass, or that there is none. -/
  superclass? : Option (Option ClassId) := none
  fieldCount? : Option UInt16 := none
  /-- Constants to add at the end of the pool. -/
  constants : List Constant := []
  deriving DecidableEq, Repr

/-- The descriptor with changes made. -/
def ClassEdit.apply (edit : ClassEdit) (descriptor : ClassDescriptor) : ClassDescriptor where
  name := edit.name?.getD descriptor.name
  sourceFile := edit.sourceFile?.getD descriptor.sourceFile
  superclass? := edit.superclass?.getD descriptor.superclass?
  fieldCount := edit.fieldCount?.getD descriptor.fieldCount
  constants := descriptor.constants ++ edit.constants

/-- Changes to the settings. -/
structure SettingsEdit where
  maxConstructionDepth? : Option UInt16 := none
  catalogLookup? : Option LookupMode := none
  catchMatching? : Option CatchMatching := none
  deriving DecidableEq, Repr

/-- The settings with changes made. -/
def SettingsEdit.apply (edit : SettingsEdit) (settings : Settings) : Settings where
  maxConstructionDepth := edit.maxConstructionDepth?.getD settings.maxConstructionDepth
  catalogLookup := edit.catalogLookup?.getD settings.catalogLookup
  catchMatching := edit.catchMatching?.getD settings.catchMatching

/-- What guest code is asked to do. -/
inductive ActionRequest
  | nothing
  | message (text : String)
  | raise (identifier : UInt8)
  | throw (object? : Option ObjectRef)
  deriving DecidableEq, Repr

/-- The guest code of a new rule, its frames as numbers of methods with an instruction each. -/
structure GuestRequest where
  action : ActionRequest
  frames : List (Nat × UInt16) := []
  deriving DecidableEq, Repr

/-- The operation of dispatch that is asked for. -/
inductive OperationRequest
  | resolve (name : String)
  | resolveConstant (context : ClassId) (index : UInt16)
  | unwind (object : ObjectRef)
  | throw (object? : Option ObjectRef)
  | construct (identifier : UInt8)
  | constructAndUnwind (identifier : UInt8)
  deriving DecidableEq, Repr

/-- What can be asked of a session. -/
inductive Command
  /-- Register a class. -/
  | define (descriptor : ClassDescriptor)
  /-- Edit a registered class. -/
  | editClass (id : ClassId) (edit : ClassEdit)
  | showClass (id : ClassId)
  | countClasses
  | findClass (name : String)
  /-- Show the class name at a position in the constant pool of a class. -/
  | constantAt (id : ClassId) (index : UInt16)
  | isSubclass (id other : ClassId)
  /-- Add a class that can be loaded. -/
  | addLoadable (descriptor : ClassDescriptor)
  /-- Remove the loadable classes of a name. -/
  | forgetLoadable (name : String)
  | addInitializer (className : String) (guest : GuestRequest)
  | addConstructor (className? : Option String) (times? : Option Nat) (guest : GuestRequest)
  | configure (edit : SettingsEdit)
  | allocate (id : ClassId)
  | allocateArray (id : ClassId) (values : List Value)
  | allocateText (id : ClassId) (text : String)
  | setField (object : ObjectRef) (index : Nat) (value : Value)
  | showField (object : ObjectRef) (index : Nat)
  | showObject (object : ObjectRef)
  | countObjects
  | addMethod (method : Method)
  | addThread (name : String) (classId : ClassId)
  | push (thread method : Nat) (pc : UInt16)
  | pop (thread : Nat)
  | setPc (thread : Nat) (pc : UInt16)
  | rename (thread : Nat) (name : String)
  | showThread (thread : Nat)
  /-- Show the text that an object would end the program with if it were thrown. -/
  | showDiagnostic (thread : Nat) (object : ObjectRef)
  /-- Show the message of an exception. -/
  | showMessage (object : ObjectRef)
  /-- Find a built-in exception by a text. -/
  | findBuiltin (text : String)
  | showState (thread : Nat)
  /-- Carry out an operation, an error of which is an answer. -/
  | dispatch (thread : Nat) (request : OperationRequest)
  /-- Carry out an operation, a fatal error of which ends the program. -/
  | raise (thread : Nat) (request : OperationRequest)
  /-- End the program. -/
  | terminate (error : Fatal)
  deriving DecidableEq, Repr

/-- Whether a command can end the program. -/
def Command.canEnd : Command → Bool
  | .raise .. | .terminate .. => true
  | _ => false

end ExceptionDispatch
