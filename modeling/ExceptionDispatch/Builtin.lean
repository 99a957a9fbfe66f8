import ExceptionDispatch.Text.Containment

/-!
# Built-in exceptions

The exceptions that the machine raises on its own account, each with a small identifier, the names
of their classes, and the search for one of them by a text. Main statements: identifiers and
exceptions correspond (`ofIdentifier?_identifier`), and the names are listed in the order of the
exceptions (`names_eq_map`).
-/

namespace ExceptionDispatch

/-- An exception raised by the machine itself, in the order of identifiers. Embeds
`RuntimeException`. -/
inductive Builtin
  | nullPointer
  | indexOutOfBounds
  | arrayIndexOutOfBounds
  | incompatibleClassChange
  | negativeArraySize
  | outOfMemory
  | classNotFound
  | arithmetic
  | noSuchField
  | noSuchMethod
  | runtime
  | io
  | fileNotFound
  | interrupted
  | numberFormat
  | stringIndexOutOfBounds
  deriving DecidableEq, Repr

/-- How a text is matched with the name of a class. -/
inductive LookupMode
  /-- The text is the name. -/
  | exact
  /-- The text occurs in the name. -/
  | substring
  deriving DecidableEq, Repr

namespace LookupMode

/-- The mode that a word stands for. Embeds `LookupMode::parse`. -/
def ofWord? (word : List Char) : Option LookupMode :=
  if word = "exact".toList then some exact
  else if word = "substring".toList then some substring
  else none

/-- Whether a text matches a name. Embeds the two searches of `RuntimeException::identifier_for`. -/
def accepts (mode : LookupMode) (text name : String) : Bool :=
  match mode with
  | exact => text == name
  | substring => Text.contains text.toList name.toList

end LookupMode

namespace Builtin

/-- Every built-in exception, in the order of identifiers. Embeds `RuntimeException::ALL`. -/
def all : List Builtin :=
  [nullPointer, indexOutOfBounds, arrayIndexOutOfBounds, incompatibleClassChange,
    negativeArraySize, outOfMemory, classNotFound, arithmetic, noSuchField, noSuchMethod, runtime,
    io, fileNotFound, interrupted, numberFormat, stringIndexOutOfBounds]

/-- The identifier of an exception. Embeds `RuntimeException::identifier`. -/
def identifier : Builtin → UInt8
  | nullPointer => 0
  | indexOutOfBounds => 1
  | arrayIndexOutOfBounds => 2
  | incompatibleClassChange => 3
  | negativeArraySize => 4
  | outOfMemory => 5
  | classNotFound => 6
  | arithmetic => 7
  | noSuchField => 8
  | noSuchMethod => 9
  | runtime => 10
  | io => 11
  | fileNotFound => 12
  | interrupted => 13
  | numberFormat => 14
  | stringIndexOutOfBounds => 15

/-- The fully qualified names of the classes of the exceptions, by identifier. Embeds `NAMES`. -/
def names : List String :=
  ["java/lang/NullPointerException",
    "java/lang/IndexOutOfBoundsException",
    "java/lang/ArrayIndexOutOfBoundsException",
    "java/lang/IncompatibleClassChangeError",
    "java/lang/NegativeArraySizeException",
    "java/lang/OutOfMemoryError",
    "java/lang/ClassNotFoundException",
    "java/lang/ArithmeticException",
    "java/lang/NoSuchFieldError",
    "java/lang/NoSuchMethodError",
    "java/lang/RuntimeException",
    "java/io/IOException",
    "java/io/FileNotFoundException",
    "java/lang/InterruptedException",
    "java/lang/NumberFormatException",
    "java/lang/StringIndexOutOfBoundsException"]

/-- Every identifier has a name. -/
theorem identifier_lt (kind : Builtin) : kind.identifier.toNat < names.length := by
  cases kind <;> decide

/-- The fully qualified name of an exception's class. Embeds `RuntimeException::name`. -/
def className (kind : Builtin) : String := names.get ⟨kind.identifier.toNat, kind.identifier_lt⟩

/-- The exception that an identifier stands for; identifiers are dense from zero. Embeds
`RuntimeException::from_identifier`. -/
def ofIdentifier? (identifier : UInt8) : Option Builtin := all[identifier.toNat]?

/-- The name of the class of the exception that an identifier stands for. -/
def nameOf? (identifier : UInt8) : Option String := (ofIdentifier? identifier).map className

/-- The identifier of the first name that a text matches. Embeds
`RuntimeException::identifier_for`. -/
def identifierFor? (mode : LookupMode) (text : String) : Option UInt8 :=
  (names.findIdx? (mode.accepts text)).map UInt8.ofNat

/-- The exception whose name a text matches first. Embeds `runtime_exception_named`. -/
def named? (mode : LookupMode) (text : String) : Option Builtin :=
  (identifierFor? mode text).bind ofIdentifier?

/-- An identifier stands for the exception that has it. -/
@[simp] theorem ofIdentifier?_identifier (kind : Builtin) :
    ofIdentifier? kind.identifier = some kind := by cases kind <;> rfl

/-- The names are those of the exceptions, in their order. -/
theorem names_eq_map : names = all.map className := rfl

end Builtin

end ExceptionDispatch
