/-!
# Decimal numerals

Unsigned numerals are one or more ASCII digits, with any number of leading zeros, after an optional
plus sign; a signed numeral may have a minus sign instead. Nothing else is accepted, blanks and
separators included.
-/

namespace ExceptionDispatch.Text.Numeral

/-- Whether a character is an ASCII digit. -/
def isDigit (c : Char) : Bool := '0'.toNat ≤ c.toNat && c.toNat ≤ '9'.toNat

/-- The number that a sequence of digits denotes in base ten. -/
def value (digits : List Char) : Nat :=
  digits.foldl (fun total c => 10 * total + (c.toNat - '0'.toNat)) 0

/-- The number that one or more digits denote. -/
def natural? (digits : List Char) : Option Nat :=
  if digits ≠ [] ∧ digits.all isDigit then some (value digits) else none

/-- The number that digits after an optional plus sign denote. -/
def unsigned? : List Char → Option Nat
  | '+' :: digits => natural? digits
  | digits => natural? digits

/-- The number that digits after an optional sign denote. -/
def signed? : List Char → Option Int
  | '-' :: digits => (natural? digits).map fun n => -(n : Int)
  | text => (unsigned? text).map fun n => (n : Int)

/-- The sixteen-bit word that an unsigned numeral denotes, if it is small enough. -/
def word16? (text : List Char) : Option UInt16 :=
  (unsigned? text).bind fun n => if n < UInt16.size then some (UInt16.ofNat n) else none

/-- The sixty-four-bit integer that a signed numeral denotes, if it is in range. -/
def integer64? (text : List Char) : Option Int64 :=
  (signed? text).bind fun n =>
    if Int64.minValue.toInt ≤ n ∧ n ≤ Int64.maxValue.toInt then some (Int64.ofInt n) else none

/-- A numeral of digits alone is read exactly when there is a digit and nothing else. -/
theorem natural?_eq_some_iff {digits : List Char} {n : Nat} :
    natural? digits = some n ↔ digits ≠ [] ∧ digits.all isDigit = true ∧ value digits = n := by
  rw [natural?]
  split
  next h => simp [h]
  next h => grind

end ExceptionDispatch.Text.Numeral
