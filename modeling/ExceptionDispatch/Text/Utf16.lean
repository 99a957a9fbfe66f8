/-!
# UTF-16 code units

The code units of a text, and the text that a sequence of code units stands for. Reading never
fails: a surrogate without its partner reads as the replacement character, and the unit after it
is read on its own. Main statement: a text is read back from its own code units
(`decode_encode`).
-/

namespace ExceptionDispatch.Text.Utf16

/-- A high surrogate opens a pair. -/
def isHigh (unit : UInt16) : Bool := 0xD800 ≤ unit.toNat && unit.toNat < 0xDC00

/-- A low surrogate closes a pair. -/
def isLow (unit : UInt16) : Bool := 0xDC00 ≤ unit.toNat && unit.toNat < 0xE000

/-- The character read for a surrogate that has no partner. -/
def replacement : Char := Char.ofNat 0xFFFD

/-- The code units of a character: one below U+10000, a surrogate pair from there on. -/
def encodeChar (c : Char) : List UInt16 :=
  if c.toNat < 0x10000 then [UInt16.ofNat c.toNat]
  else
    [UInt16.ofNat (0xD800 + (c.toNat - 0x10000) / 0x400),
      UInt16.ofNat (0xDC00 + (c.toNat - 0x10000) % 0x400)]

/-- The code units of a text, in order. -/
def encode (text : List Char) : List UInt16 := text.flatMap encodeChar

/-- The character that a surrogate pair stands for. -/
def pair (high low : UInt16) : Char :=
  Char.ofNat (0x10000 + (high.toNat - 0xD800) * 0x400 + (low.toNat - 0xDC00))

/-- The character that a unit outside any pair stands for. -/
def lone (unit : UInt16) : Char :=
  if isHigh unit || isLow unit then replacement else Char.ofNat unit.toNat

/-- The text that a sequence of code units stands for, each unpaired surrogate replaced. -/
def decode : List UInt16 → List Char
  | [] => []
  | [unit] => [lone unit]
  | unit :: next :: rest =>
    if isHigh unit && isLow next then pair unit next :: decode rest
    else lone unit :: decode (next :: rest)

/-- The first unit of a character below U+10000 is no surrogate. -/
private theorem lone_ofNat (c : Char) (h : c.toNat < 0x10000) :
    isHigh (UInt16.ofNat c.toNat) = false ∧ lone (UInt16.ofNat c.toNat) = c := by
  have hn : (UInt16.ofNat c.toNat).toNat = c.toNat := by
    simp [Nat.mod_eq_of_lt h]
  have hv : c.toNat < 0xD800 ∨ 0xDFFF < c.toNat ∧ c.toNat < 0x110000 := c.valid
  have hh : isHigh (UInt16.ofNat c.toNat) = false := by
    simp only [isHigh, hn, Bool.and_eq_false_iff, decide_eq_false_iff_not]
    omega
  have hl : isLow (UInt16.ofNat c.toNat) = false := by
    simp only [isLow, hn, Bool.and_eq_false_iff, decide_eq_false_iff_not]
    omega
  exact ⟨hh, by simp [lone, hh, hl, hn]⟩

/-- The pair of a character from U+10000 on reads back as that character. -/
private theorem pair_ofNat (c : Char) (h : ¬ c.toNat < 0x10000) :
    isHigh (UInt16.ofNat (0xD800 + (c.toNat - 0x10000) / 0x400)) = true ∧
      isLow (UInt16.ofNat (0xDC00 + (c.toNat - 0x10000) % 0x400)) = true ∧
      pair (UInt16.ofNat (0xD800 + (c.toNat - 0x10000) / 0x400))
        (UInt16.ofNat (0xDC00 + (c.toNat - 0x10000) % 0x400)) = c := by
  have hv : c.toNat < 0xD800 ∨ 0xDFFF < c.toNat ∧ c.toNat < 0x110000 := c.valid
  have hhi : (UInt16.ofNat (0xD800 + (c.toNat - 0x10000) / 0x400)).toNat =
      0xD800 + (c.toNat - 0x10000) / 0x400 := by
    rw [UInt16.toNat_ofNat']
    omega
  have hlo : (UInt16.ofNat (0xDC00 + (c.toNat - 0x10000) % 0x400)).toNat =
      0xDC00 + (c.toNat - 0x10000) % 0x400 := by
    rw [UInt16.toNat_ofNat']
    omega
  refine ⟨?_, ?_, ?_⟩
  · simp only [isHigh, hhi, Bool.and_eq_true, decide_eq_true_eq]
    omega
  · simp only [isLow, hlo, Bool.and_eq_true, decide_eq_true_eq]
    omega
  · rw [pair, hhi, hlo]
    have : 0x10000 + (0xD800 + (c.toNat - 0x10000) / 0x400 - 0xD800) * 0x400 +
        (0xDC00 + (c.toNat - 0x10000) % 0x400 - 0xDC00) = c.toNat := by omega
    rw [this, Char.ofNat_toNat]

/-- A text is read back from its own code units. -/
theorem decode_encode (text : List Char) : decode (encode text) = text := by
  induction text with
  | nil => rfl
  | cons c rest ih =>
    rw [encode, List.flatMap_cons, ← encode, encodeChar]
    split
    next h =>
      have ⟨hh, hl⟩ := lone_ofNat c h
      cases he : encode rest with
      | nil =>
        rw [he] at ih
        simp [decode, hl, ← ih]
      | cons next units =>
        rw [he] at ih
        simp [decode, hh, hl, ih]
    next h =>
      have ⟨hh, hl, hp⟩ := pair_ofNat c h
      rw [List.cons_append, List.cons_append, List.nil_append, decode, hh, hl, hp, ih]
      rfl

end ExceptionDispatch.Text.Utf16
