import ExceptionDispatch.Text.Utf16

/-!
# Surrogates

What becomes of each code unit when a sequence of them is read and the text is written again. A
surrogate without its partner is lost, every other unit stays at its place, and so a sequence is
given back exactly if it is well-formed. Main statements: `getElem?_encode_decode` and
`encode_decode_eq_iff`.
-/

namespace ExceptionDispatch.Text.Utf16

/-- The unit that the replacement character is written as. -/
def replacementUnit : UInt16 := 0xFFFD

/-- Whether there is a high surrogate at a position. -/
def highAt (units : List UInt16) (position : Nat) : Bool := units[position]?.any isHigh

/-- Whether there is a low surrogate at a position. -/
def lowAt (units : List UInt16) (position : Nat) : Bool := units[position]?.any isLow

/-- Whether there is a surrogate without its partner at a position: a high one that no low one
follows directly, or a low one that no high one comes directly before. No high surrogate closes a
pair, so one that comes before a low one is never taken already. -/
def isUnpaired (units : List UInt16) (position : Nat) : Bool :=
  highAt units position && !lowAt units (position + 1) ||
    lowAt units position && !(0 < position && highAt units (position - 1))

/-- Units are well-formed if each is outside the surrogates or belongs to a high and a low surrogate
that stand together. -/
inductive WellFormed : List UInt16 → Prop
  | nil : WellFormed []
  | unit {unit : UInt16} {rest : List UInt16} (hhigh : isHigh unit = false)
      (hlow : isLow unit = false) (hrest : WellFormed rest) : WellFormed (unit :: rest)
  | pair {high low : UInt16} {rest : List UInt16} (hhigh : isHigh high = true)
      (hlow : isLow low = true) (hrest : WellFormed rest) : WellFormed (high :: low :: rest)

/-- A text is what units read as: written again, it has a unit for each of them, the same one unless
that is a surrogate without its partner, and all of them are the same exactly if the units are
well-formed. -/
structure ReadAs (units : List UInt16) (text : List Char) : Prop where
  length : (encode text).length = units.length
  unit : ∀ position, (encode text)[position]? =
    if isUnpaired units position then some replacementUnit else units[position]?
  wellFormed : encode text = units ↔ WellFormed units

/-! ### Single characters -/

private theorem toNat_ofNat_of_isValidChar {n : Nat} (h : n.isValidChar) :
    (Char.ofNat n).toNat = n := by
  rw [Char.ofNat, dif_pos h]
  rfl

private theorem isHigh_of_isLow {unit : UInt16} (h : isLow unit = true) : isHigh unit = false := by
  simp only [isLow, Bool.and_eq_true, decide_eq_true_eq] at h
  simp only [isHigh, Bool.and_eq_false_iff, decide_eq_false_iff_not]
  omega

private theorem isLow_of_isHigh {unit : UInt16} (h : isHigh unit = true) : isLow unit = false := by
  cases hlow : isLow unit with
  | false => rfl
  | true =>
    rw [isHigh_of_isLow hlow] at h
    cases h

private theorem encodeChar_lone (unit : UInt16) :
    encodeChar (lone unit) = [if isHigh unit || isLow unit then replacementUnit else unit] := by
  unfold lone
  split
  · rfl
  · next h =>
    have hlt : unit.toNat < 0x10000 := unit.toNat_lt
    have hvalid : unit.toNat.isValidChar := by
      simp only [isHigh, isLow, Bool.or_eq_true, Bool.and_eq_true, decide_eq_true_eq] at h
      unfold Nat.isValidChar
      omega
    rw [encodeChar, toNat_ofNat_of_isValidChar hvalid, if_pos hlt, UInt16.ofNat_toNat]

private theorem encodeChar_pair {high low : UInt16} (hhigh : isHigh high = true)
    (hlow : isLow low = true) : encodeChar (pair high low) = [high, low] := by
  simp only [isHigh, Bool.and_eq_true, decide_eq_true_eq] at hhigh
  simp only [isLow, Bool.and_eq_true, decide_eq_true_eq] at hlow
  have hvalid :
      (0x10000 + (high.toNat - 0xD800) * 0x400 + (low.toNat - 0xDC00)).isValidChar := by
    unfold Nat.isValidChar
    omega
  have hpair := toNat_ofNat_of_isValidChar hvalid
  rw [encodeChar, pair, hpair, if_neg (by omega), List.cons.injEq, List.cons.injEq]
  refine ⟨?_, ?_, rfl⟩
  · apply UInt16.toNat_inj.mp
    rw [UInt16.toNat_ofNat']
    omega
  · apply UInt16.toNat_inj.mp
    rw [UInt16.toNat_ofNat']
    omega

/-! ### Neighbours -/

section

variable (unit : UInt16) (units : List UInt16) (position : Nat)

@[simp] private theorem highAt_nil : highAt [] position = false := rfl

@[simp] private theorem lowAt_nil : lowAt [] position = false := rfl

@[simp] private theorem highAt_cons_zero : highAt (unit :: units) 0 = isHigh unit := rfl

@[simp] private theorem lowAt_cons_zero : lowAt (unit :: units) 0 = isLow unit := rfl

@[simp] private theorem highAt_cons_succ :
    highAt (unit :: units) (position + 1) = highAt units position := rfl

@[simp] private theorem lowAt_cons_succ :
    lowAt (unit :: units) (position + 1) = lowAt units position := rfl

private theorem isUnpaired_cons_zero :
    isUnpaired (unit :: units) 0 = (isHigh unit && !lowAt units 0 || isLow unit) := by
  simp [isUnpaired]

private theorem isUnpaired_cons_succ_succ :
    isUnpaired (unit :: units) (position + 2) = isUnpaired units (position + 1) := by
  simp [isUnpaired]

end

section

variable {unit high low : UInt16} {units : List UInt16}

private theorem isUnpaired_cons_succ (h : (isHigh unit && lowAt units 0) = false) (position : Nat) :
    isUnpaired (unit :: units) (position + 1) = isUnpaired units position := by
  cases position with
  | zero =>
    cases hlow : lowAt units 0 with
    | false => simp [isUnpaired, hlow]
    | true =>
      have hhigh : isHigh unit = false := by simpa [hlow] using h
      simp [isUnpaired, hlow, hhigh]
  | succ position => exact isUnpaired_cons_succ_succ unit units position

private theorem isUnpaired_pair (hhigh : isHigh high = true) (hlow : isLow low = true) :
    isUnpaired (high :: low :: units) 0 = false ∧
      isUnpaired (high :: low :: units) 1 = false := by
  simp [isUnpaired, hhigh, hlow, isLow_of_isHigh hhigh, isHigh_of_isLow hlow]

private theorem isUnpaired_pair_succ (hlow : isLow low = true) (position : Nat) :
    isUnpaired (high :: low :: units) (position + 2) = isUnpaired units position := by
  rw [isUnpaired_cons_succ_succ, isUnpaired_cons_succ]
  rw [isHigh_of_isLow hlow, Bool.false_and]

end

/-! ### Sequences -/

private theorem encode_decode_cons {unit : UInt16} {rest : List UInt16}
    (h : (isHigh unit && lowAt rest 0) = false) :
    encode (decode (unit :: rest)) =
      (if isHigh unit || isLow unit then replacementUnit else unit) :: encode (decode rest) := by
  cases rest with
  | nil =>
    change encodeChar (lone unit) ++ [] = _
    rw [List.append_nil, encodeChar_lone]
    rfl
  | cons next rest =>
    rw [lowAt_cons_zero] at h
    rw [decode, if_neg (by simp [h]), encode, List.flatMap_cons, encodeChar_lone]
    rfl

private theorem encode_decode_pair {high low : UInt16} (hhigh : isHigh high = true)
    (hlow : isLow low = true) (rest : List UInt16) :
    encode (decode (high :: low :: rest)) = high :: low :: encode (decode rest) := by
  rw [decode, if_pos (by simp [hhigh, hlow]), encode, List.flatMap_cons,
    encodeChar_pair hhigh hlow]
  rfl

private theorem units_induction {motive : List UInt16 → Prop} (nil : motive [])
    (unit : ∀ unit rest, (isHigh unit && lowAt rest 0) = false → motive rest →
      motive (unit :: rest))
    (pair : ∀ high low rest, isHigh high = true → isLow low = true → motive rest →
      motive (high :: low :: rest)) (units : List UInt16) : motive units := by
  fun_induction decode units with
  | case1 => exact nil
  | case2 only => exact unit only [] (Bool.and_false _) nil
  | case3 high low rest hpair ih =>
    rw [Bool.and_eq_true] at hpair
    exact pair high low rest hpair.1 hpair.2 ih
  | case4 first next rest hpair ih =>
    exact unit first (next :: rest) (by simpa using hpair) ih

/-- Written again, every unit is at its place, but for surrogates without their partners. -/
theorem getElem?_encode_decode (units : List UInt16) (position : Nat) :
    (encode (decode units))[position]? =
      if isUnpaired units position then some replacementUnit else units[position]? := by
  induction units using units_induction generalizing position with
  | nil => simp [decode, encode, isUnpaired]
  | unit unit rest hopens ih =>
    rw [encode_decode_cons hopens]
    cases position with
    | zero =>
      -- The next unit is no low surrogate if this one is high, so a surrogate here is unpaired.
      have hsingle : isUnpaired (unit :: rest) 0 = (isHigh unit || isLow unit) := by
        rw [isUnpaired_cons_zero]
        cases hhigh : isHigh unit <;> simp_all
      rw [hsingle]
      split <;> simp_all
    | succ position =>
      rw [isUnpaired_cons_succ hopens, List.getElem?_cons_succ, List.getElem?_cons_succ, ih]
  | pair high low rest hhigh hlow ih =>
    rw [encode_decode_pair hhigh hlow]
    have hpartners : isUnpaired (high :: low :: rest) 0 = false ∧
        isUnpaired (high :: low :: rest) 1 = false := isUnpaired_pair hhigh hlow
    rcases position with _ | _ | position
    · rw [hpartners.1]
      rfl
    · rw [hpartners.2]
      rfl
    · rw [isUnpaired_pair_succ hlow]
      exact ih position

example : encode (decode [0xD83D, 0xD83D, 0xDE00, 0xDE00, 0x61, 0xD83D]) =
    [replacementUnit, 0xD83D, 0xDE00, replacementUnit, 0x61, replacementUnit] := by
  decide

/-- Written again, there are as many units as were read. -/
theorem length_encode_decode (units : List UInt16) :
    (encode (decode units)).length = units.length := by
  induction units using units_induction with
  | nil => rfl
  | unit unit rest hopens ih =>
    rw [encode_decode_cons hopens, List.length_cons, List.length_cons, ih]
  | pair high low rest hhigh hlow ih =>
    simp only [encode_decode_pair hhigh hlow, List.length_cons, ih]

/-- Units are given back exactly if they are well-formed. -/
theorem encode_decode_eq_iff {units : List UInt16} :
    encode (decode units) = units ↔ WellFormed units := by
  constructor
  · intro h
    induction units using units_induction with
    | nil => exact .nil
    | unit unit rest hopens ih =>
      rw [encode_decode_cons hopens, List.cons.injEq] at h
      obtain ⟨hunit, hrest⟩ := h
      -- The replacement is no surrogate, so a unit that is given back is none either.
      have hlone : (isHigh unit || isLow unit) = false := by
        rw [← Bool.not_eq_true]
        intro hsurrogate
        rw [if_pos hsurrogate] at hunit
        rw [← hunit] at hsurrogate
        exact absurd hsurrogate (by decide)
      rw [Bool.or_eq_false_iff] at hlone
      exact .unit hlone.1 hlone.2 (ih hrest)
    | pair high low rest hhigh hlow ih =>
      rw [encode_decode_pair hhigh hlow] at h
      exact .pair hhigh hlow (ih (by simpa using h))
  · intro h
    induction h with
    | nil => rfl
    | unit hhigh hlow _ ih =>
      rw [encode_decode_cons (by rw [hhigh, Bool.false_and]), hhigh, hlow, ih]
      rfl
    | pair hhigh hlow _ ih => rw [encode_decode_pair hhigh hlow, ih]

/-- No two texts are written the same. -/
theorem encode_injective : Function.Injective encode := by
  intro first second h
  rw [← decode_encode first, h, decode_encode]

/-- Units are read as the text that they are decoded to, and as no other. -/
theorem readAs_iff {units : List UInt16} {text : List Char} :
    ReadAs units text ↔ text = decode units := by
  constructor
  · intro h
    apply encode_injective
    apply List.ext_getElem?
    intro position
    rw [h.unit, getElem?_encode_decode]
  · rintro rfl
    exact ⟨length_encode_decode units, getElem?_encode_decode units, encode_decode_eq_iff⟩

end ExceptionDispatch.Text.Utf16
