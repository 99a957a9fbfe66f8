import ExceptionDispatch.Settings.Environment
import Mathlib.Data.Nat.Digits.Defs

/-!
# What environment variables mean

The values of the variables as a grammar over texts: a numeral is an optional plus sign and at least
one decimal digit, a word may have blanks around it, and both are written in UTF-8. The settings are
exactly those that the grammar gives a meaning to. Main statement: `Settings.ofEnvironment_reads`.
-/

namespace ExceptionDispatch

/-! ### Numerals -/

namespace Text.Numeral

/-- The character of a decimal digit. -/
def digitChar (digit : Fin 10) : Char := .ofNat ('0'.toNat + digit)

/-- Digits from the lowest place on, written from the highest place on. -/
def written (places : List (Fin 10)) : List Char := places.reverse.map digitChar

/-- A text is a numeral of a number: its decimal digits, of which there is at least one and any
number of leading ones may be zero, after a plus sign or nothing. -/
def Denotes (text : List Char) (n : Nat) : Prop :=
  ∃ places : List (Fin 10), places ≠ [] ∧ Nat.ofDigits 10 (places.map Fin.val) = n ∧
    (text = written places ∨ text = '+' :: written places)

private theorem toNat_digitChar (digit : Fin 10) : (digitChar digit).toNat = '0'.toNat + digit := by
  revert digit
  decide

private theorem isDigit_iff {c : Char} : isDigit c = true ↔ ∃ digit, c = digitChar digit := by
  rw [isDigit, Bool.and_eq_true, decide_eq_true_eq, decide_eq_true_eq]
  constructor
  · rintro ⟨hlow, hhigh⟩
    have hnine : '9'.toNat = '0'.toNat + 9 := rfl
    refine ⟨⟨c.toNat - '0'.toNat, by omega⟩, ?_⟩
    rw [digitChar, Nat.add_sub_cancel' hlow, Char.ofNat_toNat]
  · rintro ⟨digit, rfl⟩
    have hnine : '9'.toNat = '0'.toNat + 9 := rfl
    rw [toNat_digitChar]
    omega

private theorem all_isDigit_iff {digits : List Char} :
    digits.all isDigit = true ↔ ∃ places, digits = written places := by
  constructor
  · intro h
    induction digits with
    | nil => exact ⟨[], rfl⟩
    | cons c rest ih =>
      rw [List.all_cons, Bool.and_eq_true] at h
      obtain ⟨digit, rfl⟩ := isDigit_iff.1 h.1
      obtain ⟨places, rfl⟩ := ih h.2
      exact ⟨places ++ [digit], by simp [written]⟩
  · rintro ⟨places, rfl⟩
    rw [List.all_eq_true]
    intro c hc
    obtain ⟨digit, -, rfl⟩ := List.mem_map.1 hc
    exact isDigit_iff.2 ⟨digit, rfl⟩

private theorem value_written (places : List (Fin 10)) :
    value (written places) = Nat.ofDigits 10 (places.map Fin.val) := by
  induction places with
  | nil => rfl
  | cons digit places ih =>
    have hsplit : written (digit :: places) = written places ++ [digitChar digit] := by
      simp [written]
    rw [hsplit, value, List.foldl_append, ← value, ih, List.map_cons, Nat.ofDigits_cons]
    simp only [List.foldl_cons, List.foldl_nil, toNat_digitChar]
    omega

private theorem natural?_eq_some_iff_written {digits : List Char} {n : Nat} :
    natural? digits = some n ↔ ∃ places, places ≠ [] ∧
      Nat.ofDigits 10 (places.map Fin.val) = n ∧ digits = written places := by
  rw [natural?_eq_some_iff, all_isDigit_iff]
  constructor
  · rintro ⟨hne, ⟨places, rfl⟩, rfl⟩
    refine ⟨places, ?_, (value_written places).symm, rfl⟩
    rintro rfl
    exact hne rfl
  · rintro ⟨places, hne, rfl, rfl⟩
    exact ⟨by simpa [written] using hne, ⟨places, rfl⟩, value_written places⟩

private theorem plus_not_mem_written (places : List (Fin 10)) : '+' ∉ written places := by
  intro h
  obtain ⟨digit, -, hdigit⟩ := List.mem_map.1 h
  have hcode : '0'.toNat + digit = '+'.toNat := by rw [← toNat_digitChar, hdigit]
  have hplus : '+'.toNat < '0'.toNat := by decide
  omega

private theorem unsigned?_eq_some_iff {text : List Char} {n : Nat} :
    unsigned? text = some n ↔ Denotes text n := by
  unfold unsigned? Denotes
  split
  · next digits =>
    rw [natural?_eq_some_iff_written]
    constructor
    · rintro ⟨places, hne, hn, rfl⟩
      exact ⟨places, hne, hn, .inr rfl⟩
    · rintro ⟨places, hne, hn, htext | htext⟩
      · exact absurd (htext ▸ List.mem_cons_self) (plus_not_mem_written places)
      · exact ⟨places, hne, hn, (List.cons.inj htext).2⟩
  · next hplus =>
    rw [natural?_eq_some_iff_written]
    constructor
    · rintro ⟨places, hne, hn, rfl⟩
      exact ⟨places, hne, hn, .inl rfl⟩
    · rintro ⟨places, hne, hn, htext | htext⟩
      · exact ⟨places, hne, hn, htext⟩
      · exact absurd htext (hplus _)

/-- A sixteen-bit word is read from its numerals. -/
theorem word16?_eq_some_iff {text : List Char} {word : UInt16} :
    word16? text = some word ↔ Denotes text word.toNat := by
  rw [word16?, Option.bind_eq_some_iff]
  constructor
  · rintro ⟨n, hn, hword⟩
    split at hword
    · next hlt =>
      cases hword
      rw [UInt16.toNat_ofNat_of_lt' hlt]
      exact unsigned?_eq_some_iff.1 hn
    · cases hword
  · intro h
    exact ⟨word.toNat, unsigned?_eq_some_iff.2 h,
      by rw [if_pos word.toNat_lt, UInt16.ofNat_toNat]⟩

end Text.Numeral

/-! ### Words -/

namespace Text

/-- A text without the blanks around it: it neither begins nor ends with a blank, and there is
nothing else around it. -/
structure StripsTo (text word : List Char) : Prop where
  around : ∃ before after, text = before ++ word ++ after ∧ (∀ c ∈ before, isBlank c = true) ∧
    ∀ c ∈ after, isBlank c = true
  first : ∀ c ∈ word.head?, isBlank c = false
  last : ∀ c ∈ word.getLast?, isBlank c = false

private theorem dropWhile_blanks {before word : List Char}
    (hbefore : ∀ c ∈ before, isBlank c = true) (hword : ∀ c ∈ word.head?, isBlank c = false) :
    (before ++ word).dropWhile isBlank = word := by
  rw [List.dropWhile_append_of_pos hbefore]
  cases word with
  | nil => rfl
  | cons c rest =>
    have hc : ¬ isBlank c = true := by simp [hword c rfl]
    rw [List.dropWhile_cons_of_neg hc]

private theorem isBlank_head?_dropWhile (text : List Char) :
    ∀ c ∈ (text.dropWhile isBlank).head?, isBlank c = false := by
  intro c hc
  have h := List.head?_dropWhile_not isBlank text
  rw [Option.mem_def.1 hc] at h
  simpa using h

private theorem trim_prefix_dropWhile (text : List Char) :
    trim text <+: text.dropWhile isBlank := by
  have h := List.reverse_prefix.2 (List.dropWhile_suffix (l := (text.dropWhile isBlank).reverse)
    isBlank)
  rwa [List.reverse_reverse] at h

/-- A text is trimmed to what is left of it without the blanks around it. -/
theorem trim_eq_iff {text word : List Char} : trim text = word ↔ StripsTo text word := by
  constructor
  · rintro rfl
    refine ⟨exists_append_trim_append text, ?_, ?_⟩
    · intro c hc
      obtain ⟨rest, hrest⟩ := List.head?_eq_some_iff.1 hc
      obtain ⟨after, hafter⟩ := trim_prefix_dropWhile text
      refine isBlank_head?_dropWhile text c ?_
      rw [← hafter, hrest]
      rfl
    · intro c hc
      rw [trim, List.getLast?_reverse] at hc
      exact isBlank_head?_dropWhile _ c hc
  · rintro ⟨⟨before, after, rfl, hbefore, hafter⟩, hfirst, hlast⟩
    cases word with
    | nil =>
      have hall : ∀ c ∈ before ++ after, isBlank c = true := fun c hc =>
        (List.mem_append.1 hc).elim (hbefore c) (hafter c)
      have hnone : (before ++ after ++ []).dropWhile isBlank = [] :=
        dropWhile_blanks hall (by simp)
      rw [List.append_nil] at hnone
      rw [List.append_nil, trim, hnone]
      rfl
    | cons c rest =>
      have hback : ∀ c ∈ after.reverse, isBlank c = true := fun c hc =>
        hafter c (List.mem_reverse.1 hc)
      have hfront : (before ++ (c :: rest ++ after)).dropWhile isBlank = c :: rest ++ after :=
        dropWhile_blanks hbefore hfirst
      rw [← List.append_assoc] at hfront
      rw [trim, hfront, List.reverse_append, dropWhile_blanks hback (by rwa [List.head?_reverse]),
        List.reverse_reverse]

end Text

/-! ### Variables -/

namespace Environment

/-- A variable has a text as its value, in UTF-8. -/
def Holds (environment : Environment) (name : String) (text : List Char) : Prop :=
  environment name = some (String.ofList text).toUTF8

/-- A variable has a word as its value, with nothing but blanks around it. -/
def SaysWord (environment : Environment) (name word : String) : Prop :=
  ∃ text, environment.Holds name text ∧ Text.StripsTo text word.toList

/-- A variable has a numeral of a sixteen-bit number as its value that is not zero. -/
def SaysDepth (environment : Environment) (name : String) (n : Nat) : Prop :=
  ∃ text, environment.Holds name text ∧ Text.Numeral.Denotes text n ∧ 1 ≤ n ∧ n ≤ 65535

private theorem fromUTF8?_eq_some_iff {bytes : ByteArray} {text : String} :
    String.fromUTF8? bytes = some text ↔ bytes = text.toUTF8 := by
  rw [String.fromUTF8?]
  split
  · rw [Option.some.injEq]
    constructor
    · rintro rfl
      rfl
    · rintro rfl
      rfl
  · next hinvalid =>
    constructor
    · intro h
      cases h
    · rintro rfl
      exact absurd text.isValidUTF8 hinvalid

/-- The text of a variable is the one that its value is the UTF-8 of. -/
theorem text?_eq_some_iff {environment : Environment} {name : String} {text : List Char} :
    environment.text? name = some text ↔ environment.Holds name text := by
  simp only [text?, Holds, Option.bind_eq_some_iff, Option.map_eq_some_iff, fromUTF8?_eq_some_iff]
  constructor
  · rintro ⟨bytes, hbytes, found, rfl, rfl⟩
    rw [hbytes, String.ofList_toList]
  · intro hbytes
    exact ⟨_, hbytes, String.ofList text, rfl, String.toList_ofList⟩

private theorem getD_eq_iff_saysWord {α : Type} {parse : List Char → Option α} {value otherwise : α}
    {name word : String} (hparse : ∀ text, parse text = some value ↔ text = word.toList)
    (hne : otherwise ≠ value) (environment : Environment) :
    ((environment.text? name).bind fun text => parse (Text.trim text)).getD otherwise = value ↔
      environment.SaysWord name word := by
  simp only [Option.getD_eq_iff, hne, and_false, or_false, Option.bind_eq_some_iff, hparse,
    text?_eq_some_iff, Text.trim_eq_iff, SaysWord]

end Environment

namespace Settings

open Text.Numeral

private theorem toNat_cut (word : UInt16) :
    (if depthCeiling < word then depthCeiling else word).toNat = min word.toNat 256 := by
  have hceiling : depthCeiling.toNat = 256 := rfl
  split
  · next h =>
    rw [UInt16.lt_iff_toNat_lt, hceiling] at h
    omega
  · next h =>
    rw [UInt16.lt_iff_toNat_lt, hceiling] at h
    omega

/-- A depth is read from a numeral of a sixteen-bit number that is not zero, and cut down. -/
theorem depthOfText?_eq_some_iff {text : List Char} {depth : UInt16} :
    depthOfText? text = some depth ↔
      ∃ n, Denotes text n ∧ 1 ≤ n ∧ n ≤ 65535 ∧ depth.toNat = min n 256 := by
  rw [depthOfText?, Option.bind_eq_some_iff]
  constructor
  · rintro ⟨word, hword, hdepth⟩
    split at hdepth
    · cases hdepth
    · next hzero =>
      cases hdepth
      have hpos : word.toNat ≠ 0 := fun h => hzero (UInt16.toNat_inj.1 h)
      have hlt : word.toNat < 65536 := word.toNat_lt
      exact ⟨word.toNat, word16?_eq_some_iff.1 hword, by omega, by omega, toNat_cut word⟩
  · rintro ⟨n, hn, hpos, hle, hdepth⟩
    have hword : (UInt16.ofNat n).toNat = n := UInt16.toNat_ofNat_of_lt' (Nat.lt_succ_of_le hle)
    have hzero : UInt16.ofNat n ≠ 0 := by
      intro h
      rw [h] at hword
      change 0 = n at hword
      omega
    refine ⟨.ofNat n, word16?_eq_some_iff.2 (by rwa [hword]), ?_⟩
    rw [if_neg hzero, Option.some.injEq, ← UInt16.toNat_inj, toNat_cut, hword, hdepth]

private theorem exists_depth_iff {environment : Environment} {depth : UInt16} :
    (environment.text? depthVariable).bind depthOfText? = some depth ↔
      ∃ n, environment.SaysDepth depthVariable n ∧ depth.toNat = min n 256 := by
  simp only [Option.bind_eq_some_iff, Environment.text?_eq_some_iff, depthOfText?_eq_some_iff,
    Environment.SaysDepth]
  constructor
  · rintro ⟨text, htext, n, hn, hpos, hle, hdepth⟩
    exact ⟨n, ⟨text, htext, hn, hpos, hle⟩, hdepth⟩
  · rintro ⟨n, ⟨text, htext, hn, hpos, hle⟩, hdepth⟩
    exact ⟨text, htext, n, hn, hpos, hle, hdepth⟩

private theorem ofWord?_eq_substring_iff (word : List Char) :
    LookupMode.ofWord? word = some .substring ↔ word = "substring".toList := by
  unfold LookupMode.ofWord?
  split
  · next h => simp [h]
  · split <;> simp_all

private theorem ofWord?_eq_subclass_iff (word : List Char) :
    CatchMatching.ofWord? word = some .subclass ↔ word = "subclass".toList := by
  unfold CatchMatching.ofWord?
  split
  · next h => simp [h]
  · split <;> simp_all

/-- The construction depth is the one that its variable says, cut down to the ceiling, or else it is
sixteen. -/
theorem maxConstructionDepth_ofEnvironment_iff {environment : Environment} {depth : UInt16} :
    (ofEnvironment environment).maxConstructionDepth = depth ↔
      (∃ n, environment.SaysDepth depthVariable n ∧ depth.toNat = min n 256) ∨
        (¬ ∃ n, environment.SaysDepth depthVariable n) ∧ depth = 16 := by
  have hnone : (environment.text? depthVariable).bind depthOfText? = none ↔
      ¬ ∃ n, environment.SaysDepth depthVariable n := by
    rw [Option.eq_none_iff_forall_ne_some]
    constructor
    · rintro hall ⟨n, hn⟩
      have hcut : (UInt16.ofNat (min n 256)).toNat = min n 256 :=
        UInt16.toNat_ofNat_of_lt' (Nat.lt_of_le_of_lt (Nat.min_le_right n 256) (by decide))
      exact hall _ (exists_depth_iff.2 ⟨n, hn, hcut⟩)
    · intro hall depth hdepth
      obtain ⟨n, hn, -⟩ := exists_depth_iff.1 hdepth
      exact hall ⟨n, hn⟩
  change Option.getD _ (16 : UInt16) = depth ↔ _
  rw [Option.getD_eq_iff, exists_depth_iff, hnone, eq_comm (a := (16 : UInt16))]

/-- The construction depth is neither zero nor above the ceiling. -/
theorem maxConstructionDepth_ofEnvironment_bounds (environment : Environment) :
    1 ≤ (ofEnvironment environment).maxConstructionDepth ∧
      (ofEnvironment environment).maxConstructionDepth ≤ 256 := by
  simp only [ofEnvironment]
  cases hdepth : (environment.text? depthVariable).bind depthOfText? with
  | none => decide
  | some depth =>
    obtain ⟨text, -, htext⟩ := Option.bind_eq_some_iff.1 hdepth
    obtain ⟨hpos, hle⟩ := depthOfText?_bounds htext
    exact ⟨UInt16.lt_iff_toNat_lt.1 hpos, hle⟩

/-- The settings are exactly what the grammar of the variables gives a meaning to, for all values
that the variables may have. The construction depth is the number of the numeral in its variable,
cut down to 256, if there is such a numeral and its number is from 1 to 65535, and 16 otherwise, so
it is always from 1 to 256. The other two settings are not at their defaults exactly if their
variable says the one word for that, with or without blanks around it. And each setting depends on
its own variable only. -/
theorem ofEnvironment_reads (environment : Environment) :
    (∀ depth, (ofEnvironment environment).maxConstructionDepth = depth ↔
      (∃ n, environment.SaysDepth "KESTREL_MAX_CONSTRUCTION_DEPTH" n ∧ depth.toNat = min n 256) ∨
        (¬ ∃ n, environment.SaysDepth "KESTREL_MAX_CONSTRUCTION_DEPTH" n) ∧ depth = 16) ∧
    ((ofEnvironment environment).catalogLookup = .substring ↔
      environment.SaysWord "KESTREL_CATALOG_LOOKUP" "substring") ∧
    ((ofEnvironment environment).catalogLookup = .exact ↔
      ¬ environment.SaysWord "KESTREL_CATALOG_LOOKUP" "substring") ∧
    ((ofEnvironment environment).catchMatching = .subclass ↔
      environment.SaysWord "KESTREL_CATCH_MATCHING" "subclass") ∧
    ((ofEnvironment environment).catchMatching = .exact ↔
      ¬ environment.SaysWord "KESTREL_CATCH_MATCHING" "subclass") ∧
    1 ≤ (ofEnvironment environment).maxConstructionDepth ∧
    (ofEnvironment environment).maxConstructionDepth ≤ 256 ∧
    ∀ other : Environment,
      (other "KESTREL_MAX_CONSTRUCTION_DEPTH" = environment "KESTREL_MAX_CONSTRUCTION_DEPTH" →
        (ofEnvironment other).maxConstructionDepth =
          (ofEnvironment environment).maxConstructionDepth) ∧
      (other "KESTREL_CATALOG_LOOKUP" = environment "KESTREL_CATALOG_LOOKUP" →
        (ofEnvironment other).catalogLookup = (ofEnvironment environment).catalogLookup) ∧
      (other "KESTREL_CATCH_MATCHING" = environment "KESTREL_CATCH_MATCHING" →
        (ofEnvironment other).catchMatching = (ofEnvironment environment).catchMatching) := by
  have hlookup : (ofEnvironment environment).catalogLookup = .substring ↔
      environment.SaysWord "KESTREL_CATALOG_LOOKUP" "substring" :=
    Environment.getD_eq_iff_saysWord ofWord?_eq_substring_iff (by decide) environment
  have hmatching : (ofEnvironment environment).catchMatching = .subclass ↔
      environment.SaysWord "KESTREL_CATCH_MATCHING" "subclass" :=
    Environment.getD_eq_iff_saysWord ofWord?_eq_subclass_iff (by decide) environment
  obtain ⟨hpos, hle⟩ := maxConstructionDepth_ofEnvironment_bounds environment
  refine ⟨fun _ => maxConstructionDepth_ofEnvironment_iff, hlookup, ?_, hmatching, ?_, hpos, hle,
    ?_⟩
  · rw [← hlookup]
    cases (ofEnvironment environment).catalogLookup <;> decide
  · rw [← hmatching]
    cases (ofEnvironment environment).catchMatching <;> decide
  · intro other
    refine ⟨?_, ?_, ?_⟩ <;> intro hsame <;>
      simp only [ofEnvironment, Environment.text?, depthVariable, lookupVariable, matchingVariable,
        hsame]

/-- A depth with a sign, zeros before it and a number above the ceiling, a word with blanks on both
sides, and bytes that are no text. -/
def paddedEnvironment : Environment := fun name =>
  if name = "KESTREL_MAX_CONSTRUCTION_DEPTH" then some "+00300".toUTF8
  else if name = "KESTREL_CATALOG_LOOKUP" then some "\u2003substring\n".toUTF8
  else if name = "KESTREL_CATCH_MATCHING" then some ⟨#[0x73, 0xFF]⟩
  else none

/-- An environment in which only the depth is the same. -/
def depthEnvironment : Environment := fun name =>
  if name = "KESTREL_MAX_CONSTRUCTION_DEPTH" then some "+00300".toUTF8 else none

/-- The depth is cut down, in both environments, the word is read without the blanks, and the bytes
leave their setting alone. -/
theorem ofEnvironment_reads_of_padded :
    depthEnvironment "KESTREL_MAX_CONSTRUCTION_DEPTH" =
        paddedEnvironment "KESTREL_MAX_CONSTRUCTION_DEPTH" ∧
      (ofEnvironment paddedEnvironment).maxConstructionDepth = 256 ∧
      (ofEnvironment depthEnvironment).maxConstructionDepth = 256 ∧
      (ofEnvironment paddedEnvironment).catalogLookup = .substring ∧
      (ofEnvironment paddedEnvironment).catchMatching = .exact := by
  obtain ⟨hdepth, hlookup, -, -, hmatching, -, -, halone⟩ := ofEnvironment_reads paddedEnvironment
  have hsame : depthEnvironment "KESTREL_MAX_CONSTRUCTION_DEPTH" =
      paddedEnvironment "KESTREL_MAX_CONSTRUCTION_DEPTH" := rfl
  have hpadded : (ofEnvironment paddedEnvironment).maxConstructionDepth = 256 := by
    refine (hdepth 256).2 (.inl ⟨300, ⟨"+00300".toList, ?_, ?_, by decide, by decide⟩, rfl⟩)
    · rw [Environment.Holds, String.ofList_toList]
      rfl
    · exact ⟨[0, 0, 3, 0, 0], by decide, by decide, .inr (by decide)⟩
  refine ⟨hsame, hpadded, ((halone depthEnvironment).1 hsame).trans hpadded, hlookup.2 ?_,
    hmatching.2 ?_⟩
  · refine ⟨"\u2003substring\n".toList, ?_, ⟨⟨['\u2003'], ['\n'], ?_, ?_, ?_⟩, ?_, ?_⟩⟩
    · rw [Environment.Holds, String.ofList_toList]
      rfl
    · decide
    · exact List.forall_mem_singleton.2 (by decide)
    · exact List.forall_mem_singleton.2 (by decide)
    · have hfirst : "substring".toList.head? = some 's' := by decide
      rw [hfirst]
      rintro c ⟨⟩
      decide
    · have hlast : "substring".toList.getLast? = some 'g' := by decide
      rw [hlast]
      rintro c ⟨⟩
      decide
  · rintro ⟨text, htext, -⟩
    have hvalid : (⟨#[0x73, 0xFF]⟩ : ByteArray).IsValidUTF8 :=
      Option.some.inj htext ▸ (String.ofList text).isValidUTF8
    have hinvalid : (⟨#[0x73, 0xFF]⟩ : ByteArray).validateUTF8 = false := by decide +kernel
    rw [ByteArray.validateUTF8_eq_true_iff.2 hvalid] at hinvalid
    cases hinvalid

end Settings

end ExceptionDispatch
