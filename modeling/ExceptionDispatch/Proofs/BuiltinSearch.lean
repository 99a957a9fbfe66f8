import ExceptionDispatch.Machine.Basic
import Mathlib.Data.List.Nodup

/-!
# Searching for built-in exceptions

A text is looked up in the list of names from its first one on, and what is found is a position in
that list. Positions and identifiers are the same, so the answer is the smallest identifier whose
name the text matches, and it stands for an exception again. No name occurs inside an earlier one,
so a name is found as itself also where texts are searched for inside names. Main statement:
`Builtin.identifierFor?_least`.
-/

namespace ExceptionDispatch.Builtin

/-! ### Identifiers -/

/-- An identifier stands for the exception that has it and for no other one. -/
theorem ofIdentifier?_eq_some_iff {identifier : UInt8} {kind : Builtin} :
    ofIdentifier? identifier = some kind ↔ kind.identifier = identifier := by
  constructor
  · intro h
    have hdense : ∀ i : Fin all.length, (all[i]).identifier.toNat = i := by decide
    obtain ⟨hlt, rfl⟩ := List.getElem?_eq_some_iff.1 h
    exact UInt8.toNat_inj.1 (hdense ⟨identifier.toNat, hlt⟩)
  · rintro rfl
    exact ofIdentifier?_identifier kind

private theorem nameOf?_eq_getElem? (identifier : UInt8) :
    nameOf? identifier = names[identifier.toNat]? := by
  rw [nameOf?, ofIdentifier?, names_eq_map, List.getElem?_map]

/-- No two identifiers have the same name. -/
theorem nameOf?_inj {identifier other : UInt8} {name : String}
    (h : nameOf? identifier = some name) (hother : nameOf? other = some name) :
    identifier = other := by
  have hnodup : names.Nodup := by decide
  rw [nameOf?_eq_getElem?] at h hother
  obtain ⟨hlt, hname⟩ := List.getElem?_eq_some_iff.1 h
  obtain ⟨hlt', hname'⟩ := List.getElem?_eq_some_iff.1 hother
  exact UInt8.toNat_inj.1 ((hnodup.getElem_inj_iff).1 (hname.trans hname'.symm))

private theorem pairwise_not_contains : names.Pairwise fun earlier later =>
    Text.contains later.toList earlier.toList = false := by decide +kernel

private theorem not_isInfix_of_lt {identifier smaller : UInt8} {name earlier : String}
    (hlt : smaller < identifier) (hname : nameOf? identifier = some name)
    (hearlier : nameOf? smaller = some earlier) : ¬ name.toList <:+: earlier.toList := by
  rw [← Text.contains_iff, Bool.not_eq_true]
  rw [nameOf?_eq_getElem?] at hname hearlier
  obtain ⟨hi, rfl⟩ := List.getElem?_eq_some_iff.1 hname
  obtain ⟨hj, rfl⟩ := List.getElem?_eq_some_iff.1 hearlier
  exact List.pairwise_iff_getElem.1 pairwise_not_contains smaller.toNat identifier.toNat hj hi
    (UInt8.lt_iff_toNat_lt.1 hlt)

/-! ### Searching -/

variable {mode : LookupMode} {text : String} {identifier : UInt8}

/-- The search answers the smallest identifier whose name the text matches. -/
theorem identifierFor?_eq_some_iff :
    identifierFor? mode text = some identifier ↔
      (∃ name, nameOf? identifier = some name ∧ mode.accepts text name = true) ∧
        ∀ smaller < identifier, ∀ name, nameOf? smaller = some name →
          mode.accepts text name = false := by
  have hlength : names.length ≤ UInt8.size := by decide
  rw [identifierFor?, Option.map_eq_some_iff]
  constructor
  · rintro ⟨position, hposition, rfl⟩
    obtain ⟨hlt, haccepts, hbefore⟩ := List.findIdx?_eq_some_iff_getElem.1 hposition
    have hword : (UInt8.ofNat position).toNat = position :=
      UInt8.toNat_ofNat_of_lt' (Nat.lt_of_lt_of_le hlt hlength)
    refine ⟨⟨names[position], ?_, haccepts⟩, ?_⟩
    · rw [nameOf?_eq_getElem?, hword, List.getElem?_eq_getElem hlt]
    · intro smaller hsmaller name hname
      rw [nameOf?_eq_getElem?] at hname
      obtain ⟨_, rfl⟩ := List.getElem?_eq_some_iff.1 hname
      rw [UInt8.lt_iff_toNat_lt, hword] at hsmaller
      simpa using hbefore smaller.toNat hsmaller
  · rintro ⟨⟨name, hname, haccepts⟩, hbefore⟩
    rw [nameOf?_eq_getElem?] at hname
    obtain ⟨hlt, rfl⟩ := List.getElem?_eq_some_iff.1 hname
    refine ⟨identifier.toNat, List.findIdx?_eq_some_iff_getElem.2 ⟨hlt, haccepts, ?_⟩,
      UInt8.ofNat_toNat⟩
    intro position hposition
    have hword : (UInt8.ofNat position).toNat = position :=
      UInt8.toNat_ofNat_of_lt' (by omega)
    rw [Bool.not_eq_true]
    refine hbefore (.ofNat position) ?_ _ ?_
    · rwa [UInt8.lt_iff_toNat_lt, hword]
    · rw [nameOf?_eq_getElem?, hword, List.getElem?_eq_getElem (by omega)]

private theorem exists_identifierFor?_le {name : String} (hname : nameOf? identifier = some name)
    (haccepts : mode.accepts text name = true) :
    ∃ found ≤ identifier, identifierFor? mode text = some found := by
  cases hfound : identifierFor? mode text with
  | none =>
    rw [identifierFor?, Option.map_eq_none_iff, List.findIdx?_eq_none_iff] at hfound
    rw [nameOf?_eq_getElem?] at hname
    have hrejects := hfound name (List.mem_of_getElem? hname)
    rw [haccepts] at hrejects
    cases hrejects
  | some found =>
    obtain ⟨-, hbefore⟩ := identifierFor?_eq_some_iff.1 hfound
    refine ⟨found, UInt8.not_lt.1 fun hlt => ?_, rfl⟩
    have hrejects := hbefore identifier hlt name hname
    rw [haccepts] at hrejects
    cases hrejects

private theorem named?_eq_some_iff_identifierFor? {kind : Builtin} :
    named? mode text = some kind ↔ identifierFor? mode text = some kind.identifier := by
  rw [named?, Option.bind_eq_some_iff]
  constructor
  · rintro ⟨identifier, hfound, hkind⟩
    rw [hfound, ofIdentifier?_eq_some_iff.1 hkind]
  · intro hfound
    exact ⟨kind.identifier, hfound, ofIdentifier?_identifier kind⟩

private theorem map_identifier_named? : (named? mode text).map Builtin.identifier =
    identifierFor? mode text := by
  rw [named?]
  cases hfound : identifierFor? mode text with
  | none => rfl
  | some identifier =>
    obtain ⟨⟨name, hname, -⟩, -⟩ := identifierFor?_eq_some_iff.1 hfound
    obtain ⟨kind, hkind, -⟩ := Option.map_eq_some_iff.1 hname
    rw [Option.bind_some, hkind, Option.map_some, ofIdentifier?_eq_some_iff.1 hkind]

/-- A text is found as a name exactly if it is one. -/
theorem identifierFor?_exact_iff :
    identifierFor? .exact text = some identifier ↔ nameOf? identifier = some text := by
  rw [identifierFor?_eq_some_iff]
  constructor
  · rintro ⟨⟨name, hname, haccepts⟩, -⟩
    rwa [eq_of_beq haccepts]
  · intro hname
    refine ⟨⟨text, hname, beq_self_eq_true text⟩, ?_⟩
    intro smaller hlt name hsmaller
    rw [LookupMode.accepts, beq_eq_false_iff_ne]
    rintro rfl
    exact UInt8.ne_of_lt hlt (nameOf?_inj hsmaller hname)

/-- A text is found inside names in the first one that it occurs in. -/
theorem identifierFor?_substring_iff :
    identifierFor? .substring text = some identifier ↔
      (∃ name, nameOf? identifier = some name ∧ text.toList <:+: name.toList) ∧
        ∀ smaller < identifier, ∀ name, nameOf? smaller = some name →
          ¬ text.toList <:+: name.toList := by
  simp only [identifierFor?_eq_some_iff, LookupMode.accepts, Text.contains_iff,
    ← Bool.not_eq_true]

/-- The search answers the smallest identifier that matches, and the two modes and the list of
exceptions agree on it. A text is found as a name exactly if it is the name of the identifier, and
inside names exactly if it occurs in the name of the identifier and in that of no smaller one. What
is found as a name is found inside names as the same identifier. A part of a text that is found
inside names is found there too, with an identifier that is no larger. And the exception that a
machine finds in its own mode is the one that has the identifier found, of which there always is
one. -/
theorem identifierFor?_least :
    (∀ text identifier, identifierFor? .exact text = some identifier ↔
      nameOf? identifier = some text) ∧
    (∀ text identifier, identifierFor? .substring text = some identifier ↔
      (∃ name, nameOf? identifier = some name ∧ text.toList <:+: name.toList) ∧
        ∀ smaller < identifier, ∀ name, nameOf? smaller = some name →
          ¬ text.toList <:+: name.toList) ∧
    (∀ text identifier, identifierFor? .exact text = some identifier →
      identifierFor? .substring text = some identifier) ∧
    (∀ (part text : String) identifier, part.toList <:+: text.toList →
      identifierFor? .substring text = some identifier →
      ∃ found ≤ identifier, identifierFor? .substring part = some found) ∧
    ∀ (machine : Machine) text,
      (∀ kind, machine.builtinNamed? text = some kind ↔
        identifierFor? machine.settings.catalogLookup text = some kind.identifier) ∧
      (machine.builtinNamed? text).map Builtin.identifier =
        identifierFor? machine.settings.catalogLookup text := by
  refine ⟨fun _ _ => identifierFor?_exact_iff, fun _ _ => identifierFor?_substring_iff, ?_, ?_, ?_⟩
  · intro text identifier hfound
    rw [identifierFor?_exact_iff] at hfound
    rw [identifierFor?_substring_iff]
    exact ⟨⟨text, hfound, List.infix_rfl⟩, fun smaller hlt name => not_isInfix_of_lt hlt hfound⟩
  · intro part text identifier hpart hfound
    obtain ⟨⟨name, hname, hoccurs⟩, -⟩ := identifierFor?_substring_iff.1 hfound
    exact exists_identifierFor?_le hname (Text.contains_iff.2 (hpart.trans hoccurs))
  · exact fun machine text => ⟨fun _ => named?_eq_some_iff_identifierFor?, map_identifier_named?⟩

/-- A part of a name is found in an earlier name, and a whole name as itself in both modes. -/
theorem identifierFor?_least_of_part :
    "Exception".toList <:+: "IndexOutOfBoundsException".toList ∧
      identifierFor? .substring "IndexOutOfBoundsException" = some 1 ∧
      (∃ found ≤ 1, identifierFor? .substring "Exception" = some found) ∧
      ({ settings := { catalogLookup := .substring } } : Machine).builtinNamed? "Exception" =
        some .nullPointer ∧
      identifierFor? .exact "java/lang/ArithmeticException" = some 7 ∧
      identifierFor? .substring "java/lang/ArithmeticException" = some 7 := by
  obtain ⟨hexact, -, hboth, hparts, hmachine⟩ := identifierFor?_least
  have hpart : "Exception".toList <:+: "IndexOutOfBoundsException".toList :=
    Text.contains_iff.1 (by decide)
  have htext : identifierFor? .substring "IndexOutOfBoundsException" = some 1 := by decide
  have hname : identifierFor? .exact "java/lang/ArithmeticException" = some 7 :=
    (hexact _ 7).2 (by decide)
  refine ⟨hpart, htext, hparts _ _ 1 hpart htext, ?_, hname, hboth _ 7 hname⟩
  rw [(hmachine _ _).1]
  decide

end ExceptionDispatch.Builtin
