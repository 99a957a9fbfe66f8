/-!
# Contiguous parts of a text

Whether one text occurs inside another as a contiguous part. Main statement: the test agrees with
the library's relation on lists (`contains_iff`).
-/

namespace ExceptionDispatch.Text

/-- Whether `part` occurs in the text as a contiguous part; the empty text occurs everywhere. -/
def contains (part : List Char) : List Char → Bool
  | [] => part.isEmpty
  | c :: rest => part.isPrefixOf (c :: rest) || contains part rest

/-- The test agrees with being a contiguous part. -/
theorem contains_iff {part text : List Char} : contains part text = true ↔ part <:+: text := by
  induction text with
  | nil => simp [contains]
  | cons c rest ih =>
    rw [contains, Bool.or_eq_true, ih, List.isPrefixOf_iff_prefix, List.infix_cons_iff]

end ExceptionDispatch.Text
