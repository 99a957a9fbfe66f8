import ExceptionDispatch.Method.LineTable
import Mathlib.Data.List.Induction

/-!
# Ordered line tables

A line table is read from its first entry to its last, so of the entries that speak for an
instruction the last one decides. Where the start offsets are in order, the entries that speak for
an instruction come before all others, and the deciding one is found by a binary search, which looks
at few entries only. Main statement: `LineTable.lineAt_searched`.
-/

namespace ExceptionDispatch.LineTable

/-- The line of the last entry; the default line if there is no entry. -/
def lastLine (table : LineTable) : UInt16 := (table.getLast?.map LineEntry.line).getD defaultLine

/-- No entry starts at a smaller offset than one before it. -/
def Ordered (table : LineTable) : Prop :=
  table.Pairwise fun earlier later => earlier.startPc ≤ later.startPc

instance (table : LineTable) : Decidable table.Ordered :=
  inferInstanceAs (Decidable (List.Pairwise _ table))

/-- Search for the end of the entries that speak for an offset, between two positions. -/
def bisect (table : LineTable) (pc : UInt16) (low high : Nat) (hhigh : high ≤ table.length) : Nat :=
  if h : low < high then
    if table[(low + high) / 2].startPc < pc then bisect table pc ((low + high) / 2 + 1) high hhigh
    else bisect table pc low ((low + high) / 2) (by omega)
  else low
termination_by high - low

/-- The position up to which the entries of an ordered table speak for an offset. -/
def partitionPoint (table : LineTable) (pc : UInt16) : Nat :=
  bisect table pc 0 table.length (Nat.le_refl _)

/-! ### The last entry decides -/

private theorem lastLine_append_singleton (table : LineTable) (entry : LineEntry) :
    lastLine (table ++ [entry]) = entry.line := by
  simp [lastLine]

/-- The line is that of the last entry that speaks for the offset. -/
theorem lineAt_eq_lastLine_filter (table : LineTable) (pc : UInt16) :
    table.lineAt pc = lastLine (table.filter (·.startPc < pc)) := by
  induction table using List.reverseRecOn with
  | nil => rfl
  | append_singleton table entry ih =>
    rw [lineAt_append_singleton, List.filter_append, ih]
    split
    · next h =>
      rw [List.filter_cons_of_pos (by simpa using h), List.filter_nil, lastLine_append_singleton]
    · next h => rw [List.filter_cons_of_neg (by simpa using h), List.filter_nil, List.append_nil]

/-- No line is larger than all lines of the table and the default line. -/
theorem lineAt_le {table : LineTable} {bound : UInt16} (hdefault : defaultLine ≤ bound)
    (hlines : ∀ entry ∈ table, entry.line ≤ bound) (pc : UInt16) : table.lineAt pc ≤ bound := by
  induction table using List.reverseRecOn with
  | nil => exact hdefault
  | append_singleton table entry ih =>
    rw [lineAt_append_singleton]
    split
    · exact hlines entry (by simp)
    · exact ih fun other hother => hlines other (List.mem_append_left _ hother)

/-- Where lines increase along the table, from the default line on, they increase with the offset;
the start offsets need not be in order for that. -/
theorem lineAt_mono {table : LineTable}
    (hlines : table.Pairwise fun earlier later => earlier.line ≤ later.line)
    (hdefault : ∀ entry ∈ table, defaultLine ≤ entry.line) {pc later : UInt16}
    (h : pc ≤ later) : table.lineAt pc ≤ table.lineAt later := by
  induction table using List.reverseRecOn with
  | nil => exact UInt16.le_refl _
  | append_singleton table entry ih =>
    obtain ⟨hbefore, -, hlast⟩ := List.pairwise_append.1 hlines
    have hentry : defaultLine ≤ entry.line := hdefault entry (by simp)
    rw [lineAt_append_singleton, lineAt_append_singleton]
    split
    · next hpc =>
      rw [if_pos (UInt16.lt_of_lt_of_le hpc h)]
      exact UInt16.le_refl _
    · split
      · exact lineAt_le hentry (fun other hother => hlast other hother entry (by simp)) pc
      · exact ih hbefore fun other hother => hdefault other (List.mem_append_left _ hother)

/-! ### Searching -/

/-- The entries before one position speak for an offset, and those from another one on do not. -/
structure Narrows (table : LineTable) (pc : UInt16) (low high : Nat) : Prop where
  before : ∀ i (h : i < table.length), i < low → table[i].startPc < pc
  after : ∀ i (h : i < table.length), high ≤ i → pc ≤ table[i].startPc

variable {table : LineTable} {pc : UInt16}

private theorem Ordered.startPc_le (hordered : table.Ordered) {i j : Nat} (hij : i ≤ j)
    (hj : j < table.length) : table[i].startPc ≤ table[j].startPc := by
  obtain hlt | rfl := Nat.lt_or_eq_of_le hij
  · exact List.pairwise_iff_getElem.1 hordered i j (by omega) hj hlt
  · exact UInt16.le_refl _

private theorem bisect_narrows (hordered : table.Ordered) {low high : Nat}
    (hhigh : high ≤ table.length) (hle : low ≤ high) (h : table.Narrows pc low high) :
    bisect table pc low high hhigh ≤ table.length ∧
      table.Narrows pc (bisect table pc low high hhigh) (bisect table pc low high hhigh) := by
  fun_induction bisect table pc low high hhigh with
  | case1 low high hhigh hlt hspeaks ih =>
    refine ih (by omega) ⟨?_, h.after⟩
    intro i hi hmiddle
    exact UInt16.lt_of_le_of_lt (hordered.startPc_le (by omega) (by omega)) hspeaks
  | case2 low high hhigh hlt hspeaks ih =>
    refine ih (by omega) ⟨h.before, ?_⟩
    intro i hi hmiddle
    exact UInt16.le_trans (UInt16.not_lt.1 hspeaks) (hordered.startPc_le hmiddle hi)
  | case3 low high hhigh hnot =>
    obtain rfl : low = high := by omega
    exact ⟨hhigh, h⟩

/-- The partition point is where the entries that speak for the offset end. -/
theorem partitionPoint_narrows (hordered : table.Ordered) (pc : UInt16) :
    table.partitionPoint pc ≤ table.length ∧
      table.Narrows pc (table.partitionPoint pc) (table.partitionPoint pc) := by
  refine bisect_narrows hordered _ (Nat.zero_le _) ⟨?_, ?_⟩
  · intro i _ hi
    omega
  · intro i hlt hge
    omega

private theorem Narrows.filter_eq_take {position : Nat} (h : table.Narrows pc position position) :
    table.filter (·.startPc < pc) = table.take position := by
  have hbefore : (table.take position).filter (·.startPc < pc) = table.take position := by
    rw [List.filter_eq_self]
    intro entry hentry
    obtain ⟨i, hi, rfl⟩ := List.mem_take_iff_getElem.1 hentry
    exact decide_eq_true (h.before i (by omega) (by omega))
  have hafter : (table.drop position).filter (·.startPc < pc) = [] := by
    rw [List.filter_eq_nil_iff]
    intro entry hentry hspeaks
    obtain ⟨i, hi, rfl⟩ := List.mem_drop_iff_getElem.1 hentry
    exact UInt16.not_lt.2 (h.after (position + i) (by omega) (by omega)) (of_decide_eq_true hspeaks)
  calc table.filter (·.startPc < pc)
      = (table.take position ++ table.drop position).filter (·.startPc < pc) := by
        rw [List.take_append_drop]
    _ = table.take position := by rw [List.filter_append, hbefore, hafter, List.append_nil]

private theorem Ordered.narrows (hordered : table.Ordered) {i : Nat} (hi : i + 1 < table.length)
    (hstart : table[i].startPc < pc) (hnext : pc ≤ table[i + 1].startPc) :
    table.Narrows pc (i + 1) (i + 1) := by
  refine ⟨?_, ?_⟩
  · intro earlier hearlier hle
    exact UInt16.lt_of_le_of_lt (hordered.startPc_le (by omega) (by omega)) hstart
  · intro later hlater hge
    exact UInt16.le_trans hnext (hordered.startPc_le hge hlater)

/-- Reading a line table agrees with searching it. The line is that of the last entry, in the order
of the table, that starts before the offset, or the default line if there is none. If no entry
starts before the one above it, these entries are those before the partition point, so the line is
that of the entry just before it; between the starts of two neighbours the line is that of the first
one all along; and if no line is smaller than the one above it or than the default line, then the
line never falls as the offset grows. -/
theorem lineAt_searched (table : LineTable) :
    (∀ pc, table.lineAt pc = lastLine (table.filter (·.startPc < pc))) ∧
    (table.Ordered →
      (∀ pc, table.partitionPoint pc ≤ table.length ∧
        (∀ i (h : i < table.length), i < table.partitionPoint pc ↔ table[i].startPc < pc) ∧
        table.lineAt pc = lastLine (table.take (table.partitionPoint pc))) ∧
      (∀ i (h : i + 1 < table.length) pc, table[i].startPc < pc → pc ≤ table[i + 1].startPc →
        table.lineAt pc = table[i].line) ∧
      (table.Pairwise (fun earlier later => earlier.line ≤ later.line) →
        (∀ entry ∈ table, defaultLine ≤ entry.line) →
        ∀ pc later, pc ≤ later → table.lineAt pc ≤ table.lineAt later)) := by
  refine ⟨table.lineAt_eq_lastLine_filter, fun hordered => ⟨?_, ?_, ?_⟩⟩
  · intro pc
    obtain ⟨hle, hnarrows⟩ := partitionPoint_narrows hordered pc
    refine ⟨hle, fun i hi => ⟨hnarrows.before i hi, fun hspeaks => ?_⟩, ?_⟩
    · by_contra hge
      exact UInt16.not_lt.2 (hnarrows.after i hi (Nat.not_lt.1 hge)) hspeaks
    · rw [lineAt_eq_lastLine_filter, hnarrows.filter_eq_take]
  · intro i hi pc hstart hnext
    rw [lineAt_eq_lastLine_filter, (hordered.narrows hi hstart hnext).filter_eq_take,
      List.take_add_one, List.getElem?_eq_getElem (by omega), Option.toList_some,
      lastLine_append_singleton]
  · exact fun hlines hdefault pc later => lineAt_mono hlines hdefault

/-- A table with two entries at the same offset, of which the last one decides, and with entries at
both ends of the range of offsets. -/
def boundaryTable : LineTable := [⟨0, 3⟩, ⟨4, 5⟩, ⟨4, 6⟩, ⟨65534, 8⟩, ⟨65535, 9⟩]

/-- The second of the two entries is found, at its last offset too; nothing is found for the first
offset, and the last entry for none. -/
theorem lineAt_searched_of_boundaries :
    boundaryTable.Ordered ∧ boundaryTable.lineAt 5 = 6 ∧ boundaryTable.lineAt 65534 = 6 ∧
      boundaryTable.partitionPoint 0 = 0 ∧ boundaryTable.lineAt 0 = defaultLine ∧
      boundaryTable.partitionPoint 65535 = 4 ∧ boundaryTable.lineAt 65535 = 8 ∧
      boundaryTable.lineAt 4 ≤ boundaryTable.lineAt 5 := by
  have hordered : boundaryTable.Ordered := by decide
  obtain ⟨-, hsearch⟩ := lineAt_searched boundaryTable
  obtain ⟨hpoint, hbetween, hmono⟩ := hsearch hordered
  have hfirst : boundaryTable.partitionPoint 0 = 0 := by decide +kernel
  have hlast : boundaryTable.partitionPoint 65535 = 4 := by decide +kernel
  have hline (pc : UInt16) := (hpoint pc).2.2
  refine ⟨hordered, hbetween 2 (by decide) 5 (by decide) (by decide),
    hbetween 2 (by decide) 65534 (by decide) (by decide), hfirst, ?_, hlast, ?_,
    hmono (by decide) (by decide) 4 5 (by decide)⟩
  · rw [hline, hfirst]
    rfl
  · rw [hline, hlast]
    rfl

end ExceptionDispatch.LineTable
