import ExceptionDispatch.Proofs.Course.Operation

/-!
# The nesting of guest code

An initializer is run once, and a constructor raises the construction depth below its limit, so the
two together bound how deep guest code can be nested. An operation that starts with that bound never
comes to its end. Main statement: `Operation.run_ne_nestingExceeded`.
-/

namespace ExceptionDispatch

namespace Execution

private theorem Keeps.nestingBound_le {start finish : Execution} (h : start.Keeps finish) :
    finish.nestingBound ≤ start.nestingBound := by
  have hlength := h.initializers.length_le
  rw [nestingBound, nestingBound, h.settings, h.depth]
  omega

private theorem nestingBound_takeInitializer {start : Execution} {machine : Machine} {name : String}
    {code : GuestCode} (h : start.machine.takeInitializer? name = some (code, machine)) :
    ({ start with machine } : Execution).nestingBound + 1 ≤ start.nestingBound := by
  obtain ⟨rule, hfind, -, rfl⟩ := Machine.eq_of_takeInitializer? h
  have hmem : rule ∈ start.machine.initializers := List.mem_of_find?_eq_some hfind
  have hlength := List.length_eraseP_of_mem hmem (List.find?_some hfind)
  have hpos := List.length_pos_of_mem hmem
  simp only [nestingBound, hlength]
  omega

/-- Below the limit the depth goes up by one. -/
theorem toNat_depth_beginConstruction {start : Execution}
    (hdepth : start.thread.constructionDepth < start.machine.settings.maxConstructionDepth)
    (kind : Builtin) (id : ClassId) (descriptor : ClassDescriptor) :
    (start.beginConstruction kind id descriptor).thread.constructionDepth.toNat =
      start.thread.constructionDepth.toNat + 1 := by
  have hlt := UInt16.lt_iff_toNat_lt.1 hdepth
  have hsize := start.machine.settings.maxConstructionDepth.toNat_lt
  simp only [thread_beginConstruction, UInt16.toNat_add, UInt16.toNat_one]
  omega

private theorem nestingBound_beginConstruction {start : Execution}
    (hdepth : start.thread.constructionDepth < start.machine.settings.maxConstructionDepth)
    (kind : Builtin) (id : ClassId) (descriptor : ClassDescriptor) :
    (start.beginConstruction kind id descriptor).nestingBound + 1 ≤ start.nestingBound := by
  have hlt := UInt16.lt_iff_toNat_lt.1 hdepth
  rw [nestingBound, nestingBound, toNat_depth_beginConstruction hdepth, settings_beginConstruction,
    initializers_beginConstruction]
  omega

end Execution

/-- Guest code halts only with what it did. -/
theorem GuestEnds.eq_halted {base : Nat} {acted finish : Execution} {inner exit : Exit}
    {halt : Halt} (h : GuestEnds base acted inner exit finish) (hexit : exit = .halted halt) :
    inner = .halted halt := by
  cases h with
  | halted halt => exact hexit
  | returned | caught | unwound => cases hexit

/-- A course with room enough for nesting is never without. -/
theorem Course.ne_nestingExceeded {bound raises : Nat} {object? : Option ObjectRef}
    {start finish : Execution} {exit : Exit}
    (h : Course bound object? raises start exit finish) (hbound : start.nestingBound ≤ bound) :
    exit ≠ .halted (.fault .nestingExceeded) := by
  -- Each rule that goes one deeper takes an initializer away or raises the construction depth.
  induction h with
  | refl | load | message | construct | caught => exact Exit.noConfusion
  | trans hfirst _ _ ihsecond =>
    exact ihsecond (Nat.le_trans hfirst.keeps.nestingBound_le hbound)
  | record _ _ _ _ _ ih => exact ih hbound
  | initializer _ htake _ _ hends ih =>
    intro hexit
    have htaken := Execution.nestingBound_takeInitializer htake
    exact ih (Nat.le_of_succ_le_succ (Nat.le_trans htaken hbound)) (hends.eq_halted hexit)
  | initializerTooDeep _ htake =>
    have htaken := Execution.nestingBound_takeInitializer htake
    exact absurd (Nat.le_trans htaken hbound) (Nat.not_succ_le_zero _)
  | @constructor _ _ _ _ _ kind id descriptor _ _ _ _ _ hdepth _ _ htake _ _ hends ih =>
    intro hexit
    have hbegun := Execution.nestingBound_beginConstruction hdepth kind id descriptor
    have hentered := (Execution.keeps_enterConstructor htake).nestingBound_le
    exact ih (Nat.le_trans hentered (by omega)) (hends.eq_halted hexit)
  | @constructorTooDeep _ _ _ kind id descriptor _ _ hdepth =>
    have hbegun := Execution.nestingBound_beginConstruction hdepth kind id descriptor
    omega
  | popped _ _ _ _ ih =>
    intro hexit
    exact ih hbound (Exit.addPopped_eq_halted_iff.1 hexit)
  | uncaught | bootstrap | constructionDepth => exact fun hexit => by cases hexit
  | fault start hfault =>
    intro hexit
    cases hexit
    exact hfault

/-- The guest code of an operation is never nested too deep. -/
theorem Operation.run_ne_nestingExceeded {operation : Operation} {start after : Execution}
    {halt : Halt} (h : operation.run start = .error halt after) :
    halt ≠ .fault .nestingExceeded := by
  have hcourse := operation.run_follows start
  rw [h] at hcourse
  have hexit := hcourse.ne_nestingExceeded (Nat.le_refl _)
  exact fun hhalt => hexit (congrArg Exit.halted hhalt)

end ExceptionDispatch
